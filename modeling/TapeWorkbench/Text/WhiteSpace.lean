/-!
# White space

The characters with the Unicode property `White_Space`, and trimming by them.
-/

namespace TapeWorkbench
namespace WhiteSpace

/-- The code points with the property, as ranges with both ends included. -/
def ranges : List (Nat × Nat) :=
  [(0x09, 0x0D), (0x20, 0x20), (0x85, 0x85), (0xA0, 0xA0), (0x1680, 0x1680),
    (0x2000, 0x200A), (0x2028, 0x2029), (0x202F, 0x202F), (0x205F, 0x205F), (0x3000, 0x3000)]

/-- Does the character have the property? -/
def isWhiteSpace (c : Char) : Bool :=
  ranges.any fun (first, last) => first ≤ c.toNat && c.toNat ≤ last

def trimEnd (text : List Char) : List Char :=
  (text.reverse.dropWhile isWhiteSpace).reverse

def trim (text : List Char) : List Char :=
  trimEnd (text.dropWhile isWhiteSpace)

end WhiteSpace
end TapeWorkbench
