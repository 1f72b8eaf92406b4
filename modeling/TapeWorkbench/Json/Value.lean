/-!
# JSON values

Numbers are kept as they are written, so that none is rounded and a type that
wants a natural number can look at its digits.
-/

namespace TapeWorkbench
namespace Json

/-- A JSON value.  A string, or the name of a member, has no text if it was written
with an escape for half of a surrogate pair. -/
inductive Value where
  | null
  | bool (value : Bool)
  | number (literal : List Char)
  | string (text : Option String)
  | array (elements : List Value)
  | object (members : List (Option String × Value))
  deriving Repr

namespace Value

def ofText (text : String) : Value :=
  .string (some text)

/-- An object from names and values, in their order. -/
def ofMembers (members : List (String × Value)) : Value :=
  .object (members.map fun (name, value) => (some name, value))

end Value
end Json
end TapeWorkbench
