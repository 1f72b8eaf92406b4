import TapeWorkbench.JsonForm
import TapeWorkbench.Proofs.Layout
import TapeWorkbench.Proofs.Numeral

/-!
# Arithmetic in fixed widths

On a machine numbers have a width, and cells are found by their index.  The operations here
give nothing where the result would not fit, where a difference would be negative, where a
quotient has no divisor, or where there is no cell.  The functions that lay out and decode the
sections of a tape are written down once more with these operations, as they are carried out
step by step, and shown to have the result that is wanted: so nothing on the way goes wrong.

Layouts walk the cells by their index and count storage sections down from their number
(`layoutChecked_eq`).  Decoding doubles a row of decimal digits in bytes, once for every cell
(`decodeChecked_eq`).
-/

namespace TapeWorkbench
namespace Checked

/-- The sum of two numbers, below a bound. -/
def plus (bound first second : Nat) : Option Nat :=
  if first + second < bound then some (first + second) else none

/-- The product of two numbers, below a bound. -/
def times (bound first second : Nat) : Option Nat :=
  if first * second < bound then some (first * second) else none

/-- The difference of two numbers, if it is not negative. -/
def minus (first second : Nat) : Option Nat :=
  if second ≤ first then some (first - second) else none

def quotient (dividend divisor : Nat) : Option Nat :=
  if divisor = 0 then none else some (dividend / divisor)

/-- The bound of bytes. -/
def byteBound : Nat := 256

/-- The bound of signed numbers with as many bits as a size, in both directions. -/
def signedBound : Int := 9223372036854775808

/-- A size as a signed number. -/
def signed (size : Nat) : Option Int :=
  if (size : Int) < signedBound then some size else none

/-- The sum of two signed numbers. -/
def signedPlus (first second : Int) : Option Int :=
  if -signedBound ≤ first + second ∧ first + second < signedBound then some (first + second)
  else none

/-- Write a symbol into a cell of a tape. -/
def write (tape : Tape) (index : Nat) (symbol : Symbol) : Option Tape :=
  if index < tape.size then some (tape.setIfInBounds index symbol) else none

theorem plus_eq {bound first second : Nat} (small : first + second < bound) :
    plus bound first second = some (first + second) :=
  if_pos small

theorem times_eq {bound first second : Nat} (small : first * second < bound) :
    times bound first second = some (first * second) :=
  if_pos small

theorem minus_eq {first second : Nat} (le : second ≤ first) :
    minus first second = some (first - second) :=
  if_pos le

theorem quotient_eq {dividend divisor : Nat} (positive : 0 < divisor) :
    quotient dividend divisor = some (dividend / divisor) :=
  if_neg (Nat.ne_of_gt positive)

end Checked

open JsonForm (sizeBound)

namespace TapeSection

/-! ## Decoding -/

/-- The decimal digits of a number, the least significant first. -/
def digitsUpward (number : Nat) : List Nat :=
  (Decimal.digits number).reverse.map Decimal.digitValue

theorem digitsUpward_of_lt_ten {number : Nat} (small : number < 10) :
    digitsUpward number = [number] := by
  simp [digitsUpward, Decimal.digits_of_lt_ten small, Decimal.digitValue_digitChar small]

theorem digitsUpward_of_ten_le {number : Nat} (large : 10 ≤ number) :
    digitsUpward number = number % 10 :: digitsUpward (number / 10) := by
  have digit := Decimal.digitValue_digitChar (Nat.mod_lt number (by omega : 10 > 0))
  simp [digitsUpward, Decimal.digits_of_ten_le large, digit]

/-- Double a row of decimal digits, the least significant first, and add what is carried into
it.  What is carried out of it becomes a digit of its own, unless it is zero. -/
def doubleChecked (carry : Nat) : List Nat → Option (List Nat)
  | [] => some (if 0 < carry then [carry] else [])
  | digit :: digits => do
    let twice ← Checked.times Checked.byteBound digit 2
    let doubled ← Checked.plus Checked.byteBound twice carry
    let others ← doubleChecked (doubled / 10) digits
    return doubled % 10 :: others

/-- The character of a decimal digit. -/
def digitCharChecked (digit : Nat) : Option Char :=
  (Checked.plus Checked.byteBound 48 digit).map Char.ofNat

/-- Decode cells digit by digit: for each of them the number so far is doubled, and the cell is
what is carried into it. -/
def decodeChecked (cells : List Symbol) : Option String :=
  if cells.isEmpty || cells.any fun cell => cell != Symbol.zero && cell != Symbol.one then
    some undecodable
  else do
    let digits ← cells.foldlM (fun digits cell => doubleChecked cell digits) [0]
    let characters ← digits.reverse.mapM digitCharChecked
    return String.ofList characters

/-- A digit that is doubled stays in a byte. -/
theorem doubleChecked_cons {digit carry : Nat} (small : digit < 10) (bit : carry ≤ 1)
    (digits : List Nat) :
    doubleChecked carry (digit :: digits) =
      (doubleChecked ((digit * 2 + carry) / 10) digits).map
        ((digit * 2 + carry) % 10 :: ·) := by
  have twice : digit * 2 < Checked.byteBound := by
    simp only [Checked.byteBound]
    omega
  have doubled : digit * 2 + carry < Checked.byteBound := by
    simp only [Checked.byteBound]
    omega
  simp only [doubleChecked, Checked.times_eq twice, Checked.plus_eq doubled, Option.bind_eq_bind,
    Option.bind_some]
  cases doubleChecked ((digit * 2 + carry) / 10) digits <;> rfl

/-- Doubling the digits of a number gives those of twice the number and what is carried in. -/
theorem doubleChecked_digitsUpward (number : Nat) {carry : Nat} (bit : carry ≤ 1) :
    doubleChecked carry (digitsUpward number) = some (digitsUpward (2 * number + carry)) := by
  induction number using Nat.strongRecOn generalizing carry with
  | ind number ih =>
      rcases Nat.lt_or_ge number 10 with small | large
      · rw [digitsUpward_of_lt_ten small, doubleChecked_cons small bit, doubleChecked,
          Option.map_some, Nat.mul_comm number]
        rcases Nat.lt_or_ge (2 * number + carry) 10 with single | two
        · rw [digitsUpward_of_lt_ten single, if_neg (by omega), Nat.mod_eq_of_lt single]
        · rw [digitsUpward_of_ten_le two, if_pos (by omega),
            digitsUpward_of_lt_ten (by omega : (2 * number + carry) / 10 < 10)]
      · have digit : number % 10 < 10 := Nat.mod_lt _ (by omega)
        have carried : (number % 10 * 2 + carry) / 10 ≤ 1 := by omega
        have last : (number % 10 * 2 + carry) % 10 = (2 * number + carry) % 10 := by omega
        have others :
            2 * (number / 10) + (number % 10 * 2 + carry) / 10 = (2 * number + carry) / 10 := by
          omega
        rw [digitsUpward_of_ten_le large, doubleChecked_cons digit bit,
          ih (number / 10) (by omega) carried, Option.map_some, last, others,
          ← digitsUpward_of_ten_le (by omega)]

theorem foldlM_doubleChecked (number : Nat) {cells : List Symbol}
    (binary : ∀ cell ∈ cells, cell ≤ 1) :
    cells.foldlM (fun digits cell => doubleChecked cell digits) (digitsUpward number) =
      some (digitsUpward (cells.foldl (fun total digit => 2 * total + digit) number)) := by
  induction cells generalizing number with
  | nil => rfl
  | cons cell cells ih =>
      rw [List.forall_mem_cons] at binary
      rw [List.foldlM_cons, doubleChecked_digitsUpward number binary.1, Option.bind_eq_bind,
        Option.bind_some, ih _ binary.2, List.foldl_cons]

theorem digitCharChecked_digitValue {c : Char} (digit : Decimal.isDigit c = true) :
    digitCharChecked (Decimal.digitValue c) = some c := by
  have value := Decimal.digitValue_lt_ten digit
  have small : 48 + Decimal.digitValue c < Checked.byteBound := by
    simp only [Checked.byteBound]
    omega
  rw [digitCharChecked, Checked.plus_eq small, Option.map_some]
  exact congrArg some (Decimal.digitChar_digitValue digit)

theorem mapM_digitCharChecked (number : Nat) :
    (digitsUpward number).reverse.mapM digitCharChecked = some (Decimal.digits number) := by
  have digits := fun c => @Decimal.isDigit_of_mem_digits number c
  rw [digitsUpward, ← List.map_reverse, List.reverse_reverse]
  generalize Decimal.digits number = characters at digits
  induction characters with
  | nil => rfl
  | cons c rest ih =>
      rw [List.forall_mem_cons] at digits
      rw [List.map_cons, List.mapM_cons, digitCharChecked_digitValue digits.1, ih digits.2]
      rfl

/-- Decoding cells digit by digit gives the numeral of the number that they write, without
anything going beyond a byte. -/
theorem decodeChecked_eq (cells : List Symbol) : decodeChecked cells = some (decode cells) := by
  have foreign : (cells.any fun cell => cell != Symbol.zero && cell != Symbol.one) =
      !cells.all fun cell => cell == Symbol.zero || cell == Symbol.one := by
    simp only [List.not_all_eq_any_not, Bool.not_or]
    rfl
  unfold decodeChecked decode
  rw [foreign]
  cases cells.isEmpty with
  | true => rfl
  | false =>
      cases binary : cells.all fun cell => cell == Symbol.zero || cell == Symbol.one with
      | false => rfl
      | true =>
          have bits : ∀ cell ∈ cells, cell ≤ 1 := by
            intro cell member
            have bit := List.all_eq_true.mp binary cell member
            rw [Bool.or_eq_true, beq_iff_eq, beq_iff_eq] at bit
            exact Nat.le_one_iff_eq_zero_or_eq_one.mpr bit
          have start : [0] = digitsUpward 0 := (digitsUpward_of_lt_ten (by omega)).symm
          simp only [start, foldlM_doubleChecked 0 bits, Option.bind_eq_bind, Option.bind_some,
            mapM_digitCharChecked]
          rfl

/-- The decoded value of a section's range on a tape. -/
def decodeOnChecked (tape : Tape) (tapeSection : TapeSection) : Option String :=
  if tapeSection.first ≤ tapeSection.last && tapeSection.last < tape.size then
    decodeChecked (tape.extract tapeSection.first (tapeSection.last + 1)).toList
  else some undecodable

def updateAllChecked (sections : List TapeSection) (tape : Tape) : Option (List TapeSection) :=
  sections.mapM fun tapeSection => do
    let value ← tapeSection.decodeOnChecked tape
    return { tapeSection with value }

theorem decodeOnChecked_eq (tape : Tape) (tapeSection : TapeSection) :
    tapeSection.decodeOnChecked tape = some (tapeSection.decodeOn tape) := by
  unfold decodeOnChecked decodeOn
  split
  · exact decodeChecked_eq _
  · rfl

/-- Decoding one section after the other comes to decoding all of them, whatever finds the
values. -/
theorem mapM_eq_updateAll {sections : List TapeSection} {tape : Tape}
    {decodeBy : TapeSection → Option String}
    (decoded : ∀ tapeSection ∈ sections, decodeBy tapeSection = some (tapeSection.decodeOn tape)) :
    (sections.mapM fun tapeSection => do
      let value ← decodeBy tapeSection
      return { tapeSection with value }) = some (updateAll sections tape) := by
  induction sections with
  | nil => rfl
  | cons tapeSection sections ih =>
      rw [List.forall_mem_cons] at decoded
      rw [List.mapM_cons, ih decoded.2, decoded.1]
      rfl

theorem updateAllChecked_eq (sections : List TapeSection) (tape : Tape) :
    updateAllChecked sections tape = some (updateAll sections tape) :=
  mapM_eq_updateAll fun tapeSection _ => decodeOnChecked_eq tape tapeSection

/-! ## Layouts -/

/-- A section that has no cell yet.  Its last cell is the one before the first. -/
def openedChecked (name : String) (color : SectionColor) (first : Nat) : Option TapeSection := do
  let last ← Checked.minus first 1
  return { first, last, name, color, value := undecodable }

/-- Look at the cell with an index, and at the next one if it holds a mark.  The sections are
given newest first. -/
def visitChecked (tape : Tape) (sections : List TapeSection) (index : Nat) :
    Option (List TapeSection) := do
  let symbol ← tape[index]?
  if symbol = Symbol.separator then
    return sections
  else
    match openedBy symbol with
    | some (name, color) =>
      let next ← Checked.plus sizeBound index 1
      let following ← tape[next]?
      if following = Symbol.separator then
        return sections
      else
        let opening ← openedChecked name color next
        return opening :: sections
    | none =>
      match sections with
      | current :: closed => return { current with last := index } :: closed
      | [] => return []

/-- Number the storage sections, given how many there are. -/
def renumberChecked (remaining : Nat) : List TapeSection → Option (List TapeSection)
  | [] => some []
  | tapeSection :: others =>
    if tapeSection.color = .blue then do
      let left ← Checked.minus remaining 1
      let numbered ← renumberChecked left others
      return { tapeSection with name := "S" ++ Decimal.numeral left } :: numbered
    else do
      let numbered ← renumberChecked remaining others
      return tapeSection :: numbered

/-- The sections of a tape, found by walking the indices of all cells but the first and the
last. -/
def layoutChecked (tape : Tape) : Option (List TapeSection) :=
  if tape.size < 3 then
    some []
  else do
    let leading ← openedChecked "S" .blue 1
    let last ← Checked.minus tape.size 1
    let walked ← (List.range' 1 (last - 1)).foldlM (visitChecked tape) [leading]
    let inhabited := walked.reverse.filter isInhabited
    renumberChecked (stored inhabited).length inhabited

theorem openedChecked_eq (name : String) (color : SectionColor) {first : Nat}
    (positive : 0 < first) : openedChecked name color first = some (opened name color first) := by
  rw [openedChecked, Checked.minus_eq positive]
  rfl

/-- Walking by indices is walking along the cells that are left. -/
theorem foldlM_visitChecked {tape : Tape} (short : tape.size ≤ sizeBound) (count index : Nat)
    (reaches : index + count + 1 = tape.size) (current : TapeSection)
    (closed : List TapeSection) :
    (List.range' index count).foldlM (visitChecked tape) (current :: closed) =
      some (divide index (tape.toList.drop index) current closed).reverse := by
  induction count generalizing index current closed with
  | zero =>
      obtain ⟨symbol, only⟩ : ∃ symbol, tape.toList.drop index = [symbol] :=
        List.length_eq_one_iff.mp (by simp only [List.length_drop, Array.length_toList]; omega)
      rw [only]
      simp [divide]
  | succ count ih =>
      obtain ⟨symbol, next, rest, cells⟩ :
          ∃ symbol next rest, tape.toList.drop index = symbol :: next :: rest := by
        have counted : (tape.toList.drop index).length = tape.size - index := by simp
        rcases left : tape.toList.drop index with _ | ⟨symbol, _ | ⟨next, rest⟩⟩
        · simp only [left, List.length_nil] at counted
          omega
        · simp only [left, List.length_singleton] at counted
          omega
        · exact ⟨symbol, next, rest, rfl⟩
      obtain ⟨read, followed, bounded, further⟩ := getElem?_of_drop cells
      have stepped := ih (index + 1) (by omega)
      rw [further] at stepped
      have index_fits : index + 1 < sizeBound := by omega
      rw [cells, List.range'_succ, List.foldlM_cons, visitChecked, read, divide]
      simp only [Option.bind_eq_bind, Option.bind_some]
      by_cases separates : symbol = Symbol.separator
      · simp only [if_pos separates]
        exact stepped current closed
      · simp only [if_neg separates]
        cases mark : openedBy symbol with
        | none => exact stepped _ closed
        | some opens =>
            obtain ⟨name, color⟩ := opens
            simp only [Checked.plus_eq index_fits, Option.bind_some, followed]
            by_cases separated : next = Symbol.separator
            · simp only [if_pos separated]
              exact stepped current closed
            · simp only [if_neg separated, openedChecked_eq name color (Nat.succ_pos index),
                Option.bind_some]
              exact stepped _ _

/-- Counting down from the number of storage sections numbers them like counting from the
right. -/
theorem renumberChecked_eq (sections : List TapeSection) :
    renumberChecked (stored sections).length sections = some (numberStorage sections) := by
  induction sections with
  | nil => rfl
  | cons tapeSection others ih =>
      by_cases blue : tapeSection.color = .blue
      · have count : (stored (tapeSection :: others)).length = (stored others).length + 1 := by
          simp [stored, blue]
        rw [renumberChecked, if_pos blue, count, Checked.minus_eq (Nat.succ_pos _),
          numberStorage_cons_of_blue blue]
        simp [ih]
      · have count : (stored (tapeSection :: others)).length = (stored others).length := by
          simp [stored, blue]
        rw [renumberChecked, if_neg blue, count, ih, numberStorage_cons_of_ne_blue blue]
        rfl

theorem layout_of_short {tape : Tape} (short : tape.size < 3) : layout tape = [] := by
  obtain ⟨limit, found⟩ := exists_found_layout tape
  rw [List.eq_nil_iff_forall_not_mem]
  intro tapeSection member
  have interior := (found.reaches member).content.interior
  omega

/-- Laying out a tape by indices gives its layout: every index is that of a cell, and every
difference is positive. -/
theorem layoutChecked_eq {tape : Tape} (short : tape.size ≤ sizeBound) :
    layoutChecked tape = some (layout tape) := by
  unfold layoutChecked
  split
  · rename_i few
    rw [layout_of_short few]
  · have walk := foldlM_visitChecked short (tape.size - 1 - 1) 1 (by omega) (opened "S" .blue 1) []
    rw [openedChecked_eq "S" .blue (by omega), Checked.minus_eq (by omega)]
    simp only [Option.bind_eq_bind, Option.bind_some, walk, List.reverse_reverse]
    exact renumberChecked_eq _

end TapeSection
end TapeWorkbench
