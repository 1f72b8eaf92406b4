import TapeWorkbench.Proofs.Outline

/-!
# Loading what the lines hold

Loading fails at the first item that offends, which is a second head marker or a
symbol that is no 32-bit number, and it succeeds if there is none.
-/

namespace TapeWorkbench
namespace Program

/-- Digits that write more than a symbol can be. -/
def TooLarge (digits : List Char) : Prop :=
  4294967295 < Decimal.value digits

theorem symbolOfDigits_of_fits {digits : List Char} (fits : ¬ TooLarge digits) :
    symbolOfDigits digits = .ok (Decimal.value digits) := by
  have small : Decimal.value digits < Symbol.bound := by
    unfold TooLarge at fits
    unfold Symbol.bound
    omega
  simp [symbolOfDigits, Decimal.valueBelow?_eq Symbol.bound digits (by decide), small]

theorem symbolOfDigits_of_tooLarge {digits : List Char} (large : TooLarge digits) :
    symbolOfDigits digits = .error (.symbolTooLarge digits) := by
  have big : ¬ Decimal.value digits < Symbol.bound := by
    unfold TooLarge at large
    unfold Symbol.bound
    omega
  simp [symbolOfDigits, Decimal.valueBelow?_eq Symbol.bound digits (by decide), big]

/-! ## The tape -/

/-- A tape that cannot be loaded: it has a second head marker, or a symbol that is
too large. -/
def TapeOffends (cells : List Cell) : Prop :=
  1 < cells.countP Cell.marked ∨ ∃ cell ∈ cells, TooLarge cell.digits

theorem TapeOffends.append {read : List Cell} (offends : TapeOffends read) (rest : List Cell) :
    TapeOffends (read ++ rest) := by
  rcases offends with second | ⟨cell, member, large⟩
  · left
    rw [List.countP_append]
    omega
  · exact .inr ⟨cell, List.mem_append_left rest member, large⟩

theorem not_tapeOffends_nil : ¬ TapeOffends [] := by
  simp [TapeOffends]

theorem tapeOffends_concat_iff {read : List Cell} {cell : Cell} (sound : ¬ TapeOffends read) :
    TapeOffends (read ++ [cell]) ↔
      (cell.marked && read.any Cell.marked) = true ∨ TooLarge cell.digits := by
  unfold TapeOffends at sound ⊢
  rw [not_or, not_lt, not_exists] at sound
  obtain ⟨single, fit⟩ := sound
  have second : 1 < (read ++ [cell]).countP Cell.marked ↔
      (cell.marked && read.any Cell.marked) = true := by
    have some : read.any Cell.marked = true ↔ 0 < read.countP Cell.marked := by
      rw [List.countP_pos_iff, List.any_eq_true]
    rw [Bool.and_eq_true, some, List.countP_append, List.countP_singleton]
    cases cell.marked with
    | true => simp
    | false =>
        simp
        omega
  have large : (∃ other ∈ read ++ [cell], TooLarge other.digits) ↔ TooLarge cell.digits := by
    constructor
    · rintro ⟨other, member, large⟩
      rcases List.mem_append.mp member with old | new
      · exact absurd ⟨old, large⟩ (fit other)
      · rwa [List.mem_singleton.mp new] at large
    · intro large
      exact ⟨cell, by simp, large⟩
  rw [second, large]

namespace TapeDraft

/-- The draft of the cells that were read. -/
def ofCells (read : List Cell) : TapeDraft :=
  { cells := (read.map fun cell => Decimal.value cell.digits).toArray
    marked := read.findIdx? Cell.marked }

theorem isSome_marked_ofCells (read : List Cell) :
    (ofCells read).marked.isSome = read.any Cell.marked := by
  simp [ofCells]

theorem add_ofCells {read : List Cell} {cell : Cell}
    (single : (cell.marked && read.any Cell.marked) = false) (fits : ¬ TooLarge cell.digits) :
    (ofCells read).add cell = .ok (ofCells (read ++ [cell])) := by
  have marked : (if cell.marked then some (ofCells read).cells.size else (ofCells read).marked) =
      (read ++ [cell]).findIdx? Cell.marked := by
    rw [List.findIdx?_append]
    cases new : cell.marked with
    | false => simp [new, ofCells]
    | true =>
        have none : read.findIdx? Cell.marked = none := by
          rw [new, Bool.true_and, List.any_eq_false] at single
          rw [List.findIdx?_eq_none_iff]
          simpa using single
        simp [new, none, ofCells]
  simp only [add, isSome_marked_ofCells, single, symbolOfDigits_of_fits fits]
  change Except.ok _ = _
  rw [marked]
  simp [ofCells]

theorem add_ofCells_of_second {read : List Cell} {cell : Cell}
    (second : (cell.marked && read.any Cell.marked) = true) :
    (ofCells read).add cell = .error .secondHeadMarker := by
  simp only [add, isSome_marked_ofCells, second]
  rfl

theorem add_ofCells_of_tooLarge {read : List Cell} {cell : Cell}
    (single : (cell.marked && read.any Cell.marked) = false) (large : TooLarge cell.digits) :
    (ofCells read).add cell = .error (.symbolTooLarge cell.digits) := by
  simp only [add, isSome_marked_ofCells, single, symbolOfDigits_of_tooLarge large]
  rfl

theorem foldlM_add (read rest : List Cell) (sound : ¬ TapeOffends read) :
    (¬ TapeOffends (read ++ rest) →
        rest.foldlM add (ofCells read) = .ok (ofCells (read ++ rest))) ∧
      (TapeOffends (read ++ rest) →
        ∃ defect, rest.foldlM add (ofCells read) = .error defect) := by
  induction rest generalizing read with
  | nil =>
      rw [List.append_nil]
      exact ⟨fun _ => rfl, fun offends => absurd offends sound⟩
  | cons cell rest ih =>
      have parts : read ++ cell :: rest = (read ++ [cell]) ++ rest := by simp
      rw [parts, List.foldlM_cons]
      by_cases offends : TapeOffends (read ++ [cell])
      · refine ⟨fun whole => absurd (offends.append rest) whole, fun _ => ?_⟩
        cases second : cell.marked && read.any Cell.marked with
        | true =>
            rw [add_ofCells_of_second second]
            exact ⟨_, rfl⟩
        | false =>
            have large : TooLarge cell.digits := by
              simpa [second] using (tapeOffends_concat_iff sound).mp offends
            rw [add_ofCells_of_tooLarge second large]
            exact ⟨_, rfl⟩
      · have accepted := offends
        rw [tapeOffends_concat_iff sound, not_or] at accepted
        rw [add_ofCells (by simpa using accepted.1) accepted.2]
        exact ih (read ++ [cell]) offends

end TapeDraft

theorem loadTape_of_sound {cells : List Cell} (sound : ¬ TapeOffends cells) :
    loadTape cells =
      .ok
        { cells := (cells.map fun cell => Decimal.value cell.digits).toArray
          marked := cells.findIdx? Cell.marked } :=
  (TapeDraft.foldlM_add [] cells not_tapeOffends_nil).1 sound

theorem loadTape_of_offends {cells : List Cell} (offends : TapeOffends cells) :
    ∃ defect, loadTape cells = .error defect :=
  (TapeDraft.foldlM_add [] cells not_tapeOffends_nil).2 offends

/-! ## The statements -/

/-- A statement that cannot be loaded: a rule with a symbol that is too large. -/
def Statement.Offends : Statement → Prop
  | .rule fields => TooLarge fields.read ∨ TooLarge fields.write
  | _ => False

/-- The state and the symbol that a rule is for. -/
def RuleFields.key (fields : RuleFields) : String × Symbol :=
  (String.ofList fields.state, Decimal.value fields.read)

/-- The instruction of a rule that stands in a block. -/
def RuleFields.instruction (fields : RuleFields) (block : Nat) : Instruction :=
  { write := Decimal.value fields.write
    move := fields.move
    nextState := String.ofList fields.nextState
    block }

namespace Draft

theorem addRule_of_fits (draft : Draft) (lineNumber : Nat) {fields : RuleFields}
    (fits : ¬ Statement.Offends (.rule fields)) :
    draft.addRule lineNumber fields =
      .ok
        { value :=
            { draft with
              table := draft.table.insert fields.key.1 fields.key.2
                (fields.instruction draft.listing.size) }
          log :=
            if (draft.table.find? fields.key.1 fields.key.2).isSome then
              #[.ruleRedefined lineNumber fields.key.1 fields.key.2]
            else #[] } := by
  obtain ⟨fitsRead, fitsWrite⟩ := not_or.mp fits
  simp only [addRule, symbolOfDigits_of_fits fitsRead, symbolOfDigits_of_fits fitsWrite]
  change (if (draft.table.find? fields.key.1 fields.key.2).isSome then _ else _) = _
  cases (draft.table.find? fields.key.1 fields.key.2).isSome with
  | true => rfl
  | false => rfl

theorem addRule_of_offends (draft : Draft) (lineNumber : Nat) {fields : RuleFields}
    (offends : Statement.Offends (.rule fields)) :
    ∃ defect, draft.addRule lineNumber fields = .error defect := by
  by_cases large : TooLarge fields.read
  · refine ⟨.symbolTooLarge fields.read, ?_⟩
    simp only [addRule, symbolOfDigits_of_tooLarge large]
    rfl
  · have largeWrite : TooLarge fields.write := offends.resolve_left large
    refine ⟨.symbolTooLarge fields.write, ?_⟩
    simp only [addRule, symbolOfDigits_of_fits large, symbolOfDigits_of_tooLarge largeWrite]
    rfl

theorem add_cases (draft : Draft) (lineNumber : Nat) (statement : Statement) :
    (¬ statement.Offends ∧ ∃ extended, draft.add lineNumber statement = .ok extended) ∨
      (statement.Offends ∧ ∃ defect, draft.add lineNumber statement = .error defect) := by
  cases statement with
  | rule fields =>
      by_cases offends : Statement.Offends (.rule fields)
      · exact .inr ⟨offends, draft.addRule_of_offends lineNumber offends⟩
      · exact .inl ⟨offends, _, draft.addRule_of_fits lineNumber offends⟩
  | _ => exact .inl ⟨id, _, rfl⟩

end Draft
end Program
end TapeWorkbench
