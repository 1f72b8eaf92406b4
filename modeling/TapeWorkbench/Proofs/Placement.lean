import TapeWorkbench.Proofs.Contents
import TapeWorkbench.Proofs.Reachable
import TapeWorkbench.Proofs.Succession

/-!
# Where the head can be

The head is on a cell of the tape, or there is no cell at all and it is where the first one
would be.  A program that was read begins like that, since its head is the place of a marked
cell or of the first one; an instruction that is followed keeps the head on the tape; and
clearing leaves an empty tape.  So it holds of the present configuration of every reachable
session and of all that it remembers, and so does the bound that the size of a program's text
puts on the length of its tape (`Reachable.confined`).
-/

namespace TapeWorkbench

namespace Configuration

/-- The head is on a cell, or there is none and it is where the first one would be. -/
def Placed (configuration : Configuration) : Prop :=
  configuration.tape.size = 0 ∧ configuration.head = 0 ∨
    configuration.head < configuration.tape.size

/-- The head is placed on a tape that is not longer than the text of a program. -/
structure Confined (configuration : Configuration) : Prop where
  placed : configuration.Placed
  size_le : configuration.tape.size ≤ Program.sizeLimit

theorem confined_blank (state : String) : Confined { tape := #[], head := 0, state } where
  placed := .inl ⟨rfl, rfl⟩
  size_le := Nat.zero_le _

theorem Confined.of_follow? {before after : Configuration} {instruction : Instruction}
    (confined : before.Confined) (follows : before.follow? instruction = some after) :
    after.Confined := by
  obtain ⟨same, within⟩ := within_of_follow? follows
  exact ⟨.inr within, same ▸ confined.size_le⟩

theorem Confined.head_le {configuration : Configuration} (confined : configuration.Confined) :
    configuration.head ≤ Program.sizeLimit := by
  have size := confined.size_le
  rcases confined.placed with ⟨_, first⟩ | within <;> omega

end Configuration

namespace Program

/-! ## The size of what a text holds -/

/-- Every word takes a character of the line. -/
theorem length_words_le (line : List Char) : (words line).length ≤ line.length := by
  generalize spelled : words line = found
  induction found generalizing line with
  | nil => exact Nat.zero_le _
  | cons word others ih =>
      obtain ⟨rest, behind, isWord, -, split⟩ := words_eq_cons_iff.mp spelled
      have shorter := ih rest split
      have nonempty := List.length_pos_of_ne_nil isWord.1
      have within := (List.dropWhile_suffix isBlank (l := line)).length_le
      rw [behind, List.length_append] at within
      rw [List.length_cons]
      omega

theorem length_of_readLines {text : List Char} {outline : Outline}
    (lines : readLines text = .ok outline) :
    outline.cells.length ≤ text.length ∧ outline.statements.length ≤ text.length := by
  obtain ⟨tapeLine, others, divided⟩ := exists_linesAfter_nil text
  rcases readLines_cases divided with ⟨found, read, describes⟩ | ⟨report, misread, -⟩
  · obtain rfl := Except.ok.inj (read.symm.trans lines)
    obtain ⟨few, short⟩ := divided.length_le
    have words := length_words_le tapeLine.text
    rw [describes.cells.1, List.length_map] at words
    have first := short tapeLine List.mem_cons_self
    have same := describes.statements.length_eq
    rw [List.length_cons] at few
    omega
  · cases misread.symm.trans lines

theorem length_toList_le (text : String) : text.toList.length ≤ text.utf8ByteSize := by
  rw [← String.utf8Len_toList]
  induction text.toList with
  | nil => simp
  | cons c rest ih =>
      have taken := c.utf8Size_pos
      rw [List.length_cons, String.utf8Len_cons]
      omega

/-- A program begins with its head placed. -/
theorem confined_of_read {text : String} {program : Program}
    (accepted : (read text).value = .ok program) (state : String) :
    Configuration.Confined { tape := program.tape, head := program.head, state } := by
  unfold read at accepted
  split at accepted
  · cases accepted
  rename_i short
  split at accepted
  · cases accepted
  rename_i outline lines
  have made := (madeOf_of_ofOutline accepted).1
  have size : program.tape.size = outline.cells.length := by
    rw [← Array.length_toList, made.tape, List.length_map]
  refine ⟨?_, ?_⟩
  · change program.tape.size = 0 ∧ program.head = 0 ∨ program.head < program.tape.size
    rw [size, made.head]
    cases marked : outline.cells.findIdx? Cell.marked with
    | none =>
        rw [Option.getD_none]
        omega
    | some place => exact .inr (List.findIdx?_eq_some_iff_findIdx_eq.mp marked).1
  · have few := (length_of_readLines lines).1
    have bytes := length_toList_le text
    change program.tape.size ≤ sizeLimit
    omega

end Program

namespace Session

/-- The present configuration and all that are remembered have the property. -/
structure Throughout (property : Configuration → Prop) (session : Session) : Prop where
  present : property session.configuration
  remembered : ∀ moment ∈ session.history.toList, property moment.configuration

/-- A property that blank tapes and the beginnings of programs have, and that every instruction
keeps, is a property of all that a reachable session has come through. -/
theorem lasting_throughout (settings : Settings) {property : Configuration → Prop}
    (blank : ∀ state, property { tape := #[], head := 0, state })
    (started : ∀ {text program}, (Program.read text).value = .ok program → ∀ state,
      property { tape := program.tape, head := program.head, state })
    (follows : ∀ {before after : Configuration} {instruction}, property before →
      before.follow? instruction = some after → property after) :
    Lasting settings (Throughout property) where
  initial := ⟨blank _, fun moment member => absurd member List.not_mem_nil⟩
  progress holds made := by
    cases made with
    | paced _ | stuck _ | finished _ => exact ⟨holds.present, holds.remembered⟩
    | stepped _ _ following _ =>
        refine ⟨follows holds.present following, fun moment member => ?_⟩
        rcases History.eq_or_mem_of_mem_push member with rfl | old
        · exact holds.present
        · exact holds.remembered moment old
  undone holds popped := by
    have remembered := History.toList_of_pop? popped
    refine ⟨holds.remembered _ ?_, fun moment member => holds.remembered moment ?_⟩
    · simp [remembered]
    · simpa [remembered] using .inr member
  toggled holds _ := ⟨holds.present, holds.remembered⟩
  listening _ _ holds := ⟨holds.present, holds.remembered⟩
  loaded {session} text _ := by
    cases verdict : (Program.read text).value with
    | error fault =>
        rw [session_load_of_rejected verdict, value_cleared]
        exact ⟨blank _, fun moment member => absurd member List.not_mem_nil⟩
    | ok program =>
        rw [session_load verdict]
        exact ⟨started verdict _, fun moment member => absurd member List.not_mem_nil⟩
  emptied _ := ⟨blank _, fun moment member => absurd member List.not_mem_nil⟩
  deleted _ := ⟨blank _, fun moment member => absurd member List.not_mem_nil⟩

theorem lasting_confined (settings : Settings) :
    Lasting settings (Throughout Configuration.Confined) :=
  lasting_throughout settings Configuration.confined_blank Program.confined_of_read
    Configuration.Confined.of_follow?

theorem Reachable.confined {settings : Settings} {session : Session}
    (reachable : Reachable settings session) : session.Throughout Configuration.Confined :=
  (lasting_confined settings).of_reachable reachable

end Session
end TapeWorkbench
