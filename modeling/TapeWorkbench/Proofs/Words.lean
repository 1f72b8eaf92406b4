import Mathlib.Data.List.TakeWhile
import TapeWorkbench.Program.Statement

/-!
# The words of a line

A line is looked at in two ways: as its words, which are the longest stretches
without blanks, and through a cursor that goes from word to word.  The lemmas here
lead from one to the other: the first word is what the cursor reads up to the next
blank, and the other words are those of what it has not read.
-/

namespace TapeWorkbench
namespace Program

/-- The words of a line: the stretches between its blanks. -/
def words (line : List Char) : List (List Char) :=
  (line.splitOnP isBlank).filter fun word => !word.isEmpty

/-- Every character of a word is something other than a blank. -/
def IsWord (text : List Char) : Prop :=
  text ≠ [] ∧ ∀ c ∈ text, isBlank c = false

/-- Nothing follows, or a blank. -/
def AtWordEnd (rest : List Char) : Prop :=
  rest.head?.all isBlank = true

@[simp]
theorem words_nil : words [] = [] := by
  simp [words]

theorem words_cons_blank {c : Char} (blank : isBlank c = true) (line : List Char) :
    words (c :: line) = words line := by
  have split := List.splitOnP_append_cons [] line blank
  rw [List.nil_append] at split
  simp [words, split]

theorem words_dropWhile_blank (line : List Char) : words (line.dropWhile isBlank) = words line := by
  induction line with
  | nil => rfl
  | cons c line ih =>
      cases blank : isBlank c with
      | true => rw [List.dropWhile_cons_of_pos blank, ih, words_cons_blank blank]
      | false => rw [List.dropWhile_cons_of_neg (by simp [blank])]

/-- A word in front of a blank, or of nothing, is the first word. -/
theorem words_append {word rest : List Char} (isWord : IsWord word) (ends : AtWordEnd rest) :
    words (word ++ rest) = word :: words rest := by
  have nonempty : word.isEmpty = false := by simpa using isWord.1
  cases rest with
  | nil => simp [words, List.splitOnP_eq_singleton isWord.2, nonempty]
  | cons c rest =>
      have blank : isBlank c = true := by simpa [AtWordEnd] using ends
      rw [words_cons_blank blank]
      simp [words, List.splitOnP_append_cons_of_forall_mem isWord.2 c blank, nonempty]

theorem head?_dropWhile_all (p : Char → Bool) (line : List Char) :
    ((line.dropWhile p).head?.all fun c => !p c) = true := by
  have stops := List.head?_dropWhile_not p line
  cases ends : (line.dropWhile p).head? with
  | none => rfl
  | some c => simpa [ends] using stops

theorem atWordEnd_dropWhile (line : List Char) :
    AtWordEnd (line.dropWhile fun c => !isBlank c) := by
  simpa [AtWordEnd] using head?_dropWhile_all (fun c => !isBlank c) line

/-- A place where no blank stands. -/
def AtWord (line : List Char) : Prop :=
  (line.head?.any fun c => !isBlank c) = true

theorem isWord_takeWhile {line : List Char} (starts : AtWord line) :
    IsWord (line.takeWhile fun c => !isBlank c) := by
  refine ⟨?_, fun c member => by simpa using List.mem_takeWhile_imp member⟩
  cases line with
  | nil => simp [AtWord] at starts
  | cons c line =>
      have letter : isBlank c = false := by simpa [AtWord] using starts
      simp [letter]

/-- Where no blank stands, the first word is what comes before the next blank. -/
theorem words_of_atWord {line : List Char} (starts : AtWord line) :
    words line =
      line.takeWhile (fun c => !isBlank c) :: words (line.dropWhile fun c => !isBlank c) :=
  calc
    words line =
        words (line.takeWhile (fun c => !isBlank c) ++ line.dropWhile fun c => !isBlank c) := by
      rw [List.takeWhile_append_dropWhile]
    _ = line.takeWhile (fun c => !isBlank c) :: words (line.dropWhile fun c => !isBlank c) :=
      words_append (isWord_takeWhile starts) (atWordEnd_dropWhile line)

theorem atWord_dropWhile {line : List Char} (more : line.dropWhile isBlank ≠ []) :
    AtWord (line.dropWhile isBlank) := by
  have stops := head?_dropWhile_all isBlank line
  cases behind : line.dropWhile isBlank with
  | nil => exact absurd behind more
  | cons c rest => simpa [behind, AtWord] using stops

theorem words_eq_nil_iff {line : List Char} : words line = [] ↔ line.dropWhile isBlank = [] := by
  rw [← words_dropWhile_blank]
  by_cases more : line.dropWhile isBlank = []
  · simp [more]
  · simp [words_of_atWord (atWord_dropWhile more), more]

/-- The first word of a line begins where the blanks in front of it end, and reaches
to the next blank. -/
theorem words_eq_cons_iff {line word : List Char} {others : List (List Char)} :
    words line = word :: others ↔
      ∃ rest, line.dropWhile isBlank = word ++ rest ∧ IsWord word ∧ AtWordEnd rest ∧
        words rest = others := by
  constructor
  · intro split
    have more : line.dropWhile isBlank ≠ [] := by
      intro nothing
      rw [words_eq_nil_iff.mpr nothing] at split
      simp at split
    have starts := atWord_dropWhile more
    rw [← words_dropWhile_blank, words_of_atWord starts, List.cons.injEq] at split
    exact ⟨_, by rw [← split.1, List.takeWhile_append_dropWhile],
      split.1 ▸ isWord_takeWhile starts, atWordEnd_dropWhile _, split.2⟩
  · rintro ⟨rest, split, isWord, ends, rfl⟩
    rw [← words_dropWhile_blank, split, words_append isWord ends]

end Program
end TapeWorkbench
