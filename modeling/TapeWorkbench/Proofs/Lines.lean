import TapeWorkbench.Program.Line

/-!
# What the lines of a text are

`LinesAfter` says what the lines of a text are without saying how they are found:
lines without line ends, each but the last followed by one of the three line ends,
each with its place and its number.  Splitting a text finds these lines and no
others (`linesAfter_nil_iff`).
-/

namespace TapeWorkbench
namespace Program

/-- No character of the text ends a line. -/
def Unbroken (text : List Char) : Prop :=
  ∀ c ∈ text, c ≠ '\r' ∧ c ≠ '\n'

/-- The line ends, with the text that may come after them. -/
inductive EndsLine : List Char → List Char → Prop
  | lineFeed (rest : List Char) : EndsLine ['\n'] rest
  | both (rest : List Char) : EndsLine ['\r', '\n'] rest
  /-- In front of a line feed, a carriage return is not a line end of its own. -/
  | carriageReturn {rest : List Char} (lone : rest.head? ≠ some '\n') : EndsLine ['\r'] rest

theorem EndsLine.length_pos {lineEnd rest : List Char} (ends : EndsLine lineEnd rest) :
    0 < lineEnd.length := by
  cases ends <;> simp

/-- The line with a given text that comes right after another text. -/
def Line.after (before text : List Char) : Line :=
  ⟨before.length, before.count '\n' + 1, text⟩

/-- The lines of a text that comes after another one. -/
inductive LinesAfter : List Char → List Char → List Line → Prop
  | last {before text : List Char} (unbroken : Unbroken text) :
      LinesAfter before text [.after before text]
  | ended {before text lineEnd rest : List Char} {lines : List Line}
      (unbroken : Unbroken text) (ends : EndsLine lineEnd rest)
      (others : LinesAfter (before ++ text ++ lineEnd) rest lines) :
      LinesAfter before (text ++ lineEnd ++ rest) (.after before text :: lines)

namespace Line

theorem splitFrom_append {text : List Char} (unbroken : Unbroken text) (start number : Nat)
    (current : List Char) (done : List Line) (rest : List Char) :
    splitFrom start number current done (text ++ rest) =
      splitFrom start number (text.reverse ++ current) done rest := by
  induction text generalizing current with
  | nil => rfl
  | cons c text ih =>
      rw [Unbroken, List.forall_mem_cons] at unbroken
      obtain ⟨noReturn, noFeed⟩ := unbroken.1
      have reads : splitFrom start number current done (c :: (text ++ rest)) =
          splitFrom start number (c :: current) done (text ++ rest) := by
        rw [splitFrom]
        · simpa using noFeed
        · simp [noReturn]
        · simpa using noReturn
      rw [List.cons_append, reads, ih unbroken.2]
      simp

theorem splitFrom_endsLine {text lineEnd rest : List Char} (unbroken : Unbroken text)
    (ends : EndsLine lineEnd rest) (before : List Char) (done : List Line) :
    splitFrom before.length (before.count '\n' + 1) text.reverse done (lineEnd ++ rest) =
      splitFrom (before ++ text ++ lineEnd).length ((before ++ text ++ lineEnd).count '\n' + 1) []
        (.after before text :: done) rest := by
  have noFeed : text.count '\n' = 0 :=
    List.count_eq_zero.mpr fun member => (unbroken _ member).2 rfl
  cases ends with
  | lineFeed => simp [splitFrom, Line.after, noFeed, Nat.add_assoc]
  | both => simp [splitFrom, Line.after, noFeed, Nat.add_assoc]
  | carriageReturn lone =>
      cases rest with
      | nil => simp [splitFrom, Line.after, noFeed, Nat.add_assoc]
      | cons c rest =>
          have other : c ≠ '\n' := by simpa using lone
          rw [List.singleton_append, splitFrom]
          · simp [Line.after, noFeed, Nat.add_assoc]
          · simpa using other

theorem splitFrom_of_linesAfter {before text : List Char} {lines : List Line}
    (divided : LinesAfter before text lines) (done : List Line) :
    splitFrom before.length (before.count '\n' + 1) [] done text = done.reverse ++ lines := by
  induction divided generalizing done with
  | @last before text unbroken =>
      have read := splitFrom_append unbroken before.length (before.count '\n' + 1) [] done []
      rw [List.append_nil, List.append_nil] at read
      rw [read]
      simp [splitFrom, Line.after]
  | ended unbroken ends others ih =>
      rw [List.append_assoc, splitFrom_append unbroken, List.append_nil,
        splitFrom_endsLine unbroken ends, ih]
      simp

end Line

/-- Every text has lines, also in the middle of reading one. -/
theorem exists_linesAfter (start number : Nat) (current : List Char) (done : List Line)
    (text before : List Char) (unbroken : Unbroken current.reverse) :
    ∃ first later, LinesAfter before (current.reverse ++ text) (first :: later) := by
  have nothing : Unbroken [].reverse := by simp [Unbroken]
  fun_induction Line.splitFrom start number current done text generalizing before with
  | case1 start number current done =>
      rw [List.append_nil]
      exact ⟨_, [], .last unbroken⟩
  | case2 start number current done rest ih =>
      obtain ⟨first, later, others⟩ := ih (before ++ current.reverse ++ ['\n']) nothing
      exact ⟨_, first :: later, by simpa using others.ended unbroken (.lineFeed rest)⟩
  | case3 start number current done rest ih =>
      obtain ⟨first, later, others⟩ := ih (before ++ current.reverse ++ ['\r', '\n']) nothing
      exact ⟨_, first :: later, by simpa using others.ended unbroken (.both rest)⟩
  | case4 start number current done rest lone ih =>
      obtain ⟨first, later, others⟩ := ih (before ++ current.reverse ++ ['\r']) nothing
      have alone : rest.head? ≠ some '\n' := by
        cases rest with
        | nil => simp
        | cons c rest => simpa using fun feed => lone rest (by rw [feed])
      exact ⟨_, first :: later, by simpa using others.ended unbroken (.carriageReturn alone)⟩
  | case5 start number current done c rest noFeed _ noReturn ih =>
      have longer : Unbroken (c :: current).reverse := by
        intro other member
        rcases (by simpa using member) with old | rfl
        · exact unbroken other (by simpa using old)
        · exact ⟨noReturn, noFeed⟩
      simpa using ih before longer

theorem exists_linesAfter_nil (text : List Char) :
    ∃ first later, LinesAfter [] text (first :: later) :=
  exists_linesAfter 0 1 [] [] text [] (by simp [Unbroken])

/-- Splitting a text finds its lines, and nothing else are its lines. -/
theorem linesAfter_nil_iff {text : List Char} {lines : List Line} :
    LinesAfter [] text lines ↔ lines = Line.split text := by
  constructor
  · intro divided
    exact (Line.splitFrom_of_linesAfter divided []).symm
  · rintro rfl
    obtain ⟨first, later, divided⟩ := exists_linesAfter_nil text
    have found : Line.split text = first :: later := Line.splitFrom_of_linesAfter divided []
    rw [found]
    exact divided

/-- Every line but the last takes a character of the text, and none is longer than the text. -/
theorem LinesAfter.length_le {before text : List Char} {lines : List Line}
    (divided : LinesAfter before text lines) :
    lines.length ≤ text.length + 1 ∧ ∀ line ∈ lines, line.text.length ≤ text.length := by
  induction divided with
  | last unbroken => simp [Line.after]
  | ended unbroken ends others ih =>
      obtain ⟨few, short⟩ := ih
      have taken := ends.length_pos
      simp only [List.length_append, List.length_cons, List.forall_mem_cons]
      refine ⟨by omega, ?_, fun line member => ?_⟩
      · simp only [Line.after]
        omega
      · have within := short line member
        omega

end Program
end TapeWorkbench
