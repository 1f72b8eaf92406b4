import TapeWorkbench.Proofs.Loading

/-!
# What becomes of a program text

A text is refused for its size, for the shape of one of its lines, or for the first
of its lines that cannot be loaded, in this order; any other text is accepted.
-/

namespace TapeWorkbench
namespace Program

/-- The cells of the line cannot be loaded. -/
def Line.OffendsAsTape (line : Line) : Prop :=
  ∃ cells, IsTapeLine line.text cells ∧ TapeOffends cells

/-- The rule on the line cannot be loaded. -/
def Line.OffendsAsRule (line : Line) : Prop :=
  ∃ fields, IsStatement line.text (.rule fields) ∧
    (TooLarge fields.read ∨ TooLarge fields.write)

/-- The first line of a text that cannot be loaded. -/
inductive FirstOffence (tapeLine : Line) (others : List Line) : Line → Prop
  | tape (offends : tapeLine.OffendsAsTape) : FirstOffence tapeLine others tapeLine
  | rule {above below : List Line} {line : Line} (parts : others = above ++ line :: below)
      (soundTape : ¬ tapeLine.OffendsAsTape) (soundAbove : ∀ other ∈ above, ¬ other.OffendsAsRule)
      (offends : line.OffendsAsRule) : FirstOffence tapeLine others line

theorem FirstOffence.member {tapeLine line : Line} {others : List Line}
    (first : FirstOffence tapeLine others line) : line ∈ tapeLine :: others := by
  cases first with
  | tape _ => exact List.mem_cons_self
  | rule parts _ _ _ => simp [parts]

theorem FirstOffence.offends {tapeLine line : Line} {others : List Line}
    (first : FirstOffence tapeLine others line) :
    tapeLine.OffendsAsTape ∨ ∃ other ∈ others, other.OffendsAsRule := by
  cases first with
  | tape offends => exact .inl offends
  | rule parts _ _ offends => exact .inr ⟨line, by simp [parts], offends⟩

theorem offendsAsTape_iff {line : Line} {cells : List Cell} (holds : IsTapeLine line.text cells) :
    line.OffendsAsTape ↔ TapeOffends cells := by
  constructor
  · rintro ⟨others, alsoHolds, offends⟩
    have same : cells = others := Except.ok.inj
      ((readTapeLine_eq_ok_iff.mpr holds).symm.trans (readTapeLine_eq_ok_iff.mpr alsoHolds))
    rwa [same]
  · intro offends
    exact ⟨cells, holds, offends⟩

theorem offendsAsRule_iff {line : Line} {statement : Statement}
    (holds : IsStatement line.text statement) :
    line.OffendsAsRule ↔ statement.Offends := by
  constructor
  · rintro ⟨fields, alsoHolds, offends⟩
    have same : statement = .rule fields := Except.ok.inj
      ((readStatement_eq_ok_iff.mpr holds).symm.trans (readStatement_eq_ok_iff.mpr alsoHolds))
    rwa [same]
  · intro offends
    cases statement with
    | rule fields => exact ⟨fields, holds, offends⟩
    | _ => exact offends.elim

/-! ## Line numbers -/

/-- The number of a line tells the line feeds in front of each of its places. -/
theorem number_after {before text : List Char} (unbroken : Unbroken text) (rest : List Char)
    {place : Nat} (fromStart : before.length ≤ place)
    (toEnd : place ≤ before.length + text.length) :
    (Line.after before text).number = 1 + ((before ++ (text ++ rest)).take place).count '\n' := by
  obtain ⟨within, rfl⟩ := Nat.exists_eq_add_of_le fromStart
  have noFeed : (text.take within).count '\n' = 0 :=
    List.count_eq_zero.mpr fun member => (unbroken _ (List.mem_of_mem_take member)).2 rfl
  rw [List.take_length_add_append, List.take_append_of_le_length (by omega), List.count_append,
    noFeed]
  exact Nat.add_comm (before.count '\n') 1

theorem LinesAfter.number_eq {before text : List Char} {lines : List Line}
    (divided : LinesAfter before text lines) {line : Line} (member : line ∈ lines) {place : Nat}
    (fromStart : line.start ≤ place) (toEnd : place ≤ line.start + line.text.length) :
    line.number = 1 + ((before ++ text).take place).count '\n' := by
  induction divided with
  | @last before text unbroken =>
      obtain rfl := List.mem_singleton.mp member
      simpa using number_after unbroken [] fromStart toEnd
  | @ended before text lineEnd rest lines unbroken ends others ih =>
      rcases List.mem_cons.mp member with rfl | later
      · rw [List.append_assoc text]
        exact number_after unbroken (lineEnd ++ rest) fromStart toEnd
      · simpa using ih later

/-! ## Loading an outline -/

/-- Loading the statements of lines succeeds if none of the lines offends, and fails
with the number of the first one that does. -/
theorem addAll_cases {lines : List Line} {statements : List (Nat × Statement)}
    (hold : List.Forall₂ Line.Holds lines statements) (draft : Draft) (log : Array Notice) :
    ((∀ line ∈ lines, ¬ line.OffendsAsRule) ∧
        ∃ loaded, (draft.addAll log statements).value = .ok loaded) ∨
      ∃ above line below detail,
        lines = above ++ line :: below ∧ (∀ other ∈ above, ¬ other.OffendsAsRule) ∧
          line.OffendsAsRule ∧
          (draft.addAll log statements).value = .error (.malformedLine line.number detail) := by
  induction hold generalizing draft log with
  | nil => exact .inl ⟨by simp, draft, rfl⟩
  | @cons line numbered lines statements holds _ ih =>
      obtain ⟨number, statement⟩ := numbered
      obtain ⟨rfl, holds⟩ := holds
      rcases draft.add_cases line.number statement with
        ⟨sound, extended, added⟩ | ⟨offends, defect, refused⟩
      · rw [← offendsAsRule_iff holds] at sound
        simp only [Draft.addAll, added]
        rcases ih extended.value (log ++ extended.log) with
          ⟨rest, loaded⟩ | ⟨above, other, below, detail, rfl, rest, offends, failed⟩
        · exact .inl ⟨List.forall_mem_cons.mpr ⟨sound, rest⟩, loaded⟩
        · exact .inr ⟨line :: above, other, below, detail, rfl,
            List.forall_mem_cons.mpr ⟨sound, rest⟩, offends, failed⟩
      · refine .inr ⟨[], line, lines, defect.message, rfl, by simp,
          (offendsAsRule_iff holds).mpr offends, ?_⟩
        simp [Draft.addAll, refused]

theorem ofOutline_cases {outline : Outline} {tapeLine : Line} {others : List Line}
    (describes : outline.Of tapeLine others) :
    ((¬ tapeLine.OffendsAsTape ∧ ∀ line ∈ others, ¬ line.OffendsAsRule) ∧
        ∃ program, (ofOutline outline).value = .ok program) ∨
      ∃ line detail, FirstOffence tapeLine others line ∧
        (ofOutline outline).value = .error (.malformedLine line.number detail) := by
  obtain ⟨rfl, holdsCells, hold⟩ := describes
  by_cases offends : TapeOffends outline.cells
  · obtain ⟨defect, refused⟩ := loadTape_of_offends offends
    refine .inr ⟨outline.tapeLine, defect.message,
      .tape ((offendsAsTape_iff holdsCells).mpr offends), ?_⟩
    simp [ofOutline, refused]
  · have sound : ¬ outline.tapeLine.OffendsAsTape := by rwa [offendsAsTape_iff holdsCells]
    simp only [ofOutline, loadTape_of_sound offends]
    rcases addAll_cases hold Draft.empty #[] with
      ⟨soundRules, loaded, reached⟩ |
      ⟨above, line, below, detail, parts, soundAbove, offends, failed⟩
    · refine .inl ⟨⟨sound, soundRules⟩, ?_⟩
      rw [Logged.value_map, reached]
      exact ⟨_, rfl⟩
    · refine .inr ⟨line, detail, .rule parts sound soundAbove offends, ?_⟩
      rw [Logged.value_map, failed]
      rfl

/-! ## The verdict -/

/-- A text of at most the size limit is refused for the shape of its lines if one of
them is not well-formed, otherwise for the first line that offends, if there is one,
and is accepted otherwise. -/
theorem read_cases {text : String} {tapeLine : Line} {others : List Line}
    (short : text.utf8ByteSize ≤ 2 ^ 20)
    (divided : LinesAfter [] text.toList (tapeLine :: others)) :
    (¬ (WellFormedTape tapeLine.text ∧ ∀ line ∈ others, WellFormedLine line.text) ∧
        ∃ report, (read text).value = .error (.illFormedText report)) ∨
      (WellFormedTape tapeLine.text ∧ ∀ line ∈ others, WellFormedLine line.text) ∧
        ((¬ tapeLine.OffendsAsTape ∧ ∀ line ∈ others, ¬ line.OffendsAsRule) ∧
            (∃ program, (read text).value = .ok program) ∨
          ∃ line detail, FirstOffence tapeLine others line ∧
            (read text).value = .error (.malformedLine line.number detail)) := by
  have fits : ¬ sizeLimit < text.utf8ByteSize := by
    unfold sizeLimit
    omega
  simp only [read, if_neg fits]
  rcases readLines_cases divided with ⟨outline, lines, describes⟩ | ⟨report, misread, illFormed⟩
  · right
    simp only [lines]
    exact ⟨describes.wellFormed, ofOutline_cases describes⟩
  · left
    simp only [misread]
    exact ⟨illFormed, report, rfl⟩

/-- Every text has one of four fates.  A text of more than 2²⁰ bytes is malformed at
line 0.  A shorter text is ill-formed exactly if its first line does not consist of
cells or another line is no line of a program.  If all lines have their shape, it is
malformed exactly if a second cell is marked or a symbol is too large, and the number
reported is one more than the number of line feeds in front of the first offender,
wherever on its line that is.  Any other text is accepted. -/
theorem read_verdict (text : String) :
    (2 ^ 20 < text.utf8ByteSize →
      ∃ detail, (read text).value = .error (.malformedLine 0 detail)) ∧
    (text.utf8ByteSize ≤ 2 ^ 20 → ∃ tapeLine others,
      LinesAfter [] text.toList (tapeLine :: others) ∧
      ((∃ report, (read text).value = .error (.illFormedText report)) ↔
        ¬ (WellFormedTape tapeLine.text ∧ ∀ line ∈ others, WellFormedLine line.text)) ∧
      (WellFormedTape tapeLine.text ∧ (∀ line ∈ others, WellFormedLine line.text) →
        ((∃ number detail, (read text).value = .error (.malformedLine number detail)) ↔
          tapeLine.OffendsAsTape ∨ ∃ line ∈ others, line.OffendsAsRule) ∧
        (∀ number detail, (read text).value = .error (.malformedLine number detail) →
          ∃ line, FirstOffence tapeLine others line ∧
            ∀ place, line.start ≤ place → place ≤ line.start + line.text.length →
              number = 1 + (text.toList.take place).count '\n') ∧
        (¬ tapeLine.OffendsAsTape ∧ (∀ line ∈ others, ¬ line.OffendsAsRule) →
          ∃ program, (read text).value = .ok program))) := by
  constructor
  · intro long
    have exceeds : sizeLimit < text.utf8ByteSize := long
    simp only [read, if_pos exceeds]
    exact ⟨_, rfl⟩
  · intro short
    obtain ⟨tapeLine, others, divided⟩ := exists_linesAfter_nil text.toList
    refine ⟨tapeLine, others, divided, ?_⟩
    rcases read_cases short divided with
      ⟨illFormed, report, refused⟩ |
      ⟨wellFormed, ⟨sound, program, accepted⟩ | ⟨line, detail, first, refused⟩⟩
    · rw [refused]
      exact ⟨⟨fun _ => illFormed, fun _ => ⟨report, rfl⟩⟩,
        fun wellFormed => absurd wellFormed illFormed⟩
    · rw [accepted]
      refine ⟨⟨by simp, fun illFormed => absurd wellFormed illFormed⟩,
        fun _ => ⟨?_, by simp, fun _ => ⟨program, rfl⟩⟩⟩
      simpa using sound
    · rw [refused]
      refine ⟨⟨by simp, fun illFormed => absurd wellFormed illFormed⟩,
        fun _ => ⟨by simp [first.offends], ?_, ?_⟩⟩
      · rintro number _ ⟨rfl, rfl⟩
        refine ⟨line, first, fun place fromStart toEnd => ?_⟩
        exact divided.number_eq first.member fromStart toEnd
      · rintro ⟨soundTape, soundRules⟩
        rcases first.offends with offends | ⟨other, member, offends⟩
        · exact absurd offends soundTape
        · exact absurd offends (soundRules other member)

end Program
end TapeWorkbench
