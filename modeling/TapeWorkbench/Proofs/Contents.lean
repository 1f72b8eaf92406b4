import TapeWorkbench.Proofs.Verdict

/-!
# What an accepted text means

Statements are added to a draft one after the other.  `Draft.Records` says what the
draft holds in terms of all the statements that were added; adding one more keeps it,
so in the end it holds of all the statements of the text.
-/

namespace TapeWorkbench
namespace Program

/-! ## Assembly and source -/

def Statement.assembly? : Statement → Option (List Char)
  | .assembly text => some text
  | _ => none

def Statement.source? : Statement → Option (List Char)
  | .source text => some text
  | _ => none

/-- The texts of the assembly lines, in their order. -/
def assemblyTexts (statements : List Statement) : List (List Char) :=
  statements.filterMap Statement.assembly?

/-- The listing of the texts: trimmed, with the first line current and all others
pending. -/
def listingOf (texts : List (List Char)) : List ListingLine :=
  texts.mapIdx fun index text =>
    { text := String.ofList (WhiteSpace.trim text)
      status := if index = 0 then .current else .pending
      breakpoint := false
      sections := [] }

/-- A line of source, without one blank in front and without the white space at its
end, but with a line feed. -/
def sourceLine (text : List Char) : List Char :=
  WhiteSpace.trimEnd (if text.head?.any isBlank then text.drop 1 else text) ++ ['\n']

def sourceOf (statements : List Statement) : List Char :=
  (statements.filterMap Statement.source?).flatMap sourceLine

theorem assemblyTexts_concat (statements : List Statement) (statement : Statement) :
    assemblyTexts (statements ++ [statement]) =
      assemblyTexts statements ++ statement.assembly?.toList := by
  cases text : statement.assembly? <;> simp [assemblyTexts, text]

theorem sourceOf_concat (statements : List Statement) (statement : Statement) :
    sourceOf (statements ++ [statement]) =
      sourceOf statements ++ statement.source?.toList.flatMap sourceLine := by
  cases text : statement.source? <;> simp [sourceOf, text]

theorem assemblyTexts_concat_of_none {statement : Statement} (none : statement.assembly? = none)
    (statements : List Statement) :
    assemblyTexts (statements ++ [statement]) = assemblyTexts statements := by
  rw [assemblyTexts_concat, none, Option.toList_none, List.append_nil]

theorem sourceOf_concat_of_none {statement : Statement} (none : statement.source? = none)
    (statements : List Statement) :
    sourceOf (statements ++ [statement]) = sourceOf statements := by
  rw [sourceOf_concat, none, Option.toList_none, List.flatMap_nil, List.append_nil]

theorem listingOf_concat (texts : List (List Char)) (text : List Char) :
    listingOf (texts ++ [text]) =
      listingOf texts ++
        [{ text := String.ofList (WhiteSpace.trim text)
           status := if texts.length = 0 then .current else .pending
           breakpoint := false
           sections := [] }] :=
  List.mapIdx_concat

theorem length_listingOf (texts : List (List Char)) : (listingOf texts).length = texts.length :=
  List.length_mapIdx

/-! ## Rules -/

/-- Is the statement a rule for the state and symbol? -/
def Statement.isFor (key : String × Symbol) : Statement → Bool
  | .rule fields => fields.key = key
  | _ => false

/-- The instruction that counts for a key is that of the last rule for it, with the
number of assembly lines above the rule as its block. -/
def Counts (statements : List Statement) (key : String × Symbol) (instruction : Instruction) :
    Prop :=
  ∃ (above : List Statement) (fields : RuleFields) (below : List Statement),
    statements = above ++ Statement.rule fields :: below ∧ fields.key = key ∧
      (∀ other ∈ below, other.isFor key = false) ∧
      instruction = fields.instruction (assemblyTexts above).length

theorem not_counts_nil (key : String × Symbol) (instruction : Instruction) :
    ¬ Counts [] key instruction := by
  rintro ⟨above, fields, below, parts, _⟩
  simp at parts

/-- A new rule counts from now on. -/
theorem counts_concat_of_isFor {statements : List Statement} {fields : RuleFields}
    {key : String × Symbol} {instruction : Instruction} (isFor : fields.key = key) :
    Counts (statements ++ [Statement.rule fields]) key instruction ↔
      instruction = fields.instruction (assemblyTexts statements).length := by
  constructor
  · rintro ⟨above, other, below, parts, _, later, rfl⟩
    rcases List.eq_nil_or_concat below with rfl | ⟨between, last, rfl⟩
    · obtain ⟨rfl, same⟩ := List.append_singleton_inj.mp parts
      obtain rfl := Statement.rule.inj same
      rfl
    · rw [List.concat_eq_append, ← List.cons_append, ← List.append_assoc] at parts
      obtain ⟨_, rfl⟩ := List.append_singleton_inj.mp parts
      have other : Statement.isFor key (.rule fields) = false := later _ (by simp)
      simp [Statement.isFor, isFor] at other
  · rintro rfl
    exact ⟨statements, fields, [], rfl, isFor, by simp, rfl⟩

theorem counts_concat_of_not_isFor {statements : List Statement} {statement : Statement}
    {key : String × Symbol} {instruction : Instruction} (isOther : statement.isFor key = false) :
    Counts (statements ++ [statement]) key instruction ↔ Counts statements key instruction := by
  constructor
  · rintro ⟨above, fields, below, parts, isFor, later, rfl⟩
    rcases List.eq_nil_or_concat below with rfl | ⟨between, last, rfl⟩
    · obtain ⟨rfl, rfl⟩ := List.append_singleton_inj.mp parts
      simp [Statement.isFor, isFor] at isOther
    · rw [List.concat_eq_append, ← List.cons_append, ← List.append_assoc] at parts
      obtain ⟨rfl, rfl⟩ := List.append_singleton_inj.mp parts
      exact ⟨above, fields, between, rfl, isFor, fun other member => later other (by simp [member]),
        rfl⟩
  · rintro ⟨above, fields, below, rfl, isFor, later, rfl⟩
    refine ⟨above, fields, below ++ [statement], by simp, isFor, ?_, rfl⟩
    intro other member
    rcases List.mem_append.mp member with old | new
    · exact later other old
    · rwa [List.mem_singleton.mp new]

/-- Some instruction counts for a key exactly if there is a rule for it. -/
theorem exists_counts_iff {statements : List Statement} {key : String × Symbol} :
    (∃ instruction, Counts statements key instruction) ↔
      statements.any (Statement.isFor key) = true := by
  induction statements using List.reverseRecOn with
  | nil => simp [not_counts_nil]
  | append_singleton statements statement ih =>
      cases isFor : statement.isFor key with
      | false => simp [counts_concat_of_not_isFor isFor, ih, isFor]
      | true =>
          cases statement with
          | rule fields =>
              have same : fields.key = key := by simpa [Statement.isFor] using isFor
              simp [counts_concat_of_isFor same, isFor]
          | _ => simp [Statement.isFor] at isFor

theorem Counts.block_le {statements : List Statement} {key : String × Symbol}
    {instruction : Instruction} (counts : Counts statements key instruction) :
    instruction.block ≤ (assemblyTexts statements).length := by
  obtain ⟨above, fields, below, rfl, _, _, rfl⟩ := counts
  simp [RuleFields.instruction, assemblyTexts, Statement.assembly?]

/-- The notice about a rule for a key that has a rule above. -/
def redefinition (above : List Statement) (lineNumber : Nat) : Statement → List Notice
  | .rule fields =>
    if above.any (Statement.isFor fields.key) then
      [.ruleRedefined lineNumber fields.key.1 fields.key.2]
    else []
  | _ => []

/-- The notices about all rules for keys that have a rule above, line by line. -/
def redefinitions (above : List Statement) : List (Nat × Statement) → List Notice
  | [] => []
  | (lineNumber, statement) :: below =>
    redefinition above lineNumber statement ++ redefinitions (above ++ [statement]) below

/-! ## Drafts -/

/-- What a draft holds after some statements were added. -/
structure Draft.Records (draft : Draft) (above : List Statement) : Prop where
  listing : draft.listing.toList = listingOf (assemblyTexts above)
  source : draft.source = String.ofList (sourceOf above)
  table : ∀ state symbol instruction,
    draft.table.find? state symbol = some instruction ↔ Counts above (state, symbol) instruction

namespace Draft

theorem records_empty : empty.Records [] where
  listing := rfl
  source := rfl
  table state symbol instruction := by simp [empty, not_counts_nil]

theorem Records.table_of_no_rule {draft extended : Draft} {above : List Statement}
    (records : draft.Records above) {statement : Statement}
    (noRule : ∀ key, statement.isFor key = false) (kept : extended.table = draft.table)
    (state : String) (symbol : Symbol) (instruction : Instruction) :
    extended.table.find? state symbol = some instruction ↔
      Counts (above ++ [statement]) (state, symbol) instruction := by
  rw [counts_concat_of_not_isFor (noRule _), kept]
  exact records.table state symbol instruction

/-- Blank lines and comments contribute nothing. -/
theorem Records.skip {draft : Draft} {above : List Statement} (records : draft.Records above)
    {statement : Statement} (noAssembly : statement.assembly? = none)
    (noSource : statement.source? = none) (noRule : ∀ key, statement.isFor key = false) :
    draft.Records (above ++ [statement]) where
  listing := by
    rw [assemblyTexts_concat_of_none noAssembly]
    exact records.listing
  source := by
    rw [sourceOf_concat_of_none noSource]
    exact records.source
  table := records.table_of_no_rule noRule rfl

theorem Records.size_listing {draft : Draft} {above : List Statement}
    (records : draft.Records above) : draft.listing.size = (assemblyTexts above).length := by
  rw [← Array.length_toList, records.listing, length_listingOf]

theorem Records.addAssembly {draft : Draft} {above : List Statement}
    (records : draft.Records above) (text : List Char) :
    (draft.addAssembly text).Records (above ++ [Statement.assembly text]) where
  listing := by
    have texts :
        assemblyTexts (above ++ [Statement.assembly text]) = assemblyTexts above ++ [text] :=
      assemblyTexts_concat above (.assembly text)
    rw [texts, listingOf_concat, ← records.size_listing, ← records.listing]
    simp [Draft.addAssembly, Array.isEmpty]
  source := by
    rw [sourceOf_concat_of_none rfl]
    exact records.source
  table := records.table_of_no_rule (fun _ => rfl) rfl

theorem Records.addSource {draft : Draft} {above : List Statement}
    (records : draft.Records above) (text : List Char) :
    (draft.addSource text).Records (above ++ [Statement.source text]) where
  listing := by
    rw [assemblyTexts_concat_of_none rfl]
    exact records.listing
  source := by
    have longer :
        sourceOf (above ++ [Statement.source text]) = sourceOf above ++ sourceLine text := by
      simp [sourceOf_concat, Statement.source?]
    rw [longer, String.ofList_append, ← records.source]
    rfl
  table := records.table_of_no_rule (fun _ => rfl) rfl

/-- A rule is filed in the table, for the block that the last assembly line opened. -/
theorem Records.insert {draft : Draft} {above : List Statement} (records : draft.Records above)
    (fields : RuleFields) :
    Records
      { draft with
        table := draft.table.insert fields.key.1 fields.key.2
          (fields.instruction draft.listing.size) }
      (above ++ [Statement.rule fields]) where
  listing := by
    rw [assemblyTexts_concat_of_none rfl]
    exact records.listing
  source := by
    rw [sourceOf_concat_of_none rfl]
    exact records.source
  table state symbol instruction := by
    rw [InstructionTable.find?_insert, records.size_listing]
    by_cases isFor : fields.key = (state, symbol)
    · have same : fields.key.1 = state ∧ fields.key.2 = symbol := Prod.ext_iff.mp isFor
      rw [if_pos same, counts_concat_of_isFor isFor, Option.some.injEq, eq_comm]
    · have other : ¬ (fields.key.1 = state ∧ fields.key.2 = symbol) := fun same =>
        isFor (Prod.ext_iff.mpr same)
      rw [if_neg other, counts_concat_of_not_isFor (by simpa [Statement.isFor] using isFor)]
      exact records.table state symbol instruction

theorem Records.isSome_find? {draft : Draft} {above : List Statement}
    (records : draft.Records above) (key : String × Symbol) :
    (draft.table.find? key.1 key.2).isSome = above.any (Statement.isFor key) := by
  rw [Bool.eq_iff_iff, ← exists_counts_iff, Option.isSome_iff_exists]
  simp only [records.table]

/-- What one more statement does to what a draft holds, and what is told about it. -/
theorem Records.add {draft : Draft} {above : List Statement} (records : draft.Records above)
    {lineNumber : Nat} {statement : Statement} {extended : Logged Draft}
    (added : draft.add lineNumber statement = .ok extended) :
    extended.value.Records (above ++ [statement]) ∧
      extended.log.toList = redefinition above lineNumber statement := by
  cases statement with
  | blank =>
      obtain rfl := Except.ok.inj added
      exact ⟨records.skip rfl rfl fun _ => rfl, rfl⟩
  | comment =>
      obtain rfl := Except.ok.inj added
      exact ⟨records.skip rfl rfl fun _ => rfl, rfl⟩
  | assembly text =>
      obtain rfl := Except.ok.inj added
      exact ⟨records.addAssembly text, rfl⟩
  | source text =>
      obtain rfl := Except.ok.inj added
      exact ⟨records.addSource text, rfl⟩
  | rule fields =>
      by_cases offends : Statement.Offends (.rule fields)
      · obtain ⟨defect, refused⟩ := draft.addRule_of_offends lineNumber offends
        have contradiction : Except.error defect = Except.ok extended := refused.symm.trans added
        simp at contradiction
      · obtain rfl := Except.ok.inj ((draft.addRule_of_fits lineNumber offends).symm.trans added)
        refine ⟨records.insert fields, ?_⟩
        simp only [redefinition, records.isSome_find?]
        cases above.any (Statement.isFor fields.key) with
        | true => rfl
        | false => rfl

theorem Records.addAll {draft loaded : Draft} {above : List Statement}
    (records : draft.Records above) {log : Array Notice} {numbered : List (Nat × Statement)}
    (reached : (draft.addAll log numbered).value = .ok loaded) :
    loaded.Records (above ++ numbered.map Prod.snd) ∧
      (draft.addAll log numbered).log.toList = log.toList ++ redefinitions above numbered := by
  induction numbered generalizing draft above log with
  | nil =>
      obtain rfl := Except.ok.inj reached
      simpa [redefinitions, Draft.addAll] using records
  | cons first numbered ih =>
      obtain ⟨lineNumber, statement⟩ := first
      simp only [Draft.addAll] at reached ⊢
      cases added : draft.add lineNumber statement with
      | error defect => simp [added] at reached
      | ok extended =>
          simp only [added] at reached ⊢
          obtain ⟨held, told⟩ := records.add added
          obtain ⟨heldAll, toldAll⟩ := ih held reached
          refine ⟨by simpa using heldAll, ?_⟩
          rw [toldAll, Array.toList_append, told, List.append_assoc]
          rfl

end Draft

/-! ## Programs -/

/-- What the cells of the tape line and the statements of the other lines make. -/
structure MadeOf (program : Program) (cells : List Cell) (statements : List Statement) : Prop where
  tape : program.tape.toList = cells.map fun cell => Decimal.value cell.digits
  /-- At most one cell is marked, and the head is there, or else at the first cell. -/
  single : cells.countP Cell.marked ≤ 1
  head : program.head = (cells.findIdx? Cell.marked).getD 0
  listing : program.listing = listingOf (assemblyTexts statements)
  source : program.source = String.ofList (sourceOf statements)
  table : ∀ state symbol instruction,
    program.table.find? state symbol = some instruction ↔
      Counts statements (state, symbol) instruction
  blocks : ∀ state symbol instruction,
    program.table.find? state symbol = some instruction →
      instruction.block ≤ program.listing.length

theorem MadeOf.of_records {draft : Draft} {statements : List Statement} {cells : List Cell}
    (records : draft.Records statements) (sound : ¬ TapeOffends cells) :
    MadeOf
      { tape := (cells.map fun cell => Decimal.value cell.digits).toArray
        head := (cells.findIdx? Cell.marked).getD 0
        table := draft.table
        listing := draft.listing.toList
        source := draft.source }
      cells statements where
  tape := rfl
  single := by
    rw [TapeOffends, not_or, not_lt] at sound
    exact sound.1
  head := rfl
  listing := records.listing
  source := records.source
  table := records.table
  blocks state symbol instruction found := by
    rw [records.listing, length_listingOf]
    exact ((records.table state symbol instruction).mp found).block_le

theorem madeOf_of_ofOutline {outline : Outline} {program : Program}
    (loaded : (ofOutline outline).value = .ok program) :
    program.MadeOf outline.cells (outline.statements.map Prod.snd) ∧
      (ofOutline outline).log.toList = redefinitions [] outline.statements := by
  by_cases offends : TapeOffends outline.cells
  · obtain ⟨defect, refused⟩ := loadTape_of_offends offends
    simp [ofOutline, refused] at loaded
  · simp only [ofOutline, loadTape_of_sound offends] at loaded ⊢
    rw [Logged.value_map] at loaded
    cases reached : (Draft.empty.addAll #[] outline.statements).value with
    | error fault => simp [reached, Except.map] at loaded
    | ok draft =>
        obtain ⟨records, told⟩ := Draft.records_empty.addAll reached
        rw [reached] at loaded
        obtain rfl := Except.ok.inj loaded
        exact ⟨.of_records records offends, told⟩

theorem exists_madeOf_of_linesAfter {text : String} {program : Program} {tapeLine : Line}
    {others : List Line} (accepted : (read text).value = .ok program)
    (divided : LinesAfter [] text.toList (tapeLine :: others)) :
    ∃ cells numbered, IsTapeLine tapeLine.text cells ∧
      List.Forall₂ Line.Holds others numbered ∧ program.MadeOf cells (numbered.map Prod.snd) := by
  unfold read at accepted
  split at accepted
  · cases accepted
  · rcases readLines_cases divided with ⟨outline, lines, describes⟩ | ⟨report, misread, -⟩
    · rw [lines] at accepted
      exact ⟨outline.cells, outline.statements, describes.cells, describes.statements,
        (madeOf_of_ofOutline accepted).1⟩
    · simp [misread] at accepted

/-- The program that an accepted text holds is made of the cells on its first line and
of the assembly lines, source lines and rules among the others; blank lines and comments
contribute nothing.  The notices are those about the rules for keys that have a rule
above. -/
theorem read_contents {text : String} {program : Program}
    (accepted : (read text).value = .ok program) :
    ∃ tapeLine others cells numbered,
      LinesAfter [] text.toList (tapeLine :: others) ∧
      IsTapeLine tapeLine.text cells ∧
      List.Forall₂ Line.Holds others numbered ∧
      program.MadeOf cells (numbered.map Prod.snd) ∧
      (read text).log.toList = redefinitions [] numbered := by
  obtain ⟨tapeLine, others, divided⟩ := exists_linesAfter_nil text.toList
  by_cases long : sizeLimit < text.utf8ByteSize
  · simp [read, if_pos long] at accepted
  · simp only [read, if_neg long] at accepted ⊢
    rcases readLines_cases divided with ⟨outline, lines, describes⟩ | ⟨report, misread, _⟩
    · simp only [lines] at accepted ⊢
      obtain ⟨made, told⟩ := madeOf_of_ofOutline accepted
      exact ⟨tapeLine, others, outline.cells, outline.statements, divided, describes.cells,
        describes.statements, made, told⟩
    · simp [misread] at accepted

/-- A text with all three line ends, and with a rule that replaces one of an earlier
block. -/
def sampleText : String :=
  "1 !2\r\n#asm  P \r#program\t\tx \n\na 7 1 R b\n#asm\na 07 3 L a"

def sample : Program :=
  { tape := #[1, 2]
    head := 1
    table :=
      (InstructionTable.empty.insert "a" 7 ⟨1, .right, "b", 1⟩).insert
        "a" 7 ⟨3, .left, "a", 2⟩
    listing := [⟨"P", .current, false, []⟩, ⟨"", .pending, false, []⟩]
    source := "\tx\n" }

theorem read_sampleText :
    read sampleText = ⟨.ok sample, #[.ruleRedefined 6 "a" 7]⟩ := by
  cbv

theorem read_contents_sample :
    (read sampleText).value = .ok sample ∧
      ∃ tapeLine others cells numbered,
        LinesAfter [] sampleText.toList (tapeLine :: others) ∧
        IsTapeLine tapeLine.text cells ∧
        List.Forall₂ Line.Holds others numbered ∧
        sample.MadeOf cells (numbered.map Prod.snd) ∧
        (read sampleText).log.toList = redefinitions [] numbered := by
  have accepted : (read sampleText).value = .ok sample := by rw [read_sampleText]
  exact ⟨accepted, read_contents accepted⟩

end Program
end TapeWorkbench
