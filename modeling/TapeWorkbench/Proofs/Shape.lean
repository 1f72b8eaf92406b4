import TapeWorkbench.Proofs.Fields

/-!
# The shape of lines

`IsTapeLine` and `IsStatement` say by its words which cells or which statement a line
holds.  Reading a line gives what the line holds, and fails only if it holds nothing
of the kind (`readTapeLine_eq_ok_iff`, `readStatement_eq_ok_iff`).
-/

namespace TapeWorkbench
namespace Program

/-! ## The tape line -/

def Cell.spelling (cell : Cell) : List Char :=
  if cell.marked then '!' :: cell.digits else cell.digits

/-- The line holds the cells: they are its words. -/
def IsTapeLine (line : List Char) (cells : List Cell) : Prop :=
  words line = cells.map Cell.spelling ∧ ∀ cell ∈ cells, IsNumeral cell.digits

theorem Cell.isWord_spelling {cell : Cell} (numeral : IsNumeral cell.digits) :
    IsWord cell.spelling := by
  cases marked : cell.marked with
  | false => simpa [spelling, marked] using numeral.isWord
  | true =>
      simp only [spelling, marked, if_true]
      refine ⟨by simp, ?_⟩
      rw [List.forall_mem_cons]
      exact ⟨rfl, numeral.isWord.2⟩

namespace Cursor

theorem skipMarker_of_marked (offset : Nat) (rest : List Char) :
    skipMarker ⟨offset, '!' :: rest⟩ = (true, ⟨offset + 1, rest⟩) :=
  rfl

theorem skipMarker_of_unmarked {cursor : Cursor} (unmarked : cursor.rest.head? ≠ some '!') :
    cursor.skipMarker = (false, cursor) := by
  unfold skipMarker
  split
  · rename_i rest marked
    simp [marked] at unmarked
  · rfl

theorem readCell_eq_ok_iff_digits {cursor behind : Cursor} {cell : Cell} :
    cursor.readCell = .ok (cell, behind) ↔
      cell.marked = cursor.skipMarker.1 ∧
        cursor.skipMarker.2.rest = cell.digits ++ behind.rest ∧ IsNumeral cell.digits ∧
        (behind.rest.head?.all fun c => !Decimal.isDigit c) = true ∧
        behind.offset = cursor.skipMarker.2.offset + cell.digits.length := by
  obtain ⟨marked, digits⟩ := cell
  rw [IsNumeral, ← takeWhile_nonempty_iff]
  simp only [readCell]
  generalize cursor.skipMarker.2 = start
  split
  · rename_i starts
    simp only [Except.ok.injEq, Prod.mk.injEq, Cell.mk.injEq, starts, true_and]
    constructor
    · rintro ⟨⟨rfl, rfl⟩, rfl⟩
      exact ⟨rfl, rfl⟩
    · rintro ⟨rfl, taken⟩
      simp [taken]
  · rename_i starts
    simp [starts]

/-- A cell is read exactly where its spelling stands in front and its digits end. -/
theorem readCell_eq_ok_iff {cursor behind : Cursor} {cell : Cell} :
    cursor.readCell = .ok (cell, behind) ↔
      cursor.rest = cell.spelling ++ behind.rest ∧ IsNumeral cell.digits ∧
        (behind.rest.head?.all fun c => !Decimal.isDigit c) = true ∧
        behind.offset = cursor.offset + cell.spelling.length := by
  rw [readCell_eq_ok_iff_digits]
  obtain ⟨marked, digits⟩ := cell
  by_cases marker : cursor.rest.head? = some '!'
  · obtain ⟨offset, rest⟩ := cursor
    obtain ⟨rest, rfl⟩ : ∃ more, rest = '!' :: more := by
      cases rest with
      | nil => simp at marker
      | cons c more => exact ⟨more, by simpa using marker⟩
    rw [skipMarker_of_marked]
    cases marked with
    | true => simp [Cell.spelling, Nat.add_assoc, Nat.add_comm 1]
    | false =>
        refine ⟨fun fails => by simp at fails, ?_⟩
        rintro ⟨split, numeral, _, _⟩
        exfalso
        cases digits with
        | nil => exact numeral.1 rfl
        | cons digit digits =>
            have digit' := numeral.2 digit List.mem_cons_self
            have equal : '!' = digit := by simpa [Cell.spelling] using congrArg List.head? split
            simp [← equal, Decimal.isDigit] at digit'
  · rw [skipMarker_of_unmarked marker]
    cases marked with
    | false => simp [Cell.spelling]
    | true =>
        refine ⟨fun fails => by simp at fails, ?_⟩
        rintro ⟨split, _, _, _⟩
        simp [split, Cell.spelling] at marker

end Cursor

theorem exists_readCell {cursor : Cursor} {cells : List Cell} (bare : cursor.Bare)
    (something : cursor.rest ≠ []) (holds : IsTapeLine cursor.rest cells) :
    ∃ cell others behind, cells = cell :: others ∧ cursor.readCell = .ok (cell, behind) ∧
      AtWordEnd behind.rest ∧ IsTapeLine behind.rest others := by
  obtain ⟨split, numerals⟩ := holds
  cases cells with
  | nil =>
      rw [List.map_nil, words_eq_nil_iff, bare] at split
      exact absurd split something
  | cons cell others =>
      rw [List.map_cons] at split
      rw [List.forall_mem_cons] at numerals
      obtain ⟨rest, parts, _, ends, behind⟩ := words_eq_cons_iff.mp split
      rw [bare] at parts
      exact ⟨cell, others, ⟨cursor.offset + cell.spelling.length, rest⟩, rfl,
        Cursor.readCell_eq_ok_iff.mpr ⟨parts, numerals.1, ends.not_isDigit, rfl⟩,
        ends, behind, numerals.2⟩

theorem isTapeLine_cons {cursor behind : Cursor} {cell : Cell} {others : List Cell}
    (read : cursor.readCell = .ok (cell, behind)) (ends : AtWordEnd behind.rest)
    (holds : IsTapeLine behind.rest others) : IsTapeLine cursor.rest (cell :: others) := by
  obtain ⟨parts, numeral, _, _⟩ := Cursor.readCell_eq_ok_iff.mp read
  refine ⟨?_, List.forall_mem_cons.mpr ⟨numeral, holds.2⟩⟩
  rw [parts, words_append (Cell.isWord_spelling numeral) ends, holds.1, List.map_cons]

theorem isTapeLine_skipBlanks {cursor : Cursor} {cells : List Cell} :
    IsTapeLine cursor.skipBlanks.rest cells ↔ IsTapeLine cursor.rest cells := by
  rw [IsTapeLine, IsTapeLine, Cursor.words_skipBlanks]

theorem eq_nil_of_isTapeLine {cells : List Cell} (holds : IsTapeLine [] cells) : cells = [] := by
  simpa [IsTapeLine, eq_comm] using holds.1

/-- Reading cells from where no blank stands gives the words there. -/
theorem readCells_eq_ok_iff {cursor : Cursor} {done cells : List Cell} (bare : cursor.Bare) :
    readCells cursor done = .ok cells ↔
      ∃ more, cells = done.reverse ++ more ∧ IsTapeLine cursor.rest more := by
  fun_induction readCells cursor done with
  | case1 cursor done nothing =>
      rw [List.isEmpty_iff] at nothing
      rw [nothing]
      constructor
      · intro finished
        refine ⟨[], ?_, by simp [IsTapeLine]⟩
        simpa [eq_comm] using finished
      · rintro ⟨more, rfl, holds⟩
        simp [eq_nil_of_isTapeLine holds]
  | case2 cursor done something misreading misread =>
      rw [List.isEmpty_iff] at something
      refine ⟨fun fails => by simp at fails, ?_⟩
      rintro ⟨more, _, holds⟩
      obtain ⟨_, _, _, _, read, _⟩ := exists_readCell bare something holds
      simp [misread] at read
  | case3 cursor done something cell behind read ends ih =>
      rw [List.isEmpty_iff] at something
      rw [ih (Cursor.bare_skipBlanks behind)]
      constructor
      · rintro ⟨others, rfl, holds⟩
        refine ⟨cell :: others, by simp, ?_⟩
        exact isTapeLine_cons read ends (isTapeLine_skipBlanks.mp holds)
      · rintro ⟨more, rfl, holds⟩
        obtain ⟨cell', others, behind', rfl, read', _, holds⟩ :=
          exists_readCell bare something holds
        obtain ⟨rfl, rfl⟩ : cell = cell' ∧ behind = behind' := by
          simpa using read.symm.trans read'
        exact ⟨others, by simp, isTapeLine_skipBlanks.mpr holds⟩
  | case4 cursor done something cell behind read goesOn =>
      rw [List.isEmpty_iff] at something
      refine ⟨fun fails => by simp at fails, ?_⟩
      rintro ⟨more, _, holds⟩
      obtain ⟨cell', _, behind', _, read', ends, _⟩ := exists_readCell bare something holds
      obtain ⟨rfl, rfl⟩ : cell = cell' ∧ behind = behind' := by
        simpa using read.symm.trans read'
      exact absurd ends goesOn

/-- Reading a tape line gives the cells that it holds. -/
theorem readTapeLine_eq_ok_iff {line : List Char} {cells : List Cell} :
    readTapeLine line = .ok cells ↔ IsTapeLine line cells := by
  rw [readTapeLine, readCells_eq_ok_iff (Cursor.bare_skipBlanks _)]
  simp [isTapeLine_skipBlanks, Cursor.ofLine]

/-! ## Other lines -/

/-- The words that a rule is written as. -/
def RuleFields.Spells (fields : RuleFields) (spelling : List (List Char)) : Prop :=
  ∃ letter, moveOfLetter? letter = some fields.move ∧
    spelling = [fields.state, fields.read, fields.write, [letter], fields.nextState]

/-- A line holds a directive with the text behind its name. -/
def IsDirective (name line text : List Char) : Prop :=
  line.dropWhile isBlank = name ++ text ∧ AtWordEnd text

/-- The line holds the statement. -/
inductive IsStatement (line : List Char) : Statement → Prop
  | blank (nothing : words line = []) : IsStatement line .blank
  | assembly {text : List Char} (directive : IsDirective "#asm".toList line text) :
      IsStatement line (.assembly text)
  | source {text : List Char} (directive : IsDirective "#program".toList line text) :
      IsStatement line (.source text)
  | comment (marked : (line.dropWhile isBlank).head? = some '#')
      (noAssembly : ∀ text, ¬ IsDirective "#asm".toList line text)
      (noSource : ∀ text, ¬ IsDirective "#program".toList line text) :
      IsStatement line .comment
  | rule {fields : RuleFields} (unmarked : (line.dropWhile isBlank).head? ≠ some '#')
      (spelled : fields.Spells (words line)) (read : IsNumeral fields.read)
      (write : IsNumeral fields.write) : IsStatement line (.rule fields)

theorem afterWord?_eq_some_iff {name line text : List Char} :
    afterWord? name line = some text ↔ line = name ++ text ∧ AtWordEnd text := by
  simp only [afterWord?, Bool.and_eq_true, List.isPrefixOf_iff_prefix]
  constructor
  · intro found
    split at found
    · rename_i whole
      obtain ⟨⟨more, rfl⟩, ends⟩ := whole
      obtain rfl : more = text := by simpa using found
      exact ⟨rfl, by simpa [AtWordEnd] using ends⟩
    · simp at found
  · rintro ⟨rfl, ends⟩
    rw [if_pos ⟨List.prefix_append name text, by simpa [AtWordEnd] using ends⟩]
    simp

theorem isDirective_iff {name line text : List Char} :
    IsDirective name line text ↔ afterWord? name (line.dropWhile isBlank) = some text :=
  afterWord?_eq_some_iff.symm

theorem forall_not_isDirective_iff {name line : List Char} :
    (∀ text, ¬ IsDirective name line text) ↔ afterWord? name (line.dropWhile isBlank) = none := by
  simp only [isDirective_iff]
  exact Option.eq_none_iff_forall_ne_some.symm

theorem bind_eq_ok_iff {ε α β : Type} {first : Except ε α} {next : α → Except ε β} {result : β} :
    first.bind next = .ok result ↔ ∃ value, first = .ok value ∧ next value = .ok result := by
  cases first with
  | error fault => simp [Except.bind]
  | ok value => simp [Except.bind]

theorem Cursor.isWord_letter {letter : Char} {move : Move}
    (known : moveOfLetter? letter = some move) : IsWord [letter] := by
  refine ⟨by simp, ?_⟩
  rw [List.forall_mem_singleton]
  cases blank : isBlank letter with
  | false => rfl
  | true =>
      have choices : letter = ' ' ∨ letter = '\t' := by simpa [isBlank] using blank
      rcases choices with rfl | rfl
      · simp [moveOfLetter?] at known
      · simp [moveOfLetter?] at known

/-- Reading a rule where no blank stands gives the rule that the words spell. -/
theorem readRule_eq_ok_iff {start : Cursor} {fields : RuleFields} (bare : start.Bare) :
    readRule start = .ok fields ↔
      fields.Spells (words start.rest) ∧ IsNumeral fields.read ∧ IsNumeral fields.write := by
  simp only [readRule, bind, bind_eq_ok_iff, Prod.exists]
  constructor
  · rintro ⟨state, afterState, tookState, beforeRead, crossed₁, read, afterRead, tookRead,
      beforeWrite, crossed₂, write, afterWrite, tookWrite, beforeMove, crossed₃, move, afterMove,
      tookMove, beforeNext, crossed₄, next, afterNext, tookNext, finished⟩
    obtain ⟨split₁, isState, _, _⟩ := Cursor.readState_eq_ok_iff.mp tookState
    obtain ⟨split₂, isRead, _, _⟩ := Cursor.readDigits_eq_ok_iff.mp tookRead
    obtain ⟨split₃, isWrite, _, _⟩ := Cursor.readDigits_eq_ok_iff.mp tookWrite
    obtain ⟨letter, split₄, known, _⟩ := Cursor.readMove_eq_ok_iff.mp tookMove
    obtain ⟨split₅, isNext, ends, _⟩ := Cursor.readState_eq_ok_iff.mp tookNext
    split at finished
    · rename_i nothing
      obtain rfl := Except.ok.inj finished
      have last : words afterNext.rest = [] := by
        rw [← Cursor.words_skipBlanks, List.isEmpty_iff.mp nothing, words_nil]
      refine ⟨⟨letter, known, ?_⟩, isRead, isWrite⟩
      rw [Cursor.words_of_crossBlanks split₁ isState crossed₁,
        Cursor.words_of_crossBlanks split₂ isRead.isWord crossed₂,
        Cursor.words_of_crossBlanks split₃ isWrite.isWord crossed₃,
        Cursor.words_of_crossBlanks split₄ (Cursor.isWord_letter known) crossed₄,
        split₅, words_append isNext ends, last]
    · simp at finished
  · rintro ⟨⟨letter, known, spelled⟩, isRead, isWrite⟩
    obtain ⟨afterState, beforeRead, split₁, isState, ends₁, moved₁, crossed₁, bare₁, spelled⟩ :=
      Cursor.exists_crossBlanks bare spelled
    obtain ⟨afterRead, beforeWrite, split₂, _, ends₂, moved₂, crossed₂, bare₂, spelled⟩ :=
      Cursor.exists_crossBlanks bare₁ spelled
    obtain ⟨afterWrite, beforeMove, split₃, _, ends₃, moved₃, crossed₃, bare₃, spelled⟩ :=
      Cursor.exists_crossBlanks bare₂ spelled
    obtain ⟨afterMove, beforeNext, split₄, _, _, moved₄, crossed₄, bare₄, spelled⟩ :=
      Cursor.exists_crossBlanks bare₃ spelled
    obtain ⟨rest, split₅, isNext, ends₅, last⟩ := words_eq_cons_iff.mp spelled
    rw [bare₄] at split₅
    let afterNext : Cursor := ⟨beforeNext.offset + fields.nextState.length, rest⟩
    have nothing : afterNext.skipBlanks.rest = [] := words_eq_nil_iff.mp last
    refine ⟨fields.state, afterState,
      Cursor.readState_eq_ok_iff.mpr ⟨split₁, isState, ends₁, moved₁⟩, beforeRead, crossed₁ _,
      fields.read, afterRead,
      Cursor.readDigits_eq_ok_iff.mpr ⟨split₂, isRead, ends₂.not_isDigit, moved₂⟩, beforeWrite,
      crossed₂ _, fields.write, afterWrite,
      Cursor.readDigits_eq_ok_iff.mpr ⟨split₃, isWrite, ends₃.not_isDigit, moved₃⟩, beforeMove,
      crossed₃ _, fields.move, afterMove,
      Cursor.readMove_eq_ok_iff.mpr ⟨letter, split₄, known, moved₄⟩, beforeNext, crossed₄ _,
      fields.nextState, afterNext,
      Cursor.readState_eq_ok_iff.mpr ⟨split₅, isNext, ends₅, rfl⟩, ?_⟩
    rw [nothing]
    rfl

theorem not_isDirective_assembly {line text : List Char}
    (directive : IsDirective "#program".toList line text) (other : List Char) :
    ¬ IsDirective "#asm".toList line other := by
  intro both
  have equal := directive.1.symm.trans both.1
  simp at equal

theorem head?_of_isDirective {name line text : List Char} (directive : IsDirective name line text)
    (marked : name.head? = some '#') : (line.dropWhile isBlank).head? = some '#' := by
  cases name with
  | nil => simp at marked
  | cons c name => simpa [directive.1] using marked

theorem isStatement_iff_of_blank {line : List Char} {statement : Statement}
    (nothing : words line = []) : IsStatement line statement ↔ statement = .blank := by
  have unmarked : (line.dropWhile isBlank).head? ≠ some '#' := by
    simp [words_eq_nil_iff.mp nothing]
  constructor
  · intro holds
    cases holds with
    | blank _ => rfl
    | assembly directive => exact absurd (head?_of_isDirective directive rfl) unmarked
    | source directive => exact absurd (head?_of_isDirective directive rfl) unmarked
    | comment marked _ _ => exact absurd marked unmarked
    | rule _ spelled _ _ =>
        obtain ⟨letter, _, spelled⟩ := spelled
        simp [nothing] at spelled
  · rintro rfl
    exact .blank nothing

theorem isStatement_iff_of_unmarked {line : List Char} {statement : Statement}
    (something : words line ≠ []) (unmarked : (line.dropWhile isBlank).head? ≠ some '#') :
    IsStatement line statement ↔
      ∃ fields : RuleFields, statement = .rule fields ∧ fields.Spells (words line) ∧
        IsNumeral fields.read ∧ IsNumeral fields.write := by
  constructor
  · intro holds
    cases holds with
    | blank nothing => exact absurd nothing something
    | assembly directive => exact absurd (head?_of_isDirective directive rfl) unmarked
    | source directive => exact absurd (head?_of_isDirective directive rfl) unmarked
    | comment marked _ _ => exact absurd marked unmarked
    | rule _ spelled read write => exact ⟨_, rfl, spelled, read, write⟩
  · rintro ⟨fields, rfl, spelled, read, write⟩
    exact .rule unmarked spelled read write

theorem readStatement_of_blank {line : List Char} (nothing : words line = []) :
    readStatement line = .ok .blank := by
  have start : (Cursor.ofLine line).skipBlanks.rest = line.dropWhile isBlank := rfl
  simp [readStatement, start, words_eq_nil_iff.mp nothing]

theorem readStatement_of_marked {line : List Char}
    (marked : (line.dropWhile isBlank).head? = some '#') :
    readStatement line =
      match afterWord? "#asm".toList (line.dropWhile isBlank) with
      | some text => .ok (.assembly text)
      | none =>
        match afterWord? "#program".toList (line.dropWhile isBlank) with
        | some text => .ok (.source text)
        | none => .ok .comment := by
  have start : (Cursor.ofLine line).skipBlanks.rest = line.dropWhile isBlank := rfl
  cases behind : line.dropWhile isBlank with
  | nil => simp [behind] at marked
  | cons c rest =>
      obtain rfl : c = '#' := by simpa [behind] using marked
      cases assembly : afterWord? "#asm".toList ('#' :: rest) with
      | some text => simp only [readStatement, start, behind, assembly]
      | none =>
          cases source : afterWord? "#program".toList ('#' :: rest) with
          | some text => simp only [readStatement, start, behind, assembly, source]
          | none => simp only [readStatement, start, behind, assembly, source]

theorem readStatement_of_unmarked {line : List Char} (something : words line ≠ [])
    (unmarked : (line.dropWhile isBlank).head? ≠ some '#') :
    readStatement line = (readRule (Cursor.ofLine line).skipBlanks).map .rule := by
  have start : (Cursor.ofLine line).skipBlanks.rest = line.dropWhile isBlank := rfl
  cases behind : line.dropWhile isBlank with
  | nil => exact absurd (words_eq_nil_iff.mpr behind) something
  | cons c rest =>
      have other : c ≠ '#' := by simpa [behind] using unmarked
      simp [readStatement, start, behind, other]

theorem readStatement_eq_ok_iff_of_marked {line : List Char} {statement : Statement}
    (marked : (line.dropWhile isBlank).head? = some '#') :
    readStatement line = .ok statement ↔ IsStatement line statement := by
  rw [readStatement_of_marked marked]
  constructor
  · intro read
    split at read
    · rename_i text found
      obtain rfl := Except.ok.inj read
      exact .assembly (isDirective_iff.mpr found)
    · rename_i noAssembly
      split at read
      · rename_i text found
        obtain rfl := Except.ok.inj read
        exact .source (isDirective_iff.mpr found)
      · rename_i noSource
        obtain rfl := Except.ok.inj read
        exact .comment marked (forall_not_isDirective_iff.mpr noAssembly)
          (forall_not_isDirective_iff.mpr noSource)
  · intro holds
    cases holds with
    | blank nothing => simp [words_eq_nil_iff.mp nothing] at marked
    | assembly directive => rw [isDirective_iff.mp directive]
    | source directive =>
        rw [forall_not_isDirective_iff.mp (not_isDirective_assembly directive),
          isDirective_iff.mp directive]
    | comment _ noAssembly noSource =>
        rw [forall_not_isDirective_iff.mp noAssembly, forall_not_isDirective_iff.mp noSource]
    | rule unmarked _ _ _ => exact absurd marked unmarked

/-- Reading a line gives the statement that it holds. -/
theorem readStatement_eq_ok_iff {line : List Char} {statement : Statement} :
    readStatement line = .ok statement ↔ IsStatement line statement := by
  by_cases marked : (line.dropWhile isBlank).head? = some '#'
  · exact readStatement_eq_ok_iff_of_marked marked
  · by_cases nothing : words line = []
    · rw [readStatement_of_blank nothing, isStatement_iff_of_blank nothing, Except.ok.injEq,
        eq_comm]
    · rw [readStatement_of_unmarked nothing marked, isStatement_iff_of_unmarked nothing marked]
      have spelled (fields : RuleFields) :
          readRule (Cursor.ofLine line).skipBlanks = .ok fields ↔
            fields.Spells (words line) ∧ IsNumeral fields.read ∧ IsNumeral fields.write := by
        rw [readRule_eq_ok_iff (Cursor.bare_skipBlanks _), Cursor.words_skipBlanks]
        rfl
      simp only [← spelled]
      cases readRule (Cursor.ofLine line).skipBlanks with
      | error misreading => simp [Except.map]
      | ok fields => simp [Except.map, eq_comm]

end Program
end TapeWorkbench
