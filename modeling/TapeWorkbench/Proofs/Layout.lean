import Mathlib
import TapeWorkbench.TapeSection

/-!
# The layout of a tape

Which sections a tape has can be said without walking along it.  An opener is a mark
between the first and the last cell that no separator follows; a content cell is one
between them that holds neither a mark nor a separator.  A section begins behind each
opener, and one more at the first cell that can belong to a section; it ends at its
last content cell before the next opener, and is left out if it has none.

The walk keeps these rules for the cells that it has seen (`Walked`), from which they
follow for all cells when it has come to the end (`layout_divides`).
-/

namespace TapeWorkbench

/-- The mark that opens the sections of a color. -/
def SectionColor.mark : SectionColor → Symbol
  | red => .markA
  | green => .markB
  | purple => .markC
  | blue => .storageMark

/-- The name of the register of a color.  Storage sections are numbered instead. -/
def SectionColor.register? : SectionColor → Option String
  | red => some "A"
  | green => some "B"
  | purple => some "C"
  | blue => none

theorem SectionColor.mark_injective {first second : SectionColor}
    (same : first.mark = second.mark) : first = second := by
  cases first <;> cases second <;> first | rfl | cases same

theorem SectionColor.mark_ne_separator (color : SectionColor) :
    color.mark ≠ Symbol.separator := by
  cases color <;> decide

namespace TapeSection

/-- A mark between the first and the last cell that no separator follows opens a section
of its color. -/
structure Opens (tape : Tape) (cell : Nat) (color : SectionColor) : Prop where
  interior : 1 ≤ cell ∧ cell + 1 < tape.size
  marked : tape[cell]? = some color.mark
  followed : tape[cell + 1]? ≠ some Symbol.separator

def IsOpener (tape : Tape) (cell : Nat) : Prop :=
  ∃ color, Opens tape cell color

/-- A cell between the first and the last one holds neither a mark nor a separator. -/
structure HasContent (tape : Tape) (cell : Nat) : Prop where
  interior : 1 ≤ cell ∧ cell + 1 < tape.size
  plain : ∀ symbol, tape[cell]? = some symbol →
    symbol ∉ [Symbol.markA, Symbol.markB, Symbol.markC, Symbol.separator, Symbol.storageMark]

/-- A section begins behind an opener, or it is the storage section at the first cell
that can belong to a section. -/
def Begins (tape : Tape) (first : Nat) (color : SectionColor) : Prop :=
  first = 1 ∧ color = .blue ∨ ∃ mark, first = mark + 1 ∧ Opens tape mark color

/-- There is no opener from the first cell up to the second one. -/
def Unopened (tape : Tape) (first second : Nat) : Prop :=
  ∀ mark, first ≤ mark → mark < second → ¬ IsOpener tape mark

/-- The section that begins at `first` has its last content cell before the next opener
at `last`. -/
structure Reaches (tape : Tape) (first last : Nat) : Prop where
  inhabited : first ≤ last
  content : HasContent tape last
  unopened : Unopened tape first last
  latest : ∀ cell, last < cell → HasContent tape cell →
    ∃ mark, last < mark ∧ mark < cell ∧ IsOpener tape mark

/-- The storage sections among sections. -/
def stored (sections : List TapeSection) : List TapeSection :=
  sections.filter fun tapeSection => tapeSection.color = .blue

/-- The sections are those of the tape. -/
structure Divides (tape : Tape) (sections : List TapeSection) : Prop where
  within : ∀ tapeSection ∈ sections, 1 ≤ tapeSection.first ∧
    tapeSection.first ≤ tapeSection.last ∧ tapeSection.last + 2 ≤ tape.size
  ordered : sections.Pairwise fun left right => left.last < right.first
  begins : ∀ tapeSection ∈ sections, Begins tape tapeSection.first tapeSection.color
  reaches : ∀ tapeSection ∈ sections, Reaches tape tapeSection.first tapeSection.last
  /-- A section is there exactly if it has a content cell. -/
  present (first : Nat) (color : SectionColor) : Begins tape first color →
    ((∃ tapeSection ∈ sections, tapeSection.first = first ∧ tapeSection.color = color) ↔
      ∃ cell, first ≤ cell ∧ HasContent tape cell ∧ Unopened tape first cell)
  /-- A content cell lies in one section, that of the nearest opener to its left. -/
  covers (cell : Nat) : HasContent tape cell →
    ∃ tapeSection ∈ sections, tapeSection.first ≤ cell ∧ cell ≤ tapeSection.last ∧
      Unopened tape tapeSection.first cell ∧
      ∀ other ∈ sections, other.first ≤ cell → cell ≤ other.last → other = tapeSection
  /-- Neither an opener nor the first or last cell lies in a section. -/
  spares : ∀ tapeSection ∈ sections, ∀ cell, tapeSection.first ≤ cell →
    cell ≤ tapeSection.last → ¬ IsOpener tape cell ∧ cell ≠ 0 ∧ cell + 1 ≠ tape.size
  registers : ∀ tapeSection ∈ sections, ∀ name, tapeSection.color.register? = some name →
    tapeSection.name = name
  storage : (stored sections).map name =
    (List.range (stored sections).length).reverse.map fun number => "S" ++ Decimal.numeral number

/-! ## Openers and content -/

theorem openedBy_eq_some {symbol : Symbol} {name : String} {color : SectionColor}
    (opened : openedBy symbol = some (name, color)) :
    symbol = color.mark ∧ ∀ register, color.register? = some register → name = register := by
  unfold openedBy at opened
  split at opened
  · cases opened
    exact ⟨‹_›, fun _ named => Option.some.inj named⟩
  split at opened
  · cases opened
    exact ⟨‹_›, fun _ named => Option.some.inj named⟩
  split at opened
  · cases opened
    exact ⟨‹_›, fun _ named => Option.some.inj named⟩
  split at opened
  · cases opened
    exact ⟨‹_›, fun _ named => nomatch named⟩
  · cases opened

theorem openedBy_mark (color : SectionColor) : (openedBy color.mark).isSome = true := by
  cases color <;> rfl

theorem openedBy_eq_none {symbol : Symbol} (unmarked : openedBy symbol = none)
    (color : SectionColor) : symbol ≠ color.mark := by
  rintro rfl
  have opened := openedBy_mark color
  simp [unmarked] at opened

theorem Opens.unique {tape : Tape} {cell : Nat} {first second : SectionColor}
    (one : Opens tape cell first) (other : Opens tape cell second) : first = second :=
  SectionColor.mark_injective (Option.some.inj (one.marked.symm.trans other.marked))

theorem not_hasContent_of_mark {tape : Tape} {cell : Nat} {color : SectionColor}
    (marked : tape[cell]? = some color.mark) : ¬ HasContent tape cell := by
  intro content
  have plain := content.plain _ marked
  cases color <;> simp [SectionColor.mark] at plain

theorem not_hasContent_of_separator {tape : Tape} {cell : Nat}
    (separates : tape[cell]? = some Symbol.separator) : ¬ HasContent tape cell := by
  intro content
  simpa using content.plain _ separates

theorem not_isOpener_of_unmarked {tape : Tape} {cell : Nat} {symbol : Symbol}
    (read : tape[cell]? = some symbol) (unmarked : ∀ color : SectionColor, symbol ≠ color.mark) :
    ¬ IsOpener tape cell := by
  rintro ⟨color, opens⟩
  exact unmarked color (Option.some.inj (read.symm.trans opens.marked))

theorem not_isOpener_of_separated {tape : Tape} {cell : Nat}
    (followed : tape[cell + 1]? = some Symbol.separator) : ¬ IsOpener tape cell := by
  rintro ⟨color, opens⟩
  exact opens.followed followed

theorem Begins.isOpener {tape : Tape} {first : Nat} {color : SectionColor}
    (begins : Begins tape (first + 1) color) (later : 1 ≤ first) : Opens tape first color := by
  rcases begins with ⟨implicit, _⟩ | ⟨mark, same, opens⟩
  · omega
  · obtain rfl : first = mark := by omega
    exact opens

/-- Some section begins at the nearest opener to the left of a cell. -/
theorem exists_begins (tape : Tape) {cell : Nat} (positive : 1 ≤ cell) :
    ∃ first color, Begins tape first color ∧ first ≤ cell ∧ Unopened tape first cell := by
  induction cell, positive using Nat.le_induction with
  | base => exact ⟨1, .blue, .inl ⟨rfl, rfl⟩, le_rfl, fun mark _ _ => by omega⟩
  | succ cell _ ih =>
      by_cases opener : IsOpener tape cell
      · obtain ⟨color, opens⟩ := opener
        exact ⟨cell + 1, color, .inr ⟨cell, rfl, opens⟩, le_rfl, fun mark _ _ => by omega⟩
      · obtain ⟨first, color, begins, before, unopened⟩ := ih
        refine ⟨first, color, begins, by omega, fun mark low high => ?_⟩
        rcases Nat.lt_succ_iff_lt_or_eq.mp high with high | rfl
        · exact unopened mark low high
        · exact opener

/-! ## The walk -/

/-- A section, perhaps still without a cell, as far as the cells below a limit tell. -/
structure Spans (tape : Tape) (limit : Nat) (tapeSection : TapeSection) : Prop where
  begins : Begins tape tapeSection.first tapeSection.color
  first_le : tapeSection.first ≤ tapeSection.last + 1
  last_lt : tapeSection.last < limit
  content : tapeSection.first ≤ tapeSection.last → HasContent tape tapeSection.last
  unopened : Unopened tape tapeSection.first (tapeSection.last + 1)
  latest : ∀ cell, tapeSection.last < cell → cell < limit → HasContent tape cell →
    ∃ mark, tapeSection.last < mark ∧ mark < cell ∧ IsOpener tape mark
  register : ∀ name, tapeSection.color.register? = some name → tapeSection.name = name

/-- What the walk knows when it has seen the cells below a limit. -/
structure Walked (tape : Tape) (limit : Nat) (current : TapeSection)
    (closed : List TapeSection) : Prop where
  positive : 1 ≤ limit
  spans : ∀ tapeSection ∈ current :: closed, Spans tape limit tapeSection
  unopened : Unopened tape current.first limit
  ordered : (current :: closed).Pairwise fun later earlier => earlier.last + 1 < later.first
  complete : ∀ first color, Begins tape first color → first ≤ limit →
    ∃ tapeSection ∈ current :: closed, tapeSection.first = first ∧ tapeSection.color = color

theorem Begins.positive {tape : Tape} {first : Nat} {color : SectionColor}
    (begins : Begins tape first color) : 1 ≤ first := by
  rcases begins with ⟨rfl, _⟩ | ⟨mark, rfl, _⟩
  · exact le_rfl
  · omega

theorem Spans.pass {tape : Tape} {limit : Nat} {tapeSection : TapeSection}
    (spans : Spans tape limit tapeSection)
    (seen : HasContent tape limit →
      ∃ mark, tapeSection.last < mark ∧ mark < limit ∧ IsOpener tape mark) :
    Spans tape (limit + 1) tapeSection :=
  { spans with
    last_lt := spans.last_lt.trans (Nat.lt_succ_self limit)
    latest := by
      intro cell after before content
      rcases Nat.lt_succ_iff_lt_or_eq.mp before with before | rfl
      · exact spans.latest cell after before content
      · exact seen content }

theorem Unopened.pass {tape : Tape} {first limit : Nat} (unopened : Unopened tape first limit)
    (closed : ¬ IsOpener tape limit) : Unopened tape first (limit + 1) := by
  intro mark low high
  rcases Nat.lt_succ_iff_lt_or_eq.mp high with high | rfl
  · exact unopened mark low high
  · exact closed

namespace Walked

variable {tape : Tape} {limit : Nat} {current : TapeSection} {closed : List TapeSection}

theorem begin (tape : Tape) : Walked tape 1 (opened "S" .blue 1) [] where
  positive := le_rfl
  spans := by
    intro tapeSection member
    obtain rfl := List.mem_singleton.mp member
    refine ⟨.inl ⟨rfl, rfl⟩, le_rfl, Nat.zero_lt_one, fun inhabited => ?_, fun mark low high => ?_,
      fun cell after before => ?_, fun name named => ?_⟩
    · simp [opened] at inhabited
    · simp only [opened] at low high
      omega
    · simp only [opened] at after
      omega
    · cases named
  unopened := by
    intro mark low high
    simp only [opened] at low
    omega
  ordered := List.pairwise_singleton _ _
  complete := by
    rintro first color begins bounded
    have positive := begins.positive
    obtain rfl : first = 1 := by omega
    rcases begins with ⟨_, rfl⟩ | ⟨mark, same, opens⟩
    · exact ⟨_, List.mem_singleton_self _, rfl, rfl⟩
    · have interior := opens.interior.1
      omega

/-- What begins behind the next cell, begins at an opener. -/
theorem complete_succ (walked : Walked tape limit current closed) {first : Nat}
    {color : SectionColor} (begins : Begins tape first color) (bounded : first ≤ limit + 1) :
    Opens tape limit color ∧ first = limit + 1 ∨
      ∃ tapeSection ∈ current :: closed, tapeSection.first = first ∧ tapeSection.color = color := by
  rcases Nat.le_succ_iff.mp bounded with bounded | rfl
  · exact .inr (walked.complete first color begins bounded)
  · exact .inl ⟨begins.isOpener walked.positive, rfl⟩

/-- A cell that is neither an opener nor content changes nothing. -/
theorem pass (walked : Walked tape limit current closed) (plain : ¬ HasContent tape limit)
    (closes : ¬ IsOpener tape limit) : Walked tape (limit + 1) current closed where
  positive := walked.positive.trans (Nat.le_succ limit)
  spans tapeSection member :=
    (walked.spans tapeSection member).pass fun content => absurd content plain
  unopened := walked.unopened.pass closes
  ordered := walked.ordered
  complete := by
    intro first color begins bounded
    rcases walked.complete_succ begins bounded with ⟨opens, _⟩ | found
    · exact absurd ⟨color, opens⟩ closes
    · exact found

/-- An opener closes the current section and opens another one. -/
theorem open_next (walked : Walked tape limit current closed) {name : String}
    {color : SectionColor} (opens : Opens tape limit color)
    (named : ∀ register, color.register? = some register → name = register) :
    Walked tape (limit + 1) (opened name color (limit + 1)) (current :: closed) where
  positive := walked.positive.trans (Nat.le_succ limit)
  spans := by
    intro tapeSection member
    rcases List.mem_cons.mp member with rfl | member
    · refine ⟨.inr ⟨limit, rfl, opens⟩, le_rfl, Nat.lt_succ_self limit, fun inhabited => ?_,
        fun mark low high => ?_, fun cell after before => ?_, named⟩
      · simp [opened] at inhabited
      · simp only [opened] at low high
        omega
      · simp only [opened] at after
        omega
    · have plain := not_hasContent_of_mark opens.marked
      exact (walked.spans tapeSection member).pass fun content => absurd content plain
  unopened := by
    intro mark low high
    simp only [opened] at low
    omega
  ordered := by
    refine List.pairwise_cons.mpr ⟨fun earlier member => ?_, walked.ordered⟩
    have bounded := (walked.spans earlier member).last_lt
    simp only [opened]
    omega
  complete := by
    intro first other begins bounded
    rcases walked.complete_succ begins bounded with ⟨opens', rfl⟩ | ⟨found, member, same⟩
    · exact ⟨_, List.mem_cons_self, rfl, opens.unique opens'⟩
    · exact ⟨found, List.mem_cons_of_mem _ member, same⟩

/-- A content cell belongs to the current section. -/
theorem extend (walked : Walked tape limit current closed) (content : HasContent tape limit)
    (closes : ¬ IsOpener tape limit) :
    Walked tape (limit + 1) { current with last := limit } closed where
  positive := walked.positive.trans (Nat.le_succ limit)
  spans := by
    have open_ := walked.spans current List.mem_cons_self
    intro tapeSection member
    rcases List.mem_cons.mp member with rfl | member
    · have low := open_.first_le
      have high := open_.last_lt
      refine ⟨open_.begins, ?_, Nat.lt_succ_self limit, fun _ => content,
        walked.unopened.pass closes, fun cell after before => ?_, open_.register⟩
      · change current.first ≤ limit + 1
        omega
      · change limit < cell at after
        omega
    · -- the opener of the current section stands between the closed ones and the cell
      refine (walked.spans tapeSection (List.mem_cons_of_mem _ member)).pass fun _ => ?_
      have before := (List.pairwise_cons.mp walked.ordered).1 tapeSection member
      have low := open_.first_le
      have high := open_.last_lt
      rcases open_.begins with ⟨implicit, _⟩ | ⟨mark, first, opens⟩
      · omega
      · exact ⟨mark, by omega, by omega, current.color, opens⟩
  unopened := walked.unopened.pass closes
  ordered := by
    obtain ⟨last, rest⟩ := List.pairwise_cons.mp walked.ordered
    exact List.pairwise_cons.mpr ⟨last, rest⟩
  complete := by
    intro first color begins bounded
    rcases walked.complete_succ begins bounded with ⟨opens, _⟩ | ⟨found, member, same⟩
    · exact absurd ⟨color, opens⟩ closes
    · rcases List.mem_cons.mp member with rfl | member
      · exact ⟨_, List.mem_cons_self, same⟩
      · exact ⟨found, List.mem_cons_of_mem _ member, same⟩

end Walked

theorem getElem?_of_drop {tape : Tape} {index : Nat} {symbol next : Symbol}
    {rest : List Symbol} (cells : tape.toList.drop index = symbol :: next :: rest) :
    tape[index]? = some symbol ∧ tape[index + 1]? = some next ∧ index + 1 < tape.size ∧
      tape.toList.drop (index + 1) = next :: rest := by
  have here : (tape.toList.drop index)[0]? = some symbol := by simp [cells]
  have there : (tape.toList.drop index)[1]? = some next := by simp [cells]
  rw [List.getElem?_drop, Array.getElem?_toList] at here there
  have bounded : index + 1 < tape.size := by
    have found := (Array.getElem?_eq_some_iff.mp there).1
    omega
  refine ⟨here, there, bounded, ?_⟩
  rw [← List.drop_drop, cells]
  rfl

/-- The walk to the end of the tape. -/
theorem walked_divide {tape : Tape} {index : Nat} {cells : List Symbol}
    {current : TapeSection} {closed : List TapeSection}
    (walked : Walked tape index current closed) (cells_eq : tape.toList.drop index = cells) :
    ∃ limit last earlier, divide index cells current closed = (last :: earlier).reverse ∧
      tape.size ≤ limit + 1 ∧ Walked tape limit last earlier := by
  -- by the recursion of the walk, which never reads the last cell
  induction index, cells, current, closed using divide.induct with
  | case1 index current closed next rest ih =>
      obtain ⟨read, _, _, further⟩ := getElem?_of_drop cells_eq
      have closes := not_isOpener_of_unmarked read fun color => color.mark_ne_separator.symm
      rw [divide, if_pos rfl]
      exact ih (walked.pass (not_hasContent_of_separator read) closes) further
  | case2 index current closed symbol rest separates name color opening ih =>
      obtain ⟨read, followed, _, further⟩ := getElem?_of_drop cells_eq
      obtain ⟨rfl, _⟩ := openedBy_eq_some opening
      rw [divide, if_neg separates, opening]
      exact ih (walked.pass (not_hasContent_of_mark read) (not_isOpener_of_separated followed))
        further
  | case3 index current closed symbol next rest separates name color opening followed ih =>
      obtain ⟨read, read', bounded, further⟩ := getElem?_of_drop cells_eq
      obtain ⟨rfl, named⟩ := openedBy_eq_some opening
      have opens : Opens tape index color :=
        ⟨⟨walked.positive, bounded⟩, read, by simpa [read'] using followed⟩
      rw [divide, if_neg separates, opening]
      simp only [if_neg followed]
      exact ih (walked.open_next opens named) further
  | case4 index current closed symbol next rest separates unmarked ih =>
      obtain ⟨read, _, bounded, further⟩ := getElem?_of_drop cells_eq
      have closes := not_isOpener_of_unmarked read (openedBy_eq_none unmarked)
      have content : HasContent tape index := by
        refine ⟨⟨walked.positive, bounded⟩, fun other found => ?_⟩
        obtain rfl : symbol = other := Option.some.inj (read.symm.trans found)
        have differs := openedBy_eq_none unmarked
        simp only [List.mem_cons, List.not_mem_nil, or_false, not_or]
        exact ⟨differs .red, differs .green, differs .purple, separates, differs .blue⟩
      rw [divide, if_neg separates, unmarked]
      exact ih (walked.extend content closes) further
  | case5 cells index current closed short =>
      refine ⟨index, current, closed, ?_, ?_, walked⟩
      · rcases cells with _ | ⟨symbol, _ | ⟨next, rest⟩⟩
        · rfl
        · rfl
        · exact (short symbol next rest rfl).elim
      · by_contra longer
        have counted : (tape.toList.drop index).length = tape.size - index := by simp
        rcases cells with _ | ⟨symbol, _ | ⟨next, rest⟩⟩
        · simp only [cells_eq, List.length_nil] at counted
          omega
        · simp only [cells_eq, List.length_singleton] at counted
          omega
        · exact short symbol next rest rfl

/-! ## The numbers of the storage sections -/

/-- A section without the number of a storage section. -/
def unnumbered (tapeSection : TapeSection) : TapeSection :=
  match tapeSection.color with
  | .blue => { tapeSection with name := "S" }
  | _ => tapeSection

@[simp]
theorem first_unnumbered (tapeSection : TapeSection) :
    tapeSection.unnumbered.first = tapeSection.first := by
  unfold unnumbered
  split <;> rfl

@[simp]
theorem last_unnumbered (tapeSection : TapeSection) :
    tapeSection.unnumbered.last = tapeSection.last := by
  unfold unnumbered
  split <;> rfl

theorem unnumbered_eq_unnumbered {one other : TapeSection}
    (same : unnumbered one = unnumbered other) :
    one.first = other.first ∧ one.last = other.last ∧ one.color = other.color ∧
      (one.color ≠ .blue → one.name = other.name) := by
  rcases one with ⟨_, _, _, _ | _, _⟩ <;> rcases other with ⟨_, _, _, _ | _, _⟩ <;>
    simp_all [unnumbered]

/-- The walk from the right has counted the storage sections that it has passed. -/
theorem foldr_numberNext (sections : List TapeSection) :
    sections.foldr numberNext ([], 0) = (numberStorage sections, (stored sections).length) := by
  refine Prod.ext rfl ?_
  induction sections with
  | nil => rfl
  | cons tapeSection rest ih =>
      cases color : tapeSection.color <;> simp [numberNext, stored, color] at ih ⊢ <;> exact ih

theorem numberStorage_cons_of_blue {tapeSection : TapeSection} (blue : tapeSection.color = .blue)
    (rest : List TapeSection) :
    numberStorage (tapeSection :: rest) =
      { tapeSection with name := "S" ++ Decimal.numeral (stored rest).length } ::
        numberStorage rest := by
  rw [numberStorage, List.foldr_cons, foldr_numberNext]
  simp only [numberNext, blue]

theorem numberStorage_cons_of_ne_blue {tapeSection : TapeSection}
    (register : tapeSection.color ≠ .blue) (rest : List TapeSection) :
    numberStorage (tapeSection :: rest) = tapeSection :: numberStorage rest := by
  rw [numberStorage, List.foldr_cons, foldr_numberNext]
  cases color : tapeSection.color <;> simp only [numberNext, color]
  exact absurd color register

/-- Numbering changes nothing but the names of storage sections. -/
theorem map_unnumbered_numberStorage (sections : List TapeSection) :
    (numberStorage sections).map unnumbered = sections.map unnumbered := by
  induction sections with
  | nil => rfl
  | cons tapeSection rest ih =>
      by_cases blue : tapeSection.color = .blue
      · rw [numberStorage_cons_of_blue blue, List.map_cons, List.map_cons, ih]
        simp [unnumbered, blue]
      · rw [numberStorage_cons_of_ne_blue blue, List.map_cons, List.map_cons, ih]

theorem length_stored_numberStorage (sections : List TapeSection) :
    (stored (numberStorage sections)).length = (stored sections).length := by
  induction sections with
  | nil => rfl
  | cons tapeSection rest ih =>
      by_cases blue : tapeSection.color = .blue
      · rw [numberStorage_cons_of_blue blue]
        simpa [stored, blue] using ih
      · rw [numberStorage_cons_of_ne_blue blue]
        simpa [stored, blue] using ih

theorem names_stored_numberStorage (sections : List TapeSection) :
    (stored (numberStorage sections)).map name =
      (List.range (stored sections).length).reverse.map fun number =>
        "S" ++ Decimal.numeral number := by
  induction sections with
  | nil => rfl
  | cons tapeSection rest ih =>
      by_cases blue : tapeSection.color = .blue
      · rw [numberStorage_cons_of_blue blue]
        simp only [stored] at ih ⊢
        simp [blue, ih, List.range_succ]
      · rw [numberStorage_cons_of_ne_blue blue]
        simpa [stored, blue] using ih

/-! ## The sections of a tape -/

theorem Spans.of_unnumbered {tape : Tape} {limit : Nat} {before after : TapeSection}
    (spans : Spans tape limit before) (same : unnumbered after = unnumbered before) :
    Spans tape limit after := by
  obtain ⟨first, last, color, named⟩ := unnumbered_eq_unnumbered same
  have register : ∀ name, after.color.register? = some name → after.name = name := by
    intro name registered
    have colored : after.color ≠ .blue := by
      rintro blue
      simp [blue, SectionColor.register?] at registered
    rw [named colored]
    exact spans.register name (color ▸ registered)
  exact {
    begins := by rw [first, color]; exact spans.begins
    first_le := by rw [first, last]; exact spans.first_le
    last_lt := by rw [last]; exact spans.last_lt
    content := by rw [first, last]; exact spans.content
    unopened := by rw [first, last]; exact spans.unopened
    latest := by rw [last]; exact spans.latest
    register }

/-- Inhabited sections that a walk to the end of the tape has found. -/
structure Found (tape : Tape) (limit : Nat) (sections : List TapeSection) : Prop where
  seen : tape.size ≤ limit + 1
  inhabited : ∀ tapeSection ∈ sections, tapeSection.first ≤ tapeSection.last
  spans : ∀ tapeSection ∈ sections, Spans tape limit tapeSection
  ordered : sections.Pairwise fun left right => left.last < right.first
  complete : ∀ first color cell, Begins tape first color → first ≤ cell →
    HasContent tape cell → Unopened tape first cell →
    ∃ tapeSection ∈ sections, tapeSection.first = first ∧ tapeSection.color = color

theorem Walked.found {tape : Tape} {limit : Nat} {last : TapeSection}
    {earlier : List TapeSection} (walked : Walked tape limit last earlier)
    (seen : tape.size ≤ limit + 1) :
    Found tape limit ((last :: earlier).reverse.filter isInhabited) where
  seen := seen
  inhabited := by
    intro tapeSection member
    simpa [isInhabited] using (List.mem_filter.mp member).2
  spans := by
    intro tapeSection member
    exact walked.spans tapeSection (List.mem_reverse.mp (List.mem_filter.mp member).1)
  ordered := by
    have reversed : (last :: earlier).reverse.Pairwise fun left right =>
        left.last + 1 < right.first := List.pairwise_reverse.mpr walked.ordered
    exact (reversed.imp fun gap => by omega).filter _
  complete := by
    intro first color cell begins before content unopened
    have bounded := content.interior.2
    obtain ⟨tapeSection, member, rfl, rfl⟩ := walked.complete first color begins (by omega)
    have spans := walked.spans tapeSection member
    refine ⟨tapeSection, List.mem_filter.mpr ⟨List.mem_reverse.mpr member, ?_⟩, rfl, rfl⟩
    by_contra empty
    have empty : tapeSection.last < tapeSection.first := by simpa [isInhabited] using empty
    -- an opener would stand between the beginning and the content cell
    obtain ⟨mark, after, within, opener⟩ := spans.latest cell (by omega) (by omega) content
    have tight := spans.first_le
    exact unopened mark (by omega) within opener

/-- What has been found does not depend on the names of the storage sections. -/
theorem Found.of_unnumbered {tape : Tape} {limit : Nat} {before after : List TapeSection}
    (found : Found tape limit before) (same : after.map unnumbered = before.map unnumbered) :
    Found tape limit after := by
  have original : ∀ tapeSection ∈ after, ∃ other ∈ before,
      unnumbered tapeSection = unnumbered other := by
    intro tapeSection member
    have mapped : unnumbered tapeSection ∈ after.map unnumbered := List.mem_map_of_mem member
    rw [same] at mapped
    obtain ⟨other, member, same⟩ := List.mem_map.mp mapped
    exact ⟨other, member, same.symm⟩
  exact {
    seen := found.seen
    inhabited := by
      intro tapeSection member
      obtain ⟨other, member, same⟩ := original tapeSection member
      obtain ⟨first, last, _⟩ := unnumbered_eq_unnumbered same
      rw [first, last]
      exact found.inhabited other member
    spans := by
      intro tapeSection member
      obtain ⟨other, member, same⟩ := original tapeSection member
      exact (found.spans other member).of_unnumbered same
    ordered := by
      have ordered : (before.map unnumbered).Pairwise fun left right => left.last < right.first :=
        List.pairwise_map.mpr (by simpa using found.ordered)
      rw [← same] at ordered
      simpa using List.pairwise_map.mp ordered
    complete := by
      intro first color cell begins bounded content unopened
      obtain ⟨other, member, rfl, rfl⟩ :=
        found.complete first color cell begins bounded content unopened
      have mapped : unnumbered other ∈ before.map unnumbered := List.mem_map_of_mem member
      rw [← same] at mapped
      obtain ⟨tapeSection, member, same⟩ := List.mem_map.mp mapped
      obtain ⟨first, _, color, _⟩ := unnumbered_eq_unnumbered same
      exact ⟨tapeSection, member, first, color⟩ }

theorem Found.reaches {tape : Tape} {limit : Nat} {sections : List TapeSection}
    (found : Found tape limit sections) {tapeSection : TapeSection}
    (member : tapeSection ∈ sections) : Reaches tape tapeSection.first tapeSection.last := by
  have inhabited := found.inhabited tapeSection member
  have spans := found.spans tapeSection member
  refine ⟨inhabited, spans.content inhabited, fun mark low high => ?_, fun cell after content => ?_⟩
  · exact spans.unopened mark low (high.trans (Nat.lt_succ_self _))
  · have bounded := content.interior.2
    have seen := found.seen
    exact spans.latest cell after (by omega) content

/-- Sections in order of which a cell lies in both are the same. -/
theorem eq_of_overlap {sections : List TapeSection}
    (ordered : sections.Pairwise fun left right => left.last < right.first)
    {one other : TapeSection} (one_mem : one ∈ sections) (other_mem : other ∈ sections)
    {cell : Nat} (one_first : one.first ≤ cell) (one_last : cell ≤ one.last)
    (other_first : other.first ≤ cell) (other_last : cell ≤ other.last) : one = other := by
  by_contra distinct
  have apart : sections.Pairwise fun left right =>
      left.last < right.first ∨ right.last < left.first := ordered.imp Or.inl
  have symmetric : Std.Symm fun left right : TapeSection =>
      left.last < right.first ∨ right.last < left.first := ⟨fun _ _ => Or.symm⟩
  rcases apart.forall one_mem other_mem distinct with before | after
  · omega
  · omega

theorem Found.divides {tape : Tape} {limit : Nat} {sections : List TapeSection}
    (found : Found tape limit sections)
    (storage : (stored sections).map name =
      (List.range (stored sections).length).reverse.map fun number =>
        "S" ++ Decimal.numeral number) :
    Divides tape sections where
  within := by
    intro tapeSection member
    have reaches := found.reaches member
    have bounded := reaches.content.interior.2
    exact ⟨(found.spans tapeSection member).begins.positive, reaches.inhabited, by omega⟩
  ordered := found.ordered
  begins tapeSection member := (found.spans tapeSection member).begins
  reaches tapeSection member := found.reaches member
  present := by
    intro first color begins
    constructor
    · rintro ⟨tapeSection, member, rfl, rfl⟩
      have reaches := found.reaches member
      exact ⟨tapeSection.last, reaches.inhabited, reaches.content, reaches.unopened⟩
    · rintro ⟨cell, before, content, unopened⟩
      exact found.complete first color cell begins before content unopened
  covers := by
    intro cell content
    obtain ⟨first, color, begins, before, unopened⟩ := exists_begins tape content.interior.1
    obtain ⟨tapeSection, member, rfl, rfl⟩ :=
      found.complete first color cell begins before content unopened
    have reaches := found.reaches member
    have within : cell ≤ tapeSection.last := by
      by_contra beyond
      obtain ⟨mark, after, earlier, opener⟩ := reaches.latest cell (by omega) content
      have inhabited := reaches.inhabited
      exact unopened mark (by omega) earlier opener
    refine ⟨tapeSection, member, before, within, unopened, fun other other_mem low high => ?_⟩
    exact eq_of_overlap found.ordered other_mem member low high before within
  spares := by
    intro tapeSection member cell low high
    have spans := found.spans tapeSection member
    have positive := spans.begins.positive
    have bounded := (found.reaches member).content.interior.2
    exact ⟨spans.unopened cell low (by omega), by omega, by omega⟩
  registers tapeSection member := (found.spans tapeSection member).register
  storage := storage

/-- The sections of the layout are those found on a walk over the tape. -/
theorem exists_found_layout (tape : Tape) : ∃ limit, Found tape limit (layout tape) := by
  obtain ⟨limit, last, earlier, walk, seen, walked⟩ := walked_divide (Walked.begin tape) rfl
  refine ⟨limit, ?_⟩
  rw [layout, walk]
  exact (walked.found seen).of_unnumbered (map_unnumbered_numberStorage _)

/-- Every section of the layout has a cell, and all its cells are on the tape. -/
theorem range_layout {tape : Tape} {tapeSection : TapeSection}
    (member : tapeSection ∈ layout tape) :
    tapeSection.first ≤ tapeSection.last ∧ tapeSection.last < tape.size := by
  obtain ⟨limit, found⟩ := exists_found_layout tape
  have reaches := found.reaches member
  have interior := reaches.content.interior
  exact ⟨reaches.inhabited, by omega⟩

/-- The layout has the sections of the tape. -/
theorem layout_divides (tape : Tape) :
    Divides tape (layout tape) ∧ (tape.size < 3 → layout tape = []) := by
  have divides : Divides tape (layout tape) := by
    obtain ⟨limit, last, earlier, walk, seen, walked⟩ :=
      walked_divide (Walked.begin tape) rfl
    rw [layout, walk]
    refine ((walked.found seen).of_unnumbered (map_unnumbered_numberStorage _)).divides ?_
    rw [names_stored_numberStorage, length_stored_numberStorage]
  refine ⟨divides, fun short => List.eq_nil_iff_forall_not_mem.mpr fun tapeSection member => ?_⟩
  obtain ⟨positive, ordered, bounded⟩ := divides.within tapeSection member
  omega

example : (layout #[5, 1, 4, 2, 5, 0, 5, 3, 6, 1, 1, 5]).map (fun tapeSection =>
    (tapeSection.color, tapeSection.first, tapeSection.last)) =
      [(.blue, 1, 1), (.purple, 3, 5), (.blue, 9, 10)] := by
  decide

end TapeSection
end TapeWorkbench
