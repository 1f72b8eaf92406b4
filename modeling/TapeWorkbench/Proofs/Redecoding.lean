import TapeWorkbench.Proofs.Decoding
import TapeWorkbench.Proofs.Fitting

/-!
# Decoding sections anew

Sections are decoded on a tape that need not be the one they were laid out on, and some were never
laid out but read from a document.  So their ranges can be anything: empty, in reverse order,
reaching past the tape, or ending with the largest size, which has no size behind it.  The cells
of every range are looked up without a size going beyond its bound
(`TapeSection.redecodeChecked_eq`).

What a section shows then is a function of what the tape holds at the indices in its range
(`TapeSection.decodeOn_eq_of_readRange_eq`).  Nothing is kept of what it has shown before, so of
several tapes the last one counts (`TapeSection.foldlM_redecodeChecked`).
-/

namespace TapeWorkbench

open JsonForm (sizeBound)

namespace Checked

def largestSize : Nat := sizeBound - 1

/-- The cells from one index to another, both included, if the tape has them.  They are looked up
with the index behind the last of them, so a range that ends with the largest size is never
there, and one that ends right in front of its first index is there without any cells. -/
def cellsBetween (tape : Tape) (first last : Nat) : Option (Option (List Symbol)) :=
  if last = largestSize then
    some none
  else do
    let limit ← plus sizeBound last 1
    if first ≤ limit ∧ limit ≤ tape.size then
      let count ← minus limit first
      return some ((tape.toList.drop first).take count)
    else
      return none

/-- Nothing goes wrong in looking up cells, wherever they are. -/
theorem cellsBetween_eq {tape : Tape} {first last : Nat} (size : last < sizeBound)
    (short : tape.size < sizeBound) :
    cellsBetween tape first last =
      some (if first ≤ last + 1 ∧ last < tape.size then
        some (tape.extract first (last + 1)).toList else none) := by
  unfold cellsBetween largestSize
  split
  · rw [if_neg (by omega)]
  · have limited : last + 1 < sizeBound := by omega
    simp only [plus_eq limited, Option.bind_eq_bind, Option.bind_some, Nat.succ_le_iff]
    split
    · rename_i inside
      rw [minus_eq inside.1, Array.toList_extract, List.extract_eq_take_drop]
      rfl
    · rfl

end Checked

namespace TapeSection

/-! ## Looking cells up -/

/-- The decoded value of a section's range on a tape, if the range is there. -/
def decodeRangeChecked (tape : Tape) (tapeSection : TapeSection) : Option String := do
  match ← Checked.cellsBetween tape tapeSection.first tapeSection.last with
  | some cells => decodeChecked cells
  | none => return undecodable

/-- Decode one section after the other, leaving ranges, names and colors alone. -/
def redecodeChecked (sections : List TapeSection) (tape : Tape) : Option (List TapeSection) :=
  sections.mapM fun tapeSection => do
    let value ← tapeSection.decodeRangeChecked tape
    return { tapeSection with value }

theorem decodeRangeChecked_eq {tape : Tape} {tapeSection : TapeSection}
    (fits : tapeSection.Fits) (short : tape.size < sizeBound) :
    tapeSection.decodeRangeChecked tape = some (tapeSection.decodeOn tape) := by
  rw [decodeRangeChecked, Checked.cellsBetween_eq fits.last short]
  by_cases found : tapeSection.first ≤ tapeSection.last + 1 ∧ tapeSection.last < tape.size
  · rw [if_pos found]
    refine (decodeChecked_eq _).trans (congrArg some ?_)
    by_cases ordered : tapeSection.first ≤ tapeSection.last
    · exact (decodeOn_of_inside ordered found.2).symm
    -- the range begins right behind its last index: it is found, but there is nothing to decode
    · have empty : tape.extract tapeSection.first (tapeSection.last + 1) = #[] :=
        Array.extract_eq_empty_of_le (by omega)
      rw [empty, decodeOn_of_not_inside fun inside => ordered inside.1]
      rfl
  · rw [if_neg found, decodeOn_of_not_inside fun inside => found ⟨by omega, inside.2⟩]
    rfl

theorem redecodeChecked_eq {sections : List TapeSection} {tape : Tape}
    (fit : ∀ tapeSection ∈ sections, tapeSection.Fits) (short : tape.size < sizeBound) :
    redecodeChecked sections tape = some (updateAll sections tape) :=
  mapM_eq_updateAll fun tapeSection member => decodeRangeChecked_eq (fit tapeSection member) short

/-- Of several tapes only the last one counts. -/
theorem foldlM_redecodeChecked {sections : List TapeSection} {earlier : List Tape} {tape : Tape}
    (fit : ∀ tapeSection ∈ sections, tapeSection.Fits)
    (short : ∀ other ∈ earlier ++ [tape], other.size < sizeBound) :
    (earlier ++ [tape]).foldlM redecodeChecked sections = some (updateAll sections tape) := by
  induction earlier generalizing sections with
  | nil =>
      rw [List.nil_append, List.foldlM_cons, redecodeChecked_eq fit (short tape (by simp))]
      rfl
  | cons first earlier ih =>
      rw [List.cons_append, List.forall_mem_cons] at short
      rw [List.cons_append, List.foldlM_cons, redecodeChecked_eq fit short.1, Option.bind_eq_bind,
        Option.bind_some, ih (fits_updateAll fit first) short.2, updateAll_updateAll]

/-! ## What a section depends on -/

/-- What a tape holds at the indices in the range of a section, in their order, with nothing at
the indices past the tape. -/
def readRange (tape : Tape) (tapeSection : TapeSection) : List (Option Symbol) :=
  (List.range' tapeSection.first (tapeSection.last + 1 - tapeSection.first)).map
    fun index => tape[index]?

theorem readRange_eq_of_agree {first second : Tape} {tapeSection : TapeSection}
    (agree : ∀ index, tapeSection.first ≤ index → index ≤ tapeSection.last →
      first[index]? = second[index]?) :
    tapeSection.readRange first = tapeSection.readRange second := by
  refine List.map_congr_left fun index member => ?_
  have range := List.mem_range'_1.mp member
  exact agree index range.1 (by omega)

/-- A range that ends on the tape is read as the cells in it. -/
theorem readRange_of_lt_size {tape : Tape} {tapeSection : TapeSection}
    (bounded : tapeSection.last < tape.size) :
    tapeSection.readRange tape =
      (tape.extract tapeSection.first (tapeSection.last + 1)).toList.map some := by
  apply List.ext_getElem
  · simp [readRange]
    omega
  · intro offset inside _
    simp only [readRange, List.length_map, List.length_range'] at inside
    simp [readRange]

/-- A section has cells, and all of them lie on the tape, exactly if something is read at its
range and nowhere nothing. -/
theorem inside_iff_readRange (tape : Tape) (tapeSection : TapeSection) :
    tapeSection.first ≤ tapeSection.last ∧ tapeSection.last < tape.size ↔
      tapeSection.readRange tape ≠ [] ∧ none ∉ tapeSection.readRange tape := by
  constructor
  · rintro ⟨ordered, bounded⟩
    constructor
    · simp [readRange]
      omega
    · rw [readRange_of_lt_size bounded, List.mem_map]
      rintro ⟨symbol, -, missing⟩
      cases missing
  · rintro ⟨filled, complete⟩
    have ordered : tapeSection.first ≤ tapeSection.last := by
      by_contra reversed
      refine filled (List.map_eq_nil_iff.mpr (List.range'_eq_nil_iff.mpr ?_))
      omega
    refine ⟨ordered, ?_⟩
    by_contra beyond
    refine complete (List.mem_map.mpr ⟨tapeSection.last, ?_, ?_⟩)
    · rw [List.mem_range'_1]
      omega
    · exact Array.getElem?_eq_none (not_lt.mp beyond)

/-- What a section shows is determined by what is read at its range. -/
theorem decodeOn_eq_of_readRange_eq {first second : Tape} {tapeSection : TapeSection}
    (same : tapeSection.readRange first = tapeSection.readRange second) :
    tapeSection.decodeOn first = tapeSection.decodeOn second := by
  have alike : tapeSection.first ≤ tapeSection.last ∧ tapeSection.last < first.size ↔
      tapeSection.first ≤ tapeSection.last ∧ tapeSection.last < second.size := by
    rw [inside_iff_readRange, inside_iff_readRange, same]
  by_cases inside : tapeSection.first ≤ tapeSection.last ∧ tapeSection.last < first.size
  · have there := alike.mp inside
    rw [readRange_of_lt_size inside.2, readRange_of_lt_size there.2] at same
    rw [decodeOn_of_inside inside.1 inside.2, decodeOn_of_inside there.1 there.2,
      List.map_injective_iff.mpr (Option.some_injective Symbol) same]
  · rw [decodeOn_of_not_inside inside, decodeOn_of_not_inside (mt alike.mpr inside)]

theorem getElem?_updateAll {sections : List TapeSection} {index : Nat} {before : TapeSection}
    (found : sections[index]? = some before) (tape : Tape) :
    (updateAll sections tape)[index]? = some { before with value := before.decodeOn tape } := by
  rw [updateAll, List.getElem?_map, found, Option.map_some]

/-- Sections that agree on all but their values are alike once they are decoded on a tape. -/
theorem updateAll_eq_of_map_undecoded_eq {sections others : List TapeSection}
    (alike : others.map undecoded = sections.map undecoded) (tape : Tape) :
    updateAll others tape = updateAll sections tape := by
  have blind (shown : List TapeSection) :
      updateAll (shown.map undecoded) tape = updateAll shown tape :=
    List.map_map
  rw [← blind others, alike, blind]

/-- Decoding sections with arbitrary ranges on a tape that need not be theirs.  It always comes to
an end with nothing beyond its width.  Ranges, names and colors stay, and each section shows what
its cells are decoded to, or the mark for what cannot be decoded if it has none or does not lie
on the tape.  What it shows is the same on every other tape on which the same is found at the
indices in its range.  Neither what the sections have shown before nor any tape on which they were
decoded before makes a difference. -/
theorem updateAll_of_fits {sections : List TapeSection}
    (fit : ∀ tapeSection ∈ sections, tapeSection.Fits) {tape : Tape}
    (short : tape.size < sizeBound) :
    redecodeChecked sections tape = some (updateAll sections tape) ∧
      (updateAll sections tape).length = sections.length ∧
      (∀ (index : Nat) (before : TapeSection), sections[index]? = some before →
        ∃ value, (updateAll sections tape)[index]? = some { before with value } ∧
          (before.first ≤ before.last → before.last < tape.size →
            ∃ cells, before.readRange tape = cells.map some ∧ value = decode cells) ∧
          (¬ (before.first ≤ before.last ∧ before.last < tape.size) → value = "x") ∧
          ∀ other : Tape,
            (∀ cell, before.first ≤ cell → cell ≤ before.last → other[cell]? = tape[cell]?) →
              (updateAll sections other)[index]? = some { before with value }) ∧
      (∀ others : List TapeSection, others.map undecoded = sections.map undecoded →
        updateAll others tape = updateAll sections tape) ∧
      (∀ other, updateAll (updateAll sections other) tape = updateAll sections tape) ∧
      ∀ earlier : List Tape, (∀ other ∈ earlier, other.size < sizeBound) →
        (earlier ++ [tape]).foldlM redecodeChecked sections = some (updateAll sections tape) := by
  refine ⟨redecodeChecked_eq fit short, List.length_map _, fun index before found => ?_,
    fun others alike => updateAll_eq_of_map_undecoded_eq alike tape,
    fun other => updateAll_updateAll sections other tape, fun earlier shorts => ?_⟩
  · refine ⟨before.decodeOn tape, getElem?_updateAll found tape, fun ordered bounded => ?_,
      decodeOn_of_not_inside, fun other agree => ?_⟩
    · exact ⟨_, readRange_of_lt_size bounded, decodeOn_of_inside ordered bounded⟩
    · rw [getElem?_updateAll found, decodeOn_eq_of_readRange_eq (readRange_eq_of_agree agree)]
  · exact foldlM_redecodeChecked fit (List.forall_mem_append.mpr ⟨shorts, by simpa using short⟩)

/-- Of these sections only the first one lies on the tape.  The second one has no cells, the third
is in reverse order, the fourth ends right behind the tape, and the others end with the largest
size.  A longer tape with the same cells in the first range shows the same there. -/
theorem updateAll_of_fits_edges :
    let largest := Checked.largestSize
    let sections : List TapeSection := [⟨1, 3, "A", .red, "7"⟩, ⟨3, 2, "B", .green, "0"⟩,
      ⟨9, 2, "C", .purple, "x"⟩, ⟨3, 5, "S2", .blue, "1"⟩, ⟨0, largest, "S1", .blue, ""⟩,
      ⟨largest, largest, "S0", .blue, "x"⟩]
    let tape : Tape := #[5, 1, 1, 0, 5]
    let longer : Tape := #[2, 1, 1, 0, 1, 1]
    (∀ tapeSection ∈ sections, tapeSection.Fits) ∧ tape.size < sizeBound ∧
      redecodeChecked sections tape = some (updateAll sections tape) ∧
      (updateAll sections tape).map value = ["6", "x", "x", "x", "x", "x"] ∧
      (updateAll sections longer)[0]? = (updateAll sections tape)[0]? ∧
      (updateAll sections longer)[3]? ≠ (updateAll sections tape)[3]? ∧
      updateAll (updateAll sections longer) tape = updateAll sections tape ∧
      [#[], longer, tape].foldlM redecodeChecked sections = some (updateAll sections tape) := by
  intro largest sections tape longer
  have fit : ∀ tapeSection ∈ sections, tapeSection.Fits := by
    simp only [sections, List.forall_mem_cons]
    exact ⟨⟨by decide, by decide⟩, ⟨by decide, by decide⟩, ⟨by decide, by decide⟩,
      ⟨by decide, by decide⟩, ⟨by decide, by decide⟩, ⟨by decide, by decide⟩,
      List.forall_mem_nil _⟩
  have short : tape.size < sizeBound := by decide
  obtain ⟨checked, -, shown, -, forgotten, last⟩ := updateAll_of_fits fit short
  obtain ⟨value, here, -, -, elsewhere⟩ := shown 0 _ rfl
  have agree : ∀ cell, 1 ≤ cell → cell ≤ 3 → longer[cell]? = tape[cell]? := by
    intro cell low high
    interval_cases cell
    all_goals rfl
  refine ⟨fit, short, checked, by decide +kernel, (elsewhere longer agree).trans here.symm,
    by decide +kernel, forgotten longer, last [#[], longer] ?_⟩
  simp only [List.forall_mem_cons]
  exact ⟨by decide, by decide, List.forall_mem_nil _⟩

end TapeSection
end TapeWorkbench
