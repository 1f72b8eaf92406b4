import TapeWorkbench.Proofs.Decoding
import TapeWorkbench.Proofs.Layout

/-!
# Separators inside sections

A separator opens no section, and no section ends at one.  But it does not close the section that
is open either: the next content cell belongs to it again, unless an opener comes before, and so
does what lies between.  A section reaches across a separator exactly if there is such a cell
(`covers_separator_iff`), and cannot be decoded then.
-/

namespace TapeWorkbench
namespace TapeSection

theorem Unopened.mono {tape : Tape} {first later last : Nat} (unopened : Unopened tape first last)
    (le : first ≤ later) : Unopened tape later last :=
  fun mark low high => unopened mark (le.trans low) high

/-- A section that begins behind a cell and reaches a later one has an opener in between. -/
theorem Begins.exists_opener {tape : Tape} {first cell : Nat} {color : SectionColor}
    (begins : Begins tape first color) (positive : 1 ≤ cell) (behind : cell < first) :
    ∃ mark, cell ≤ mark ∧ mark < first ∧ IsOpener tape mark := by
  rcases begins with ⟨rfl, -⟩ | ⟨mark, rfl, opens⟩
  · omega
  · exact ⟨mark, by omega, by omega, color, opens⟩

/-- Behind an opener there is no separator. -/
theorem Begins.eq_one_of_separator {tape : Tape} {first : Nat} {color : SectionColor}
    (begins : Begins tape first color) (separates : tape[first]? = some Symbol.separator) :
    first = 1 ∧ color = .blue := by
  rcases begins with implicit | ⟨mark, rfl, opens⟩
  · exact implicit
  · exact absurd separates opens.followed

theorem decodeOn_of_separator {tape : Tape} {tapeSection : TapeSection} {cell : Nat}
    (separates : tape[cell]? = some Symbol.separator) (low : tapeSection.first ≤ cell)
    (high : cell ≤ tapeSection.last) (bounded : tapeSection.last < tape.size) :
    tapeSection.decodeOn tape = undecodable := by
  rw [decodeOn_of_inside (low.trans high) bounded]
  refine decode_of_foreign (.inr ⟨Symbol.separator, ?_, by decide, by decide⟩)
  rw [List.mem_iff_getElem?]
  refine ⟨cell - tapeSection.first, ?_⟩
  rw [Array.getElem?_toList, Array.getElem?_extract]
  simp only [Nat.add_sub_cancel' low, separates]
  exact if_pos (by omega)

/-- Whether a section reaches across a separator.  The separator lies in the range of one exactly
if it is not in front of all sections and a content cell follows before the next opener.  The
section is that of the nearest opener to the left, and the only one; the separator is not its last
cell, and its first one only in the storage section that no mark opens.  The section shows that it
cannot be decoded. -/
theorem covers_separator_iff (tape : Tape) (cell : Nat)
    (separates : tape[cell]? = some Symbol.separator) :
    ((∃ tapeSection ∈ layout tape, tapeSection.first ≤ cell ∧ cell ≤ tapeSection.last) ↔
        1 ≤ cell ∧ ∃ content, cell < content ∧ HasContent tape content ∧
          Unopened tape cell content) ∧
      ∀ tapeSection ∈ layout tape, tapeSection.first ≤ cell → cell ≤ tapeSection.last →
        Unopened tape tapeSection.first cell ∧ cell < tapeSection.last ∧
          (cell = tapeSection.first → cell = 1 ∧ tapeSection.color = .blue) ∧
          tapeSection.decodeOn tape = "x" ∧
          ∀ other ∈ layout tape, other.first ≤ cell → cell ≤ other.last →
            other = tapeSection := by
  obtain ⟨limit, found⟩ := exists_found_layout tape
  have before_last {tapeSection : TapeSection} (member : tapeSection ∈ layout tape)
      (high : cell ≤ tapeSection.last) : cell < tapeSection.last := by
    refine lt_of_le_of_ne high ?_
    rintro rfl
    exact not_hasContent_of_separator separates (found.reaches member).content
  refine ⟨⟨?_, ?_⟩, fun tapeSection member low high => ?_⟩
  · rintro ⟨tapeSection, member, low, high⟩
    have reaches := found.reaches member
    exact ⟨(found.spans tapeSection member).begins.positive.trans low, tapeSection.last,
      before_last member high, reaches.content, reaches.unopened.mono low⟩
  · rintro ⟨positive, content, behind, holds, unopened⟩
    obtain ⟨tapeSection, member, low, high, -, -⟩ :=
      (layout_divides tape).1.covers content holds
    refine ⟨tapeSection, member, ?_, behind.le.trans high⟩
    -- otherwise the section would begin at an opener between the separator and the content cell
    by_contra later
    obtain ⟨mark, after, earlier, opener⟩ :=
      (found.spans tapeSection member).begins.exists_opener positive (not_le.mp later)
    exact unopened mark after (earlier.trans_le low) opener
  · have begins := (found.spans tapeSection member).begins
    refine ⟨fun mark after earlier => ?_, before_last member high, ?_, ?_, fun other among => ?_⟩
    · exact (found.reaches member).unopened mark after (earlier.trans_le high)
    · rintro rfl
      exact begins.eq_one_of_separator separates
    · exact decodeOn_of_separator separates low high (range_layout member).2
    · exact fun low' high' => eq_of_overlap found.ordered among member low' high' low high

/-- The storage section that no mark opens reaches across a mark that a separator follows, and
across this separator. -/
theorem covers_separator_implicit :
    let tape : Tape := #[5, 0, 1, 2, 5, 1, 1, 5]
    tape[4]? = some Symbol.separator ∧
      ∃ tapeSection ∈ layout tape, tapeSection.first ≤ 4 ∧ 4 ≤ tapeSection.last := by
  decide

/-- Register `A` reaches across the first separator, and is not decoded.  Behind the second one
nothing comes that belongs to a section. -/
theorem covers_separator_iff_register :
    let tape : Tape := #[5, 2, 1, 5, 0, 3, 5, 5]
    tape[3]? = some Symbol.separator ∧ tape[6]? = some Symbol.separator ∧
      (∃ tapeSection ∈ layout tape, tapeSection.first ≤ 3 ∧ 3 ≤ tapeSection.last ∧
        tapeSection.decodeOn tape = "x") ∧
      ¬ ∃ tapeSection ∈ layout tape, tapeSection.first ≤ 6 ∧ 6 ≤ tapeSection.last := by
  intro tape
  have first : tape[3]? = some Symbol.separator := rfl
  have second : tape[6]? = some Symbol.separator := rfl
  have digit : HasContent tape 4 := by
    refine ⟨by decide, fun symbol read => ?_⟩
    obtain rfl : 0 = symbol := Option.some.inj read
    decide
  have unopened : Unopened tape 3 4 := by
    intro mark low high
    obtain rfl : mark = 3 := by omega
    exact not_isOpener_of_unmarked first fun color => color.mark_ne_separator.symm
  obtain ⟨covered, within⟩ := covers_separator_iff tape 3 first
  obtain ⟨tapeSection, member, low, high⟩ := covered.mpr ⟨by omega, 4, by omega, digit, unopened⟩
  obtain ⟨-, -, -, undecoded, -⟩ := within tapeSection member low high
  refine ⟨first, second, ⟨tapeSection, member, low, high, undecoded⟩, fun beyond => ?_⟩
  obtain ⟨-, content, behind, holds, -⟩ := (covers_separator_iff tape 6 second).1.mp beyond
  have bounded : content + 1 < 8 := holds.interior.2
  omega

end TapeSection
end TapeWorkbench
