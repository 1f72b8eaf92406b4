import TapeWorkbench.Listing

/-!
# Going from block to block

While the listing goes to a block, each of its lines stays as it is, is completed with a
copy of the sections, or becomes current (`Listing.advances`).  If the block is there, and no
more than one line was current before, then afterwards its line is the current one
(`Listing.statusAt?_advance_eq_current_iff`).  Flipping a breakpoint is no progress: the
statuses and the copies stay.
-/

namespace TapeWorkbench

/-- What becomes of a line while the listing goes to a block. -/
inductive ListingLine.Advances (sections : List TapeSection) (line : ListingLine) :
    ListingLine → Prop
  | kept : Advances sections line line
  | completed (left : line.status = .current) :
      Advances sections line { line with status := .completed, sections }
  | entered (closed : line.status ≠ .current) :
      Advances sections line { line with status := .current }

theorem ListingLine.status_complete_ne_current (sections : List TapeSection)
    (line : ListingLine) : (line.complete sections).status ≠ .current := by
  by_cases current : line.status = .current
  · simp [complete, current]
  · simp [complete, current]

namespace Listing

/-- The status of the line at an index, counted from zero. -/
def statusAt? (listing : Listing) (index : Nat) : Option BlockStatus :=
  listing.lines[index]?.map ListingLine.status

theorem statusAt?_eq_some_iff {listing : Listing} {index : Nat} {status : BlockStatus} :
    listing.statusAt? index = some status ↔
      ∃ line, listing.lines[index]? = some line ∧ line.status = status := by
  simp [statusAt?]

theorem getElem?_markCurrent (lines : List ListingLine) (target index : Nat) :
    (markCurrent lines target)[index]? =
      lines[index]?.map fun line =>
        if target = index + 1 then { line with status := .current } else line := by
  cases target with
  | zero => simp [markCurrent]
  | succ entry => simp [markCurrent, List.getElem?_modify]

/-- Is the line of the block current already? -/
theorem any_line?_iff {listing : Listing} {target : Nat} :
    ((listing.line? target).any fun line => line.status = .current) = true ↔
      ∃ index, target = index + 1 ∧ listing.statusAt? index = some .current := by
  cases target with
  | zero => simp [line?]
  | succ entry => simp [line?, statusAt?_eq_some_iff, Option.any_eq_true]

theorem value_advance_of_current {listing : Listing} {index : Nat}
    (current : listing.statusAt? index = some .current) (sections : List TapeSection) :
    (listing.advance (index + 1) sections).value = { listing with current := index + 1 } := by
  have already := any_line?_iff.mpr ⟨index, rfl, current⟩
  rw [advance, if_pos already]
  rfl

theorem getElem?_lines_advance {listing : Listing} {target : Nat}
    (closed : ¬ ∃ index, target = index + 1 ∧ listing.statusAt? index = some .current)
    (sections : List TapeSection) (index : Nat) :
    (listing.advance target sections).value.lines[index]? =
      listing.lines[index]?.map fun line =>
        if target = index + 1 then { line.complete sections with status := .current }
        else line.complete sections := by
  rw [advance, if_neg (mt any_line?_iff.mp closed)]
  change (markCurrent (listing.lines.map (ListingLine.complete sections)) target)[index]? = _
  rw [getElem?_markCurrent, List.getElem?_map, Option.map_map]
  rfl

@[simp]
theorem current_advance (listing : Listing) (target : Nat) (sections : List TapeSection) :
    (listing.advance target sections).value.current = target := by
  unfold advance
  split
  · rfl
  · rfl

@[simp]
theorem length_lines_advance (listing : Listing) (target : Nat) (sections : List TapeSection) :
    (listing.advance target sections).value.lines.length = listing.lines.length := by
  unfold advance
  split
  · rfl
  · cases target with
    | zero => simp [markCurrent]
    | succ entry => simp [markCurrent]

/-- Nothing else becomes of a line. -/
theorem advances {listing : Listing} {target index : Nat} {sections : List TapeSection}
    {before after : ListingLine} (was : listing.lines[index]? = some before)
    (became : (listing.advance target sections).value.lines[index]? = some after) :
    before.Advances sections after := by
  by_cases already : ∃ entry, target = entry + 1 ∧ listing.statusAt? entry = some .current
  · obtain ⟨entry, rfl, current⟩ := already
    rw [value_advance_of_current current] at became
    obtain rfl := Option.some.inj (was.symm.trans became)
    exact .kept
  · rw [getElem?_lines_advance already, was, Option.map_some] at became
    obtain rfl := Option.some.inj became
    by_cases here : target = index + 1
    · have closed : before.status ≠ .current := fun current =>
        already ⟨index, here, statusAt?_eq_some_iff.mpr ⟨before, was, current⟩⟩
      rw [if_pos here, ListingLine.complete, if_neg closed]
      exact .entered closed
    · rw [if_neg here]
      by_cases current : before.status = .current
      · rw [ListingLine.complete, if_pos current]
        exact .completed current
      · rw [ListingLine.complete, if_neg current]
        exact .kept

/-- What an advance leaves of each line, it leaves of all of them. -/
theorem map_lines_advance {α : Type} (listing : Listing) (target : Nat)
    {sections : List TapeSection} {view : ListingLine → α}
    (stays : ∀ {before after : ListingLine}, before.Advances sections after →
      view after = view before) :
    (listing.advance target sections).value.lines.map view = listing.lines.map view := by
  have length := length_lines_advance listing target sections
  apply List.ext_getElem?
  intro index
  rw [List.getElem?_map, List.getElem?_map]
  cases was : listing.lines[index]? with
  | none =>
      rw [List.getElem?_eq_none_iff, ← length] at was
      rw [List.getElem?_eq_none was]
  | some before =>
      have inside : index < (listing.advance target sections).value.lines.length := by
        rw [length]
        exact (List.getElem?_eq_some_iff.mp was).1
      have became := List.getElem?_eq_getElem inside
      rw [became, Option.map_some, Option.map_some, stays (advances was became)]

theorem exists_advances {listing : Listing} {target : Nat} {sections : List TapeSection}
    {after : ListingLine} (member : after ∈ (listing.advance target sections).value.lines) :
    ∃ before ∈ listing.lines, before.Advances sections after := by
  obtain ⟨index, became⟩ := List.mem_iff_getElem?.mp member
  have inside : index < listing.lines.length := by
    rw [← length_lines_advance listing target sections]
    exact (List.getElem?_eq_some_iff.mp became).1
  have was := List.getElem?_eq_getElem inside
  exact ⟨listing.lines[index], List.getElem_mem inside, advances was became⟩

/-- After the listing has gone to a block, its line is the only one that is current. -/
theorem statusAt?_advance_eq_current_iff {listing : Listing} {target : Nat}
    (exists_block : target ≤ listing.lines.length)
    (single : ∀ first second, listing.statusAt? first = some .current →
      listing.statusAt? second = some .current → first = second)
    (sections : List TapeSection) (index : Nat) :
    (listing.advance target sections).value.statusAt? index = some .current ↔
      target = index + 1 := by
  by_cases already : ∃ entry, target = entry + 1 ∧ listing.statusAt? entry = some .current
  · obtain ⟨entry, rfl, current⟩ := already
    rw [value_advance_of_current current]
    change listing.statusAt? index = some .current ↔ _
    constructor
    · intro other
      rw [single entry index current other]
    · intro same
      obtain rfl : entry = index := by omega
      exact current
  · rw [statusAt?, getElem?_lines_advance already, Option.map_map, Option.map_eq_some_iff]
    by_cases here : target = index + 1
    · have inside : index < listing.lines.length := by omega
      simp [here, inside]
    · have left := ListingLine.status_complete_ne_current sections
      simp [here, left]

/-! ## Breakpoints -/

theorem exists_line_of_toggled {listing toggled : Listing} {index : Nat} {flag : Bool}
    (flipped : listing.toggleBreakpoint? index = some (flag, toggled)) :
    ∃ line, listing.lines[index]? = some line ∧ flag = !line.breakpoint ∧
      toggled =
        { listing with
          lines := listing.lines.set index { line with breakpoint := !line.breakpoint } } := by
  obtain ⟨line, found, same⟩ := Option.map_eq_some_iff.mp flipped
  obtain ⟨rfl, rfl⟩ := Prod.mk.inj same
  exact ⟨line, found, rfl, rfl⟩

theorem getElem?_lines_of_toggled {listing toggled : Listing} {index : Nat} {flag : Bool}
    (flipped : listing.toggleBreakpoint? index = some (flag, toggled)) (other : Nat) :
    toggled.lines[other]? =
      listing.lines[other]?.map fun line =>
        if other = index then { line with breakpoint := !line.breakpoint } else line := by
  obtain ⟨line, found, -, rfl⟩ := exists_line_of_toggled flipped
  by_cases here : other = index
  · subst here
    have inside : other < listing.lines.length := (List.getElem?_eq_some_iff.mp found).1
    rw [found, Option.map_some, if_pos rfl]
    exact List.getElem?_set_self inside
  · have elsewhere : index ≠ other := Ne.symm here
    simp [here, List.getElem?_set_ne elsewhere]

theorem statusAt?_of_toggled {listing toggled : Listing} {index : Nat} {flag : Bool}
    (flipped : listing.toggleBreakpoint? index = some (flag, toggled)) (other : Nat) :
    toggled.statusAt? other = listing.statusAt? other := by
  rw [statusAt?, statusAt?, getElem?_lines_of_toggled flipped, Option.map_map]
  congr 1
  funext line
  by_cases here : other = index
  · simp [here]
  · simp [here]

theorem exists_line_of_mem_toggled {listing toggled : Listing} {index : Nat} {flag : Bool}
    {after : ListingLine} (flipped : listing.toggleBreakpoint? index = some (flag, toggled))
    (member : after ∈ toggled.lines) :
    ∃ before ∈ listing.lines, after.status = before.status ∧ after.sections = before.sections := by
  obtain ⟨line, found, -, rfl⟩ := exists_line_of_toggled flipped
  rcases List.mem_or_eq_of_mem_set member with old | rfl
  · exact ⟨after, old, rfl, rfl⟩
  · exact ⟨line, List.mem_of_getElem? found, rfl, rfl⟩

theorem current_of_toggled {listing toggled : Listing} {index : Nat} {flag : Bool}
    (flipped : listing.toggleBreakpoint? index = some (flag, toggled)) :
    toggled.current = listing.current := by
  obtain ⟨line, -, -, rfl⟩ := exists_line_of_toggled flipped
  rfl

end Listing
end TapeWorkbench
