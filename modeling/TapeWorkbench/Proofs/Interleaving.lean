import TapeWorkbench.Proofs.Breakpoints

/-!
# Breakpoints and blocks do not interfere

Two kinds of actions work on a listing: the program goes on to a block, and a breakpoint is
flipped.  Neither has an effect on what the other one changes.  The breakpoints are what the
flips alone make of them (`Listing.flags_acts`), everything else is what the advances alone make
of it (`Listing.unflagged_acts`), so it does not matter how the two are interleaved.

Nothing is assumed about the listing.  In particular several of its lines may be current, though
the execution of a program makes one current at a time.
-/

namespace TapeWorkbench
namespace Listing

/-- What is done to a listing. -/
inductive Action where
  | advance (target : Nat) (sections : List TapeSection)
  | flip (index : Nat)
  deriving DecidableEq, Repr

/-- The listing after an action.  To flip a breakpoint past the last line does nothing. -/
def act (listing : Listing) : Action → Listing
  | .advance target sections => (listing.advance target sections).value
  | .flip index => (listing.toggleBreakpoint? index).elim listing Prod.snd

/-- The listing after actions, the first of them first. -/
def acts (listing : Listing) (actions : List Action) : Listing :=
  actions.foldl act listing

@[simp]
theorem acts_nil (listing : Listing) : listing.acts [] = listing :=
  rfl

@[simp]
theorem acts_cons (listing : Listing) (action : Action) (actions : List Action) :
    listing.acts (action :: actions) = (listing.act action).acts actions :=
  rfl

/-- The indices that are flipped, in their order. -/
def Action.flips : List Action → List Nat
  | [] => []
  | .flip index :: actions => index :: flips actions
  | .advance _ _ :: actions => flips actions

/-- The advances, in their order. -/
def Action.advances : List Action → List Action
  | [] => []
  | .flip _ :: actions => advances actions
  | .advance target sections :: actions => .advance target sections :: advances actions

/-- The texts, line by line. -/
def texts (listing : Listing) : List String :=
  listing.lines.map ListingLine.text

/-- The copy of the sections that the line at an index keeps. -/
def sectionsAt? (listing : Listing) (index : Nat) : Option (List TapeSection) :=
  listing.lines[index]?.map ListingLine.sections

theorem act_flip_of_toggled {listing toggled : Listing} {index : Nat} {flag : Bool}
    (flipped : listing.toggleBreakpoint? index = some (flag, toggled)) :
    listing.act (.flip index) = toggled := by
  rw [act, flipped]
  rfl

theorem act_flip_of_none {listing : Listing} {index : Nat}
    (missing : listing.toggleBreakpoint? index = none) :
    listing.act (.flip index) = listing := by
  rw [act, missing]
  rfl

/-- What becomes of a listing when the breakpoint of a line is to be flipped. -/
theorem flip_cases (listing : Listing) (index : Nat) :
    (listing.lines.length ≤ index ∧ listing.act (.flip index) = listing) ∨
      ∃ flag, listing.toggleBreakpoint? index = some (flag, listing.act (.flip index)) := by
  cases toggled : listing.toggleBreakpoint? index with
  | none => exact .inl ⟨toggleBreakpoint?_eq_none_iff.mp toggled, act_flip_of_none toggled⟩
  | some flipped => exact .inr ⟨flipped.1, by rw [act_flip_of_toggled toggled]⟩

/-! ## The breakpoints -/

theorem flags_act_flip (listing : Listing) (index : Nat) :
    (listing.act (.flip index)).flags = listing.flags.modify index not := by
  rcases flip_cases listing index with ⟨outside, same⟩ | ⟨flag, toggled⟩
  · have past : listing.flags.length ≤ index := by simpa [flags] using outside
    rw [same, List.modify_eq_self past]
  · exact (flags_of_toggled toggled).1

/-- The breakpoints depend on nothing but the flips. -/
theorem flags_acts (listing : Listing) (actions : List Action) :
    (listing.acts actions).flags =
      (Action.flips actions).foldl (fun flags index => flags.modify index not) listing.flags := by
  induction actions generalizing listing with
  | nil => rfl
  | cons action actions ih =>
      rw [acts_cons, ih]
      cases action with
      | advance target sections => rw [act, flags_advance, Action.flips]
      | flip index => rw [flags_act_flip, Action.flips, List.foldl_cons]

/-! ## Everything else -/

@[simp]
theorem unflagged_act_flip (listing : Listing) (index : Nat) :
    (listing.act (.flip index)).unflagged = listing.unflagged := by
  rcases flip_cases listing index with ⟨-, same⟩ | ⟨flag, toggled⟩
  · rw [same]
  · exact unflagged_of_toggled toggled

theorem getElem?_lines_unflagged (listing : Listing) (index : Nat) :
    listing.unflagged.lines[index]? =
      listing.lines[index]?.map fun line => { line with breakpoint := false } :=
  List.getElem?_map

@[simp]
theorem statusAt?_unflagged (listing : Listing) (index : Nat) :
    listing.unflagged.statusAt? index = listing.statusAt? index := by
  rw [statusAt?, getElem?_lines_unflagged, Option.map_map]
  rfl

/-- An advance does not look at the breakpoints. -/
theorem unflagged_advance (listing : Listing) (target : Nat) (sections : List TapeSection) :
    (listing.advance target sections).value.unflagged =
      (listing.unflagged.advance target sections).value := by
  by_cases already : ∃ entry, target = entry + 1 ∧ listing.statusAt? entry = some .current
  · obtain ⟨entry, rfl, current⟩ := already
    have same : listing.unflagged.statusAt? entry = some .current := by
      rw [statusAt?_unflagged, current]
    rw [value_advance_of_current current, value_advance_of_current same]
    rfl
  · have closed : ¬ ∃ entry, target = entry + 1 ∧
        listing.unflagged.statusAt? entry = some .current := by
      simpa only [statusAt?_unflagged] using already
    have lines : (listing.advance target sections).value.unflagged.lines =
        (listing.unflagged.advance target sections).value.lines := by
      apply List.ext_getElem?
      intro index
      rw [getElem?_lines_unflagged, getElem?_lines_advance already,
        getElem?_lines_advance closed, getElem?_lines_unflagged, Option.map_map, Option.map_map]
      congr 1
      funext line
      by_cases current : line.status = .current
      · by_cases here : target = index + 1
        · simp [here, ListingLine.complete, current]
        · simp [here, ListingLine.complete, current]
      · by_cases here : target = index + 1
        · simp [here, ListingLine.complete, current]
        · simp [here, ListingLine.complete, current]
    have current : (listing.advance target sections).value.unflagged.current =
        (listing.unflagged.advance target sections).value.current := by
      change (listing.advance target sections).value.current = _
      rw [current_advance, current_advance]
    exact congrArg₂ Listing.mk lines current

/-- Texts, statuses, copies of the sections and the ordinal depend on nothing but the
advances. -/
theorem unflagged_acts (listing : Listing) (actions : List Action) :
    (listing.acts actions).unflagged = listing.unflagged.acts (Action.advances actions) := by
  induction actions generalizing listing with
  | nil => rfl
  | cons action actions ih =>
      rw [acts_cons, ih]
      cases action with
      | advance target sections => rw [act, unflagged_advance, Action.advances, acts_cons, act]
      | flip index => rw [unflagged_act_flip, Action.advances]

/-- A listing is given by its breakpoints and everything else. -/
theorem eq_of_flags_eq_of_unflagged_eq {listing other : Listing}
    (flags : listing.flags = other.flags) (rest : listing.unflagged = other.unflagged) :
    listing = other := by
  obtain ⟨lines, current⟩ := listing
  obtain ⟨others, ordinal⟩ := other
  obtain ⟨bare, rfl⟩ := Listing.mk.inj rest
  congr 1
  apply List.ext_getElem?
  intro index
  have breakpoint := congrArg (fun flags => flags[index]?) flags
  have remainder := congrArg (fun bare => bare[index]?) bare
  simp only [getElem?_flags, List.getElem?_map] at breakpoint remainder
  generalize lines[index]? = here at breakpoint remainder ⊢
  generalize others[index]? = there at breakpoint remainder ⊢
  cases here with
  | none => cases there with
    | none => rfl
    | some line => cases breakpoint
  | some line => cases there with
    | none => cases breakpoint
    | some other =>
        have flag : line.breakpoint = other.breakpoint := Option.some.inj breakpoint
        have bare : { line with breakpoint := false } = { other with breakpoint := false } :=
          Option.some.inj remainder
        cases line
        cases other
        cases flag
        cases bare
        rfl

/-! ## Line by line -/

theorem text_of_advances {sections : List TapeSection} {before after : ListingLine}
    (advances : before.Advances sections after) : after.text = before.text := by
  cases advances with
  | kept => rfl
  | completed _ => rfl
  | entered _ => rfl

/-- A copy of the sections is taken of a line that is completed, and the line was current. -/
theorem sections_of_advances {sections : List TapeSection} {before after : ListingLine}
    (advances : before.Advances sections after) :
    after.sections = before.sections ∨
      before.status = .current ∧ after.status = .completed ∧ after.sections = sections := by
  cases advances with
  | kept => exact .inl rfl
  | completed left => exact .inr ⟨left, rfl, rfl⟩
  | entered _ => exact .inl rfl

theorem texts_unflagged (listing : Listing) : listing.unflagged.texts = listing.texts :=
  List.map_map

theorem texts_act (listing : Listing) (action : Action) :
    (listing.act action).texts = listing.texts := by
  cases action with
  | advance target sections => exact map_lines_advance listing target text_of_advances
  | flip index =>
      rw [← texts_unflagged, unflagged_act_flip, texts_unflagged]

/-- The lines stay the same ones, in the same order. -/
theorem texts_acts (listing : Listing) (actions : List Action) :
    (listing.acts actions).texts = listing.texts := by
  induction actions generalizing listing with
  | nil => rfl
  | cons action actions ih => rw [acts_cons, ih, texts_act]

theorem sectionsAt?_unflagged (listing : Listing) (index : Nat) :
    listing.unflagged.sectionsAt? index = listing.sectionsAt? index := by
  rw [sectionsAt?, getElem?_lines_unflagged, Option.map_map]
  rfl

/-- The line at an index turns from current to completed and keeps a copy of the sections,
because the listing goes to a block. -/
structure Completes (listing : Listing) (action : Action) (index : Nat)
    (sections : List TapeSection) : Prop where
  advances : ∃ target, action = .advance target sections
  left : listing.statusAt? index = some .current
  completed : (listing.act action).statusAt? index = some .completed
  copied : (listing.act action).sectionsAt? index = some sections

/-- The copy of a line changes when the line is completed and at no other time. -/
theorem sectionsAt?_act (listing : Listing) (action : Action) (index : Nat) :
    (listing.act action).sectionsAt? index = listing.sectionsAt? index ∨
      ∃ sections, listing.Completes action index sections := by
  cases action with
  | flip other =>
      left
      rw [← sectionsAt?_unflagged, unflagged_act_flip, sectionsAt?_unflagged]
  | advance target sections =>
      cases was : listing.lines[index]? with
      | none =>
          left
          have outside : (listing.advance target sections).value.lines[index]? = none := by
            rw [List.getElem?_eq_none_iff, length_lines_advance]
            exact List.getElem?_eq_none_iff.mp was
          rw [sectionsAt?, sectionsAt?, act, was, outside]
      | some before =>
          have inside : index < (listing.advance target sections).value.lines.length := by
            rw [length_lines_advance]
            exact (List.getElem?_eq_some_iff.mp was).1
          have became := List.getElem?_eq_getElem inside
          rcases sections_of_advances (advances was became) with same | ⟨left, completed, copied⟩
          · left
            rw [sectionsAt?, sectionsAt?, act, was, became, Option.map_some, Option.map_some, same]
          · right
            refine ⟨sections, ⟨target, rfl⟩, ?_, ?_, ?_⟩
            · exact statusAt?_eq_some_iff.mpr ⟨before, was, left⟩
            · exact statusAt?_eq_some_iff.mpr ⟨_, became, completed⟩
            · rw [sectionsAt?, act, became, Option.map_some, copied]

/-- Either the copy of a line is the one it had, or it was taken by one of the actions. -/
theorem sectionsAt?_acts (listing : Listing) (actions : List Action) (index : Nat) :
    (listing.acts actions).sectionsAt? index = listing.sectionsAt? index ∨
      ∃ earlier action later sections, actions = earlier ++ action :: later ∧
        (listing.acts earlier).Completes action index sections ∧
        (listing.acts actions).sectionsAt? index = some sections := by
  induction actions generalizing listing with
  | nil => exact .inl rfl
  | cons action actions ih =>
      rw [acts_cons]
      rcases ih (listing.act action) with same | ⟨earlier, latest, later, sections, rfl, step, now⟩
      -- nothing is copied by the actions behind the first
      · rcases sectionsAt?_act listing action index with kept | ⟨sections, step⟩
        · exact .inl (same.trans kept)
        · exact .inr ⟨[], action, actions, sections, rfl, step, same.trans step.copied⟩
      · exact .inr ⟨action :: earlier, latest, later, sections, rfl, step, now⟩

/-- Behind an advance to a line that was not current, no other line is current. -/
theorem eq_of_statusAt?_advance_eq_current {listing : Listing} {target : Nat}
    (closed : ¬ ∃ entry, target = entry + 1 ∧ listing.statusAt? entry = some .current)
    {sections : List TapeSection} {index : Nat}
    (current : (listing.advance target sections).value.statusAt? index = some .current) :
    target = index + 1 := by
  by_contra elsewhere
  rw [statusAt?, getElem?_lines_advance closed, Option.map_map, Option.map_eq_some_iff] at current
  obtain ⟨line, -, still⟩ := current
  have left := ListingLine.status_complete_ne_current sections line
  rw [Function.comp_apply, if_neg elsewhere] at still
  exact left still

/-- Flips and advances on an arbitrary listing, in an arbitrary order.  The lines and their texts
stay.  The breakpoints are what the flips make of them, each turning over one line or, behind
the last line, none.  The rest is what the advances make of the listing without its
breakpoints.  So two orders of the same actions come to the same listing if they agree on the
order of the flips and on the order of the advances.  The copy of a line changes only when an
advance turns the line from current to completed, and behind an advance to a line that was not
current at most that line is current. -/
theorem acts_interleaved (listing : Listing) (actions : List Action) :
    (listing.acts actions).texts = listing.texts ∧
    (listing.acts actions).flags =
      (Action.flips actions).foldl (fun flags index => flags.modify index not) listing.flags ∧
    (∀ index, index < listing.lines.length →
      ∃ flag, listing.toggleBreakpoint? index = some (flag, listing.act (.flip index)) ∧
        listing.flags[index]? = some !flag ∧
        (listing.act (.flip index)).flags = listing.flags.set index flag) ∧
    (∀ index, listing.lines.length ≤ index →
      listing.toggleBreakpoint? index = none ∧ listing.act (.flip index) = listing) ∧
    (listing.acts actions).unflagged = listing.unflagged.acts (Action.advances actions) ∧
    (∀ others, Action.flips others = Action.flips actions →
      Action.advances others = Action.advances actions →
        listing.acts others = listing.acts actions) ∧
    (∀ index, (listing.acts actions).sectionsAt? index = listing.sectionsAt? index ∨
      ∃ earlier action later sections, actions = earlier ++ action :: later ∧
        (listing.acts earlier).Completes action index sections ∧
        (listing.acts actions).sectionsAt? index = some sections) ∧
    (∀ action index, (listing.act action).sectionsAt? index ≠ listing.sectionsAt? index →
      ∃ sections, listing.Completes action index sections) ∧
    ∀ target sections,
      (¬ ∃ entry, target = entry + 1 ∧ listing.statusAt? entry = some .current) →
        ∀ index, (listing.act (.advance target sections)).statusAt? index = some .current →
          target = index + 1 := by
  refine ⟨texts_acts listing actions, flags_acts listing actions, ?_, ?_,
    unflagged_acts listing actions, ?_, sectionsAt?_acts listing actions, ?_, ?_⟩
  · intro index inside
    rcases flip_cases listing index with ⟨outside, -⟩ | ⟨flag, toggled⟩
    · omega
    · obtain ⟨line, found, rfl, -⟩ := exists_line_of_toggled toggled
      refine ⟨_, toggled, ?_, ?_⟩
      · rw [getElem?_flags, found, Option.map_some, Bool.not_not]
      · have was : listing.flags[index]? = some line.breakpoint := by
          rw [getElem?_flags, found, Option.map_some]
        rw [flags_act_flip, List.modify_eq_set_getElem?, was]
        rfl
  · intro index outside
    have missing := toggleBreakpoint?_eq_none_iff.mpr outside
    exact ⟨missing, act_flip_of_none missing⟩
  · intro others flips advances
    apply eq_of_flags_eq_of_unflagged_eq
    · rw [flags_acts, flags_acts, flips]
    · rw [unflagged_acts, unflagged_acts, advances]
  · intro action index changed
    exact (sectionsAt?_act listing action index).resolve_left changed
  · intro target sections closed index current
    exact eq_of_statusAt?_advance_eq_current closed current

/-- Two lines are current, and an advance completes both of them, whether the breakpoint of one
is flipped before or after. -/
theorem acts_interleaved_forked :
    let forked : Listing := ⟨[⟨"load", .current, false, []⟩, ⟨"add", .current, true, []⟩,
      ⟨"store", .pending, false, []⟩], 1⟩
    let shown : List TapeSection := [⟨2, 4, "A", .red, "5"⟩]
    let before : List Action := [.flip 1, .advance 3 shown, .flip 7, .flip 2]
    let after : List Action := [.advance 3 shown, .flip 1, .flip 7, .flip 2]
    forked.acts before = ⟨[⟨"load", .completed, false, shown⟩, ⟨"add", .completed, false, shown⟩,
        ⟨"store", .current, true, []⟩], 3⟩ ∧
      forked.acts after = forked.acts before ∧
      (∃ flag, forked.toggleBreakpoint? 1 = some (flag, forked.act (.flip 1)) ∧
        forked.flags[1]? = some !flag ∧
        (forked.act (.flip 1)).flags = forked.flags.set 1 flag) ∧
      (forked.toggleBreakpoint? 7 = none ∧ forked.act (.flip 7) = forked) ∧
      (∃ sections, forked.Completes (.advance 3 shown) 0 sections) ∧
      ∀ index, (forked.act (.advance 3 shown)).statusAt? index = some .current →
        3 = index + 1 := by
  intro forked shown before after
  obtain ⟨-, -, inside, outside, -, reordered, -, copied, single⟩ := acts_interleaved forked before
  refine ⟨by decide, reordered after (by decide) (by decide), inside 1 (by decide),
    outside 7 (by decide), copied _ 0 (by decide), single 3 shown ?_⟩
  rintro ⟨entry, same, current⟩
  obtain rfl : entry = 2 := by omega
  exact absurd current (by decide)

end Listing
end TapeWorkbench
