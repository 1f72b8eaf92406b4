import TapeWorkbench.Proofs.Blocks
import TapeWorkbench.Proofs.Layout
import TapeWorkbench.Proofs.Pacing
import TapeWorkbench.Proofs.Placement
import TapeWorkbench.Proofs.Published
import TapeWorkbench.Proofs.Verdict

/-!
# Numbers that fit

What a snapshot publishes has bounds: symbols and speeds are words, and the other numbers are
sizes.  Settings that were read from a document and programs that were read from a text keep
within the bounds, and so does whatever becomes of a session (`Session.lasting_fits`).  The
snapshot of a session that can be reached fits for as long as its steps can be counted
(`Session.Reachable.fits_snapshot`).
-/

namespace TapeWorkbench

open JsonForm (sizeBound wordBound)

/-! ## Settings -/

namespace Settings

theorem lt_of_naturalBelow? {bound number : Nat} {item : Toml.Item}
    (read : naturalBelow? bound item = some number) : number < bound := by
  cases item with
  | integer value =>
      simp only [naturalBelow?] at read
      split at read
      · rename_i inside
        obtain rfl := Option.some.inj read
        simp only [Bool.and_eq_true, decide_eq_true_eq] at inside
        omega
      · cases read
  | _ => cases read

/-- A value that is given is the default or was read. -/
theorem valueOr_cases {α : Type} {members : Toml.Members} {key : String} {fallback value : α}
    {read : Toml.Item → Option α} (found : valueOr members key fallback read = some value) :
    value = fallback ∨ ∃ item, read item = some value := by
  unfold valueOr at found
  split at found
  · exact .inl (Option.some.inj found).symm
  · rename_i item _
    exact .inr ⟨item, found⟩

theorem lt_of_valueOr {members : Toml.Members} {key : String} {fallback value bound : Nat}
    (found : valueOr members key fallback (naturalBelow? bound) = some value)
    (default : fallback < bound) : value < bound := by
  rcases valueOr_cases found with rfl | ⟨item, read⟩
  · exact default
  · exact lt_of_naturalBelow? read

theorem fits_default : Settings.default.Fits :=
  ⟨by decide, by decide, by decide, by decide, by decide⟩

theorem fits_of_ofMembers {members : Toml.Members} {settings : Settings}
    (decoded : ofMembers members = some settings) : settings.Fits := by
  simp only [ofMembers, bind, Option.bind_eq_some_iff, pure, Option.some.injEq] at decoded
  obtain ⟨defaultSpeed, slow, maxSpeed, fast, burstSteps, burst, startState, -, haltState, -,
    historyLimit, limited, maxSteps, budget, rfl⟩ := decoded
  have default := fits_default
  refine ⟨lt_of_valueOr slow default.defaultSpeed, lt_of_valueOr fast default.maxSpeed,
    lt_of_valueOr burst default.burstSteps, ?_, lt_of_valueOr budget default.maxSteps⟩
  rcases valueOr_cases limited with rfl | ⟨item, read⟩
  · exact default.historyLimit
  · obtain ⟨limit, small, rfl⟩ := Option.map_eq_some_iff.mp read
    intro other same
    obtain rfl := Option.some.inj same
    exact lt_of_naturalBelow? small

theorem fits_of_read {report : String → String} {text : String} {settings : Settings}
    (accepted : read report text = .ok settings) : settings.Fits := by
  obtain ⟨members, decoded, -⟩ := exists_members_of_read accepted
  exact fits_of_ofMembers decoded

end Settings

/-! ## Programs -/

namespace Program

/-- The numbers of a program are below the bounds of their fields. -/
structure Fits (program : Program) : Prop where
  tape : ∀ symbol ∈ program.tape.toList, symbol < wordBound
  table : ∀ state symbol instruction,
    program.table.find? state symbol = some instruction → instruction.Fits
  listing : ∀ line ∈ program.listing, line.Fits

theorem value_lt_wordBound {digits : List Char} (fits : ¬ TooLarge digits) :
    Decimal.value digits < wordBound := by
  unfold TooLarge at fits
  unfold wordBound
  omega

theorem utf8ByteSize_le_of_read {text : String} {program : Program}
    (accepted : (read text).value = .ok program) : text.utf8ByteSize ≤ sizeLimit := by
  by_contra long
  rw [read, if_pos (not_le.mp long)] at accepted
  cases accepted

/-- None of the lines of an accepted text offends. -/
theorem sound_of_read {text : String} {program : Program} {tapeLine : Line} {others : List Line}
    (accepted : (read text).value = .ok program)
    (divided : LinesAfter [] text.toList (tapeLine :: others)) :
    ¬ tapeLine.OffendsAsTape ∧ ∀ line ∈ others, ¬ line.OffendsAsRule := by
  rcases read_cases (utf8ByteSize_le_of_read accepted) divided with
    ⟨-, report, refused⟩ | ⟨-, ⟨sound, -⟩ | ⟨line, detail, -, refused⟩⟩
  · cases accepted.symm.trans refused
  · exact sound
  · cases accepted.symm.trans refused

theorem exists_line_of_statement {lines : List Line} {numbered : List (Nat × Statement)}
    (hold : List.Forall₂ Line.Holds lines numbered) {statement : Statement}
    (stated : statement ∈ numbered.map Prod.snd) :
    ∃ line ∈ lines, IsStatement line.text statement := by
  induction hold with
  | nil => cases stated
  | @cons line first lines numbered holds _ ih =>
      rcases List.mem_cons.mp stated with rfl | later
      · exact ⟨line, List.mem_cons_self, holds.2⟩
      · obtain ⟨other, there, spells⟩ := ih later
        exact ⟨other, List.mem_cons_of_mem line there, spells⟩

theorem fits_of_read {text : String} {program : Program}
    (accepted : (read text).value = .ok program) : program.Fits := by
  obtain ⟨tapeLine, others, divided⟩ := exists_linesAfter_nil text.toList
  obtain ⟨cells, numbered, holdsCells, hold, made⟩ := exists_madeOf_of_linesAfter accepted divided
  obtain ⟨soundTape, soundRules⟩ := sound_of_read accepted divided
  have few : program.listing.length ≤ sizeLimit := by
    have lines := divided.length_le.1
    have bytes := length_toList_le text
    have short := utf8ByteSize_le_of_read accepted
    have same := hold.length_eq
    have texts : (assemblyTexts (numbered.map Prod.snd)).length ≤ (numbered.map Prod.snd).length :=
      List.length_filterMap_le _ _
    rw [List.length_cons] at lines
    rw [List.length_map] at texts
    rw [made.listing, length_listingOf]
    omega
  refine ⟨?_, ?_, ?_⟩
  · intro symbol member
    rw [made.tape, List.mem_map] at member
    obtain ⟨cell, there, rfl⟩ := member
    rw [offendsAsTape_iff holdsCells, TapeOffends, not_or, not_exists] at soundTape
    exact value_lt_wordBound fun large => soundTape.2 cell ⟨there, large⟩
  · intro state symbol instruction found
    have block := made.blocks state symbol instruction found
    obtain ⟨above, fields, below, parts, -, -, rfl⟩ := (made.table _ _ _).mp found
    have stated : Statement.rule fields ∈ numbered.map Prod.snd := by simp [parts]
    obtain ⟨line, there, holds⟩ := exists_line_of_statement hold stated
    have sound := soundRules line there
    rw [offendsAsRule_iff holds] at sound
    exact ⟨value_lt_wordBound (not_or.mp sound).2, lt_of_le_of_lt (block.trans few) (by decide)⟩
  · intro line member
    rw [made.listing, listingOf, List.mem_mapIdx] at member
    obtain ⟨index, inside, rfl⟩ := member
    simp [ListingLine.Fits]

end Program

/-! ## Sections and listings -/

namespace TapeSection

theorem fits_updateAll {sections : List TapeSection}
    (fit : ∀ tapeSection ∈ sections, tapeSection.Fits) (tape : Tape) :
    ∀ tapeSection ∈ updateAll sections tape, tapeSection.Fits := by
  intro tapeSection member
  obtain ⟨original, there, rfl⟩ := List.mem_map.mp member
  exact ⟨(fit original there).first, (fit original there).last⟩

theorem fits_layout {tape : Tape} (short : tape.size ≤ Program.sizeLimit) :
    ∀ tapeSection ∈ layout tape, tapeSection.Fits := by
  intro tapeSection member
  obtain ⟨ordered, within⟩ := range_layout member
  have below : tapeSection.last < sizeBound := by
    unfold Program.sizeLimit at short
    unfold sizeBound
    omega
  exact ⟨lt_of_le_of_lt ordered below, below⟩

end TapeSection

namespace Listing.Fits

variable {listing : Listing}

theorem advance (fits : listing.Fits) {target : Nat} (small : target < sizeBound)
    {sections : List TapeSection} (copy : ∀ tapeSection ∈ sections, tapeSection.Fits) :
    (listing.advance target sections).value.Fits where
  lines := by
    intro line member
    obtain ⟨before, old, advances⟩ := exists_advances member
    cases advances with
    | kept => exact fits.lines _ old
    | completed _ => exact copy
    | entered _ => exact fits.lines before old
  current := by rwa [current_advance]

theorem toggled (fits : listing.Fits) {flipped : Listing} {index : Nat} {flag : Bool}
    (toggled : listing.toggleBreakpoint? index = some (flag, flipped)) : flipped.Fits where
  lines := by
    intro line member
    obtain ⟨before, old, -, same⟩ := exists_line_of_mem_toggled toggled member
    have was := fits.lines before old
    rwa [ListingLine.Fits, ← same] at was
  current := by
    rw [current_of_toggled toggled]
    exact fits.current

end Listing.Fits

/-! ## Sessions -/

/-- The symbols and the listing of a moment keep within their bounds. -/
structure Moment.Fits (moment : Moment) : Prop where
  tape : ∀ symbol ∈ moment.configuration.tape.toList, symbol < wordBound
  listing : moment.listing.Fits

/-- An instruction that fits writes nothing but symbols. -/
theorem Configuration.tape_of_follow? {before after : Configuration} {instruction : Instruction}
    (symbols : ∀ symbol ∈ before.tape.toList, symbol < wordBound) (fits : instruction.Fits)
    (follows : before.follow? instruction = some after) :
    ∀ symbol ∈ after.tape.toList, symbol < wordBound := by
  obtain ⟨head, -, rfl⟩ := Option.map_eq_some_iff.mp follows
  intro symbol member
  rw [Array.toList_setIfInBounds] at member
  rcases List.mem_or_eq_of_mem_set member with old | rfl
  · exact symbols symbol old
  · exact fits.write

namespace Session

/-- All numbers that a session holds, or that its instructions can bring about, keep within the
bounds of the fields that show them, apart from the number of steps. -/
structure Fits (session : Session) : Prop where
  table : ∀ state symbol instruction,
    session.table.find? state symbol = some instruction → instruction.Fits
  sections : ∀ tapeSection ∈ session.sections, tapeSection.Fits
  present : session.moment.Fits
  remembered : ∀ moment ∈ session.history.toList, moment.Fits

namespace Fits

variable {session : Session}

theorem progress {after : Session} (fits : session.Fits) (made : Progress session after) :
    after.Fits := by
  cases made with
  | paced _ | stuck _ => exact ⟨fits.table, fits.sections, fits.present, fits.remembered⟩
  | @stepped symbol instruction target read found follows passes =>
      -- the listing may keep a copy of the sections, as they are decoded behind the step
      have narrow := fits.table _ _ _ found
      have sections := TapeSection.fits_updateAll fits.sections target.tape
      refine ⟨fits.table, sections, ⟨?_, ?_⟩, fun moment member => ?_⟩
      · exact Configuration.tape_of_follow? fits.present.tape narrow follows
      · change (session.takeStep symbol instruction target).value.listing.Fits
        rw [listing_takeStep]
        split
        · exact fits.present.listing
        · exact fits.present.listing.advance narrow.block sections
      · rcases History.eq_or_mem_of_mem_push member with rfl | old
        · exact fits.present
        · exact fits.remembered moment old
  | finished _ =>
      refine ⟨fits.table, TapeSection.fits_updateAll fits.sections _, ⟨fits.present.tape, ?_⟩,
        fits.remembered⟩
      exact fits.present.listing.advance (by decide) fits.sections

/-- Without a program and a past there are no numbers that could be too large. -/
theorem of_blank {settings : Settings} {limit : Option Nat} (untabled : session.table = .empty)
    (undivided : session.sections = []) (blank : session.moment = blankMoment settings)
    (forgotten : session.history = .empty limit) : session.Fits where
  table := by simp [untabled]
  sections := by simp [undivided]
  present := by
    rw [blank]
    exact ⟨by simp [blankMoment], by simp [blankMoment, Listing.empty], Nat.zero_lt_succ _⟩
  remembered := by simp [forgotten]

theorem load (session : Session) (text : String) : (session.load text).session.Fits := by
  cases verdict : (Program.read text).value with
  | error fault =>
      rw [session_load_of_rejected verdict]
      exact of_blank rfl rfl rfl rfl
  | ok program =>
      have fits := Program.fits_of_read verdict
      have short := (Program.confined_of_read verdict "").size_le
      rw [session_load verdict]
      refine ⟨fits.table, TapeSection.fits_updateAll (TapeSection.fits_layout short) _,
        ⟨fits.tape, fits.listing, Nat.zero_lt_succ _⟩, ?_⟩
      simp [History.clear]

end Fits

theorem lasting_fits (settings : Settings) : Lasting settings Fits where
  progress := Fits.progress
  undone := by
    intro session moment history fits popped
    have members := History.toList_of_pop? popped
    refine ⟨fits.table, TapeSection.fits_updateAll fits.sections _, ?_, fun other member => ?_⟩
    · exact fits.remembered moment (by simp [members])
    · exact fits.remembered other (by simp [members, member])
  toggled fits flipped :=
    ⟨fits.table, fits.sections, ⟨fits.present.tape, fits.present.listing.toggled flipped⟩,
      fits.remembered⟩
  listening _ _ fits := ⟨fits.table, fits.sections, fits.present, fits.remembered⟩
  initial := .of_blank rfl rfl rfl rfl
  loaded text _ := .load _ text
  emptied _ := .of_blank rfl rfl rfl rfl
  deleted _ := .of_blank rfl rfl rfl rfl

/-- With sound settings, all numbers of a snapshot keep within their bounds if the number of
steps does. -/
theorem Reachable.fits_snapshot {settings : Settings} {session : Session}
    (reachable : Reachable settings session) (sound : settings.defect? = none)
    (fits : settings.Fits) (counted : session.moment.stepCount < sizeBound) :
    session.snapshot.Fits := by
  have holds := (lasting_fits settings).of_reachable reachable
  have confined := reachable.confined.present
  have paced := reachable.paced sound
  obtain ⟨fastest, -⟩ := reachable.tuned
  exact {
    tape := holds.present.tape
    head := lt_of_le_of_lt confined.head_le (by decide)
    stepCount := counted
    speed := lt_of_le_of_lt (fastest ▸ paced.bounded) fits.maxSpeed
    sections := holds.sections
    assembly := holds.present.listing.lines
    currentBlock := holds.present.listing.current }

end Session
end TapeWorkbench
