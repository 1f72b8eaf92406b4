import TapeWorkbench.JsonForm
import TapeWorkbench.Proofs.JsonText

/-!
# Published values and their JSON forms

A value survives JSON if reading its text gives the value back, for the compact and for the
indented text.  For that its form has to be one that the printers write faithfully, and the form
has to be recognized as the value's (`Faithful`); both are shown for every published type from
what holds of its fields.  Numbers have to be below the bounds of their fields (`Fits`).
-/

namespace TapeWorkbench
open JsonForm

section Bounds

/-- The numbers of an instruction are below the bounds of their fields. -/
structure Instruction.Fits (instruction : Instruction) : Prop where
  write : instruction.write < wordBound
  block : instruction.block < sizeBound

structure TapeSection.Fits (tapeSection : TapeSection) : Prop where
  first : tapeSection.first < sizeBound
  last : tapeSection.last < sizeBound

def ListingLine.Fits (line : ListingLine) : Prop :=
  ∀ tapeSection ∈ line.sections, tapeSection.Fits

structure Listing.Fits (listing : Listing) : Prop where
  lines : ∀ line ∈ listing.lines, line.Fits
  current : listing.current < sizeBound

structure Settings.Fits (settings : Settings) : Prop where
  defaultSpeed : settings.defaultSpeed < wordBound
  maxSpeed : settings.maxSpeed < wordBound
  burstSteps : settings.burstSteps < sizeBound
  historyLimit : ∀ limit ∈ settings.historyLimit, limit < sizeBound
  maxSteps : settings.maxSteps < sizeBound

/-- The numbers in a snapshot, those in its sections and lines included, are below the bounds
of their fields. -/
structure Snapshot.Fits (snapshot : Snapshot) : Prop where
  tape : ∀ symbol ∈ snapshot.tape.toList, symbol < wordBound
  head : snapshot.head < sizeBound
  stepCount : snapshot.stepCount < sizeBound
  speed : snapshot.speed < wordBound
  sections : ∀ tapeSection ∈ snapshot.sections, tapeSection.Fits
  assembly : ∀ line ∈ snapshot.assembly, line.Fits
  currentBlock : snapshot.currentBlock < sizeBound

end Bounds

namespace JsonForm

/-- The value is read back from its compact and from its indented text. -/
def Survives {α : Type} [JsonForm α] (value : α) : Prop :=
  read? α (write value) = some value ∧ read? α (Json.indented (toJson value)) = some value

/-- The form of the value can be written, and is recognized as the form of the value. -/
structure Faithful {α : Type} [JsonForm α] (value : α) : Prop where
  plain : Json.Plain (toJson value)
  recognized : ofJson? (toJson value) = some value

theorem Faithful.survives {α : Type} [JsonForm α] {value : α} (faithful : Faithful value) :
    Survives value := by
  constructor
  · rw [read?, write, Json.read?_compact faithful.plain, Option.bind_some, faithful.recognized]
  · rw [read?, Json.read?_indented faithful.plain, Option.bind_some, faithful.recognized]

section Fields

theorem memberNames?_ofMembers (members : List (String × Json.Value)) :
    memberNames? (members.map fun (name, value) => (some name, value)) =
      some (members.map Prod.fst) := by
  induction members with
  | nil => rfl
  | cons member members ih =>
      rw [memberNames?] at ih
      simp [memberNames?, ih]

theorem find?_ofMembers {members : List (String × Json.Value)}
    (distinct : (members.map Prod.fst).Nodup) {name : String} {value : Json.Value}
    (member : (name, value) ∈ members) :
    ((members.map fun (name, value) => (some name, value)).find?
      fun (key, _) => key == some name) = some (some name, value) := by
  induction members with
  | nil => exact absurd member List.not_mem_nil
  | cons first members ih =>
      obtain ⟨fresh, distinct⟩ := List.nodup_cons.mp distinct
      rcases List.mem_cons.mp member with rfl | later
      · simp
      · have other : first.1 ≠ name := by
          intro same
          exact fresh (same ▸ List.mem_map.mpr ⟨_, later, rfl⟩)
        rw [List.map_cons, List.find?_cons_of_neg (by simpa using other)]
        exact ih distinct later

/-- Every field of a record is found in its form. -/
theorem fields?_ofMembers (members : List (String × Json.Value))
    (distinct : (members.map Prod.fst).Nodup) :
    fields? (members.map Prod.fst) (.ofMembers members) =
      some (members.map fun member => some member.2) := by
  have known : (members.map Prod.fst).filter (fun name => (members.map Prod.fst).contains name) =
      members.map Prod.fst := by
    rw [List.filter_eq_self]
    intro name member
    simpa using member
  rw [Json.Value.ofMembers, fields?, memberNames?_ofMembers]
  simp only [Option.bind_eq_bind, Option.bind_some, known, if_pos distinct, Option.pure_def,
    List.map_map, Option.some.injEq]
  apply List.map_congr_left
  intro member isMember
  exact congrArg (Option.map Prod.snd) (find?_ofMembers distinct isMember)

theorem naturalBelow?_natural {bound number : Nat} (small : number < bound) :
    naturalBelow? bound (natural number) = some number := by
  have digits : (Decimal.digits number).all Decimal.isDigit = true :=
    List.all_eq_true.mpr fun c member => Decimal.isDigit_of_mem_digits member
  rw [natural, naturalBelow?, if_pos digits, Decimal.valueBelow?_eq _ _ (by omega),
    Decimal.value_digits, if_pos small]

theorem list?_map {α : Type} {form : α → Json.Value} {read : Json.Value → Option α}
    {items : List α} (each : ∀ item ∈ items, read (form item) = some item) :
    list? read (.array (items.map form)) = some items := by
  rw [list?]
  induction items with
  | nil => rfl
  | cons item items ih =>
      have others := ih fun other member => each other (List.mem_cons_of_mem _ member)
      simp [each item List.mem_cons_self, others]

theorem nullable?_natural {bound : Nat} {number : Option Nat}
    (small : ∀ value ∈ number, value < bound) :
    nullable? (naturalBelow? bound) (nullable natural number) = some number := by
  cases number with
  | none => rfl
  | some value =>
      have read := naturalBelow?_natural (small value rfl)
      rw [nullable, natural] at *
      simp [nullable?, read]

/-- What is read first has been read. -/
theorem bind_of_eq_some {α β : Type} {first : Option α} {value : α} {next : α → Option β}
    {result : Option β} (read : first = some value) (rest : next value = result) :
    first >>= next = result := by
  rw [read]
  exact rest

theorem text?_ofText (text : String) : text? (.ofText text) = some text :=
  rfl

theorem bool?_bool (value : Bool) : bool? (.bool value) = some value :=
  rfl

theorem nullable?_ofText (text : Option String) :
    nullable? text? (nullable .ofText text) = some text := by
  cases text <;> rfl

end Fields

section Types

theorem plain_ofMembers {members : List (String × Json.Value)}
    (each : ∀ member ∈ members, Json.Plain member.2) : Json.Plain (.ofMembers members) := by
  apply Json.Plain.object <;> intro member isMember
  all_goals
    obtain ⟨given, isGiven, rfl⟩ := List.mem_map.mp isMember
  · rfl
  · exact each given isGiven

theorem plain_list {α : Type} {form : α → Json.Value} {items : List α}
    (each : ∀ item ∈ items, Json.Plain (form item)) : Json.Plain (.array (items.map form)) := by
  apply Json.Plain.array
  intro element isElement
  obtain ⟨item, isItem, rfl⟩ := List.mem_map.mp isElement
  exact each item isItem

theorem plain_nullable {α : Type} {form : α → Json.Value} (value : Option α)
    (each : ∀ value, Json.Plain (form value)) : Json.Plain (nullable form value) := by
  cases value with
  | none => exact .null
  | some value => exact each value

theorem faithful_move (move : Move) : Faithful move := by
  cases move
  all_goals exact ⟨.string _, rfl⟩

theorem faithful_runStatus (status : RunStatus) : Faithful status := by
  cases status
  all_goals exact ⟨.string _, rfl⟩

theorem faithful_runOutcome (outcome : RunOutcome) : Faithful outcome := by
  cases outcome
  all_goals exact ⟨.string _, rfl⟩

theorem faithful_blockStatus (status : BlockStatus) : Faithful status := by
  cases status
  all_goals exact ⟨.string _, rfl⟩

theorem faithful_sectionColor (color : SectionColor) : Faithful color := by
  cases color
  all_goals exact ⟨.string _, rfl⟩

theorem faithful_instruction {instruction : Instruction} (fits : instruction.Fits) :
    Faithful instruction where
  plain := by
    apply plain_ofMembers
    simp only [List.forall_mem_cons]
    exact ⟨.number _, (faithful_move _).plain, .string _, .number _, List.forall_mem_nil _⟩
  recognized := by
    have fields := fields?_ofMembers
      [ ("write", natural instruction.write)
      , ("direction", toJson instruction.move)
      , ("next_state", .ofText instruction.nextState)
      , ("source_index", natural instruction.block) ] (by simp)
    have write := naturalBelow?_natural fits.write
    have block := naturalBelow?_natural fits.block
    have move := (faithful_move instruction.move).recognized
    refine bind_of_eq_some fields ?_
    refine bind_of_eq_some write ?_
    refine bind_of_eq_some move ?_
    refine bind_of_eq_some (text?_ofText _) ?_
    refine bind_of_eq_some block ?_
    rfl

theorem plain_tapeSection (tapeSection : TapeSection) : Json.Plain (toJson tapeSection) := by
  apply plain_ofMembers
  simp only [List.forall_mem_cons]
  exact ⟨.number _, .number _, .string _, (faithful_sectionColor _).plain, .string _,
    List.forall_mem_nil _⟩

theorem faithful_tapeSection {tapeSection : TapeSection} (fits : tapeSection.Fits) :
    Faithful tapeSection where
  plain := plain_tapeSection tapeSection
  recognized := by
    have fields := fields?_ofMembers
      [ ("start", natural tapeSection.first)
      , ("end", natural tapeSection.last)
      , ("name", .ofText tapeSection.name)
      , ("color", toJson tapeSection.color)
      , ("value", .ofText tapeSection.value) ] (by simp)
    have first := naturalBelow?_natural fits.first
    have last := naturalBelow?_natural fits.last
    have color := (faithful_sectionColor tapeSection.color).recognized
    refine bind_of_eq_some fields ?_
    refine bind_of_eq_some first ?_
    refine bind_of_eq_some last ?_
    refine bind_of_eq_some (text?_ofText _) ?_
    refine bind_of_eq_some color ?_
    refine bind_of_eq_some (text?_ofText _) ?_
    rfl

theorem plain_listingLine (line : ListingLine) : Json.Plain (toJson line) := by
  apply plain_ofMembers
  simp only [List.forall_mem_cons]
  exact ⟨.string _, (faithful_blockStatus _).plain, .bool _,
    plain_list fun tapeSection _ => plain_tapeSection tapeSection, List.forall_mem_nil _⟩

theorem faithful_listingLine {line : ListingLine} (fits : line.Fits) : Faithful line where
  plain := plain_listingLine line
  recognized := by
    have fields := fields?_ofMembers
      [ ("text", .ofText line.text)
      , ("status", toJson line.status)
      , ("breakpoint", .bool line.breakpoint)
      , ("sections", .array (line.sections.map toJson)) ] (by simp)
    have status := (faithful_blockStatus line.status).recognized
    have sections := list?_map fun tapeSection member =>
      (faithful_tapeSection (fits tapeSection member)).recognized
    refine bind_of_eq_some fields ?_
    refine bind_of_eq_some (text?_ofText _) ?_
    refine bind_of_eq_some status ?_
    refine bind_of_eq_some (bool?_bool _) ?_
    refine bind_of_eq_some sections ?_
    rfl

theorem faithful_listing {listing : Listing} (fits : listing.Fits) : Faithful listing where
  plain := by
    apply plain_ofMembers
    simp only [List.forall_mem_cons]
    exact ⟨plain_list fun line _ => plain_listingLine line, .number _, List.forall_mem_nil _⟩
  recognized := by
    have fields := fields?_ofMembers
      [ ("lines", .array (listing.lines.map toJson))
      , ("current", natural listing.current) ] (by simp)
    have lines := list?_map fun line member =>
      (faithful_listingLine (fits.lines line member)).recognized
    have current := naturalBelow?_natural fits.current
    refine bind_of_eq_some fields ?_
    refine bind_of_eq_some lines ?_
    refine bind_of_eq_some current ?_
    rfl

theorem faithful_settings {settings : Settings} (fits : settings.Fits) : Faithful settings where
  plain := by
    apply plain_ofMembers
    simp only [List.forall_mem_cons]
    exact ⟨.number _, .number _, .number _, .string _, .string _,
      plain_nullable _ .number, .number _, List.forall_mem_nil _⟩
  recognized := by
    have fields := fields?_ofMembers
      [ ("default_speed", natural settings.defaultSpeed)
      , ("max_speed", natural settings.maxSpeed)
      , ("burst_steps", natural settings.burstSteps)
      , ("start_state", .ofText settings.startState)
      , ("halt_state", .ofText settings.haltState)
      , ("history_limit", nullable natural settings.historyLimit)
      , ("max_steps", natural settings.maxSteps) ] (by simp)
    have defaultSpeed := naturalBelow?_natural fits.defaultSpeed
    have maxSpeed := naturalBelow?_natural fits.maxSpeed
    have burstSteps := naturalBelow?_natural fits.burstSteps
    have historyLimit := nullable?_natural fits.historyLimit
    have maxSteps := naturalBelow?_natural fits.maxSteps
    refine bind_of_eq_some fields ?_
    refine bind_of_eq_some defaultSpeed ?_
    refine bind_of_eq_some maxSpeed ?_
    refine bind_of_eq_some burstSteps ?_
    refine bind_of_eq_some (text?_ofText _) ?_
    refine bind_of_eq_some (text?_ofText _) ?_
    refine bind_of_eq_some historyLimit ?_
    refine bind_of_eq_some maxSteps ?_
    rfl

theorem plain_snapshot (snapshot : Snapshot) : Json.Plain (toJson snapshot) := by
  apply plain_ofMembers
  simp only [List.forall_mem_cons]
  exact ⟨plain_list fun _ _ => .number _, .number _, .string _, .number _, .bool _,
    (faithful_runStatus _).plain, .number _, plain_nullable _ .string, .string _, .string _,
    .string _, plain_list fun tapeSection _ => plain_tapeSection tapeSection,
    plain_list fun line _ => plain_listingLine line, .number _, List.forall_mem_nil _⟩

theorem faithful_snapshot {snapshot : Snapshot} (fits : snapshot.Fits) : Faithful snapshot where
  plain := plain_snapshot snapshot
  recognized := by
    have fields := fields?_ofMembers
      [ ("tape", .array (snapshot.tape.toList.map natural))
      , ("head", natural snapshot.head)
      , ("state", .ofText snapshot.state)
      , ("step_count", natural snapshot.stepCount)
      , ("ready", .bool snapshot.ready)
      , ("status", toJson snapshot.status)
      , ("speed", natural snapshot.speed)
      , ("error", nullable .ofText snapshot.error)
      , ("source", .ofText snapshot.source)
      , ("current_instruction", .ofText snapshot.currentInstruction)
      , ("output", .ofText snapshot.output)
      , ("sections", .array (snapshot.sections.map toJson))
      , ("assembly", .array (snapshot.assembly.map toJson))
      , ("current_asm_index", natural snapshot.currentBlock) ] (by simp)
    have tape := list?_map fun symbol member => naturalBelow?_natural (fits.tape symbol member)
    have head := naturalBelow?_natural fits.head
    have stepCount := naturalBelow?_natural fits.stepCount
    have status := (faithful_runStatus snapshot.status).recognized
    have speed := naturalBelow?_natural fits.speed
    have error := nullable?_ofText snapshot.error
    have sections := list?_map fun tapeSection member =>
      (faithful_tapeSection (fits.sections tapeSection member)).recognized
    have assembly := list?_map fun line member =>
      (faithful_listingLine (fits.assembly line member)).recognized
    have currentBlock := naturalBelow?_natural fits.currentBlock
    refine bind_of_eq_some fields ?_
    refine bind_of_eq_some tape ?_
    refine bind_of_eq_some head ?_
    refine bind_of_eq_some (text?_ofText _) ?_
    refine bind_of_eq_some stepCount ?_
    refine bind_of_eq_some (bool?_bool _) ?_
    refine bind_of_eq_some status ?_
    refine bind_of_eq_some speed ?_
    refine bind_of_eq_some error ?_
    refine bind_of_eq_some (text?_ofText _) ?_
    refine bind_of_eq_some (text?_ofText _) ?_
    refine bind_of_eq_some (text?_ofText _) ?_
    refine bind_of_eq_some sections ?_
    refine bind_of_eq_some assembly ?_
    refine bind_of_eq_some currentBlock ?_
    rfl

end Types

/-- Every published value survives JSON, in compact and in indented form: whatever its texts
hold, however long its lists are, and whichever of its optional fields are absent. -/
theorem survives_of_fits :
    (∀ move : Move, Survives move) ∧
    (∀ instruction : Instruction, instruction.Fits → Survives instruction) ∧
    (∀ status : RunStatus, Survives status) ∧
    (∀ outcome : RunOutcome, Survives outcome) ∧
    (∀ status : BlockStatus, Survives status) ∧
    (∀ color : SectionColor, Survives color) ∧
    (∀ tapeSection : TapeSection, tapeSection.Fits → Survives tapeSection) ∧
    (∀ line : ListingLine, line.Fits → Survives line) ∧
    (∀ listing : Listing, listing.Fits → Survives listing) ∧
    (∀ settings : Settings, settings.Fits → Survives settings) ∧
    (∀ snapshot : Snapshot, snapshot.Fits → Survives snapshot) := by
  refine ⟨?_, ?_, ?_, ?_, ?_, ?_, ?_, ?_, ?_, ?_, ?_⟩
  · exact fun move => (faithful_move move).survives
  · exact fun instruction fits => (faithful_instruction fits).survives
  · exact fun status => (faithful_runStatus status).survives
  · exact fun outcome => (faithful_runOutcome outcome).survives
  · exact fun status => (faithful_blockStatus status).survives
  · exact fun color => (faithful_sectionColor color).survives
  · exact fun tapeSection fits => (faithful_tapeSection fits).survives
  · exact fun line fits => (faithful_listingLine fits).survives
  · exact fun listing fits => (faithful_listing fits).survives
  · exact fun settings fits => (faithful_settings fits).survives
  · exact fun snapshot fits => (faithful_snapshot fits).survives

/-- A section with the largest positions, named by characters that have to be escaped. -/
def awkwardSection : TapeSection :=
  { first := 18446744073709551615
    last := 18446744073709551615
    name := "\"\\\x00\x1f\t\x7f"
    color := .purple
    value := "" }

def awkwardLine : ListingLine :=
  { text := "a \"quoted\" line,\r\n]"
    status := .completed
    breakpoint := true
    sections := [awkwardSection, awkwardSection] }

def awkwardListing : Listing :=
  { lines := [awkwardLine, awkwardLine], current := 18446744073709551615 }

def awkwardSettings : Settings :=
  { Settings.default with
    maxSpeed := 4294967295
    haltState := "\\u0041"
    historyLimit := some 18446744073709551615 }

def awkwardSnapshot : Snapshot :=
  { tape := #[0, 4294967295]
    head := 1
    state := "é😀"
    stepCount := 18446744073709551615
    ready := true
    status := .running
    speed := 4294967295
    error := some "no \"cell\""
    source := "line\nline"
    currentInstruction := ""
    output := "?"
    sections := [awkwardSection]
    assembly := [awkwardLine]
    currentBlock := 0 }

theorem survives_of_fits_awkward :
    Survives (Instruction.mk 4294967295 .left "\\" 0) ∧ Survives awkwardSection ∧
      Survives awkwardLine ∧ Survives awkwardListing ∧ Survives awkwardSettings ∧
      Survives awkwardSnapshot := by
  obtain ⟨-, instruction, -, -, -, -, tapeSection, line, listing, settings, snapshot⟩ :=
    survives_of_fits
  have sectionFits : awkwardSection.Fits := ⟨by decide, by decide⟩
  have lineFits : awkwardLine.Fits := by
    intro tapeSection member
    have same : tapeSection = awkwardSection := by simpa [awkwardLine] using member
    exact same ▸ sectionFits
  refine ⟨instruction _ ⟨by decide, by decide⟩, tapeSection _ sectionFits, line _ lineFits,
    listing _ ⟨?_, by decide⟩, settings _ ⟨by decide, by decide, by decide, by decide, by decide⟩,
    snapshot _ ⟨by decide, by decide, by decide, by decide, ?_, ?_, by decide⟩⟩
  · simpa [awkwardListing] using lineFits
  · simpa [awkwardSnapshot] using sectionFits
  · simpa [awkwardSnapshot] using lineFits

end JsonForm
end TapeWorkbench
