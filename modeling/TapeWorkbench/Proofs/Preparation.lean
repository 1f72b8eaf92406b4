import TapeWorkbench.CommandLine.Execution
import TapeWorkbench.Proofs.Breakpoints
import TapeWorkbench.Proofs.Contents
import TapeWorkbench.Proofs.Forgetting

/-!
# What is checked before a run

A program is run only if the settings can be read, its text is there, the text is a program, and
the speed and the breakpoints are within their bounds (`Admitted`).  Otherwise the first of these
checks that fails ends the matter (`FirstFailure`).  What is prepared is the session to which the
commands of the options lead from a new one (`opened`).
-/

namespace TapeWorkbench

open Program

/-! ## The assembly lines of a text -/

namespace Program

/-- Is the line one of assembly, with the directive as its first word? -/
def Line.isAssembly (line : Line) : Bool :=
  (afterWord? "#asm".toList (line.text.dropWhile isBlank)).isSome

/-- The number of assembly lines of a text, whose first line is the tape. -/
def assemblyLineCount (text : String) : Nat :=
  (Line.split text.toList).tail.countP Line.isAssembly

theorem Line.Holds.isAssembly_eq {line : Line} {numbered : Nat × Statement}
    (holds : line.Holds numbered) : line.isAssembly = numbered.2.assembly?.isSome := by
  obtain ⟨number, statement⟩ := numbered
  obtain ⟨-, statement⟩ := holds
  unfold Line.isAssembly
  cases statement with
  | blank nothing =>
      rw [words_eq_nil_iff.mp nothing]
      rfl
  | assembly directive => rw [isDirective_iff.mp directive]; rfl
  | source directive =>
      rw [forall_not_isDirective_iff.mp (not_isDirective_assembly directive)]
      rfl
  | comment _ noAssembly _ => rw [forall_not_isDirective_iff.mp noAssembly]; rfl
  | rule unmarked _ _ _ =>
      have noAssembly : ∀ text, ¬ IsDirective "#asm".toList line.text text := fun text directive =>
        unmarked (head?_of_isDirective directive rfl)
      rw [forall_not_isDirective_iff.mp noAssembly]
      rfl

theorem length_assemblyTexts {lines : List Line} {numbered : List (Nat × Statement)}
    (hold : List.Forall₂ Line.Holds lines numbered) :
    (assemblyTexts (numbered.map Prod.snd)).length = lines.countP Line.isAssembly := by
  induction hold with
  | nil => rfl
  | @cons line first lines numbered holds _ ih =>
      rw [List.countP_cons, holds.isAssembly_eq, ← ih]
      cases assembly : first.2.assembly? with
      | none => simp [assemblyTexts, assembly]
      | some text => simp [assemblyTexts, assembly]

/-- The listing of an accepted text has a line for each line of assembly. -/
theorem length_listing_of_read {text : String} {program : Program}
    (accepted : (read text).value = .ok program) :
    program.listing.length = assemblyLineCount text := by
  obtain ⟨tapeLine, others, cells, numbered, divided, -, hold, made, -⟩ := read_contents accepted
  rw [made.listing, length_listingOf, length_assemblyTexts hold, assemblyLineCount,
    ← linesAfter_nil_iff.mp divided, List.tail_cons]

end Program

namespace CommandLine

/-! ## The checks -/

/-- The text is what came of a reading: bytes in UTF-8. -/
def Holds (reading : Except ReadFailure ByteArray) (text : String) : Prop :=
  ∃ bytes, reading = .ok bytes ∧ String.fromUTF8? bytes = some text

/-- The settings of a run: those of the file that is named, which can be read and break no rule,
or the default ones where none is named. -/
inductive Configured (options : Options) (sources : Sources) : Settings → Prop
  | default (unnamed : options.settingsFile = none) : Configured options sources .default
  | read {path text : String} {settings : Settings} (named : options.settingsFile = some path)
      (holds : Holds sources.settings text)
      (accepted : Settings.read sources.report text = .ok settings) :
      Configured options sources settings

/-- The speed that is asked for, if one is, is one that the settings allow. -/
def AllowsSpeed (options : Options) (settings : Settings) : Prop :=
  ∀ speed, options.speed = some speed → 1 ≤ speed ∧ speed ≤ settings.maxSpeed

/-- All checks before the run succeed. -/
structure Admitted (options : Options) (sources : Sources) (settings : Settings) (text : String)
    (program : Program) : Prop where
  configured : Configured options sources settings
  supplied : Holds sources.program text
  accepted : (Program.read text).value = .ok program
  speed : AllowsSpeed options settings
  placed : ∀ index ∈ options.breakpoints, index < Program.assemblyLineCount text

/-- The commands that the options ask for before the run. -/
def openingCommands (options : Options) (text : String) : List Command :=
  .load text :: (options.speed.toList.map .setSpeed ++ options.breakpoints.map .setBreakpoint ++
    if options.debug then [.subscribe] else [])

/-- A new session after the commands that the options ask for. -/
def opened (options : Options) (settings : Settings) (text : String) : Session :=
  (Session.new settings).performAll (openingCommands options text)

theorem reachable_opened (options : Options) (settings : Settings) (text : String) :
    Session.Reachable settings (opened options settings text) :=
  Session.Reachable.new.performAll _

/-! ## One check after the other -/

theorem bind_decode_eq_ok_iff {reading : Except ReadFailure ByteArray} {text : String} :
    reading.bind FileText.decode = .ok text ↔ Holds reading text := by
  rw [bind_eq_ok_iff, Holds]
  apply exists_congr
  intro bytes
  apply and_congr_right
  intro _
  unfold FileText.decode
  cases String.fromUTF8? bytes with
  | none => simp
  | some other => simp

theorem ofReading_eq_ok_iff {path text : String} {reading : Except ReadFailure ByteArray} :
    FileText.ofReading path reading = .ok text ↔ Holds reading text := by
  rw [← bind_decode_eq_ok_iff, FileText.ofReading]
  cases reading.bind FileText.decode with
  | ok other => simp
  | error failure => simp

theorem settingsOf_eq_ok_iff {options : Options} {sources : Sources} {settings : Settings} :
    settingsOf options sources = .ok settings ↔ Configured options sources settings := by
  cases named : options.settingsFile with
  | none =>
      simp only [settingsOf, named]
      constructor
      · intro same
        cases same
        exact .default named
      · intro configured
        cases configured with
        | default _ => rfl
        | read named' _ _ => cases named.symm.trans named'
  | some path =>
      have value : settingsOf options sources =
          (FileText.ofReading path sources.settings).bind (Settings.read sources.report) := by
        simp only [settingsOf, named, Settings.ofFile]
        split <;> simp_all
      rw [value, bind_eq_ok_iff]
      constructor
      · rintro ⟨text, found, accepted⟩
        exact .read named (ofReading_eq_ok_iff.mp found) accepted
      · intro configured
        cases configured with
        | default unnamed => cases named.symm.trans unnamed
        | read _ holds accepted => exact ⟨_, ofReading_eq_ok_iff.mpr holds, accepted⟩

theorem programTextOf_eq_ok_iff (options : Options) {sources : Sources} {text : String} :
    programTextOf options sources = .ok text ↔ Holds sources.program text := by
  have mapped {ε : Type} (failure : ε → StartFailure) (found : Except ε String) :
      found.mapError failure = .ok text ↔ found = .ok text := by
    cases found with
    | ok other => simp [Except.mapError]
    | error cause => simp [Except.mapError]
  cases named : options.program with
  | none =>
      simp only [programTextOf, named]
      rw [mapped, bind_decode_eq_ok_iff]
  | some path =>
      simp only [programTextOf, named]
      rw [mapped, ofReading_eq_ok_iff]

theorem require_load (settings : Settings) (text : String) :
    require ((Session.new settings).load text) =
      match (Program.read text).value with
      | .ok _ => .ok ((Session.new settings).load text).session
      | .error fault => .error (.fault fault) := by
  unfold require
  cases verdict : (Program.read text).value with
  | ok program => rw [Session.answer_load verdict]
  | error fault => rw [Session.answer_load_of_rejected verdict]

theorem require_setSpeed_of_valid {session : Session} {speed : Nat}
    (valid : 1 ≤ speed ∧ speed ≤ session.control.maxSpeed) :
    require (session.setSpeed speed) = .ok (session.perform (.setSpeed speed)).session := by
  obtain ⟨changed, accepted, -⟩ := RunControl.setSpeed_of_valid valid.1 valid.2
  have answer : (session.setSpeed speed).answer = .ok changed.value.liveHandle? := by
    simp [Session.setSpeed, accepted, Reply.published]
  simp only [require, answer]
  rfl

theorem require_setBreakpoint_of_inside {session : Session} {index : Nat}
    (inside : index < session.listing.lines.length) :
    require (session.setBreakpoint index) = .ok (session.perform (.setBreakpoint index)).session ∧
      (session.perform (.setBreakpoint index)).session.listing.lines.length =
        session.listing.lines.length := by
  obtain ⟨flag, answer, flags, -⟩ := Session.flags_setBreakpoint inside
  constructor
  · simp only [require, answer]
    rfl
  · have lengths := congrArg List.length flags
    rw [List.length_modify, Listing.flags, Listing.flags, List.length_map, List.length_map]
      at lengths
    exact lengths

theorem foldlM_setBreakpoint_of_inside {indices : List Nat} {session : Session}
    (inside : ∀ index ∈ indices, index < session.listing.lines.length) :
    indices.foldlM (fun session index => require (session.setBreakpoint index)) session =
      .ok (session.performAll (indices.map .setBreakpoint)) := by
  induction indices generalizing session with
  | nil => rfl
  | cons index indices ih =>
      rw [List.forall_mem_cons] at inside
      obtain ⟨flipped, length⟩ := require_setBreakpoint_of_inside inside.1
      rw [← length] at inside
      rw [List.foldlM_cons, flipped]
      exact ih inside.2

/-- Flipping breakpoints changes nothing but the listing, which keeps its length. -/
theorem exists_listing_of_setBreakpoints {indices : List Nat} {session : Session}
    (inside : ∀ index ∈ indices, index < session.listing.lines.length) :
    ∃ listing, listing.lines.length = session.listing.lines.length ∧
      session.performAll (indices.map .setBreakpoint) =
        { session with moment := { session.moment with listing } } := by
  induction indices generalizing session with
  | nil => exact ⟨session.moment.listing, rfl, rfl⟩
  | cons index indices ih =>
      rw [List.forall_mem_cons] at inside
      have length := (require_setBreakpoint_of_inside inside.1).2
      rw [← length] at inside ⊢
      obtain ⟨last, same, reached⟩ := ih inside.2
      refine ⟨last, same, ?_⟩
      rw [List.map_cons, Session.performAll_cons, reached]
      change { (session.setBreakpoint index).session with
        moment := { (session.setBreakpoint index).session.moment with listing := last } } = _
      cases toggled : session.listing.toggleBreakpoint? index with
      | none => rw [Session.session_setBreakpoint_of_none toggled]
      | some flipped => rw [Session.session_setBreakpoint toggled]

/-- Take on the speed that is asked for, if one is. -/
def takeSpeed (options : Options) (session : Session) : Except StartFailure Session :=
  match options.speed with
  | none => .ok session
  | some speed => require (session.setSpeed speed)

theorem takeSpeed_of_allowed {options : Options} {settings : Settings} {session : Session}
    (fastest : session.control.maxSpeed = settings.maxSpeed)
    (allowed : AllowsSpeed options settings) :
    takeSpeed options session =
      .ok (session.performAll (options.speed.toList.map .setSpeed)) := by
  unfold takeSpeed
  cases asked : options.speed with
  | none => rfl
  | some speed => exact require_setSpeed_of_valid (by rw [fastest]; exact allowed speed asked)

/-! ## All checks -/

section Accepted

variable {options : Options} {sources : Sources} {settings : Settings} {text : String}
  {program : Program}

theorem length_lines_load (settings : Settings)
    (accepted : (Program.read text).value = .ok program) :
    ((Session.new settings).load text).session.listing.lines.length =
      Program.assemblyLineCount text := by
  rw [Session.session_load accepted]
  exact Program.length_listing_of_read accepted

theorem maxSpeed_load (settings : Settings) (text : String) :
    ((Session.new settings).load text).session.control.maxSpeed = settings.maxSpeed := by
  rw [Session.control_load, RunControl.value_reset]
  rfl

/-- What is left to do when the program is loaded. -/
theorem prepare_of_accepted (configured : Configured options sources settings)
    (supplied : Holds sources.program text)
    (accepted : (Program.read text).value = .ok program) :
    prepare options sources =
      (takeSpeed options ((Session.new settings).load text).session).bind fun atSpeed =>
        (options.breakpoints.foldlM
          (fun session index => require (session.setBreakpoint index)) atSpeed).map
          fun session : Session =>
            if options.debug then session.subscribe.session else session := by
  have settled := settingsOf_eq_ok_iff.mpr configured
  have found := (programTextOf_eq_ok_iff options).mpr supplied
  have load := require_load settings text
  rw [accepted] at load
  simp only [prepare, settled, found, load, Except.mapError, bind, Except.bind, pure, Except.pure,
    takeSpeed]
  cases options.speed with
  | none => rfl
  | some speed => rfl

/-- The loaded session is paused, and the speed changes nothing else. -/
theorem performAll_setSpeed_of_allowed (text : String) (allowed : AllowsSpeed options settings) :
    let loaded := ((Session.new settings).load text).session
    loaded.performAll (options.speed.toList.map .setSpeed) =
      { loaded with
        control := { loaded.control with speed := options.speed.getD settings.defaultSpeed } } := by
  intro loaded
  have control : loaded.control = ((Session.new settings).control.reset _).value :=
    Session.control_load _ _
  rw [RunControl.value_reset] at control
  cases asked : options.speed with
  | none =>
      have speed : loaded.control.speed = settings.defaultSpeed := by rw [control]; rfl
      rw [Option.getD_none, ← speed]
      rfl
  | some speed =>
      have valid : 1 ≤ speed ∧ speed ≤ loaded.control.maxSpeed := by
        rw [show loaded.control.maxSpeed = _ from maxSpeed_load settings text]
        exact allowed speed asked
      have paused : ¬ loaded.control.isRunning = true := by
        rw [control]
        simp [RunControl.isRunning]
      change (loaded.setSpeed speed).session = _
      rw [Session.session_setSpeed_of_valid valid.1 valid.2, if_neg paused]
      rfl

theorem length_lines_atSpeed (accepted : (Program.read text).value = .ok program)
    (allowed : AllowsSpeed options settings) :
    (((Session.new settings).load text).session.performAll
        (options.speed.toList.map .setSpeed)).listing.lines.length =
      Program.assemblyLineCount text := by
  rw [performAll_setSpeed_of_allowed text allowed]
  exact length_lines_load settings accepted

theorem prepare_of_admitted (admitted : Admitted options sources settings text program) :
    prepare options sources = .ok (opened options settings text) := by
  have lines := length_lines_atSpeed admitted.accepted admitted.speed
  have inside := foldlM_setBreakpoint_of_inside (lines ▸ admitted.placed)
  rw [prepare_of_accepted admitted.configured admitted.supplied admitted.accepted,
    takeSpeed_of_allowed (maxSpeed_load settings text) admitted.speed]
  simp only [Except.bind, inside, Except.map, opened, openingCommands, Session.performAll_cons,
    Session.performAll_append]
  cases options.debug with
  | true => rfl
  | false => rfl

/-- A session that is ready to execute a program from the beginning. -/
structure Opened (options : Options) (settings : Settings) (program : Program)
    (session : Session) : Prop where
  ready : session.ready = true
  fault_eq : session.fault = none
  settings_eq : session.settings = settings
  table_eq : session.table = program.table
  configuration_eq : session.configuration = ⟨program.tape, program.head, settings.startState⟩
  stepCount_eq : session.moment.stepCount = 0
  stepsPerTick_eq : session.control.stepsPerTick =
    if options.speed.getD settings.defaultSpeed = settings.maxSpeed then settings.burstSteps else 1
  paused : session.control.isRunning = false
  /-- With `debug` there is a listener. -/
  listeners_eq : session.listeners = if options.debug then [0] else []

theorem opened_of_admitted (admitted : Admitted options sources settings text program) :
    Opened options settings program (opened options settings text) := by
  have lines := length_lines_atSpeed admitted.accepted admitted.speed
  obtain ⟨listing, -, flipped⟩ := exists_listing_of_setBreakpoints (lines ▸ admitted.placed)
  have atSpeed := performAll_setSpeed_of_allowed text admitted.speed
  have loaded : ((Session.new settings).load text).session = _ :=
    Session.session_load admitted.accepted
  rw [opened, openingCommands, Session.performAll_cons, Session.performAll_append,
    Session.performAll_append]
  change Opened options settings program (Session.performAll
    ((((Session.new settings).load text).session.performAll
      (options.speed.toList.map .setSpeed)).performAll (options.breakpoints.map .setBreakpoint)) _)
  -- now the session is spelled out but for its listing, and only the listener is left
  rw [flipped, atSpeed, loaded, RunControl.value_reset]
  cases debug : options.debug with
  | true => exact ⟨rfl, rfl, rfl, rfl, rfl, rfl, rfl, rfl, by rw [debug]; rfl⟩
  | false => exact ⟨rfl, rfl, rfl, rfl, rfl, rfl, rfl, rfl, by rw [debug]; rfl⟩

end Accepted

/-- The shuttle on standard input, and no settings. -/
def shuttleSources : Sources :=
  { settings := .error .notFound
    report := fun _ => "unreadable"
    program := .ok Session.shuttleText.toUTF8 }

theorem admitted_shuttle {options : Options} (unnamed : options.settingsFile = none)
    (unhurried : options.speed = none) (unflagged : options.breakpoints = []) :
    Admitted options shuttleSources .default Session.shuttleText Session.shuttle where
  configured := .default unnamed
  supplied := ⟨_, rfl, dif_pos Session.shuttleText.isValidUTF8⟩
  accepted := Session.read_shuttleText
  speed := by simp [AllowsSpeed, unhurried]
  placed := by simp [unflagged]

end CommandLine
end TapeWorkbench
