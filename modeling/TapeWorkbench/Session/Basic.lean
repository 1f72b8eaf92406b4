import TapeWorkbench.History
import TapeWorkbench.Moment
import TapeWorkbench.Program.Reader
import TapeWorkbench.Snapshot

/-!
# Sessions

A session is one person's work with one machine: the program that is loaded, the
moment its execution has reached, the moments that can be returned to, the run
that is going on, and those who listen.  A command turns a session into the next
one.  Its reply carries the answer, the notices for the log, and what was
delivered to the listeners.
-/

namespace TapeWorkbench

/-- A machine with everything around it. -/
structure Session where
  settings : Settings
  table : InstructionTable
  moment : Moment
  sections : List TapeSection
  output : String
  fault : Option Fault
  source : String
  /-- Is there a program to execute? -/
  ready : Bool
  /-- The text loaded last, for loading it again. -/
  programText : Option String
  history : History Moment
  control : RunControl
  /-- Those who listen, in the order in which they came. -/
  listeners : List Nat
  nextListener : Nat

/-- A snapshot handed to a listener. -/
structure Delivery where
  listener : Nat
  snapshot : Snapshot
  deriving DecidableEq, Repr

/-- What came of a command. -/
structure Reply (α : Type) where
  session : Session
  answer : α
  log : Array Notice
  deliveries : List Delivery

namespace Session

/-- The output shown until a run is completed, and for a tape without register
`A`. -/
def noOutput : String := "?"

/-- The moment before anything is loaded. -/
def blankMoment (settings : Settings) : Moment :=
  { configuration := { tape := #[], head := 0, state := settings.startState }
    stepCount := 0
    currentInstruction := ""
    listing := .empty }

/-- A session in which nothing has been loaded. -/
def new (settings : Settings) : Session :=
  { settings
    table := .empty
    moment := blankMoment settings
    sections := []
    output := noOutput
    fault := none
    source := ""
    ready := false
    programText := none
    history := .empty settings.historyLimit
    control := .atSpeed settings.defaultSpeed settings.maxSpeed settings.burstSteps
    listeners := []
    nextListener := 0 }

def configuration (session : Session) : Configuration :=
  session.moment.configuration

/-- The present state of the listing. -/
def listing (session : Session) : Listing :=
  session.moment.listing

/-- Is the machine in its halt state? -/
def isHalted (session : Session) : Bool :=
  session.configuration.state = session.settings.haltState

/-- All that can be seen of the session's machine. -/
def snapshot (session : Session) : Snapshot :=
  { tape := session.configuration.tape
    head := session.configuration.head
    state := session.configuration.state
    stepCount := session.moment.stepCount
    ready := session.ready
    status := session.control.status
    speed := session.control.speed
    error := session.fault.map Fault.message
    source := session.source
    currentInstruction := session.moment.currentInstruction
    output := session.output
    sections := session.sections
    assembly := session.listing.lines
    currentBlock := session.listing.current }

/-- The present snapshot for everyone who listens. -/
def deliveries (session : Session) : List Delivery :=
  session.listeners.map fun listener => { listener, snapshot := session.snapshot }

end Session

namespace Reply

variable {α : Type}

/-- The listeners are told about the session that came of a command. -/
def published (work : Logged Session) (answer : α) : Reply α :=
  { session := work.value, answer, log := work.log, deliveries := work.value.deliveries }

/-- Nothing happened that the listeners should know. -/
def silent (session : Session) (answer : α) : Reply α :=
  { session, answer, log := #[], deliveries := [] }

def map {β : Type} (f : α → β) (reply : Reply α) : Reply β :=
  { session := reply.session
    answer := f reply.answer
    log := reply.log
    deliveries := reply.deliveries }

end Reply
end TapeWorkbench
