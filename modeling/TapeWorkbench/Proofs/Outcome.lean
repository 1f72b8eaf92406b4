import TapeWorkbench.Proofs.Forgetting
import TapeWorkbench.Proofs.Stuck

/-!
# How an unthrottled run ends

Without a timer a machine takes one transition after the other.  It stops where it is in the halt
state, or where its next step would be refused (`Session.Stops`); the number of transitions up to
there depends on the session alone (`Session.StopsAfter`).  What a run with a budget comes to is
then a matter of comparing two numbers.  A budget that ends before the stop is used up.  One that
reaches beyond it brings the refusal to light, and one that ends right there does not: but the
halt state is noticed without another step.

The listing takes part in this, since a breakpoint stops only at the line that is current, so a
transition is one of sessions.
-/

namespace TapeWorkbench

/-- The outcome of a run tells which refusal ended it. -/
theorem Refusal.outcome_injective : Function.Injective outcome := by
  intro one other same
  cases one with
  | breakpoint =>
      cases other with
      | breakpoint => rfl
      | fault => cases same
  | fault =>
      cases other with
      | breakpoint => cases same
      | fault => rfl

theorem Refusal.outcome_ne_halted (refusal : Refusal) : refusal.outcome ≠ .halted := by
  cases refusal <;> simp [outcome]

theorem Refusal.outcome_ne_stepLimit (refusal : Refusal) : refusal.outcome ≠ .stepLimit := by
  cases refusal <;> simp [outcome]

namespace Session

/-- The transition of the present configuration, which a breakpoint does not keep from being
defined. -/
def transit? (session : Session) : Option Session := do
  let symbol ← session.configuration.read?
  let instruction ← session.table.find? session.configuration.state symbol
  let target ← session.configuration.follow? instruction
  return (session.takeStep symbol instruction target).value

/-- The session after a number of transitions, if all of them are defined. -/
def transitMany? (session : Session) : Nat → Option Session
  | 0 => some session
  | count + 1 => session.transit?.bind fun next => next.transitMany? count

/-- Why the next step would be refused.  Without an instruction, for want of a cell or of an entry
in the table, the breakpoint is not looked at; where there is one, the move is not. -/
inductive Refuses (session : Session) : Refusal → Prop
  | uninstructed (missing : session.configuration.instruction? session.table = none) :
      Refuses session .fault
  | held {instruction : Instruction} {line : ListingLine}
      (found : session.configuration.instruction? session.table = some instruction)
      (current : session.listing.currentLine? = some line) (flagged : line.breakpoint = true) :
      Refuses session .breakpoint
  | leaves {instruction : Instruction}
      (found : session.configuration.instruction? session.table = some instruction)
      (passes : ∀ line, session.listing.currentLine? = some line → line.breakpoint = false)
      (outside : (session.configuration.head : Int) + instruction.move.offset < 0 ∨
        (session.configuration.tape.size : Int) ≤
          session.configuration.head + instruction.move.offset) :
      Refuses session .fault

/-- The machine is in the halt state, or its next step would be refused. -/
def Stops (session : Session) : Prop :=
  session.isHalted = true ∨ ∃ refusal, session.Refuses refusal

/-- Nowhere before so many transitions does the machine stop. -/
def Unstopped (session : Session) (count : Nat) : Prop :=
  ∀ fewer < count, ∀ earlier, session.transitMany? fewer = some earlier → ¬ earlier.Stops

/-- The least number of transitions after which the machine stops, and where it does. -/
structure StopsAfter (session : Session) (count : Nat) (reached : Session) : Prop where
  reaches : session.transitMany? count = some reached
  stops : reached.Stops
  least : session.Unstopped count

/-- A run with the given budget attempts a step after so many transitions: it has not stopped on
the way, nor is it in the halt state here, and it has not used up its budget. -/
structure Tries (session : Session) (budget tried : Nat) (here : Session) : Prop where
  within : tried < budget
  reaches : session.transitMany? tried = some here
  unstopped : session.Unstopped tried
  moves : here.isHalted = false

/-- The last step that a run attempts. -/
structure TriesLast (session : Session) (budget tried : Nat) (here : Session) : Prop
    extends Tries session budget tried here where
  last : ∀ later there, session.Tries budget later there → later ≤ tried

/-- A run that left the session `after` behind has come to `here` and no further. -/
structure EndsAt (here after : Session) : Prop where
  configuration_eq : after.configuration = here.configuration
  stepCount_eq : after.moment.stepCount = here.moment.stepCount
  history_eq : after.history = here.history

/-- Whatever was on display before, an attempt at a step puts the fault there. -/
def SetsFault (session : Session) (fault : Fault) : Prop :=
  ∀ shown, ({ session with fault := shown } : Session).attempt.value.session.fault = some fault

/-! ## Attempts -/

theorem atBreakpoint_eq_true_iff {session : Session} :
    session.listing.atBreakpoint = true ↔
      ∃ line, session.listing.currentLine? = some line ∧ line.breakpoint = true := by
  simp [Listing.atBreakpoint, Option.any_eq_true]

theorem atBreakpoint_eq_false_iff {session : Session} :
    session.listing.atBreakpoint = false ↔
      ∀ line, session.listing.currentLine? = some line → line.breakpoint = false := by
  simp [Listing.atBreakpoint, Option.any_eq_false]

/-- Without a refusal for want of an instruction or at a breakpoint, a fault is a move off the
tape. -/
theorem Refuses.of_fault {session : Session} {fault : Fault}
    (found : session.configuration.fault? session.table = some fault)
    (first : session.listing.atBreakpoint = true →
      session.configuration.instruction? session.table = none) :
    session.Refuses .fault := by
  cases called : session.configuration.instruction? session.table with
  | none => exact .uninstructed called
  | some instruction =>
      have passes : session.listing.atBreakpoint = false := by
        by_contra stops
        simp [first (by simpa using stops)] at called
      refine .leaves called (atBreakpoint_eq_false_iff.mp passes) ?_
      obtain ⟨symbol, read, entry⟩ := Option.bind_eq_some_iff.mp called
      rw [← Configuration.follow?_eq_none_iff]
      cases follows : session.configuration.follow? instruction with
      | none => rfl
      | some target =>
          simp [Configuration.fault?_eq_none read entry follows] at found

/-- An attempt is refused for the reasons there are, in their order. -/
theorem refusal_attempt_eq_some_iff {session : Session} {refusal : Refusal} :
    session.attempt.value.refusal = some refusal ↔ session.Refuses refusal := by
  generalize came : session.attempt.value = attempt
  have reasons : Attempted session attempt := came ▸ attempted session
  cases reasons with
  | stuck found first =>
      constructor
      · rintro ⟨⟩
        exact .of_fault found first
      · intro refuses
        cases refuses with
        | uninstructed _ | leaves _ _ _ => rfl
        | held called current flagged =>
            have missing := first (atBreakpoint_eq_true_iff.mpr ⟨_, current, flagged⟩)
            cases missing.symm.trans called
  | held called stops =>
      obtain ⟨line, current, flagged⟩ := atBreakpoint_eq_true_iff.mp stops
      constructor
      · rintro ⟨⟩
        exact .held called current flagged
      · intro refuses
        cases refuses with
        | uninstructed missing => cases missing.symm.trans called
        | held _ _ _ => rfl
        | leaves _ passes _ => cases flagged.symm.trans (passes line current)
  | stepped read found follows passes =>
      have called := Configuration.instruction?_eq_some read found
      refine ⟨fun none => (by cases none), fun refuses => ?_⟩
      exfalso
      cases refuses with
      | uninstructed missing => cases missing.symm.trans called
      | held _ current flagged =>
          cases passes.symm.trans (atBreakpoint_eq_true_iff.mpr ⟨_, current, flagged⟩)
      | leaves other _ outside =>
          obtain rfl := Option.some.inj (called.symm.trans other)
          cases follows.symm.trans (Configuration.follow?_eq_none_iff.mpr outside)

theorem Refuses.unique {session : Session} {first second : Refusal}
    (one : session.Refuses first) (other : session.Refuses second) : first = second := by
  rw [← refusal_attempt_eq_some_iff] at one other
  exact Option.some.inj (one.symm.trans other)

theorem not_stops_iff {session : Session} :
    ¬ session.Stops ↔ session.isHalted = false ∧ session.attempt.value.refusal = none := by
  rw [Stops, not_or, Bool.not_eq_true, Option.eq_none_iff_forall_ne_some, not_exists]
  exact and_congr_right' (forall_congr' fun refusal => not_congr refusal_attempt_eq_some_iff.symm)

/-- An attempt that is not refused takes the transition. -/
theorem transit?_of_accepted {session : Session}
    (accepted : session.attempt.value.refusal = none) :
    session.transit? = some session.attempt.value.session := by
  generalize came : session.attempt.value = attempt at accepted ⊢
  have reasons : Attempted session attempt := came ▸ attempted session
  cases reasons with
  | stuck _ _ | held _ _ => cases accepted
  | stepped read found follows _ => simp [transit?, read, found, follows]

/-- Setting a fault is what an attempt does that is refused for one. -/
theorem exists_setsFault_iff {session : Session} :
    (∃ fault, session.SetsFault fault) ↔ session.Refuses .fault := by
  rw [← refusal_attempt_eq_some_iff]
  have came := attempted session
  generalize session.attempt.value = attempt at came
  constructor
  · rintro ⟨fault, sets⟩
    have put := sets none
    cases came with
    | stuck _ _ => rfl
    | held called stops =>
        have twin : Attempted { session with fault := none } _ := .held called stops
        rw [twin.value_attempt] at put
        cases put
    | stepped read found follows passes =>
        have twin : Attempted { session with fault := none } _ :=
          .stepped read found follows passes
        rw [twin.value_attempt] at put
        cases put
  · intro refused
    cases came with
    | @stuck fault found first =>
        refine ⟨fault, fun shown => ?_⟩
        have twin : Attempted { session with fault := shown } _ := .stuck found first
        rw [twin.value_attempt]
    | held _ _ | stepped _ _ _ _ => cases refused

/-! ## Transitions -/

/-- A transition counts a step and leaves everything alone that the halt procedure and the
display of faults are about. -/
theorem of_transit? {session next : Session} (transits : session.transit? = some next) :
    next.moment.stepCount = session.moment.stepCount + 1 ∧ next.fault = session.fault ∧
      next.output = session.output := by
  simp only [transit?, Option.bind_eq_bind, Option.bind_eq_some_iff, Option.pure_def,
    Option.some.injEq] at transits
  obtain ⟨symbol, -, instruction, -, target, -, rfl⟩ := transits
  exact ⟨rfl, rfl, rfl⟩

theorem of_transitMany? {session last : Session} {count : Nat}
    (transits : session.transitMany? count = some last) :
    last.moment.stepCount = session.moment.stepCount + count ∧ last.fault = session.fault ∧
      last.output = session.output := by
  induction count generalizing session with
  | zero =>
      obtain rfl := Option.some.inj transits
      exact ⟨rfl, rfl, rfl⟩
  | succ count ih =>
      obtain ⟨next, first, rest⟩ := Option.bind_eq_some_iff.mp transits
      obtain ⟨counted, fault, output⟩ := of_transit? first
      obtain ⟨counted', fault', output'⟩ := ih rest
      exact ⟨by omega, fault'.trans fault, output'.trans output⟩

/-- The number of transitions and the place are determined. -/
theorem StopsAfter.unique {session reached reached' : Session} {count count' : Nat}
    (one : session.StopsAfter count reached) (other : session.StopsAfter count' reached') :
    count = count' ∧ reached = reached' := by
  have same : count = count' := by
    apply le_antisymm
    · by_contra less
      exact one.least count' (not_le.mp less) reached' other.reaches other.stops
    · by_contra less
      exact other.least count (not_le.mp less) reached one.reaches one.stops
  subst same
  exact ⟨rfl, Option.some.inj (one.reaches.symm.trans other.reaches)⟩

theorem stopsAfter_zero {session : Session} (stops : session.Stops) :
    session.StopsAfter 0 session :=
  ⟨rfl, stops, fun fewer less => absurd less (Nat.not_lt_zero fewer)⟩

section Onward

variable {session reached : Session} {count : Nat}

theorem transitMany?_succ_of_accepted (accepted : session.attempt.value.refusal = none)
    (count : Nat) :
    session.transitMany? (count + 1) = session.attempt.value.session.transitMany? count := by
  rw [transitMany?, transit?_of_accepted accepted, Option.bind_some]

theorem Unstopped.onward (unstopped : session.attempt.value.session.Unstopped count)
    (moves : session.isHalted = false) (accepted : session.attempt.value.refusal = none) :
    session.Unstopped (count + 1) := by
  intro fewer less earlier reaches
  cases fewer with
  | zero =>
      obtain rfl := Option.some.inj reaches
      exact not_stops_iff.mpr ⟨moves, accepted⟩
  | succ fewer =>
      rw [transitMany?_succ_of_accepted accepted] at reaches
      exact unstopped fewer (Nat.lt_of_succ_lt_succ less) earlier reaches

theorem StopsAfter.onward (stopsAfter : session.attempt.value.session.StopsAfter count reached)
    (moves : session.isHalted = false) (accepted : session.attempt.value.refusal = none) :
    session.StopsAfter (count + 1) reached where
  reaches := (transitMany?_succ_of_accepted accepted count).trans stopsAfter.reaches
  stops := stopsAfter.stops
  least := stopsAfter.least.onward moves accepted

end Onward

/-! ## Runs -/

/-- What a run with a budget comes to, with the reasons for it. -/
inductive Concludes (session : Session) (budget : Nat) : Session × RunOutcome → Prop
  | halted {count : Nat} {reached : Session} (stopsAfter : session.StopsAfter count reached)
      (within : count ≤ budget) (halted : reached.isHalted = true) :
      Concludes session budget (reached.finish.value, .halted)
  | refused {count : Nat} {reached : Session} {refusal : Refusal}
      (stopsAfter : session.StopsAfter count reached) (within : count < budget)
      (moves : reached.isHalted = false) (refuses : reached.Refuses refusal) :
      Concludes session budget (reached.attempt.value.session, refusal.outcome)
  | limited {last : Session} (reaches : session.transitMany? budget = some last)
      (unstopped : session.Unstopped budget) (moves : last.isHalted = false) :
      Concludes session budget (last, .stepLimit)

theorem Concludes.onward {session : Session} {budget : Nat} {came : Session × RunOutcome}
    (concludes : session.attempt.value.session.Concludes budget came)
    (moves : session.isHalted = false) (accepted : session.attempt.value.refusal = none) :
    session.Concludes (budget + 1) came := by
  cases concludes with
  | halted stopsAfter within halted =>
      exact .halted (stopsAfter.onward moves accepted) (Nat.succ_le_succ within) halted
  | refused stopsAfter within still refuses =>
      exact .refused (stopsAfter.onward moves accepted) (Nat.succ_lt_succ within) still refuses
  | limited reaches unstopped still =>
      exact .limited ((transitMany?_succ_of_accepted accepted budget).trans reaches)
        (unstopped.onward moves accepted) still

/-- Nothing else can come of a run. -/
theorem concludes (session : Session) (budget : Nat) :
    session.Concludes budget
      (concludeRun budget (attemptUpTo budget session #[]).value).value := by
  induction budget generalizing session with
  | zero =>
      cases halted : session.isHalted with
      | true =>
          simp only [attemptUpTo, concludeRun, halted, if_true, Logged.value_map]
          exact .halted (stopsAfter_zero (.inl halted)) le_rfl halted
      | false =>
          simp only [attemptUpTo, concludeRun, halted, Bool.false_eq_true, if_false,
            Logged.value_saying]
          exact .limited rfl (fun fewer less => absurd less (Nat.not_lt_zero fewer)) halted
  | succ budget ih =>
      cases halted : session.isHalted with
      | true =>
          simp only [attemptUpTo, concludeRun, halted, if_true, Logged.value_map]
          exact .halted (stopsAfter_zero (.inl halted)) (Nat.zero_le _) halted
      | false =>
          cases refused : session.attempt.value.refusal with
          | some refusal =>
              have refuses := refusal_attempt_eq_some_iff.mp refused
              simp only [attemptUpTo, concludeRun, halted, refused, Bool.false_eq_true, if_false,
                Logged.value_quiet]
              exact .refused (stopsAfter_zero (.inr ⟨refusal, refuses⟩)) (Nat.succ_pos _) halted
                refuses
          | none =>
              simp only [attemptUpTo, halted, refused, Bool.false_eq_true, if_false]
              rw [value_attemptUpTo, value_concludeRun (budget + 1) budget]
              exact (ih _).onward halted refused

/-- Pausing first, as a run does, makes no difference to where it goes and how it ends. -/
theorem SameWork.attemptUpTo {first second : Session} (same : SameWork first second)
    (budget : Nat) :
    SameWork (Session.attemptUpTo budget first #[]).value.session
        (Session.attemptUpTo budget second #[]).value.session ∧
      (Session.attemptUpTo budget second #[]).value.refusal =
        (Session.attemptUpTo budget first #[]).value.refusal := by
  induction budget generalizing first second with
  | zero => exact ⟨same, rfl⟩
  | succ budget ih =>
      obtain ⟨work, refusal⟩ := same.attempt
      simp only [Session.attemptUpTo, same.isHalted_eq, refusal]
      split
      · exact ⟨same, rfl⟩
      · split
        · exact ⟨work, rfl⟩
        · rw [value_attemptUpTo _ _ (#[] ++ first.attempt.log),
            value_attemptUpTo _ _ (#[] ++ second.attempt.log)]
          exact ih work

/-- How an unthrottled run with the given budget ends. -/
def ending (session : Session) (budget : Nat) : RunOutcome :=
  (concludeRun budget (attemptUpTo budget session #[]).value).value.2

theorem SameWork.ending {first second : Session} (same : SameWork first second) (budget : Nat) :
    second.ending budget = first.ending budget := by
  obtain ⟨work, refusal⟩ := same.attemptUpTo budget
  simp only [Session.ending, concludeRun, refusal, work.isHalted_eq]
  split
  · rfl
  · split
    · rfl
    · rfl

theorem answer_eq_ending {session : Session} (ready : session.ready = true) (budget : Nat) :
    (session.runToCompletion budget).answer = .ok (session.ending budget) := by
  have paced : SameWork session session.cancelRun.value := .paced _ _
  rw [answer_runToCompletion ready, ← paced.ending budget]
  rfl

theorem sameWork_runToCompletion {session : Session} (ready : session.ready = true)
    (budget : Nat) :
    SameWork (session.driven budget) (session.runToCompletion budget).session := by
  have paced : SameWork session session.cancelRun.value := .paced _ _
  rw [session_runToCompletion ready]
  exact paced.driven budget

theorem runToCompletion_concludes {session : Session} (ready : session.ready = true)
    (budget : Nat) :
    ∃ came, session.Concludes budget came ∧
      (session.runToCompletion budget).answer = .ok came.2 ∧
      SameWork came.1 (session.runToCompletion budget).session :=
  ⟨_, session.concludes budget, answer_eq_ending ready budget,
    sameWork_runToCompletion ready budget⟩

namespace Concludes

variable {session reached after : Session} {budget count : Nat} {came : Session × RunOutcome}

/-- Where the machine stops somewhere, the stop and the budget decide what a run comes to. -/
theorem cases_of_stopsAfter (concludes : session.Concludes budget came)
    (stopsAfter : session.StopsAfter count reached) :
    (count ≤ budget ∧ reached.isHalted = true ∧ came = (reached.finish.value, .halted)) ∨
      (∃ refusal : Refusal, count < budget ∧ reached.isHalted = false ∧
        reached.Refuses refusal ∧ came = (reached.attempt.value.session, refusal.outcome)) ∨
      ∃ last, session.transitMany? budget = some last ∧ came = (last, .stepLimit) ∧
        (budget < count ∨ budget = count ∧ reached.isHalted = false) := by
  cases concludes with
  | halted found within halted =>
      obtain ⟨rfl, rfl⟩ := stopsAfter.unique found
      exact .inl ⟨within, halted, rfl⟩
  | refused found within moves refuses =>
      obtain ⟨rfl, rfl⟩ := stopsAfter.unique found
      exact .inr (.inl ⟨_, within, moves, refuses, rfl⟩)
  | @limited last reaches unstopped moves =>
      refine .inr (.inr ⟨last, reaches, rfl, ?_⟩)
      rcases lt_trichotomy budget count with less | rfl | beyond
      · exact .inl less
      · obtain rfl := Option.some.inj (reaches.symm.trans stopsAfter.reaches)
        exact .inr ⟨rfl, moves⟩
      · exact absurd stopsAfter.stops (unstopped count beyond reached stopsAfter.reaches)

/-- A run takes the transitions up to the stop, as far as its budget goes. -/
theorem endsAt (concludes : session.Concludes budget came) (same : SameWork came.1 after)
    (stopsAfter : session.StopsAfter count reached) :
    ∃ last, session.transitMany? (min budget count) = some last ∧ EndsAt last after := by
  rw [same]
  rcases concludes.cases_of_stopsAfter stopsAfter with
    ⟨within, -, rfl⟩ | ⟨refusal, within, -, refuses, rfl⟩ | ⟨last, reaches, rfl, short⟩
  · rw [min_eq_right within]
    exact ⟨reached, stopsAfter.reaches, rfl, rfl, rfl⟩
  · obtain ⟨fault, paused⟩ := session_attempt_of_refused (refusal_attempt_eq_some_iff.mpr refuses)
    rw [min_eq_right within.le, paused]
    exact ⟨reached, stopsAfter.reaches, rfl, rfl, rfl⟩
  · rw [min_eq_left (by omega)]
    exact ⟨last, reaches, rfl, rfl, rfl⟩

theorem outcome_eq_halted_iff (concludes : session.Concludes budget came)
    (stopsAfter : session.StopsAfter count reached) :
    came.2 = .halted ↔ count ≤ budget ∧ reached.isHalted = true := by
  rcases concludes.cases_of_stopsAfter stopsAfter with
    ⟨within, halted, rfl⟩ | ⟨refusal, -, moves, -, rfl⟩ | ⟨last, -, rfl, short⟩
  · simp [within, halted]
  · simp [Refusal.outcome_ne_halted refusal, moves]
  · rcases short with less | ⟨-, moves⟩
    · simp [less]
    · simp [moves]

theorem outcome_eq_of_refusal_iff (concludes : session.Concludes budget came)
    (stopsAfter : session.StopsAfter count reached) (refusal : Refusal) :
    came.2 = refusal.outcome ↔
      count < budget ∧ reached.isHalted = false ∧ reached.Refuses refusal := by
  rcases concludes.cases_of_stopsAfter stopsAfter with
    ⟨-, halted, rfl⟩ | ⟨other, within, moves, refuses, rfl⟩ | ⟨last, -, rfl, short⟩
  · simp [(Refusal.outcome_ne_halted refusal).symm, halted]
  · constructor
    · intro same
      obtain rfl : other = refusal := Refusal.outcome_injective same
      exact ⟨within, moves, refuses⟩
    · rintro ⟨-, -, found⟩
      rw [found.unique refuses]
  · refine iff_of_false (Refusal.outcome_ne_stepLimit refusal).symm ?_
    rintro ⟨less, -, -⟩
    omega

theorem outcome_eq_stepLimit_iff (concludes : session.Concludes budget came)
    (stopsAfter : session.StopsAfter count reached) :
    came.2 = .stepLimit ↔ budget < count ∨ budget = count ∧ reached.isHalted = false := by
  rcases concludes.cases_of_stopsAfter stopsAfter with
    ⟨within, halted, rfl⟩ | ⟨refusal, within, -, -, rfl⟩ | ⟨last, -, rfl, short⟩
  · simp [halted, within]
  · refine iff_of_false (Refusal.outcome_ne_stepLimit refusal) ?_
    omega
  · exact iff_of_true rfl short

/-- A run that finds nowhere to stop uses up its budget. -/
theorem of_never (concludes : session.Concludes budget came) (same : SameWork came.1 after)
    (never : ∀ count reached, ¬ session.StopsAfter count reached) :
    came.2 = .stepLimit ∧
      ∃ last, session.transitMany? budget = some last ∧ EndsAt last after := by
  rw [same]
  cases concludes with
  | halted found _ _ => exact absurd found (never _ _)
  | refused found _ _ _ => exact absurd found (never _ _)
  | @limited last reaches _ _ => exact ⟨rfl, last, reaches, rfl, rfl, rfl⟩

theorem shows_of_stepLimit (concludes : session.Concludes budget came)
    (same : SameWork came.1 after) (limited : came.2 = .stepLimit) :
    after.fault = session.fault ∧ after.output = session.output := by
  rw [same]
  cases concludes with
  | halted _ _ _ => cases limited
  | @refused _ _ refusal _ _ _ _ => exact absurd limited refusal.outcome_ne_stepLimit
  | limited reaches _ _ => exact (of_transitMany? reaches).2

theorem outcome_eq_error_iff (concludes : session.Concludes budget came)
    (same : SameWork came.1 after) :
    came.2 = .error ↔ ∃ tried here fault, session.TriesLast budget tried here ∧
      here.SetsFault fault ∧ after.fault = some fault := by
  constructor
  · intro error
    rw [same]
    cases concludes with
    | halted _ _ _ => cases error
    | limited _ _ _ => cases error
    | @refused tried here refusal found within moves refuses =>
        obtain rfl : refusal = .fault := Refusal.outcome_injective error
        obtain ⟨fault, sets⟩ := exists_setsFault_iff.mpr refuses
        refine ⟨tried, here, fault, ⟨⟨within, found.reaches, found.least, moves⟩, ?_⟩, sets,
          sets here.fault⟩
        intro later there tries
        by_contra beyond
        exact tries.unstopped tried (not_le.mp beyond) here found.reaches found.stops
  · rintro ⟨tried, here, fault, tries, sets, -⟩
    have refuses := exists_setsFault_iff.mp ⟨fault, sets⟩
    have stopsAfter : session.StopsAfter tried here :=
      ⟨tries.reaches, .inr ⟨_, refuses⟩, tries.unstopped⟩
    exact (concludes.outcome_eq_of_refusal_iff stopsAfter .fault).mpr
      ⟨tries.within, tries.moves, refuses⟩

end Concludes

/-- What an unthrottled run of a loaded machine comes to.  Let the machine stop after a number of
transitions, in the halt state or where its next step would be refused: then the run takes as many
of them as its budget allows.  It ends in the halt state if the budget reaches up to there, with
the refusal if it reaches beyond, and for want of budget otherwise.  Where the machine stops
nowhere, the budget is used up.  With the budget used up, the fault on display and the output are
what they were; and an error is reported exactly if the last step that was attempted has put its
fault on display. -/
theorem outcome_of_runToCompletion (session : Session) (budget : Nat)
    (ready : session.ready = true) :
    let reply := session.runToCompletion budget
    (∀ count reached, session.StopsAfter count reached →
      (∃ last, session.transitMany? (min budget count) = some last ∧ EndsAt last reply.session) ∧
        reply.session.moment.stepCount = session.moment.stepCount + min budget count ∧
        (reply.answer = .ok .halted ↔ count ≤ budget ∧ reached.isHalted = true) ∧
        (∀ refusal : Refusal, reply.answer = .ok refusal.outcome ↔
          count < budget ∧ reached.isHalted = false ∧ reached.Refuses refusal) ∧
        (reply.answer = .ok .stepLimit ↔
          budget < count ∨ budget = count ∧ reached.isHalted = false)) ∧
      ((∀ count reached, ¬ session.StopsAfter count reached) →
        (∃ last, session.transitMany? budget = some last ∧ EndsAt last reply.session) ∧
          reply.session.moment.stepCount = session.moment.stepCount + budget ∧
          reply.answer = .ok .stepLimit) ∧
      (reply.answer = .ok .stepLimit → reply.session.fault = session.fault ∧
        reply.session.output = session.output) ∧
      (reply.answer = .ok .error ↔ ∃ tried here fault, session.TriesLast budget tried here ∧
        here.SetsFault fault ∧ reply.session.fault = some fault) := by
  intro reply
  obtain ⟨came, concludes, answered, same⟩ := runToCompletion_concludes ready budget
  have answer (outcome : RunOutcome) : reply.answer = .ok outcome ↔ came.2 = outcome := by
    rw [show reply.answer = .ok came.2 from answered, Except.ok.injEq]
  have counted {last : Session} {count : Nat} (reaches : session.transitMany? count = some last)
      (ends : EndsAt last reply.session) :
      reply.session.moment.stepCount = session.moment.stepCount + count :=
    ends.stepCount_eq.trans (of_transitMany? reaches).1
  refine ⟨fun count reached stopsAfter => ?_, fun never => ?_, fun limited => ?_, ?_⟩
  · obtain ⟨last, reaches, ends⟩ := concludes.endsAt same stopsAfter
    refine ⟨⟨last, reaches, ends⟩, counted reaches ends, ?_, fun refusal => ?_, ?_⟩
    · exact (answer _).trans (concludes.outcome_eq_halted_iff stopsAfter)
    · exact (answer _).trans (concludes.outcome_eq_of_refusal_iff stopsAfter refusal)
    · exact (answer _).trans (concludes.outcome_eq_stepLimit_iff stopsAfter)
  · obtain ⟨limited, last, reaches, ends⟩ := concludes.of_never same never
    exact ⟨⟨last, reaches, ends⟩, counted reaches ends, (answer _).mpr limited⟩
  · exact concludes.shows_of_stepLimit same ((answer _).mp limited)
  · exact (answer _).trans (concludes.outcome_eq_error_iff same)

/-- After two transitions the machine finds no instruction. -/
theorem stopsAfter_shuttle :
    let reached := shuttleSession.attempt.value.session.attempt.value.session
    shuttleSession.StopsAfter 2 reached ∧ reached.isHalted = false ∧ reached.Refuses .fault := by
  intro reached
  have loaded : shuttleSession = _ := session_load_shuttleText Settings.default
  have first : shuttleSession.isHalted = false ∧
      shuttleSession.attempt.value.refusal = none := by
    rw [loaded]
    exact ⟨by cbv, by cbv⟩
  have second : shuttleSession.attempt.value.session.isHalted = false ∧
      shuttleSession.attempt.value.session.attempt.value.refusal = none := by
    rw [loaded]
    exact ⟨by cbv, by cbv⟩
  have third : reached.isHalted = false ∧ reached.attempt.value.refusal = some .fault := by
    change shuttleSession.attempt.value.session.attempt.value.session.isHalted = false ∧
      shuttleSession.attempt.value.session.attempt.value.session.attempt.value.refusal = _
    rw [loaded]
    exact ⟨by cbv, by cbv⟩
  have refuses := refusal_attempt_eq_some_iff.mp third.2
  have stopsAfter : shuttleSession.StopsAfter 2 reached :=
    ((stopsAfter_zero (.inr ⟨_, refuses⟩)).onward second.1 second.2).onward first.1 first.2
  exact ⟨stopsAfter, third.1, refuses⟩

/-- A budget of two does not notice that there is no instruction, and one of three does. -/
theorem outcome_of_runToCompletion_shuttle :
    let reached := shuttleSession.attempt.value.session.attempt.value.session
    shuttleSession.ready = true ∧ shuttleSession.StopsAfter 2 reached ∧
      reached.isHalted = false ∧ reached.Refuses .fault ∧
      (shuttleSession.runToCompletion 2).answer = .ok .stepLimit ∧
      (shuttleSession.runToCompletion 2).session.moment.stepCount = 2 ∧
      (shuttleSession.runToCompletion 3).answer = .ok .error ∧
      (shuttleSession.runToCompletion 3).session.moment.stepCount = 2 := by
  intro reached
  have loaded : shuttleSession = _ := session_load_shuttleText Settings.default
  have ready : shuttleSession.ready = true := by rw [loaded]
  obtain ⟨stopsAfter, moves, refuses⟩ := stopsAfter_shuttle
  have start : shuttleSession.moment.stepCount = 0 := by rw [loaded]; rfl
  obtain ⟨-, two, -, -, limited⟩ :=
    (outcome_of_runToCompletion shuttleSession 2 ready).1 2 reached stopsAfter
  obtain ⟨-, three, -, refused, -⟩ :=
    (outcome_of_runToCompletion shuttleSession 3 ready).1 2 reached stopsAfter
  refine ⟨ready, stopsAfter, moves, refuses, limited.mpr (.inr ⟨rfl, moves⟩), ?_,
    (refused .fault).mpr ⟨by omega, moves, refuses⟩, ?_⟩
  · rw [two, start, Nat.zero_add, min_self]
  · rw [three, start]
    rfl

end Session
end TapeWorkbench
