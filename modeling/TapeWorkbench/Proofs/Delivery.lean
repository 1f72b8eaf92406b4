import TapeWorkbench.Proofs.Forgetting

/-!
# What the listeners know

A command either tells all listeners, in the order in which they came, what has come of the
session, or it leaves the session as it is and tells nobody (`Session.announced_perform`).  So
what a listener saw last, or what there was to see when it came, is what there is to see now,
for as long as it stays (`Session.lastSeen_delivered`).

Listeners are numbered in the order in which they come, and no number is given twice
(`Session.Enrolled`).
-/

namespace TapeWorkbench

/-- The number of a new listener, if the answer gives one. -/
def Answer.listener? : Answer → Option Nat
  | listener number => some number
  | _ => none

/-- What a listener saw last, if it saw `first` before the deliveries. -/
def lastSeen (listener : Nat) (first : Snapshot) (deliveries : List Delivery) : Snapshot :=
  match (deliveries.filter fun delivery => delivery.listener = listener).getLast? with
  | some delivery => delivery.snapshot
  | none => first

theorem lastSeen_nil (listener : Nat) (first : Snapshot) : lastSeen listener first [] = first :=
  rfl

theorem lastSeen_append (listener : Nat) (first : Snapshot) (earlier later : List Delivery) :
    lastSeen listener first (earlier ++ later) =
      lastSeen listener (lastSeen listener first earlier) later := by
  unfold lastSeen
  rw [List.filter_append, List.getLast?_append]
  cases (later.filter fun delivery => delivery.listener = listener).getLast? with
  | none => rfl
  | some delivery => rfl

namespace Session

/-! ## Who listens -/

theorem Progresses.listeners_eq {before after : Session} (made : Progresses before after) :
    after.listeners = before.listeners ∧ after.nextListener = before.nextListener := by
  induction made with
  | refl => exact ⟨rfl, rfl⟩
  | tail _ piece same =>
      cases piece with
      | paced _ | stuck _ | stepped _ _ _ _ | finished _ => exact same

theorem listeners_load (session : Session) (text : String) :
    (session.load text).session.listeners = session.listeners ∧
      (session.load text).session.nextListener = session.nextListener := by
  cases verdict : (Program.read text).value with
  | error fault =>
      rw [session_load_of_rejected verdict]
      exact ⟨rfl, rfl⟩
  | ok program =>
      rw [session_load verdict]
      exact ⟨rfl, rfl⟩

theorem listeners_perform (session : Session) {command : Command}
    (silent : command.concernsListeners = false) :
    (session.perform command).session.listeners = session.listeners ∧
      (session.perform command).session.nextListener = session.nextListener := by
  cases command with
  | load text => exact listeners_load session text
  | loadFile file =>
      cases file with
      | ok text => exact listeners_load session text
      | error fault => exact ⟨rfl, rfl⟩
  | clear => exact ⟨rfl, rfl⟩
  | reset =>
      change session.reset.session.listeners = _ ∧ session.reset.session.nextListener = _
      unfold reset
      split
      · exact listeners_load session _
      · exact ⟨rfl, rfl⟩
  | delete => exact ⟨rfl, rfl⟩
  | stepBack =>
      change session.stepBack.session.listeners = _ ∧ session.stepBack.session.nextListener = _
      unfold stepBack
      split
      · exact ⟨rfl, rfl⟩
      · exact ⟨rfl, rfl⟩
  | setBreakpoint index =>
      change (session.setBreakpoint index).session.listeners = _ ∧
        (session.setBreakpoint index).session.nextListener = _
      unfold setBreakpoint
      split
      · exact ⟨rfl, rfl⟩
      · exact ⟨rfl, rfl⟩
  | subscribe | unsubscribe listener => simp [Command.concernsListeners] at silent
  | step | run | tick | runToCompletion | pause | setSpeed =>
      exact (progresses_perform session rfl).listeners_eq

/-- The listeners stand in the order of their numbers, all of which were given before. -/
structure Enrolled (session : Session) : Prop where
  ordered : session.listeners.Pairwise (· < ·)
  given : ∀ listener ∈ session.listeners, listener < session.nextListener

namespace Enrolled

variable {session : Session}

theorem subscribe (enrolled : Enrolled session) : Enrolled session.subscribe.session where
  ordered := by
    refine List.pairwise_append.mpr ⟨enrolled.ordered, List.pairwise_singleton _ _, ?_⟩
    intro earlier member latest last
    rw [List.mem_singleton.mp last]
    exact enrolled.given earlier member
  given := by
    intro listener member
    change listener < session.nextListener + 1
    rcases List.mem_append.mp member with old | new
    · exact (enrolled.given listener old).trans (Nat.lt_succ_self _)
    · rw [List.mem_singleton.mp new]
      exact Nat.lt_succ_self _

theorem unsubscribe (enrolled : Enrolled session) (leaving : Nat) :
    Enrolled (session.unsubscribe leaving).session where
  ordered := enrolled.ordered.filter _
  given listener member := enrolled.given listener (List.mem_of_mem_filter member)

theorem perform (enrolled : Enrolled session) (command : Command) :
    Enrolled (session.perform command).session := by
  cases concerns : command.concernsListeners with
  | false =>
      obtain ⟨same, next⟩ := listeners_perform session concerns
      exact ⟨by rw [same]; exact enrolled.ordered, by rw [same, next]; exact enrolled.given⟩
  | true =>
      cases command with
      | subscribe => exact enrolled.subscribe
      | unsubscribe leaving => exact enrolled.unsubscribe leaving
      | _ => cases concerns

theorem performAll (enrolled : Enrolled session) (commands : List Command) :
    Enrolled (session.performAll commands) := by
  induction commands generalizing session with
  | nil => exact enrolled
  | cons command commands ih => exact ih (enrolled.perform command)

end Enrolled

theorem enrolled_new (settings : Settings) : Enrolled (new settings) :=
  ⟨List.Pairwise.nil, nofun⟩

/-- Numbers are not taken back. -/
theorem nextListener_le_perform (session : Session) (command : Command) :
    session.nextListener ≤ (session.perform command).session.nextListener := by
  cases concerns : command.concernsListeners with
  | false => exact (listeners_perform session concerns).2.ge
  | true =>
      cases command with
      | subscribe => exact Nat.le_succ _
      | unsubscribe leaving => exact le_rfl
      | _ => cases concerns

/-- No command but its own leaving takes a listener away.  Whoever comes gets a new number, so a
number that was given and is not among the listeners any more does not come back either. -/
theorem mem_listeners_perform_iff {session : Session} {listener : Nat}
    (given : listener < session.nextListener) (command : Command) :
    listener ∈ (session.perform command).session.listeners ↔
      listener ∈ session.listeners ∧ command ≠ .unsubscribe listener := by
  cases concerns : command.concernsListeners with
  | false =>
      rw [(listeners_perform session concerns).1]
      have other : command ≠ .unsubscribe listener := by
        rintro rfl
        cases concerns
      exact (and_iff_left other).symm
  | true =>
      cases command with
      | subscribe =>
          have fresh : listener ≠ session.nextListener := given.ne
          change listener ∈ session.listeners ++ [session.nextListener] ↔ _
          simp [fresh]
      | unsubscribe leaving =>
          change listener ∈ session.listeners.filter (· != leaving) ↔ _
          rw [List.mem_filter, bne_iff_ne, ne_comm]
          simp
      | _ => cases concerns

theorem mem_listeners_performAll_iff {session : Session} {listener : Nat}
    (given : listener < session.nextListener) (commands : List Command) :
    listener ∈ (session.performAll commands).listeners ↔
      listener ∈ session.listeners ∧ .unsubscribe listener ∉ commands := by
  induction commands generalizing session with
  | nil => simp [performAll]
  | cons command commands ih =>
      have later := given.trans_le (nextListener_le_perform session command)
      rw [performAll_cons, ih later, mem_listeners_perform_iff given, List.mem_cons, not_or,
        and_assoc, ne_comm]

/-- Whoever has come listens for as long as it does not leave. -/
theorem mem_listeners_subscribe_iff (session : Session) (commands : List Command) :
    session.subscribe.answer ∈ (session.subscribe.session.performAll commands).listeners ↔
      .unsubscribe session.subscribe.answer ∉ commands := by
  have given : session.subscribe.answer < session.subscribe.session.nextListener :=
    Nat.lt_succ_self session.nextListener
  have came : session.subscribe.answer ∈ session.subscribe.session.listeners :=
    List.mem_append_right _ (List.mem_singleton_self _)
  rw [mem_listeners_performAll_iff given, and_iff_right came]

/-- The numbers that are given to those who come while commands are carried out, in order. -/
def subscriptions (session : Session) : List Command → List Nat
  | [] => []
  | command :: rest =>
    let reply := session.perform command
    reply.answer.listener?.toList ++ reply.session.subscriptions rest

/-- Nobody listens but those who were there and those who came, in this order. -/
theorem listeners_perform_sublist (session : Session) (command : Command) :
    (session.perform command).session.listeners.Sublist
      (session.listeners ++ (session.perform command).answer.listener?.toList) := by
  cases concerns : command.concernsListeners with
  | false =>
      rw [(listeners_perform session concerns).1]
      exact List.sublist_append_left _ _
  | true =>
      cases command with
      | subscribe => exact List.Sublist.refl _
      | unsubscribe leaving => exact List.filter_sublist.trans (List.sublist_append_left _ _)
      | _ => cases concerns

theorem listeners_performAll_sublist (session : Session) (commands : List Command) :
    (session.performAll commands).listeners.Sublist
      (session.listeners ++ session.subscriptions commands) := by
  induction commands generalizing session with
  | nil => exact List.sublist_append_left _ _
  | cons command commands ih =>
      have first := listeners_perform_sublist session command
      have rest := ih (session.perform command).session
      rw [performAll_cons, subscriptions, ← List.append_assoc]
      exact rest.trans (first.append_right _)

/-! ## What they are told -/

/-- Everyone who listens is told of the session that came of a command, or nothing has come of
it. -/
def Announced {α : Type} (before : Session) (reply : Reply α) : Prop :=
  reply.deliveries = reply.session.deliveries ∨ reply.deliveries = [] ∧ reply.session = before

theorem announced_load (session : Session) (text : String) :
    Announced session (session.load text) := by
  left
  cases verdict : (Program.read text).value with
  | error fault =>
      simp only [load, verdict]
      rfl
  | ok program =>
      simp only [load, verdict]
      rfl

/-- All commands but those of the listeners themselves are announced, or come to nothing. -/
theorem announced_perform (session : Session) {command : Command}
    (silent : command.concernsListeners = false) :
    Announced session (session.perform command) := by
  cases command with
  | load text => exact announced_load session text
  | loadFile file =>
      cases file with
      | ok text => exact announced_load session text
      | error fault => exact .inr ⟨rfl, rfl⟩
  | clear => exact .inl rfl
  | reset =>
      change Announced session session.reset
      unfold reset
      split
      · exact announced_load session _
      · exact .inl rfl
  | delete => exact .inl rfl
  | step =>
      change Announced session session.step
      unfold step
      split
      · exact .inl rfl
      · exact .inr ⟨rfl, rfl⟩
  | stepBack =>
      change Announced session session.stepBack
      unfold stepBack
      split
      · exact .inl rfl
      · exact .inl rfl
  | run =>
      change Announced session session.run
      unfold run
      split
      · exact .inl rfl
      · exact .inr ⟨rfl, rfl⟩
  | tick handle =>
      change Announced session (session.tick handle)
      unfold tick
      split
      · exact .inl rfl
      · exact .inr ⟨rfl, rfl⟩
  | runToCompletion maxSteps =>
      change Announced session (session.runToCompletion maxSteps)
      unfold runToCompletion
      split
      · exact .inl rfl
      · exact .inr ⟨rfl, rfl⟩
  | pause => exact .inl rfl
  | setSpeed speed =>
      change Announced session (session.setSpeed speed)
      unfold setSpeed
      split
      · exact .inr ⟨rfl, rfl⟩
      · exact .inl rfl
  | setBreakpoint index =>
      change Announced session (session.setBreakpoint index)
      unfold setBreakpoint
      split
      · exact .inr ⟨rfl, rfl⟩
      · exact .inl rfl
  | subscribe | unsubscribe listener => simp [Command.concernsListeners] at silent

theorem lastSeen_deliveries {session : Session} {listener : Nat}
    (listening : listener ∈ session.listeners) (first : Snapshot) :
    lastSeen listener first session.deliveries = session.snapshot := by
  have addressed : ⟨listener, session.snapshot⟩ ∈
      session.deliveries.filter fun delivery => delivery.listener = listener :=
    List.mem_filter.mpr ⟨List.mem_map_of_mem listening, by simp⟩
  unfold lastSeen
  split
  · rename_i delivery last
    obtain ⟨other, -, rfl⟩ :=
      List.mem_map.mp (List.mem_of_mem_filter (List.mem_of_getLast? last))
    rfl
  · rename_i nothing
    rw [List.getLast?_eq_none_iff.mp nothing] at addressed
    cases addressed

/-- Whoever knew what there was to see before a command, and still listens, knows what there is
to see after it. -/
theorem lastSeen_perform {session : Session} {listener : Nat} (command : Command)
    (listening : listener ∈ (session.perform command).session.listeners) :
    lastSeen listener session.snapshot (session.perform command).deliveries =
      (session.perform command).session.snapshot := by
  cases concerns : command.concernsListeners with
  | false =>
      rcases announced_perform session concerns with told | ⟨nobody, nothing⟩
      · rw [told]
        exact lastSeen_deliveries listening _
      · rw [nobody, nothing]
        exact lastSeen_nil _ _
  | true =>
      cases command with
      | subscribe | unsubscribe leaving => exact lastSeen_nil _ _
      | _ => cases concerns

/-- All that is delivered while commands are carried out, in order. -/
def delivered (session : Session) : List Command → List Delivery
  | [] => []
  | command :: rest =>
    let reply := session.perform command
    reply.deliveries ++ reply.session.delivered rest

theorem lastSeen_delivered {session : Session} {listener : Nat} (commands : List Command)
    (given : listener < session.nextListener)
    (listening : listener ∈ (session.performAll commands).listeners) :
    lastSeen listener session.snapshot (session.delivered commands) =
      (session.performAll commands).snapshot := by
  induction commands generalizing session with
  | nil => exact lastSeen_nil _ _
  | cons command commands ih =>
      have later := given.trans_le (nextListener_le_perform session command)
      have still := ((mem_listeners_performAll_iff later commands).mp listening).1
      rw [delivered, lastSeen_append, lastSeen_perform command still]
      exact ih later listening

/-- Listeners neither miss nor misread a change.  Those who listen to a machine are some of those
who came, in the order in which they came, each of them once.  Whatever command is carried out,
either nobody is told anything, or each of them is told once, in this order, what there is to see
when the command is done; and if there is something new to see, they are told.  So what a listener
was told last, or what there was to see when it came, is all there is to see at any time, as long
as it stays; and it stays until it leaves by itself. -/
theorem deliveries_of_commands (settings : Settings) (past : List Command) :
    let session := (new settings).performAll past
    session.listeners.Sublist ((new settings).subscriptions past) ∧
      session.listeners.Nodup ∧
      (∀ command : Command, command.concernsListeners = false →
        let reply := session.perform command
        let toEveryone := session.listeners.map fun listener =>
          Delivery.mk listener reply.session.snapshot
        (reply.deliveries = [] ∨ reply.deliveries = toEveryone) ∧
          (reply.session.snapshot ≠ session.snapshot → reply.deliveries = toEveryone)) ∧
      ∀ commands : List Command,
        let subscription := session.subscribe
        let reached := subscription.session.performAll commands
        (subscription.answer ∈ reached.listeners ↔
          .unsubscribe subscription.answer ∉ commands) ∧
        (.unsubscribe subscription.answer ∉ commands →
          lastSeen subscription.answer session.snapshot (subscription.session.delivered commands) =
            reached.snapshot) := by
  intro session
  have enrolled : Enrolled session := (enrolled_new settings).performAll past
  refine ⟨listeners_performAll_sublist (new settings) past, enrolled.ordered.imp ne_of_lt,
    fun command silent => ?_, fun commands => ?_⟩
  · intro reply toEveryone
    have everyone : reply.session.deliveries = toEveryone := by
      rw [deliveries, (listeners_perform session silent).1]
    rcases announced_perform session silent with told | ⟨nobody, nothing⟩
    · have all := told.trans everyone
      exact ⟨.inr all, fun _ => all⟩
    · refine ⟨.inl nobody, fun changed => absurd ?_ changed⟩
      rw [nothing]
  · intro subscription reached
    have registered := mem_listeners_subscribe_iff session commands
    refine ⟨registered, fun staying => ?_⟩
    exact lastSeen_delivered commands (Nat.lt_succ_self session.nextListener)
      (registered.mpr staying)

/-- One of two listeners has left, and a third one comes.  They are told of a step, and not of
the speed that is refused. -/
theorem deliveries_of_commands_shuttle :
    let session := (new Settings.default).performAll
      [.subscribe, .subscribe, .unsubscribe 0, .load shuttleText]
    let reached := session.subscribe.session.performAll [.step, .setSpeed 0]
    session.listeners = [1] ∧ session.subscribe.answer = 2 ∧ reached.listeners = [1, 2] ∧
      (session.perform .step).deliveries = [⟨1, (session.perform .step).session.snapshot⟩] ∧
      lastSeen 2 session.snapshot (session.subscribe.session.delivered [.step, .setSpeed 0]) =
        reached.snapshot ∧
      reached.snapshot ≠ session.snapshot := by
  intro session reached
  have loaded : session = _ := session_load read_shuttleText
  have listening : session.listeners = [1] := by
    rw [loaded]
    rfl
  have stays : reached.listeners = [1, 2] := by
    change (session.subscribe.session.performAll [.step, .setSpeed 0]).listeners = _
    rw [loaded]
    cbv
  have number : session.subscribe.answer = 2 := by
    rw [loaded]
    rfl
  have before : session.snapshot.stepCount = 0 := by
    rw [loaded]
    rfl
  have stepped : (session.perform .step).session.snapshot.stepCount = 1 := by
    rw [loaded]
    cbv
  have after : reached.snapshot.stepCount = 1 := by
    change (session.subscribe.session.performAll [.step, .setSpeed 0]).snapshot.stepCount = _
    rw [loaded]
    cbv
  have changed : (session.perform .step).session.snapshot ≠ session.snapshot := by
    intro same
    rw [same, before] at stepped
    cases stepped
  have changed' : reached.snapshot ≠ session.snapshot := by
    intro same
    rw [same, before] at after
    cases after
  obtain ⟨-, -, announced, known⟩ := deliveries_of_commands Settings.default
    [.subscribe, .subscribe, .unsubscribe 0, .load shuttleText]
  have told := (announced .step rfl).2 changed
  have seen : lastSeen session.subscribe.answer session.snapshot
      (session.subscribe.session.delivered [.step, .setSpeed 0]) = reached.snapshot :=
    (known [.step, .setSpeed 0]).2 (by simp)
  rw [listening] at told
  rw [number] at seen
  exact ⟨listening, number, stays, told, seen, changed'⟩

end Session
end TapeWorkbench
