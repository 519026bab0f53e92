import AppLauncher.Proofs.Windows.Handles

/-!
# The messages of a supervision

The queue is asked for a message until it has none or the budget is used up, and a message that it
gives is translated and handed out before it is asked again. `Serves` says so of some messages and
some calls, with any other calls in between. `Drains` adds what becomes of the queue: the messages
that were taken and those that are left are the ones that were there, in their order. One serving
of messages drains the queue, a round of a supervision does, and so do all its rounds together.

**`messages_served`**: which messages a serving takes from the queue, and which a whole supervision.
-/

namespace AppLauncher.Windows

open Supervisor (Rounds servedIn startEvent)

/-! ## The calls about messages -/

namespace Call

/-- A call that takes a message from the queue, or that is about one that was taken. -/
def isAboutMessage : Call → Bool
  | peekMessage (some _) | translateMessage _ | dispatchMessage _ | defaultProcedure _
  | dispatched _ => true
  | _ => false

def isPeek : Call → Bool
  | peekMessage _ => true
  | _ => false

def translated? : Call → Option Message
  | translateMessage message => some message
  | _ => none

def handedOut? : Call → Option Message
  | dispatchMessage message => some message
  | _ => none

/-- An answer that says that a process has terminated. -/
def seesExit : Call → Bool
  | getExitCodeProcess _ (.ok code) => code ≠ stillActive
  | _ => false

theorem no_message_of_other {call : Call} (isOther : call.isAboutMessage = false) :
    call.removed? = none ∧ call.translated? = none ∧ call.handedOut? = none := by
  cases call with
  | peekMessage answer =>
    cases answer with
    | none => exact ⟨rfl, rfl, rfl⟩
    | some message => cases isOther
  | translateMessage message => cases isOther
  | dispatchMessage message => cases isOther
  | _ => exact ⟨rfl, rfl, rfl⟩

end Call

/-- By these calls, these messages are served one after the other: each is taken from the queue, is
translated and is handed out before the next one is taken. The procedure of the window may hand a
message on to the system. -/
inductive Serves : List Message → List Call → Prop where
  | done : Serves [] []
  | other {messages : List Message} {calls : List Call} {call : Call}
      (isOther : call.isAboutMessage = false) (rest : Serves messages calls) :
      Serves messages (call :: calls)
  | turn {messages : List Message} {calls : List Call} (message : Message) (handedOn : List Call)
      (result : Int64) (byDefault : handedOn = [] ∨ handedOn = [.defaultProcedure message])
      (rest : Serves messages calls) :
      Serves (message :: messages)
        (.peekMessage (some message) :: .translateMessage message :: .dispatchMessage message ::
          handedOn ++ .dispatched result :: calls)

namespace Serves

variable {messages more : List Message} {calls later : List Call}

theorem append (first : Serves messages calls) (second : Serves more later) :
    Serves (messages ++ more) (calls ++ later) := by
  induction first with
  | done => exact second
  | other isOther _ ih => exact .other isOther ih
  | turn message handedOn result byDefault _ ih =>
    simpa using Serves.turn message handedOn result byDefault ih

theorem of_others (others : ∀ call ∈ calls, call.isAboutMessage = false) : Serves [] calls := by
  induction calls with
  | nil => exact .done
  | cons call rest ih =>
    exact .other (others call List.mem_cons_self) (ih fun c among =>
      others c (List.mem_cons_of_mem call among))

/-- Exactly the messages that are served are taken, and each of them is translated and handed out
once. -/
theorem each (serves : Serves messages calls) :
    calls.filterMap Call.removed? = messages ∧ calls.filterMap Call.translated? = messages ∧
      calls.filterMap Call.handedOut? = messages := by
  induction serves with
  | done => exact ⟨rfl, rfl, rfl⟩
  | other isOther _ ih =>
    obtain ⟨removed, translated, handedOut⟩ := Call.no_message_of_other isOther
    simpa only [List.filterMap_cons, removed, translated, handedOut] using ih
  | turn message handedOn result byDefault _ ih =>
    obtain ⟨removed, translated, handedOut⟩ := ih
    rcases byDefault with rfl | rfl
    · exact ⟨congrArg _ removed, congrArg _ translated, congrArg _ handedOut⟩
    · exact ⟨congrArg _ removed, congrArg _ translated, congrArg _ handedOut⟩

end Serves

/-! ## One serving -/

section Serving

variable {budget count : Nat} {calls : List Call}

theorem Serving.serves (serving : Serving budget count calls) :
    Serves (calls.filterMap Call.removed?) calls := by
  induction serving with
  | full => exact .done
  | idle budget => exact .other rfl .done
  | next message handedOn result byDefault serving ih =>
    have turn := Serves.turn message handedOn result byDefault ih
    rw [turn.each.1]
    exact turn

/-- Serving messages says nothing about a process, and hands no texts to the system. -/
theorem Serving.quiet (serving : Serving budget count calls) :
    ∀ call ∈ calls, call.seesExit = false ∧ call.texts = [] := by
  induction serving with
  | full => nofun
  | idle budget => simp [Call.seesExit, Call.texts]
  | next message handedOn result byDefault serving ih =>
    rcases byDefault with rfl | rfl
    · simpa [Call.seesExit, Call.texts] using ih
    · simpa [Call.seesExit, Call.texts] using ih

/-- The queue is asked once more than it gives a message, if the budget allows it. -/
theorem Serving.countP_isPeek (serving : Serving budget count calls) :
    calls.countP Call.isPeek = min budget (count + 1) := by
  induction serving with
  | full => rfl
  | idle budget => simp [Call.isPeek]
  | next message handedOn result byDefault serving ih =>
    rcases byDefault with rfl | rfl
    · simp [Call.isPeek, List.countP_cons, ih, Nat.add_min_add_right]
    · simp [Call.isPeek, List.countP_cons, ih, Nat.add_min_add_right]

theorem serveQueued_eq (budget : Nat) (answers : List (Option QueuedMessage)) :
    serveQueued budget answers = (min (waiting answers).length budget,
      answers.drop (min budget ((waiting answers).length + 1))) := by
  induction budget generalizing answers with
  | zero => simp [serveQueued]
  | succ budget ih =>
    rcases answers with _ | ⟨_ | queued, rest⟩
    · simp [serveQueued, waiting]
    · simp [serveQueued, waiting]
    · simp [serveQueued, waiting, ih, Nat.add_min_add_right]

/-- What the budget does not allow is left for the next serving. -/
example (first second : QueuedMessage) :
    serveQueued 1 [some first, some second, none] = (1, [some second, none]) := rfl

/-- The messages that are served and those that are left are all that there were. -/
theorem take_waiting_append (budget : Nat) (answers : List (Option QueuedMessage)) :
    (waiting answers).take budget ++
        (answers.drop (min budget ((waiting answers).length + 1))).filterMap id =
      answers.filterMap id := by
  induction budget generalizing answers with
  | zero => simp
  | succ budget ih =>
    rcases answers with _ | ⟨_ | queued, rest⟩
    · simp [waiting]
    · simp [waiting]
    · simpa [waiting, Nat.add_min_add_right] using ih rest

end Serving

/-- A serving takes the first messages that wait, as many as the budget allows. -/
theorem served_of_dispatch (pump : Pump) (budget : UInt64) (world : World Desktop) :
    let answers := world.system.script.messages
    let taken := ((waiting answers).take budget.toNat).map world.system.addressed
    ∃ count after made, pump.dispatch budget world = ((count, pump), after) ∧
      count.toNat = min (waiting answers).length budget.toNat ∧
      after.system.calls = world.system.calls ++ made ∧
      Serves taken made ∧
      made.countP Call.isPeek = min budget.toNat ((waiting answers).length + 1) ∧
      after.system.script.messages =
        answers.drop (min budget.toNat ((waiting answers).length + 1)) ∧
      ∀ call ∈ made, call.seesExit = false ∧ call.texts = [] := by
  intro answers taken
  obtain ⟨after, made, dispatched, serving, removed, acted⟩ := acted_dispatch pump budget world
  have count := toNat_serveQueued budget answers
  have left := acted.messages
  rw [serveQueued_eq] at count left
  have serves := serving.serves
  rw [removed] at serves
  have peeks := serving.countP_isPeek
  rw [serveQueued_eq, count] at peeks
  refine ⟨_, after, made, dispatched, ?_, acted.calls, serves, ?_, left, serving.quiet⟩
  · rw [serveQueued_eq, count]
  · rw [peeks]
    omega

/-! ## What becomes of the queue -/

/-- The messages that a desktop still has, in the order of the queue. -/
def Desktop.pending (desktop : Desktop) : List Message :=
  (desktop.script.messages.filterMap id).map desktop.addressed

/-- Between two worlds, these calls were made, and by them these messages were served: the first
ones of those that there were. -/
structure Drains (world after : World Desktop) (made : List Call) (taken : List Message) :
    Prop where
  calls : after.system.calls = world.system.calls ++ made
  serves : Serves taken made
  order : taken ++ after.system.pending = world.system.pending
  windows : after.system.windows = world.system.windows

theorem addressed_of_windows {desktop desktop' : Desktop}
    (windows : desktop'.windows = desktop.windows) : desktop'.addressed = desktop.addressed := by
  funext queued
  rw [Desktop.addressed, windows, Desktop.addressed]

namespace Drains

variable {world between after : World Desktop} {made later : List Call} {taken more : List Message}

theorem nothing (world : World Desktop) : Drains world world [] [] :=
  ⟨by simp, .done, rfl, rfl⟩

theorem trans (first : Drains world between made taken) (second : Drains between after later more) :
    Drains world after (made ++ later) (taken ++ more) where
  calls := by rw [second.calls, first.calls, List.append_assoc]
  serves := first.serves.append second.serves
  order := by rw [List.append_assoc, second.order, first.order]
  windows := second.windows.trans first.windows

theorem told (drains : Drains world after made taken) (events : List Event) :
    Drains world (after.noteAll events) made taken :=
  ⟨drains.calls, drains.serves, drains.order, drains.windows⟩

theorem aside {exitCodes : List (Except UInt32 UInt32)}
    (acted : Acted world after made exitCodes world.system.script.messages)
    (others : ∀ call ∈ made, call.isAboutMessage = false)
    (windows : after.system.windows = world.system.windows) : Drains world after made [] where
  calls := acted.calls
  serves := .of_others others
  order := by
    rw [List.nil_append, Desktop.pending, acted.messages, addressed_of_windows windows]
    rfl
  windows := windows

theorem poll (child : Child) (world : World Desktop) :
    ∃ after answer, child.poll world = ((pollOf (answer.mapError Failure.ofCode), child), after) ∧
      Drains world after [.getExitCodeProcess child.process answer] [] := by
  obtain ⟨after, polled, acted⟩ := acted_poll child world
  have windows : after.system.windows = world.system.windows := by
    rw [← keepsWindows_poll child world, polled]
  exact ⟨after, _, polled, .aside acted (by simp [Call.isAboutMessage]) windows⟩

theorem dispatch (pump : Pump) (budget : UInt64) (world : World Desktop) :
    ∃ after made taken, pump.dispatch budget world = ((.ofNat taken.length, pump), after) ∧
      Drains world after made taken ∧ ∀ call ∈ made, call.seesExit = false ∧ call.texts = [] := by
  obtain ⟨count, after, made, dispatched, counted, calls, serves, -, left, quiet⟩ :=
    served_of_dispatch pump budget world
  have windows : after.system.windows = world.system.windows := by
    rw [← keepsWindows_dispatch pump budget world, dispatched]
  refine ⟨after, made, _, ?_, ⟨calls, serves, ?_, windows⟩, quiet⟩
  · rw [dispatched, List.length_map, List.length_take, Nat.min_comm, ← counted, UInt64.ofNat_toNat]
  · rw [Desktop.pending, left, addressed_of_windows windows, ← List.map_append, take_waiting_append]
    rfl

theorem release (child : Child) (world : World Desktop) :
    ∃ closed closed', Drains world (child.release world).2
      [.closeHandle child.process closed, .closeHandle child.thread closed'] [] := by
  obtain ⟨closed, closed', acted⟩ := acted_release child world
  exact ⟨closed, closed', .aside acted (by simp [Call.isAboutMessage])
    (keepsWindows_release child world)⟩

theorem quit (pump : Pump) (world : World Desktop) :
    Drains world (pump.postQuit world).2 [.postQuitMessage 0] [] := by
  have acted : ActedAside world (pump.postQuit world).2 [.postQuitMessage 0] := .of_system rfl
  exact .aside acted (by simp [Call.isAboutMessage]) rfl

end Drains

/-! ## The supervision -/

section Supervision

variable {child child₁ : Child} {pump pump₁ : Pump} {world world₁ : World Desktop}

theorem seesExit_eq_isExit (process : SystemHandle) (answer : Except UInt32 UInt32) :
    (Call.getExitCodeProcess process answer).seesExit =
      (pollOf (answer.mapError Failure.ofCode)).isExit := by
  cases answer with
  | error code => rfl
  | ok code => by_cases active : code = stillActive <;> simp [Call.seesExit, Except.mapError,
      pollOf, active, Poll.isExit]

theorem drains_of_rounds {budget : UInt64} {rounds : List Round}
    (passed : Rounds services budget child pump world rounds child₁ pump₁ world₁) :
    child₁ = child ∧ ∃ made taken, Drains world world₁ made taken ∧
      servedIn rounds = .ofNat taken.length ∧
      ∀ call ∈ made, call.seesExit = false ∧ call.texts = [] := by
  -- Each round is a poll, which leaves the queue alone, and a serving, whose count is the number of
  -- the messages that it takes.
  induction passed with
  | none child pump world => exact ⟨rfl, [], [], .nothing world, rfl, nofun⟩
  | @more child _ _ pump _ _ world _ _ _ answer count rounds polled goesOn served rest ih =>
    obtain ⟨polledWorld, code, polled', asks⟩ := Drains.poll child world
    obtain ⟨same, rfl⟩ := Prod.mk.inj (polled'.symm.trans polled)
    obtain ⟨rfl, rfl⟩ := Prod.mk.inj same
    obtain ⟨servedWorld, made, taken, served', serves, quiet⟩ :=
      Drains.dispatch pump budget
        (polledWorld.noteAll (pollOf (code.mapError Failure.ofCode)).warnings)
    obtain ⟨same, rfl⟩ := Prod.mk.inj (served'.symm.trans served)
    obtain ⟨rfl, rfl⟩ := Prod.mk.inj same
    obtain ⟨sameChild, made', taken', serves', counted, quiet'⟩ := ih
    have round := ((asks.told _).trans serves).trans serves'
    refine ⟨sameChild, _, _, round, ?_, ?_⟩
    · rw [servedIn, List.map_cons, List.sum_cons, ← servedIn, counted, List.nil_append,
        List.length_append, UInt64.ofNat_add]
    · simp only [List.mem_append, List.mem_singleton]
      rintro call ((rfl | among) | among)
      · exact ⟨(seesExit_eq_isExit _ _).trans goesOn, rfl⟩
      · exact quiet call among
      · exact quiet' call among

/-- Every child on the desktop is seen to exit. -/
theorem exits_on_desktop (child : Child) (pump : Pump) (budget : UInt64) (world : World Desktop) :
    Supervisor.Exits services budget child pump world := by
  obtain ⟨k, code, goesOn, exits⟩ :=
    Scripted.Behaviour.exists_first_exit (answering_exits world.system.script.exitCodes)
  obtain ⟨between, rounds, left, mirrors⟩ :=
    rounds_mirror pump budget (.start child world) ⟨rfl, rfl⟩ goesOn
  obtain ⟨polledWorld, polled, -, -⟩ := mirrors_poll mirrors left
  have last : (answering.poll (answering.childAfter k world.system.script.exitCodes)).1 =
      .exited code := exits
  rw [last] at polled
  exact ⟨_, child, pump, between, code, child, polledWorld, rounds, polled⟩

/-- A supervision drains the queue until it has seen the exit of its child. -/
theorem drains_of_run (child : Child) (pump : Pump) (config : SupervisorConfig)
    (world : World Desktop) :
    ∃ outcome after watching taken code closed closed',
      (Supervisor.start child pump config).run services world = some (outcome, after) ∧
      Drains world after (watching ++ Call.getExitCodeProcess child.process (.ok code) ::
        ending child.process child.thread closed closed') taken ∧
      outcome.eventsDispatched = .ofNat taken.length ∧
      code ≠ stillActive ∧ ∀ call ∈ watching, call.seesExit = false ∧ call.texts = [] := by
  obtain ⟨rounds, child₁, pump₁, world₁, exitCode, child₂, world₂, passed, polled⟩ :=
    exits_on_desktop child pump config.budget (world.noteAll [startEvent config])
  have ran := Supervisor.run_of_rounds passed polled 0 0
  obtain ⟨rfl, watching, taken, drains, counted, quiet⟩ := drains_of_rounds passed
  -- After the poll that sees the exit come the calls of the end, and none of them is about messages.
  obtain ⟨polledWorld, answer, polled', asks⟩ := Drains.poll child₁ world₁
  obtain ⟨same, rfl⟩ := Prod.mk.inj (polled'.symm.trans polled)
  obtain ⟨exited, rfl⟩ := Prod.mk.inj same
  have seen : (Call.getExitCodeProcess child₁.process answer).seesExit = true := by
    rw [seesExit_eq_isExit, exited]
    rfl
  cases answer with
  | error code => cases seen
  | ok code =>
    obtain ⟨closed, closed', releases⟩ := Drains.release child₁ (pump₁.postQuit polledWorld).2
    have whole := ((((Drains.nothing world).told [startEvent config]).trans drains).trans
      (asks.trans ((Drains.quit pump₁ polledWorld).trans releases))).told
        [Supervisor.exitEvent exitCode (0 + .ofNat (rounds.length + 1))]
    refine ⟨_, _, watching, taken, code, closed, closed', ran, ?_, ?_, ?_, quiet⟩
    · change Drains world ((child₁.release (pump₁.postQuit polledWorld).2).2.noteAll _) _ _
      simpa [ending] using whole
    · rw [counted]
      exact UInt64.zero_add _
    · simpa [Call.seesExit] using seen

end Supervision

/-- **The messages of a supervision.** One serving with a budget takes the messages that wait, until
the queue is first found empty or the budget is used up: it gives their number, it takes no others,
and each of them is translated and handed out before the next one is taken; it asks the queue once
more if the budget allows it. In a whole supervision, the messages that are taken and handed out and
those that are left are all that there were, in the order of the queue; the outcome counts them; and
once the child has been seen to exit, nothing is taken any more. -/
theorem messages_served :
    (∀ (pump : Pump) (budget : UInt64) (world : World Desktop),
      let answers := world.system.script.messages
      let first := waiting answers
      let taken := (first.take budget.toNat).map world.system.addressed
      ∃ count after made, pump.dispatch budget world = ((count, pump), after) ∧
        count.toNat = min first.length budget.toNat ∧
        after.system.calls = world.system.calls ++ made ∧
        Serves taken made ∧
        made.filterMap Call.removed? = taken ∧ made.filterMap Call.translated? = taken ∧
        made.filterMap Call.handedOut? = taken ∧
        made.countP Call.isPeek = min budget.toNat (first.length + 1) ∧
        after.system.script.messages = answers.drop (min budget.toNat (first.length + 1))) ∧
    ∀ (child : Child) (pump : Pump) (config : SupervisorConfig) (world : World Desktop),
      ∃ outcome after watching taken code closed closed',
        let made := watching ++ Call.getExitCodeProcess child.process (.ok code) ::
          ending child.process child.thread closed closed'
        (Supervisor.start child pump config).run services world = some (outcome, after) ∧
        after.system.calls = world.system.calls ++ made ∧
        Serves taken made ∧
        made.filterMap Call.removed? = taken ∧ made.filterMap Call.handedOut? = taken ∧
        taken ++ after.system.pending = world.system.pending ∧
        outcome.eventsDispatched = .ofNat taken.length ∧
        (taken.length < 2 ^ 64 → outcome.eventsDispatched.toNat = taken.length) ∧
        code ≠ stillActive ∧ ∀ call ∈ watching, call.seesExit = false := by
  constructor
  · intro pump budget world answers first taken
    obtain ⟨count, after, made, dispatched, counted, calls, serves, peeks, left, -⟩ :=
      served_of_dispatch pump budget world
    obtain ⟨removed, translated, handedOut⟩ := serves.each
    exact ⟨count, after, made, dispatched, counted, calls, serves, removed, translated, handedOut,
      peeks, left⟩
  · intro child pump config world
    obtain ⟨outcome, after, watching, taken, code, closed, closed', ran, drains, counted,
      terminated, quiet⟩ := drains_of_run child pump config world
    obtain ⟨removed, -, handedOut⟩ := drains.serves.each
    refine ⟨outcome, after, watching, taken, code, closed, closed', ran, drains.calls,
      drains.serves, removed, handedOut, drains.order, counted, ?_, terminated,
      fun call among => (quiet call among).1⟩
    intro fits
    rw [counted]
    exact UInt64.toNat_ofNat_of_lt fits

end AppLauncher.Windows
