import AppLauncher.Proofs.Supervision.Recorded

/-!
# The course of a supervision

A child and a queue that are state machines have their rounds fixed beforehand: the child's answers
one after the other (`Behaviour.answer`), and the counts that the queue gives for the budget
(`Behaviour.count`). `Behaviour.rounds_passed` says that these are the rounds of a supervision, and
what happens in each of them.

**`run_course`**: a run of a child that exits after so many answers makes exactly these rounds, then
one poll more, tells the queue to quit and releases the child. A poll that fails leaves no other
trace than its warning.
-/

namespace AppLauncher.Scripted

open Supervisor (startEvent exitEvent servedIn)

variable {C M : Type}

namespace Behaviour

/-- A child that has been polled so many times. -/
def childAfter (b : Behaviour C M) : Nat → C → C
  | 0, child => child
  | n + 1, child => b.childAfter n (b.poll child).2

/-- What a child answers when it has been polled so many times before. -/
def answer (b : Behaviour C M) (n : Nat) (child : C) : Poll :=
  (b.poll (b.childAfter n child)).1

/-- A queue that has served so many times. -/
def pumpAfter (b : Behaviour C M) (budget : UInt64) : Nat → M → M
  | 0, pump => pump
  | n + 1, pump => b.pumpAfter budget n (b.dispatch pump budget).2

/-- How many events a queue serves when it has served so many times before. -/
def count (b : Behaviour C M) (budget : UInt64) (n : Nat) (pump : M) : UInt64 :=
  (b.dispatch (b.pumpAfter budget n pump) budget).1

/-- The first rounds of a child and a queue. -/
def rounds (b : Behaviour C M) (budget : UInt64) (n : Nat) (child : C) (pump : M) : List Round :=
  (List.range n).map fun i => ⟨b.answer i child, b.count budget i pump⟩

theorem childAfter_succ (b : Behaviour C M) (n : Nat) (child : C) :
    b.childAfter (n + 1) child = (b.poll (b.childAfter n child)).2 := by
  induction n generalizing child with
  | zero => rfl
  | succ n ih => exact ih (b.poll child).2

theorem pumpAfter_succ (b : Behaviour C M) (budget : UInt64) (n : Nat) (pump : M) :
    b.pumpAfter budget (n + 1) pump = (b.dispatch (b.pumpAfter budget n pump) budget).2 := by
  induction n generalizing pump with
  | zero => rfl
  | succ n ih => exact ih (b.dispatch pump budget).2

@[simp] theorem length_rounds (b : Behaviour C M) (budget : UInt64) (n : Nat) (child : C)
    (pump : M) : (b.rounds budget n child pump).length = n := by
  simp [rounds]

theorem rounds_succ_last (b : Behaviour C M) (budget : UInt64) (n : Nat) (child : C) (pump : M) :
    b.rounds budget (n + 1) child pump =
      b.rounds budget n child pump ++ [⟨b.answer n child, b.count budget n pump⟩] := by
  rw [rounds, List.range_succ, List.map_append]
  rfl

theorem rounds_succ (b : Behaviour C M) (budget : UInt64) (n : Nat) (child : C) (pump : M) :
    b.rounds budget (n + 1) child pump =
      ⟨b.answer 0 child, b.count budget 0 pump⟩ ::
        b.rounds budget n (b.poll child).2 (b.dispatch pump budget).2 := by
  rw [rounds, List.range_succ_eq_map, List.map_cons, List.map_map]
  rfl

end Behaviour

/-! ## What happens in a round -/

/-- What happens in a round: the poll, a warning if it failed, and the serving of events. -/
def roundHappenings (budget : UInt64) (round : Round) : List Happening :=
  .call (.status round.answer) :: round.answer.warnings.map .event ++
    [.call (.dispatch budget round.served)]

/-- What happens after the poll that sees the exit. -/
def exitHappenings (code : Option Int32) (polls : UInt64) : List Happening :=
  [.call (.status (.exited code)), .call .quit, .call .release, .event (exitEvent code polls)]

theorem Behaviour.poll_recorded (b : Behaviour C M) (child : C) (world : World (List Moment)) :
    b.services.poll child world =
      (b.poll child, replay world [.call (.status (b.poll child).1)]) := rfl

/-- After a poll that did not see the exit, events are served, and so the round is complete. -/
theorem Behaviour.dispatch_recorded (b : Behaviour C M) (pump : M) (budget : UInt64)
    (answer : Poll) (world : World (List Moment)) :
    b.services.dispatch pump budget
        ((replay world [.call (.status answer)]).noteAll answer.warnings) =
      (b.dispatch pump budget,
        replay world (roundHappenings budget ⟨answer, (b.dispatch pump budget).1⟩)) := by
  rw [← replay_events, ← replay_append, roundHappenings, List.singleton_append, replay_append]
  rfl

/-- As long as the child has not exited, its answers and the counts of the queue make the rounds. -/
theorem Behaviour.rounds_passed (b : Behaviour C M) (budget : UInt64) {n : Nat} {child : C}
    (pump : M) (goesOn : ∀ i < n, (b.answer i child).isExit = false)
    (world : World (List Moment)) :
    Supervisor.Rounds b.services budget child pump world (b.rounds budget n child pump)
      (b.childAfter n child) (b.pumpAfter budget n pump)
      (replay world ((b.rounds budget n child pump).flatMap (roundHappenings budget))) := by
  induction n generalizing child pump world with
  | zero => exact .none child pump world
  | succ n ih =>
    rw [b.rounds_succ, List.flatMap_cons, replay_append]
    have later : ∀ i < n, (b.answer i (b.poll child).2).isExit = false :=
      fun i hi => goesOn (i + 1) (by omega)
    exact .more (b.poll_recorded child world) (goesOn 0 (by omega))
      (b.dispatch_recorded pump budget _ world) (ih _ later _)

/-- A child that exits some day has a first answer that says so. -/
theorem Behaviour.exists_first_exit {b : Behaviour C M} {child : C}
    (exits : ∃ n code, b.answer n child = .exited code) :
    ∃ k code, (∀ i < k, (b.answer i child).isExit = false) ∧ b.answer k child = .exited code := by
  have some_exit : ∃ n, (b.answer n child).isExit = true := by
    obtain ⟨n, code, exit⟩ := exits
    exact ⟨n, by rw [exit]; rfl⟩
  have first := Nat.find_spec some_exit
  have before : ∀ i < Nat.find some_exit, (b.answer i child).isExit = false := fun i hi => by
    simpa using Nat.find_min some_exit hi
  cases answer : b.answer (Nat.find some_exit) child with
  | exited code => exact ⟨_, code, before, answer⟩
  | active => rw [answer] at first; cases first
  | failed reason => rw [answer] at first; cases first

theorem Behaviour.exits_of_answer {b : Behaviour C M} {child : C}
    (exits : ∃ n code, b.answer n child = .exited code) (budget : UInt64) (pump : M)
    (world : World (List Moment)) :
    Supervisor.Exits b.services budget child pump world := by
  obtain ⟨k, code, goesOn, exit⟩ := exists_first_exit exits
  exact ⟨_, _, _, _, code, _, _, b.rounds_passed budget pump goesOn world, by
    rw [b.poll_recorded, ← exit]; rfl⟩

theorem listed_exits (answers : List Poll) :
    ∃ n code, listed.answer n answers = .exited code := by
  induction answers with
  | nil => exact ⟨0, none, rfl⟩
  | cons answer rest ih =>
    obtain ⟨n, code, exit⟩ := ih
    exact ⟨n + 1, code, exit⟩

/-! ## A whole run -/

/-- What happens in a run with these rounds before the exit, when there have been so many polls
before. -/
def courseOf (config : SupervisorConfig) (polls : UInt64) (rounds : List Round)
    (code : Option Int32) : List Happening :=
  .event (startEvent config) :: rounds.flatMap (roundHappenings config.budget) ++
    exitHappenings code (polls + .ofNat (rounds.length + 1))

/-- A run of a child whose first exit is its answer after `k` others. -/
theorem run_of_answers (b : Behaviour C M) {child : C} (pump : M) (config : SupervisorConfig)
    (world : World (List Moment)) {k : Nat} {code : Option Int32}
    (goesOn : ∀ i < k, (b.answer i child).isExit = false)
    (exits : b.answer k child = .exited code) (polls dispatched : UInt64) :
    (Supervisor.watching child pump config polls dispatched).run b.services world =
      some (⟨code, polls + .ofNat (k + 1),
          dispatched + servedIn (b.rounds config.budget k child pump)⟩,
        replay world (courseOf config polls (b.rounds config.budget k child pump) code)) := by
  have passed := b.rounds_passed config.budget pump goesOn (world.noteAll [startEvent config])
  have polled : b.services.poll (b.childAfter k child)
      (replay (world.noteAll [startEvent config])
        ((b.rounds config.budget k child pump).flatMap (roundHappenings config.budget))) =
      ((.exited code, (b.poll (b.childAfter k child)).2),
        replay (world.noteAll [startEvent config])
          ((b.rounds config.budget k child pump).flatMap (roundHappenings config.budget) ++
            [.call (.status (.exited code))])) := by
    rw [replay_append, ← exits]
    rfl
  rw [Supervisor.run_of_rounds passed polled, Behaviour.length_rounds]
  congr 2
  rw [courseOf, List.cons_append, replay_cons, replay_append, replay_append,
    Behaviour.length_rounds]
  rfl

/-- How many events were served, as a number, as long as the sum has room. -/
theorem toNat_servedIn {rounds : List Round}
    (fits : (rounds.map fun r => r.served.toNat).sum < 2 ^ 64) :
    (servedIn rounds).toNat = (rounds.map fun r => r.served.toNat).sum := by
  induction rounds with
  | nil => rfl
  | cons r rest ih =>
    simp only [List.map_cons, List.sum_cons] at fits ⊢
    have tail := ih (by omega)
    have split : servedIn (r :: rest) = r.served + servedIn rest := by simp [servedIn]
    rw [split, UInt64.toNat_add, tail, Nat.mod_eq_of_lt fits]

theorem range_split {j k : Nat} (below : j < k) :
    List.range k = List.range j ++ j :: List.range' (j + 1) (k - (j + 1)) := by
  obtain ⟨rest, rfl⟩ : ∃ rest, k = j + (rest + 1) := ⟨k - (j + 1), by omega⟩
  rw [List.range_eq_range', List.range_eq_range', ← List.range'_append_1, Nat.zero_add,
    List.range'_succ, show j + (rest + 1) - (j + 1) = rest by omega]

/-! ## A poll that fails -/

section Calmed

variable {D : Type} {b : Behaviour C M} {b' : Behaviour D M}

theorem pumpAfter_congr (same : b'.dispatch = b.dispatch) (budget : UInt64) (n : Nat) (pump : M) :
    b'.pumpAfter budget n pump = b.pumpAfter budget n pump := by
  induction n generalizing pump with
  | zero => rfl
  | succ n ih => rw [Behaviour.pumpAfter, Behaviour.pumpAfter, ih, same]

/-- Two children that differ in one answer, and serve the same queue, differ in one round, and there
in the answer only. -/
theorem rounds_of_one_answer (same : b'.dispatch = b.dispatch) {child : C} {child' : D} {j k : Nat}
    (below : j < k) (elsewhere : ∀ i, i ≠ j → b'.answer i child' = b.answer i child)
    (budget : UInt64) (pump : M) :
    ∃ earlier later served,
      b.rounds budget k child pump = earlier ++ ⟨b.answer j child, served⟩ :: later ∧
      b'.rounds budget k child' pump = earlier ++ ⟨b'.answer j child', served⟩ :: later := by
  have counts : ∀ i, b'.count budget i pump = b.count budget i pump := fun i => by
    rw [Behaviour.count, Behaviour.count, pumpAfter_congr same, same]
  have before : ∀ i ∈ List.range j, i ≠ j := fun i hi => by
    have := List.mem_range.1 hi
    omega
  have after : ∀ i ∈ List.range' (j + 1) (k - (j + 1)), i ≠ j := fun i hi => by
    have := (List.mem_range'_1.1 hi).1
    omega
  refine ⟨_, _, b.count budget j pump, by rw [Behaviour.rounds, range_split below, List.map_append,
    List.map_cons], ?_⟩
  rw [Behaviour.rounds, range_split below, List.map_append, List.map_cons, counts]
  congr 1
  · exact List.map_congr_left fun i hi => by rw [elsewhere i (before i hi), counts]
  · congr 1
    exact List.map_congr_left fun i hi => by rw [elsewhere i (after i hi), counts]

theorem courseOf_split (config : SupervisorConfig) (earlier later : List Round) (answer : Poll)
    (served : UInt64) (code : Option Int32) :
    courseOf config 0 (earlier ++ ⟨answer, served⟩ :: later) code =
      (.event (startEvent config) :: earlier.flatMap (roundHappenings config.budget)) ++
        .call (.status answer) :: (answer.warnings.map .event ++
          (.call (.dispatch config.budget served) ::
            later.flatMap (roundHappenings config.budget) ++
            exitHappenings code (.ofNat (earlier.length + later.length + 2)))) := by
  simp [courseOf, roundHappenings, Nat.add_assoc]

end Calmed

/-- Two children that differ in one answer, a failure in place of none, and serve the same queue,
have runs that differ in the warning about it. -/
theorem run_of_calmed {D : Type} {b : Behaviour C M} {b' : Behaviour D M} {child : C} {child' : D}
    (pump : M) (config : SupervisorConfig) (world : World (List Moment)) {j k : Nat}
    {code : Option Int32} {reason : String}
    (running : ∀ i < k, (b.answer i child).isExit = false)
    (exits : b.answer k child = .exited code)
    (below : j < k) (same : b'.dispatch = b.dispatch) (failed : b.answer j child = .failed reason)
    (calmed : b'.answer j child' = .active)
    (elsewhere : ∀ i, i ≠ j → b'.answer i child' = b.answer i child) :
    ∃ outcome before after,
      (Supervisor.start child pump config).run b.services world =
        some (outcome, replay world (before ++ .call (.status (.failed reason)) ::
          .event ⟨.warn, .supervisor, Supervisor.failureText reason⟩ :: after)) ∧
      (Supervisor.start child' pump config).run b'.services world =
        some (outcome, replay world (before ++ .call (.status .active) :: after)) := by
  have running' : ∀ i < k, (b'.answer i child').isExit = false := fun i hi => by
    by_cases here : i = j
    · rw [here, calmed]; rfl
    · rw [elsewhere i here]; exact running i hi
  have exits' : b'.answer k child' = .exited code := by
    rw [elsewhere k (by omega), exits]
  obtain ⟨earlier, later, served, rounds, rounds'⟩ :=
    rounds_of_one_answer same below elsewhere config.budget pump
  have served_eq : servedIn (b.rounds config.budget k child pump) =
      servedIn (b'.rounds config.budget k child' pump) := by
    rw [rounds, rounds']
    simp [servedIn]
  have ran := run_of_answers b pump config world running exits 0 0
  have ran' := run_of_answers b' pump config world running' exits' 0 0
  rw [served_eq, rounds, courseOf_split, failed, rounds'] at ran
  rw [rounds', courseOf_split] at ran'
  rw [calmed] at ran ran'
  exact ⟨_, _, _, ran, ran'⟩

theorem roundHappenings_eq (budget : UInt64) (answer : Poll) (served : UInt64) :
    roundHappenings budget ⟨answer, served⟩ =
      [Happening.call (.status answer)] ++
        (match answer with
          | .failed reason => [Happening.event ⟨.warn, .supervisor,
              s!"could not query the child's exit status: {reason}"⟩]
          | _ => []) ++
        [Happening.call (.dispatch budget served)] := by
  cases answer <;> rfl

/-- The last line about a child that has exited with some code, or without one. -/
def lastLine : Option Int32 → (polls : Nat) → String
  | some c, polls => s!"child process exited with code {c.toInt} after {polls} polls"
  | none, polls => s!"child process exited without a code after {polls} polls"

theorem exitText_eq (code : Option Int32) (polls : UInt64) :
    Supervisor.exitText code polls = lastLine code polls.toNat := by
  cases code <;> rfl

theorem exitHappenings_eq (code : Option Int32) {polls : Nat} (fits : polls < 2 ^ 64) :
    exitHappenings code (.ofNat polls) =
      [.call (.status (.exited code)), .call .quit, .call .release,
        .event ⟨.info, .supervisor, lastLine code polls⟩] := by
  have count : (UInt64.ofNat polls).toNat = polls := UInt64.toNat_ofNat_of_lt fits
  rw [exitHappenings, exitEvent, exitText_eq, count]

/-- **The course of a run.** A child that answers `k` times that it is active, or with a failure,
and then that it has exited, is watched to its end, for any queue and any configuration: so many
times it is polled and events are served, then it is polled once more, the queue is told to quit and
the child is released. The log gets one line first, one warning for each failure before the events
of its round are served, and one line last. An answer that is a failure leaves nothing but its
warning. -/
theorem run_course (b : Behaviour C M) (child : C) (pump : M) (config : SupervisorConfig)
    (world : World (List Moment)) (k : Nat) (code : Option Int32)
    (goesOn : ∀ i < k, b.answer i child = .active ∨ ∃ reason, b.answer i child = .failed reason)
    (exits : b.answer k child = .exited code)
    (pollsFit : k + 1 < 2 ^ 64)
    (eventsFit :
      ((List.range k).map fun i => (b.count config.budget i pump).toNat).sum < 2 ^ 64) :
    ∃ outcome : Outcome,
      outcome.exitCode = code ∧ outcome.polls.toNat = k + 1 ∧
      outcome.eventsDispatched.toNat =
        ((List.range k).map fun i => (b.count config.budget i pump).toNat).sum ∧
      (Supervisor.start child pump config).run b.services world =
        some (outcome, replay world (
          [Happening.event ⟨.info, .supervisor,
            s!"supervising child process, polling every {config.interval / 1000000}ms"⟩] ++
          (List.range k).flatMap (fun i =>
            [Happening.call (.status (b.answer i child))] ++
            (match b.answer i child with
              | .failed reason => [Happening.event ⟨.warn, .supervisor,
                  s!"could not query the child's exit status: {reason}"⟩]
              | _ => []) ++
            [Happening.call (.dispatch config.budget (b.count config.budget i pump))]) ++
          [Happening.call (.status (.exited code)), .call .quit, .call .release,
            .event ⟨.info, .supervisor, lastLine code (k + 1)⟩])) ∧
      ∀ {D : Type} (b' : Behaviour D M) (child' : D) (j : Nat) (reason : String),
        j < k → b'.dispatch = b.dispatch → b.answer j child = .failed reason →
        b'.answer j child' = .active → (∀ i, i ≠ j → b'.answer i child' = b.answer i child) →
        ∃ before after,
          (Supervisor.start child pump config).run b.services world =
            some (outcome, replay world (before ++ .call (.status (.failed reason)) ::
              .event ⟨.warn, .supervisor,
                s!"could not query the child's exit status: {reason}"⟩ :: after)) ∧
          (Supervisor.start child' pump config).run b'.services world =
            some (outcome, replay world (before ++ .call (.status .active) :: after)) := by
  have running : ∀ i < k, (b.answer i child).isExit = false := fun i hi => by
    rcases goesOn i hi with active | ⟨reason, failed⟩
    · rw [active]; rfl
    · rw [failed]; rfl
  have ran := run_of_answers b pump config world running exits 0 0
  rw [← Supervisor.start_eq_watching, UInt64.zero_add, UInt64.zero_add] at ran
  refine ⟨⟨code, .ofNat (k + 1), servedIn (b.rounds config.budget k child pump)⟩, rfl,
    ?_, ?_, ?_, ?_⟩
  · exact UInt64.toNat_ofNat_of_lt pollsFit
  · have sums : (b.rounds config.budget k child pump).map (fun r => r.served.toNat) =
        (List.range k).map fun i => (b.count config.budget i pump).toNat := by
      simp [Behaviour.rounds]
    rw [← sums] at eventsFit ⊢
    exact toNat_servedIn eventsFit
  · rw [ran, courseOf, Behaviour.length_rounds, Behaviour.rounds, List.flatMap_map,
      UInt64.zero_add, exitHappenings_eq code pollsFit]
    simp only [roundHappenings_eq]
    rfl
  · intro D b' child' j reason below same failed calmed elsewhere
    obtain ⟨outcome, before, after, ran', calmly⟩ :=
      run_of_calmed pump config world running exits below same failed calmed elsewhere
    have outcome_eq := (Prod.mk.inj (Option.some.inj (ran.symm.trans ran'))).1
    rw [outcome_eq]
    exact ⟨before, after, ran', calmly⟩

/-- A child that is active once, cannot be asked once, and then has exited with 7, beside a queue
that serves 3 and 9 events. -/
theorem run_course_of_two_rounds :
    ∃ outcome : Outcome, outcome.exitCode = some 7 ∧ outcome.polls.toNat = 3 ∧
      outcome.eventsDispatched.toNat = 12 ∧
      (Supervisor.start [.active, .failed "lost", .exited (some 7)] (Pump.ofSource (.raw [3, 9]))
        ⟨1999999, 4⟩).run listed.services ⟨.empty, .live [], ⟨[]⟩, [], []⟩ =
        some (outcome, replay ⟨.empty, .live [], ⟨[]⟩, [], []⟩ [
          .event ⟨.info, .supervisor, "supervising child process, polling every 1ms"⟩,
          .call (.status .active), .call (.dispatch 4 3),
          .call (.status (.failed "lost")),
          .event ⟨.warn, .supervisor, "could not query the child's exit status: lost"⟩,
          .call (.dispatch 4 9),
          .call (.status (.exited (some 7))), .call .quit, .call .release,
          .event ⟨.info, .supervisor, "child process exited with code 7 after 3 polls"⟩]) := by
  have goesOn : ∀ i < 2,
      listed.answer i [.active, .failed "lost", .exited (some 7)] = .active ∨
      ∃ reason, listed.answer i [.active, .failed "lost", .exited (some 7)] = .failed reason
    | 0, _ => .inl rfl
    | 1, _ => .inr ⟨"lost", rfl⟩
  obtain ⟨outcome, code, polls, events, ran, -⟩ :=
    run_course listed [.active, .failed "lost", .exited (some 7)] (.ofSource (.raw [3, 9]))
      ⟨1999999, 4⟩ ⟨.empty, .live [], ⟨[]⟩, [], []⟩ 2 (some 7) goesOn rfl (by decide) (by decide)
  exact ⟨outcome, code, polls, events, ran⟩

end AppLauncher.Scripted
