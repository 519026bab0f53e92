import AppLauncher.Proofs.Supervision.Course

/-!
# The life of a supervisor

A supervisor keeps its child, a phase and three counters beside each other. `Accounts` says how they
agree with each other and with the calls that were made. `Progress` is the invariant behind it: in
whatever order a supervisor is used, it stands either after some rounds or after the exit.

**`supervisor_life`**: the accounts hold after any operations; a terminated supervisor does nothing
any more; and when the use of a supervisor ends, by a run or by a drop, its child has been released
exactly once, as the last of all calls.
-/

namespace AppLauncher.Scripted

open Supervisor (startEvent exitEvent servedIn watching ended Operation Closing)

variable {C M : Type}

/-! ## Counting calls -/

namespace Call

/-- A call that polls the child. -/
def isStatus : Call → Bool
  | status _ => true
  | _ => false

/-- A call that has events served. -/
def isDispatch : Call → Bool
  | dispatch _ _ => true
  | _ => false

/-- How many events a call served. -/
def served : Call → Nat
  | dispatch _ count => count.toNat
  | _ => 0

end Call

/-- How many events were served by some calls. -/
def servedBy (calls : List Call) : Nat :=
  (calls.map Call.served).sum

/-- The calls of some rounds. -/
def roundCalls (budget : UInt64) (rounds : List Round) : List Call :=
  rounds.flatMap fun r => [.status r.answer, .dispatch budget r.served]

/-- The calls of the step that sees the exit. -/
def exitCalls (code : Option Int32) : List Call :=
  [.status (.exited code), .quit, .release]

section RoundCalls

variable (budget : UInt64) (rounds : List Round)

theorem roundCalls_cons (r : Round) :
    roundCalls budget (r :: rounds) =
      .status r.answer :: .dispatch budget r.served :: roundCalls budget rounds := rfl

theorem callsOf_rounds :
    callsOf (rounds.flatMap (roundHappenings budget)) = roundCalls budget rounds := by
  induction rounds with
  | nil => rfl
  | cons r rest ih =>
    rw [List.flatMap_cons, callsOf_append, ih, roundCalls_cons]
    simp [roundHappenings]

theorem statuses_of_rounds : (roundCalls budget rounds).countP Call.isStatus = rounds.length := by
  induction rounds with
  | nil => rfl
  | cons r rest ih =>
    rw [roundCalls_cons, List.length_cons, ← ih]
    simp [List.countP_cons, Call.isStatus]

theorem dispatches_of_rounds :
    (roundCalls budget rounds).countP Call.isDispatch = rounds.length := by
  induction rounds with
  | nil => rfl
  | cons r rest ih =>
    rw [roundCalls_cons, List.length_cons, ← ih]
    simp [List.countP_cons, Call.isDispatch]

theorem served_of_rounds :
    servedBy (roundCalls budget rounds) = (rounds.map fun r => r.served.toNat).sum := by
  induction rounds with
  | nil => rfl
  | cons r rest ih =>
    rw [roundCalls_cons, List.map_cons, List.sum_cons, ← ih]
    simp [servedBy, Call.served]

theorem quit_notMem_rounds : Call.quit ∉ roundCalls budget rounds := by
  simp [roundCalls]

theorem release_notMem_rounds : Call.release ∉ roundCalls budget rounds := by
  simp [roundCalls]

theorem exit_notMem_rounds {rounds : List Round} (goOn : ∀ r ∈ rounds, r.answer.isExit = false)
    (code : Option Int32) : Call.status (.exited code) ∉ roundCalls budget rounds := by
  intro found
  obtain ⟨r, hr, at_r⟩ := List.mem_flatMap.1 found
  have sees : r.answer = .exited code := by simpa [eq_comm] using at_r
  have goesOn := goOn r hr
  rw [sees] at goesOn
  cases goesOn

end RoundCalls

/-! ## The accounts of a supervisor -/

/-- How a supervisor and the calls that it has made agree. The counters count as long as they have
room. -/
structure Accounts (s : Supervisor C M) (calls : List Call) : Prop where
  running_iff_owned : s.phase = .running ↔ s.child.isSome ∧ .quit ∉ calls
  running_iff_active : s.phase = .running ↔ ∀ code, .status (.exited code) ∉ calls
  exitCode : s.phase = .running → s.exitCode = none
  polls : calls.countP Call.isStatus < 2 ^ 64 → s.polls.toNat = calls.countP Call.isStatus
  dispatches : calls.countP Call.isDispatch =
    match s.phase with
    | .running => calls.countP Call.isStatus
    | .terminated => calls.countP Call.isStatus - 1
  events : servedBy calls < 2 ^ 64 → s.dispatched.toNat = servedBy calls

/-- The calls of a supervisor whose use has ended: the child was released once and nothing was
called after that; if the queue was told to quit, this was just before, and a poll had seen the
exit. -/
structure Complete (calls : List Call) : Prop where
  releasedOnce : calls.count .release = 1
  releasedLast : ∃ before, calls = before ++ [.release]
  quitOnce : calls.count .quit ≤ 1
  quitThenReleased : .quit ∈ calls → ∃ before, calls = before ++ [.quit, .release]
  quit_iff_exit : .quit ∈ calls ↔ ∃ code, .status (.exited code) ∈ calls

theorem toNat_servedIn_rounds {budget : UInt64} {rounds : List Round}
    (fits : servedBy (roundCalls budget rounds) < 2 ^ 64) :
    (servedIn rounds).toNat = servedBy (roundCalls budget rounds) := by
  rw [served_of_rounds] at fits ⊢
  exact toNat_servedIn fits

theorem accounts_of_rounds (child : C) (pump : M) (config : SupervisorConfig) (budget : UInt64)
    {rounds : List Round} (goOn : ∀ r ∈ rounds, r.answer.isExit = false) :
    Accounts (watching child pump config (.ofNat rounds.length) (servedIn rounds))
      (roundCalls budget rounds) := by
  refine ⟨?_, ?_, ?_, ?_, ?_, toNat_servedIn_rounds⟩
  · exact ⟨fun _ => ⟨rfl, quit_notMem_rounds budget rounds⟩, fun _ => rfl⟩
  · exact ⟨fun _ => exit_notMem_rounds budget goOn, fun _ => rfl⟩
  · intro _
    rfl
  · rw [statuses_of_rounds]
    exact UInt64.toNat_ofNat_of_lt
  · rw [dispatches_of_rounds, statuses_of_rounds]
    rfl

theorem accounts_of_exit (C : Type) (pump : M) (config : SupervisorConfig) (budget : UInt64)
    (rounds : List Round) (code : Option Int32) :
    Accounts
      (ended pump config (.ofNat (rounds.length + 1)) (servedIn rounds) code : Supervisor C M)
      (roundCalls budget rounds ++ exitCalls code) := by
  have statuses : (roundCalls budget rounds ++ exitCalls code).countP Call.isStatus =
      rounds.length + 1 := by
    rw [List.countP_append, statuses_of_rounds]
    rfl
  have dispatches : (roundCalls budget rounds ++ exitCalls code).countP Call.isDispatch =
      rounds.length := by
    rw [List.countP_append, dispatches_of_rounds]
    rfl
  have served : servedBy (roundCalls budget rounds ++ exitCalls code) =
      servedBy (roundCalls budget rounds) := by
    simp [servedBy, exitCalls, Call.served]
  refine ⟨?_, ?_, nofun, ?_, ?_, ?_⟩
  · exact ⟨nofun, fun owned => absurd owned.1 (by simp [ended])⟩
  · exact ⟨nofun, fun unexited => absurd (unexited code) (by simp [exitCalls])⟩
  · rw [statuses]
    exact UInt64.toNat_ofNat_of_lt
  · rw [dispatches, statuses]
    rfl
  · rw [served]
    exact toNat_servedIn_rounds

theorem complete_of_exit (budget : UInt64) (rounds : List Round) (code : Option Int32) :
    Complete (roundCalls budget rounds ++ exitCalls code) where
  releasedOnce := by
    rw [List.count_append, List.count_eq_zero.2 (release_notMem_rounds budget rounds)]
    simp [exitCalls]
  releasedLast := ⟨roundCalls budget rounds ++ [.status (.exited code), .quit], by simp [exitCalls]⟩
  quitOnce := by
    rw [List.count_append, List.count_eq_zero.2 (quit_notMem_rounds budget rounds)]
    simp [exitCalls]
  quitThenReleased := fun _ =>
    ⟨roundCalls budget rounds ++ [.status (.exited code)], by simp [exitCalls]⟩
  quit_iff_exit := ⟨fun _ => ⟨code, by simp [exitCalls]⟩, fun _ => by simp [exitCalls]⟩

theorem complete_of_drop (budget : UInt64) {rounds : List Round}
    (goOn : ∀ r ∈ rounds, r.answer.isExit = false) :
    Complete (roundCalls budget rounds ++ [.release]) := by
  have unquit : Call.quit ∉ roundCalls budget rounds ++ [.release] := by
    simpa using quit_notMem_rounds budget rounds
  refine ⟨?_, ⟨_, rfl⟩, ?_, fun quit => absurd quit unquit, fun quit => absurd quit unquit, ?_⟩
  · rw [List.count_append, List.count_eq_zero.2 (release_notMem_rounds budget rounds)]
    simp
  · rw [List.count_eq_zero.2 unquit]
    omega
  · rintro ⟨code, exited⟩
    have inRounds : Call.status (.exited code) ∈ roundCalls budget rounds := by simpa using exited
    exact absurd inRounds (exit_notMem_rounds budget goOn code)

/-! ## Progress -/

/-- Where a supervisor can have got to, and what has happened meanwhile: some rounds, or all rounds
before the exit and the exit itself. -/
inductive Progress (b : Behaviour C M) (child : C) (pump : M) (config : SupervisorConfig) :
    Supervisor C M → List Happening → Prop where
  | rounds (n : Nat) (goesOn : ∀ i < n, (b.answer i child).isExit = false) :
      Progress b child pump config
        (watching (b.childAfter n child) (b.pumpAfter config.budget n pump) config (.ofNat n)
          (servedIn (b.rounds config.budget n child pump)))
        ((b.rounds config.budget n child pump).flatMap (roundHappenings config.budget))
  | exit (k : Nat) (code : Option Int32) (goesOn : ∀ i < k, (b.answer i child).isExit = false)
      (exits : b.answer k child = .exited code) :
      Progress b child pump config
        (ended (b.postQuit (b.pumpAfter config.budget k pump)) config (.ofNat (k + 1))
          (servedIn (b.rounds config.budget k child pump)) code)
        ((b.rounds config.budget k child pump).flatMap (roundHappenings config.budget) ++
          exitHappenings code (.ofNat (k + 1)))

section Progress

variable {b : Behaviour C M} {child : C} {pump : M} {config : SupervisorConfig}
  {s : Supervisor C M} {history : List Happening}

theorem progress_start : Progress b child pump config (.start child pump config) [] :=
  .rounds 0 fun i hi => absurd hi (Nat.not_lt_zero i)

theorem step_of_rounds {n : Nat} (goesOn : (b.answer n child).isExit = false)
    (world : World (List Moment)) :
    (watching (b.childAfter n child) (b.pumpAfter config.budget n pump) config (.ofNat n)
        (servedIn (b.rounds config.budget n child pump))).step b.services world =
      (watching (b.childAfter (n + 1) child) (b.pumpAfter config.budget (n + 1) pump) config
          (.ofNat (n + 1)) (servedIn (b.rounds config.budget (n + 1) child pump)),
        replay world (roundHappenings config.budget
          ⟨b.answer n child, b.count config.budget n pump⟩)) := by
  have total : servedIn (b.rounds config.budget (n + 1) child pump) =
      servedIn (b.rounds config.budget n child pump) + b.count config.budget n pump := by
    simp [b.rounds_succ_last, servedIn]
  have polls : UInt64.ofNat (n + 1) = UInt64.ofNat n + 1 := UInt64.ofNat_add n 1
  rw [Supervisor.step_round (b.poll_recorded _ world) goesOn (b.dispatch_recorded _ _ _ world),
    total, polls, b.childAfter_succ, b.pumpAfter_succ]
  rfl

theorem step_of_exit {k : Nat} {code : Option Int32} (exits : b.answer k child = .exited code)
    (world : World (List Moment)) :
    (watching (b.childAfter k child) (b.pumpAfter config.budget k pump) config (.ofNat k)
        (servedIn (b.rounds config.budget k child pump))).step b.services world =
      (ended (b.postQuit (b.pumpAfter config.budget k pump)) config (.ofNat (k + 1))
          (servedIn (b.rounds config.budget k child pump)) code,
        replay world (exitHappenings code (.ofNat (k + 1)))) := by
  have polled : b.services.poll (b.childAfter k child) world =
      ((.exited code, (b.poll (b.childAfter k child)).2),
        replay world [.call (.status (.exited code))]) := by
    rw [← exits]
    rfl
  have polls : UInt64.ofNat (k + 1) = UInt64.ofNat k + 1 := UInt64.ofNat_add k 1
  rw [Supervisor.step_exit polled, polls]
  rfl

/-- One step keeps to the progress, and what it does is the same in every world. -/
theorem Progress.step (progress : Progress b child pump config s history) :
    ∃ s' more, (∀ world, s.step b.services world = (s', replay world more)) ∧
      Progress b child pump config s' (history ++ more) := by
  cases progress with
  | rounds n goesOn =>
    cases exits : b.answer n child with
    | exited code =>
      exact ⟨_, _, step_of_exit exits, .exit n code goesOn exits⟩
    | active | failed reason =>
      have goesOn' : (b.answer n child).isExit = false := by rw [exits]; rfl
      refine ⟨_, _, step_of_rounds goesOn', ?_⟩
      have more : Progress b child pump config _ _ := .rounds (n + 1) fun i hi => by
        rcases Nat.lt_succ_iff_lt_or_eq.1 hi with earlier | rfl
        · exact goesOn i earlier
        · exact goesOn'
      simpa [b.rounds_succ_last] using more
  | exit k code goesOn exits =>
    exact ⟨_, [], fun world => by rw [Supervisor.step_of_terminated rfl]; rfl,
      by rw [List.append_nil]; exact .exit k code goesOn exits⟩

theorem rounds_goOn {b : Behaviour C M} {child : C} (pump : M) (config : SupervisorConfig) {n : Nat}
    (goesOn : ∀ i < n, (b.answer i child).isExit = false) :
    ∀ r ∈ b.rounds config.budget n child pump, r.answer.isExit = false := by
  intro r hr
  obtain ⟨i, hi, rfl⟩ := List.mem_map.1 hr
  exact goesOn i (List.mem_range.1 hi)

theorem Progress.accounts (progress : Progress b child pump config s history) :
    Accounts s (callsOf history) := by
  cases progress with
  | rounds n goesOn =>
    have accounts := accounts_of_rounds (b.childAfter n child)
      (b.pumpAfter config.budget n pump) config config.budget (rounds_goOn pump config goesOn)
    rwa [Behaviour.length_rounds, ← callsOf_rounds] at accounts
  | exit k code goesOn exits =>
    have accounts := accounts_of_exit C (b.postQuit (b.pumpAfter config.budget k pump)) config
      config.budget (b.rounds config.budget k child pump) code
    rw [Behaviour.length_rounds, ← callsOf_rounds] at accounts
    rw [callsOf_append]
    exact accounts

/-! ## Operations -/

/-- Reading a supervisor leaves it and the world alone, and a step keeps to the progress. -/
theorem Progress.perform (progress : Progress b child pump config s history)
    (operation : Operation) (world : World (List Moment)) :
    ∃ answer s' more, s.perform b.services operation world = ((answer, s'), replay world more) ∧
      Progress b child pump config s' (history ++ more) := by
  cases operation with
  | step =>
    obtain ⟨s', more, stepped, progress'⟩ := progress.step
    refine ⟨.phase s'.phase, s', more, ?_, progress'⟩
    rw [Supervisor.perform, acting_bind, stepped]
    rfl
  | phase => exact ⟨_, s, [], rfl, by rwa [List.append_nil]⟩
  | outcome => exact ⟨_, s, [], rfl, by rwa [List.append_nil]⟩
  | pump => exact ⟨_, s, [], rfl, by rwa [List.append_nil]⟩

/-- Any operations keep to the progress. -/
theorem Progress.performAll (progress : Progress b child pump config s history)
    (operations : List Operation) (world : World (List Moment)) :
    ∃ answers s' more,
      s.performAll b.services operations world = ((answers, s'), replay world more) ∧
      Progress b child pump config s' (history ++ more) := by
  induction operations generalizing s history world with
  | nil => exact ⟨[], s, [], rfl, by rwa [List.append_nil]⟩
  | cons operation rest ih =>
    obtain ⟨answer, s₁, first, performed, progress₁⟩ := progress.perform operation world
    obtain ⟨answers, s₂, later, done, progress₂⟩ := ih progress₁ (replay world first)
    refine ⟨answer :: answers, s₂, first ++ later, ?_, by rwa [← List.append_assoc]⟩
    rw [Supervisor.performAll, acting_bind, performed]
    change (let r := s₁.performAll b.services rest (replay world first)
      ((answer :: r.1.1, r.1.2), r.2)) = _
    rw [done, replay_append]

/-! ## Closing -/

theorem close_drop (services : Services (List Moment) C M) (s : Supervisor C M)
    (world : World (List Moment)) :
    s.close services .drop world = some (none, (s.release services world).2) := rfl

theorem close_run (services : Services (List Moment) C M) (s : Supervisor C M)
    (world : World (List Moment)) :
    s.close services .run world = (s.run services world).map fun r => (some r.1, r.2) := by
  rw [Supervisor.close, waiting_bind, Option.map_eq_bind]
  rfl

theorem Progress.steps (progress : Progress b child pump config s history) (n : Nat) :
    ∃ s' more, (∀ world, s.steps b.services n world = (s', replay world more)) ∧
      Progress b child pump config s' (history ++ more) := by
  induction n generalizing s history with
  | zero => exact ⟨s, [], fun world => rfl, by rwa [List.append_nil]⟩
  | succ n ih =>
    obtain ⟨s₁, first, stepped, progress₁⟩ := progress.step
    obtain ⟨s₂, later, done, progress₂⟩ := ih progress₁
    refine ⟨s₂, first ++ later, fun world => ?_, by rwa [← List.append_assoc]⟩
    rw [Supervisor.steps_succ, stepped, done, replay_append]

/-- A supervisor that has terminated has none to release, and its calls are complete. -/
theorem Progress.complete (progress : Progress b child pump config s history)
    (terminated : s.phase = .terminated) :
    s.child = none ∧ Complete (callsOf history) ∧ ∃ n code, b.answer n child = .exited code := by
  cases progress with
  | rounds n goesOn => cases terminated
  | exit k code goesOn exits =>
    refine ⟨rfl, ?_, k, code, exits⟩
    rw [callsOf_append, callsOf_rounds]
    exact complete_of_exit config.budget _ code

/-- What a run leaves when it ends: a terminated supervisor, whose child has been seen to exit. -/
theorem Progress.run (progress : Progress b child pump config s history)
    {world after : World (List Moment)} {outcome : Outcome}
    (ran : s.run b.services world = some (outcome, after)) :
    ∃ s' more, outcome = s'.outcome ∧ s'.phase = .terminated ∧
      after = replay world (.event (startEvent s.config) :: more) ∧
      Progress b child pump config s' (history ++ more) := by
  rw [Supervisor.run_eq, Option.map_eq_some_iff] at ran
  obtain ⟨⟨s', world'⟩, watched, result⟩ := ran
  obtain ⟨terminated, n, reached⟩ := Supervisor.watch_eq_some_iff.1 watched
  obtain ⟨s'', more, stepped, progress'⟩ := progress.steps (n + 1)
  rw [stepped] at reached
  obtain ⟨rfl, rfl⟩ := Prod.mk.inj reached
  have released : s''.release b.services (replay (world.noteAll [startEvent s.config]) more) =
      ((), replay (world.noteAll [startEvent s.config]) more) := by
    rw [Supervisor.release, (progress'.complete terminated).1]
    rfl
  rw [released] at result
  obtain ⟨rfl, rfl⟩ := Prod.mk.inj result
  exact ⟨s'', more, rfl, terminated, rfl, progress'⟩

theorem childAfter_add (b : Behaviour C M) (n m : Nat) (child : C) :
    b.childAfter (n + m) child = b.childAfter m (b.childAfter n child) := by
  induction n generalizing child with
  | zero => rw [Nat.zero_add]; rfl
  | succ n ih =>
    rw [Nat.succ_add]
    exact ih (b.poll child).2

/-- A run ends exactly when the child exits. -/
theorem Progress.run_ends_iff (progress : Progress b child pump config s history)
    (world : World (List Moment)) :
    (∃ result, s.run b.services world = some result) ↔
      ∃ n code, b.answer n child = .exited code := by
  constructor
  · rintro ⟨⟨outcome, after⟩, ran⟩
    obtain ⟨s', more, -, terminated, -, progress'⟩ := progress.run ran
    exact (progress'.complete terminated).2.2
  · rintro ⟨m, code, exits⟩
    cases progress with
    | exit k code goesOn exits =>
      rw [Supervisor.run_eq]
      exact ⟨_, by rw [Supervisor.watch_eq, Supervisor.step_of_terminated rfl]; rfl⟩
    | rounds n goesOn =>
      have later : n ≤ m := by
        refine Nat.le_of_not_lt fun earlier => ?_
        have running := goesOn m earlier
        rw [exits] at running
        cases running
      have exits' : b.answer (m - n) (b.childAfter n child) = .exited code := by
        rw [Behaviour.answer, ← childAfter_add, Nat.add_sub_cancel' later]
        exact exits
      obtain ⟨k, code', before, answer⟩ := Behaviour.exists_first_exit ⟨_, _, exits'⟩
      exact ⟨_, run_of_answers b _ config world before answer _ _⟩

theorem Progress.run_eq_none (progress : Progress b child pump config s history)
    (runs : ∀ n code, b.answer n child ≠ .exited code) (world : World (List Moment)) :
    s.run b.services world = none := by
  have endless := (progress.run_ends_iff world).not.2 (by simpa using runs)
  exact Option.eq_none_iff_forall_ne_some.2 fun result ran => endless ⟨result, ran⟩

/-- What is left of a dropped supervisor: the release of the child, if it was still there. -/
theorem Progress.drop (progress : Progress b child pump config s history)
    (world : World (List Moment)) :
    ∃ more, s.release b.services world = ((), replay world more) ∧
      Complete (callsOf (history ++ more)) := by
  cases progress with
  | rounds n goesOn =>
    refine ⟨[.call .release], rfl, ?_⟩
    rw [callsOf_append, callsOf_rounds]
    exact complete_of_drop config.budget (rounds_goOn pump config goesOn)
  | exit k code goesOn exits =>
    refine ⟨[], rfl, ?_⟩
    rw [List.append_nil]
    exact ((Progress.exit k code goesOn exits : Progress b child pump config _ _).complete rfl).2.1

/-- When the use of a supervisor has ended, its calls are complete, and the outcome of a run is that
of a terminated supervisor. -/
theorem Progress.close (progress : Progress b child pump config s history) {closing : Closing}
    {world after : World (List Moment)} {outcome : Option Outcome}
    (closed : s.close b.services closing world = some (outcome, after)) :
    ∃ more, after = replay world more ∧ Complete (callsOf (history ++ more)) ∧
      ∀ o, outcome = some o → ∃ s' : Supervisor C M, o = s'.outcome ∧
        s'.phase = .terminated ∧ Accounts s' (callsOf (history ++ more)) := by
  cases closing with
  | drop =>
    obtain ⟨more, released, complete⟩ := progress.drop world
    rw [close_drop, released] at closed
    obtain ⟨rfl, rfl⟩ := Prod.mk.inj (Option.some.inj closed)
    refine ⟨more, rfl, complete, ?_⟩
    intro o same
    cases same
  | run =>
    rw [close_run, Option.map_eq_some_iff] at closed
    obtain ⟨⟨o, world'⟩, ran, result⟩ := closed
    obtain ⟨s', more, rfl, terminated, rfl, progress'⟩ := progress.run ran
    obtain ⟨rfl, rfl⟩ := Prod.mk.inj result
    have calls : callsOf (history ++ .event (startEvent s.config) :: more) =
        callsOf (history ++ more) := by simp
    refine ⟨.event (startEvent s.config) :: more, rfl, ?_, ?_⟩
    · rw [calls]
      exact (progress'.complete terminated).2.1
    · intro o same
      obtain rfl := Option.some.inj same
      rw [calls]
      exact ⟨s', rfl, terminated, progress'.accounts⟩

end Progress

/-! ## From the start to the end -/

theorem performAll_of_terminated {services : Services (List Moment) C M} {s : Supervisor C M}
    (terminated : s.phase = .terminated) (operations : List Operation)
    (world : World (List Moment)) :
    ∃ answers, s.performAll services operations world = ((answers, s), world) := by
  induction operations with
  | nil => exact ⟨[], rfl⟩
  | cons operation rest ih =>
    obtain ⟨answers, done⟩ := ih
    have performed : ∃ answer, s.perform services operation world = ((answer, s), world) := by
      cases operation with
      | step =>
        refine ⟨.phase s.phase, ?_⟩
        rw [Supervisor.perform, Supervisor.step_of_terminated terminated]
        rfl
      | phase | outcome | pump => exact ⟨_, rfl⟩
    obtain ⟨answer, performed⟩ := performed
    refine ⟨answer :: answers, ?_⟩
    rw [Supervisor.performAll, acting_bind, performed]
    change (let r := s.performAll services rest world; ((answer :: r.1.1, r.1.2), r.2)) = _
    rw [done]

theorem run_of_terminated {services : Services (List Moment) C M} {s : Supervisor C M}
    (terminated : s.phase = .terminated) (gone : s.child = none) (world : World (List Moment)) :
    s.run services world = some (s.outcome, replay world [.event (startEvent s.config)]) := by
  have stopped : s.watch services (world.noteAll [startEvent s.config]) =
      some (s, world.noteAll [startEvent s.config]) :=
    Supervisor.watch_eq_some_iff.2 ⟨terminated, 0, Supervisor.steps_of_terminated terminated _ _⟩
  rw [Supervisor.run_eq, stopped, Option.map_some, Supervisor.release, gone]
  rfl

theorem Progress.config_eq {b : Behaviour C M} {child : C} {pump : M} {config : SupervisorConfig}
    {s : Supervisor C M} {history : List Happening}
    (progress : Progress b child pump config s history) : s.config = config := by
  cases progress <;> rfl

/-- A run comes to the same and does the same in every world, or it never ends in any. -/
theorem run_everywhere (b : Behaviour C M) (child : C) (pump : M) (config : SupervisorConfig) :
    (∀ world, (Supervisor.start child pump config).run b.services world = none) ∨
      ∃ outcome history, ∀ world,
        (Supervisor.start child pump config).run b.services world =
          some (outcome, replay world history) := by
  by_cases exits : ∃ n code, b.answer n child = .exited code
  · obtain ⟨k, code, goesOn, exit⟩ := Behaviour.exists_first_exit exits
    exact .inr ⟨_, _, fun world => run_of_answers b pump config world goesOn exit 0 0⟩
  · have runs : ∀ n code, b.answer n child ≠ .exited code := by
      simpa using exits
    exact .inl fun world => progress_start.run_eq_none runs world

/-- **The life of a supervisor.** After any operations on a new supervisor its accounts hold. Once
it has terminated, it does nothing any more, not even when it is run or dropped. When its use ends,
by a drop or by a run that comes to its end, the calls of its life are complete; a drop always comes
to its end, and a run exactly when the child exits some day. -/
theorem supervisor_life (b : Behaviour C M) (child : C) (pump : M) (config : SupervisorConfig)
    (world : World (List Moment)) (operations : List Operation) :
    ∃ answers s history,
      (Supervisor.start child pump config).performAll b.services operations world =
        ((answers, s), replay world history) ∧
      Accounts s (callsOf history) ∧
      (s.phase = .terminated →
        (∀ more, ∃ answers', s.performAll b.services more (replay world history) =
          ((answers', s), replay world history)) ∧
        s.close b.services .drop (replay world history) = some (none, replay world history) ∧
        s.close b.services .run (replay world history) =
          some (some s.outcome, replay world (history ++ [.event (startEvent config)]))) ∧
      (∀ closing outcome after,
        s.close b.services closing (replay world history) = some (outcome, after) →
        ∃ more, after = replay world (history ++ more) ∧ Complete (callsOf (history ++ more)) ∧
          ∀ o, outcome = some o → ∃ s' : Supervisor C M, o = s'.outcome ∧
            s'.phase = .terminated ∧ Accounts s' (callsOf (history ++ more))) ∧
      (∃ result, s.close b.services .drop (replay world history) = some result) ∧
      ((∃ result, s.close b.services .run (replay world history) = some result) ↔
        ∃ n code, b.answer n child = .exited code) := by
  have started : Progress b child pump config (.start child pump config) [] := progress_start
  obtain ⟨answers, s, history, performed, progress⟩ := started.performAll operations world
  rw [List.nil_append] at progress
  refine ⟨answers, s, history, performed, progress.accounts, ?_, ?_, ?_, ?_⟩
  · intro terminated
    obtain ⟨gone, -, -⟩ := progress.complete terminated
    refine ⟨fun more => performAll_of_terminated terminated more _, ?_, ?_⟩
    · rw [close_drop, Supervisor.release, gone]
      rfl
    · rw [close_run, run_of_terminated terminated gone, progress.config_eq, replay_append]
      rfl
  · intro closing outcome after closed
    obtain ⟨more, rfl, complete, ends⟩ := progress.close closed
    exact ⟨more, (replay_append _ _ _).symm, complete, ends⟩
  · exact ⟨_, close_drop b.services s _⟩
  · rw [← progress.run_ends_iff (replay world history), close_run]
    constructor
    · rintro ⟨result, closed⟩
      obtain ⟨r, ran, -⟩ := Option.map_eq_some_iff.1 closed
      exact ⟨r, ran⟩
    · rintro ⟨r, ran⟩
      exact ⟨_, Option.map_eq_some_iff.2 ⟨r, ran, rfl⟩⟩

end AppLauncher.Scripted
