import AppLauncher.Proofs.Supervision.Life

/-!
# Stepping and running

A run is nothing but steps until the child has been seen to exit, with one event before them. So it
does not matter how many of these steps were made by hand before, and a run gives what stepping by
hand until a step answers `terminated` gives.

**`run_of_stepped`** says both, for every supervisor that can come about. It rests on
`run_eq_some_iff_steps`, which takes a run apart into the first steps that end it.
-/

namespace AppLauncher.Scripted

open Supervisor (startEvent exitEvent Operation)

variable {C M : Type}

/-! ## Operations in a row -/

section Operations

variable (services : Services (List Moment) C M) (s : Supervisor C M) (world : World (List Moment))

theorem performAll_append (operations more : List Operation) :
    s.performAll services (operations ++ more) world =
      let first := s.performAll services operations world
      let later := first.1.2.performAll services more first.2
      ((first.1.1 ++ later.1.1, later.1.2), later.2) := by
  induction operations generalizing s world with
  | nil => rfl
  | cons operation rest ih =>
    rw [List.cons_append, Supervisor.performAll, acting_bind]
    change (let first := s.perform services operation world
      let later := first.1.2.performAll services (rest ++ more) first.2
      ((first.1.1 :: later.1.1, later.1.2), later.2)) = _
    dsimp only
    rw [ih]
    rfl

/-- So many steps, each of which answers how far the supervisor is then. -/
theorem performAll_steps (n : Nat) :
    s.performAll services (List.replicate n .step) world =
      (((List.range n).map fun i => .phase (s.steps services (i + 1) world).1.phase,
        (s.steps services n world).1), (s.steps services n world).2) := by
  induction n with
  | zero => rfl
  | succ n ih =>
    have last := Supervisor.steps_add services n 1 s world
    rw [List.replicate_succ', performAll_append, ih, List.range_succ, List.map_append,
      List.map_singleton, last]
    rfl

/-- Stepping until a step answers that the supervisor has terminated, and looking at the outcome
then. -/
theorem performAll_until (n : Nat) :
    s.performAll services (List.replicate n .step ++ [.step, .outcome]) world =
      (((List.range (n + 1)).map (fun i => .phase (s.steps services (i + 1) world).1.phase) ++
          [.outcome (s.steps services (n + 1) world).1.outcome],
        (s.steps services (n + 1) world).1), (s.steps services (n + 1) world).2) := by
  have shape : List.replicate n Operation.step ++ [.step, .outcome] =
      List.replicate (n + 1) .step ++ [.outcome] := by
    rw [List.replicate_succ', List.append_assoc]
    rfl
  rw [shape, performAll_append, performAll_steps]
  rfl

/-- The answers of so many steps, the last of which terminates the supervisor. -/
theorem answers_until_iff {phaseAfter : Nat → Phase} {n : Nat} {outcome outcome' : Outcome} :
    ((List.range (n + 1)).map (fun i => .phase (phaseAfter i)) ++ [.outcome outcome] :
        List (Supervisor.Answer M)) =
      List.replicate n (.phase .running) ++ [.phase .terminated, .outcome outcome'] ↔
    (∀ i < n, phaseAfter i = .running) ∧ phaseAfter n = .terminated ∧ outcome = outcome' := by
  rw [List.range_succ, List.map_append, List.append_assoc]
  constructor
  · intro same
    obtain ⟨early, late⟩ := List.append_inj same (by simp)
    have running := List.eq_replicate_iff.1 early
    simp only [List.map_singleton, List.singleton_append, List.cons.injEq,
      Supervisor.Answer.phase.injEq, Supervisor.Answer.outcome.injEq, and_true] at late
    refine ⟨fun i before => ?_, late⟩
    simpa using running.2 _ (List.mem_map_of_mem (List.mem_range.2 before))
  · rintro ⟨running, terminated, rfl⟩
    have early : (List.range n).map (fun i => (.phase (phaseAfter i) : Supervisor.Answer M)) =
        List.replicate n (.phase .running) := by
      refine List.eq_replicate_iff.2 ⟨by simp, fun answer among => ?_⟩
      obtain ⟨i, below, rfl⟩ := List.mem_map.1 among
      rw [running i (List.mem_range.1 below)]
    rw [early, List.map_singleton, terminated]
    rfl

end Operations

/-! ## The steps of a run -/

section Run

variable {b : Behaviour C M} {child : C} {pump : M} {config : SupervisorConfig}
  {s s' : Supervisor C M} {history more : List Happening}

/-- A supervisor that some steps terminate is run by making them. -/
theorem Progress.run_of_steps (progress : Progress b child pump config s history) {n : Nat}
    (stepped : ∀ world, s.steps b.services n world = (s', replay world more))
    (terminated : s'.phase = .terminated) (world : World (List Moment)) :
    s.run b.services world =
      some (s'.outcome, replay world (.event (startEvent config) :: more)) := by
  obtain ⟨s'', more', stepped', progress'⟩ := progress.steps n
  obtain ⟨rfl, -⟩ := Prod.mk.inj ((stepped world).symm.trans (stepped' world))
  have gone : s'.child = none := (progress'.complete terminated).1
  have oneMore : s.steps b.services (n + 1) (world.noteAll [startEvent s.config]) =
      (s', replay (world.noteAll [startEvent s.config]) more) := by
    rw [Supervisor.steps_add, stepped, Supervisor.steps_of_terminated terminated]
  have watched : s.watch b.services (world.noteAll [startEvent s.config]) =
      some (s', replay (world.noteAll [startEvent s.config]) more) :=
    Supervisor.watch_eq_some_iff.2 ⟨terminated, n, oneMore⟩
  rw [Supervisor.run_eq, watched, Option.map_some, Supervisor.release, gone, progress.config_eq]
  rfl

/-- A run has a result exactly when some step is the first one that terminates the supervisor, and
then it is the outcome after this step. -/
theorem Progress.run_eq_some_iff_steps (progress : Progress b child pump config s history)
    (world final : World (List Moment)) (outcome : Outcome) :
    s.run b.services world = some (outcome, final) ↔
      ∃ n s' more, (∀ w, s.steps b.services (n + 1) w = (s', replay w more)) ∧
        (∀ i < n, (s.steps b.services (i + 1) world).1.phase = .running) ∧
        s'.phase = .terminated ∧ outcome = s'.outcome ∧
        final = replay world (.event (startEvent config) :: more) := by
  constructor
  · intro ran
    have ends : ∃ n, (s.steps b.services (n + 1) world).1.phase = .terminated := by
      obtain ⟨s', more, -, terminated, -, -⟩ := progress.run ran
      rw [Supervisor.run_eq, Option.map_eq_some_iff] at ran
      obtain ⟨result, watched, -⟩ := ran
      obtain ⟨terminated, n, reached⟩ := Supervisor.watch_eq_some_iff.1 watched
      obtain ⟨s'', more', stepped, -⟩ := progress.steps (n + 1)
      rw [stepped] at reached
      refine ⟨n, ?_⟩
      rw [stepped, ← terminated, ← reached]
    obtain ⟨s', more, stepped, -⟩ := progress.steps (Nat.find ends + 1)
    have terminated : s'.phase = .terminated := by
      have found := Nat.find_spec ends
      rwa [stepped] at found
    have before : ∀ i < Nat.find ends, (s.steps b.services (i + 1) world).1.phase = .running := by
      intro i earlier
      have unended := Nat.find_min ends earlier
      cases phase : (s.steps b.services (i + 1) world).1.phase with
      | running => rfl
      | terminated => exact absurd phase unended
    have ran' := progress.run_of_steps stepped terminated world
    obtain ⟨rfl, rfl⟩ := Prod.mk.inj (Option.some.inj (ran.symm.trans ran'))
    exact ⟨_, s', more, stepped, before, terminated, rfl, rfl⟩
  · rintro ⟨n, s', more, stepped, -, terminated, rfl, rfl⟩
    exact progress.run_of_steps stepped terminated world

/-- A supervisor of a child that exits some day is terminated by some number of steps. -/
theorem Progress.exists_terminated (progress : Progress b child pump config s history)
    (exits : ∃ n code, b.answer n child = .exited code) :
    ∃ n s' more, (∀ w, s.steps b.services n w = (s', replay w more)) ∧ s'.phase = .terminated ∧
      Progress b child pump config s' (history ++ more) := by
  let world : World (List Moment) := ⟨.empty, .live [], ⟨[]⟩, [], []⟩
  obtain ⟨⟨outcome, final⟩, ran⟩ := (progress.run_ends_iff world).2 exits
  obtain ⟨n, s', _, ended, -, terminated, -, -⟩ :=
    (progress.run_eq_some_iff_steps world final outcome).1 ran
  obtain ⟨s'', more, stepped, progress'⟩ := progress.steps (n + 1)
  obtain ⟨rfl, -⟩ := Prod.mk.inj ((ended world).symm.trans (stepped world))
  exact ⟨n + 1, s', more, stepped, terminated, progress'⟩

end Run

/-! ## The line about the start -/

theorem startText_ne_exitText (config : SupervisorConfig) (code : Option Int32) (polls : UInt64) :
    Supervisor.startText config ≠ Supervisor.exitText code polls := by
  unfold Supervisor.startText Supervisor.exitText
  generalize config.milliseconds = interval
  intro same
  have first : "supervising child process, polling every ".toList.head? = some 's' := by decide
  have coded : "child process exited with code ".toList.head? = some 'c' := by decide
  have uncoded : "child process exited without a code after ".toList.head? = some 'c' := by decide
  have heads := congrArg (fun text : String => text.toList.head?) same
  cases code <;>
    simp only [toString, String.toList_append, List.head?_append, first, coded, uncoded,
      Option.some_or, Option.some.injEq, Char.reduceEq] at heads

/-- The line about the start of a supervision is none of those about its course. -/
theorem Progress.startEvent_notMem {b : Behaviour C M} {child : C} {pump : M}
    {config : SupervisorConfig} {s : Supervisor C M} {history : List Happening}
    (progress : Progress b child pump config s history) :
    startEvent config ∉ eventsOf history := by
  have inRounds : ∀ rounds : List Round,
      startEvent config ∉ eventsOf (rounds.flatMap (roundHappenings config.budget)) := by
    intro rounds
    induction rounds with
    | nil => exact List.not_mem_nil
    | cons r rest ih =>
      rw [List.flatMap_cons, eventsOf_append, List.mem_append, not_or]
      refine ⟨?_, ih⟩
      rw [roundHappenings_eq]
      cases r.answer <;> simp [startEvent]
  have inExit : ∀ code polls, startEvent config ∉ eventsOf (exitHappenings code polls) := by
    intro code polls among
    refine startText_ne_exitText config code polls ?_
    simpa [exitHappenings, startEvent, exitEvent] using among
  cases progress with
  | rounds n goesOn => exact inRounds _
  | exit k code goesOn exits =>
    rw [eventsOf_append, List.mem_append, not_or]
    exact ⟨inRounds _, inExit _ _⟩

/-! ## Steps before a run -/

/-- **Stepping and running.** For a child that exits some day, so many steps by hand and then a run
come to what a run at once comes to: the same outcome, and the same calls and events in the same
order, but for the place of the one event about the start. It does not matter whether one of these
steps has seen the exit. And whatever was done with a supervisor before, its run comes to a result
exactly when stepping it by hand comes to a step that answers `terminated`; the result is the
outcome that is read then, and the run makes the calls and tells the events of these steps. -/
theorem run_of_stepped (b : Behaviour C M) (child : C) (pump : M) (config : SupervisorConfig)
    (world : World (List Moment)) :
    ((∃ n code, b.answer n child = .exited code) →
      ∀ m, ∃ s outcome before after,
        (Supervisor.start child pump config).run b.services world =
          some (outcome, replay world (.event (startEvent config) :: (before ++ after))) ∧
        (Supervisor.start child pump config).steps b.services m world = (s, replay world before) ∧
        s.run b.services (replay world before) =
          some (outcome, replay world (before ++ .event (startEvent config) :: after)) ∧
        startEvent config ∉ eventsOf (before ++ after)) ∧
    ∀ operations, ∃ answers s history,
      (Supervisor.start child pump config).performAll b.services operations world =
        ((answers, s), replay world history) ∧
      ∀ outcome final,
        s.run b.services (replay world history) = some (outcome, final) ↔
          ∃ n s' more,
            s.performAll b.services (List.replicate n .step ++ [.step, .outcome])
                (replay world history) =
              ((List.replicate n (.phase .running) ++ [.phase .terminated, .outcome outcome], s'),
                replay world (history ++ more)) ∧
            final = replay world (history ++ .event (startEvent config) :: more) := by
  have started : Progress b child pump config (.start child pump config) [] := progress_start
  constructor
  · intro exits m
    obtain ⟨s, before, stepped, progress⟩ := started.steps m
    obtain ⟨n, s', after, ended, terminated, progress'⟩ := progress.exists_terminated exits
    have whole : ∀ w, (Supervisor.start child pump config).steps b.services (m + n) w =
        (s', replay w (before ++ after)) := by
      intro w
      rw [Supervisor.steps_add, stepped, ended, replay_append]
    refine ⟨s, s'.outcome, before, after, started.run_of_steps whole terminated world,
      stepped world, ?_, progress'.startEvent_notMem⟩
    rw [progress.run_of_steps ended terminated, replay_append]
  · intro operations
    obtain ⟨answers, s, history, performed, progress⟩ := started.performAll operations world
    refine ⟨answers, s, history, performed, fun outcome final => ?_⟩
    rw [progress.run_eq_some_iff_steps]
    constructor
    · rintro ⟨n, s', more, stepped, before, terminated, rfl, rfl⟩
      refine ⟨n, s', more, ?_, by rw [replay_append]⟩
      have phase : (s.steps b.services (n + 1) (replay world history)).1.phase = .terminated := by
        rw [stepped]
        exact terminated
      rw [performAll_until, answers_until_iff.2 ⟨before, phase, rfl⟩, stepped, replay_append]
    · rintro ⟨n, s', more, answered, rfl⟩
      rw [performAll_until] at answered
      obtain ⟨first, reached⟩ := Prod.mk.inj answered
      obtain ⟨sameAnswers, rfl⟩ := Prod.mk.inj first
      obtain ⟨before, phase, rfl⟩ := answers_until_iff.1 sameAnswers
      obtain ⟨s', more', stepped, -⟩ := progress.steps (n + 1)
      rw [stepped, replay_append] at reached
      obtain rfl := replay_injective _ reached
      rw [stepped] at phase ⊢
      exact ⟨n, s', more', stepped, before, phase, rfl, by rw [replay_append]⟩

/-- A child that has exited with 7 when it is asked for the second time: one step by hand, and then
a run. -/
theorem run_of_stepped_of_active :
    ∃ s outcome before after,
      (Supervisor.start [.active, .exited (some 7)] (Pump.ofSource .silent) .default).run
          listed.services ⟨.empty, .live [], ⟨[]⟩, [], []⟩ =
        some (outcome, replay ⟨.empty, .live [], ⟨[]⟩, [], []⟩
          (.event (startEvent .default) :: (before ++ after))) ∧
      (Supervisor.start [.active, .exited (some 7)] (Pump.ofSource .silent) .default).steps
          listed.services 1 ⟨.empty, .live [], ⟨[]⟩, [], []⟩ =
        (s, replay ⟨.empty, .live [], ⟨[]⟩, [], []⟩ before) ∧
      s.run listed.services (replay ⟨.empty, .live [], ⟨[]⟩, [], []⟩ before) =
        some (outcome, replay ⟨.empty, .live [], ⟨[]⟩, [], []⟩
          (before ++ .event (startEvent .default) :: after)) ∧
      startEvent .default ∉ eventsOf (before ++ after) :=
  (run_of_stepped listed [.active, .exited (some 7)] (.ofSource .silent) .default
    ⟨.empty, .live [], ⟨[]⟩, [], []⟩).1 ⟨1, some 7, rfl⟩ 1

end AppLauncher.Scripted
