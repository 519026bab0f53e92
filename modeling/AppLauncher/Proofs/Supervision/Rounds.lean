import AppLauncher.Proofs.Steps
import AppLauncher.Supervisor
import Mathlib

/-!
# The rounds of a supervision

A supervision goes through rounds, each of them a poll that did not see the exit and a serving of
events, until a poll sees the exit. `Rounds` says which rounds there are, for any services, whatever
they do to the world meanwhile; `Exits` says that a poll sees the exit in the end.

What no service destroys holds after a run as well (`Keeps.run`).

`run_of_rounds` gives what a run comes to from its rounds. `watch_eq_some_iff` says that watching
ends exactly when some number of steps ends it, so a child that never exits is watched for ever.
-/

namespace AppLauncher

/-- Whether an answer says that the child has exited. -/
def Poll.isExit : Poll → Bool
  | exited _ => true
  | _ => false

/-- What the log is told about an answer: a warning if the poll failed. -/
def Poll.warnings : Poll → List Event
  | failed reason => [⟨.warn, .supervisor, Supervisor.failureText reason⟩]
  | _ => []

/-- A round of a supervision that goes on: what the child answered, and how many events were served
then. -/
structure Round where
  answer : Poll
  served : UInt64
  deriving DecidableEq, Repr

namespace Supervisor

variable {σ C M : Type}

/-- A supervisor of a child that has not been seen to exit. -/
def watching (child : C) (pump : M) (config : SupervisorConfig) (polls dispatched : UInt64) :
    Supervisor C M :=
  ⟨some child, pump, config, .running, polls, dispatched, none⟩

/-- A supervisor whose child has been seen to exit. -/
def ended (pump : M) (config : SupervisorConfig) (polls dispatched : UInt64)
    (code : Option Int32) : Supervisor C M :=
  ⟨none, pump, config, .terminated, polls, dispatched, code⟩

theorem start_eq_watching (child : C) (pump : M) (config : SupervisorConfig) :
    start child pump config = watching child pump config 0 0 := rfl

/-- The first event of a supervision. -/
def startEvent (config : SupervisorConfig) : Event :=
  ⟨.info, .supervisor, startText config⟩

/-- The last event of a supervision. -/
def exitEvent (code : Option Int32) (polls : UInt64) : Event :=
  ⟨.info, .supervisor, exitText code polls⟩

/-! ## One step -/

section Step

variable {services : Services σ C M} {child child₁ : C} {pump pump₁ : M}
  {config : SupervisorConfig} {polls dispatched : UInt64} {world world₁ world₂ : World σ}

theorem step_round {answer : Poll} {count : UInt64}
    (polled : services.poll child world = ((answer, child₁), world₁))
    (goesOn : answer.isExit = false)
    (served : services.dispatch pump config.budget (world₁.noteAll answer.warnings) =
      ((count, pump₁), world₂)) :
    (watching child pump config polls dispatched).step services world =
      (watching child₁ pump₁ config (polls + 1) (dispatched + count), world₂) := by
  simp only [step, watching, acting_bind, polled]
  cases answer with
  | exited code => cases goesOn
  | active =>
    simp only [Poll.warnings, World.noteAll_nil] at served
    simp only [follow, serve, acting_bind, served]
    rfl
  | failed reason =>
    simp only [follow, note, acting_bind, acting_noteAll, serve]
    simp only [Poll.warnings] at served
    rw [served]
    rfl

/-- A poll that sees the exit ends the supervision: the queue is told to quit, then the child is
released, then the log is told. -/
theorem step_exit {code : Option Int32}
    (polled : services.poll child world = ((.exited code, child₁), world₁)) :
    (watching child pump config polls dispatched).step services world =
      (ended (services.postQuit pump world₁).1 config (polls + 1) dispatched code,
        (services.release child₁ (services.postQuit pump world₁).2).2.noteAll
          [exitEvent code (polls + 1)]) := by
  simp only [step, watching, acting_bind, polled, follow, terminate, release, note,
    acting_noteAll]
  rfl

end Step

/-! ## Many steps -/

/-- So many steps in a row. -/
def steps (services : Services σ C M) : Nat → Supervisor C M → Acting σ (Supervisor C M)
  | 0, s => return s
  | n + 1, s => do
    let s ← s.step services
    s.steps services n

theorem steps_zero (services : Services σ C M) (s : Supervisor C M) (world : World σ) :
    s.steps services 0 world = (s, world) := rfl

theorem steps_succ (services : Services σ C M) (n : Nat) (s : Supervisor C M) (world : World σ) :
    s.steps services (n + 1) world =
      (s.step services world).1.steps services n (s.step services world).2 := rfl

theorem steps_add (services : Services σ C M) (n m : Nat) (s : Supervisor C M)
    (world : World σ) :
    s.steps services (n + m) world =
      (s.steps services n world).1.steps services m (s.steps services n world).2 := by
  induction n generalizing s world with
  | zero => rw [Nat.zero_add, steps_zero]
  | succ n ih => rw [Nat.succ_add, steps_succ, ih, steps_succ]

theorem steps_of_terminated {services : Services σ C M} {s : Supervisor C M}
    (ended : s.phase = .terminated) (n : Nat) (world : World σ) :
    s.steps services n world = (s, world) := by
  induction n with
  | zero => rfl
  | succ n ih =>
    rw [steps_succ, step_of_terminated ended]
    exact ih

/-! ## Watching -/

section Watch

variable {services : Services σ C M} {s : Supervisor C M} {world : World σ}

theorem watch_eq (services : Services σ C M) (s : Supervisor C M) (world : World σ) :
    s.watch services world = match (s.step services world).1.phase with
      | .terminated => some (s.step services world)
      | .running => (s.step services world).1.watch services (s.step services world).2 := by
  rw [watch]
  rfl

theorem watch_of_steps {n : Nat}
    (ended : (s.steps services (n + 1) world).1.phase = .terminated) :
    s.watch services world = some (s.steps services (n + 1) world) := by
  induction n generalizing s world with
  | zero =>
    rw [steps_succ, steps_zero] at ended ⊢
    rw [watch_eq, ended]
    rfl
  | succ n ih =>
    rw [watch_eq]
    cases phase : (s.step services world).1.phase with
    | terminated =>
      rw [steps_succ, steps_of_terminated phase]
      rfl
    | running =>
      rw [steps_succ] at ended ⊢
      exact ih ended

/-- Watching ends exactly when some number of steps ends it. -/
theorem watch_eq_some_iff {result : Supervisor C M × World σ} :
    s.watch services world = some result ↔
      result.1.phase = .terminated ∧ ∃ n, s.steps services (n + 1) world = result := by
  constructor
  · intro watched
    refine watch.partial_correctness services
      (fun s world result => result.1.phase = .terminated ∧
        ∃ n, s.steps services (n + 1) world = result) ?_ s world result watched
    intro watch ih s world result watched
    rcases stepped : s.step services world with ⟨next, after⟩
    cases phase : next.phase with
    | terminated =>
      simp only [stepped, phase, Option.some.injEq] at watched
      subst watched
      exact ⟨phase, 0, by rw [steps_succ, stepped, steps_zero]⟩
    | running =>
      simp only [stepped, phase] at watched
      obtain ⟨ended, n, reached⟩ := ih _ _ _ watched
      exact ⟨ended, n + 1, by rw [steps_succ, stepped, reached]⟩
  · rintro ⟨ended, n, rfl⟩
    exact watch_of_steps ended

theorem run_eq (services : Services σ C M) (s : Supervisor C M) (world : World σ) :
    s.run services world =
      (s.watch services (world.noteAll [startEvent s.config])).map fun r =>
        (r.1.outcome, (r.1.release services r.2).2) := by
  rw [Option.map_eq_bind]
  rfl

end Watch

/-! ## What a run keeps -/

/-- A property of the world that no service destroys, and no event that is told. -/
structure Keeps (services : Services σ C M) (holds : World σ → Prop) : Prop where
  noteAll : ∀ world events, holds world → holds (world.noteAll events)
  poll : ∀ child world, holds world → holds (services.poll child world).2
  release : ∀ child world, holds world → holds (services.release child world).2
  dispatch : ∀ pump budget world, holds world → holds (services.dispatch pump budget world).2
  postQuit : ∀ pump world, holds world → holds (services.postQuit pump world).2

namespace Keeps

variable {services : Services σ C M} {holds : World σ → Prop} {world after : World σ}
  {outcome : Outcome} (keeps : Keeps services holds) (s : Supervisor C M)
include keeps

theorem releaseChild (start : holds world) : holds (s.release services world).2 := by
  unfold Supervisor.release
  cases s.child with
  | none => exact start
  | some child => exact keeps.release child world start

theorem follow (answer : Poll) (start : holds world) :
    holds (s.follow services answer world).2 := by
  cases answer with
  | exited code =>
    have quit := keeps.postQuit s.pump world start
    have released := keeps.releaseChild s quit
    exact keeps.noteAll _ _ released
  | active => exact keeps.dispatch s.pump s.config.budget world start
  | failed reason =>
    have warned := keeps.noteAll world [⟨.warn, .supervisor, failureText reason⟩] start
    exact keeps.dispatch s.pump s.config.budget _ warned

theorem step (start : holds world) : holds (s.step services world).2 := by
  unfold Supervisor.step
  cases s.phase with
  | terminated => exact start
  | running =>
    cases s.child with
    | none => exact keeps.dispatch s.pump s.config.budget world start
    | some child =>
      have polled := keeps.poll child world start
      exact keeps.follow _ _ polled

theorem steps (n : Nat) (start : holds world) : holds (s.steps services n world).2 := by
  induction n generalizing s world with
  | zero => exact start
  | succ n ih =>
    rw [steps_succ]
    exact ih _ (keeps.step s start)

theorem run (start : holds world) (ran : s.run services world = some (outcome, after)) :
    holds after := by
  rw [run_eq] at ran
  obtain ⟨⟨ended, now⟩, watched, same⟩ := Option.map_eq_some_iff.1 ran
  obtain ⟨-, rfl⟩ := Prod.mk.inj same
  obtain ⟨-, n, reached⟩ := watch_eq_some_iff.1 watched
  have stepped := keeps.steps s (n + 1) (keeps.noteAll world [startEvent s.config] start)
  rw [reached] at stepped
  exact keeps.releaseChild ended stepped

end Keeps

/-! ## Rounds -/

/-- From a child, a queue and a world, these rounds lead to another child, queue and world. -/
inductive Rounds (services : Services σ C M) (budget : UInt64) :
    C → M → World σ → List Round → C → M → World σ → Prop where
  | none (child : C) (pump : M) (world : World σ) :
      Rounds services budget child pump world [] child pump world
  | more {child child₁ child₂ : C} {pump pump₁ pump₂ : M} {world world₁ world₂ world₃ : World σ}
      {answer : Poll} {count : UInt64} {rounds : List Round}
      (polled : services.poll child world = ((answer, child₁), world₁))
      (goesOn : answer.isExit = false)
      (served : services.dispatch pump budget (world₁.noteAll answer.warnings) =
        ((count, pump₁), world₂))
      (rest : Rounds services budget child₁ pump₁ world₂ rounds child₂ pump₂ world₃) :
      Rounds services budget child pump world (⟨answer, count⟩ :: rounds) child₂ pump₂ world₃

/-- After some rounds, a poll sees the exit. -/
def Exits (services : Services σ C M) (budget : UInt64) (child : C) (pump : M)
    (world : World σ) : Prop :=
  ∃ rounds child₁ pump₁ world₁ code child₂ world₂,
    Rounds services budget child pump world rounds child₁ pump₁ world₁ ∧
      services.poll child₁ world₁ = ((.exited code, child₂), world₂)

/-- How many events were served in some rounds. -/
def servedIn (rounds : List Round) : UInt64 :=
  (rounds.map Round.served).sum

section Rounds

variable {services : Services σ C M} {config : SupervisorConfig} {child child₁ child₂ : C}
  {pump pump₁ : M} {world world₁ world₂ : World σ} {rounds : List Round}

theorem steps_of_rounds
    (passed : Rounds services config.budget child pump world rounds child₁ pump₁ world₁)
    (polls dispatched : UInt64) :
    (watching child pump config polls dispatched).steps services rounds.length world =
      (watching child₁ pump₁ config (polls + .ofNat rounds.length)
        (dispatched + servedIn rounds), world₁) := by
  induction passed generalizing polls dispatched with
  | none child pump world => simp [steps_zero, servedIn]
  | @more _ _ _ _ _ _ _ _ _ _ answer count rounds polled goesOn served rest ih =>
    rw [List.length_cons, steps_succ, step_round polled goesOn served, ih]
    have polls_eq : polls + 1 + UInt64.ofNat rounds.length =
        polls + UInt64.ofNat (rounds.length + 1) := by
      rw [UInt64.ofNat_add, UInt64.add_assoc, UInt64.add_comm 1]
      rfl
    have served_eq : dispatched + count + servedIn rounds =
        dispatched + servedIn (⟨answer, count⟩ :: rounds) := by
      simp [servedIn, UInt64.add_assoc]
    rw [polls_eq, served_eq]

theorem steps_of_exit {code : Option Int32}
    (passed : Rounds services config.budget child pump world rounds child₁ pump₁ world₁)
    (polled : services.poll child₁ world₁ = ((.exited code, child₂), world₂))
    (polls dispatched : UInt64) :
    (watching child pump config polls dispatched).steps services (rounds.length + 1) world =
      (ended (services.postQuit pump₁ world₂).1 config (polls + .ofNat (rounds.length + 1))
          (dispatched + servedIn rounds) code,
        (services.release child₂ (services.postQuit pump₁ world₂).2).2.noteAll
          [exitEvent code (polls + .ofNat (rounds.length + 1))]) := by
  have polls_eq : polls + UInt64.ofNat rounds.length + 1 =
      polls + UInt64.ofNat (rounds.length + 1) := by
    rw [UInt64.ofNat_add, UInt64.add_assoc]
    rfl
  rw [steps_add, steps_of_rounds passed, steps_succ, steps_zero, step_exit polled, polls_eq]

/-- What a run comes to, given its rounds and the poll that sees the exit. -/
theorem run_of_rounds {code : Option Int32}
    (passed : Rounds services config.budget child pump (world.noteAll [startEvent config])
      rounds child₁ pump₁ world₁)
    (polled : services.poll child₁ world₁ = ((.exited code, child₂), world₂))
    (polls dispatched : UInt64) :
    (watching child pump config polls dispatched).run services world =
      some (⟨code, polls + .ofNat (rounds.length + 1), dispatched + servedIn rounds⟩,
        (services.release child₂ (services.postQuit pump₁ world₂).2).2.noteAll
          [exitEvent code (polls + .ofNat (rounds.length + 1))]) := by
  have stepped := steps_of_exit passed polled polls dispatched
  have watched := watch_of_steps (n := rounds.length) (by rw [stepped]; rfl)
  rw [run_eq, show (watching child pump config polls dispatched).config = config from rfl,
    watched, stepped]
  rfl

theorem run_of_exits
    (exits : Exits services config.budget child pump (world.noteAll [startEvent config])) :
    ∃ outcome after, (start child pump config).run services world = some (outcome, after) := by
  obtain ⟨rounds, child₁, pump₁, world₁, code, child₂, world₂, passed, polled⟩ := exits
  exact ⟨_, _, run_of_rounds passed polled 0 0⟩

end Rounds

end Supervisor

end AppLauncher
