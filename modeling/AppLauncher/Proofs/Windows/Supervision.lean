import AppLauncher.Proofs.Supervision.Life
import AppLauncher.Proofs.Windows.Actions

/-!
# Watching a child on the desktop

What the desktop answers is also a script for the scripted platform (`answering`): each exit code is
the answer to a poll, and the messages that wait are the events to be served. `Performs` says by
which calls of the system each call of the scripted platform is made, and `Mirrors` relates a world
on the desktop to one of the scripted platform where the same has happened.

**`run_mirrors`**: watching a child on the desktop is watching it on the scripted platform.
-/

namespace AppLauncher.Windows

open Scripted (Behaviour Moment Happening replay callsOf roundHappenings courseOf exitHappenings)
open Supervisor (watching startEvent exitEvent)

/-- A child and an event queue as the desktop's answers have them. -/
def answering : Behaviour (List (Except UInt32 UInt32)) (List (Option QueuedMessage)) where
  poll := fun codes => (pollOf ((codes.headD (.ok 0)).mapError Failure.ofCode), codes.tail)
  dispatch := fun messages budget =>
    let (count, left) := serveQueued budget.toNat messages
    (count.toUInt64, left)
  postQuit := id

/-- The calls of the system by which a call of the scripted platform is made, for a launch that
starts a given child. -/
inductive Performs (child : Child) : Scripted.Call → List Call → Prop where
  | unknown (code : UInt32) :
      Performs child (.status (.failed (Failure.ofCode code).message))
        [.getExitCodeProcess child.process (.error code)]
  | active : Performs child (.status .active) [.getExitCodeProcess child.process (.ok stillActive)]
  | exited (code : UInt32) (terminated : code ≠ stillActive) :
      Performs child (.status (.exited (some code.toInt32)))
        [.getExitCodeProcess child.process (.ok code)]
  | dispatch {budget count : UInt64} {calls : List Call}
      (serving : Serving budget.toNat count.toNat calls) :
      Performs child (.dispatch budget count) calls
  | quit : Performs child .quit [.postQuitMessage 0]
  | release (code code' : UInt32) :
      Performs child .release [.closeHandle child.process code, .closeHandle child.thread code']
  | spawn {sink : Option LogSink} {output : SystemHandle} {calls : List Call} (line : String)
      (code : UInt32) (inherits : Inherits sink output calls) :
      Performs child (.spawn line (sink.map LogSink.path))
        (calls ++ [.createProcess (processStart line output) code])
  | openPump {calls : List Call} (name : String)
      (aboutWindow : ∀ call ∈ calls, call.isAboutWindow = true) :
      Performs child (.openPump name) calls
  | dialog (caption text : String) :
      Performs child (.dialog caption text) [.messageBox errorBox (wide caption) (wide text)]

/-- An answer about the exit code is the answer to a poll. -/
theorem performs_status (child : Child) (answer : Except UInt32 UInt32) :
    Performs child (.status (pollOf (answer.mapError Failure.ofCode)))
      [.getExitCodeProcess child.process answer] := by
  cases answer with
  | error code => exact .unknown code
  | ok code =>
    simp only [Except.mapError, pollOf]
    by_cases active : code = stillActive
    · rw [if_pos active, active]
      exact .active
    · rw [if_neg active]
      exact .exited code active

/-- The events that are not about the desktop. -/
def ownEvents (log : List Event) : List Event :=
  log.filter fun event => !event.origin.isDesktop

/-- A world on the desktop and one of the scripted platform where the same has happened since the
desktop's calls were `before`. -/
structure Mirrors (child : Child) (before : List Call) (world : World Desktop)
    (shadow : World (List Moment)) : Prop where
  files : world.files = shadow.files
  here : world.here = shadow.here
  executableDirectory : world.executableDirectory = shadow.executableDirectory
  log : ownEvents world.log = ownEvents shadow.log
  calls : ∃ blocks, List.Forall₂ (Performs child) (shadow.system.map Moment.call) blocks ∧
    world.system.calls = before ++ blocks.flatten

namespace Mirrors

variable {child : Child} {before calls : List Call} {world after : World Desktop}
  {shadow : World (List Moment)}

/-- Nothing has happened yet. -/
theorem start (child : Child) (world : World Desktop) :
    Mirrors child world.system.calls world (world.withSystem []) :=
  ⟨rfl, rfl, rfl, rfl, [], .nil, by simp⟩

/-- The same is told in both worlds. -/
theorem tell (mirrors : Mirrors child before world shadow) (events : List Event) :
    Mirrors child before (world.noteAll events) (replay shadow (events.map .event)) := by
  rw [Scripted.replay_events]
  refine ⟨mirrors.files, mirrors.here, mirrors.executableDirectory, ?_, mirrors.calls⟩
  rw [World.noteAll_log, World.noteAll_log, ownEvents, ownEvents, List.filter_append,
    List.filter_append]
  exact congrArg (· ++ _) mirrors.log

/-- A call is made in the one world by calls of the system in the other. -/
theorem call {c : Scripted.Call} {exitCodes : List (Except UInt32 UInt32)}
    {messages : List (Option QueuedMessage)} (mirrors : Mirrors child before world shadow)
    (performs : Performs child c calls) (acted : Acted world after calls exitCodes messages) :
    Mirrors child before after (replay shadow [.call c]) where
  files := acted.files.trans mirrors.files
  here := acted.here.trans mirrors.here
  executableDirectory := acted.executableDirectory.trans mirrors.executableDirectory
  log := by
    obtain ⟨events, ofDesktop, log⟩ := acted.log
    have others : ownEvents events = [] := by
      refine List.filter_eq_nil_iff.2 fun event among => ?_
      simp [ofDesktop event among]
    have whole : ownEvents after.log = ownEvents world.log ++ ownEvents events := by
      rw [log, ownEvents, List.filter_append]
      rfl
    rw [whole, others, List.append_nil]
    exact mirrors.log
  calls := by
    obtain ⟨blocks, performed, made⟩ := mirrors.calls
    refine ⟨blocks ++ [calls], ?_, ?_⟩
    · have more : (replay shadow [.call c]).system.map Moment.call =
          shadow.system.map Moment.call ++ [c] := by
        rw [Scripted.replay_calls]
        rfl
      rw [more]
      exact List.rel_append performed (.cons performs .nil)
    · rw [acted.calls, made, List.flatten_append, List.append_assoc]
      simp

end Mirrors

/-! ## Rounds -/

/-- What a desktop still answers about the exit code and about messages. -/
def Answers (world : World Desktop) (codes : List (Except UInt32 UInt32))
    (messages : List (Option QueuedMessage)) : Prop :=
  world.system.script.exitCodes = codes ∧ world.system.script.messages = messages

section Rounds

variable {child : Child} {before : List Call} {world : World Desktop}
  {shadow : World (List Moment)} {codes : List (Except UInt32 UInt32)}
  {messages : List (Option QueuedMessage)}

theorem mirrors_poll (mirrors : Mirrors child before world shadow)
    (answers : Answers world codes messages) :
    ∃ after, services.poll child world = (((answering.poll codes).1, child), after) ∧
      Answers after (answering.poll codes).2 messages ∧
      Mirrors child before after (replay shadow [.call (.status (answering.poll codes).1)]) := by
  obtain ⟨rfl, rfl⟩ := answers
  obtain ⟨after, polled, acted⟩ := acted_poll child world
  exact ⟨after, polled, ⟨acted.exitCodes, acted.messages⟩,
    mirrors.call (performs_status child _) acted⟩

theorem mirrors_dispatch (mirrors : Mirrors child before world shadow)
    (answers : Answers world codes messages) (pump : Pump) (budget : UInt64) :
    ∃ after, services.dispatch pump budget world =
        (((answering.dispatch messages budget).1, pump), after) ∧
      Answers after codes (answering.dispatch messages budget).2 ∧
      Mirrors child before after
        (replay shadow [.call (.dispatch budget (answering.dispatch messages budget).1)]) := by
  obtain ⟨rfl, rfl⟩ := answers
  obtain ⟨after, calls, dispatched, serving, -, acted⟩ := acted_dispatch pump budget world
  exact ⟨after, dispatched, ⟨acted.exitCodes, acted.messages⟩,
    mirrors.call (.dispatch serving) acted⟩

/-- The rounds of a child on the desktop are those of the answers. -/
theorem rounds_mirror (pump : Pump) (budget : UInt64) {n : Nat}
    (mirrors : Mirrors child before world shadow) (answers : Answers world codes messages)
    (goesOn : ∀ i < n, (answering.answer i codes).isExit = false) :
    ∃ after, Supervisor.Rounds services budget child pump world
        (answering.rounds budget n codes messages) child pump after ∧
      Answers after (answering.childAfter n codes) (answering.pumpAfter budget n messages) ∧
      Mirrors child before after (replay shadow
        ((answering.rounds budget n codes messages).flatMap (roundHappenings budget))) := by
  induction n generalizing world shadow codes messages with
  | zero => exact ⟨world, .none child pump world, answers, mirrors⟩
  | succ n ih =>
    obtain ⟨polledWorld, polled, answers, mirrors⟩ := mirrors_poll mirrors answers
    have told := mirrors.tell (answering.answer 0 codes).warnings
    obtain ⟨servedWorld, served, answers, mirrors⟩ := mirrors_dispatch told answers pump budget
    have later : ∀ i < n, (answering.answer i (answering.poll codes).2).isExit = false :=
      fun i hi => goesOn (i + 1) (by omega)
    obtain ⟨after, rounds, answers, mirrors⟩ := ih mirrors answers later
    refine ⟨after, ?_, answers, ?_⟩
    · rw [Behaviour.rounds_succ]
      exact .more polled (goesOn 0 (by omega)) served rounds
    · rw [Behaviour.rounds_succ, List.flatMap_cons, roundHappenings, Scripted.replay_append,
        Scripted.replay_append, Scripted.replay_cons]
      exact mirrors

/-- A queue that is told to quit and a child that is released, on the desktop and in the shadow. -/
theorem mirrors_exit (mirrors : Mirrors child before world shadow) (pump : Pump)
    (code : Option Int32) (polls : UInt64) :
    Mirrors child before
      ((services.release child (services.postQuit pump world).2).2.noteAll [exitEvent code polls])
      (replay shadow [.call .quit, .call .release, .event (exitEvent code polls)]) := by
  have quits : ActedAside world (services.postQuit pump world).2 [.postQuitMessage 0] :=
    .of_system rfl
  obtain ⟨code, code', releases⟩ := acted_release child (services.postQuit pump world).2
  exact ((mirrors.call .quit quits).call (.release code code') releases).tell [exitEvent _ polls]

/-- **Watching a child on the desktop.** A child whose exit is the answer after `k` others is
watched to its end as the scripted platform would, and the system is called for nothing else. -/
theorem run_mirrors (pump : Pump) (config : SupervisorConfig) {k : Nat} {code : Option Int32}
    (mirrors : Mirrors child before world shadow) (answers : Answers world codes messages)
    (goesOn : ∀ i < k, (answering.answer i codes).isExit = false)
    (exits : answering.answer k codes = .exited code) :
    ∃ outcome after, (Supervisor.start child pump config).run services world =
        some (outcome, after) ∧
      (Supervisor.start codes messages config).run answering.services shadow =
        some (outcome, replay shadow
          (courseOf config 0 (answering.rounds config.budget k codes messages) code)) ∧
      outcome.exitCode = code ∧ outcome.polls = .ofNat (k + 1) ∧
      Mirrors child before after (replay shadow
        (courseOf config 0 (answering.rounds config.budget k codes messages) code)) := by
  have begun := mirrors.tell [startEvent config]
  obtain ⟨between, rounds, left, mirrors⟩ :=
    rounds_mirror pump config.budget begun (answers : Answers (world.noteAll _) _ _) goesOn
  obtain ⟨polledWorld, polled, -, mirrors⟩ := mirrors_poll mirrors left
  have last : (answering.poll (answering.childAfter k codes)).1 = .exited code := exits
  rw [last] at polled mirrors
  have ran := Supervisor.run_of_rounds rounds polled 0 0
  have ran' := Scripted.run_of_answers answering messages config shadow goesOn exits 0 0
  rw [Behaviour.length_rounds] at ran
  rw [Supervisor.start_eq_watching, Supervisor.start_eq_watching, ran, ran']
  refine ⟨_, _, rfl, rfl, rfl, by simp, ?_⟩
  have ended := mirrors_exit mirrors pump code (0 + .ofNat (k + 1))
  simpa [courseOf, exitHappenings, Scripted.replay_append, Scripted.replay_cons] using ended

end Rounds

end AppLauncher.Windows
