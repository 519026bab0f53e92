import AppLauncher.Proofs.Launch.Effects
import AppLauncher.Proofs.Windows.Supervision

/-!
# The exit code of a process

The system gives one number for the state of a process: `stillActive` while it runs, and then its
exit code. So a process whose exit code is `stillActive` looks as if it ran (`running_of_active`),
and every other one is found out by the next poll.

**`run_of_exitCode`**: what a supervision comes to for each exit code and each number of polls
before the end of the process.
-/

namespace AppLauncher.Windows

open Scripted (Moment Happening replay callsOf roundCalls exitCalls courseOf roundHappenings)
open Supervisor (startEvent)

/-! ## The answers of a process -/

/-- While a process runs, polls find it active. -/
theorem answer_of_running {i n : Nat} (earlier : i < n) (codes : List (Except UInt32 UInt32)) :
    answering.answer i (List.replicate n (Except.ok stillActive) ++ codes) = .active := by
  induction n generalizing i with
  | zero => exact absurd earlier (Nat.not_lt_zero i)
  | succ n ih =>
    cases i with
    | zero => rfl
    | succ i => exact ih (Nat.lt_of_succ_lt_succ earlier)

/-- The poll after that is answered with the next number. -/
theorem answer_of_terminated (n : Nat) (code : UInt32) (later : List (Except UInt32 UInt32)) :
    answering.answer n (List.replicate n (Except.ok stillActive) ++ Except.ok code :: later) =
      pollOf (.ok code) := by
  induction n with
  | zero => rfl
  | succ n ih => exact ih

theorem active_of_rounds {codes : List (Except UInt32 UInt32)}
    {messages : List (Option QueuedMessage)} {budget : UInt64} {n : Nat}
    (running : ∀ i < n, answering.answer i codes = .active) :
    ∀ r ∈ answering.rounds budget n codes messages, r.answer = .active := by
  intro r among
  obtain ⟨i, earlier, rfl⟩ := List.mem_map.1 among
  exact running i (List.mem_range.1 earlier)

/-- The signed number that a launch reports is another way to read the exit code. -/
theorem toInt32_injective : Function.Injective UInt32.toInt32 :=
  fun _ _ same => congrArg Int32.toUInt32 same

/-! ## The calls of a supervision -/

namespace Call

/-- A call that asks for the state of a process. -/
def isQuery : Call → Bool
  | getExitCodeProcess _ _ => true
  | _ => false

/-- A call that belongs to the end of a supervision. -/
def isEnding : Call → Bool
  | postQuitMessage _ | closeHandle _ _ => true
  | _ => false

theorem isQuery_of_isAside {call : Call} (aside : call.isAside = true) : call.isQuery = false := by
  cases call <;> first | rfl | cases aside

theorem isEnding_of_isAside {call : Call} (aside : call.isAside = true) :
    call.isEnding = false := by
  cases call <;> first | rfl | cases aside

end Call

/-- Serving messages neither asks for the state of a process nor ends anything. -/
theorem calls_of_serving {budget count : Nat} {calls : List Call}
    (serving : Serving budget count calls) :
    calls.filter Call.isQuery = [] ∧ ∀ call ∈ calls, call.isEnding = false := by
  have aside := aside_of_serving serving
  constructor
  · refine List.filter_eq_nil_iff.2 fun call among => ?_
    simp [Call.isQuery_of_isAside (aside call among)]
  · exact fun call among => Call.isEnding_of_isAside (aside call among)

/-- While a process runs, each round asks for its state once. -/
theorem calls_of_rounds {child : Child} {budget : UInt64} {rounds : List Round}
    {blocks : List (List Call)} (active : ∀ r ∈ rounds, r.answer = .active)
    (performed : List.Forall₂ (Performs child) (roundCalls budget rounds) blocks) :
    blocks.flatten.filter Call.isQuery =
        List.replicate rounds.length (.getExitCodeProcess child.process (.ok stillActive)) ∧
      ∀ call ∈ blocks.flatten, call.isEnding = false := by
  induction rounds generalizing blocks with
  | nil =>
    cases performed
    exact ⟨rfl, nofun⟩
  | cons r rest ih =>
    have now : r.answer = .active := active r List.mem_cons_self
    have later : ∀ r ∈ rest, r.answer = .active := fun r among =>
      active r (List.mem_cons_of_mem _ among)
    rw [Scripted.roundCalls_cons, now] at performed
    obtain - | ⟨polled, performed⟩ := performed
    obtain - | ⟨served, performed⟩ := performed
    obtain ⟨queries, others⟩ := ih later performed
    cases polled
    obtain - | - | - | ⟨serving⟩ := served
    obtain ⟨noQuery, noEnding⟩ := calls_of_serving serving
    constructor
    · simp only [List.flatten_cons, List.filter_append, noQuery, queries, List.length_cons,
        List.replicate_succ, List.nil_append]
      rfl
    · intro call among
      simp only [List.flatten_cons, List.mem_append, List.mem_singleton] at among
      rcases among with rfl | among | among
      · rfl
      · exact noEnding call among
      · exact others call among

/-- When a process has terminated, its exit code is asked for once, the queue is told to quit, and
both handles are closed. -/
theorem calls_of_exit {child : Child} {code : UInt32} {blocks : List (List Call)}
    (performed : List.Forall₂ (Performs child) (exitCalls (some code.toInt32)) blocks) :
    ∃ closed closed', blocks.flatten =
      [.getExitCodeProcess child.process (.ok code), .postQuitMessage 0,
        .closeHandle child.process closed, .closeHandle child.thread closed'] := by
  obtain - | ⟨polled, performed⟩ := performed
  obtain - | ⟨quits, performed⟩ := performed
  obtain - | ⟨released, performed⟩ := performed
  cases performed
  cases quits
  obtain ⟨closed, closed'⟩ := released
  generalize same : code.toInt32 = signed at polled
  obtain - | - | ⟨code', terminated⟩ := polled
  obtain rfl : code = code' := toInt32_injective same
  exact ⟨_, _, rfl⟩

/-! ## The supervision -/

section ExitCode

variable (child : Child) (pump : Pump) (config : SupervisorConfig) {world : World Desktop}

/-- As long as the system answers `stillActive`, a supervision goes on, whatever has become of the
process. -/
theorem running_of_active (n : Nat) (later : List (Except UInt32 UInt32))
    (codes : world.system.script.exitCodes = List.replicate n (Except.ok stillActive) ++ later) :
    ∃ (s : Supervisor Child Pump) (made : List Call) (now : World Desktop),
      (Supervisor.start child pump config).steps services n world = (s, now) ∧
      s.phase = .running ∧ now.system.calls = world.system.calls ++ made ∧
      made.filter Call.isQuery =
        List.replicate n (Call.getExitCodeProcess child.process (.ok stillActive)) ∧
      ∀ call ∈ made, call.isEnding = false := by
  have running : ∀ i < n, answering.answer i world.system.script.exitCodes = .active := by
    intro i earlier
    rw [codes]
    exact answer_of_running earlier later
  have goesOn : ∀ i < n, (answering.answer i world.system.script.exitCodes).isExit = false := by
    intro i earlier
    rw [running i earlier]
    rfl
  obtain ⟨now, passed, -, mirrors⟩ :=
    rounds_mirror pump config.budget (.start child world) ⟨rfl, rfl⟩ goesOn
  have stepped := Supervisor.steps_of_rounds passed 0 0
  obtain ⟨blocks, performed, made⟩ := mirrors.calls
  rw [Scripted.replay_calls, Scripted.callsOf_rounds] at performed
  obtain ⟨queries, noEnding⟩ := calls_of_rounds (active_of_rounds running) performed
  rw [Scripted.Behaviour.length_rounds] at stepped queries
  exact ⟨_, blocks.flatten, now, stepped, rfl, made, queries, noEnding⟩

/-- **The exit code of a process.** Let a process run during `n` polls, and have terminated with
some exit code before the next. If the code is not `stillActive`, a supervision stops at that next
poll with the code as a signed number, from which it can be read back; it has asked for the state of
the process `n + 1` times, has told the queue to quit, and has closed both handles, in this order.
If the code is `stillActive`, a supervision goes on for as many more polls as the system answers it,
and does none of this. -/
theorem run_of_exitCode (n : Nat) (code : UInt32) (later : List (Except UInt32 UInt32))
    (codes : world.system.script.exitCodes =
      List.replicate n (Except.ok stillActive) ++ Except.ok code :: later) :
    (code ≠ stillActive → ∃ (outcome : Outcome) (after : World Desktop) (made : List Call)
        (closed closed' : UInt32),
      (Supervisor.start child pump config).run services world = some (outcome, after) ∧
      outcome.exitCode = some code.toInt32 ∧ outcome.polls = .ofNat (n + 1) ∧
      (∀ other : UInt32, outcome.exitCode = some other.toInt32 → other = code) ∧
      after.system.calls = world.system.calls ++ made ++
        [Call.getExitCodeProcess child.process (.ok code), .postQuitMessage 0,
          .closeHandle child.process closed, .closeHandle child.thread closed'] ∧
      made.filter Call.isQuery =
        List.replicate n (Call.getExitCodeProcess child.process (.ok stillActive)) ∧
      ∀ call ∈ made, call.isEnding = false) ∧
    (code = stillActive → ∀ more, List.replicate more (.ok code) <+: later →
      ∃ (s : Supervisor Child Pump) (made : List Call) (now : World Desktop),
        (Supervisor.start child pump config).steps services (n + 1 + more) world = (s, now) ∧
        s.phase = .running ∧ now.system.calls = world.system.calls ++ made ∧
        ∀ call ∈ made, call.isEnding = false) := by
  constructor
  · intro terminated
    have running : ∀ i < n, answering.answer i world.system.script.exitCodes = .active := by
      intro i earlier
      rw [codes]
      exact answer_of_running earlier _
    have goesOn : ∀ i < n, (answering.answer i world.system.script.exitCodes).isExit = false := by
      intro i earlier
      rw [running i earlier]
      rfl
    have exits : answering.answer n world.system.script.exitCodes =
        .exited (some code.toInt32) := by
      rw [codes, answer_of_terminated, pollOf, if_neg terminated]
    obtain ⟨outcome, after, ran, -, exitCode, polls, mirrors⟩ :=
      run_mirrors pump config (.start child world) ⟨rfl, rfl⟩ goesOn exits
    obtain ⟨blocks, performed, made⟩ := mirrors.calls
    rw [Scripted.replay_calls, Scripted.callsOf_courseOf] at performed
    -- The calls of the rounds come first, and those of the exit are what is left.
    let rounds := roundCalls config.budget (answering.rounds config.budget n
      world.system.script.exitCodes world.system.script.messages)
    have performed' : List.Forall₂ (Performs child) (rounds ++ exitCalls (some code.toInt32))
      blocks := performed
    have first := List.forall₂_take rounds.length performed'
    have last := List.forall₂_drop rounds.length performed'
    rw [List.take_left] at first
    rw [List.drop_left] at last
    obtain ⟨queries, noEnding⟩ := calls_of_rounds (active_of_rounds running) first
    obtain ⟨closed, closed', ending⟩ := calls_of_exit last
    rw [Scripted.Behaviour.length_rounds] at queries
    refine ⟨outcome, after, _, closed, closed', ran, exitCode, polls, ?_, ?_, queries, noEnding⟩
    · intro other same
      rw [exitCode] at same
      exact toInt32_injective (Option.some.inj same).symm
    · rw [made, ← ending, List.append_assoc, ← List.flatten_append, List.take_append_drop]
  · rintro rfl more ⟨rest, rfl⟩
    -- The exit code is one more answer that says that the process runs.
    have codes' : world.system.script.exitCodes =
        List.replicate (n + 1 + more) (Except.ok stillActive) ++ rest := by
      rw [codes, List.replicate_add, List.replicate_succ', List.append_assoc, List.append_assoc]
      rfl
    obtain ⟨s, made, now, stepped, running, calls, -, noEnding⟩ :=
      running_of_active child pump config (n + 1 + more) rest codes'
    exact ⟨s, made, now, stepped, running, calls, noEnding⟩

end ExitCode

/-- A desktop on which nothing has happened, with some answers about the exit code. -/
def freshWorld (codes : List (Except UInt32 UInt32)) : World Desktop :=
  ⟨.empty, .live [], ⟨[]⟩, [], .start { Script.unset with exitCodes := codes }⟩

/-- A process that has ended in an access violation is found out after two polls. -/
theorem run_of_accessViolation :
    ∃ outcome after, (Supervisor.start Script.unset.child ⟨none⟩ .default).run services
        (freshWorld [.ok 259, .ok 259, .ok 0xC0000005]) = some (outcome, after) ∧
      outcome.exitCode = some (-1073741819) ∧ outcome.polls = 3 := by
  have codes : (freshWorld [.ok 259, .ok 259, .ok 0xC0000005]).system.script.exitCodes =
      List.replicate 2 (Except.ok stillActive) ++ Except.ok 0xC0000005 :: [] := rfl
  obtain ⟨stops, -⟩ := run_of_exitCode Script.unset.child ⟨none⟩ .default 2 0xC0000005 [] codes
  obtain ⟨outcome, after, -, -, -, ran, exitCode, polls, -⟩ := stops (by decide)
  exact ⟨outcome, after, ran, exitCode.trans (by decide), polls⟩

/-- A process that has ended with `stillActive` before the first poll is not found out by it. -/
theorem missed_stillActive :
    ¬ ∀ (child : Child) (pump : Pump) (config : SupervisorConfig) (world : World Desktop) (n : Nat)
      (code : UInt32) (later : List (Except UInt32 UInt32)),
      world.system.script.exitCodes =
        List.replicate n (Except.ok stillActive) ++ Except.ok code :: later →
        ∃ outcome after,
          (Supervisor.start child pump config).run services world = some (outcome, after) ∧
          outcome.exitCode = some code.toInt32 ∧ outcome.polls = .ofNat (n + 1) := by
  intro claim
  have goesOn : ∀ i < 1, (answering.answer i [.ok 259, .ok 7]).isExit = false
    | 0, _ => rfl
  have exits : answering.answer 1 [.ok 259, .ok 7] = .exited (some 7) := rfl
  obtain ⟨outcome, after, ran, -, exitCode, -⟩ :=
    run_mirrors ⟨none⟩ .default (.start Script.unset.child (freshWorld [.ok 259, .ok 7]))
      ⟨rfl, rfl⟩ goesOn exits
  obtain ⟨outcome', after', ran', exitCode', -⟩ :=
    claim Script.unset.child ⟨none⟩ .default (freshWorld [.ok 259, .ok 7]) 0 stillActive [.ok 7] rfl
  obtain ⟨rfl, -⟩ := Prod.mk.inj (Option.some.inj (ran.symm.trans ran'))
  rw [exitCode] at exitCode'
  exact absurd exitCode' (by decide)

end AppLauncher.Windows
