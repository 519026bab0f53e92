import AppLauncher.Proofs.Supervision.Stepping

/-!
# The budget of a supervision

Events are served in portions. Between two polls there is one serving, and it serves no more than
the budget however much is waiting (`Rationed`); so a flood of events does not put off the next
poll. The counters of a supervisor are 64 bits wide, and after `n` steps they have come to no more
than `n` and `n` times the budget.

A `Queue` is a backlog to which events are added before each serving. What a supervision serves of
it is what it received less what is left in it.

**`served_within_budget`** has all of it, for any steps of a new supervisor.
-/

namespace AppLauncher.Scripted

open Supervisor (startEvent exitEvent servedIn watching ended Operation)

variable {C M : Type}

/-! ## Portions -/

/-- Between two polls with none between them there is one serving, of no more than the budget. -/
def Rationed (budget : UInt64) (calls : List Call) : Prop :=
  ∀ (before between after : List Call) (first second : Poll),
    calls = before ++ .status first :: (between ++ .status second :: after) →
    (∀ c ∈ between, c.isStatus = false) →
    ∃ count, between = [.dispatch budget count] ∧ count ≤ budget

section Portions

variable {budget : UInt64}

theorem rationed_of_few {calls : List Call} (few : calls.countP Call.isStatus ≤ 1) :
    Rationed budget calls := by
  rintro before between after first second rfl -
  simp [List.countP_cons, Call.isStatus] at few
  omega

/-- One round more, before a poll or at the end of the calls. -/
theorem Rationed.round {calls : List Call} (rationed : Rationed budget calls) (answer : Poll)
    {served : UInt64} (within : served ≤ budget)
    (continued : calls = [] ∨ ∃ next rest, calls = .status next :: rest) :
    Rationed budget (.status answer :: .dispatch budget served :: calls) := by
  intro before between after first second split unpolled
  match before with
  | _ :: _ :: before =>
    simp only [List.cons_append, List.cons.injEq] at split
    exact rationed before between after first second split.2.2 unpolled
  | [_] =>
    simp only [List.cons_append, List.nil_append, List.cons.injEq] at split
    cases split.2.1
  | [] =>
    simp only [List.nil_append, List.cons.injEq] at split
    obtain ⟨-, split⟩ := split
    match between with
    | [] => cases (List.cons.inj split).1
    | c :: between =>
      simp only [List.cons_append, List.cons.injEq] at split
      obtain ⟨rfl, split⟩ := split
      match between with
      | [] => exact ⟨served, rfl, within⟩
      | c :: between =>
        -- the next call after a round is a poll
        obtain rfl | ⟨next, rest, rfl⟩ := continued
        · cases split
        · obtain ⟨rfl, -⟩ := List.cons.inj split
          simp [Call.isStatus] at unpolled

theorem rationed_of_rounds {rounds : List Round} (within : ∀ r ∈ rounds, r.served ≤ budget)
    {last : List Call} (ending : last = [] ∨ ∃ code, last = exitCalls code) :
    Rationed budget (roundCalls budget rounds ++ last) := by
  induction rounds with
  | nil =>
    refine rationed_of_few ?_
    obtain rfl | ⟨code, rfl⟩ := ending
    · exact Nat.zero_le 1
    · exact Nat.le_refl 1
  | cons r rest ih =>
    have later := ih fun r' among => within r' (List.mem_cons_of_mem r among)
    refine later.round r.answer (within r List.mem_cons_self) ?_
    cases rest with
    | cons next rest => exact .inr ⟨_, _, rfl⟩
    | nil =>
      obtain rfl | ⟨code, rfl⟩ := ending
      · exact .inl rfl
      · exact .inr ⟨_, _, rfl⟩

end Portions

section Bounded

variable {b : Behaviour C M} {child : C} {pump : M} {config : SupervisorConfig}

theorem rounds_within (bounded : ∀ i, b.count config.budget i pump ≤ config.budget) (n : Nat) :
    ∀ r ∈ b.rounds config.budget n child pump, r.served ≤ config.budget := by
  intro r among
  obtain ⟨i, -, rfl⟩ := List.mem_map.1 among
  exact bounded i

theorem Progress.rationed (bounded : ∀ i, b.count config.budget i pump ≤ config.budget)
    {s : Supervisor C M} {history : List Happening}
    (progress : Progress b child pump config s history) :
    Rationed config.budget (callsOf history) := by
  cases progress with
  | rounds n goesOn =>
    rw [callsOf_rounds, ← List.append_nil (roundCalls _ _)]
    exact rationed_of_rounds (rounds_within bounded n) (.inl rfl)
  | exit k code goesOn exits =>
    rw [callsOf_append, callsOf_rounds]
    exact rationed_of_rounds (rounds_within bounded k) (.inr ⟨code, rfl⟩)

end Bounded

/-! ## Counting what was served -/

section Counts

variable {b : Behaviour C M} {child : C} {pump : M} {config : SupervisorConfig} {n : Nat}

/-- How many events the first servings of a queue serve. -/
def servedFirst (b : Behaviour C M) (budget : UInt64) (n : Nat) (pump : M) : Nat :=
  ((List.range n).map fun i => (b.count budget i pump).toNat).sum

theorem servedFirst_succ (b : Behaviour C M) (budget : UInt64) (n : Nat) (pump : M) :
    servedFirst b budget (n + 1) pump =
      servedFirst b budget n pump + (b.count budget n pump).toNat := by
  simp [servedFirst, List.range_succ]

theorem servedFirst_le (bounded : ∀ i, b.count config.budget i pump ≤ config.budget) :
    servedFirst b config.budget n pump ≤ n * config.budget.toNat := by
  induction n with
  | zero => exact Nat.zero_le _
  | succ n ih =>
    have one := UInt64.le_iff_toNat_le.1 (bounded n)
    rw [servedFirst_succ, Nat.succ_mul]
    omega

theorem servedFirst_eq {portion : Nat}
    (always : ∀ i < n, (b.count config.budget i pump).toNat = portion) :
    servedFirst b config.budget n pump = n * portion := by
  induction n with
  | zero => simp [servedFirst]
  | succ n ih =>
    rw [servedFirst_succ, ih fun i below => always i (by omega), always n (Nat.lt_succ_self n),
      Nat.succ_mul]

theorem sum_rounds (b : Behaviour C M) (budget : UInt64) (n : Nat) (child : C) (pump : M) :
    ((b.rounds budget n child pump).map fun r => r.served.toNat).sum =
      servedFirst b budget n pump := by
  simp [Behaviour.rounds, servedFirst, Function.comp_def]

end Counts

/-! ## The first steps -/

section FirstSteps

variable {b : Behaviour C M} {child : C} (pump : M) (config : SupervisorConfig)
  (world : World (List Moment))

theorem start_steps_of_rounds {n : Nat} (goesOn : ∀ i < n, (b.answer i child).isExit = false) :
    (Supervisor.start child pump config).steps b.services n world =
      (watching (b.childAfter n child) (b.pumpAfter config.budget n pump) config (.ofNat n)
          (servedIn (b.rounds config.budget n child pump)),
        replay world
          ((b.rounds config.budget n child pump).flatMap (roundHappenings config.budget))) := by
  have stepped := Supervisor.steps_of_rounds (b.rounds_passed config.budget pump goesOn world) 0 0
  rwa [Behaviour.length_rounds, UInt64.zero_add, UInt64.zero_add] at stepped

theorem start_steps_of_exit {k : Nat} {code : Option Int32}
    (goesOn : ∀ i < k, (b.answer i child).isExit = false) (exits : b.answer k child = .exited code)
    (more : Nat) :
    (Supervisor.start child pump config).steps b.services (k + (more + 1)) world =
      (ended (b.postQuit (b.pumpAfter config.budget k pump)) config (.ofNat (k + 1))
          (servedIn (b.rounds config.budget k child pump)) code,
        replay world
          ((b.rounds config.budget k child pump).flatMap (roundHappenings config.budget) ++
            exitHappenings code (.ofNat (k + 1)))) := by
  rw [Supervisor.steps_add, start_steps_of_rounds pump config world goesOn, Supervisor.steps_succ,
    step_of_exit exits, Supervisor.steps_of_terminated rfl, replay_append]

/-- As many steps answer that they go on as there are answers of the child before its exit. -/
theorem phases_of_rounds {n : Nat} (goesOn : ∀ i < n, (b.answer i child).isExit = false) :
    (List.range n).map (fun i => (.phase
      ((Supervisor.start child pump config).steps b.services (i + 1) world).1.phase :
        Supervisor.Answer M)) = List.replicate n (.phase .running) := by
  refine List.eq_replicate_iff.2 ⟨by simp, fun answer among => ?_⟩
  obtain ⟨i, below, rfl⟩ := List.mem_map.1 among
  have below := List.mem_range.1 below
  rw [start_steps_of_rounds pump config world fun j earlier => goesOn j (by omega)]
  rfl

theorem phases_of_exit {k : Nat} {code : Option Int32}
    (goesOn : ∀ i < k, (b.answer i child).isExit = false) (exits : b.answer k child = .exited code)
    (more : Nat) :
    (List.range (k + more)).map (fun i => (.phase
      ((Supervisor.start child pump config).steps b.services (i + 1) world).1.phase :
        Supervisor.Answer M)) =
      List.replicate k (.phase .running) ++ List.replicate more (.phase .terminated) := by
  rw [List.range_add, List.map_append, phases_of_rounds pump config world goesOn, List.map_map]
  congr 1
  refine List.eq_replicate_iff.2 ⟨by simp, fun answer among => ?_⟩
  obtain ⟨i, -, rfl⟩ := List.mem_map.1 among
  rw [Function.comp_apply, Nat.add_assoc, start_steps_of_exit pump config world goesOn exits]
  rfl

/-- The first steps are some rounds, and unless they are all rounds, the exit. -/
theorem exists_last_round (b : Behaviour C M) (child : C) (n : Nat) :
    ∃ k ≤ n, (∀ i < k, (b.answer i child).isExit = false) ∧
      (k < n → ∃ code, b.answer k child = .exited code) := by
  by_cases goesOn : ∀ i < n, (b.answer i child).isExit = false
  · exact ⟨n, Nat.le_refl n, goesOn, fun below => absurd below (Nat.lt_irrefl n)⟩
  · obtain ⟨m, below, exit⟩ : ∃ m < n, ∃ code, b.answer m child = .exited code := by
      simp only [not_forall] at goesOn
      obtain ⟨m, below, exit⟩ := goesOn
      refine ⟨m, below, ?_⟩
      cases answer : b.answer m child with
      | exited code => exact ⟨code, rfl⟩
      | active | failed reason =>
        rw [answer] at exit
        exact absurd rfl exit
    obtain ⟨code, exit⟩ := exit
    obtain ⟨k, code', before, first⟩ := Behaviour.exists_first_exit ⟨m, code, exit⟩
    have earlier : k ≤ m := by
      refine Nat.le_of_not_lt fun later => ?_
      have running := before m later
      rw [exit] at running
      cases running
    exact ⟨k, by omega, before, fun _ => ⟨code', first⟩⟩

/-- The books of the first steps, of which `k` went on: what they answered, how many calls they made
and how far the queue has been served. -/
theorem exists_books {n k : Nat} (le : k ≤ n) (goesOn : ∀ i < k, (b.answer i child).isExit = false)
    (ends : k < n → ∃ code, b.answer k child = .exited code) :
    ∃ s history,
      (Supervisor.start child pump config).performAll b.services (List.replicate n .step) world =
        ((List.replicate k (.phase .running) ++ List.replicate (n - k) (.phase .terminated), s),
          replay world history) ∧
      Progress b child pump config s history ∧
      (callsOf history).countP Call.isStatus ≤ n ∧
      (callsOf history).countP Call.isDispatch = k ∧
      servedBy (callsOf history) = servedFirst b config.budget k pump ∧
      (s.pump = b.pumpAfter config.budget k pump ∨
        s.pump = b.postQuit (b.pumpAfter config.budget k pump)) := by
  rcases Nat.eq_or_lt_of_le le with rfl | below
  · refine ⟨_, _, ?_, .rounds k goesOn, ?_, ?_, ?_, .inl rfl⟩
    · rw [performAll_steps, phases_of_rounds pump config world goesOn,
        start_steps_of_rounds pump config world goesOn]
      simp
    · rw [callsOf_rounds, statuses_of_rounds, Behaviour.length_rounds]
    · rw [callsOf_rounds, dispatches_of_rounds, Behaviour.length_rounds]
    · rw [callsOf_rounds, served_of_rounds, sum_rounds]
  · obtain ⟨code, exits⟩ := ends below
    obtain ⟨more, rfl⟩ : ∃ more, n = k + (more + 1) := ⟨n - k - 1, by omega⟩
    have calls : callsOf ((b.rounds config.budget k child pump).flatMap
        (roundHappenings config.budget) ++ exitHappenings code (.ofNat (k + 1))) =
        roundCalls config.budget (b.rounds config.budget k child pump) ++ exitCalls code := by
      rw [callsOf_append, callsOf_rounds]
      rfl
    refine ⟨_, _, ?_, .exit k code goesOn exits, ?_, ?_, ?_, .inr rfl⟩
    · rw [performAll_steps, phases_of_exit pump config world goesOn exits,
        start_steps_of_exit pump config world goesOn exits, Nat.add_sub_cancel_left]
    · rw [calls, List.countP_append, statuses_of_rounds, Behaviour.length_rounds]
      change k + 1 ≤ _
      omega
    · rw [calls, List.countP_append, dispatches_of_rounds, Behaviour.length_rounds]
      rfl
    · rw [calls, servedBy, List.map_append, List.sum_append]
      change servedBy (roundCalls _ _) + 0 = _
      rw [served_of_rounds, sum_rounds, Nat.add_zero]

/-- As long as there is room for so many polls and so many full servings, no counter of a step
that is to come can overflow. -/
theorem room_before_step {n : Nat}
    (bounded : ∀ i, b.count config.budget i pump ≤ config.budget) {i : Nat} (below : i < n)
    (pollsFit : n < 2 ^ 64) (eventsFit : n * config.budget.toNat < 2 ^ 64)
    {s : Supervisor C M} {reached : World (List Moment)}
    (stepped : (Supervisor.start child pump config).steps b.services i world = (s, reached))
    (running : s.phase = .running) :
    s.polls.toNat + 1 < 2 ^ 64 ∧
      s.dispatched.toNat + (b.dispatch s.pump config.budget).1.toNat < 2 ^ 64 := by
  obtain ⟨k, le, goesOn, ends⟩ := exists_last_round b child i
  rcases Nat.eq_or_lt_of_le le with rfl | earlier
  · rw [start_steps_of_rounds pump config world goesOn] at stepped
    obtain ⟨rfl, -⟩ := Prod.mk.inj stepped
    have polls : (UInt64.ofNat k).toNat = k := by
      refine UInt64.toNat_ofNat_of_lt ?_
      change k < 2 ^ 64
      omega
    have least : servedFirst b config.budget k pump ≤ k * config.budget.toNat :=
      servedFirst_le bounded
    have most : (k + 1) * config.budget.toNat ≤ n * config.budget.toNat :=
      Nat.mul_le_mul_right _ below
    have next := UInt64.le_iff_toNat_le.1 (bounded k)
    rw [Nat.succ_mul] at most
    have events : (servedIn (b.rounds config.budget k child pump)).toNat =
        servedFirst b config.budget k pump := by
      rw [← sum_rounds b config.budget k child]
      refine toNat_servedIn ?_
      rw [sum_rounds]
      omega
    change (UInt64.ofNat k).toNat + 1 < 2 ^ 64 ∧
      (servedIn _).toNat + (b.count config.budget k pump).toNat < 2 ^ 64
    omega
  · obtain ⟨code, exits⟩ := ends earlier
    obtain ⟨more, rfl⟩ : ∃ more, i = k + (more + 1) := ⟨i - k - 1, by omega⟩
    rw [start_steps_of_exit pump config world goesOn exits] at stepped
    obtain ⟨rfl, -⟩ := Prod.mk.inj stepped
    cases running

end FirstSteps

/-! ## Queues -/

/-- Events that wait, and how many arrive before each serving that is to come. -/
structure Queue where
  backlog : Nat
  arrivals : Nat → Nat

/-- Receives what arrives, and serves what waits, but no more than the budget. -/
def Queue.serve (queue : Queue) (budget : UInt64) : UInt64 × Queue :=
  let waiting := queue.backlog + queue.arrivals 0
  let served := min waiting budget.toNat
  (.ofNat served, ⟨waiting - served, fun i => queue.arrivals (i + 1)⟩)

/-- A child that is polled this way, beside a queue. -/
def queued (poll : C → Poll × C) : Behaviour C Queue where
  poll := poll
  dispatch := Queue.serve
  postQuit := id

section Queues

theorem Queue.serve_count (queue : Queue) (budget : UInt64) :
    (queue.serve budget).1.toNat =
      min (queue.backlog + queue.arrivals 0) budget.toNat := by
  have small := budget.toNat_lt
  exact UInt64.toNat_ofNat_of_lt (by change _ < 2 ^ 64; omega)

theorem Queue.serve_le (queue : Queue) (budget : UInt64) : (queue.serve budget).1 ≤ budget := by
  rw [UInt64.le_iff_toNat_le, queue.serve_count]
  exact Nat.min_le_right _ _

theorem Queue.serve_backlog (queue : Queue) (budget : UInt64) :
    queue.backlog + queue.arrivals 0 =
      (queue.serve budget).1.toNat + (queue.serve budget).2.backlog := by
  rw [queue.serve_count]
  unfold Queue.serve
  dsimp only
  omega

/-- The queue of a script serves like this, as long as its backlog has room for what arrives. -/
theorem take_queue (backlog : UInt64) (arrivals : List UInt64) (budget : UInt64)
    (fits : backlog.toNat + (arrivals.headD 0).toNat < 2 ^ 64) :
    ∃ backlog',
      (Source.queue backlog arrivals).take budget =
        ((Queue.serve ⟨backlog.toNat, fun i => (arrivals.getD i 0).toNat⟩ budget).1,
          .queue backlog' arrivals.tail) ∧
      (Queue.serve ⟨backlog.toNat, fun i => (arrivals.getD i 0).toNat⟩ budget).2 =
        ⟨backlog'.toNat, fun i => (arrivals.tail.getD i 0).toNat⟩ := by
  have waiting : (backlog + arrivals.headD 0).toNat = backlog.toNat + (arrivals.headD 0).toNat := by
    rw [UInt64.toNat_add, Nat.mod_eq_of_lt fits]
  have first : arrivals.getD 0 0 = arrivals.headD 0 := by cases arrivals <;> rfl
  have later : ∀ i, arrivals.getD (i + 1) 0 = arrivals.tail.getD i 0 := by
    intro i
    cases arrivals <;> rfl
  have count : (min (backlog + arrivals.headD 0) budget).toNat =
      min (backlog.toNat + (arrivals.headD 0).toNat) budget.toNat := by
    rw [← waiting, Nat.min_def]
    change (if backlog + arrivals.headD 0 ≤ budget then _ else _ : UInt64).toNat = _
    simp only [UInt64.le_iff_toNat_le]
    split <;> rfl
  have taken : min (backlog + arrivals.headD 0) budget ≤ backlog + arrivals.headD 0 := by
    rw [UInt64.le_iff_toNat_le, count, waiting]
    exact Nat.min_le_left _ _
  refine ⟨_, Prod.ext (UInt64.toNat_inj.1 ?_) rfl, ?_⟩
  · rw [Queue.serve_count]
    dsimp only
    rw [first]
    exact count
  · rw [UInt64.toNat_sub_of_le _ _ taken, count, waiting]
    simp only [Queue.serve, first, later]

variable (poll : C → Poll × C) (budget : UInt64) (queue : Queue)

theorem arrivals_after (n : Nat) :
    ((queued poll).pumpAfter budget n queue).arrivals = fun i => queue.arrivals (n + i) := by
  induction n with
  | zero =>
    funext i
    rw [Nat.zero_add]
    rfl
  | succ n ih =>
    rw [Behaviour.pumpAfter_succ]
    change (fun i => ((queued poll).pumpAfter budget n queue).arrivals (i + 1)) = _
    funext i
    rw [ih]
    dsimp only
    congr 1
    omega

theorem answer_queued {M : Type} (b : Behaviour C M) (n : Nat) (child : C) :
    (queued b.poll).answer n child = b.answer n child := by
  have after : ∀ child, (queued b.poll).childAfter n child = b.childAfter n child := by
    induction n with
    | zero => exact fun child => rfl
    | succ n ih => exact fun child => ih (b.poll child).2
  rw [Behaviour.answer, after]
  rfl

/-- What has come to a queue has been served or still waits. -/
theorem served_and_waiting (n : Nat) :
    queue.backlog + ((List.range n).map queue.arrivals).sum =
      servedFirst (queued poll) budget n queue +
        ((queued poll).pumpAfter budget n queue).backlog := by
  induction n with
  | zero => simp [servedFirst, Behaviour.pumpAfter]
  | succ n ih =>
    have next := ((queued poll).pumpAfter budget n queue).serve_backlog budget
    simp only [arrivals_after, Nat.add_zero] at next
    rw [servedFirst_succ, List.range_succ, List.map_append, List.sum_append, List.map_singleton,
      List.sum_singleton, ← Nat.add_assoc, ih, Behaviour.pumpAfter_succ, Nat.add_assoc, next,
      ← Nat.add_assoc]
    rfl

end Queues

/-! ## Within the budget -/

/-- **The budget.** A queue that never serves more than it may be asked for is served in portions,
one between two polls. After `n` steps, of which `k` went on, it has been served `k` times and has
served at most `k` times the budget, exactly so many events if at least the budget was waiting each
time; and as long as `n` polls and `n` full servings have room, the counters say what happened, with
no overflow on the way. What a `Queue` had and what it received is what was served of it and what
is left in it; and what arrives after the exit was seen stays there. -/
theorem served_within_budget (b : Behaviour C M) (child : C) (pump : M) (config : SupervisorConfig)
    (world : World (List Moment))
    (bounded : ∀ i, b.count config.budget i pump ≤ config.budget) :
    (∀ operations, ∃ answers s history,
      (Supervisor.start child pump config).performAll b.services operations world =
        ((answers, s), replay world history) ∧
      Rationed config.budget (callsOf history) ∧
      ∀ outcome final, s.run b.services (replay world history) = some (outcome, final) →
        ∃ more, final = replay world (history ++ more) ∧
          Rationed config.budget (callsOf (history ++ more))) ∧
    ∀ n, ∃ k ≤ n, ∃ s history,
      (Supervisor.start child pump config).performAll b.services (List.replicate n .step) world =
        ((List.replicate k (.phase .running) ++ List.replicate (n - k) (.phase .terminated), s),
          replay world history) ∧
      (callsOf history).countP Call.isDispatch = k ∧
      servedBy (callsOf history) ≤ k * config.budget.toNat ∧
      (∀ pending : M → Nat,
        (∀ i < k, config.budget.toNat ≤ pending (b.pumpAfter config.budget i pump) ∧
          (b.count config.budget i pump).toNat =
            min (pending (b.pumpAfter config.budget i pump)) config.budget.toNat) →
        servedBy (callsOf history) = k * config.budget.toNat) ∧
      (n < 2 ^ 64 → n * config.budget.toNat < 2 ^ 64 →
        s.polls.toNat = (callsOf history).countP Call.isStatus ∧
        s.dispatched.toNat = servedBy (callsOf history) ∧
        ∀ i < n, ∀ before reached,
          (Supervisor.start child pump config).steps b.services i world = (before, reached) →
          before.phase = .running →
          before.polls.toNat + 1 < 2 ^ 64 ∧
            before.dispatched.toNat + (b.dispatch before.pump config.budget).1.toNat < 2 ^ 64) ∧
      ∀ queue : Queue, ∃ s' history',
        (Supervisor.start child queue config).performAll (queued b.poll).services
            (List.replicate n .step) world =
          ((List.replicate k (.phase .running) ++ List.replicate (n - k) (.phase .terminated), s'),
            replay world history') ∧
        queue.backlog + ((List.range k).map queue.arrivals).sum =
          servedBy (callsOf history') + s'.pump.backlog ∧
        s'.pump.arrivals = (fun i => queue.arrivals (k + i)) ∧
        (n < 2 ^ 64 → n * config.budget.toNat < 2 ^ 64 →
          s'.dispatched.toNat = servedBy (callsOf history')) ∧
        (s'.phase = .terminated → ∀ operations, ∃ answers,
          s'.performAll (queued b.poll).services operations (replay world history') =
            ((answers, s'), replay world history')) := by
  constructor
  · intro operations
    obtain ⟨answers, s, history, performed, progress⟩ :=
      (progress_start : Progress b child pump config _ _).performAll operations world
    rw [List.nil_append] at progress
    refine ⟨answers, s, history, performed, progress.rationed bounded, fun outcome final ran => ?_⟩
    obtain ⟨s', more, -, -, rfl, progress'⟩ := progress.run ran
    refine ⟨_, (replay_append _ _ _).symm, ?_⟩
    have rationed := progress'.rationed bounded
    simpa using rationed
  · intro n
    obtain ⟨k, le, goesOn, ends⟩ := exists_last_round b child n
    obtain ⟨s, history, performed, progress, polled, dispatches, served, -⟩ :=
      exists_books pump config world le goesOn ends
    have least : servedFirst b config.budget k pump ≤ k * config.budget.toNat :=
      servedFirst_le bounded
    have most : k * config.budget.toNat ≤ n * config.budget.toNat := Nat.mul_le_mul_right _ le
    refine ⟨k, le, s, history, performed, dispatches, served.trans_le least, ?_, ?_, ?_⟩
    · intro pending full
      rw [served]
      refine servedFirst_eq fun i below => ?_
      rw [(full i below).2, Nat.min_eq_right (full i below).1]
    · intro pollsFit eventsFit
      refine ⟨progress.accounts.polls (by omega), progress.accounts.events (by omega), ?_⟩
      intro i below before reached stepped running
      exact room_before_step pump config world bounded below pollsFit eventsFit stepped running
    · intro queue
      simp only [← answer_queued b] at goesOn ends
      obtain ⟨s', history', performed', progress', -, -, served', pump'⟩ :=
        exists_books (b := queued b.poll) queue config world le goesOn ends
      have least' : servedFirst (queued b.poll) config.budget k queue ≤ k * config.budget.toNat :=
        servedFirst_le fun i => Queue.serve_le _ _
      have left : s'.pump = (queued b.poll).pumpAfter config.budget k queue :=
        pump'.elim id id
      refine ⟨s', history', performed', ?_, ?_, ?_, ?_⟩
      · rw [served', left, served_and_waiting]
      · rw [left, arrivals_after]
      · intro pollsFit eventsFit
        exact progress'.accounts.events (by omega)
      · intro terminated operations
        exact performAll_of_terminated terminated operations _

/-- A child that is active twice and then exits, beside a queue that never runs dry. -/
theorem served_within_budget_of_flood :
    ∃ k ≤ 5, ∃ s history,
      (Supervisor.start [.active, .active, .exited (some 7)] (⟨9, fun _ => 6⟩ : Queue)
        ⟨1000000, 4⟩).performAll (queued listed.poll).services (List.replicate 5 .step)
        ⟨.empty, .live [], ⟨[]⟩, [], []⟩ =
        ((List.replicate k (.phase .running) ++ List.replicate (5 - k) (.phase .terminated), s),
          replay ⟨.empty, .live [], ⟨[]⟩, [], []⟩ history) ∧
      servedBy (callsOf history) ≤ k * 4 ∧ s.dispatched.toNat = servedBy (callsOf history) := by
  obtain ⟨k, le, s, history, performed, -, least, -, counters, -⟩ :=
    (served_within_budget (queued listed.poll) [.active, .active, .exited (some 7)]
      (⟨9, fun _ => 6⟩ : Queue) ⟨1000000, 4⟩ ⟨.empty, .live [], ⟨[]⟩, [], []⟩
      fun i => Queue.serve_le _ _).2 5
  exact ⟨k, le, s, history, performed, least, (counters (by decide) (by decide)).2.1⟩

end AppLauncher.Scripted
