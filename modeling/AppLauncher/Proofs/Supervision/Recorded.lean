import AppLauncher.Proofs.Supervision.Rounds
import AppLauncher.Scripted

/-!
# The record of a supervision

On a scripted platform everything that happens is either an event of the log or a recorded call, and
a call is recorded together with the length of the log. So the world shows in which order events and
calls came: `replay` adds a list of happenings to a world, and different lists give different worlds
(`replay_injective`).
-/

namespace AppLauncher.Scripted

/-- Something that a launch told the log, or a call that it made. -/
inductive Happening where
  | event (event : Event)
  | call (call : Call)
  deriving DecidableEq, Repr

namespace Happening

/-- The world after one happening. -/
def addTo (world : World (List Moment)) : Happening → World (List Moment)
  | event e => world.noteAll [e]
  | call c => { world with system := world.system ++ [⟨c, world.log.length⟩] }

/-- What the log was told. -/
def event? : Happening → Option Event
  | event e => some e
  | call _ => none

/-- The call that was made. -/
def call? : Happening → Option Call
  | event _ => none
  | call c => some c

end Happening

/-- The world after some happenings, the first of them first. -/
def replay (world : World (List Moment)) (happenings : List Happening) : World (List Moment) :=
  happenings.foldl Happening.addTo world

/-- The calls among some happenings. -/
def callsOf (happenings : List Happening) : List Call :=
  happenings.filterMap Happening.call?

/-- The events among some happenings. -/
def eventsOf (happenings : List Happening) : List Event :=
  happenings.filterMap Happening.event?

section Parts

@[simp] theorem callsOf_nil : callsOf [] = [] := rfl

@[simp] theorem callsOf_event (e : Event) (rest : List Happening) :
    callsOf (.event e :: rest) = callsOf rest := rfl

@[simp] theorem callsOf_call (c : Call) (rest : List Happening) :
    callsOf (.call c :: rest) = c :: callsOf rest := rfl

@[simp] theorem callsOf_append (first more : List Happening) :
    callsOf (first ++ more) = callsOf first ++ callsOf more :=
  List.filterMap_append

@[simp] theorem callsOf_events (events : List Event) : callsOf (events.map .event) = [] := by
  induction events with
  | nil => rfl
  | cons e rest ih => exact ih

@[simp] theorem eventsOf_nil : eventsOf [] = [] := rfl

@[simp] theorem eventsOf_event (e : Event) (rest : List Happening) :
    eventsOf (.event e :: rest) = e :: eventsOf rest := rfl

@[simp] theorem eventsOf_call (c : Call) (rest : List Happening) :
    eventsOf (.call c :: rest) = eventsOf rest := rfl

@[simp] theorem eventsOf_append (first more : List Happening) :
    eventsOf (first ++ more) = eventsOf first ++ eventsOf more :=
  List.filterMap_append

@[simp] theorem eventsOf_events (events : List Event) :
    eventsOf (events.map .event) = events := by
  induction events with
  | nil => rfl
  | cons e rest ih => exact congrArg (e :: ·) ih

end Parts

section Replay

variable (world : World (List Moment))

@[simp] theorem replay_nil : replay world [] = world := rfl

theorem replay_cons (h : Happening) (rest : List Happening) :
    replay world (h :: rest) = replay (h.addTo world) rest := rfl

theorem replay_append (first more : List Happening) :
    replay world (first ++ more) = replay (replay world first) more := by
  simp [replay]

theorem replay_events (events : List Event) :
    replay world (events.map .event) = world.noteAll events := by
  induction events generalizing world with
  | nil => simp
  | cons e rest ih =>
    rw [List.map_cons, replay_cons, ih]
    change (world.noteAll [e]).noteAll rest = _
    rw [← World.noteAll_append]
    rfl

@[simp] theorem replay_files (happenings : List Happening) :
    (replay world happenings).files = world.files := by
  induction happenings generalizing world with
  | nil => rfl
  | cons h rest ih =>
    rw [replay_cons, ih]
    cases h <;> rfl

@[simp] theorem replay_here (happenings : List Happening) :
    (replay world happenings).here = world.here := by
  induction happenings generalizing world with
  | nil => rfl
  | cons h rest ih =>
    rw [replay_cons, ih]
    cases h <;> rfl

theorem replay_log (happenings : List Happening) :
    (replay world happenings).log = world.log ++ eventsOf happenings := by
  induction happenings generalizing world with
  | nil => simp
  | cons h rest ih =>
    rw [replay_cons, ih]
    cases h <;> simp [Happening.addTo]

theorem replay_calls (happenings : List Happening) :
    (replay world happenings).system.map Moment.call =
      world.system.map Moment.call ++ callsOf happenings := by
  induction happenings generalizing world with
  | nil => simp
  | cons h rest ih =>
    rw [replay_cons, ih]
    cases h <;> simp [Happening.addTo, World.noteAll]

/-- What is added to the record by some happenings was recorded no earlier than the log had its
present length. -/
theorem told_of_replay (happenings : List Happening) :
    ∃ moments, (replay world happenings).system = world.system ++ moments ∧
      ∀ m ∈ moments, world.log.length ≤ m.told := by
  induction happenings generalizing world with
  | nil => exact ⟨[], by simp, by simp⟩
  | cons h rest ih =>
    obtain ⟨moments, system_eq, told⟩ := ih (h.addTo world)
    rw [replay_cons, system_eq]
    cases h with
    | event e =>
      refine ⟨moments, rfl, fun m hm => ?_⟩
      have longer := told m hm
      simp only [Happening.addTo, World.noteAll_log, List.length_append] at longer
      omega
    | call c =>
      refine ⟨⟨c, world.log.length⟩ :: moments, by simp [Happening.addTo], fun m hm => ?_⟩
      rcases List.mem_cons.1 hm with rfl | hm
      · exact Nat.le_refl _
      · exact told m hm

theorem length_of_replay (happenings : List Happening) :
    (replay world happenings).log.length + (replay world happenings).system.length =
      world.log.length + world.system.length + happenings.length := by
  induction happenings generalizing world with
  | nil => rfl
  | cons h rest ih =>
    rw [replay_cons, ih]
    cases h <;> simp [Happening.addTo, World.noteAll] <;> omega

end Replay

theorem replay_event_ne_call (world : World (List Moment)) (e : Event) (c : Call)
    (first second : List Happening) :
    replay world (.event e :: first) ≠ replay world (.call c :: second) := by
  intro same
  obtain ⟨moments, left, told⟩ := told_of_replay (Happening.addTo world (.event e)) first
  obtain ⟨others, right, -⟩ := told_of_replay (Happening.addTo world (.call c)) second
  rw [replay_cons, replay_cons] at same
  rw [same, right] at left
  simp only [Happening.addTo, World.noteAll, List.append_assoc, List.append_cancel_left_eq] at left
  have late := told ⟨c, world.log.length⟩ (by rw [← left]; simp)
  simp only [Happening.addTo, World.noteAll_log, List.length_append, List.length_singleton] at late
  omega

/-- The world shows what happened, and in which order. -/
theorem replay_injective (world : World (List Moment)) {first second : List Happening}
    (same : replay world first = replay world second) : first = second := by
  induction first generalizing world second with
  | nil =>
    have lengths := length_of_replay world second
    rw [← same, replay_nil] at lengths
    exact (List.length_eq_zero_iff.1 (by omega)).symm
  | cons h rest ih =>
    cases second with
    | nil =>
      have lengths := length_of_replay world (h :: rest)
      rw [same, replay_nil, List.length_cons] at lengths
      omega
    | cons h' rest' =>
      cases h with
      | event e =>
        cases h' with
        | call c => exact absurd same (replay_event_ne_call world e c rest rest')
        | event e' =>
          have logs := congrArg World.log same
          rw [replay_log, replay_log, List.append_cancel_left_eq] at logs
          simp only [eventsOf_event, List.cons.injEq] at logs
          obtain ⟨rfl, -⟩ := logs
          rw [ih _ same]
      | call c =>
        cases h' with
        | event e => exact absurd same.symm (replay_event_ne_call world e c rest' rest)
        | call c' =>
          have calls := congrArg (fun w => w.system.map Moment.call) same
          simp only [replay_calls, List.append_cancel_left_eq] at calls
          simp only [callsOf_call, List.cons.injEq] at calls
          obtain ⟨rfl, -⟩ := calls
          rw [ih _ same]

end AppLauncher.Scripted
