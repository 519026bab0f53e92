import AppLauncher.World

/-!
# Steps, seen at one world

A step is a function of the world, so two steps in a row are two functions in a row. The lemmas here
say so for each kind of step, together with what happens when the first of the two stops the launch
or never ends.
-/

namespace AppLauncher

variable {σ α β : Type}

namespace World

@[simp] theorem noteAll_nil (world : World σ) : world.noteAll [] = world := by
  simp [noteAll]

theorem noteAll_append (world : World σ) (events more : List Event) :
    world.noteAll (events ++ more) = (world.noteAll events).noteAll more := by
  simp [noteAll]

@[simp] theorem noteAll_files (world : World σ) (events : List Event) :
    (world.noteAll events).files = world.files := rfl

@[simp] theorem noteAll_here (world : World σ) (events : List Event) :
    (world.noteAll events).here = world.here := rfl

@[simp] theorem noteAll_log (world : World σ) (events : List Event) :
    (world.noteAll events).log = world.log ++ events := rfl

end World

/-! ## Steps that cannot fail -/

theorem acting_bind (step : Acting σ α) (next : α → Acting σ β) (world : World σ) :
    (step >>= next) world = next (step world).1 (step world).2 := rfl

theorem acting_get (next : World σ → Acting σ β) (world : World σ) :
    (get >>= next) world = next world world := rfl

theorem acting_noteAll (events : List Event) (world : World σ) :
    (noteAll events : Acting σ Unit) world = ((), world.noteAll events) := rfl

/-! ## Steps that can stop the launch -/

theorem launching_bind (step : Launching σ α) (next : α → Launching σ β) (world : World σ) :
    (step >>= next).run world = match step.run world with
      | (.ok value, after) => (next value).run after
      | (.error e, after) => (.error e, after) := by
  change ExceptT.bindCont next (step.run world).1 (step.run world).2 = _
  rcases step.run world with ⟨_ | _, _⟩ <;> rfl

/-- After a step that stops the launch, nothing else is done. -/
theorem launching_bind_error {step : Launching σ α} {next : α → Launching σ β}
    {world after : World σ} {e : LaunchError} (stops : step.run world = (.error e, after)) :
    (step >>= next).run world = (.error e, after) := by
  rw [launching_bind, stops]

theorem launching_bind_ok {step : Launching σ α} {next : α → Launching σ β}
    {world after : World σ} {value : α} (passes : step.run world = (.ok value, after)) :
    (step >>= next).run world = (next value).run after := by
  rw [launching_bind, passes]

theorem launching_lift (step : Acting σ α) (world : World σ) :
    (liftM step : Launching σ α).run world = (.ok (step world).1, (step world).2) := rfl

theorem launching_lift_eq {step : Acting σ α} {world after : World σ} {value : α}
    (acts : step world = (value, after)) :
    (liftM step : Launching σ α).run world = (.ok value, after) := by
  rw [launching_lift, acts]

theorem launching_get (next : World σ → Launching σ β) (world : World σ) :
    (get >>= next).run world = (next world).run world := rfl

theorem launching_noteAll (events : List Event) (world : World σ) :
    (noteAll events : Launching σ Unit).run world = (.ok (), world.noteAll events) := rfl

/-! ## Steps that may go on for ever -/

theorem waiting_bind (step : Waiting σ α) (next : α → Waiting σ β) (world : World σ) :
    (step >>= next) world = (step world).bind fun r => next r.1 r.2 := rfl

theorem supervising_bind (step : Supervising σ α) (next : α → Supervising σ β) (world : World σ) :
    (step >>= next).run world = (step.run world).bind fun
      | (.ok value, after) => (next value).run after
      | (.error e, after) => some (.error e, after) := by
  change (step.run world).bind (fun r => ExceptT.bindCont next r.1 r.2) = _
  congr 1
  funext r
  rcases r with ⟨_ | _, _⟩ <;> rfl

theorem supervising_lift_launching (step : Launching σ α) (world : World σ) :
    (liftM step : Supervising σ α).run world = some (step.run world) := rfl

theorem supervising_lift_waiting (step : Waiting σ α) (world : World σ) :
    (liftM step : Supervising σ α).run world = (step world).map fun r => (.ok r.1, r.2) := by
  change (step world).bind _ = _
  rw [Option.map_eq_bind]
  rfl

end AppLauncher
