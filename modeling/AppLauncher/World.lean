import AppLauncher.FileSystem.Access
import AppLauncher.LaunchError
import AppLauncher.Log

/-!
# What a launch can change

The files, the working directory, the log, and whatever the platform keeps for itself. A step that
cannot fail is a state transformer on the world; a step that can stop the launch carries a
`LaunchError` beside it. Watching a child takes as long as the child runs, which may be for ever, so
such a step has a result only if it comes to its end.
-/

namespace AppLauncher

/-- Everything around a launch. `σ` is what the platform keeps. -/
structure World (σ : Type) where
  files : FileSystem
  /-- The working directory. -/
  here : Place
  /-- The directory that holds the running executable. -/
  executableDirectory : Path
  log : List Event
  system : σ

abbrev Acting (σ : Type) := StateM (World σ)

/-- A step that can stop the launch. What it did before it stopped stays done. -/
abbrev Launching (σ : Type) := ExceptT LaunchError (Acting σ)

/-- A step that may go on for ever. -/
abbrev Waiting (σ : Type) := StateT (World σ) Option

/-- A step that can stop the launch and may go on for ever. -/
abbrev Supervising (σ : Type) := ExceptT LaunchError (Waiting σ)

instance {σ : Type} : MonadLift (Acting σ) (Waiting σ) where
  monadLift step := fun world => some (step world)

instance {σ : Type} : MonadLift (Launching σ) (Supervising σ) where
  monadLift step := ExceptT.mk (m := Waiting σ) fun world => some (step.run world)

namespace World

variable {σ τ : Type}

/-- The world with another platform's state. -/
def withSystem (world : World σ) (system : τ) : World τ :=
  { world with system }

/-- The world after more events. -/
def noteAll (world : World σ) (events : List Event) : World σ :=
  { world with log := world.log ++ events }

end World

def noteAll {σ : Type} {m : Type → Type} [MonadState (World σ) m] (events : List Event) : m Unit :=
  modify fun world => world.noteAll events

def note {σ : Type} {m : Type → Type} [MonadState (World σ) m] (level : Level) (origin : Origin)
    (text : String) : m Unit :=
  noteAll [⟨level, origin, text⟩]

end AppLauncher
