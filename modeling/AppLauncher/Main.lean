import AppLauncher.Program

/-!
# The command line

What the program does on a host without a desktop, with real files and streams.
-/

open AppLauncher

/-- Writes the records of a run to the diagnostic log, or says why that was not possible. -/
def writeRecords (path : String) (text : String) : IO (Except String Unit) := do
  try
    let file ← IO.FS.Handle.mk path .append
    file.putStr text
    return .ok ()
  catch reason => return .error (toString reason)

/-- Runs the program. -/
def main : IO UInt32 := do
  let program := Utf8.ofString (← IO.appPath).toString
  let temporary := (← IO.getEnv "TMPDIR").getD "/tmp"
  let stamp := toString (← IO.monoMsNow) ++ "ms"
  let setting : Program.Setting := ⟨.ofString temporary, ← IO.getEnv "RUST_LOG", true, stamp⟩
  let name := Program.nameOf [program]
  let start : World Unit := ⟨.empty, .live [], ⟨[]⟩, [], ()⟩
  let (done, world) := (Program.apologise setting name).run start
  let records := (Diagnostics.Filter.ofSetting setting.filter).map fun filter =>
    Diagnostics.records filter stamp world.log
  let path := (Program.logPath setting.temporary name).display
  let ending := match ← writeRecords path (records.toOption.getD ""), records with
    | .error reason, _ => Program.breakDown setting (Program.unopenable reason)
    | .ok (), .error fault => Program.breakDown setting fault.message
    | .ok (), .ok _ => done
  IO.eprint ending.standardError
  return UInt32.ofNat (ending.exit.reported?.getD 1)
