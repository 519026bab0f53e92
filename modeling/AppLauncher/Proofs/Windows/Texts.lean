import AppLauncher.Proofs.Launch.Names
import AppLauncher.Proofs.Text.Utf16
import AppLauncher.Proofs.Windows.Messages

/-!
# The texts of a launch

A text is handed to the system as a buffer of 16-bit units with a zero at its end, and the system
reads the buffer up to its first zero. `Carries` says what a buffer is for its text. A launch hands
over the command line of its child, the name of its window's class, and the caption and the text of
a dialog (`HandsOver`); nothing else that it asks of the system has a text in it.

**`texts_handed_over`**: each of these buffers carries its text, and a child is started with exactly
the configured command line and all the arguments, if there is no zero in them.
-/

namespace AppLauncher

/-! ## Buffers -/

namespace Windows

open Utf16 (Spells)

/-- A buffer for a text: it spells the text and a zero in UTF-16, and it is read up to the first
zero of the text. -/
structure Carries (buffer : Wide) (text : String) : Prop where
  spells : Spells buffer (text.toList ++ ['\x00'])
  ended : buffer.getLast? = some 0
  /-- One zero unit ends the buffer, and the others are those of the text. -/
  zeros : buffer.count 0 = text.toList.count '\x00' + 1
  shown : buffer.shown = String.ofList (text.toList.takeWhile (· ≠ '\x00'))
  whole : '\x00' ∉ text.toList → buffer.shown = text

theorem takeWhile_append_zero (s : List Char) :
    (s ++ ['\x00']).takeWhile (· ≠ '\x00') = s.takeWhile (· ≠ '\x00') := by
  induction s with
  | nil => rfl
  | cons c s ih =>
    rw [List.cons_append, List.takeWhile_cons, List.takeWhile_cons, ih]

theorem carries_wide (text : String) : Carries (wide text) text := by
  have spells : Spells (wide text) (text.toList ++ ['\x00']) := Utf16.spells_wide text.toList
  have shown : (wide text).shown = String.ofList (text.toList.takeWhile (· ≠ '\x00')) := by
    rw [Wide.shown, spells.read_eq, takeWhile_append_zero]
  refine ⟨spells, ?_, ?_, shown, ?_⟩
  · rw [wide, Utf16.wide, List.getLast?_append]
    rfl
  · rw [spells.count_zero, List.count_append]
    rfl
  · intro zeroFree
    have all : text.toList.takeWhile (· ≠ '\x00') = text.toList := by
      refine List.takeWhile_eq_self_iff.2 fun c among => ?_
      have differs : c ≠ '\x00' := fun zero => zeroFree (zero ▸ among)
      simpa using differs
    rw [shown, all, String.ofList_toList]

theorem wide_injective : Function.Injective wide := by
  intro text text' same
  exact String.toList_injective (Utf16.wide_injective same)

/-- The class name is made apart from the other texts, and comes to the same. -/
theorem className_eq (name : String) :
    TrackingWindow.className name = wide (name ++ "NullWin") := by
  have ending : "NullWin\x00".toList = "NullWin".toList ++ ['\x00'] := rfl
  rw [TrackingWindow.className, wide, Utf16.wide, String.toList_append, String.toList_append,
    ending, ← List.append_assoc, Utf16.encode_append]
  rfl

end Windows

/-! ## The command line -/

/-- A command line has a zero only if the configured one or an argument has. -/
theorem zero_notMem_lineOf {contents : Bytes} {args : List String}
    (base : '\x00' ∉ (Utf8.toStringLossy contents).toList)
    (zeroFree : ∀ arg ∈ args, '\x00' ∉ arg.toList) :
    '\x00' ∉ (Platform.lineOf contents args).toList := by
  rw [Platform.lineOf, ← CommandLine.build_eq_join]
  generalize Utf8.toStringLossy contents = line at base ⊢
  induction args generalizing line with
  | nil => exact base
  | cons arg rest ih =>
    refine ih (fun other among => zeroFree other (List.mem_cons_of_mem arg among)) _ ?_
    have argFree := zeroFree arg List.mem_cons_self
    simp [CommandLine.quoted, base, argFree]

/-! ## The launch -/

namespace Windows

open Platform (Opened Configured Prepared lineOf)

/-- What a call of a launch hands over: no text, the command line that is configured for it, the
name of its window's class, or what a dialog says about its error. -/
inductive HandsOver (request : LaunchRequest) (world : World Desktop)
    (result : Except LaunchError Outcome) : Call → Prop where
  | nothing {call : Call} (textless : call.texts = []) : HandsOver request world result call
  | line {invocation : Invocation} {sink : Option LogSink} {opened : World Desktop}
      {directory : Path} {place : Place} {contents : Bytes} {start : ProcessStart} {code : UInt32}
      (reaches : Configured platform request world invocation sink opened directory place contents)
      (isLine : start.commandLine = wide (lineOf contents invocation.passthrough)) :
      HandsOver request world result (.createProcess start code)
  | registered {start : ClassStart} {code : UInt32}
      (named : start.name = wide (Program.nameOf request.args ++ "NullWin")) :
      HandsOver request world result (.registerClass start code)
  | created {start : WindowStart} {code : UInt32}
      (named : start.className = wide (Program.nameOf request.args ++ "NullWin")) :
      HandsOver request world result (.createWindow start code)
  | dialog {style : UInt32} {e : LaunchError} (failed : result = .error e) :
      HandsOver request world result (.messageBox style (wide e.caption) (wide e.message))

section Launch

variable {request : LaunchRequest} {world opened ready : World Desktop} {invocation : Invocation}
  {sink : Option LogSink} {directory : Path} {place : Place} {contents : Bytes}
  {result : Except LaunchError Outcome}

theorem handsOver_of_textless {call : Call} (textless : call.texts = []) :
    call.isCreation = false ∧ HandsOver request world result call := by
  refine ⟨?_, .nothing textless⟩
  cases call <;> first | rfl | cases textless

theorem handsOver_of_aboutWindow {call : Call}
    (reaches : Opened platform request world invocation sink opened)
    (aboutWindow : call.isAboutWindow = true)
    (named : ∀ text ∈ call.texts, text = TrackingWindow.className invocation.launcherName) :
    call.isCreation = false ∧ HandsOver request world result call := by
  refine ⟨Call.isCreation_of_isAside (Call.isAside_of_isAboutWindow aboutWindow), ?_⟩
  rw [className_eq, reaches.launcherName_eq] at named
  cases call with
  | registerClass start code => exact .registered (named _ (by simp [Call.texts]))
  | createWindow start code => exact .created (named _ (by simp [Call.texts]))
  | getModuleHandle | showWindow | isWindow => exact .nothing rfl
  | _ => cases aboutWindow

theorem textless_readying {output : SystemHandle} {asked : List Call}
    (inherits : Inherits sink output asked) : ∀ call ∈ readying asked, call.texts = [] := by
  cases inherits with
  | unlogged => simp [readying, Call.texts]
  | logged sink code => simp [readying, Call.texts]

/-- A launch that is configured starts one child, with the configured line. -/
theorem handsOver_of_configured
    (reaches : Configured platform request world invocation sink opened directory place contents) :
    ∃ result watched status final before start code later,
      (platform.supervise request).run world = some (result, watched) ∧
      platform.launch request world = some (status, final) ∧
      final.system.calls = world.system.calls ++
        (before ++ Call.createProcess start code :: later) ∧
      start.commandLine = wide (lineOf contents invocation.passthrough) ∧
      ∀ call ∈ before ++ later, call.isCreation = false ∧ HandsOver request world result call := by
  obtain ⟨output, asked, spawned, spawns, inherits, calls⟩ := calls_of_spawn reaches
  let start := processStart (lineOf contents invocation.passthrough) output
  have isLine : start.commandLine = wide (lineOf contents invocation.passthrough) := rfl
  have textless := textless_readying inherits
  cases creates : creationError world.system.script.spawnError with
  | some reason =>
    -- The system refuses the process, so a dialog is all that follows.
    rw [creates] at spawns
    obtain ⟨stops, final, launched, shown⟩ := launch_of_stopped (.unstarted reaches spawns)
    rw [calls, List.append_assoc, List.append_assoc, List.cons_append, List.nil_append] at shown
    refine ⟨_, _, _, final, readying asked, start, _, _, stops, launched, shown, isLine, ?_⟩
    intro call among
    rcases List.mem_append.1 among with among | among
    · exact handsOver_of_textless (textless call among)
    · rw [List.mem_singleton.1 among]
      exact ⟨rfl, .dialog rfl⟩
  | none =>
    -- The child is started, and only the calls about the window have texts from then on.
    rw [creates] at spawns
    obtain ⟨pump, ready, windowCalls, opens, aboutWindow, named, acted⟩ :=
      acted_openFor invocation.launcherName spawned
    obtain ⟨outcome, after, watching, taken, exitCode, closed, closed', ran, drains, -, -, quiet⟩ :=
      drains_of_run world.system.script.child pump request.supervision ready
    obtain ⟨watched, launched⟩ := launch_of_watched (.started reaches spawns opens) ran
    have made := drains.calls
    rw [acted.calls, calls, List.append_assoc, List.append_assoc, List.append_assoc,
      List.cons_append, List.nil_append] at made
    refine ⟨_, _, _, after, readying asked, start, _, _, watched, launched, made, isLine, ?_⟩
    intro call among
    rcases List.mem_append.1 among with among | among
    · exact handsOver_of_textless (textless call among)
    rcases List.mem_append.1 among with among | among
    · exact handsOver_of_aboutWindow reaches.toOpened (aboutWindow call among) (named call among)
    rcases List.mem_append.1 among with among | among
    · exact handsOver_of_textless (quiet call among).2
    · refine handsOver_of_textless ?_
      simp only [ending, List.mem_cons, List.not_mem_nil, or_false] at among
      rcases among with rfl | rfl | rfl | rfl <;> rfl

/-- A launch that is not configured starts no child, and hands over nothing but its dialog. -/
theorem handsOver_of_unconfigured
    (unconfigured : ∀ invocation sink opened directory place contents,
      ¬ Configured platform request world invocation sink opened directory place contents) :
    ∃ result watched status final made,
      (platform.supervise request).run world = some (result, watched) ∧
      platform.launch request world = some (status, final) ∧
      final.system.calls = world.system.calls ++ made ∧
      ∀ call ∈ made, HandsOver request world result call := by
  obtain ⟨result, ready, prepared⟩ := Platform.exists_prepared platform request world
  cases result with
  | ok s =>
    cases prepared with
    | started reaches spawns opens => exact absurd reaches (unconfigured _ _ _ _ _ _)
  | error e =>
    obtain ⟨stops, final, launched, shown⟩ := launch_of_stopped prepared
    rcases stopped_cases prepared with
      ⟨made, atMost, calls⟩ | ⟨_, _, _, _, _, _, _, reaches, -⟩
    · have textless : ∀ call ∈ made, call.texts = [] := by
        rcases atMost with rfl | rfl <;> simp [Call.texts]
      rw [calls, List.append_assoc] at shown
      refine ⟨_, ready, _, final, _, stops, launched, shown, fun call among => ?_⟩
      rcases List.mem_append.1 among with among | among
      · exact .nothing (textless call among)
      · rw [List.mem_singleton.1 among]
        exact .dialog rfl
    · exact absurd reaches (unconfigured _ _ _ _ _ _)

end Launch

/-- **The texts of a launch.** The buffer of a text is its UTF-16 with a zero unit after it, a
reader finds in it what stands before the first zero, and no other text has this buffer; the class
name is made in the same way. A launch hands over the command line that is configured for it, the
class name after its own name, and the caption and the text of the error that it ends in. When it is
configured, it starts one child, with exactly the configured command line and all the arguments if
there is no zero in them. -/
theorem texts_handed_over :
    (∀ text, Carries (wide text) text) ∧ Function.Injective wide ∧
    (∀ name, TrackingWindow.className name = wide (name ++ "NullWin")) ∧
    (∀ (request : LaunchRequest) (world : World Desktop), ∃ result watched status final made,
      (platform.supervise request).run world = some (result, watched) ∧
      platform.launch request world = some (status, final) ∧
      final.system.calls = world.system.calls ++ made ∧
      ∀ call ∈ made, HandsOver request world result call) ∧
    ∀ request world invocation sink opened directory place contents,
      Configured platform request world invocation sink opened directory place contents →
      ∃ status final before start code later,
        platform.launch request world = some (status, final) ∧
        final.system.calls = world.system.calls ++
          (before ++ Call.createProcess start code :: later) ∧
        (∀ call ∈ before ++ later, call.isCreation = false) ∧
        start.commandLine = wide (lineOf contents invocation.passthrough) ∧
        ('\x00' ∉ (Utf8.toStringLossy contents).toList →
          (∀ arg ∈ invocation.passthrough, '\x00' ∉ arg.toList) →
          start.commandLine.shown = lineOf contents invocation.passthrough) := by
  refine ⟨carries_wide, wide_injective, className_eq, ?_, ?_⟩
  · intro request world
    by_cases configured : ∃ invocation sink opened directory place contents,
        Configured platform request world invocation sink opened directory place contents
    · obtain ⟨invocation, sink, opened, directory, place, contents, reaches⟩ := configured
      obtain ⟨result, watched, status, final, before, start, code, later, supervised, launched,
        calls, isLine, others⟩ := handsOver_of_configured reaches
      refine ⟨result, watched, status, final, _, supervised, launched, calls, fun call among => ?_⟩
      rw [List.mem_append, List.mem_cons, or_left_comm, ← List.mem_append] at among
      rcases among with rfl | among
      · exact .line reaches isLine
      · exact (others call among).2
    · push Not at configured
      exact handsOver_of_unconfigured configured
  · intro request world invocation sink opened directory place contents reaches
    obtain ⟨result, watched, status, final, before, start, code, later, -, launched, calls, isLine,
      others⟩ := handsOver_of_configured reaches
    refine ⟨status, final, before, start, code, later, launched, calls,
      fun call among => (others call among).1, isLine, ?_⟩
    intro base zeroFree
    rw [isLine]
    exact (carries_wide _).whole (zero_notMem_lineOf base zeroFree)

end Windows

end AppLauncher
