import AppLauncher.Proofs.Steps
import AppLauncher.Windows.Platform

/-!
# What the calls of the desktop do

Whatever the system answers, the launcher's use of it changes no file and not the working directory:
calls are recorded, answers are used up, and the parts of the launcher that know the desktop may
tell events. `Acted` says so of two worlds, with the calls in between and with what is left of the
two lists of answers that matter later, the exit codes and the messages.

There is one lemma for each thing that a launch does with the system (`acted_poll`, `acted_release`,
`acted_dispatch`, `acted_spawn`, `acted_openFor`, …).
-/

namespace AppLauncher

/-- The parts of the launcher that know the desktop. -/
def Origin.isDesktop : Origin → Bool
  | desktop | desktopCalls | trackingWindow => true
  | _ => false

namespace Windows

/-- Between two worlds these calls were made, and these answers are left. -/
structure Acted (world after : World Desktop) (calls : List Call)
    (exitCodes : List (Except UInt32 UInt32)) (messages : List (Option QueuedMessage)) :
    Prop where
  files : after.files = world.files
  here : after.here = world.here
  executableDirectory : after.executableDirectory = world.executableDirectory
  log : ∃ events : List Event, (∀ event ∈ events, event.origin.isDesktop = true) ∧
    after.log = world.log ++ events
  calls : after.system.calls = world.system.calls ++ calls
  exitCodes : after.system.script.exitCodes = exitCodes
  messages : after.system.script.messages = messages

/-- Between two worlds these calls were made, and neither exit codes nor messages were asked for. -/
abbrev ActedAside (world after : World Desktop) (calls : List Call) : Prop :=
  Acted world after calls world.system.script.exitCodes world.system.script.messages

namespace Acted

variable {world between after : World Desktop} {calls more : List Call}
  {exitCodes exitCodes' : List (Except UInt32 UInt32)}
  {messages messages' : List (Option QueuedMessage)}

theorem nothing (world : World Desktop) : ActedAside world world [] :=
  ⟨rfl, rfl, rfl, ⟨[], nofun, by simp⟩, by simp, rfl, rfl⟩

/-- A change of the system alone, in which one call was made. -/
theorem of_system {system : Desktop} {call : Call}
    (made : system.calls = world.system.calls ++ [call]) :
    Acted world { world with system } [call] system.script.exitCodes system.script.messages :=
  ⟨rfl, rfl, rfl, ⟨[], nofun, by simp⟩, made, rfl, rfl⟩

theorem trans (first : Acted world between calls exitCodes messages)
    (second : Acted between after more exitCodes' messages') :
    Acted world after (calls ++ more) exitCodes' messages' where
  files := second.files.trans first.files
  here := second.here.trans first.here
  executableDirectory := second.executableDirectory.trans first.executableDirectory
  log := by
    obtain ⟨events, ofDesktop, told⟩ := first.log
    obtain ⟨events', ofDesktop', told'⟩ := second.log
    refine ⟨events ++ events', fun event among => ?_, by rw [told', told, List.append_assoc]⟩
    exact (List.mem_append.1 among).elim (ofDesktop event) (ofDesktop' event)
  calls := by rw [second.calls, first.calls, List.append_assoc]
  exitCodes := second.exitCodes
  messages := second.messages

/-- Calls that ask for neither exit codes nor messages leave those that there were. -/
theorem transAside (first : Acted world between calls exitCodes messages)
    (second : ActedAside between after more) :
    Acted world after (calls ++ more) exitCodes messages := by
  have both := first.trans second
  rwa [first.exitCodes, first.messages] at both

/-- An event of the desktop does not matter. -/
theorem told (acted : Acted world after calls exitCodes messages) (level : Level)
    {origin : Origin} (text : String) (isDesktop : origin.isDesktop = true) :
    Acted world (after.noteAll [⟨level, origin, text⟩]) calls exitCodes messages where
  files := acted.files
  here := acted.here
  executableDirectory := acted.executableDirectory
  log := by
    obtain ⟨events, ofDesktop, log⟩ := acted.log
    refine ⟨events ++ [⟨level, origin, text⟩], fun event among => ?_,
      by rw [World.noteAll_log, log, List.append_assoc]⟩
    rcases List.mem_append.1 among with among | among
    · exact ofDesktop event among
    · rw [List.mem_singleton.1 among]
      exact isDesktop
  calls := acted.calls
  exitCodes := acted.exitCodes
  messages := acted.messages

end Acted

/-! ## The child -/

section Child

variable (child : Child) (world : World Desktop)

/-- A poll asks for one exit code. -/
theorem acted_poll :
    ∃ after, child.poll world =
        ((pollOf ((world.system.script.exitCodes.headD (.ok 0)).mapError Failure.ofCode), child),
          after) ∧
      Acted world after
        [.getExitCodeProcess child.process (world.system.script.exitCodes.headD (.ok 0))]
        world.system.script.exitCodes.tail world.system.script.messages :=
  ⟨_, rfl, .of_system rfl⟩

theorem acted_close (handle : SystemHandle) :
    ∃ code, ActedAside world (child.close handle world).2 [.closeHandle handle code] := by
  let code := world.system.script.closeErrors.headD 0
  let after := (Desktop.closeHandle handle world).2
  have closed : ActedAside world after [.closeHandle handle code] := .of_system rfl
  have answers : Desktop.closeHandle handle world = (Desktop.answer code, after) := rfl
  refine ⟨code, ?_⟩
  rw [Child.close, acting_bind, answers, Desktop.answer]
  by_cases done : code = 0
  · rw [if_pos done]
    exact closed
  · rw [if_neg done]
    exact closed.told .warn _ rfl

/-- Both handles are closed, whether closing them fails or not. -/
theorem acted_release :
    ∃ code code', ActedAside world (child.release world).2
      [.closeHandle child.process code, .closeHandle child.thread code'] := by
  obtain ⟨code, first⟩ := acted_close child world child.process
  obtain ⟨code', second⟩ := acted_close child (child.close child.process world).2 child.thread
  exact ⟨code, code', first.transAside second⟩

end Child

/-! ## The windows -/

/-- A step that creates no window. -/
def KeepsWindows {α : Type} (step : OnDesktop α) : Prop :=
  ∀ world, (step world).2.system.windows = world.system.windows

theorem KeepsWindows.bind {α β : Type} {step : OnDesktop α} {next : α → OnDesktop β}
    (first : KeepsWindows step) (others : ∀ value, KeepsWindows (next value)) :
    KeepsWindows (step >>= next) :=
  fun world => (others _ _).trans (first world)

theorem keepsWindows_pure {α : Type} (value : α) : KeepsWindows (pure value) :=
  fun _ => rfl

theorem keepsWindows_poll (child : Child) : KeepsWindows child.poll :=
  fun _ => rfl

theorem keepsWindows_close (child : Child) (handle : SystemHandle) :
    KeepsWindows (child.close handle) := by
  have closes : KeepsWindows (Desktop.closeHandle handle) := fun _ => rfl
  refine closes.bind fun answer => ?_
  cases answer with
  | ok done => exact keepsWindows_pure ()
  | error failure => exact fun _ => rfl

theorem keepsWindows_release (child : Child) : KeepsWindows child.release :=
  (keepsWindows_close child child.process).bind fun _ => keepsWindows_close child child.thread

/-- The procedure of a window creates no other window. -/
theorem keepsWindows_dispatchMessage (message : Message) :
    KeepsWindows (Desktop.dispatchMessage TrackingWindow.procedure message) := by
  have handled : KeepsWindows (TrackingWindow.procedure message) := by
    rw [TrackingWindow.procedure]
    split
    · exact keepsWindows_pure 0
    · exact fun _ => rfl
  intro world
  rw [Desktop.dispatchMessage]
  by_cases forThread : message.window = 0
  · simp only [if_pos forThread]
    rfl
  · simp only [if_neg forThread]
    exact handled _

theorem keepsWindows_serve (served budget : Nat) : KeepsWindows (Pump.serve served budget) := by
  induction budget generalizing served with
  | zero => exact keepsWindows_pure served
  | succ budget ih =>
    have peeks : KeepsWindows Desktop.peekMessage := fun _ => rfl
    refine peeks.bind fun answer => ?_
    cases answer with
    | none => exact keepsWindows_pure served
    | some message =>
      have translates : KeepsWindows (Desktop.translateMessage message) := fun _ => rfl
      exact translates.bind fun _ => (keepsWindows_dispatchMessage message).bind fun _ =>
        ih (served + 1)

theorem keepsWindows_dispatch (pump : Pump) (budget : UInt64) :
    KeepsWindows (pump.dispatch budget) :=
  (keepsWindows_serve 0 budget.toNat).bind fun _ => keepsWindows_pure _

/-! ## The messages -/

/-- The message that a desktop makes of one in its queue. -/
def Desktop.addressed (desktop : Desktop) (queued : QueuedMessage) : Message :=
  ⟨if queued.toThread then 0 else desktop.windows.headD 0, queued.number, queued.wparam,
    queued.lparam⟩

/-- The messages that are asked for before the queue is first found empty. -/
def waiting : List (Option QueuedMessage) → List QueuedMessage
  | some queued :: rest => queued :: waiting rest
  | _ => []

/-- The message that a call takes from the queue. -/
def Call.removed? : Call → Option Message
  | peekMessage answer => answer
  | _ => none

/-- How many messages are served with a budget, and which answers are left then. -/
def serveQueued : Nat → List (Option QueuedMessage) → Nat × List (Option QueuedMessage)
  | 0, messages => (0, messages)
  | _ + 1, [] => (0, [])
  | _ + 1, none :: rest => (0, rest)
  | budget + 1, some _ :: rest =>
    let (count, left) := serveQueued budget rest
    (count + 1, left)

/-- The calls by which messages are served within a budget: until it is used up, or until no message
waits. The procedure of the window may hand a message on to the system. -/
inductive Serving : (budget count : Nat) → List Call → Prop where
  | full : Serving 0 0 []
  | idle (budget : Nat) : Serving (budget + 1) 0 [.peekMessage none]
  | next {budget count : Nat} {rest : List Call} (message : Message) (handedOn : List Call)
      (result : Int64) (byDefault : handedOn = [] ∨ handedOn = [.defaultProcedure message])
      (serving : Serving budget count rest) :
      Serving (budget + 1) (count + 1)
        (.peekMessage (some message) :: .translateMessage message :: .dispatchMessage message ::
          handedOn ++ .dispatched result :: rest)

/-- A call that neither starts a process nor uses a handle that a launch has to do with. -/
def Call.isAside : Call → Bool
  | setHandleInformation _ _ _ _ | createProcess _ _ | getExitCodeProcess _ _ | closeHandle _ _
  | postQuitMessage _ => false
  | _ => true

/-- Serving messages has nothing to do with processes and handles. -/
theorem aside_of_serving {budget count : Nat} {calls : List Call}
    (serving : Serving budget count calls) : ∀ call ∈ calls, call.isAside = true := by
  induction serving with
  | full => simp
  | idle budget => simp [Call.isAside]
  | next message handedOn result byDefault serving ih =>
    rcases byDefault with rfl | rfl
    · simpa [Call.isAside] using ih
    · simpa [Call.isAside] using ih

/-- Handing out a message calls the procedure of its window, if it has one. -/
theorem acted_dispatchMessage (message : Message) (world : World Desktop) :
    ∃ handedOn result, (handedOn = [] ∨ handedOn = [.defaultProcedure message]) ∧
      ActedAside world (Desktop.dispatchMessage TrackingWindow.procedure message world).2
        (.dispatchMessage message :: handedOn ++ [.dispatched result]) := by
  have begins : ActedAside world (Desktop.record (.dispatchMessage message) world).2
      [.dispatchMessage message] := .of_system rfl
  have ends : ∀ (between : World Desktop) (result : Int64),
      ActedAside between (Desktop.record (.dispatched result) between).2 [.dispatched result] :=
    fun between result => .of_system rfl
  rw [Desktop.dispatchMessage]
  by_cases forThread : message.window = 0
  · simp only [if_pos forThread]
    exact ⟨[], 0, .inl rfl, begins.transAside (ends _ 0)⟩
  simp only [if_neg forThread, TrackingWindow.procedure]
  by_cases nothingToDo : message.number = messageCreate ∨ message.number = messageSize
      ∨ message.number = messageDestroy
  · simp only [if_pos nothingToDo]
    exact ⟨[], 0, .inl rfl, begins.transAside (ends _ 0)⟩
  · simp only [if_neg nothingToDo]
    have handed : ∀ between : World Desktop,
        ActedAside between (Desktop.defaultProcedure message between).2
          [.defaultProcedure message] := fun between => .of_system rfl
    exact ⟨[.defaultProcedure message], _, .inr rfl,
      (begins.transAside (handed _)).transAside (ends _ _)⟩

theorem acted_peekMessage (world : World Desktop) :
    let answer := (world.system.script.messages.headD none).map world.system.addressed
    ∃ after, Desktop.peekMessage world = (answer, after) ∧
      Acted world after [.peekMessage answer] world.system.script.exitCodes
        world.system.script.messages.tail :=
  ⟨_, rfl, .of_system rfl⟩

theorem waiting_idle {messages : List (Option QueuedMessage)} (idle : messages.headD none = none) :
    waiting messages = [] := by
  cases messages with
  | nil => rfl
  | cons head rest =>
    obtain rfl : head = none := idle
    rfl

theorem serveQueued_idle {messages : List (Option QueuedMessage)}
    (idle : messages.headD none = none) (budget : Nat) :
    serveQueued (budget + 1) messages = (0, messages.tail) := by
  cases messages with
  | nil => rfl
  | cons head rest =>
    obtain rfl : head = none := idle
    rfl

/-- Messages are served as the answers and the budget have it. -/
theorem acted_serve (served budget : Nat) (world : World Desktop) :
    ∃ after calls, Pump.serve served budget world =
        (served + (serveQueued budget world.system.script.messages).1, after) ∧
      Serving budget (serveQueued budget world.system.script.messages).1 calls ∧
      calls.filterMap Call.removed? =
        ((waiting world.system.script.messages).take budget).map world.system.addressed ∧
      Acted world after calls world.system.script.exitCodes
        (serveQueued budget world.system.script.messages).2 := by
  induction budget generalizing served world with
  | zero => exact ⟨world, [], rfl, .full, by simp, .nothing world⟩
  | succ budget ih =>
    obtain ⟨peekedWorld, peeked, acted⟩ := acted_peekMessage world
    cases found : world.system.script.messages.headD none with
    | none =>
      rw [found] at peeked acted
      rw [serveQueued_idle found, waiting_idle found]
      refine ⟨peekedWorld, _, ?_, .idle budget, rfl, acted⟩
      rw [Pump.serve, acting_bind, peeked]
      rfl
    | some queued =>
      -- One message is served, and then others from the world that this leaves.
      obtain ⟨rest, messages⟩ : ∃ rest, world.system.script.messages = some queued :: rest := by
        cases all : world.system.script.messages with
        | nil => simp [all] at found
        | cons head rest => exact ⟨rest, by rw [all] at found; rw [← found]; rfl⟩
      rw [found] at peeked acted
      let message := world.system.addressed queued
      let translated := (Desktop.translateMessage message peekedWorld).2
      have translates : ActedAside peekedWorld translated [.translateMessage message] :=
        .of_system rfl
      obtain ⟨handedOn, result, byDefault, dispatches⟩ := acted_dispatchMessage message translated
      let handled := (Desktop.dispatchMessage TrackingWindow.procedure message translated).2
      have one := (acted.transAside translates).transAside dispatches
      have left : handled.system.script.messages = rest := by
        rw [one.messages, messages]
        rfl
      have peekedWindows : peekedWorld.system.windows = world.system.windows :=
        (congrArg (fun r => r.2.system.windows) peeked).symm
      have windows : handled.system.windows = world.system.windows :=
        (keepsWindows_dispatchMessage message translated).trans peekedWindows
      have addressed : handled.system.addressed = world.system.addressed := by
        funext other
        rw [Desktop.addressed, windows, Desktop.addressed]
      obtain ⟨after, calls, goesOn, serving, removed, others⟩ := ih (served + 1) handled
      rw [left] at goesOn serving others removed
      rw [messages]
      refine ⟨after, _, ?_, .next message handedOn result byDefault serving, ?_, ?_⟩
      · rw [Pump.serve, acting_bind, peeked]
        refine goesOn.trans ?_
        rw [serveQueued, Nat.add_assoc, Nat.add_comm 1]
      · rw [addressed] at removed
        rcases byDefault with rfl | rfl
        · simpa [List.filterMap_cons, Call.removed?, waiting, message] using removed
        · simpa [List.filterMap_cons, Call.removed?, waiting, message] using removed
      · have whole := one.trans others
        rw [one.exitCodes] at whole
        simpa [serveQueued] using whole

theorem serveQueued_le (budget : Nat) (messages : List (Option QueuedMessage)) :
    (serveQueued budget messages).1 ≤ budget := by
  induction budget generalizing messages with
  | zero => exact Nat.le_refl 0
  | succ budget ih =>
    rcases messages with _ | ⟨_ | queued, rest⟩
    · exact Nat.zero_le _
    · exact Nat.zero_le _
    · exact Nat.succ_le_succ (ih rest)

/-- No budget is so large that the count of the served messages overflows. -/
theorem toNat_serveQueued (budget : UInt64) (messages : List (Option QueuedMessage)) :
    (serveQueued budget.toNat messages).1.toUInt64.toNat =
      (serveQueued budget.toNat messages).1 :=
  UInt64.toNat_ofNat_of_lt (Nat.lt_of_le_of_lt (serveQueued_le budget.toNat messages)
    budget.toNat_lt)

theorem acted_dispatch (pump : Pump) (budget : UInt64) (world : World Desktop) :
    let served := serveQueued budget.toNat world.system.script.messages
    ∃ after calls, pump.dispatch budget world = ((served.1.toUInt64, pump), after) ∧
      Serving budget.toNat served.1.toUInt64.toNat calls ∧
      calls.filterMap Call.removed? = ((waiting world.system.script.messages).take
        budget.toNat).map world.system.addressed ∧
      Acted world after calls world.system.script.exitCodes served.2 := by
  intro served
  obtain ⟨after, calls, serves, serving, removed, acted⟩ := acted_serve 0 budget.toNat world
  refine ⟨after, calls, ?_, by rwa [toNat_serveQueued], removed, acted⟩
  rw [Pump.dispatch, acting_bind, serves, Nat.zero_add]
  rfl

/-! ## The stages of a launch -/

/-- The calls by which a child gets its output handle: the log's is made inheritable, and the child
gets it if that was possible. -/
inductive Inherits : Option LogSink → SystemHandle → List Call → Prop where
  | unlogged : Inherits none .null []
  | logged (sink : LogSink) (code : UInt32) :
      Inherits (some sink) (if code = 0 then .file sink.handle else .null)
        [.setHandleInformation (.file sink.handle) inheritFlag inheritFlag code]

theorem acted_outputHandle (sink : Option LogSink) (world : World Desktop) :
    ∃ output calls after, outputHandle sink world = (output, after) ∧ Inherits sink output calls ∧
      after.system.script = world.system.script ∧ ActedAside world after calls := by
  cases sink with
  | none => exact ⟨_, _, world, rfl, .unlogged, rfl, .nothing world⟩
  | some sink =>
    let code := world.system.script.inheritError.getD 0
    let handle := SystemHandle.file sink.handle
    let after := (Desktop.setHandleInformation handle inheritFlag inheritFlag world).2
    have asked : ActedAside world after
        [.setHandleInformation handle inheritFlag inheritFlag code] := .of_system rfl
    have answers : Desktop.setHandleInformation handle inheritFlag inheritFlag world =
        (Desktop.answer code, after) := rfl
    have inherits := Inherits.logged sink code
    simp only [outputHandle]
    rw [acting_bind, answers, Desktop.answer]
    by_cases done : code = 0
    · rw [if_pos done] at inherits ⊢
      exact ⟨_, _, after, rfl, inherits, rfl, asked⟩
    · rw [if_neg done] at inherits ⊢
      exact ⟨_, _, _, rfl, inherits, rfl, asked.told .warn _ rfl⟩

/-- The reason why a process cannot be created, as a launch sees it. -/
def creationError (code : Option UInt32) : Option SystemError :=
  if code.getD 0 = 0 then none
  else some (.code (Failure.ofCode (code.getD 0)).code.toNat)

/-- The child that is started on a desktop with a certain script. -/
def Script.child (script : Script) : Child :=
  ⟨script.processHandle, script.threadHandle, script.processId⟩

/-- A child is started with its output handle, or not, as the script has it. -/
theorem acted_spawn (line : String) (sink : Option LogSink) (world : World Desktop) :
    ∃ output calls after, spawn line sink world =
        (match creationError world.system.script.spawnError with
          | some reason => .error reason
          | none => .ok world.system.script.child, after) ∧
      Inherits sink output calls ∧
      ActedAside world after (calls ++
        [.createProcess (processStart line output) (world.system.script.spawnError.getD 0)]) := by
  obtain ⟨output, calls, ready, outputs, inherits, script, acted⟩ := acted_outputHandle sink world
  let code := ready.system.script.spawnError.getD 0
  let after := (Desktop.createProcess (processStart line output) ready).2
  have created : ActedAside ready after [.createProcess (processStart line output) code] :=
    .of_system rfl
  have answers : Desktop.createProcess (processStart line output) ready =
      ((Desktop.answer code).map fun _ => ⟨ready.system.script.processHandle,
        ready.system.script.threadHandle, ready.system.script.processId⟩, after) := rfl
  have both := acted.transAside created
  rw [spawn, acting_bind, outputs, acting_bind, answers, ← script, Desktop.answer, creationError]
  by_cases done : code = 0
  · rw [if_pos done, if_pos done]
    exact ⟨output, calls, _, rfl, inherits, both.told .info _ rfl⟩
  · rw [if_neg done, if_neg done]
    exact ⟨output, calls, _, rfl, inherits, both.told .error _ rfl⟩

/-- A call about the tracking window. -/
def Call.isAboutWindow : Call → Bool
  | getModuleHandle _ | registerClass _ _ | createWindow _ _ | showWindow _ _ | isWindow _ _ => true
  | _ => false

theorem Call.isAside_of_isAboutWindow {call : Call} (aboutWindow : call.isAboutWindow = true) :
    call.isAside = true := by
  cases call <;> first | rfl | cases aboutWindow

/-- The texts that a call hands to the system. -/
def Call.texts : Call → List Wide
  | createProcess start _ => [start.commandLine]
  | registerClass start _ => [start.name]
  | createWindow start _ => [start.className]
  | messageBox _ caption text => [caption, text]
  | _ => []

theorem acted_registerClass (start : ClassStart) (world : World Desktop) :
    ∃ answer after code, Desktop.registerClass start world = (answer, after) ∧
      ActedAside world after [.registerClass start code] := by
  let name := Utf16.untilZero start.name
  let code := world.system.script.registerError.getD
    (if name ∈ world.system.classes then 1410 else 0)
  let asked := (Desktop.record (.registerClass start code) world).2
  have asks : ActedAside world asked [.registerClass start code] := .of_system rfl
  by_cases done : code = 0
  · have answers : Desktop.registerClass start world = (.ok (), { asked with
        system := { asked.system with classes := name :: asked.system.classes } }) := by
      change (if code = 0 then _ else _ : OnDesktop _) asked = _
      rw [if_pos done]
      rfl
    exact ⟨_, _, code, answers, .of_system rfl⟩
  · have answers : Desktop.registerClass start world = (.error (.code code.toNat), asked) := by
      change (if code = 0 then _ else _ : OnDesktop _) asked = _
      rw [if_neg done]
      rfl
    exact ⟨_, _, code, answers, asks⟩

theorem acted_createWindow (start : WindowStart) (world : World Desktop) :
    ∃ answer after code, Desktop.createWindow start world = (answer, after) ∧
      ActedAside world after [.createWindow start code] := by
  let name := Utf16.untilZero start.className
  let code := world.system.script.windowError.getD
    (if name ∈ world.system.classes then 0 else 1407)
  let asked := (Desktop.record (.createWindow start code) world).2
  have asks : ActedAside world asked [.createWindow start code] := .of_system rfl
  by_cases done : code = 0
  · let window := world.system.script.nextWindow.getD world.system.freeWindow
    have answers : Desktop.createWindow start world = (.ok window, { asked with
        system := { asked.system with
          windows := window :: asked.system.windows
          script := { asked.system.script with nextWindow := none } } }) := by
      change (if code = 0 then _ else _ : OnDesktop _) asked = _
      rw [if_pos done]
      rfl
    exact ⟨_, _, code, answers, .of_system rfl⟩
  · have answers : Desktop.createWindow start world = (.error (.ofCode code), asked) := by
      change (if code = 0 then _ else _ : OnDesktop _) asked = _
      rw [if_neg done]
      rfl
    exact ⟨_, _, code, answers, asks⟩

/-- The calls of a window's creation are about the window, however many of them are made, and each
text in them is the name of its class. -/
theorem acted_create (name : String) (world : World Desktop) :
    ∃ window after calls, TrackingWindow.create name world = (window, after) ∧
      (∀ call ∈ calls, call.isAboutWindow = true) ∧
      (∀ call ∈ calls, ∀ text ∈ call.texts, text = TrackingWindow.className name) ∧
      ActedAside world after calls := by
  let code := world.system.script.moduleError.getD 0
  let found := (Desktop.getModuleHandle world).2
  have finds : ActedAside world found [.getModuleHandle code] := .of_system rfl
  have handle : Desktop.getModuleHandle world =
      ((Desktop.answer code).map fun _ => world.system.script.moduleHandle, found) := rfl
  rw [TrackingWindow.create, acting_bind, handle, Desktop.answer]
  by_cases isFound : code = 0
  case neg =>
    rw [if_neg isFound]
    exact ⟨_, found, _, rfl, by simp [Call.isAboutWindow], by simp [Call.texts], finds⟩
  rw [if_pos isFound]
  dsimp only [Except.map]
  obtain ⟨registered, classed, code', registers, acted⟩ := acted_registerClass
    ⟨TrackingWindow.className name, 0, world.system.script.moduleHandle, true⟩ found
  have acted := finds.transAside acted
  rw [acting_bind, registers]
  cases registered with
  | error e => exact ⟨_, classed, _, rfl, by simp [Call.isAboutWindow], by simp [Call.texts], acted⟩
  | ok registered =>
  dsimp only
  obtain ⟨created, windowed, code'', creates, acted'⟩ := acted_createWindow
    ⟨TrackingWindow.className name, 0, popup ||| systemMenu, world.system.script.moduleHandle⟩
    classed
  have acted := acted.transAside acted'
  rw [acting_bind, creates]
  cases created with
  | error e =>
    exact ⟨_, windowed, _, rfl, by simp [Call.isAboutWindow], by simp [Call.texts], acted⟩
  | ok window =>
    have shows : ActedAside windowed (Desktop.showWindow window showMinimized windowed).2
        [.showWindow window showMinimized] := .of_system rfl
    exact ⟨.ok window, _, _, rfl, by simp [Call.isAboutWindow], by simp [Call.texts],
      (acted.transAside shows).told .info _ rfl⟩

/-- The event queue is opened with the tracking window, or without one when it cannot be had. -/
theorem acted_openFor (name : String) (world : World Desktop) :
    ∃ pump after calls, Pump.openFor name world = (pump, after) ∧
      (∀ call ∈ calls, call.isAboutWindow = true) ∧
      (∀ call ∈ calls, ∀ text ∈ call.texts, text = TrackingWindow.className name) ∧
      ActedAside world after calls := by
  obtain ⟨window, created, calls, creates, aboutWindow, named, acted⟩ := acted_create name world
  rw [Pump.openFor, acting_bind, creates]
  cases window with
  | error reason => exact ⟨⟨none⟩, _, calls, rfl, aboutWindow, named, acted.told .warn _ rfl⟩
  | ok window =>
    let valid := (Desktop.isWindow window created).1
    have asks : ActedAside created (Desktop.isWindow window created).2 [.isWindow window valid] :=
      .of_system rfl
    have both := acted.transAside asks
    have aboutWindow' : ∀ call ∈ calls ++ [.isWindow window valid],
        call.isAboutWindow = true := by
      intro call among
      rcases List.mem_append.1 among with among | among
      · exact aboutWindow call among
      · rw [List.mem_singleton.1 among]
        rfl
    have named' : ∀ call ∈ calls ++ [.isWindow window valid], ∀ text ∈ call.texts,
        text = TrackingWindow.className name := by
      intro call among
      rcases List.mem_append.1 among with among | among
      · exact named call among
      · rw [List.mem_singleton.1 among]
        nofun
    dsimp only
    rw [acting_bind]
    by_cases isValid : valid = true
    · rw [if_pos isValid]
      exact ⟨⟨some window⟩, _, _, rfl, aboutWindow', named', both⟩
    · rw [if_neg isValid]
      exact ⟨⟨none⟩, _, _, rfl, aboutWindow', named', both.told .warn _ rfl⟩

end Windows

end AppLauncher
