import Blink.Inspector.XHRBreakpoints
import Blink.Inspector.Enabled

/-!
The native-event probes, which reach the agent only while it is enabled. Over every run whose event
names hold no `'$'`, a probe asks for a pause exactly when the latest command since the last
`disable` naming its wildcard breakpoint, or the breakpoint of its target, set it.
-/

namespace BlinkInspector

def kWebglErrorFiredEventName : String := "webglErrorFired"
def kWebglWarningFiredEventName : String := "webglWarningFired"
def kWebglErrorNameProperty : String := "webglErrorName"
def kScriptBlockedByCSPEventName : String := "scriptBlockedByCSP"
def kCanvasContextCreatedEventName : String := "canvasContextCreated"
def kAudioContextCreatedEventName : String := "audioContextCreated"
def kAudioContextClosedEventName : String := "audioContextClosed"
def kAudioContextResumedEventName : String := "audioContextResumed"
def kAudioContextSuspendedEventName : String := "audioContextSuspended"

def NativeEventData.toEventData (data : NativeEventData) : List (String × String) :=
  ("eventName", data.eventName) :: data.targetName.toList.map fun target => ("targetName", target)

inductive V8SessionCall
  | breakProgram (data : List (String × String))
  | schedulePauseOnNextStatement (data : List (String × String))
  | cancelPauseOnNextStatement
  deriving DecidableEq, Repr

def containsIgnoringASCIICase (s pattern : String) : Bool :=
  decide (pattern.data.map Char.toLower <:+: s.data.map Char.toLower)

inductive NativeProbe
  | didFireWebGLError (errorName : String)
  | didFireWebGLWarning
  | didFireWebGLErrorOrWarning (message : String)
  | scriptExecutionBlockedByCSP (directiveText : String)
  | willExecuteScript
  | didExecuteScript
  | willUserCallback (name : String) (targetName : Option String)
  | didUserCallback
  | breakableLocation (name : String)
  | didCreateCanvasContext
  | didCreateAudioContext
  | didCloseAudioContext
  | didResumeAudioContext
  | didSuspendAudioContext

namespace InspectorDOMDebuggerAgent

variable (agent : InspectorDOMDebuggerAgent)

def pauseOnNativeEventIfNeeded (eventData : Option (List (String × String))) (synchronous : Bool) :
    Option V8SessionCall :=
  eventData.map fun data =>
    if synchronous then .breakProgram data else .schedulePauseOnNextStatement data

def allowNativeBreakpoint (breakpointName : String) (targetName : Option String) (sync : Bool) :
    Option V8SessionCall :=
  pauseOnNativeEventIfNeeded
    ((agent.preparePauseOnNativeEventData breakpointName targetName).map NativeEventData.toEventData) sync

def didFireWebGLError (errorName : String) : Option V8SessionCall :=
  match agent.preparePauseOnNativeEventData kWebglErrorFiredEventName none with
  | none => none
  | some data =>
      let eventData := data.toEventData ++
        if !errorName.isEmpty then [(kWebglErrorNameProperty, errorName)] else []
      pauseOnNativeEventIfNeeded (some eventData) true

def didFireWebGLWarning : Option V8SessionCall :=
  agent.allowNativeBreakpoint kWebglWarningFiredEventName none true

def didFireWebGLErrorOrWarning (message : String) : Option V8SessionCall :=
  if containsIgnoringASCIICase message "error" then agent.didFireWebGLError ""
  else agent.didFireWebGLWarning

def cancelNativeBreakpoint : Option V8SessionCall := some .cancelPauseOnNextStatement

def scriptExecutionBlockedByCSP (directiveText : String) : Option V8SessionCall :=
  match agent.preparePauseOnNativeEventData kScriptBlockedByCSPEventName none with
  | none => none
  | some data =>
      pauseOnNativeEventIfNeeded (some (data.toEventData ++ [("directiveText", directiveText)])) true

def willExecuteScript : Option V8SessionCall :=
  agent.allowNativeBreakpoint "scriptFirstStatement" none false

def willUserCallback (name : String) (targetName : Option String) : Option V8SessionCall :=
  match targetName with
  | some target => agent.allowNativeBreakpoint name (some target) false
  | none => agent.allowNativeBreakpoint (name ++ ".callback") none false

def breakableLocation (name : String) : Option V8SessionCall := agent.allowNativeBreakpoint name none true

def didCreateCanvasContext : Option V8SessionCall :=
  agent.allowNativeBreakpoint kCanvasContextCreatedEventName none true

def didCreateAudioContext : Option V8SessionCall :=
  agent.allowNativeBreakpoint kAudioContextCreatedEventName none true

def didCloseAudioContext : Option V8SessionCall :=
  agent.allowNativeBreakpoint kAudioContextClosedEventName none true

def didResumeAudioContext : Option V8SessionCall :=
  agent.allowNativeBreakpoint kAudioContextResumedEventName none true

def didSuspendAudioContext : Option V8SessionCall :=
  agent.allowNativeBreakpoint kAudioContextSuspendedEventName none true

/-- A probe, which reaches the agent only while it is registered, that is while `enabled_`. -/
def nativeProbe (probe : NativeProbe) : Option V8SessionCall :=
  if !agent.enabled then none
  else match probe with
    | .didFireWebGLError errorName => agent.didFireWebGLError errorName
    | .didFireWebGLWarning => agent.didFireWebGLWarning
    | .didFireWebGLErrorOrWarning message => agent.didFireWebGLErrorOrWarning message
    | .scriptExecutionBlockedByCSP directiveText => agent.scriptExecutionBlockedByCSP directiveText
    | .willExecuteScript => agent.willExecuteScript
    | .didExecuteScript => cancelNativeBreakpoint
    | .willUserCallback name targetName => agent.willUserCallback name targetName
    | .didUserCallback => cancelNativeBreakpoint
    | .breakableLocation name => agent.breakableLocation name
    | .didCreateCanvasContext => agent.didCreateCanvasContext
    | .didCreateAudioContext => agent.didCreateAudioContext
    | .didCloseAudioContext => agent.didCloseAudioContext
    | .didResumeAudioContext => agent.didResumeAudioContext
    | .didSuspendAudioContext => agent.didSuspendAudioContext

end InspectorDOMDebuggerAgent

/-! ### The breakpoint each probe looks up -/

namespace NativeProbe

def breakpointName? : NativeProbe → Option (String × Option String)
  | .didFireWebGLError _ => some (kWebglErrorFiredEventName, none)
  | .didFireWebGLWarning => some (kWebglWarningFiredEventName, none)
  | .didFireWebGLErrorOrWarning message =>
      some (if containsIgnoringASCIICase message "error" then kWebglErrorFiredEventName
        else kWebglWarningFiredEventName, none)
  | .scriptExecutionBlockedByCSP _ => some (kScriptBlockedByCSPEventName, none)
  | .willExecuteScript => some ("scriptFirstStatement", none)
  | .didExecuteScript => none
  | .willUserCallback name targetName =>
      some (if targetName.isSome then name else name ++ ".callback", targetName)
  | .didUserCallback => none
  | .breakableLocation name => some (name, none)
  | .didCreateCanvasContext => some (kCanvasContextCreatedEventName, none)
  | .didCreateAudioContext => some (kAudioContextCreatedEventName, none)
  | .didCloseAudioContext => some (kAudioContextClosedEventName, none)
  | .didResumeAudioContext => some (kAudioContextResumedEventName, none)
  | .didSuspendAudioContext => some (kAudioContextSuspendedEventName, none)

def synchronous : NativeProbe → Bool
  | .willExecuteScript | .willUserCallback .. => false
  | _ => true

end NativeProbe

def fullEventName (eventName : String) (targetName : Option String) : String :=
  (if targetName.isSome then listenerEventCategoryType else instrumentationEventCategoryType) ++
    eventName

namespace InspectorDOMDebuggerAgent

variable (agent : InspectorDOMDebuggerAgent)

theorem preparePauseOnNativeEventData_eq_some {eventName : String} {targetName : Option String}
    {data : NativeEventData} (matched : agent.preparePauseOnNativeEventData eventName targetName = some data) :
    data = ⟨fullEventName eventName targetName, targetName⟩ := by
  unfold preparePauseOnNativeEventData at matched
  simp only [Option.ite_none_left_eq_some, Option.some.injEq] at matched
  rw [← matched.2, fullEventName]

theorem nativeProbe_of_breakpointName {probe : NativeProbe} {eventName : String}
    {targetName : Option String} (named : probe.breakpointName? = some (eventName, targetName)) :
    ∃ extra : List (String × String), agent.nativeProbe probe =
      if !agent.enabled then none
      else (agent.preparePauseOnNativeEventData eventName targetName).map fun data =>
        if probe.synchronous then .breakProgram (data.toEventData ++ extra)
        else .schedulePauseOnNextStatement (data.toEventData ++ extra) := by
  have allowed (name : String) (target : Option String) (sync : Bool) :
      agent.allowNativeBreakpoint name target sync =
        (agent.preparePauseOnNativeEventData name target).map fun data =>
          if sync then .breakProgram (data.toEventData ++ []) else
            .schedulePauseOnNextStatement (data.toEventData ++ []) := by
    simp only [allowNativeBreakpoint, pauseOnNativeEventIfNeeded, Option.map_map, List.append_nil]
    rfl
  cases probe <;> simp only [NativeProbe.breakpointName?, Option.some.injEq, Prod.mk.injEq,
    reduceCtorEq] at named
  case didFireWebGLError errorName =>
    obtain ⟨rfl, rfl⟩ := named
    refine ⟨if !errorName.isEmpty then [(kWebglErrorNameProperty, errorName)] else [], ?_⟩
    unfold nativeProbe didFireWebGLError pauseOnNativeEventIfNeeded
    cases agent.preparePauseOnNativeEventData kWebglErrorFiredEventName none <;> rfl
  case scriptExecutionBlockedByCSP directiveText =>
    obtain ⟨rfl, rfl⟩ := named
    refine ⟨[("directiveText", directiveText)], ?_⟩
    unfold nativeProbe scriptExecutionBlockedByCSP pauseOnNativeEventIfNeeded
    cases agent.preparePauseOnNativeEventData kScriptBlockedByCSPEventName none <;> rfl
  case didFireWebGLErrorOrWarning message =>
    obtain ⟨rfl, rfl⟩ := named
    unfold nativeProbe didFireWebGLErrorOrWarning
    by_cases error : containsIgnoringASCIICase message "error"
    · refine ⟨[], ?_⟩
      simp only [error, if_true, didFireWebGLError, pauseOnNativeEventIfNeeded]
      cases agent.preparePauseOnNativeEventData kWebglErrorFiredEventName none <;> rfl
    · exact ⟨[], by simp only [error, didFireWebGLWarning, allowed]; rfl⟩
  case willUserCallback name targetName =>
    obtain ⟨rfl, rfl⟩ := named
    refine ⟨[], ?_⟩
    cases targetName <;> simp only [nativeProbe, willUserCallback, allowed] <;> rfl
  all_goals
    obtain ⟨rfl, rfl⟩ := named
    exact ⟨[], by simp only [nativeProbe, willExecuteScript, breakableLocation, didFireWebGLWarning,
      didCreateCanvasContext, didCreateAudioContext, didCloseAudioContext, didResumeAudioContext,
      didSuspendAudioContext, allowed]; rfl⟩

end InspectorDOMDebuggerAgent

/-! ### Event breakpoints over a run of the page -/

def eventLive (ops : List Operation) (b : EventBreakpoint) : Bool :=
  latestVerdict (Operation.eventVerdict b) ops

/-- When a native event should pause after a run: the wildcard breakpoint of its event is live,
or it has a target whose breakpoint is live. -/
def pauseLive (ops : List Operation) (eventName : String) (targetName : Option String) : Bool :=
  eventLive ops ⟨if targetName.isSome then .listener else .instrumentation, eventName, none⟩ ||
    (targetName.isSome && eventLive ops ⟨.listener, eventName, normalizeTarget targetName⟩)

def EventsLive (ops : List Operation) (agent : InspectorDOMDebuggerAgent) : Prop :=
  ∀ b : EventBreakpoint, '$' ∉ b.eventName.data → b.target ≠ some "*" →
    agent.files b = eventLive ops b

theorem eventsLive_init : EventsLive [] InspectorDOMDebuggerAgent.init := fun _ _ _ => rfl

def Operation.PlainEvents (op : Operation) : Prop :=
  ∀ command ∈ op.eventCommand?, '$' ∉ command.breakpoint.eventName.data

theorem EventsLive.step {domAgentEnabled : Bool} {ops : List Operation} {p next : Page}
    {op : Operation} {outcome : Outcome} (live : EventsLive ops p.agent) (plain : op.PlainEvents)
    (stepped : p.step domAgentEnabled op = some (next, outcome)) :
    EventsLive (ops ++ [op]) next.agent := by
  intro b plainB star
  rw [eventLive, latestVerdict_append_singleton, ← eventLive]
  rcases Page.step_stores stepped with ⟨command, named, moved⟩ | ⟨url, rfl, moved⟩ |
    ⟨url, rfl, moved⟩ | ⟨rfl, moved⟩ | ⟨-, quiet, same⟩
  · rw [moved, files_run _ (plain command named) plainB star,
      Operation.eventVerdict_of_eventCommand named, live b plainB star]
    split <;> rfl
  · rw [moved]
    simpa [InspectorDOMDebuggerAgent.files, Operation.eventVerdict, Operation.eventCommand?]
      using live b plainB star
  · rw [moved]
    simpa [InspectorDOMDebuggerAgent.files, Operation.eventVerdict, Operation.eventCommand?]
      using live b plainB star
  · rw [moved]
    rfl
  · have kept := congrArg AgentStores.eventListenerBreakpoints same
    rw [quiet, Option.getD_none, ← live b plainB star, InspectorDOMDebuggerAgent.files,
      InspectorDOMDebuggerAgent.files]
    exact congrArg (fun store => (AList.lookup b.key store).getD false) kept

theorem Page.Runs.eventsLive {domAgentEnabled : Bool} {ops : List Operation} {p : Page}
    (runs : p.Runs domAgentEnabled ops) (plain : ∀ op ∈ ops, op.PlainEvents) :
    EventsLive ops p.agent := by
  induction runs with
  | init => exact eventsLive_init
  | step _ stepped live =>
      exact (live fun op member => plain op (List.mem_append_left _ member)).step
        (plain _ (List.mem_append_right _ (List.mem_singleton_self _))) stepped

theorem InspectorDOMDebuggerAgent.files_of_entries_eq_nil {agent : InspectorDOMDebuggerAgent}
    (empty : agent.eventListenerBreakpoints.entries = []) (b : EventBreakpoint) :
    agent.files b = false := by
  simp [InspectorDOMDebuggerAgent.files, AList.lookup, empty]

/-- Over every run of the page whose event-breakpoint commands name `'$'`-free events, a probe
that looks up a `'$'`-free event asks for a pause exactly when the latest command since the last
`disable` naming the wildcard breakpoint of its event, or the breakpoint of its target, set it.
The pause breaks the program at once, or for a script or a user callback about to run is
scheduled for its first statement, and its event data starts with the full event name. -/
theorem nativeProbe_pauses_iff_live {domAgentEnabled : Bool} {ops : List Operation} {p : Page}
    (runs : p.Runs domAgentEnabled ops) (plain : ∀ op ∈ ops, op.PlainEvents) {probe : NativeProbe}
    {eventName : String} {targetName : Option String}
    (named : probe.breakpointName? = some (eventName, targetName))
    (plainEvent : '$' ∉ eventName.data) :
    (p.agent.nativeProbe probe).isSome = pauseLive ops eventName targetName ∧
      ∀ call ∈ p.agent.nativeProbe probe, ∃ data,
        (call = if probe.synchronous then .breakProgram data else .schedulePauseOnNextStatement data) ∧
        data.head? = some ("eventName", fullEventName eventName targetName) := by
  have live := runs.eventsLive plain
  have matched : (p.agent.preparePauseOnNativeEventData eventName targetName).isSome =
      pauseLive ops eventName targetName := by
    rw [isSome_preparePauseOnNativeEventData, pauseLive, live _ plainEvent (by simp),
      live _ plainEvent (normalizeTarget_ne_star _)]
  have registered (found : (p.agent.preparePauseOnNativeEventData eventName targetName).isSome) :
      p.agent.enabled = true := by
    refine runs.reachable.enabledInvariant (.inr (.inl fun empty => ?_))
    simp [isSome_preparePauseOnNativeEventData,
      InspectorDOMDebuggerAgent.files_of_entries_eq_nil empty] at found
  obtain ⟨extra, probed⟩ := p.agent.nativeProbe_of_breakpointName named
  rw [probed, ← matched]
  constructor
  · cases found : p.agent.preparePauseOnNativeEventData eventName targetName
    · simp
    · simp [registered (by simp [found])]
  · intro call made
    split at made
    · cases made
    · obtain ⟨data, found, rfl⟩ := Option.mem_map.mp made
      refine ⟨data.toEventData ++ extra, by split <;> rfl, ?_⟩
      rw [p.agent.preparePauseOnNativeEventData_eq_some found]
      rfl

/-- Listener breakpoints on every `click`, then `disable`, then on every `keydown`: a `keydown`
callback on an `INPUT` schedules a pause, a `click` callback on a `BUTTON` no longer does. -/
theorem keydown_callback_pauses_after_disable :
    let ops : List Operation := [.setEventListenerBreakpoint "click" none, .disable,
      .setEventListenerBreakpoint "keydown" none]
    let p : Page := ⟨⟨[], by decide⟩,
      (((InspectorDOMDebuggerAgent.init.setEventListenerBreakpoint "click" none).1 |>.disable).1
        |>.setEventListenerBreakpoint "keydown" none).1⟩
    let keydown := NativeProbe.willUserCallback "keydown" (some "INPUT")
    let click := NativeProbe.willUserCallback "click" (some "BUTTON")
    p.Runs true ops ∧ (∀ op ∈ ops, op.PlainEvents) ∧
      keydown.breakpointName? = some ("keydown", some "INPUT") ∧ '$' ∉ "keydown".data ∧
      click.breakpointName? = some ("click", some "BUTTON") ∧ '$' ∉ "click".data ∧
      pauseLive ops "keydown" (some "INPUT") = true ∧ pauseLive ops "click" (some "BUTTON") = false ∧
      ((p.agent.nativeProbe keydown).isSome = pauseLive ops "keydown" (some "INPUT") ∧
        ∀ call ∈ p.agent.nativeProbe keydown, ∃ data,
          (call = if keydown.synchronous then .breakProgram data
            else .schedulePauseOnNextStatement data) ∧
          data.head? = some ("eventName", fullEventName "keydown" (some "INPUT"))) ∧
      (p.agent.nativeProbe click).isSome = pauseLive ops "click" (some "BUTTON") := by
  intro ops p keydown click
  have runs : p.Runs true ops :=
    @Page.Runs.step true _ _ _ (.setEventListenerBreakpoint "keydown" none) _
      (@Page.Runs.step true _ _ _ .disable _
        (@Page.Runs.step true _ _ _ (.setEventListenerBreakpoint "click" none) _ (.init _) (by rfl))
        (by rfl)) (by rfl)
  have plain : ∀ op ∈ ops, op.PlainEvents := by
    simp only [ops, List.mem_cons, List.mem_singleton, forall_eq_or_imp, forall_eq,
      Operation.PlainEvents, Operation.eventCommand?, Option.mem_def, Option.some.injEq, forall_eq',
      EventBreakpointCommand.breakpoint, reduceCtorEq, false_implies, implies_true, and_true,
      List.not_mem_nil]
    decide
  exact ⟨runs, plain, rfl, by decide, rfl, by decide, by decide, by decide,
    @nativeProbe_pauses_iff_live true ops p runs plain keydown _ _ rfl (by decide),
    (@nativeProbe_pauses_iff_live true ops p runs plain click _ _ rfl (by decide)).1⟩

end BlinkInspector
