import Blink.Inspector.EventListenerBreakpoints
import Blink.Inspector.Page
import Mathlib.Data.List.Infix

/-!
XHR breakpoints and the stores of `agent_state_` over a run of the page: a request pauses exactly
when the latest command since the last `disable` naming the empty URL, or a URL the request's
contains, set it.
-/

namespace BlinkInspector

/-! ### Runs of the page -/

namespace Page

/-- The pages a run reaches from a fresh agent, with the operations of the run that the DOM
accepted. -/
inductive Runs (domAgentEnabled : Bool) : List Operation → Page → Prop
  | init (forest : DOMForest) : Runs domAgentEnabled [] ⟨forest, .init⟩
  | step {ops : List Operation} {p next : Page} {op : Operation} {outcome : Outcome} :
      Runs domAgentEnabled ops p → p.step domAgentEnabled op = some (next, outcome) →
      Runs domAgentEnabled (ops ++ [op]) next

variable {domAgentEnabled : Bool} {p : Page}

theorem Runs.reachable {ops : List Operation} (runs : p.Runs domAgentEnabled ops) :
    p.Reachable domAgentEnabled := by
  induction runs with
  | init forest => exact .init forest
  | step _ stepped reachable => exact reachable.step stepped

end Page

/-! ### The stores of `agent_state_` -/

structure AgentStores where
  pauseOnAllXhrs : Bool
  xhrBreakpoints : AList fun _ : String => Bool
  eventListenerBreakpoints : AList fun _ : String => Bool

namespace InspectorDOMDebuggerAgent

variable (agent : InspectorDOMDebuggerAgent)

def stores : AgentStores :=
  ⟨agent.pauseOnAllXhrs, agent.xhrBreakpoints, agent.eventListenerBreakpoints⟩

@[simp] theorem stores_didAddBreakpoint : agent.didAddBreakpoint.stores = agent.stores := by
  unfold didAddBreakpoint
  split <;> rfl

@[simp] theorem stores_didRemoveBreakpoint : agent.didRemoveBreakpoint.stores = agent.stores := by
  unfold didRemoveBreakpoint
  split_ifs <;> rfl

@[simp] theorem stores_setDOMBreakpoint (F : DOMForest) (nodeId : Int) (typeString : String) :
    (agent.setDOMBreakpoint F nodeId typeString).1.stores = agent.stores := by
  unfold setDOMBreakpoint
  split
  · rfl
  · split
    · rfl
    · exact stores_didAddBreakpoint _

@[simp] theorem stores_removeDOMBreakpoint (F : DOMForest) (nodeId : Int) (typeString : String) :
    (agent.removeDOMBreakpoint F nodeId typeString).1.stores = agent.stores := by
  unfold removeDOMBreakpoint
  split
  · rfl
  · split
    · rfl
    · exact stores_didRemoveBreakpoint _

@[simp] theorem stores_didInsertDOMNode (F : DOMForest) (node : Int) :
    (agent.didInsertDOMNode F node).stores = agent.stores := by
  unfold didInsertDOMNode
  split
  · rfl
  · dsimp only
    split <;> rfl

@[simp] theorem stores_didRemoveDOMNode (F : DOMForest) (node : Int) :
    (agent.didRemoveDOMNode F node).stores = agent.stores := by
  unfold didRemoveDOMNode
  split <;> rfl

end InspectorDOMDebuggerAgent

def Operation.eventCommand? : Operation → Option EventBreakpointCommand
  | .setEventListenerBreakpoint eventName targetName => some (.setEventListenerBreakpoint eventName targetName)
  | .removeEventListenerBreakpoint eventName targetName =>
      some (.removeEventListenerBreakpoint eventName targetName)
  | .setInstrumentationBreakpoint eventName => some (.setInstrumentationBreakpoint eventName)
  | .removeInstrumentationBreakpoint eventName => some (.removeInstrumentationBreakpoint eventName)
  | _ => none

def Operation.xhrVerdict (url : String) : Operation → Option Bool
  | .setXHRBreakpoint u => if u = url then some true else none
  | .removeXHRBreakpoint u => if u = url then some false else none
  | .disable => some false
  | _ => none

def Operation.eventVerdict (b : EventBreakpoint) : Operation → Option Bool
  | .disable => some false
  | op => op.eventCommand?.bind fun command =>
      if command.breakpoint = b then some command.isSet else none

def latestVerdict (verdict : Operation → Option Bool) (ops : List Operation) : Bool :=
  ((ops.filterMap verdict).getLast?).getD false

theorem latestVerdict_append_singleton (verdict : Operation → Option Bool) (ops : List Operation)
    (op : Operation) :
    latestVerdict verdict (ops ++ [op]) = (verdict op).getD (latestVerdict verdict ops) := by
  unfold latestVerdict
  rw [List.filterMap_append, List.getLast?_append]
  cases given : verdict op <;> simp [given]

@[simp] theorem latestVerdict_nil (verdict : Operation → Option Bool) :
    latestVerdict verdict [] = false := rfl

namespace Page

variable {domAgentEnabled : Bool} {p next : Page} {op : Operation} {outcome : Outcome}

theorem step_stores (stepped : p.step domAgentEnabled op = some (next, outcome)) :
    (∃ command, op.eventCommand? = some command ∧ next.agent = command.run p.agent) ∨
      (∃ url, op = .setXHRBreakpoint url ∧ next.agent = (p.agent.setXHRBreakpoint url).1) ∨
      (∃ url, op = .removeXHRBreakpoint url ∧ next.agent = (p.agent.removeXHRBreakpoint url).1) ∨
      (op = .disable ∧ next.agent = p.agent.disable.1) ∨
      ((∀ url, op.xhrVerdict url = none) ∧ (∀ b, op.eventVerdict b = none) ∧
        next.agent.stores = p.agent.stores) := by
  cases op <;> simp only [step, answer, Option.some.injEq, Option.map_eq_some', Prod.mk.injEq]
    at stepped
  case setEventListenerBreakpoint | removeEventListenerBreakpoint | setInstrumentationBreakpoint
    | removeInstrumentationBreakpoint =>
      exact .inl ⟨_, rfl, by rw [← stepped.1]; rfl⟩
  case setXHRBreakpoint url => exact .inr (.inl ⟨url, rfl, by rw [← stepped.1]⟩)
  case removeXHRBreakpoint url => exact .inr (.inr (.inl ⟨url, rfl, by rw [← stepped.1]⟩))
  case disable => exact .inr (.inr (.inr (.inl ⟨rfl, by rw [← stepped.1]⟩)))
  all_goals
    refine .inr (.inr (.inr (.inr ⟨fun _ => rfl, fun _ => rfl, ?_⟩)))
  case setDOMBreakpoint | removeDOMBreakpoint | modifyAttribute | invalidateStyleAttr | commitLoad =>
    obtain ⟨rfl, -⟩ := stepped
    first | rfl | simp
  all_goals
    obtain ⟨_, _, rfl, -⟩ := stepped
    simp [InspectorDOMDebuggerAgent.willRemoveDOMNode]

end Page

theorem Operation.xhrVerdict_of_eventCommand {op : Operation} {command : EventBreakpointCommand}
    (named : op.eventCommand? = some command) (url : String) : op.xhrVerdict url = none := by
  cases op <;> simp_all [Operation.eventCommand?, Operation.xhrVerdict]

theorem Operation.eventVerdict_of_eventCommand {op : Operation} {command : EventBreakpointCommand}
    (named : op.eventCommand? = some command) (b : EventBreakpoint) :
    op.eventVerdict b = if command.breakpoint = b then some command.isSet else none := by
  cases op <;> simp_all [Operation.eventCommand?, Operation.eventVerdict]

/-! ### Matching a request -/

def containsString (s pattern : String) : Bool := decide (pattern.data <:+: s.data)

structure XHRPause where
  breakpointURL : String
  url : String
  deriving DecidableEq, Repr

namespace InspectorDOMDebuggerAgent

variable (agent : InspectorDOMDebuggerAgent)

def matchXHRBreakpoints (url : String) : Option String :=
  if agent.pauseOnAllXhrs then some ""
  else agent.xhrBreakpoints.keys.find? fun breakpoint => containsString url breakpoint

def willSendXMLHttpOrFetchNetworkRequest (url : String) : Option XHRPause :=
  (agent.matchXHRBreakpoints url).map fun breakpointURL => ⟨breakpointURL, url⟩

@[simp] theorem pauseOnAllXhrs_run (command : EventBreakpointCommand) :
    (command.run agent).pauseOnAllXhrs = agent.pauseOnAllXhrs := by
  cases command <;> simp [EventBreakpointCommand.run, setEventListenerBreakpoint,
    removeEventListenerBreakpoint, setInstrumentationBreakpoint, removeInstrumentationBreakpoint,
    setBreakpoint, removeBreakpoint, didAddBreakpoint, didRemoveBreakpoint, setEnabled] <;>
    split_ifs <;> rfl

@[simp] theorem xhrBreakpoints_run (command : EventBreakpointCommand) :
    (command.run agent).xhrBreakpoints = agent.xhrBreakpoints := by
  cases command <;> simp [EventBreakpointCommand.run, setEventListenerBreakpoint,
    removeEventListenerBreakpoint, setInstrumentationBreakpoint, removeInstrumentationBreakpoint,
    setBreakpoint, removeBreakpoint, didAddBreakpoint, didRemoveBreakpoint, setEnabled] <;>
    split_ifs <;> rfl

@[simp] theorem pauseOnAllXhrs_didAddBreakpoint :
    agent.didAddBreakpoint.pauseOnAllXhrs = agent.pauseOnAllXhrs :=
  congrArg AgentStores.pauseOnAllXhrs (stores_didAddBreakpoint agent)

@[simp] theorem xhrBreakpoints_didAddBreakpoint :
    agent.didAddBreakpoint.xhrBreakpoints = agent.xhrBreakpoints :=
  congrArg AgentStores.xhrBreakpoints (stores_didAddBreakpoint agent)

@[simp] theorem pauseOnAllXhrs_didRemoveBreakpoint :
    agent.didRemoveBreakpoint.pauseOnAllXhrs = agent.pauseOnAllXhrs :=
  congrArg AgentStores.pauseOnAllXhrs (stores_didRemoveBreakpoint agent)

@[simp] theorem xhrBreakpoints_didRemoveBreakpoint :
    agent.didRemoveBreakpoint.xhrBreakpoints = agent.xhrBreakpoints :=
  congrArg AgentStores.xhrBreakpoints (stores_didRemoveBreakpoint agent)

@[simp] theorem pauseOnAllXhrs_setXHRBreakpoint (url : String) :
    (agent.setXHRBreakpoint url).1.pauseOnAllXhrs = (url.isEmpty || agent.pauseOnAllXhrs) := by
  unfold setXHRBreakpoint
  split <;> simp_all

@[simp] theorem xhrBreakpoints_setXHRBreakpoint (url : String) :
    (agent.setXHRBreakpoint url).1.xhrBreakpoints =
      if url.isEmpty then agent.xhrBreakpoints else agent.xhrBreakpoints.insert url true := by
  unfold setXHRBreakpoint
  split <;> simp_all

@[simp] theorem pauseOnAllXhrs_removeXHRBreakpoint (url : String) :
    (agent.removeXHRBreakpoint url).1.pauseOnAllXhrs = (!url.isEmpty && agent.pauseOnAllXhrs) := by
  unfold removeXHRBreakpoint
  split <;> simp_all

@[simp] theorem xhrBreakpoints_removeXHRBreakpoint (url : String) :
    (agent.removeXHRBreakpoint url).1.xhrBreakpoints =
      if url.isEmpty then agent.xhrBreakpoints else agent.xhrBreakpoints.erase url := by
  unfold removeXHRBreakpoint
  split <;> simp_all

@[simp] theorem eventListenerBreakpoints_setXHRBreakpoint (url : String) :
    (agent.setXHRBreakpoint url).1.eventListenerBreakpoints = agent.eventListenerBreakpoints := by
  unfold setXHRBreakpoint
  split <;> simp

@[simp] theorem eventListenerBreakpoints_removeXHRBreakpoint (url : String) :
    (agent.removeXHRBreakpoint url).1.eventListenerBreakpoints = agent.eventListenerBreakpoints := by
  unfold removeXHRBreakpoint
  split <;> simp

theorem mem_xhrBreakpoints_setXHRBreakpoint (url u : String) :
    u ∈ (agent.setXHRBreakpoint url).1.xhrBreakpoints ↔
      (u = url ∧ url ≠ "") ∨ u ∈ agent.xhrBreakpoints := by
  by_cases empty : url = "" <;> simp [AList.mem_insert, String.isEmpty_iff, empty]

theorem mem_xhrBreakpoints_removeXHRBreakpoint (url u : String) :
    u ∈ (agent.removeXHRBreakpoint url).1.xhrBreakpoints ↔
      (u ≠ url ∨ url = "") ∧ u ∈ agent.xhrBreakpoints := by
  by_cases empty : url = "" <;> simp [AList.mem_erase, String.isEmpty_iff, empty]

end InspectorDOMDebuggerAgent

/-- Whether the run leaves the XHR breakpoint on `url` set; on `""`, pausing on every request. -/
def xhrLive (ops : List Operation) (url : String) : Bool :=
  latestVerdict (Operation.xhrVerdict url) ops

structure XHRLive (ops : List Operation) (agent : InspectorDOMDebuggerAgent) : Prop where
  pauseOnAll : agent.pauseOnAllXhrs = xhrLive ops ""
  stored : ∀ url, url ∈ agent.xhrBreakpoints ↔ url ≠ "" ∧ xhrLive ops url = true

theorem xhrLive_append_singleton (ops : List Operation) (op : Operation) (url : String) :
    xhrLive (ops ++ [op]) url = (op.xhrVerdict url).getD (xhrLive ops url) :=
  latestVerdict_append_singleton _ ops op

theorem xhrLive_setXHRBreakpoint (ops : List Operation) (url u : String) :
    xhrLive (ops ++ [.setXHRBreakpoint url]) u = (url = u || xhrLive ops u) := by
  rw [xhrLive_append_singleton]
  by_cases same : url = u <;> simp [Operation.xhrVerdict, same]

theorem xhrLive_removeXHRBreakpoint (ops : List Operation) (url u : String) :
    xhrLive (ops ++ [.removeXHRBreakpoint url]) u = (url ≠ u && xhrLive ops u) := by
  rw [xhrLive_append_singleton]
  by_cases same : url = u <;> simp [Operation.xhrVerdict, same]

theorem xhrLive_init : XHRLive [] InspectorDOMDebuggerAgent.init :=
  ⟨rfl, fun url => by simp [xhrLive, InspectorDOMDebuggerAgent.init]⟩

theorem XHRLive.step {domAgentEnabled : Bool} {ops : List Operation} {p next : Page}
    {op : Operation} {outcome : Outcome} (live : XHRLive ops p.agent)
    (stepped : p.step domAgentEnabled op = some (next, outcome)) :
    XHRLive (ops ++ [op]) next.agent := by
  rcases Page.step_stores stepped with ⟨command, named, moved⟩ | ⟨url, rfl, moved⟩ |
    ⟨url, rfl, moved⟩ | ⟨rfl, moved⟩ | ⟨quiet, -, same⟩
  · rw [moved]
    constructor
    · simp [xhrLive_append_singleton, Operation.xhrVerdict_of_eventCommand named, live.pauseOnAll]
    · simp [xhrLive_append_singleton, Operation.xhrVerdict_of_eventCommand named, live.stored]
  · rw [moved]
    refine ⟨by by_cases empty : url = "" <;>
      simp [xhrLive_setXHRBreakpoint, live.pauseOnAll, String.isEmpty_iff, empty], fun u => ?_⟩
    rw [InspectorDOMDebuggerAgent.mem_xhrBreakpoints_setXHRBreakpoint, live.stored,
      xhrLive_setXHRBreakpoint]
    rcases eq_or_ne u url with rfl | other
    · by_cases empty : u = "" <;> simp [empty]
    · simp [other, other.symm]
  · rw [moved]
    refine ⟨by by_cases empty : url = "" <;> simp [xhrLive_removeXHRBreakpoint, live.pauseOnAll,
      Bool.eq_false_iff, String.isEmpty_iff, empty], fun u => ?_⟩
    rw [InspectorDOMDebuggerAgent.mem_xhrBreakpoints_removeXHRBreakpoint, live.stored,
      xhrLive_removeXHRBreakpoint]
    rcases eq_or_ne u url with rfl | other
    · by_cases empty : u = "" <;> simp [empty]
    · simp [other, other.symm]
  · rw [moved]
    constructor <;> simp [InspectorDOMDebuggerAgent.disable, InspectorDOMDebuggerAgent.clearAllFields,
      xhrLive_append_singleton, Operation.xhrVerdict]
  · have pause := congrArg AgentStores.pauseOnAllXhrs same
    have stored := congrArg AgentStores.xhrBreakpoints same
    simp only [InspectorDOMDebuggerAgent.stores] at pause stored
    exact ⟨by rw [pause, xhrLive_append_singleton, quiet, live.pauseOnAll]; rfl, fun u => by
      rw [stored, xhrLive_append_singleton, quiet, live.stored]; rfl⟩

/-- Over every run of the page the XHR stores hold what the run left live. -/
theorem Page.Runs.xhrLive {domAgentEnabled : Bool} {ops : List Operation} {p : Page}
    (runs : p.Runs domAgentEnabled ops) : XHRLive ops p.agent := by
  induction runs with
  | init => exact xhrLive_init
  | step _ stepped live => exact live.step stepped

section Match

variable {ops : List Operation} {agent : InspectorDOMDebuggerAgent} (live : XHRLive ops agent)
include live

theorem XHRLive.isSome_matchXHRBreakpoints (url : String) :
    (agent.matchXHRBreakpoints url).isSome = true ↔
      xhrLive ops "" = true ∨ ∃ b, b ≠ "" ∧ b.data <:+: url.data ∧ xhrLive ops b = true := by
  unfold InspectorDOMDebuggerAgent.matchXHRBreakpoints
  rw [← live.pauseOnAll]
  by_cases all : agent.pauseOnAllXhrs
  · simp [all]
  · simp only [all, if_false, Bool.false_eq_true, false_or, List.find?_isSome, containsString,
      decide_eq_true_eq, ← AList.mem_keys, live.stored]
    constructor
    · rintro ⟨b, ⟨named, set⟩, contained⟩
      exact ⟨b, named, contained, set⟩
    · rintro ⟨b, named, contained, set⟩
      exact ⟨b, ⟨named, set⟩, contained⟩

theorem XHRLive.matchXHRBreakpoints_eq_some {url b : String}
    (found : agent.matchXHRBreakpoints url = some b) :
    (b = "" ↔ xhrLive ops "" = true) ∧
      (b ≠ "" → b.data <:+: url.data ∧ xhrLive ops b = true) := by
  unfold InspectorDOMDebuggerAgent.matchXHRBreakpoints at found
  rw [← live.pauseOnAll]
  by_cases all : agent.pauseOnAllXhrs
  · simp only [all, if_true, Option.some.injEq] at found
    simp [← found, all]
  · simp only [all, if_false, Bool.false_eq_true] at found
    have stored := (live.stored b).mp (AList.mem_keys.mpr (List.mem_of_find?_eq_some found))
    have contained := List.find?_some found
    simp only [containsString, decide_eq_true_eq] at contained
    exact ⟨by simp [stored.1, all], fun _ => ⟨contained, stored.2⟩⟩

end Match

/-- Over every run of the page, a request pauses exactly when the latest command since the last
`disable` naming the empty URL set it, or the latest naming some URL that occurs in the request's
did. The pause reports the request's URL, and as its breakpoint the empty URL when pausing on
every request, else a live breakpoint that occurs in the request's URL. -/
theorem willSendRequest_pauses_iff_live {domAgentEnabled : Bool} {ops : List Operation} {p : Page}
    (runs : p.Runs domAgentEnabled ops) (url : String) :
    ((p.agent.willSendXMLHttpOrFetchNetworkRequest url).isSome = true ↔
        xhrLive ops "" = true ∨ ∃ b, b ≠ "" ∧ b.data <:+: url.data ∧ xhrLive ops b = true) ∧
      ∀ pause ∈ p.agent.willSendXMLHttpOrFetchNetworkRequest url, pause.url = url ∧
        (pause.breakpointURL = "" ↔ xhrLive ops "" = true) ∧
        (pause.breakpointURL ≠ "" →
          pause.breakpointURL.data <:+: url.data ∧ xhrLive ops pause.breakpointURL = true) := by
  have live := runs.xhrLive
  unfold InspectorDOMDebuggerAgent.willSendXMLHttpOrFetchNetworkRequest
  refine ⟨by rw [Option.isSome_map']; exact live.isSome_matchXHRBreakpoints url, ?_⟩
  intro pause reported
  obtain ⟨b, found, rfl⟩ := Option.mem_map.mp reported
  exact ⟨rfl, live.matchXHRBreakpoints_eq_some found⟩

/-- `setXHRBreakpoint("api")`, `setXHRBreakpoint("v1")`, then `removeXHRBreakpoint("api")` on an
empty page: a request to `https://a.test/api/v1` pauses on `v1`, since the latest command naming
`api` removed it. -/
theorem v1_breakpoint_pauses_after_api_removed :
    let ops : List Operation :=
      [.setXHRBreakpoint "api", .setXHRBreakpoint "v1", .removeXHRBreakpoint "api"]
    let p : Page := ⟨⟨[], by decide⟩, (((InspectorDOMDebuggerAgent.init.setXHRBreakpoint "api").1
      |>.setXHRBreakpoint "v1").1 |>.removeXHRBreakpoint "api").1⟩
    let url := "https://a.test/api/v1"
    p.Runs true ops ∧ xhrLive ops "api" = false ∧
      (p.agent.willSendXMLHttpOrFetchNetworkRequest url).map (·.breakpointURL) = some "v1" ∧
      (((p.agent.willSendXMLHttpOrFetchNetworkRequest url).isSome = true ↔
          xhrLive ops "" = true ∨ ∃ b, b ≠ "" ∧ b.data <:+: url.data ∧ xhrLive ops b = true) ∧
        ∀ pause ∈ p.agent.willSendXMLHttpOrFetchNetworkRequest url, pause.url = url ∧
          (pause.breakpointURL = "" ↔ xhrLive ops "" = true) ∧
          (pause.breakpointURL ≠ "" →
            pause.breakpointURL.data <:+: url.data ∧ xhrLive ops pause.breakpointURL = true)) := by
  intro ops p url
  have runs : p.Runs true ops :=
    @Page.Runs.step true _ _ _ (.removeXHRBreakpoint "api") _
      (@Page.Runs.step true _ _ _ (.setXHRBreakpoint "v1") _
        (@Page.Runs.step true _ _ _ (.setXHRBreakpoint "api") _ (.init _) (by rfl)) (by rfl)) (by rfl)
  exact ⟨runs, by decide, by decide, willSendRequest_pauses_iff_live runs url⟩

end BlinkInspector
