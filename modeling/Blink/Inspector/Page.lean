import Blink.Inspector.DOMDebuggerAgent

/-!
The agent inside a page: the frontend sends protocol commands, and the DOM changes its forest and
calls the agent's probes around each change.
-/

namespace BlinkInspector

structure Page where
  forest : DOMForest
  agent : InspectorDOMDebuggerAgent

/-- A protocol command, or a change of the DOM with the probes around it. -/
inductive Operation
  | setDOMBreakpoint (nodeId : Int) (typeString : String)
  | removeDOMBreakpoint (nodeId : Int) (typeString : String)
  | setEventListenerBreakpoint (eventName : String) (targetName : Option String)
  | removeEventListenerBreakpoint (eventName : String) (targetName : Option String)
  | setInstrumentationBreakpoint (eventName : String)
  | removeInstrumentationBreakpoint (eventName : String)
  | setXHRBreakpoint (url : String)
  | removeXHRBreakpoint (url : String)
  | disable
  | insertNode (node parent : Int) (position : Nat)
  | removeNode (node : Int)
  | modifyAttribute (element : Int)
  | invalidateStyleAttr (node : Int)
  | commitLoad

inductive Outcome
  | response (response : Response)
  | probe (reported : Option DOMBreak)

namespace Page

def answer (p : Page) (result : InspectorDOMDebuggerAgent × Response) : Page × Outcome :=
  (⟨p.forest, result.1⟩, .response result.2)

/-- One operation; `none` when the DOM refuses the change, so that no probe runs.
`domAgentEnabled` is whether `InspectorDOMAgent` is enabled, which the agent only reads. -/
def step (domAgentEnabled : Bool) (p : Page) : Operation → Option (Page × Outcome)
  | .setDOMBreakpoint nodeId typeString =>
      some (p.answer (p.agent.setDOMBreakpoint p.forest nodeId typeString))
  | .removeDOMBreakpoint nodeId typeString =>
      some (p.answer (p.agent.removeDOMBreakpoint p.forest nodeId typeString))
  | .setEventListenerBreakpoint eventName targetName =>
      some (p.answer (p.agent.setEventListenerBreakpoint eventName targetName))
  | .removeEventListenerBreakpoint eventName targetName =>
      some (p.answer (p.agent.removeEventListenerBreakpoint eventName targetName))
  | .setInstrumentationBreakpoint eventName =>
      some (p.answer (p.agent.setInstrumentationBreakpoint eventName))
  | .removeInstrumentationBreakpoint eventName =>
      some (p.answer (p.agent.removeInstrumentationBreakpoint eventName))
  | .setXHRBreakpoint url => some (p.answer (p.agent.setXHRBreakpoint url))
  | .removeXHRBreakpoint url => some (p.answer (p.agent.removeXHRBreakpoint url))
  | .disable => some (p.answer p.agent.disable)
  | .insertNode node parent position =>
      (p.forest.insertNode node parent position).map fun forest =>
        (⟨forest, p.agent.didInsertDOMNode forest node⟩,
          .probe (p.agent.willInsertDOMNode domAgentEnabled p.forest parent))
  | .removeNode node =>
      (p.forest.removeNode node).map fun forest =>
        (⟨forest, (p.agent.willRemoveDOMNode domAgentEnabled p.forest node).2⟩,
          .probe (p.agent.willRemoveDOMNode domAgentEnabled p.forest node).1)
  | .modifyAttribute element =>
      some (p, .probe (p.agent.willModifyDOMAttr domAgentEnabled p.forest element))
  | .invalidateStyleAttr node =>
      some (p, .probe (p.agent.didInvalidateStyleAttr domAgentEnabled p.forest node))
  | .commitLoad => some (⟨p.forest, p.agent.didCommitLoadForLocalFrame⟩, .probe none)

inductive Reachable (domAgentEnabled : Bool) : Page → Prop
  | init (forest : DOMForest) : Reachable domAgentEnabled ⟨forest, .init⟩
  | step {p next : Page} {op : Operation} {outcome : Outcome} : Reachable domAgentEnabled p →
      p.step domAgentEnabled op = some (next, outcome) → Reachable domAgentEnabled next

end Page

end BlinkInspector
