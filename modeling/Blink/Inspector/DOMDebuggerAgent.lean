import Blink.Inspector.DOMTree
import Mathlib.Data.List.AList

/-!
`InspectorDOMDebuggerAgent`: its breakpoint stores, the protocol commands that edit them, and the
DOM probes. A DOM breakpoint is the root bit `1 << type` of a node's mask; `SubtreeModified` also
gives every node below the derived bit, shifted by `domBreakpointDerivedTypeShift`.
-/

namespace BlinkInspector

inductive DOMBreakpointType
  | subtreeModified
  | attributeModified
  | nodeRemoved
  deriving DecidableEq, Repr

def DOMBreakpointType.toNat : DOMBreakpointType → Nat
  | .subtreeModified => 0
  | .attributeModified => 1
  | .nodeRemoved => 2

/-- A node's breakpoint bits, a `uint32_t` in the code. -/
abbrev Mask := BitVec 32

def rootBit (type : DOMBreakpointType) : Mask := 1#32 <<< type.toNat

def inheritableDOMBreakpointTypesMask : Mask := 1#32 <<< DOMBreakpointType.subtreeModified.toNat

def domBreakpointDerivedTypeShift : Nat := 16

abbrev Breakpoints := AList fun _ : Int => Mask

def Breakpoints.mask (bp : Breakpoints) (node : Int) : Mask := (bp.lookup node).getD 0

def Breakpoints.set (bp : Breakpoints) (node : Int) (mask : Mask) : Breakpoints :=
  bp.insert node mask

def Breakpoints.erase (bp : Breakpoints) (node : Int) : Breakpoints := AList.erase node bp

def Breakpoints.store (bp : Breakpoints) (node : Int) (mask : Mask) : Breakpoints :=
  if mask ≠ 0 then bp.set node mask else bp.erase node

namespace Breakpoints

variable {bp : Breakpoints} {node n : Int} {m : Mask}

@[simp] theorem mask_empty (n : Int) : (∅ : Breakpoints).mask n = 0 := by
  simp [mask]

theorem mask_set : (bp.set node m).mask n = if n = node then m else bp.mask n := by
  by_cases same : n = node
  · subst same
    simp [mask, set]
  · simp [mask, set, same, AList.lookup_insert_ne same]

theorem mask_erase : (bp.erase node).mask n = if n = node then 0 else bp.mask n := by
  by_cases same : n = node
  · subst same
    simp [mask, erase]
  · simp [mask, erase, same, AList.lookup_erase_ne same]

theorem mask_store : (bp.store node m).mask n = if n = node then m else bp.mask n := by
  unfold store
  split
  · exact mask_set
  · rw [mask_erase]
    simp_all

theorem mem_store : n ∈ bp.store node m ↔ (n = node ∧ m ≠ 0) ∨ (n ≠ node ∧ n ∈ bp) := by
  unfold store
  by_cases same : n = node <;> split <;> simp_all [set, erase, AList.mem_insert, AList.mem_erase]

theorem mask_eq_zero_of_not_mem (absent : n ∉ bp) : bp.mask n = 0 := by
  simp [mask, AList.lookup_eq_none.mpr absent]

theorem mem_of_mask_ne_zero (set : bp.mask n ≠ 0) : n ∈ bp :=
  by_contra fun absent => set (mask_eq_zero_of_not_mem absent)

theorem isEmpty_entries_iff : bp.entries.isEmpty = true ↔ ∀ n, n ∉ bp := by
  rw [List.isEmpty_iff]
  constructor
  · intro empty n member
    rw [AList.mem_keys, AList.keys, empty] at member
    simp at member
  · intro absent
    cases entries : bp.entries with
    | nil => rfl
    | cons entry rest =>
        exact absurd (AList.mem_keys.mpr (by simp [AList.keys, entries])) (absent entry.1)

end Breakpoints

mutual
def updateSubtreeBreakpoints (rootMask : Mask) (set : Bool) : DOMTree → Breakpoints → Breakpoints
  | .node id children, bp =>
      let oldMask := bp.mask id
      let derivedMask := rootMask <<< domBreakpointDerivedTypeShift
      let newMask := if set then oldMask ||| derivedMask else oldMask &&& ~~~derivedMask
      let bp := bp.store id newMask
      let newRootMask := rootMask &&& ~~~newMask
      if newRootMask = 0 then bp else updateChildBreakpoints newRootMask set children bp

def updateChildBreakpoints (rootMask : Mask) (set : Bool) :
    List DOMTree → Breakpoints → Breakpoints
  | [], bp => bp
  | child :: siblings, bp =>
      updateChildBreakpoints rootMask set siblings (updateSubtreeBreakpoints rootMask set child bp)
end

def eraseSubtrees : List (List DOMTree) → Breakpoints → Breakpoints
  | [], bp => bp
  | [] :: stack, bp => eraseSubtrees stack bp
  | (.node id children :: siblings) :: stack, bp =>
      eraseSubtrees (siblings :: children :: stack) (bp.erase id)

theorem lookup_eraseSubtrees (stack : List (List DOMTree)) (bp : Breakpoints) (n : Int) :
    (eraseSubtrees stack bp).lookup n =
      if n ∈ stack.flatMap DOMTree.forestNodes then none else bp.lookup n := by
  induction stack, bp using eraseSubtrees.induct with
  | case1 bp => simp [eraseSubtrees]
  | case2 stack bp ih => simp [eraseSubtrees, ih]
  | case3 id children siblings stack bp ih =>
      rw [eraseSubtrees, ih]
      by_cases same : n = id
      · subst same
        simp [Breakpoints.erase]
      · simp only [List.flatMap_cons, DOMTree.forestNodes_cons, DOMTree.nodes_node,
          List.mem_append, List.mem_cons, same, false_or, Breakpoints.erase,
          AList.lookup_erase_ne same]
        by_cases below : n ∈ DOMTree.forestNodes children <;>
          by_cases later : n ∈ DOMTree.forestNodes siblings <;> simp [below, later]

theorem lookup_eraseSubtree (t : DOMTree) (bp : Breakpoints) (n : Int) :
    (eraseSubtrees [t.children] (bp.erase t.id)).lookup n =
      if n ∈ t.nodes then none else bp.lookup n := by
  obtain ⟨id, children⟩ := t
  rw [lookup_eraseSubtrees]
  by_cases below : n ∈ DOMTree.forestNodes children
  · simp [below]
  · by_cases same : n = id
    · subst same
      simp [Breakpoints.erase]
    · simp [Breakpoints.erase, below, same, AList.lookup_erase_ne same]

/-- What a protocol command answers. `nodeNotFound` is the error of
`InspectorDOMAgent::AssertNode`, whose text is not among the sources. -/
inductive Response
  | success
  | serverError (message : String)
  | nodeNotFound (nodeId : Int)
  deriving DecidableEq, Repr

structure DOMPause where
  targetNodeId : Option Int
  nodeId : Int
  type : String
  insertion : Option Bool
  deriving DecidableEq, Repr

structure NativeEventData where
  eventName : String
  targetName : Option String
  deriving DecidableEq, Repr

/-- What a probe does to the debugger: pause it, or fail a `DCHECK` on the way. -/
inductive DOMBreak
  | paused (description : DOMPause)
  | dcheckFailed
  deriving DecidableEq, Repr

def listenerEventCategoryType : String := "listener:"

def instrumentationEventCategoryType : String := "instrumentation:"

def eventListenerBreakpointKey (eventName targetName : String) : String :=
  if targetName.isEmpty || targetName == "*" then eventName ++ "$$" ++ "*"
  else eventName ++ "$$" ++ targetName.toLower

def domTypeForName (typeString : String) : Except Response DOMBreakpointType :=
  if typeString = "subtree-modified" then .ok .subtreeModified
  else if typeString = "attribute-modified" then .ok .attributeModified
  else if typeString = "node-removed" then .ok .nodeRemoved
  else .error (.serverError ("Unknown DOM breakpoint type: " ++ typeString))

def domTypeName : DOMBreakpointType → String
  | .subtreeModified => "subtree-modified"
  | .attributeModified => "attribute-modified"
  | .nodeRemoved => "node-removed"

/-- Modelled from the spec: the node of a protocol node id, as `InspectorDOMAgent::AssertNode`
finds it. Every node of the forest is bound to its own id. -/
def assertNode (F : DOMForest) (nodeId : Int) : Option DOMTree := F.subtree nodeId

def DOMForest.subtreeOf (F : DOMForest) (node : Int) : DOMTree :=
  (F.subtree node).getD (.node node [])

/-- The agent's state: `enabled_`, the stores of `agent_state_`, and `dom_breakpoints_`. Every
value the agent stores in a `BooleanMap` is `true`. -/
structure InspectorDOMDebuggerAgent where
  enabled : Bool
  pauseOnAllXhrs : Bool
  xhrBreakpoints : AList fun _ : String => Bool
  eventListenerBreakpoints : AList fun _ : String => Bool
  domBreakpoints : Breakpoints

namespace InspectorDOMDebuggerAgent

variable (agent : InspectorDOMDebuggerAgent)

def init : InspectorDOMDebuggerAgent := ⟨false, false, ∅, ∅, ∅⟩

def setEnabled (enabled : Bool) : InspectorDOMDebuggerAgent := { agent with enabled := enabled }

def didAddBreakpoint : InspectorDOMDebuggerAgent :=
  if agent.enabled then agent else agent.setEnabled true

def didRemoveBreakpoint : InspectorDOMDebuggerAgent :=
  if !agent.domBreakpoints.entries.isEmpty then agent
  else if !agent.eventListenerBreakpoints.entries.isEmpty then agent
  else if !agent.xhrBreakpoints.entries.isEmpty then agent
  else if agent.pauseOnAllXhrs then agent
  else agent.setEnabled false

def clearAllFields : InspectorDOMDebuggerAgent :=
  { agent with
    enabled := false
    pauseOnAllXhrs := false
    xhrBreakpoints := ∅
    eventListenerBreakpoints := ∅ }

@[simp] theorem domBreakpoints_didAddBreakpoint :
    agent.didAddBreakpoint.domBreakpoints = agent.domBreakpoints := by
  unfold didAddBreakpoint
  split <;> rfl

@[simp] theorem domBreakpoints_didRemoveBreakpoint :
    agent.didRemoveBreakpoint.domBreakpoints = agent.domBreakpoints := by
  unfold didRemoveBreakpoint
  split_ifs <;> rfl

@[simp] theorem eventListenerBreakpoints_didAddBreakpoint :
    agent.didAddBreakpoint.eventListenerBreakpoints = agent.eventListenerBreakpoints := by
  unfold didAddBreakpoint
  split <;> rfl

@[simp] theorem eventListenerBreakpoints_didRemoveBreakpoint :
    agent.didRemoveBreakpoint.eventListenerBreakpoints = agent.eventListenerBreakpoints := by
  unfold didRemoveBreakpoint
  split_ifs <;> rfl

def disable : InspectorDOMDebuggerAgent × Response :=
  let agent := agent.setEnabled false
  ({ agent with domBreakpoints := ∅ }.clearAllFields, .success)

def setBreakpoint (eventName targetName : String) : InspectorDOMDebuggerAgent × Response :=
  if eventName.isEmpty then (agent, .serverError "Event name is empty")
  else
    let key := eventListenerBreakpointKey eventName targetName
    let agent := { agent with
      eventListenerBreakpoints := agent.eventListenerBreakpoints.insert key true }
    (agent.didAddBreakpoint, .success)

def removeBreakpoint (eventName targetName : String) : InspectorDOMDebuggerAgent × Response :=
  if eventName.isEmpty then (agent, .serverError "Event name is empty")
  else
    let key := eventListenerBreakpointKey eventName targetName
    let agent := { agent with eventListenerBreakpoints := agent.eventListenerBreakpoints.erase key }
    (agent.didRemoveBreakpoint, .success)

def setEventListenerBreakpoint (eventName : String) (targetName : Option String) :
    InspectorDOMDebuggerAgent × Response :=
  agent.setBreakpoint (listenerEventCategoryType ++ eventName) (targetName.getD "")

def setInstrumentationBreakpoint (eventName : String) : InspectorDOMDebuggerAgent × Response :=
  agent.setBreakpoint (instrumentationEventCategoryType ++ eventName) ""

def removeEventListenerBreakpoint (eventName : String) (targetName : Option String) :
    InspectorDOMDebuggerAgent × Response :=
  agent.removeBreakpoint (listenerEventCategoryType ++ eventName) (targetName.getD "")

def removeInstrumentationBreakpoint (eventName : String) : InspectorDOMDebuggerAgent × Response :=
  agent.removeBreakpoint (instrumentationEventCategoryType ++ eventName) ""

def setXHRBreakpoint (url : String) : InspectorDOMDebuggerAgent × Response :=
  let agent := if url.isEmpty then { agent with pauseOnAllXhrs := true }
    else { agent with xhrBreakpoints := agent.xhrBreakpoints.insert url true }
  (agent.didAddBreakpoint, .success)

def removeXHRBreakpoint (url : String) : InspectorDOMDebuggerAgent × Response :=
  let agent := if url.isEmpty then { agent with pauseOnAllXhrs := false }
    else { agent with xhrBreakpoints := agent.xhrBreakpoints.erase url }
  (agent.didRemoveBreakpoint, .success)

@[simp] theorem domBreakpoints_setBreakpoint (eventName targetName : String) :
    (agent.setBreakpoint eventName targetName).1.domBreakpoints = agent.domBreakpoints := by
  unfold setBreakpoint
  split <;> simp

@[simp] theorem domBreakpoints_removeBreakpoint (eventName targetName : String) :
    (agent.removeBreakpoint eventName targetName).1.domBreakpoints = agent.domBreakpoints := by
  unfold removeBreakpoint
  split <;> simp

@[simp] theorem domBreakpoints_setXHRBreakpoint (url : String) :
    (agent.setXHRBreakpoint url).1.domBreakpoints = agent.domBreakpoints := by
  unfold setXHRBreakpoint
  split <;> simp

@[simp] theorem domBreakpoints_removeXHRBreakpoint (url : String) :
    (agent.removeXHRBreakpoint url).1.domBreakpoints = agent.domBreakpoints := by
  unfold removeXHRBreakpoint
  split <;> simp

def preparePauseOnNativeEventData (eventName : String) (targetName : Option String) :
    Option NativeEventData :=
  let fullEventName :=
    (if targetName.isSome then listenerEventCategoryType else instrumentationEventCategoryType) ++
      eventName
  let get key := (agent.eventListenerBreakpoints.lookup key).getD false
  let matched := get (eventListenerBreakpointKey fullEventName "*")
  let matched := match targetName with
    | some target => if !matched then get (eventListenerBreakpointKey fullEventName target) else matched
    | none => matched
  if !matched then none else some ⟨fullEventName, targetName⟩

def setDOMBreakpoint (F : DOMForest) (nodeId : Int) (typeString : String) :
    InspectorDOMDebuggerAgent × Response :=
  match assertNode F nodeId with
  | none => (agent, .nodeNotFound nodeId)
  | some node =>
      match domTypeForName typeString with
      | .error response => (agent, response)
      | .ok type =>
          let bit := rootBit type
          let bp := agent.domBreakpoints.set node.id (agent.domBreakpoints.mask node.id ||| bit)
          let bp := if bit &&& inheritableDOMBreakpointTypesMask ≠ 0 then
              updateChildBreakpoints bit true node.children bp
            else bp
          ({ agent with domBreakpoints := bp }.didAddBreakpoint, .success)

def removeDOMBreakpoint (F : DOMForest) (nodeId : Int) (typeString : String) :
    InspectorDOMDebuggerAgent × Response :=
  match assertNode F nodeId with
  | none => (agent, .nodeNotFound nodeId)
  | some node =>
      match domTypeForName typeString with
      | .error response => (agent, response)
      | .ok type =>
          let bit := rootBit type
          let mask := agent.domBreakpoints.mask node.id &&& ~~~bit
          let bp := agent.domBreakpoints.store node.id mask
          let bp := if bit &&& inheritableDOMBreakpointTypesMask ≠ 0 ∧
              mask &&& (bit <<< domBreakpointDerivedTypeShift) = 0 then
              updateChildBreakpoints bit false node.children bp
            else bp
          ({ agent with domBreakpoints := bp }.didRemoveBreakpoint, .success)

def didInsertDOMNode (F : DOMForest) (node : Int) : InspectorDOMDebuggerAgent :=
  if agent.domBreakpoints.entries.isEmpty then agent
  else
    let mask : Mask := match F.innerParentNode node with
      | some parent => agent.domBreakpoints.mask parent
      | none => 0
    let inheritableTypesMask :=
      (mask ||| mask >>> domBreakpointDerivedTypeShift) &&& inheritableDOMBreakpointTypesMask
    if inheritableTypesMask ≠ 0 then
      { agent with
        domBreakpoints :=
          updateSubtreeBreakpoints inheritableTypesMask true (F.subtreeOf node) agent.domBreakpoints }
    else agent

def didRemoveDOMNode (F : DOMForest) (node : Int) : InspectorDOMDebuggerAgent :=
  if agent.domBreakpoints.entries.isEmpty then agent
  else
    { agent with
      domBreakpoints :=
        eraseSubtrees [(F.subtreeOf node).children] (agent.domBreakpoints.erase node) }

def didCommitLoadForLocalFrame : InspectorDOMDebuggerAgent := { agent with domBreakpoints := ∅ }

def hasBreakpoint (domAgentEnabled : Bool) (node : Int) (type : DOMBreakpointType) : Bool :=
  if !domAgentEnabled then false
  else
    let bit := rootBit type
    let derivedBit := bit <<< domBreakpointDerivedTypeShift
    decide (agent.domBreakpoints.mask node &&& (bit ||| derivedBit) ≠ 0)

/-- The loop of `BreakProgramOnDOMEvent` that walks `InnerParentNode` up from `owner` until a node
carries `bit`; it takes at most one step per node of the forest. -/
def climbToOwner (F : DOMForest) (bp : Breakpoints) (bit : Mask) : Nat → Int → Int
  | 0, owner => owner
  | fuel + 1, owner =>
      if bp.mask owner &&& bit ≠ 0 then owner
      else match F.innerParentNode owner with
        | none => owner
        | some parent => climbToOwner F bp bit fuel parent

def breakProgramOnDOMEvent (domAgentEnabled : Bool) (F : DOMForest) (target : Int)
    (type : DOMBreakpointType) (insertion : Bool) : DOMBreak :=
  if !agent.hasBreakpoint domAgentEnabled target type then .dcheckFailed
  else if rootBit type &&& inheritableDOMBreakpointTypesMask ≠ 0 then
    match (if insertion then some target else F.innerParentNode target) with
    | none => .dcheckFailed
    | some start =>
        let owner := climbToOwner F agent.domBreakpoints (rootBit type) F.nodes.length start
        .paused ⟨some target, owner, domTypeName type,
          if type = .subtreeModified then some insertion else none⟩
  else .paused ⟨none, target, domTypeName type, none⟩

def breakOnDOMEvent (domAgentEnabled : Bool) (F : DOMForest) (node : Int)
    (type : DOMBreakpointType) (insertion : Bool) : Option DOMBreak :=
  if agent.hasBreakpoint domAgentEnabled node type then
    some (agent.breakProgramOnDOMEvent domAgentEnabled F node type insertion)
  else none

def willInsertDOMNode (domAgentEnabled : Bool) (F : DOMForest) (parent : Int) : Option DOMBreak :=
  agent.breakOnDOMEvent domAgentEnabled F parent .subtreeModified true

def willModifyDOMAttr (domAgentEnabled : Bool) (F : DOMForest) (element : Int) :
    Option DOMBreak :=
  agent.breakOnDOMEvent domAgentEnabled F element .attributeModified false

def didInvalidateStyleAttr (domAgentEnabled : Bool) (F : DOMForest) (node : Int) :
    Option DOMBreak :=
  agent.breakOnDOMEvent domAgentEnabled F node .attributeModified false

def willRemoveDOMNode (domAgentEnabled : Bool) (F : DOMForest) (node : Int) :
    Option DOMBreak × InspectorDOMDebuggerAgent :=
  let reported :=
    if agent.hasBreakpoint domAgentEnabled node .nodeRemoved then
      some (agent.breakProgramOnDOMEvent domAgentEnabled F node .nodeRemoved false)
    else match F.innerParentNode node with
      | some parent =>
          if agent.hasBreakpoint domAgentEnabled parent .subtreeModified then
            some (agent.breakProgramOnDOMEvent domAgentEnabled F node .subtreeModified false)
          else none
      | none => none
  (reported, agent.didRemoveDOMNode F node)

end InspectorDOMDebuggerAgent

end BlinkInspector
