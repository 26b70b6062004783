import Blink.Inspector.Page

/-!
`enabled_` against the breakpoint stores: the agent stays enabled while any breakpoint exists, and
a command it rejects changes nothing.
-/

namespace BlinkInspector

theorem AList.entries_ne_nil_iff {α : Type} {β : α → Type} [DecidableEq α] (s : AList β) :
    s.entries ≠ [] ↔ ∃ a, a ∈ s := by
  rw [← not_iff_not, not_not, ← List.isEmpty_iff, not_exists]
  simp only [List.isEmpty_iff]
  constructor
  · intro empty a member
    rw [AList.mem_keys, AList.keys, empty] at member
    simp at member
  · intro absent
    cases entries : s.entries with
    | nil => rfl
    | cons entry rest =>
        exact absurd (AList.mem_keys.mpr (by simp [AList.keys, entries])) (absent entry.1)

theorem AList.entries_erase_ne_nil {α : Type} {β : α → Type} [DecidableEq α] {s : AList β}
    {a : α} (left : (s.erase a).entries ≠ []) : s.entries ≠ [] := by
  rw [AList.entries_ne_nil_iff] at left ⊢
  obtain ⟨b, member⟩ := left
  exact ⟨b, (AList.mem_erase.mp member).2⟩

namespace Breakpoints

variable {bp : Breakpoints} {n node : Int}

theorem mem_of_mem_store_and {x : Mask} (member : n ∈ bp.store node (bp.mask node &&& x)) :
    n ∈ bp := by
  rcases mem_store.mp member with ⟨rfl, nonzero⟩ | ⟨-, kept⟩
  · exact mem_of_mask_ne_zero fun zero => nonzero (by simp [zero])
  · exact kept

theorem mem_of_mem_eraseSubtrees {stack : List (List DOMTree)}
    (member : n ∈ eraseSubtrees stack bp) : n ∈ bp := by
  rw [← AList.lookup_isSome, lookup_eraseSubtrees] at member
  split at member
  · simp at member
  · exact AList.lookup_isSome.mp member

theorem mem_of_mem_erase (member : n ∈ bp.erase node) : n ∈ bp :=
  (AList.mem_erase.mp member).2

end Breakpoints

mutual
theorem mem_of_mem_updateSubtree_clear {rootMask : Mask} {n : Int} :
    ∀ (t : DOMTree) (bp : Breakpoints), n ∈ updateSubtreeBreakpoints rootMask false t bp → n ∈ bp
  | .node id children, bp, member => by
      simp only [updateSubtreeBreakpoints, Bool.false_eq_true, if_false] at member
      split at member
      · exact Breakpoints.mem_of_mem_store_and member
      · exact Breakpoints.mem_of_mem_store_and
          (mem_of_mem_updateChildren_clear children _ member)

theorem mem_of_mem_updateChildren_clear {rootMask : Mask} {n : Int} :
    ∀ (ts : List DOMTree) (bp : Breakpoints), n ∈ updateChildBreakpoints rootMask false ts bp →
      n ∈ bp
  | [], _, member => member
  | t :: ts, bp, member =>
      mem_of_mem_updateSubtree_clear t bp (mem_of_mem_updateChildren_clear ts _ member)
end

namespace InspectorDOMDebuggerAgent

variable (agent : InspectorDOMDebuggerAgent) (F : DOMForest)

def HasBreakpoints : Prop :=
  agent.domBreakpoints.entries ≠ [] ∨ agent.eventListenerBreakpoints.entries ≠ [] ∨
    agent.xhrBreakpoints.entries ≠ [] ∨ agent.pauseOnAllXhrs = true

/-- Breakpoints keep the agent enabled. -/
def EnabledInvariant : Prop := agent.HasBreakpoints → agent.enabled = true

theorem enabledInvariant_didAddBreakpoint : agent.didAddBreakpoint.EnabledInvariant := by
  unfold didAddBreakpoint
  split <;> simp_all [EnabledInvariant, setEnabled]

theorem enabledInvariant_didRemoveBreakpoint :
    agent.didRemoveBreakpoint.EnabledInvariant ↔ agent.EnabledInvariant := by
  unfold didRemoveBreakpoint
  split_ifs <;> simp_all [EnabledInvariant, HasBreakpoints, setEnabled]

variable {agent}

theorem EnabledInvariant.of_fewer {agent' : InspectorDOMDebuggerAgent}
    (inv : agent.EnabledInvariant) (same : agent'.enabled = agent.enabled)
    (fewer : agent'.HasBreakpoints → agent.HasBreakpoints) : agent'.EnabledInvariant :=
  fun has => same ▸ inv (fewer has)

theorem EnabledInvariant.of_fewer_dom (inv : agent.EnabledInvariant) {bp : Breakpoints}
    (fewer : ∀ n, n ∈ bp → n ∈ agent.domBreakpoints) :
    ({ agent with domBreakpoints := bp } : InspectorDOMDebuggerAgent).EnabledInvariant :=
  inv.of_fewer rfl fun has => by
    rcases has with dom | rest
    · obtain ⟨n, member⟩ := (AList.entries_ne_nil_iff _).mp dom
      exact .inl ((AList.entries_ne_nil_iff _).mpr ⟨n, fewer n member⟩)
    · exact .inr rest

theorem EnabledInvariant.setDOMBreakpoint (inv : agent.EnabledInvariant) (nodeId : Int)
    (typeString : String) : (agent.setDOMBreakpoint F nodeId typeString).1.EnabledInvariant := by
  unfold InspectorDOMDebuggerAgent.setDOMBreakpoint
  split
  · exact inv
  · split
    · exact inv
    · exact enabledInvariant_didAddBreakpoint _

theorem EnabledInvariant.removeDOMBreakpoint (inv : agent.EnabledInvariant) (nodeId : Int)
    (typeString : String) : (agent.removeDOMBreakpoint F nodeId typeString).1.EnabledInvariant := by
  unfold InspectorDOMDebuggerAgent.removeDOMBreakpoint
  split
  · exact inv
  · split
    · exact inv
    · refine (enabledInvariant_didRemoveBreakpoint _).mpr (inv.of_fewer_dom fun n member => ?_)
      split at member
      · exact Breakpoints.mem_of_mem_store_and (mem_of_mem_updateChildren_clear _ _ member)
      · exact Breakpoints.mem_of_mem_store_and member

theorem EnabledInvariant.setBreakpoint (inv : agent.EnabledInvariant) (eventName targetName : String) :
    (agent.setBreakpoint eventName targetName).1.EnabledInvariant := by
  unfold InspectorDOMDebuggerAgent.setBreakpoint
  split
  · exact inv
  · exact enabledInvariant_didAddBreakpoint _

theorem EnabledInvariant.removeBreakpoint (inv : agent.EnabledInvariant)
    (eventName targetName : String) :
    (agent.removeBreakpoint eventName targetName).1.EnabledInvariant := by
  unfold InspectorDOMDebuggerAgent.removeBreakpoint
  split
  · exact inv
  · refine (enabledInvariant_didRemoveBreakpoint _).mpr (inv.of_fewer rfl fun has => ?_)
    rcases has with dom | listener | rest
    · exact .inl dom
    · exact .inr (.inl (AList.entries_erase_ne_nil listener))
    · exact .inr (.inr rest)

theorem EnabledInvariant.setXHRBreakpoint (url : String) :
    (agent.setXHRBreakpoint url).1.EnabledInvariant :=
  enabledInvariant_didAddBreakpoint _

theorem EnabledInvariant.removeXHRBreakpoint (inv : agent.EnabledInvariant) (url : String) :
    (agent.removeXHRBreakpoint url).1.EnabledInvariant := by
  unfold InspectorDOMDebuggerAgent.removeXHRBreakpoint
  refine (enabledInvariant_didRemoveBreakpoint _).mpr (inv.of_fewer (by split <;> rfl) fun has => ?_)
  split at has
  · rcases has with dom | listener | xhr | pause
    · exact .inl dom
    · exact .inr (.inl listener)
    · exact .inr (.inr (.inl xhr))
    · simp at pause
  · rcases has with dom | listener | xhr | pause
    · exact .inl dom
    · exact .inr (.inl listener)
    · exact .inr (.inr (.inl (AList.entries_erase_ne_nil xhr)))
    · exact .inr (.inr (.inr pause))

theorem enabledInvariant_disable : agent.disable.1.EnabledInvariant := by
  simp [EnabledInvariant, HasBreakpoints, disable, clearAllFields, setEnabled]

theorem enabled_didInsertDOMNode (node : Int) :
    (agent.didInsertDOMNode F node).enabled = agent.enabled := by
  simp only [InspectorDOMDebuggerAgent.didInsertDOMNode]
  split_ifs <;> rfl

theorem EnabledInvariant.didInsertDOMNode (inv : agent.EnabledInvariant) (node : Int) :
    (agent.didInsertDOMNode F node).EnabledInvariant := by
  intro has
  rw [enabled_didInsertDOMNode]
  by_cases empty : agent.domBreakpoints.entries.isEmpty
  · simp only [InspectorDOMDebuggerAgent.didInsertDOMNode, empty, if_true] at has
    exact inv has
  · exact inv (.inl (by simpa using empty))

theorem EnabledInvariant.didRemoveDOMNode (inv : agent.EnabledInvariant) (node : Int) :
    (agent.didRemoveDOMNode F node).EnabledInvariant := by
  unfold InspectorDOMDebuggerAgent.didRemoveDOMNode
  split
  · exact inv
  · exact inv.of_fewer_dom fun n member =>
      Breakpoints.mem_of_mem_erase (Breakpoints.mem_of_mem_eraseSubtrees member)

theorem EnabledInvariant.didCommitLoadForLocalFrame (inv : agent.EnabledInvariant) :
    agent.didCommitLoadForLocalFrame.EnabledInvariant :=
  inv.of_fewer_dom fun n member => absurd member (AList.not_mem_empty n)

end InspectorDOMDebuggerAgent

namespace Page

open InspectorDOMDebuggerAgent

variable {domAgentEnabled : Bool} {p next : Page} {op : Operation} {outcome : Outcome}

/-- One operation keeps the invariant. -/
theorem enabledInvariant_step (inv : p.agent.EnabledInvariant)
    (stepped : p.step domAgentEnabled op = some (next, outcome)) : next.agent.EnabledInvariant := by
  cases op <;> simp only [step, answer, Option.some.injEq, Option.map_eq_some'] at stepped
  case insertNode =>
    obtain ⟨forest, -, stepped⟩ := stepped
    cases stepped
    exact inv.didInsertDOMNode _ _
  case removeNode =>
    obtain ⟨forest, -, stepped⟩ := stepped
    cases stepped
    exact inv.didRemoveDOMNode _ _
  all_goals cases stepped
  case setDOMBreakpoint => exact inv.setDOMBreakpoint _ _ _
  case removeDOMBreakpoint => exact inv.removeDOMBreakpoint _ _ _
  case setEventListenerBreakpoint => exact inv.setBreakpoint _ _
  case removeEventListenerBreakpoint => exact inv.removeBreakpoint _ _
  case setInstrumentationBreakpoint => exact inv.setBreakpoint _ _
  case removeInstrumentationBreakpoint => exact inv.removeBreakpoint _ _
  case setXHRBreakpoint => exact EnabledInvariant.setXHRBreakpoint _
  case removeXHRBreakpoint => exact inv.removeXHRBreakpoint _
  case disable => exact enabledInvariant_disable
  case modifyAttribute => exact inv
  case invalidateStyleAttr => exact inv
  case commitLoad => exact inv.didCommitLoadForLocalFrame

theorem Reachable.enabledInvariant (reachable : p.Reachable domAgentEnabled) :
    p.agent.EnabledInvariant := by
  induction reachable with
  | init forest => simp [EnabledInvariant, HasBreakpoints, InspectorDOMDebuggerAgent.init]
  | step _ stepped inv => exact enabledInvariant_step inv stepped

variable {agent : InspectorDOMDebuggerAgent} {F : DOMForest}

theorem setDOMBreakpoint_rejected {nodeId : Int} {typeString : String}
    (rejected : (agent.setDOMBreakpoint F nodeId typeString).2 ≠ .success) :
    (agent.setDOMBreakpoint F nodeId typeString).1 = agent := by
  unfold InspectorDOMDebuggerAgent.setDOMBreakpoint at rejected ⊢
  split <;> [rfl; (split <;> simp_all)]

theorem removeDOMBreakpoint_rejected {nodeId : Int} {typeString : String}
    (rejected : (agent.removeDOMBreakpoint F nodeId typeString).2 ≠ .success) :
    (agent.removeDOMBreakpoint F nodeId typeString).1 = agent := by
  unfold InspectorDOMDebuggerAgent.removeDOMBreakpoint at rejected ⊢
  split <;> [rfl; (split <;> simp_all)]

theorem setBreakpoint_rejected {eventName targetName : String}
    (rejected : (agent.setBreakpoint eventName targetName).2 ≠ .success) :
    (agent.setBreakpoint eventName targetName).1 = agent := by
  unfold InspectorDOMDebuggerAgent.setBreakpoint at rejected ⊢
  split <;> simp_all

theorem removeBreakpoint_rejected {eventName targetName : String}
    (rejected : (agent.removeBreakpoint eventName targetName).2 ≠ .success) :
    (agent.removeBreakpoint eventName targetName).1 = agent := by
  unfold InspectorDOMDebuggerAgent.removeBreakpoint at rejected ⊢
  split <;> simp_all

theorem step_of_rejected {response : Response}
    (stepped : p.step domAgentEnabled op = some (next, .response response))
    (rejected : response ≠ .success) : next = p := by
  cases op <;> simp only [step, answer, Option.some.injEq, Option.map_eq_some', Prod.mk.injEq,
    Outcome.response.injEq, reduceCtorEq, and_false, exists_false] at stepped
  all_goals obtain ⟨rfl, rfl⟩ := stepped
  case setDOMBreakpoint => rw [setDOMBreakpoint_rejected rejected]
  case removeDOMBreakpoint => rw [removeDOMBreakpoint_rejected rejected]
  case setEventListenerBreakpoint => rw [setEventListenerBreakpoint, setBreakpoint_rejected rejected]
  case removeEventListenerBreakpoint =>
    rw [removeEventListenerBreakpoint, removeBreakpoint_rejected rejected]
  case setInstrumentationBreakpoint =>
    rw [setInstrumentationBreakpoint, setBreakpoint_rejected rejected]
  case removeInstrumentationBreakpoint =>
    rw [removeInstrumentationBreakpoint, removeBreakpoint_rejected rejected]
  all_goals exact absurd rfl rejected

/-- The agent stays enabled while any breakpoint exists, and a command it rejects changes
nothing. -/
theorem breakpoints_keep_agent_enabled (domAgentEnabled : Bool) :
    (∀ p : Page, p.Reachable domAgentEnabled →
      (p.agent.domBreakpoints.entries ≠ [] ∨ p.agent.eventListenerBreakpoints.entries ≠ [] ∨
        p.agent.xhrBreakpoints.entries ≠ [] ∨ p.agent.pauseOnAllXhrs = true) →
      p.agent.enabled = true) ∧
    (∀ (p next : Page) (op : Operation) (response : Response),
      p.step domAgentEnabled op = some (next, .response response) → response ≠ .success →
        next = p) :=
  ⟨fun _ reachable => reachable.enabledInvariant, fun _ _ _ _ => step_of_rejected⟩

/-- On a two-node forest, `setXHRBreakpoint("api")` gives a reachable page with a breakpoint and
the agent enabled; `setDOMBreakpoint` on the unknown node 7 is then rejected and changes
nothing. -/
theorem xhr_breakpoint_keeps_agent_enabled :
    let p : Page := ⟨⟨[.node 1 [.node 2 []]], by decide⟩,
      (InspectorDOMDebuggerAgent.init.setXHRBreakpoint "api").1⟩
    p.Reachable true ∧ p.agent.xhrBreakpoints.entries ≠ [] ∧ p.agent.enabled = true ∧
      ∃ next, p.step true (.setDOMBreakpoint 7 "subtree-modified") =
        some (next, .response (.nodeNotFound 7)) ∧ next = p := by
  intro p
  have reachable : p.Reachable true :=
    @Page.Reachable.step true _ _ (.setXHRBreakpoint "api") _ (.init _) rfl
  have stored : p.agent.xhrBreakpoints.entries ≠ [] := List.cons_ne_nil _ _
  have rejected : p.step true (.setDOMBreakpoint 7 "subtree-modified") =
      some (p, .response (.nodeNotFound 7)) := rfl
  exact ⟨reachable, stored, (breakpoints_keep_agent_enabled true).1 p reachable (.inr (.inr (.inl stored))),
    p, rejected, (breakpoints_keep_agent_enabled true).2 p p _ _ rejected (by decide)⟩

end Page

end BlinkInspector
