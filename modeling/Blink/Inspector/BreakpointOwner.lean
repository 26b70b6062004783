import Blink.Inspector.MaskInvariant

/-!
The node a DOM probe reports as the owner of the breakpoint that paused it. Over a state with the
mask invariant the walk of `BreakProgramOnDOMEvent` stops at the nearest node carrying the root
bit, and both of its `DCHECK`s hold.
-/

namespace BlinkInspector

/-- The nearest of `start` and its ancestors that carries the root bit of `type`. -/
def DOMForest.breakpointOwner (F : DOMForest) (bp : Breakpoints) (type : DOMBreakpointType)
    (start : Int) : Option Int :=
  (start :: F.ancestors start).find? fun y => bp.mask y &&& rootBit type ≠ 0

namespace DOMForest

variable {F : DOMForest} {bp : Breakpoints} {type : DOMBreakpointType} {start owner : Int}

/-- With fuel for every ancestor, the loop of `BreakProgramOnDOMEvent` stops at the nearest node
that carries the bit. -/
theorem climbToOwner_eq : ∀ (fuel : Nat) {start : Int}, (F.ancestors start).length ≤ fuel →
    F.breakpointOwner bp type start = some owner →
      InspectorDOMDebuggerAgent.climbToOwner F bp (rootBit type) fuel start = owner
  | 0, start, short, found => by
      unfold breakpointOwner at found
      rw [List.length_eq_zero.mp (Nat.le_zero.mp short)] at found
      rw [InspectorDOMDebuggerAgent.climbToOwner]
      exact (List.mem_singleton.mp (List.mem_of_find?_eq_some found)).symm
  | fuel + 1, start, short, found => by
      unfold breakpointOwner at found
      rw [InspectorDOMDebuggerAgent.climbToOwner]
      by_cases carries : bp.mask start &&& rootBit type ≠ 0
      · rw [if_pos carries]
        rw [List.find?_cons_of_pos _ (by simpa using carries)] at found
        exact Option.some.inj found
      · rw [if_neg carries, innerParentNode]
        rw [List.find?_cons_of_neg _ (by simpa using carries)] at found
        cases chain : F.ancestors start with
        | nil => simp [chain] at found
        | cons parent rest =>
            have above := ancestors_chain chain
            rw [chain] at short found
            refine climbToOwner_eq fuel (by rw [above]; simp at short; omega) ?_
            unfold breakpointOwner
            rwa [above]

theorem climbToOwner_eq_of_found (found : F.breakpointOwner bp type start = some owner) :
    InspectorDOMDebuggerAgent.climbToOwner F bp (rootBit type) F.nodes.length start = owner :=
  climbToOwner_eq _ (ancestors_length_le start) found

end DOMForest

namespace MaskInvariant

variable {F : DOMForest} {bp : Breakpoints} {n : Int}

theorem mask_and_not_known (inv : MaskInvariant F bp) (n : Int) :
    bp.mask n &&& ~~~knownDOMBreakpointBits = 0 := by
  cases found : bp.lookup n with
  | none => simp [Breakpoints.mask, found]
  | some m => simpa [Breakpoints.mask, found] using inv.knownBits n m found

theorem derived_eq_false (inv : MaskInvariant F bp) {type : DOMBreakpointType}
    (other : type ≠ .subtreeModified) (n : Int) :
    (bp.mask n).getLsbD (type.toNat + 16) = false := by
  have unknown := congrArg (BitVec.getLsbD · (type.toNat + 16)) (inv.mask_and_not_known n)
  cases type <;> simp_all [knownDOMBreakpointBits]

theorem derived_iff (inv : MaskInvariant F bp) (n : Int) :
    (bp.mask n).getLsbD 16 = true ↔ ∃ a ∈ F.ancestors n, (bp.mask a).getLsbD 0 = true := by
  have derived := inv.derivedIffAncestor n
  rw [and_derivedBit_ne_zero] at derived
  simp only [and_rootBit_ne_zero] at derived
  exact derived

theorem breakpointOwner_isSome (inv : MaskInvariant F bp)
    (has : (bp.mask n).getLsbD 0 = true ∨ (bp.mask n).getLsbD 16 = true) :
    ∃ owner, F.breakpointOwner bp .subtreeModified n = some owner := by
  refine Option.isSome_iff_exists.mp (List.find?_isSome.mpr ?_)
  rcases has with owns | derived
  · exact ⟨n, by simp, decide_eq_true (and_rootBit_ne_zero.mpr owns)⟩
  · obtain ⟨a, above, owns⟩ := (inv.derived_iff n).mp derived
    exact ⟨a, by simp [above], decide_eq_true (and_rootBit_ne_zero.mpr owns)⟩

theorem derived_of_parent (inv : MaskInvariant F bp) {parent : Int}
    (parentOf : F.innerParentNode n = some parent)
    (has : (bp.mask parent).getLsbD 0 = true ∨ (bp.mask parent).getLsbD 16 = true) :
    (bp.mask n).getLsbD 16 = true := by
  obtain ⟨rest, chain⟩ : ∃ rest, F.ancestors n = parent :: rest := by
    unfold DOMForest.innerParentNode at parentOf
    cases chain : F.ancestors n with
    | nil => simp [chain] at parentOf
    | cons head rest => simp_all
  refine (inv.derived_iff n).mpr ?_
  rcases has with owns | derived
  · exact ⟨parent, by simp [chain], owns⟩
  · obtain ⟨a, above, owns⟩ := (inv.derived_iff parent).mp derived
    rw [DOMForest.ancestors_chain chain] at above
    exact ⟨a, by simp [chain, above], owns⟩

end MaskInvariant

namespace InspectorDOMDebuggerAgent

variable {agent : InspectorDOMDebuggerAgent} {domAgentEnabled : Bool} {F : DOMForest}
  {target : Int} {b : DOMBreak}

theorem hasBreakpoint_eq_true {type : DOMBreakpointType} :
    agent.hasBreakpoint domAgentEnabled target type = true ↔ domAgentEnabled = true ∧
      ((agent.domBreakpoints.mask target).getLsbD type.toNat = true ∨
        (agent.domBreakpoints.mask target).getLsbD (type.toNat + 16) = true) := by
  unfold hasBreakpoint
  cases domAgentEnabled
  · simp
  · simp only [Bool.not_true, Bool.false_eq_true, if_false, decide_eq_true_eq, true_and]
    exact and_rootOrDerived_ne_zero

theorem breakOnDOMEvent_eq_some {type : DOMBreakpointType} {insertion : Bool} :
    agent.breakOnDOMEvent domAgentEnabled F target type insertion = some b ↔
      agent.hasBreakpoint domAgentEnabled target type = true ∧
        b = agent.breakProgramOnDOMEvent domAgentEnabled F target type insertion := by
  unfold breakOnDOMEvent
  by_cases has : agent.hasBreakpoint domAgentEnabled target type = true
  · rw [if_pos has]
    exact ⟨fun same => ⟨has, (Option.some.inj same).symm⟩, fun ⟨_, same⟩ => same ▸ rfl⟩
  · rw [if_neg has]
    exact ⟨fun absent => Option.noConfusion absent, fun ⟨present, _⟩ => absurd present has⟩

theorem breakProgramOnDOMEvent_of_other (inv : MaskInvariant F agent.domBreakpoints)
    {type : DOMBreakpointType} (other : type ≠ .subtreeModified) {insertion : Bool}
    (has : agent.hasBreakpoint domAgentEnabled target type = true) :
    agent.domBreakpoints.mask target &&& rootBit type ≠ 0 ∧
      agent.breakProgramOnDOMEvent domAgentEnabled F target type insertion =
        .paused ⟨none, target, domTypeName type, none⟩ := by
  have owns := hasBreakpoint_eq_true.mp has
  rw [inv.derived_eq_false other, Bool.false_eq_true, or_false] at owns
  refine ⟨and_rootBit_ne_zero.mpr owns.2, ?_⟩
  simp only [breakProgramOnDOMEvent, has, Bool.not_true, Bool.false_eq_true, if_false]
  rw [if_neg (mt rootBit_inheritable_ne_zero.mp other)]

theorem breakProgramOnDOMEvent_subtree (inv : MaskInvariant F agent.domBreakpoints)
    {insertion : Bool} {start : Int}
    (started : (if insertion then some target else F.innerParentNode target) = some start)
    (has : agent.hasBreakpoint domAgentEnabled target .subtreeModified = true)
    (covered : (agent.domBreakpoints.mask start).getLsbD 0 = true ∨
      (agent.domBreakpoints.mask start).getLsbD 16 = true) :
    ∃ owner, F.breakpointOwner agent.domBreakpoints .subtreeModified start = some owner ∧
      agent.breakProgramOnDOMEvent domAgentEnabled F target .subtreeModified insertion =
        .paused ⟨some target, owner, "subtree-modified", some insertion⟩ := by
  obtain ⟨owner, found⟩ := inv.breakpointOwner_isSome covered
  refine ⟨owner, found, ?_⟩
  simp only [breakProgramOnDOMEvent, has, Bool.not_true, Bool.false_eq_true, if_false,
    rootBit_inheritable_ne_zero, if_true, started, DOMForest.climbToOwner_eq_of_found found]
  rfl

end InspectorDOMDebuggerAgent

open InspectorDOMDebuggerAgent

/-- Over a state with the mask invariant, each probe that pauses reports a pause, never a failed
`DCHECK`, and names as owner the node carrying the root bit: the target for `AttributeModified`
and `NodeRemoved`, and for `SubtreeModified` the nearest carrier at or above the node inserted into,
or above the removed node. -/
theorem probes_report_breakpoint_owner (domAgentEnabled : Bool) (F : DOMForest)
    (agent : InspectorDOMDebuggerAgent) (inv : MaskInvariant F agent.domBreakpoints) :
    (∀ parent b, agent.willInsertDOMNode domAgentEnabled F parent = some b →
      ∃ owner, F.breakpointOwner agent.domBreakpoints .subtreeModified parent = some owner ∧
        b = .paused ⟨some parent, owner, "subtree-modified", some true⟩) ∧
    (∀ node b, (agent.willRemoveDOMNode domAgentEnabled F node).1 = some b →
      (agent.domBreakpoints.mask node &&& rootBit .nodeRemoved ≠ 0 ∧
        b = .paused ⟨none, node, "node-removed", none⟩) ∨
      ∃ parent owner, F.innerParentNode node = some parent ∧
        F.breakpointOwner agent.domBreakpoints .subtreeModified parent = some owner ∧
        b = .paused ⟨some node, owner, "subtree-modified", some false⟩) ∧
    (∀ element b, agent.willModifyDOMAttr domAgentEnabled F element = some b →
      agent.domBreakpoints.mask element &&& rootBit .attributeModified ≠ 0 ∧
        b = .paused ⟨none, element, "attribute-modified", none⟩) ∧
    (∀ node b, agent.didInvalidateStyleAttr domAgentEnabled F node = some b →
      agent.domBreakpoints.mask node &&& rootBit .attributeModified ≠ 0 ∧
        b = .paused ⟨none, node, "attribute-modified", none⟩) := by
  have modified : ∀ target b, agent.breakOnDOMEvent domAgentEnabled F target
      .attributeModified false = some b →
        agent.domBreakpoints.mask target &&& rootBit .attributeModified ≠ 0 ∧
          b = .paused ⟨none, target, "attribute-modified", none⟩ := fun target b reported => by
    obtain ⟨has, rfl⟩ := breakOnDOMEvent_eq_some.mp reported
    exact breakProgramOnDOMEvent_of_other inv (by decide) has
  refine ⟨fun parent b reported => ?_, fun node b reported => ?_, modified, modified⟩
  · obtain ⟨has, rfl⟩ := breakOnDOMEvent_eq_some.mp reported
    exact breakProgramOnDOMEvent_subtree inv rfl has (hasBreakpoint_eq_true.mp has).2
  · unfold willRemoveDOMNode at reported
    split at reported
    · rename_i has
      cases reported
      exact .inl (breakProgramOnDOMEvent_of_other inv (by decide) has)
    · split at reported
      · rename_i parent parentOf
        split at reported
        · rename_i has
          cases reported
          have covered := (hasBreakpoint_eq_true.mp has).2
          have enabled := (hasBreakpoint_eq_true.mp has).1
          have started : (if false = true then some node else F.innerParentNode node) = some parent :=
            by simpa using parentOf
          obtain ⟨owner, found, paused⟩ := breakProgramOnDOMEvent_subtree inv started
            (hasBreakpoint_eq_true.mpr ⟨enabled, .inr (inv.derived_of_parent parentOf covered)⟩)
            covered
          exact .inr ⟨parent, owner, parentOf, found, paused⟩
        · cases reported
      · cases reported

/-- A `SubtreeModified` breakpoint on the root of a two-node tree pauses an insertion below the
child. -/
theorem insertion_below_subtreeBreakpoint :
    let F : DOMForest := ⟨[.node 1 [.node 2 []]], by decide⟩
    let agent := (InspectorDOMDebuggerAgent.init.setDOMBreakpoint F 1 "subtree-modified").1
    MaskInvariant F agent.domBreakpoints ∧
      ∃ owner, F.breakpointOwner agent.domBreakpoints .subtreeModified 2 = some owner ∧
        agent.willInsertDOMNode true F 2 =
          some (.paused ⟨some 2, owner, "subtree-modified", some true⟩) := by
  intro F agent
  have reachable : Page.Reachable true ⟨F, agent⟩ :=
    @Page.Reachable.step true _ _ (.setDOMBreakpoint 1 "subtree-modified") _ (.init F) rfl
  have inv := (Page.Reachable.domBreakpointsInvariant reachable).maskInvariant
  obtain ⟨owner, found, reported⟩ := (probes_report_breakpoint_owner true F agent inv).1 2
    (.paused ⟨some 2, 1, "subtree-modified", some true⟩) (by decide)
  exact ⟨inv, owner, found, by rw [← reported]; decide⟩

end BlinkInspector
