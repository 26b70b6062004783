import Blink.Inspector.SubtreeBits

/-!
The invariant of `dom_breakpoints_` along every run of a page: every entry is a non-empty mask of
known bits, and a node carries the derived `SubtreeModified` bit exactly when one of its proper
ancestors carries the root bit.
-/

namespace BlinkInspector

open Breakpoints

/-! ### Masks -/

def KnownMask (m : Mask) : Prop := ∀ i, m.getLsbD i = true → i = 0 ∨ i = 1 ∨ i = 2 ∨ i = 16

section KnownMask

variable {m : Mask}

theorem knownMask_zero : KnownMask 0 := fun i bit => by simp at bit

theorem KnownMask.withDerivedBit (known : KnownMask m) (set : Bool) :
    KnownMask (withDerivedBit m set) := fun i bit => by
  rw [getLsbD_withDerivedBit] at bit
  split at bit
  · exact .inr (.inr (.inr ‹_›))
  · exact known i bit

theorem KnownMask.or_rootBit (known : KnownMask m) (type : DOMBreakpointType) :
    KnownMask (m ||| rootBit type) := fun i bit => by
  simp only [BitVec.getLsbD_or, getLsbD_rootBit, Bool.or_eq_true, decide_eq_true_eq] at bit
  rcases bit with bit | rfl
  · exact known i bit
  · cases type <;> simp

theorem KnownMask.and (known : KnownMask m) (x : Mask) : KnownMask (m &&& x) := fun i bit =>
  known i (by simp only [BitVec.getLsbD_and, Bool.and_eq_true] at bit; exact bit.1)

theorem or_rootBit_ne_zero (m : Mask) (type : DOMBreakpointType) : m ||| rootBit type ≠ 0 :=
  mask_ne_zero_iff.mpr ⟨type.toNat, by have := type.toNat_lt; omega, by simp⟩

end KnownMask

/-! ### Entries -/

namespace Breakpoints

def NonZero (bp : Breakpoints) : Prop := ∀ n m, bp.lookup n = some m → m ≠ 0

variable {bp : Breakpoints} {node : Int} {m : Mask}

theorem nonZero_empty : (∅ : Breakpoints).NonZero := fun n m found => by simp at found

theorem NonZero.set (nonZero : bp.NonZero) (nonEmpty : m ≠ 0) : (bp.set node m).NonZero := by
  intro n m' found
  by_cases same : n = node
  · subst same
    simp only [Breakpoints.set, AList.lookup_insert, Option.some.injEq] at found
    exact found ▸ nonEmpty
  · rw [Breakpoints.set, AList.lookup_insert_ne same] at found
    exact nonZero n m' found

theorem NonZero.erase (nonZero : bp.NonZero) : (bp.erase node).NonZero := by
  intro n m' found
  by_cases same : n = node
  · subst same
    simp [Breakpoints.erase] at found
  · rw [Breakpoints.erase, AList.lookup_erase_ne same] at found
    exact nonZero n m' found

theorem NonZero.store (nonZero : bp.NonZero) : (bp.store node m).NonZero := by
  unfold Breakpoints.store
  split
  · exact nonZero.set ‹_›
  · exact nonZero.erase

theorem NonZero.eraseSubtrees (nonZero : bp.NonZero) (stack : List (List DOMTree)) :
    (eraseSubtrees stack bp).NonZero := by
  intro n m' found
  rw [lookup_eraseSubtrees] at found
  split at found
  · cases found
  · exact nonZero n m' found

theorem store_of_ne_zero (nonEmpty : m ≠ 0) : bp.store node m = bp.set node m :=
  if_pos nonEmpty

theorem mask_eq_zero_of_isEmpty (empty : bp.entries.isEmpty = true) (n : Int) : bp.mask n = 0 :=
  mask_eq_zero_of_not_mem (isEmpty_entries_iff.mp empty n)

theorem mask_eraseSubtree (t : DOMTree) (bp : Breakpoints) (n : Int) :
    (eraseSubtrees [t.children] (bp.erase t.id)).mask n = if n ∈ t.nodes then 0 else bp.mask n := by
  rw [mask, lookup_eraseSubtree]
  split <;> rfl

end Breakpoints

mutual
theorem Breakpoints.NonZero.updateSubtree {rootMask : Mask} {set : Bool} :
    ∀ (t : DOMTree) (bp : Breakpoints), bp.NonZero →
      (updateSubtreeBreakpoints rootMask set t bp).NonZero
  | .node id children, bp, nonZero => by
      simp only [updateSubtreeBreakpoints]
      split_ifs
      all_goals first
        | exact nonZero.store
        | exact nonZero.store.updateChildren children _

theorem Breakpoints.NonZero.updateChildren {rootMask : Mask} {set : Bool} :
    ∀ (ts : List DOMTree) (bp : Breakpoints), bp.NonZero →
      (updateChildBreakpoints rootMask set ts bp).NonZero
  | [], _, nonZero => nonZero
  | t :: ts, bp, nonZero =>
      (nonZero.updateSubtree t bp).updateChildren ts _
end

mutual
theorem updateSubtree_preserves {P : Mask → Prop} {set : Bool}
    (step : ∀ m, P m → P (withDerivedBit m set)) : ∀ (t : DOMTree) (bp : Breakpoints),
      (∀ n, P (bp.mask n)) →
        ∀ n, P ((updateSubtreeBreakpoints (rootBit .subtreeModified) set t bp).mask n)
  | .node id children, bp, holds => by
      have stored : ∀ n, P ((bp.store id (withDerivedBit (bp.mask id) set)).mask n) := fun n => by
        rw [mask_store]
        split
        · exact step _ (holds id)
        · exact holds n
      rw [updateSubtree_node]
      split
      · exact stored
      · exact updateChildren_preserves step children _ stored

theorem updateChildren_preserves {P : Mask → Prop} {set : Bool}
    (step : ∀ m, P m → P (withDerivedBit m set)) : ∀ (ts : List DOMTree) (bp : Breakpoints),
      (∀ n, P (bp.mask n)) →
        ∀ n, P ((updateChildBreakpoints (rootBit .subtreeModified) set ts bp).mask n)
  | [], _, holds => holds
  | t :: ts, bp, holds =>
      updateChildren_preserves step ts _ (updateSubtree_preserves step t bp holds)
end

/-! ### The invariant -/

/-- What every reachable state keeps of `dom_breakpoints_` over the DOM `F`. -/
structure DOMBreakpointsInvariant (F : DOMForest) (bp : Breakpoints) : Prop where
  nonZero : bp.NonZero
  knownBits : ∀ n, KnownMask (bp.mask n)
  inForest : ∀ n, bp.mask n ≠ 0 → n ∈ F.nodes
  inherits : forestInherits bp false F.trees

namespace DOMBreakpointsInvariant

variable {F F' : DOMForest} {bp bp' : Breakpoints} {n : Int}

theorem empty (F : DOMForest) : DOMBreakpointsInvariant F ∅ :=
  ⟨nonZero_empty, by simpa using knownMask_zero, by simp,
    forestInherits_of_zero _ fun n _ => mask_empty n⟩

theorem of_isEmpty (inv : DOMBreakpointsInvariant F bp) (empty : bp.entries.isEmpty = true)
    (F' : DOMForest) : DOMBreakpointsInvariant F' bp :=
  ⟨inv.nonZero, inv.knownBits, fun n set => absurd (mask_eq_zero_of_isEmpty empty n) set,
    forestInherits_of_zero _ fun n _ => mask_eq_zero_of_isEmpty empty n⟩

theorem of_subtree (inv : DOMBreakpointsInvariant F bp) {s : DOMTree}
    (found : F.subtree n = some s) (nonZero : bp'.NonZero) (known : ∀ n, KnownMask (bp'.mask n))
    (outside : ∀ n, n ∉ s.nodes → bp'.mask n = bp.mask n)
    (keeps : ∀ above, treeInherits bp above s → treeInherits bp' above s) :
    DOMBreakpointsInvariant F bp' := by
  refine ⟨nonZero, known, fun n set => ?_, forestInherits_local keeps F.trees false F.nodup
    (DOMForest.subtree_eq_some found).1 (fun n _ => outside n) inv.inherits⟩
  by_cases inside : n ∈ s.nodes
  · exact (DOMForest.nodes_sublist_of_subtree found).subset inside
  · exact inv.inForest n (outside n inside ▸ set)

theorem storeOtherRoot (inv : DOMBreakpointsInvariant F bp) {s : DOMTree}
    (found : F.subtree n = some s) {m : Mask} (known : KnownMask m)
    (bits : m.getLsbD 0 = (bp.mask s.id).getLsbD 0 ∧ m.getLsbD 16 = (bp.mask s.id).getLsbD 16) :
    DOMBreakpointsInvariant F (bp.store s.id m) := by
  refine inv.of_subtree found inv.nonZero.store (fun n => ?_) (fun n outside => ?_)
    (fun above inherits => (treeInherits_congr s above fun n _ => ?_).mpr inherits)
  · rw [mask_store]
    split
    · exact known
    · exact inv.knownBits n
  · rw [mask_store, if_neg fun (same : n = s.id) => outside (same ▸ DOMTree.id_mem_nodes s)]
  · simp only [ownsSubtree, inheritsSubtree, mask_store]
    split
    · rename_i same
      subst same
      exact bits
    · exact ⟨rfl, rfl⟩

theorem setSubtreeRoot (inv : DOMBreakpointsInvariant F bp) {s : DOMTree}
    (found : F.subtree n = some s) :
    DOMBreakpointsInvariant F (updateChildBreakpoints (rootBit .subtreeModified) true s.children
      (bp.set s.id (bp.mask s.id ||| rootBit .subtreeModified))) := by
  have unique : s.nodes.Nodup := (DOMForest.nodes_sublist_of_subtree found).nodup F.nodup
  obtain ⟨id, children⟩ := s
  rw [DOMTree.nodes_node, List.nodup_cons] at unique
  simp only [DOMTree.id_node, DOMTree.children_node]
  have frame : ∀ b : Breakpoints,
      (updateChildBreakpoints (rootBit .subtreeModified) true children b).mask id = b.mask id :=
    fun b => mask_updateChildren_of_not_mem children b unique.1
  have same : SameSubtreeBits bp (bp.set id (bp.mask id ||| rootBit .subtreeModified))
      (DOMTree.forestNodes children) := SameSubtreeBits.of_mask fun n member => by
    rw [mask_set, if_neg (ne_of_mem_of_not_mem member unique.1)]
  refine inv.of_subtree found ((inv.nonZero.set (or_rootBit_ne_zero _ _)).updateChildren children _)
    (updateChildren_preserves (fun m known => known.withDerivedBit true) children _ fun n => ?_)
    (fun n outside => ?_) (fun above inherits => ?_)
  · rw [mask_set]
    split
    · exact (inv.knownBits id).or_rootBit _
    · exact inv.knownBits n
  · simp only [DOMTree.nodes_node, List.mem_cons, not_or] at outside
    rw [mask_updateChildren_of_not_mem children _ outside.2, mask_set, if_neg outside.1]
  · rw [treeInherits_node] at inherits ⊢
    refine ⟨by simpa [inheritsSubtree, frame, mask_set] using inherits.1, ?_⟩
    have owns : (updateChildBreakpoints (rootBit .subtreeModified) true children
        (bp.set id (bp.mask id ||| rootBit .subtreeModified))).ownsSubtree id = true := by
      simp [ownsSubtree, frame, mask_set]
    rw [owns, Bool.true_or]
    exact forestInherits_updateChildren true children _ _ unique.2
      ((forestInherits_congr children _ same).mpr inherits.2)

theorem removeSubtreeRoot (inv : DOMBreakpointsInvariant F bp) {s : DOMTree}
    (found : F.subtree n = some s) :
    DOMBreakpointsInvariant F
      (if bp.inheritsSubtree s.id = false then
        updateChildBreakpoints (rootBit .subtreeModified) false s.children
          (bp.store s.id (bp.mask s.id &&& ~~~rootBit .subtreeModified))
      else bp.store s.id (bp.mask s.id &&& ~~~rootBit .subtreeModified)) := by
  have unique : s.nodes.Nodup := (DOMForest.nodes_sublist_of_subtree found).nodup F.nodup
  obtain ⟨id, children⟩ := s
  rw [DOMTree.nodes_node, List.nodup_cons] at unique
  simp only [DOMTree.id_node, DOMTree.children_node]
  have known : ∀ n,
      KnownMask ((bp.store id (bp.mask id &&& ~~~rootBit .subtreeModified)).mask n) := fun n => by
    rw [mask_store]
    split
    · exact (inv.knownBits id).and _
    · exact inv.knownBits n
  have outside : ∀ n, n ∉ (DOMTree.node id children).nodes →
      (bp.store id (bp.mask id &&& ~~~rootBit .subtreeModified)).mask n = bp.mask n :=
    fun n absent => by
      rw [mask_store, if_neg fun same => absent (by simp [same])]
  have same : SameSubtreeBits bp (bp.store id (bp.mask id &&& ~~~rootBit .subtreeModified))
      (DOMTree.forestNodes children) := SameSubtreeBits.of_mask fun n member => by
    rw [mask_store, if_neg (ne_of_mem_of_not_mem member unique.1)]
  split
  · rename_i bare
    have frame : ∀ b : Breakpoints,
        (updateChildBreakpoints (rootBit .subtreeModified) false children b).mask id = b.mask id :=
      fun b => mask_updateChildren_of_not_mem children b unique.1
    refine inv.of_subtree found (inv.nonZero.store.updateChildren children _)
      (updateChildren_preserves (fun m known => known.withDerivedBit false) children _ known)
      (fun n absent => ?_) (fun above inherits => ?_)
    · simp only [DOMTree.nodes_node, List.mem_cons, not_or] at absent
      rw [mask_updateChildren_of_not_mem children _ absent.2, outside n (by simp [absent.1, absent.2])]
    · rw [treeInherits_node] at inherits ⊢
      obtain ⟨rfl, below⟩ := inherits
      refine ⟨by simp [inheritsSubtree, frame, mask_store], ?_⟩
      simpa [ownsSubtree, frame, mask_store, bare] using forestInherits_updateChildren false
        children _ _ unique.2 ((forestInherits_congr children _ same).mpr below)
  · rename_i covered
    refine inv.of_subtree found inv.nonZero.store known outside fun above inherits => ?_
    rw [treeInherits_node] at inherits ⊢
    obtain ⟨rfl, below⟩ := inherits
    refine ⟨by simp [inheritsSubtree, mask_store], ?_⟩
    simpa [ownsSubtree, mask_store, covered] using (forestInherits_congr children _ same).mpr below

variable {agent : InspectorDOMDebuggerAgent}

theorem setDOMBreakpoint (inv : DOMBreakpointsInvariant F agent.domBreakpoints) (nodeId : Int)
    (typeString : String) :
    DOMBreakpointsInvariant F (agent.setDOMBreakpoint F nodeId typeString).1.domBreakpoints := by
  unfold InspectorDOMDebuggerAgent.setDOMBreakpoint
  split
  · exact inv
  rename_i s found
  split
  · exact inv
  rename_i type _
  simp only [InspectorDOMDebuggerAgent.domBreakpoints_didAddBreakpoint]
  by_cases subtree : type = .subtreeModified
  · subst subtree
    rw [if_pos (rootBit_inheritable_ne_zero.mpr rfl)]
    exact inv.setSubtreeRoot found
  · rw [if_neg (mt rootBit_inheritable_ne_zero.mp subtree), ← store_of_ne_zero (or_rootBit_ne_zero _ _)]
    exact inv.storeOtherRoot found ((inv.knownBits _).or_rootBit type) (by cases type <;> simp_all)

theorem removeDOMBreakpoint (inv : DOMBreakpointsInvariant F agent.domBreakpoints) (nodeId : Int)
    (typeString : String) :
    DOMBreakpointsInvariant F (agent.removeDOMBreakpoint F nodeId typeString).1.domBreakpoints := by
  unfold InspectorDOMDebuggerAgent.removeDOMBreakpoint
  split
  · exact inv
  rename_i s found
  split
  · exact inv
  rename_i type _
  simp only [InspectorDOMDebuggerAgent.domBreakpoints_didRemoveBreakpoint]
  by_cases subtree : type = .subtreeModified
  · subst subtree
    have derived : (agent.domBreakpoints.mask s.id &&& ~~~rootBit .subtreeModified) &&&
        (rootBit .subtreeModified <<< domBreakpointDerivedTypeShift) = 0 ↔
          agent.domBreakpoints.inheritsSubtree s.id = false := by
      rw [← not_iff_not, ← ne_eq, and_derivedBit_ne_zero]
      simp [inheritsSubtree]
    simp only [rootBit_inheritable_ne_zero, derived, true_and]
    exact inv.removeSubtreeRoot found
  · rw [if_neg fun cond => subtree (rootBit_inheritable_ne_zero.mp cond.1)]
    exact inv.storeOtherRoot found ((inv.knownBits _).and _) (by cases type <;> simp_all)

theorem didInsertDOMNode (inv : DOMBreakpointsInvariant F agent.domBreakpoints) {node parent : Int}
    {position : Nat} (inserted : F.insertNode node parent position = some F') :
    DOMBreakpointsInvariant F' (agent.didInsertDOMNode F' node).domBreakpoints := by
  obtain ⟨t, root, named, outside, inside, trees⟩ := DOMForest.insertNode_eq_some inserted
  obtain ⟨t', root', named', located, parentOf⟩ := DOMForest.insertNode_located inserted
  obtain rfl : t = t' := DOMTree.subtree_unique F.nodup (DOMTree.mem_forestSubtrees_of_mem root)
    (DOMTree.mem_forestSubtrees_of_mem root') (named.trans named'.symm)
  have perm := DOMForest.insertNode_nodes inserted
  have split := (F.roots_perm root).nodup_iff.mp F.nodup
  have apart := List.disjoint_of_nodup_append split
  have unique := (List.nodup_append.mp split).1
  have inForest : ∀ n ∈ t.nodes, n ∈ F'.nodes := fun n member =>
    perm.mem_iff.mpr (DOMTree.mem_forestNodes.mpr ⟨t, root, member⟩)
  have rest : forestInherits agent.domBreakpoints false (F.trees.filter (·.id != t.id)) :=
    forestInherits_iff.mpr fun u member =>
      forestInherits_iff.mp inv.inherits u (List.mem_filter.mp member).1
  have grafted := forestInherits_iff.mp inv.inherits t root
  unfold InspectorDOMDebuggerAgent.didInsertDOMNode
  simp only [parentOf, DOMForest.subtreeOf, located, Option.getD_some, inheritableTypesMask_eq]
  split
  · exact inv.of_isEmpty ‹_› F'
  by_cases covered : ((agent.domBreakpoints.mask parent).getLsbD 0 ||
      (agent.domBreakpoints.mask parent).getLsbD 16) = true
  · simp only [covered, if_true, if_pos (rootBit_ne_zero _)]
    have frame : ∀ n, n ∉ t.nodes →
        (updateSubtreeBreakpoints (rootBit .subtreeModified) true t agent.domBreakpoints).mask n =
          agent.domBreakpoints.mask n :=
      fun n absent => mask_updateSubtree_of_not_mem t _ absent
    refine ⟨inv.nonZero.updateSubtree t _,
      updateSubtree_preserves (fun m known => known.withDerivedBit true) t _ inv.knownBits,
      fun n set => ?_, ?_⟩
    · by_cases member : n ∈ t.nodes
      · exact inForest n member
      · exact perm.mem_iff.mpr (inv.inForest n (frame n member ▸ set))
    · rw [trees]
      refine forestInherits_insertChild ?_ _ false ((forestInherits_congr _ false
        (SameSubtreeBits.of_mask fun n member => frame n fun inT => apart inT member)).mpr rest)
      simpa [ownsSubtree, inheritsSubtree, frame parent inside, covered] using
        treeInherits_updateSubtree true t _ false unique grafted
  · simp only [covered, Bool.false_eq_true, if_false, ne_eq, not_true_eq_false]
    refine ⟨inv.nonZero, inv.knownBits, fun n set => perm.mem_iff.mpr (inv.inForest n set), ?_⟩
    rw [trees]
    exact forestInherits_insertChild (by simpa [ownsSubtree, inheritsSubtree, covered] using grafted)
      _ false rest

theorem didRemoveDOMNode (inv : DOMBreakpointsInvariant F agent.domBreakpoints) {node : Int}
    (removed : F.removeNode node = some F') :
    DOMBreakpointsInvariant F' (agent.didRemoveDOMNode F node).domBreakpoints := by
  obtain ⟨s, found, -, trees, apart⟩ := DOMForest.removeNode_eq_some removed
  have perm := DOMForest.removeNode_nodes removed
  unfold InspectorDOMDebuggerAgent.didRemoveDOMNode
  split
  · exact inv.of_isEmpty ‹_› F'
  have erased := mask_eraseSubtree s agent.domBreakpoints
  simp only [DOMForest.subtreeOf, found, Option.getD_some, (DOMForest.subtree_eq_some found).2]
    at erased ⊢
  refine ⟨(inv.nonZero.erase).eraseSubtrees _, fun n => ?_, fun n set => ?_, ?_⟩
  · rw [erased]
    split
    · exact knownMask_zero
    · exact inv.knownBits n
  · rw [erased] at set
    split at set
    · exact absurd rfl set
    · exact perm.mem_iff.mpr (inv.inForest n set)
  · rw [trees, forestInherits_iff]
    intro u member
    rcases List.mem_append.mp member with kept | single
    · refine (treeInherits_congr u false (SameSubtreeBits.of_mask fun n inU => ?_)).mpr
        (forestInherits_iff.mp (forestInherits_detach F.trees false inv.inherits) u kept)
      rw [erased, if_neg fun inS => apart (DOMTree.mem_forestNodes.mpr ⟨u, kept, inU⟩) inS]
    · rw [List.mem_singleton.mp single]
      exact treeInherits_of_zero s fun n member => by rw [erased, if_pos member]

end DOMBreakpointsInvariant

/-! ### The invariant over every node -/

def knownDOMBreakpointBits : Mask :=
  rootBit .subtreeModified ||| rootBit .attributeModified ||| rootBit .nodeRemoved |||
    rootBit .subtreeModified <<< domBreakpointDerivedTypeShift

/-- The invariant of `dom_breakpoints_` over the DOM `F`: every entry is a non-empty mask of the
root bits and the derived `SubtreeModified` bit, and a node carries the derived bit exactly when one
of its proper ancestors carries the root bit. -/
structure MaskInvariant (F : DOMForest) (bp : Breakpoints) : Prop where
  nonZero : ∀ n m, bp.lookup n = some m → m ≠ 0
  knownBits : ∀ n m, bp.lookup n = some m → m &&& ~~~knownDOMBreakpointBits = 0
  derivedIffAncestor : ∀ n,
    bp.mask n &&& (rootBit .subtreeModified <<< domBreakpointDerivedTypeShift) ≠ 0 ↔
      ∃ a ∈ F.ancestors n, bp.mask a &&& rootBit .subtreeModified ≠ 0

theorem and_not_knownDOMBreakpointBits {m : Mask} (known : KnownMask m) :
    m &&& ~~~knownDOMBreakpointBits = 0 := by
  refine BitVec.eq_of_getLsbD_eq fun i => ?_
  simp only [knownDOMBreakpointBits, BitVec.getLsbD_and, BitVec.getLsbD_not, BitVec.getLsbD_or,
    getLsbD_rootBit, domBreakpointDerivedTypeShift_eq, getLsbD_derivedBit, BitVec.getLsbD_zero,
    i.isLt, decide_True, Bool.true_and]
  cases bit : m.getLsbD i
  · simp
  · rcases known i bit with same | same | same | same <;> simp [same]

theorem DOMBreakpointsInvariant.maskInvariant {F : DOMForest} {bp : Breakpoints}
    (inv : DOMBreakpointsInvariant F bp) : MaskInvariant F bp where
  nonZero := inv.nonZero
  knownBits n m found := by
    simpa [Breakpoints.mask, found] using and_not_knownDOMBreakpointBits (inv.knownBits n)
  derivedIffAncestor n := by
    simp only [and_derivedBit_ne_zero, and_rootBit_ne_zero, DOMBreakpointType.toNat_subtreeModified,
      Nat.zero_add]
    cases found : DOMTree.locateIn n [] F.trees with
    | none =>
        have absent : bp.mask n = 0 := by
          by_contra set
          exact (DOMTree.locateIn_eq_none _ _).mp found (inv.inForest n set)
        simp [DOMForest.ancestors, found, absent]
    | some located =>
        obtain ⟨s, anc⟩ := located
        have inherited := inheritsSubtreeIn_of_locate F.trees [] inv.inherits found
        simp only [inheritsSubtree] at inherited
        simp [DOMForest.ancestors, found, inherited, ownsSubtree]

namespace Page

open InspectorDOMDebuggerAgent

variable {domAgentEnabled : Bool} {p next : Page} {op : Operation} {outcome : Outcome}

theorem domBreakpointsInvariant_step
    (inv : DOMBreakpointsInvariant p.forest p.agent.domBreakpoints)
    (stepped : p.step domAgentEnabled op = some (next, outcome)) :
    DOMBreakpointsInvariant next.forest next.agent.domBreakpoints := by
  cases op <;> simp only [step, answer, Option.some.injEq, Option.map_eq_some'] at stepped
  case insertNode =>
    obtain ⟨forest, inserted, stepped⟩ := stepped
    cases stepped
    exact inv.didInsertDOMNode inserted
  case removeNode =>
    obtain ⟨forest, removed, stepped⟩ := stepped
    cases stepped
    exact inv.didRemoveDOMNode removed
  all_goals cases stepped
  case setDOMBreakpoint => exact inv.setDOMBreakpoint _ _
  case removeDOMBreakpoint => exact inv.removeDOMBreakpoint _ _
  case disable => exact .empty _
  case commitLoad => exact .empty _
  all_goals simpa [setEventListenerBreakpoint, removeEventListenerBreakpoint,
    setInstrumentationBreakpoint, removeInstrumentationBreakpoint] using inv

theorem Reachable.domBreakpointsInvariant (reachable : p.Reachable domAgentEnabled) :
    DOMBreakpointsInvariant p.forest p.agent.domBreakpoints := by
  induction reachable with
  | init forest => exact .empty forest
  | step _ stepped inv => exact domBreakpointsInvariant_step inv stepped

/-- Every reachable state satisfies the invariant of `dom_breakpoints_`. -/
theorem maskInvariant_of_reachable (domAgentEnabled : Bool) (p : Page)
    (reachable : p.Reachable domAgentEnabled) : MaskInvariant p.forest p.agent.domBreakpoints :=
  reachable.domBreakpointsInvariant.maskInvariant

/-- A `SubtreeModified` breakpoint on the root of a two-node tree. -/
theorem maskInvariant_after_subtreeBreakpoint :
    let F : DOMForest := ⟨[.node 1 [.node 2 []]], by decide⟩
    let p : Page := ⟨F, (InspectorDOMDebuggerAgent.init.setDOMBreakpoint F 1 "subtree-modified").1⟩
    p.Reachable true ∧ MaskInvariant p.forest p.agent.domBreakpoints := by
  intro F p
  have reachable : p.Reachable true :=
    @Reachable.step true _ _ (.setDOMBreakpoint 1 "subtree-modified") _ (.init F) rfl
  exact ⟨reachable, maskInvariant_of_reachable true p reachable⟩

end Page

end BlinkInspector
