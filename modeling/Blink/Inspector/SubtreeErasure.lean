import Blink.Inspector.DOMDebuggerAgent

/-!
The explicit-stack loop of `DidRemoveDOMNode`: started on the first child of a node with `d`
descendants, it pops `2 d + 1` pointers, erases each descendant once, and keeps every other entry.
-/

namespace BlinkInspector

/-- The pointers the loop of `DidRemoveDOMNode` pops, in order: `none` for a null pointer, the id
of the node otherwise. -/
def eraseSubtreesPops : List (List DOMTree) → List (Option Int)
  | [] => []
  | [] :: stack => none :: eraseSubtreesPops stack
  | (.node id children :: siblings) :: stack =>
      some id :: eraseSubtreesPops (siblings :: children :: stack)

theorem eraseSubtrees_eq_foldl (stack : List (List DOMTree)) (bp : Breakpoints) :
    eraseSubtrees stack bp = ((eraseSubtreesPops stack).filterMap id).foldl Breakpoints.erase bp := by
  induction stack, bp using eraseSubtrees.induct with
  | case1 bp => simp [eraseSubtrees, eraseSubtreesPops]
  | case2 stack bp ih | case3 id children siblings stack bp ih =>
      simpa [eraseSubtrees, eraseSubtreesPops] using ih

/-- Every node on the stack is popped once and pushes two pointers, so the loop runs twice per node
and once more per chain it starts with. -/
theorem length_eraseSubtreesPops (stack : List (List DOMTree)) :
    (eraseSubtreesPops stack).length = 2 * (stack.flatMap DOMTree.forestNodes).length + stack.length := by
  induction stack using eraseSubtreesPops.induct with
  | case1 => simp [eraseSubtreesPops]
  | case2 stack ih =>
      simp only [eraseSubtreesPops, List.length_cons, ih, List.flatMap_cons, DOMTree.forestNodes_nil,
        List.nil_append]
      omega
  | case3 id children siblings stack ih =>
      simp only [eraseSubtreesPops, List.length_cons, ih, List.flatMap_cons, DOMTree.forestNodes_cons,
        DOMTree.nodes_node, List.length_append, List.cons_append]
      omega

theorem eraseSubtreesPops_perm (stack : List (List DOMTree)) :
    ((eraseSubtreesPops stack).filterMap id).Perm (stack.flatMap DOMTree.forestNodes) := by
  induction stack using eraseSubtreesPops.induct with
  | case1 => simp [eraseSubtreesPops]
  | case2 stack ih => simpa [eraseSubtreesPops] using ih
  | case3 id children siblings stack ih =>
      simp only [eraseSubtreesPops, List.filterMap_cons_some, List.flatMap_cons, DOMTree.forestNodes_cons,
        DOMTree.nodes_node, List.cons_append, List.append_assoc] at ih ⊢
      exact (ih.trans (List.perm_append_comm_assoc _ _ _)).cons id

namespace DOMForest

variable (F : DOMForest) (node : Int)

def descendants : List Int := DOMTree.forestNodes (F.subtreeOf node).children

@[simp] theorem id_subtreeOf : (F.subtreeOf node).id = node := by
  unfold subtreeOf
  cases found : F.subtree node with
  | none => rfl
  | some s => exact (subtree_eq_some found).2

theorem nodes_subtreeOf : (F.subtreeOf node).nodes = node :: F.descendants node := by
  have named := F.id_subtreeOf node
  unfold descendants
  generalize F.subtreeOf node = t at named ⊢
  cases t
  simp_all

theorem nodup_subtreeOf : (F.subtreeOf node).nodes.Nodup := by
  unfold subtreeOf
  cases found : F.subtree node with
  | none => simp
  | some s => exact (nodes_sublist_of_subtree found).nodup F.nodup

theorem not_mem_subtreeOf_of_mem_ancestors {a : Int} (up : a ∈ F.ancestors node) :
    a ∉ (F.subtreeOf node).nodes := by
  cases found : DOMTree.locateIn node [] F.trees with
  | none => simp [ancestors, found] at up
  | some located =>
      obtain ⟨s, anc⟩ := located
      rw [ancestors_of_locate found] at up
      rw [subtreeOf, subtree, found]
      exact DOMTree.locateIn_ancestors_outside F.trees [] F.nodup (by simp) found a up

end DOMForest

namespace InspectorDOMDebuggerAgent

variable (agent : InspectorDOMDebuggerAgent) (F : DOMForest) (node : Int)

theorem lookup_didRemoveDOMNode (n : Int) :
    (agent.didRemoveDOMNode F node).domBreakpoints.lookup n =
      if n ∈ (F.subtreeOf node).nodes then none else agent.domBreakpoints.lookup n := by
  unfold didRemoveDOMNode
  split
  · next empty =>
      have absent := Breakpoints.isEmpty_entries_iff.mp empty n
      split <;> simp [AList.lookup_eq_none.mpr absent]
  · simpa using lookup_eraseSubtree (F.subtreeOf node) agent.domBreakpoints n

/-- The loop of `DidRemoveDOMNode` pops `2 d + 1` pointers for a node with `d` descendants, erases
each descendant exactly once, and the call leaves the map with the entries of the node and its
descendants erased and every other entry, those of the node's ancestors among them, unchanged. -/
theorem didRemoveDOMNode_erases_subtree :
    (eraseSubtreesPops [(F.subtreeOf node).children]).length =
        2 * (F.descendants node).length + 1 ∧
      (∀ n, ((eraseSubtreesPops [(F.subtreeOf node).children]).filterMap id).count n =
        if n ∈ F.descendants node then 1 else 0) ∧
      (∀ bp, eraseSubtrees [(F.subtreeOf node).children] bp =
        ((eraseSubtreesPops [(F.subtreeOf node).children]).filterMap id).foldl
          Breakpoints.erase bp) ∧
      (∀ n, (agent.didRemoveDOMNode F node).domBreakpoints.lookup n =
        if n = node ∨ n ∈ F.descendants node then none else agent.domBreakpoints.lookup n) ∧
      ∀ a ∈ F.ancestors node,
        (agent.didRemoveDOMNode F node).domBreakpoints.lookup a = agent.domBreakpoints.lookup a := by
  have unique : (F.descendants node).Nodup :=
    (List.nodup_cons.mp (F.nodes_subtreeOf node ▸ F.nodup_subtreeOf node)).2
  have lookup n := F.nodes_subtreeOf node ▸ lookup_didRemoveDOMNode agent F node n
  refine ⟨?_, fun n => ?_, fun bp => eraseSubtrees_eq_foldl _ bp, fun n => by simpa using lookup n,
    fun a up => ?_⟩
  · simp [length_eraseSubtreesPops, DOMForest.descendants]
  · rw [(eraseSubtreesPops_perm _).count_eq, ← List.count_eq_of_nodup unique]
    simp [DOMForest.descendants]
  · rw [lookup_didRemoveDOMNode, if_neg (F.not_mem_subtreeOf_of_mem_ancestors node up)]

end InspectorDOMDebuggerAgent

end BlinkInspector
