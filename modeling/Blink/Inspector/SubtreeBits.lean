import Blink.Inspector.Page

/-!
The `SubtreeModified` bits of `dom_breakpoints_`: `UpdateSubtreeBreakpoints` keeps the derived bit
on exactly the nodes below a root bit, stated recursively as `forestInherits`.
-/

namespace BlinkInspector

/-! ### Bits -/

section Bits

@[simp] theorem domBreakpointDerivedTypeShift_eq : domBreakpointDerivedTypeShift = 16 := rfl

@[simp] theorem DOMBreakpointType.toNat_subtreeModified :
    DOMBreakpointType.subtreeModified.toNat = 0 := rfl

@[simp] theorem DOMBreakpointType.toNat_attributeModified :
    DOMBreakpointType.attributeModified.toNat = 1 := rfl

@[simp] theorem DOMBreakpointType.toNat_nodeRemoved : DOMBreakpointType.nodeRemoved.toNat = 2 := rfl

theorem DOMBreakpointType.toNat_lt (type : DOMBreakpointType) : type.toNat < 3 := by
  cases type <;> decide

theorem mask_ne_zero_iff {m : Mask} : m ≠ 0 ↔ ∃ i < 32, m.getLsbD i = true := by
  constructor
  · intro nonzero
    by_contra none
    push_neg at none
    exact nonzero (BitVec.eq_of_getLsbD_eq fun i => by simp [none i i.isLt])
  · rintro ⟨i, -, set⟩ rfl
    simp at set

@[simp] theorem getLsbD_rootBit (type : DOMBreakpointType) (i : Nat) :
    (rootBit type).getLsbD i = decide (i = type.toNat) := by
  have := type.toNat_lt
  rw [rootBit, BitVec.getLsbD_shiftLeft, BitVec.getLsbD_one]
  by_cases same : i = type.toNat <;> simp [same] <;> omega

@[simp] theorem getLsbD_derivedBit (type : DOMBreakpointType) (i : Nat) :
    (rootBit type <<< 16).getLsbD i = decide (i = type.toNat + 16) := by
  have := type.toNat_lt
  rw [BitVec.getLsbD_shiftLeft, getLsbD_rootBit]
  by_cases same : i = type.toNat + 16 <;> simp [same] <;> omega

theorem inheritableDOMBreakpointTypesMask_eq :
    inheritableDOMBreakpointTypesMask = rootBit .subtreeModified := rfl

theorem and_ne_zero_of_single {m x : Mask} {k : Nat} (lt : k < 32)
    (single : ∀ i, x.getLsbD i = decide (i = k)) : m &&& x ≠ 0 ↔ m.getLsbD k = true := by
  rw [mask_ne_zero_iff]
  constructor
  · rintro ⟨i, -, set⟩
    simp only [BitVec.getLsbD_and, single, Bool.and_eq_true, decide_eq_true_eq] at set
    exact set.2 ▸ set.1
  · intro set
    exact ⟨k, lt, by simp [single, set]⟩

theorem and_rootBit_ne_zero {m : Mask} {type : DOMBreakpointType} :
    m &&& rootBit type ≠ 0 ↔ m.getLsbD type.toNat = true :=
  and_ne_zero_of_single (by have := type.toNat_lt; omega) (getLsbD_rootBit type)

theorem and_derivedBit_ne_zero {m : Mask} {type : DOMBreakpointType} :
    m &&& (rootBit type <<< domBreakpointDerivedTypeShift) ≠ 0 ↔
      m.getLsbD (type.toNat + 16) = true :=
  and_ne_zero_of_single (by have := type.toNat_lt; omega) (getLsbD_derivedBit type)

theorem rootBit_inheritable_ne_zero {type : DOMBreakpointType} :
    rootBit type &&& inheritableDOMBreakpointTypesMask ≠ 0 ↔ type = .subtreeModified := by
  rw [inheritableDOMBreakpointTypesMask_eq, and_rootBit_ne_zero]
  cases type <;> decide

theorem and_rootOrDerived_ne_zero {m : Mask} {type : DOMBreakpointType} :
    m &&& (rootBit type ||| rootBit type <<< domBreakpointDerivedTypeShift) ≠ 0 ↔
      m.getLsbD type.toNat = true ∨ m.getLsbD (type.toNat + 16) = true := by
  have := type.toNat_lt
  rw [mask_ne_zero_iff]
  constructor
  · rintro ⟨i, -, set⟩
    simp only [BitVec.getLsbD_and, BitVec.getLsbD_or, getLsbD_rootBit,
      domBreakpointDerivedTypeShift_eq, getLsbD_derivedBit, Bool.and_eq_true, Bool.or_eq_true,
      decide_eq_true_eq] at set
    rcases set with ⟨set, rfl | rfl⟩
    · exact .inl set
    · exact .inr set
  · rintro (set | set)
    · exact ⟨type.toNat, by omega, by simp [set, this]⟩
    · exact ⟨type.toNat + 16, by omega, by simp [set]; omega⟩

theorem subtreeRoot_and_not (x : Mask) :
    rootBit .subtreeModified &&& ~~~x = if x.getLsbD 0 then 0 else rootBit .subtreeModified := by
  refine BitVec.eq_of_getLsbD_eq fun i => ?_
  by_cases zero : (i : Nat) = 0
  · split <;> simp_all
  · split <;> simp [zero]

theorem inheritableTypesMask_eq (m : Mask) :
    (m ||| m >>> domBreakpointDerivedTypeShift) &&& inheritableDOMBreakpointTypesMask =
      if m.getLsbD 0 || m.getLsbD 16 then rootBit .subtreeModified else 0 := by
  refine BitVec.eq_of_getLsbD_eq fun i => ?_
  rw [inheritableDOMBreakpointTypesMask_eq]
  by_cases zero : (i : Nat) = 0
  · split <;> simp_all [BitVec.getLsbD_ushiftRight]
  · split <;> simp [zero]

def withDerivedBit (m : Mask) (set : Bool) : Mask :=
  if set then m ||| rootBit .subtreeModified <<< domBreakpointDerivedTypeShift
  else m &&& ~~~(rootBit .subtreeModified <<< domBreakpointDerivedTypeShift)

@[simp] theorem getLsbD_withDerivedBit (m : Mask) (set : Bool) (i : Nat) :
    (withDerivedBit m set).getLsbD i = if i = 16 then set else m.getLsbD i := by
  unfold withDerivedBit
  by_cases lt : i < 32
  · cases set <;> by_cases here : i = 16 <;> simp [here, lt, -BitVec.getLsbD_shiftLeft]
  · have high : m.getLsbD i = false := BitVec.getLsbD_ge m i (by omega)
    cases set <;> simp [high, show i ≠ 16 by omega, -BitVec.getLsbD_shiftLeft]

end Bits

/-! ### The `SubtreeModified` bits of a node -/

namespace Breakpoints

def ownsSubtree (bp : Breakpoints) (n : Int) : Bool := (bp.mask n).getLsbD 0

def inheritsSubtree (bp : Breakpoints) (n : Int) : Bool := (bp.mask n).getLsbD 16

end Breakpoints

open Breakpoints

mutual
/-- Every node of the tree carries the derived bit exactly when a node above it carries the root
bit; `above` says whether a node above the tree's root does. -/
def treeInherits (bp : Breakpoints) (above : Bool) : DOMTree → Prop
  | .node id children =>
      bp.inheritsSubtree id = above ∧ forestInherits bp (bp.ownsSubtree id || above) children

def forestInherits (bp : Breakpoints) (above : Bool) : List DOMTree → Prop
  | [] => True
  | t :: ts => treeInherits bp above t ∧ forestInherits bp above ts
end

section Inherits

variable {bp bp' : Breakpoints} {above : Bool}

@[simp] theorem treeInherits_node (id : Int) (children : List DOMTree) :
    treeInherits bp above (.node id children) ↔
      bp.inheritsSubtree id = above ∧ forestInherits bp (bp.ownsSubtree id || above) children := by
  rw [treeInherits]

@[simp] theorem forestInherits_cons (t : DOMTree) (ts : List DOMTree) :
    forestInherits bp above (t :: ts) ↔ treeInherits bp above t ∧ forestInherits bp above ts := by
  rw [forestInherits]

theorem forestInherits_iff {ts : List DOMTree} :
    forestInherits bp above ts ↔ ∀ t ∈ ts, treeInherits bp above t := by
  induction ts with
  | nil => simp [forestInherits]
  | cons t ts ih => simp [forestInherits, ih]

def SameSubtreeBits (bp bp' : Breakpoints) (nodes : List Int) : Prop :=
  ∀ n ∈ nodes, bp'.ownsSubtree n = bp.ownsSubtree n ∧ bp'.inheritsSubtree n = bp.inheritsSubtree n

theorem SameSubtreeBits.of_mask {nodes : List Int} (same : ∀ n ∈ nodes, bp'.mask n = bp.mask n) :
    SameSubtreeBits bp bp' nodes := fun n member => by
  simp [ownsSubtree, inheritsSubtree, same n member]

mutual
theorem treeInherits_congr : ∀ (t : DOMTree) (above : Bool), SameSubtreeBits bp bp' t.nodes →
    (treeInherits bp' above t ↔ treeInherits bp above t)
  | .node id children, above, same => by
      have top := same id (by simp)
      simp only [treeInherits_node, top.1, top.2,
        forestInherits_congr children _ fun n member => same n (by simp [member])]

theorem forestInherits_congr : ∀ (ts : List DOMTree) (above : Bool),
    SameSubtreeBits bp bp' (DOMTree.forestNodes ts) →
      (forestInherits bp' above ts ↔ forestInherits bp above ts)
  | [], _, _ => Iff.rfl
  | t :: ts, above, same => by
      simp only [forestInherits,
        treeInherits_congr t above fun n member => same n (by simp [member]),
        forestInherits_congr ts above fun n member => same n (by simp [member])]
end

mutual
theorem treeInherits_of_zero : ∀ t : DOMTree, (∀ n ∈ t.nodes, bp.mask n = 0) →
    treeInherits bp false t
  | .node id children, zero => by
      have top := zero id (by simp)
      refine (treeInherits_node id children).mpr ⟨by simp [inheritsSubtree, top], ?_⟩
      simpa [ownsSubtree, top] using
        forestInherits_of_zero children fun n member => zero n (by simp [member])

theorem forestInherits_of_zero : ∀ ts : List DOMTree, (∀ n ∈ DOMTree.forestNodes ts, bp.mask n = 0) →
    forestInherits bp false ts
  | [], _ => trivial
  | t :: ts, zero =>
      ⟨treeInherits_of_zero t fun n member => zero n (by simp [member]),
        forestInherits_of_zero ts fun n member => zero n (by simp [member])⟩
end

mutual
/-- From the recursive form to ancestors: a node's derived bit says whether one of its
ancestors carries the root bit. -/
theorem inheritsSubtree_of_locate {n : Int} : ∀ (t : DOMTree) (above : List Int)
    {s : DOMTree} {anc : List Int}, treeInherits bp (above.any bp.ownsSubtree) t →
      DOMTree.locate n above t = some (s, anc) → bp.inheritsSubtree n = anc.any bp.ownsSubtree
  | .node id children, above, s, anc, inherits, found => by
      by_cases root : id = n
      · simp only [DOMTree.locate_node, root, if_true, Option.some.injEq, Prod.mk.injEq] at found
        rw [← found.2, ← root]
        exact inherits.1
      · simp only [DOMTree.locate_node, root, if_false] at found
        exact inheritsSubtreeIn_of_locate children (id :: above)
          (by simpa [List.any_cons] using inherits.2) found

theorem inheritsSubtreeIn_of_locate {n : Int} : ∀ (ts : List DOMTree) (above : List Int)
    {s : DOMTree} {anc : List Int}, forestInherits bp (above.any bp.ownsSubtree) ts →
      DOMTree.locateIn n above ts = some (s, anc) → bp.inheritsSubtree n = anc.any bp.ownsSubtree
  | [], _, _, _, _, found => by simp at found
  | t :: ts, above, s, anc, inherits, found => by
      rcases Option.or_eq_some.mp found with first | ⟨-, later⟩
      · exact inheritsSubtree_of_locate t above inherits.1 first
      · exact inheritsSubtreeIn_of_locate ts above inherits.2 later
end

/-! ### `UpdateSubtreeBreakpoints` -/

theorem rootBit_ne_zero (type : DOMBreakpointType) : rootBit type ≠ 0 :=
  mask_ne_zero_iff.mpr ⟨type.toNat, by have := type.toNat_lt; omega, by simp⟩

mutual
theorem mask_updateSubtree_of_not_mem {rootMask : Mask} {set : Bool} {n : Int} :
    ∀ (t : DOMTree) (bp : Breakpoints), n ∉ t.nodes →
      (updateSubtreeBreakpoints rootMask set t bp).mask n = bp.mask n
  | .node id children, bp, absent => by
      simp only [DOMTree.nodes_node, List.mem_cons, not_or] at absent
      simp only [updateSubtreeBreakpoints]
      split_ifs <;> simp only [mask_updateChildren_of_not_mem children _ absent.2,
        Breakpoints.mask_store, if_neg absent.1]

theorem mask_updateChildren_of_not_mem {rootMask : Mask} {set : Bool} {n : Int} :
    ∀ (ts : List DOMTree) (bp : Breakpoints), n ∉ DOMTree.forestNodes ts →
      (updateChildBreakpoints rootMask set ts bp).mask n = bp.mask n
  | [], _, _ => rfl
  | t :: ts, bp, absent => by
      simp only [DOMTree.forestNodes_cons, List.mem_append, not_or] at absent
      rw [updateChildBreakpoints, mask_updateChildren_of_not_mem ts _ absent.2,
        mask_updateSubtree_of_not_mem t bp absent.1]
end

theorem updateSubtree_node (id : Int) (children : List DOMTree) (set : Bool)
    (bp : Breakpoints) :
    updateSubtreeBreakpoints (rootBit .subtreeModified) set (.node id children) bp =
      if bp.ownsSubtree id then bp.store id (withDerivedBit (bp.mask id) set)
      else updateChildBreakpoints (rootBit .subtreeModified) set children
        (bp.store id (withDerivedBit (bp.mask id) set)) := by
  have bit : (withDerivedBit (bp.mask id) set).getLsbD 0 = bp.ownsSubtree id := by
    simp [ownsSubtree]
  simp only [updateSubtreeBreakpoints]
  rw [← withDerivedBit.eq_1, subtreeRoot_and_not, bit]
  by_cases owns : bp.ownsSubtree id
  · simp [owns]
  · simp only [owns, Bool.false_eq_true, if_false]
    exact if_neg (rootBit_ne_zero _)

section Preservation

variable {bp bp' : Breakpoints}

mutual
/-- Setting or clearing derived bits from a node down leaves its subtree right below a node with
the root bit, or below none. -/
theorem treeInherits_updateSubtree (set : Bool) : ∀ (t : DOMTree) (bp : Breakpoints)
    (above : Bool), t.nodes.Nodup → treeInherits bp above t →
      treeInherits (updateSubtreeBreakpoints (rootBit .subtreeModified) set t bp) set t
  | .node id children, bp, above, unique, inherits => by
      rw [DOMTree.nodes_node, List.nodup_cons] at unique
      rw [treeInherits_node] at inherits
      have same : SameSubtreeBits bp (bp.store id (withDerivedBit (bp.mask id) set))
          (DOMTree.forestNodes children) := SameSubtreeBits.of_mask fun n member => by
        rw [Breakpoints.mask_store, if_neg fun (here : n = id) => unique.1 (here ▸ member)]
      have below := (forestInherits_congr children _ same).mpr inherits.2
      have frame : ∀ b : Breakpoints,
          (updateChildBreakpoints (rootBit .subtreeModified) set children b).mask id = b.mask id :=
        fun b => mask_updateChildren_of_not_mem children b unique.1
      rw [updateSubtree_node]
      by_cases owns : bp.ownsSubtree id
      · rw [if_pos owns, treeInherits_node]
        refine ⟨by simp [inheritsSubtree, Breakpoints.mask_store], ?_⟩
        simpa [ownsSubtree, Breakpoints.mask_store, show (bp.mask id).getLsbD 0 = true from owns]
          using below
      · rw [if_neg owns, treeInherits_node]
        refine ⟨by simp [inheritsSubtree, frame, Breakpoints.mask_store], ?_⟩
        have updated := forestInherits_updateChildren set children _ above unique.2
          (by simpa [owns] using below)
        simpa [ownsSubtree, frame, Breakpoints.mask_store,
          show (bp.mask id).getLsbD 0 = false by simpa [ownsSubtree] using owns] using updated

theorem forestInherits_updateChildren (set : Bool) : ∀ (ts : List DOMTree) (bp : Breakpoints)
    (above : Bool), (DOMTree.forestNodes ts).Nodup → forestInherits bp above ts →
      forestInherits (updateChildBreakpoints (rootBit .subtreeModified) set ts bp) set ts
  | [], _, _, _, _ => trivial
  | t :: ts, bp, above, unique, ⟨first, rest⟩ => by
      rw [DOMTree.forestNodes_cons, List.nodup_append] at unique
      rw [updateChildBreakpoints]
      have tree := treeInherits_updateSubtree set t bp above unique.1 first
      have restBefore : forestInherits (updateSubtreeBreakpoints (rootBit .subtreeModified) set t bp)
          above ts := (forestInherits_congr ts above (SameSubtreeBits.of_mask fun n member =>
        mask_updateSubtree_of_not_mem t bp fun inT => unique.2.2 inT member)).mpr rest
      exact (forestInherits_cons _ _).mpr ⟨(treeInherits_congr t set (SameSubtreeBits.of_mask fun n member =>
          mask_updateChildren_of_not_mem ts _ fun inTs => unique.2.2 member inTs)).mpr tree,
        forestInherits_updateChildren set ts _ above unique.2.1 restBefore⟩
end

mutual
theorem treeInherits_local {s : DOMTree}
    (keeps : ∀ above, treeInherits bp above s → treeInherits bp' above s) :
    ∀ (t : DOMTree) (above : Bool), t.nodes.Nodup → s ∈ t.subtrees →
      (∀ n ∈ t.nodes, n ∉ s.nodes → bp'.mask n = bp.mask n) →
        treeInherits bp above t → treeInherits bp' above t
  | .node id children, above, unique, inside, outside, inherits => by
      rcases List.mem_cons.mp inside with rfl | below
      · exact keeps above inherits
      · rw [DOMTree.nodes_node, List.nodup_cons] at unique
        have top := outside id (by simp) fun inS =>
          unique.1 ((DOMTree.nodes_sublist_of_mem_forestSubtrees children below).subset inS)
        rw [treeInherits_node] at inherits ⊢
        simp only [inheritsSubtree, ownsSubtree, top]
        exact ⟨inherits.1, forestInherits_local keeps children _ unique.2 below
          (fun n member => outside n (by simp [member])) inherits.2⟩

theorem forestInherits_local {s : DOMTree}
    (keeps : ∀ above, treeInherits bp above s → treeInherits bp' above s) :
    ∀ (ts : List DOMTree) (above : Bool), (DOMTree.forestNodes ts).Nodup →
      s ∈ DOMTree.forestSubtrees ts →
      (∀ n ∈ DOMTree.forestNodes ts, n ∉ s.nodes → bp'.mask n = bp.mask n) →
        forestInherits bp above ts → forestInherits bp' above ts
  | [], _, _, inside, _, _ => by simp [DOMTree.forestSubtrees] at inside
  | t :: ts, above, unique, inside, outside, ⟨first, rest⟩ => by
      rw [DOMTree.forestNodes_cons, List.nodup_append] at unique
      rcases List.mem_append.mp inside with inT | inTs
      · have apart := (DOMTree.nodes_sublist_of_mem_subtrees t inT).subset
        exact (forestInherits_cons _ _).mpr ⟨treeInherits_local keeps t above unique.1 inT
            (fun n member => outside n (by simp [member])) first,
          (forestInherits_congr ts above (SameSubtreeBits.of_mask fun n member =>
            outside n (by simp [member]) fun inS => unique.2.2 (apart inS) member)).mpr rest⟩
      · have apart := (DOMTree.nodes_sublist_of_mem_forestSubtrees ts inTs).subset
        exact (forestInherits_cons _ _).mpr ⟨(treeInherits_congr t above (SameSubtreeBits.of_mask fun n member =>
            outside n (by simp [member]) fun inS => unique.2.2 member (apart inS))).mpr first,
          forestInherits_local keeps ts above unique.2.1 inTs
            (fun n member => outside n (by simp [member])) rest⟩
end

mutual
theorem treeInherits_insertChild {u : DOMTree} {parent : Int} {position : Nat}
    (grafted : treeInherits bp (bp.ownsSubtree parent || bp.inheritsSubtree parent) u) :
    ∀ (t : DOMTree) (above : Bool), treeInherits bp above t →
      treeInherits bp above (DOMTree.insertChild parent position u t)
  | .node id children, above, inherits => by
      rw [treeInherits_node] at inherits
      by_cases here : id = parent
      · subst here
        simp only [DOMTree.insertChild, if_true, treeInherits_node]
        refine ⟨inherits.1, forestInherits_iff.mpr fun c member => ?_⟩
        have before := forestInherits_iff.mp inherits.2
        rcases List.mem_append.mp member with early | late
        · exact before c (List.mem_of_mem_take early)
        · rcases List.mem_cons.mp late with rfl | late
          · simpa [inherits.1] using grafted
          · exact before c (List.mem_of_mem_drop late)
      · simp only [DOMTree.insertChild, here, if_false, treeInherits_node]
        exact ⟨inherits.1, forestInherits_insertChild grafted children _ inherits.2⟩

theorem forestInherits_insertChild {u : DOMTree} {parent : Int} {position : Nat}
    (grafted : treeInherits bp (bp.ownsSubtree parent || bp.inheritsSubtree parent) u) :
    ∀ (ts : List DOMTree) (above : Bool), forestInherits bp above ts →
      forestInherits bp above (DOMTree.insertChildIn parent position u ts)
  | [], _, _ => trivial
  | t :: ts, above, ⟨first, rest⟩ =>
      (forestInherits_cons _ _).mpr
        ⟨treeInherits_insertChild grafted t above first, forestInherits_insertChild grafted ts above rest⟩
end

mutual
theorem treeInherits_detach {n : Int} : ∀ (t : DOMTree) (above : Bool),
    treeInherits bp above t → treeInherits bp above (DOMTree.detach n t).1
  | .node id children, above, inherits => by
      rw [treeInherits_node] at inherits
      simp only [DOMTree.detach, treeInherits_node]
      exact ⟨inherits.1, forestInherits_detach children _ inherits.2⟩

theorem forestInherits_detach {n : Int} : ∀ (ts : List DOMTree) (above : Bool),
    forestInherits bp above ts → forestInherits bp above (DOMTree.detachIn n ts).1
  | [], _, _ => trivial
  | t :: ts, above, ⟨first, rest⟩ => by
      rw [DOMTree.detachIn_cons]
      split
      · exact forestInherits_detach ts above rest
      · exact (forestInherits_cons _ _).mpr
          ⟨treeInherits_detach t above first, forestInherits_detach ts above rest⟩
end

end Preservation

end Inherits

end BlinkInspector
