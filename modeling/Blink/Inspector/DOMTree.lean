import Mathlib.Data.List.Nodup

/-!
The node forest the DOM debugger agent walks: the document and every detached subtree, with unique
node ids. Insertion and removal move a subtree between a parent and the roots.
-/

namespace BlinkInspector

/-- Modelled from the spec: a node and the children that `InnerFirstChild` and `InnerNextSibling`
list below it. In the agent's loops a pointer into a sibling chain is the list of the siblings
from that node on, and the empty list is the null pointer. -/
inductive DOMTree
  | node (id : Int) (children : List DOMTree)
  deriving Repr

namespace DOMTree

def id : DOMTree → Int
  | node id _ => id

def children : DOMTree → List DOMTree
  | node _ children => children

@[simp] theorem id_node (id : Int) (children : List DOMTree) : (node id children).id = id := rfl

@[simp] theorem children_node (id : Int) (children : List DOMTree) :
    (node id children).children = children := rfl

mutual
def nodes : DOMTree → List Int
  | node id children => id :: forestNodes children

def forestNodes : List DOMTree → List Int
  | [] => []
  | t :: ts => nodes t ++ forestNodes ts
end

mutual
def subtrees : DOMTree → List DOMTree
  | node id children => node id children :: forestSubtrees children

def forestSubtrees : List DOMTree → List DOMTree
  | [] => []
  | t :: ts => subtrees t ++ forestSubtrees ts
end

mutual
/-- Where the node `n` stands below the ancestors `above`: its subtree, and its proper ancestors
nearest first. This is its first occurrence in preorder, with unique ids the only one. -/
def locate (n : Int) (above : List Int) : DOMTree → Option (DOMTree × List Int)
  | node id children =>
      if id = n then some (node id children, above) else locateIn n (id :: above) children

def locateIn (n : Int) (above : List Int) : List DOMTree → Option (DOMTree × List Int)
  | [] => none
  | t :: ts => (locate n above t).or (locateIn n above ts)
end

mutual
def insertChild (parent : Int) (position : Nat) (t : DOMTree) : DOMTree → DOMTree
  | node id children =>
      if id = parent then node id (children.take position ++ t :: children.drop position)
      else node id (insertChildIn parent position t children)

def insertChildIn (parent : Int) (position : Nat) (t : DOMTree) : List DOMTree → List DOMTree
  | [] => []
  | c :: cs => insertChild parent position t c :: insertChildIn parent position t cs
end

mutual
def detach (n : Int) : DOMTree → DOMTree × List DOMTree
  | node id children => (node id (detachIn n children).1, (detachIn n children).2)

def detachIn (n : Int) : List DOMTree → List DOMTree × List DOMTree
  | [] => ([], [])
  | c :: cs =>
      if c.id = n then ((detachIn n cs).1, c :: (detachIn n cs).2)
      else ((detach n c).1 :: (detachIn n cs).1, (detach n c).2 ++ (detachIn n cs).2)
end

section Lemmas

variable {n : Int} {above : List Int}

@[simp] theorem nodes_node (id : Int) (children : List DOMTree) :
    (node id children).nodes = id :: forestNodes children := rfl

@[simp] theorem forestNodes_nil : forestNodes [] = [] := rfl

@[simp] theorem forestNodes_cons (t : DOMTree) (ts : List DOMTree) :
    forestNodes (t :: ts) = t.nodes ++ forestNodes ts := rfl

@[simp] theorem forestNodes_append (ts us : List DOMTree) :
    forestNodes (ts ++ us) = forestNodes ts ++ forestNodes us := by
  induction ts with
  | nil => rfl
  | cons t ts ih => simp [ih]

theorem mem_forestNodes {ts : List DOMTree} : n ∈ forestNodes ts ↔ ∃ t ∈ ts, n ∈ t.nodes := by
  induction ts with
  | nil => simp
  | cons t ts ih => simp [ih]

theorem id_mem_nodes (t : DOMTree) : t.id ∈ t.nodes := by
  cases t; simp

theorem forestNodes_eq_flatMap (ts : List DOMTree) : forestNodes ts = ts.flatMap nodes := by
  induction ts with
  | nil => rfl
  | cons t ts ih => simp [ih]

theorem forestNodes_perm {ts us : List DOMTree} (perm : ts.Perm us) :
    (forestNodes ts).Perm (forestNodes us) := by
  simpa only [forestNodes_eq_flatMap] using perm.flatMap_right nodes

@[simp] theorem subtrees_node (id : Int) (children : List DOMTree) :
    (node id children).subtrees = node id children :: forestSubtrees children := rfl

@[simp] theorem forestSubtrees_cons (t : DOMTree) (ts : List DOMTree) :
    forestSubtrees (t :: ts) = t.subtrees ++ forestSubtrees ts := rfl

mutual
theorem map_id_subtrees : ∀ t : DOMTree, t.subtrees.map id = t.nodes
  | node id children => by simp [map_id_forestSubtrees children]

theorem map_id_forestSubtrees : ∀ ts : List DOMTree, (forestSubtrees ts).map id = forestNodes ts
  | [] => rfl
  | t :: ts => by simp [map_id_subtrees t, map_id_forestSubtrees ts]
end

theorem mem_forestSubtrees_of_mem {t : DOMTree} {ts : List DOMTree} (member : t ∈ ts) :
    t ∈ forestSubtrees ts := by
  induction ts with
  | nil => simp at member
  | cons u us ih =>
      rcases List.mem_cons.mp member with rfl | later
      · cases t; simp
      · simp [ih later]

theorem subtree_unique {ts : List DOMTree} (unique : (forestNodes ts).Nodup) {s r : DOMTree}
    (inS : s ∈ forestSubtrees ts) (inR : r ∈ forestSubtrees ts) (same : s.id = r.id) : s = r :=
  List.inj_on_of_nodup_map (by rwa [map_id_forestSubtrees]) inS inR same

theorem eq_singleton_of_copies {rs : List DOMTree} {s : DOMTree} (unique : (forestNodes rs).Nodup)
    (copies : ∀ r ∈ rs, r = s) (member : s ∈ rs) : rs = [s] := by
  match rs, member with
  | [r], _ => rw [copies r (by simp)]
  | r :: r' :: rest, _ =>
      have twice : s.id ∈ r.nodes ∧ s.id ∈ r'.nodes := by
        rw [copies r (by simp), copies r' (by simp)]
        exact ⟨id_mem_nodes s, id_mem_nodes s⟩
      simp only [forestNodes_cons, List.nodup_append] at unique
      exact absurd (List.mem_append_left _ twice.2) (unique.2.2 twice.1)

mutual
theorem nodes_sublist_of_mem_subtrees : ∀ {s : DOMTree} (t : DOMTree), s ∈ t.subtrees →
    s.nodes.Sublist t.nodes
  | s, node id children, member => by
      rcases List.mem_cons.mp member with rfl | below
      · exact List.Sublist.refl _
      · exact (nodes_sublist_of_mem_forestSubtrees children below).cons id

theorem nodes_sublist_of_mem_forestSubtrees : ∀ {s : DOMTree} (ts : List DOMTree),
    s ∈ forestSubtrees ts → s.nodes.Sublist (forestNodes ts)
  | _, [], member => by simp [forestSubtrees] at member
  | s, t :: ts, member => by
      rcases List.mem_append.mp member with first | later
      · exact (nodes_sublist_of_mem_subtrees t first).trans (List.sublist_append_left _ _)
      · exact (nodes_sublist_of_mem_forestSubtrees ts later).trans (List.sublist_append_right _ _)
end

/-! ### Finding a node -/

@[simp] theorem locate_node (id : Int) (children : List DOMTree) :
    locate n above (node id children) =
      if id = n then some (node id children, above) else locateIn n (id :: above) children := rfl

@[simp] theorem locateIn_nil : locateIn n above [] = none := rfl

@[simp] theorem locateIn_cons (t : DOMTree) (ts : List DOMTree) :
    locateIn n above (t :: ts) = (locate n above t).or (locateIn n above ts) := rfl

theorem locateIn_append (ts us : List DOMTree) :
    locateIn n above (ts ++ us) = (locateIn n above ts).or (locateIn n above us) := by
  induction ts with
  | nil => simp
  | cons t ts ih => simp [ih, Option.or_assoc]

mutual
theorem locate_eq_none : ∀ (t : DOMTree) (above : List Int), locate n above t = none ↔ n ∉ t.nodes
  | node id children, above => by
      by_cases root : id = n
      · simp [root]
      · simp [root, locateIn_eq_none children (id :: above), Ne.symm root]

theorem locateIn_eq_none : ∀ (ts : List DOMTree) (above : List Int),
    locateIn n above ts = none ↔ n ∉ forestNodes ts
  | [], _ => by simp
  | t :: ts, above => by simp [locate_eq_none t above, locateIn_eq_none ts above]
end

mutual
theorem locate_subtree : ∀ (t : DOMTree) (above : List Int) {s : DOMTree} {anc : List Int},
    locate n above t = some (s, anc) → s ∈ t.subtrees ∧ s.id = n
  | node id children, above, s, anc, found => by
      by_cases root : id = n
      · simp only [locate_node, root, if_true, Option.some.injEq, Prod.mk.injEq] at found
        obtain ⟨rfl, -⟩ := found
        simp [root]
      · simp only [locate_node, root, if_false] at found
        obtain ⟨inside, named⟩ := locateIn_subtree children (id :: above) found
        exact ⟨by simp [inside], named⟩

theorem locateIn_subtree : ∀ (ts : List DOMTree) (above : List Int) {s : DOMTree}
    {anc : List Int}, locateIn n above ts = some (s, anc) → s ∈ forestSubtrees ts ∧ s.id = n
  | [], _, _, _, found => by simp at found
  | t :: ts, above, s, anc, found => by
      rcases Option.or_eq_some.mp found with first | ⟨-, later⟩
      · obtain ⟨inside, named⟩ := locate_subtree t above first
        exact ⟨by simp [inside], named⟩
      · obtain ⟨inside, named⟩ := locateIn_subtree ts above later
        exact ⟨by simp [inside], named⟩
end

mutual
theorem locate_ancestors : ∀ (t : DOMTree) (above : List Int) {s : DOMTree} {anc : List Int},
    locate n above t = some (s, anc) → ∃ between, anc = between ++ above ∧
      (∀ x ∈ between, x ∈ t.nodes) ∧ between.length < t.nodes.length
  | node id children, above, s, anc, found => by
      by_cases root : id = n
      · simp only [locate_node, root, if_true, Option.some.injEq, Prod.mk.injEq] at found
        exact ⟨[], by simp [found.2], by simp, by simp⟩
      · simp only [locate_node, root, if_false] at found
        obtain ⟨between, rfl, inside, short⟩ := locateIn_ancestors children (id :: above) found
        refine ⟨between ++ [id], by simp, fun x member => ?_, by simp; omega⟩
        rcases List.mem_append.mp member with below | top
        · simp [inside x below]
        · simp_all

theorem locateIn_ancestors : ∀ (ts : List DOMTree) (above : List Int) {s : DOMTree}
    {anc : List Int}, locateIn n above ts = some (s, anc) → ∃ between, anc = between ++ above ∧
      (∀ x ∈ between, x ∈ forestNodes ts) ∧ between.length < (forestNodes ts).length
  | [], _, _, _, found => by simp at found
  | t :: ts, above, s, anc, found => by
      rcases Option.or_eq_some.mp found with first | ⟨-, later⟩
      · obtain ⟨between, split, inside, short⟩ := locate_ancestors t above first
        exact ⟨between, split, fun x member => by simp [inside x member], by simp; omega⟩
      · obtain ⟨between, split, inside, short⟩ := locateIn_ancestors ts above later
        exact ⟨between, split, fun x member => by simp [inside x member], by simp; omega⟩
end

theorem head_mem_of_ancestors {between above rest : List Int} {p : Int} {nodes : List Int}
    (split : p :: rest = between ++ above) (outside : p ∉ above) (inside : ∀ x ∈ between, x ∈ nodes) :
    p ∈ nodes ∧ ∃ later, between = p :: later ∧ rest = later ++ above := by
  cases between with
  | nil => simp at split; exact absurd (split ▸ List.mem_cons_self p rest) outside
  | cons x later =>
      simp only [List.cons_append, List.cons.injEq] at split
      obtain ⟨rfl, rfl⟩ := split
      exact ⟨inside p (by simp), later, rfl, rfl⟩

mutual
theorem locate_chain : ∀ (t : DOMTree) (above : List Int) {s : DOMTree} {p : Int}
    {rest : List Int}, t.nodes.Nodup → p ∉ above → locate n above t = some (s, p :: rest) →
      ∃ sp, locate p above t = some (sp, rest)
  | node id children, above, s, p, rest, unique, outside, found => by
      by_cases root : id = n
      · simp only [locate_node, root, if_true, Option.some.injEq, Prod.mk.injEq] at found
        exact absurd (found.2 ▸ List.mem_cons_self p rest) outside
      simp only [locate_node, root, if_false] at found
      rw [nodes_node, List.nodup_cons] at unique
      by_cases top : p = id
      · obtain ⟨between, split, inside, -⟩ := locateIn_ancestors children (id :: above) found
        cases between with
        | nil =>
            simp only [List.nil_append, List.cons.injEq] at split
            exact ⟨node id children, by simp [split.2, top]⟩
        | cons x later =>
            simp only [List.cons_append, List.cons.injEq] at split
            obtain ⟨rfl, -⟩ := split
            exact absurd (top ▸ inside p (by simp)) unique.1
      · obtain ⟨sp, foundP⟩ :=
          locateIn_chain children (id :: above) unique.2 (by simp [top, outside]) found
        exact ⟨sp, by simp [Ne.symm top, foundP]⟩

theorem locateIn_chain : ∀ (ts : List DOMTree) (above : List Int) {s : DOMTree} {p : Int}
    {rest : List Int}, (forestNodes ts).Nodup → p ∉ above →
      locateIn n above ts = some (s, p :: rest) → ∃ sp, locateIn p above ts = some (sp, rest)
  | [], _, _, _, _, _, _, found => by simp at found
  | t :: ts, above, s, p, rest, unique, outside, found => by
      rw [forestNodes_cons, List.nodup_append] at unique
      rcases Option.or_eq_some.mp found with first | ⟨-, later⟩
      · obtain ⟨sp, foundP⟩ := locate_chain t above unique.1 outside first
        exact ⟨sp, by simp [foundP]⟩
      · obtain ⟨sp, foundP⟩ := locateIn_chain ts above unique.2.1 outside later
        obtain ⟨between, split, inside, -⟩ := locateIn_ancestors ts above later
        have elsewhere : p ∉ t.nodes := fun inT =>
          unique.2.2 inT (head_mem_of_ancestors split outside inside).1
        exact ⟨sp, by simp [(locate_eq_none t above).mpr elsewhere, foundP]⟩
end

mutual
theorem locate_ancestors_outside : ∀ (t : DOMTree) (above : List Int) {s : DOMTree}
    {anc : List Int}, t.nodes.Nodup → (∀ x ∈ above, x ∉ t.nodes) →
      locate n above t = some (s, anc) → ∀ x ∈ anc, x ∉ s.nodes
  | node id children, above, s, anc, unique, outside, found => by
      by_cases root : id = n
      · simp only [locate_node, root, if_true, Option.some.injEq, Prod.mk.injEq] at found
        obtain ⟨rfl, rfl⟩ := found
        exact root ▸ outside
      simp only [locate_node, root, if_false] at found
      rw [nodes_node, List.nodup_cons] at unique
      refine locateIn_ancestors_outside children (id :: above) unique.2 (fun x member inside => ?_) found
      rcases List.mem_cons.mp member with rfl | up
      · exact unique.1 inside
      · exact outside x up (by simp [inside])

theorem locateIn_ancestors_outside : ∀ (ts : List DOMTree) (above : List Int) {s : DOMTree}
    {anc : List Int}, (forestNodes ts).Nodup → (∀ x ∈ above, x ∉ forestNodes ts) →
      locateIn n above ts = some (s, anc) → ∀ x ∈ anc, x ∉ s.nodes
  | [], _, _, _, _, _, found => by simp at found
  | t :: ts, above, s, anc, unique, outside, found => by
      rw [forestNodes_cons, List.nodup_append] at unique
      rcases Option.or_eq_some.mp found with first | ⟨-, later⟩
      · exact locate_ancestors_outside t above unique.1
          (fun x up inside => outside x up (by simp [inside])) first
      · exact locateIn_ancestors_outside ts above unique.2.1
          (fun x up inside => outside x up (by simp [inside])) later
end

/-! ### Insertion -/

section Insertion

variable {parent : Int} {position : Nat} {u : DOMTree}

@[simp] theorem insertChildIn_nil : insertChildIn parent position u [] = [] := rfl

@[simp] theorem insertChildIn_cons (t : DOMTree) (ts : List DOMTree) :
    insertChildIn parent position u (t :: ts) =
      insertChild parent position u t :: insertChildIn parent position u ts := rfl

mutual
theorem insertChild_of_not_mem : ∀ t : DOMTree, parent ∉ t.nodes →
    insertChild parent position u t = t
  | node id children, absent => by
      simp only [nodes_node, List.mem_cons, not_or] at absent
      simp [insertChild, Ne.symm absent.1, insertChildIn_of_not_mem children absent.2]

theorem insertChildIn_of_not_mem : ∀ ts : List DOMTree, parent ∉ forestNodes ts →
    insertChildIn parent position u ts = ts
  | [], _ => rfl
  | t :: ts, absent => by
      simp only [forestNodes_cons, List.mem_append, not_or] at absent
      simp [insertChild_of_not_mem t absent.1, insertChildIn_of_not_mem ts absent.2]
end

mutual
theorem insertChild_perm : ∀ t : DOMTree, parent ∈ t.nodes → t.nodes.Nodup →
    (insertChild parent position u t).nodes.Perm (u.nodes ++ t.nodes)
  | node id children, present, unique => by
      by_cases here : id = parent
      · have split := congrArg forestNodes (List.take_append_drop position children)
        refine List.perm_iff_count.mpr fun a => ?_
        have counts := congrArg (List.count a) split
        simp only [forestNodes_append, List.count_append] at counts
        simp [insertChild, here, List.count_append, List.count_cons]
        omega
      · rw [nodes_node, List.nodup_cons] at unique
        have below : parent ∈ forestNodes children := by simpa [Ne.symm here] using present
        have perm := insertChildIn_perm children below unique.2
        simpa [insertChild, here] using (perm.cons id).trans List.perm_middle.symm

theorem insertChildIn_perm : ∀ ts : List DOMTree, parent ∈ forestNodes ts →
    (forestNodes ts).Nodup →
      (forestNodes (insertChildIn parent position u ts)).Perm (u.nodes ++ forestNodes ts)
  | [], present, _ => by simp at present
  | t :: ts, present, unique => by
      rw [forestNodes_cons, List.nodup_append] at unique
      refine List.perm_iff_count.mpr fun a => ?_
      by_cases inT : parent ∈ t.nodes
      · have counts := (insertChild_perm t inT unique.1).count_eq a
        rw [insertChildIn_cons, insertChildIn_of_not_mem ts fun inTs => unique.2.2 inT inTs]
        simp only [forestNodes_cons, List.count_append] at counts ⊢
        omega
      · have inTs : parent ∈ forestNodes ts := by simpa [inT] using present
        have counts := (insertChildIn_perm ts inTs unique.2.1).count_eq a
        rw [insertChildIn_cons, insertChild_of_not_mem t inT]
        simp only [forestNodes_cons, List.count_append] at counts ⊢
        omega
end

mutual
theorem locate_insertChild : ∀ (t : DOMTree) (above : List Int) {sp : DOMTree} {anc : List Int},
    u.id ∉ t.nodes → locate parent above t = some (sp, anc) →
      locate u.id above (insertChild parent position u t) = some (u, parent :: anc)
  | node id children, above, sp, anc, fresh, found => by
      simp only [nodes_node, List.mem_cons, not_or] at fresh
      by_cases here : id = parent
      · subst here
        simp only [locate_node, if_true, Option.some.injEq, Prod.mk.injEq] at found
        have before : u.id ∉ forestNodes (children.take position) := fun inside =>
          fresh.2 (by
            rw [← List.take_append_drop position children, forestNodes_append]
            exact List.mem_append_left _ inside)
        cases u with
        | node uid grandchildren =>
            simp only [id_node] at before fresh
            simp [insertChild, Ne.symm fresh.1, locateIn_append,
              (locateIn_eq_none _ _).mpr before, ← found.2]
      · simp only [locate_node, here, if_false] at found
        simp [insertChild, here, Ne.symm fresh.1,
          locateIn_insertChild children (id :: above) fresh.2 found]

theorem locateIn_insertChild : ∀ (ts : List DOMTree) (above : List Int) {sp : DOMTree}
    {anc : List Int}, u.id ∉ forestNodes ts → locateIn parent above ts = some (sp, anc) →
      locateIn u.id above (insertChildIn parent position u ts) = some (u, parent :: anc)
  | [], _, _, _, _, found => by simp at found
  | t :: ts, above, sp, anc, fresh, found => by
      simp only [forestNodes_cons, List.mem_append, not_or] at fresh
      rcases Option.or_eq_some.mp found with first | ⟨missed, later⟩
      · simp [locate_insertChild t above fresh.1 first]
      · have absent := (locate_eq_none t above).mp missed
        simp [insertChild_of_not_mem t absent, (locate_eq_none t above).mpr fresh.1,
          locateIn_insertChild ts above fresh.2 later]
end

end Insertion

/-! ### Removal -/

section Removal

@[simp] theorem detachIn_nil : detachIn n [] = ([], []) := rfl

theorem detachIn_cons (t : DOMTree) (ts : List DOMTree) :
    detachIn n (t :: ts) =
      if t.id = n then ((detachIn n ts).1, t :: (detachIn n ts).2)
      else ((detach n t).1 :: (detachIn n ts).1, (detach n t).2 ++ (detachIn n ts).2) := rfl

mutual
theorem detach_perm : ∀ t : DOMTree,
    ((detach n t).1.nodes ++ forestNodes (detach n t).2).Perm t.nodes
  | node id children => by
      simpa [detach] using (detachIn_perm children).cons id

theorem detachIn_perm : ∀ ts : List DOMTree,
    (forestNodes (detachIn n ts).1 ++ forestNodes (detachIn n ts).2).Perm (forestNodes ts)
  | [] => by simp
  | t :: ts => by
      refine List.perm_iff_count.mpr fun a => ?_
      have rest := (detachIn_perm ts).count_eq a
      have first := (detach_perm t).count_eq a
      rw [detachIn_cons]
      split <;> simp only [forestNodes_cons, forestNodes_append, List.count_append] at rest first ⊢ <;>
        omega
end

mutual
theorem not_mem_detach : ∀ t : DOMTree, t.id ≠ n → n ∉ (detach n t).1.nodes
  | node id children, root => by
      simp only [detach, nodes_node, List.mem_cons, not_or]
      exact ⟨Ne.symm root, not_mem_detachIn children⟩

theorem not_mem_detachIn : ∀ ts : List DOMTree, n ∉ forestNodes (detachIn n ts).1
  | [] => by simp
  | t :: ts => by
      rw [detachIn_cons]
      split
      · exact not_mem_detachIn ts
      · simpa [not_mem_detach t ‹_›] using not_mem_detachIn ts
end

mutual
theorem mem_detach_removed : ∀ (t : DOMTree) {r : DOMTree}, r ∈ (detach n t).2 →
    r ∈ t.subtrees ∧ r.id = n
  | node id children, r, removed => by
      obtain ⟨inside, named⟩ := mem_detachIn_removed children removed
      exact ⟨by simp [inside], named⟩

theorem mem_detachIn_removed : ∀ (ts : List DOMTree) {r : DOMTree}, r ∈ (detachIn n ts).2 →
    r ∈ forestSubtrees ts ∧ r.id = n
  | [], r, removed => by simp at removed
  | t :: ts, r, removed => by
      rw [detachIn_cons] at removed
      split at removed
      · rcases List.mem_cons.mp removed with rfl | later
        · exact ⟨by cases r; simp, ‹_›⟩
        · obtain ⟨inside, named⟩ := mem_detachIn_removed ts later
          exact ⟨by simp [inside], named⟩
      · rcases List.mem_append.mp removed with first | later
        · obtain ⟨inside, named⟩ := mem_detach_removed t first
          exact ⟨by simp [inside], named⟩
        · obtain ⟨inside, named⟩ := mem_detachIn_removed ts later
          exact ⟨by simp [inside], named⟩
end

end Removal

end Lemmas

end DOMTree

/-- The document and every detached subtree. Node ids are unique, which makes `InnerParentNode`
the inverse of the child relation. -/
structure DOMForest where
  trees : List DOMTree
  nodup : (DOMTree.forestNodes trees).Nodup

namespace DOMForest

open DOMTree

def nodes (F : DOMForest) : List Int := forestNodes F.trees

def subtree (F : DOMForest) (n : Int) : Option DOMTree := (locateIn n [] F.trees).map Prod.fst

def ancestors (F : DOMForest) (n : Int) : List Int :=
  ((locateIn n [] F.trees).map Prod.snd).getD []

/-- Modelled from the spec: `InspectorDOMAgent::InnerParentNode`, the node whose children list
`n`; a root has none. -/
def innerParentNode (F : DOMForest) (n : Int) : Option Int := (F.ancestors n).head?

theorem roots_perm (F : DOMForest) {t : DOMTree} (root : t ∈ F.trees) :
    (forestNodes F.trees).Perm (t.nodes ++ forestNodes (F.trees.filter (·.id != t.id))) := by
  have split := forestNodes_perm (List.filter_append_perm (·.id == t.id) F.trees)
  have unique := split.nodup_iff.mpr F.nodup
  rw [forestNodes_append] at split unique
  have only : F.trees.filter (·.id == t.id) = [t] :=
    eq_singleton_of_copies (List.nodup_append.mp unique).1
      (fun r member => by
        obtain ⟨inside, same⟩ := List.mem_filter.mp member
        exact subtree_unique F.nodup (mem_forestSubtrees_of_mem inside)
          (mem_forestSubtrees_of_mem root) (by simpa using same))
      (List.mem_filter.mpr ⟨root, by simp⟩)
  rw [only] at split
  simpa using split.symm

theorem graft_perm (F : DOMForest) {t : DOMTree} (root : t ∈ F.trees) {parent : Int}
    (position : Nat) (outside : parent ∈ F.nodes ∧ parent ∉ t.nodes) :
    (forestNodes (insertChildIn parent position t (F.trees.filter (·.id != t.id)))).Perm
      (forestNodes F.trees) := by
  have split := F.roots_perm root
  have unique := (List.nodup_append.mp (split.nodup_iff.mp F.nodup)).2.1
  have inRest : parent ∈ forestNodes (F.trees.filter (·.id != t.id)) := by
    simpa [outside.2] using split.subset outside.1
  exact (insertChildIn_perm _ inRest unique).trans split.symm

/-- Modelled from the spec: the DOM makes the detached subtree rooted at `node` the child at
`position` of `parent`. It refuses a node that has a parent, and a parent inside the subtree; the
DOM first removes an attached node, and the agent sees that removal. -/
def insertNode (F : DOMForest) (node parent : Int) (position : Nat) : Option DOMForest :=
  match found : F.trees.find? (·.id == node) with
  | none => none
  | some t =>
      if outside : parent ∈ F.nodes ∧ parent ∉ t.nodes then
        some ⟨insertChildIn parent position t (F.trees.filter (·.id != t.id)),
          (F.graft_perm (List.mem_of_find?_eq_some found) position outside).nodup_iff.mpr F.nodup⟩
      else none

theorem nodup_detach (F : DOMForest) (node : Int) :
    (forestNodes ((detachIn node F.trees).1 ++ (detachIn node F.trees).2)).Nodup := by
  rw [forestNodes_append]
  exact (detachIn_perm F.trees).nodup_iff.mpr F.nodup

/-- Modelled from the spec: the DOM removes the node `node` from its parent, and its subtree
becomes a detached root. -/
def removeNode (F : DOMForest) (node : Int) : Option DOMForest :=
  if (F.innerParentNode node).isSome then
    some ⟨(detachIn node F.trees).1 ++ (detachIn node F.trees).2, F.nodup_detach node⟩
  else none

section Lemmas

variable {F F' : DOMForest} {n node parent : Int} {position : Nat}

theorem mem_nodes_of_locate {s : DOMTree} {anc : List Int}
    (found : locateIn n [] F.trees = some (s, anc)) : n ∈ F.nodes := by
  by_contra absent
  rw [(locateIn_eq_none _ _).mpr absent] at found
  cases found

theorem ancestors_of_locate {s : DOMTree} {anc : List Int}
    (found : locateIn n [] F.trees = some (s, anc)) : F.ancestors n = anc := by
  simp [ancestors, found]

theorem subtree_eq_some {s : DOMTree} (found : F.subtree n = some s) :
    s ∈ forestSubtrees F.trees ∧ s.id = n := by
  cases located : locateIn n [] F.trees with
  | none => simp [subtree, located] at found
  | some pair =>
      obtain ⟨s', anc⟩ := pair
      simp only [subtree, located, Option.map_some', Option.some.injEq] at found
      exact found ▸ locateIn_subtree F.trees [] located

theorem nodes_sublist_of_subtree {s : DOMTree} (found : F.subtree n = some s) :
    s.nodes.Sublist F.nodes :=
  nodes_sublist_of_mem_forestSubtrees F.trees (subtree_eq_some found).1

theorem ancestors_chain {p : Int} {rest : List Int} (chain : F.ancestors n = p :: rest) :
    F.ancestors p = rest := by
  cases found : locateIn n [] F.trees with
  | none => simp [ancestors, found] at chain
  | some located =>
      obtain ⟨s, anc⟩ := located
      rw [ancestors_of_locate found] at chain
      subst chain
      obtain ⟨sp, foundP⟩ := locateIn_chain F.trees [] F.nodup (List.not_mem_nil p) found
      exact ancestors_of_locate foundP

theorem ancestors_length (member : n ∈ F.nodes) : (F.ancestors n).length < F.nodes.length := by
  cases found : locateIn n [] F.trees with
  | none => exact absurd member ((locateIn_eq_none _ _).mp found)
  | some located =>
      obtain ⟨between, split, -, short⟩ := locateIn_ancestors F.trees [] found
      simpa [ancestors, found, split] using short

theorem ancestors_eq_nil_of_not_mem (absent : n ∉ F.nodes) : F.ancestors n = [] := by
  simp [ancestors, (locateIn_eq_none _ _).mpr absent]

theorem ancestors_length_le (n : Int) : (F.ancestors n).length ≤ F.nodes.length := by
  by_cases member : n ∈ F.nodes
  · exact (ancestors_length member).le
  · simp [ancestors_eq_nil_of_not_mem member]

theorem insertNode_eq_some (inserted : F.insertNode node parent position = some F') :
    ∃ t ∈ F.trees, t.id = node ∧ parent ∈ F.nodes ∧ parent ∉ t.nodes ∧
      F'.trees = insertChildIn parent position t (F.trees.filter (·.id != t.id)) := by
  unfold insertNode at inserted
  split at inserted
  · cases inserted
  rename_i t found
  split at inserted
  · rename_i outside
    cases inserted
    exact ⟨t, List.mem_of_find?_eq_some found, by simpa using List.find?_some found, outside.1,
      outside.2, rfl⟩
  · cases inserted

theorem insertNode_nodes (inserted : F.insertNode node parent position = some F') :
    F'.nodes.Perm F.nodes := by
  obtain ⟨t, root, -, outside, inside, trees⟩ := insertNode_eq_some inserted
  rw [nodes, trees]
  exact F.graft_perm root position ⟨outside, inside⟩

theorem insertNode_located (inserted : F.insertNode node parent position = some F') :
    ∃ t ∈ F.trees, t.id = node ∧ F'.subtree node = some t ∧
      F'.innerParentNode node = some parent := by
  obtain ⟨t, root, named, outside, inside, trees⟩ := insertNode_eq_some inserted
  have split := F.roots_perm root
  have apart := List.disjoint_of_nodup_append (split.nodup_iff.mp F.nodup)
  have inRest : parent ∈ forestNodes (F.trees.filter (·.id != t.id)) := by
    simpa [inside] using split.subset outside
  obtain ⟨⟨sp, anc⟩, foundParent⟩ := Option.ne_none_iff_exists'.mp
    (mt (locateIn_eq_none _ _).mp (not_not.mpr inRest))
  have found : locateIn t.id [] (insertChildIn parent position t (F.trees.filter (·.id != t.id))) =
      some (t, parent :: anc) := locateIn_insertChild _ [] (apart (id_mem_nodes t)) foundParent
  subst named
  exact ⟨t, root, rfl, by simp [subtree, trees, found],
    by simp [innerParentNode, ancestors, trees, found]⟩

theorem removeNode_nodes (removed : F.removeNode node = some F') : F'.nodes.Perm F.nodes := by
  unfold removeNode at removed
  split at removed
  · cases removed
    simpa [nodes] using @detachIn_perm node F.trees
  · cases removed

theorem removeNode_eq_some (removed : F.removeNode node = some F') :
    ∃ s, F.subtree node = some s ∧ (F.innerParentNode node).isSome ∧
      F'.trees = (detachIn node F.trees).1 ++ [s] ∧
      (forestNodes (detachIn node F.trees).1).Disjoint s.nodes := by
  unfold removeNode at removed
  split at removed
  · rename_i hasParent
    cases removed
    cases found : locateIn node [] F.trees with
    | none => simp [innerParentNode, ancestors, found] at hasParent
    | some located =>
        obtain ⟨s, anc⟩ := located
        obtain ⟨subtreeS, namedS⟩ := locateIn_subtree F.trees [] found
        have copies : ∀ r ∈ (detachIn node F.trees).2, r = s := fun r member => by
          obtain ⟨subtreeR, namedR⟩ := mem_detachIn_removed F.trees member
          exact subtree_unique F.nodup subtreeR subtreeS (namedR.trans namedS.symm)
        have unique := F.nodup_detach node
        rw [forestNodes_append] at unique
        have present : node ∈ forestNodes (detachIn node F.trees).2 := by
          have := (@detachIn_perm node F.trees).symm.subset (mem_nodes_of_locate found)
          simpa [@not_mem_detachIn node F.trees] using this
        obtain ⟨r, member, -⟩ := mem_forestNodes.mp present
        have only := eq_singleton_of_copies (List.nodup_append.mp unique).2.1 copies
          (copies r member ▸ member)
        rw [only] at unique
        exact ⟨s, by simp [subtree, found], hasParent, by simp only [only],
          by simpa using List.disjoint_of_nodup_append unique⟩
  · cases removed

end Lemmas

end DOMForest

end BlinkInspector
