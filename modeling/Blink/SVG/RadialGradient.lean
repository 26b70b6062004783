import Mathlib.Data.Fintype.Card
import Mathlib.Data.List.Chain

/-!
`SVGRadialGradientElement::CollectGradientAttributes`: over any document the loop stops, visits the
unique reference walk from the start, and gives each attribute its first specified value.
-/

namespace BlinkSVG

inductive RadialAttribute
  | cx
  | cy
  | r
  | fx
  | fy
  | fr
  deriving DecidableEq, Repr

/-- Modelled from the spec: `RadialGradientAttributes`, whose header is not among the sources.
Each attribute is unset, or set to a length; the common attributes of every gradient are not
modelled. -/
structure RadialGradientAttributes (Length : Type) where
  cx : Option Length
  cy : Option Length
  r : Option Length
  fx : Option Length
  fy : Option Length
  fr : Option Length
  deriving DecidableEq, Repr

namespace RadialGradientAttributes

variable {Length : Type} (attributes : RadialGradientAttributes Length)

def empty : RadialGradientAttributes Length := ⟨none, none, none, none, none, none⟩

def get : RadialAttribute → Option Length
  | .cx => attributes.cx
  | .cy => attributes.cy
  | .r => attributes.r
  | .fx => attributes.fx
  | .fy => attributes.fy
  | .fr => attributes.fr

def has (a : RadialAttribute) : Bool := (attributes.get a).isSome

def set (a : RadialAttribute) (value : Length) : RadialGradientAttributes Length :=
  match a with
  | .cx => { attributes with cx := some value }
  | .cy => { attributes with cy := some value }
  | .r => { attributes with r := some value }
  | .fx => { attributes with fx := some value }
  | .fy => { attributes with fy := some value }
  | .fr => { attributes with fr := some value }

/-- Modelled from the spec: `Cx()`, `Cy()`, ...: the length set, and while the attribute is unset
the default a fresh `RadialGradientAttributes` holds. -/
def value (defaults : RadialAttribute → Length) (a : RadialAttribute) : Length :=
  (attributes.get a).getD (defaults a)

@[simp] theorem get_empty (a : RadialAttribute) : (empty : RadialGradientAttributes Length).get a = none := by
  cases a <;> rfl

@[simp] theorem get_set (a b : RadialAttribute) (value : Length) :
    (attributes.set a value).get b = if b = a then some value else attributes.get b := by
  cases a <;> cases b <;> rfl

def setIfUnset (a : RadialAttribute) (specified : Option Length) : RadialGradientAttributes Length :=
  match specified with
  | some current => if attributes.has a then attributes else attributes.set a current
  | none => attributes

theorem get_setIfUnset (a b : RadialAttribute) (specified : Option Length) :
    (attributes.setIfUnset a specified).get b =
      if b = a then (attributes.get a).or specified else attributes.get b := by
  unfold setIfUnset has
  cases specified with
  | none => by_cases same : b = a <;> simp [same]
  | some current =>
      cases set : attributes.get a <;> by_cases same : b = a <;> simp_all

end RadialGradientAttributes

open RadialGradientAttributes

/-- Modelled from the spec: what the loop reads of a gradient element of a document with `n`
gradient elements. -/
structure SVGGradientElement (Length : Type) (n : Nat) where
  /-- For an `SVGRadialGradientElement`, the current value of each attribute it specifies;
  `none` for a linear gradient. -/
  radial : Option (RadialAttribute → Option Length)
  /-- `GetLayoutObject()` is not null. -/
  hasLayoutObject : Bool
  /-- `ReferencedElement()`: the gradient element its `href` names. -/
  referencedElement : Option (Fin n)

variable {Length : Type} {n : Nat}

def SVGGradientElement.specified (element : SVGGradientElement Length n) (a : RadialAttribute) :
    Option Length :=
  element.radial.bind fun current => current a

def setGradientAttributes (element : SVGGradientElement Length n)
    (attributes : RadialGradientAttributes Length) : RadialGradientAttributes Length :=
  match element.radial with
  | none => attributes
  | some _ =>
      [.cx, .cy, .r, .fx, .fy, .fr].foldl
        (fun attributes a => attributes.setIfUnset a (element.specified a)) attributes

/-- The `while (true)` loop of `CollectGradientAttributes`, for at most `fuel` passes: merge
`current`, mark it visited, and go on to its referenced element unless that is null, has no layout
object, or was visited. It answers the attributes and the visited elements, the latest first. -/
def collectLoop (doc : Fin n → SVGGradientElement Length n) :
    Nat → Fin n → List (Fin n) → RadialGradientAttributes Length →
      Option (RadialGradientAttributes Length × List (Fin n))
  | 0, _, _, _ => none
  | fuel + 1, current, visited, attributes =>
      let attributes := setGradientAttributes (doc current) attributes
      let visited := current :: visited
      match (doc current).referencedElement with
      | none => some (attributes, visited)
      | some next =>
          if !(doc next).hasLayoutObject then some (attributes, visited)
          else if next ∈ visited then some (attributes, visited)
          else collectLoop doc fuel next visited attributes

def setFocalDefaults (defaults : RadialAttribute → Length)
    (attributes : RadialGradientAttributes Length) : RadialGradientAttributes Length :=
  let attributes :=
    if attributes.has .fx then attributes else attributes.set .fx (attributes.value defaults .cx)
  if attributes.has .fy then attributes else attributes.set .fy (attributes.value defaults .cy)

def collectGradientAttributes (defaults : RadialAttribute → Length)
    (doc : Fin n → SVGGradientElement Length n) (this : Fin n)
    (attributes : RadialGradientAttributes Length) : Option (RadialGradientAttributes Length) :=
  (collectLoop doc n this [] attributes).map fun collected => setFocalDefaults defaults collected.1

/-! ### The reference walk -/

section Walk

variable (doc : Fin n → SVGGradientElement Length n)

def Linked (e next : Fin n) : Prop :=
  (doc e).referencedElement = some next ∧ (doc next).hasLayoutObject = true

/-- The walk from `this`: it follows `ReferencedElement()` hop by hop, never repeats an element,
and ends where the reference is null, has no layout object, or was already visited. -/
structure IsReferenceWalk (this : Fin n) (walk : List (Fin n)) : Prop where
  head : walk.head? = some this
  linked : walk.Chain' (Linked doc)
  nodup : walk.Nodup
  stops : ∀ last ∈ walk.getLast?, ∀ next, Linked doc last next → next ∈ walk

def firstSpecified (walk : List (Fin n)) (a : RadialAttribute) : Option Length :=
  walk.findSome? fun e => (doc e).specified a

variable {doc}

theorem linked_unique {e next next' : Fin n} (linked : Linked doc e next)
    (linked' : Linked doc e next') : next = next' :=
  Option.some.inj (linked.1.symm.trans linked'.1)

theorem prefix_of_chain : ∀ {w₁ w₂ : List (Fin n)}, w₁.head? = w₂.head? →
    w₁.Chain' (Linked doc) → w₂.Chain' (Linked doc) → w₁ <+: w₂ ∨ w₂ <+: w₁
  | [], _, _, _, _ => .inl List.nil_prefix
  | _ :: _, [], _, _, _ => .inr List.nil_prefix
  | a :: w₁, b :: w₂, same, chain₁, chain₂ => by
      obtain rfl : a = b := Option.some.inj same
      rw [List.chain'_cons'] at chain₁ chain₂
      simp only [List.prefix_cons_inj]
      cases w₁ with
      | nil => exact .inl List.nil_prefix
      | cons c w₁ =>
          cases w₂ with
          | nil => exact .inr List.nil_prefix
          | cons d w₂ =>
              exact prefix_of_chain (by simp [linked_unique (chain₁.1 c rfl) (chain₂.1 d rfl)])
                chain₁.2 chain₂.2

theorem IsReferenceWalk.eq_of_isPrefix {this : Fin n} {w₁ w₂ : List (Fin n)}
    (walk₁ : IsReferenceWalk doc this w₁) (walk₂ : IsReferenceWalk doc this w₂)
    (before : w₁ <+: w₂) : w₁ = w₂ := by
  obtain ⟨rest, rfl⟩ := before
  cases rest with
  | nil => simp
  | cons next rest =>
      obtain ⟨last, ending⟩ : ∃ last, w₁.getLast? = some last := by
        cases w₁ with
        | nil => exact absurd walk₁.head (by simp)
        | cons e w => exact Option.isSome_iff_exists.mp (by simp)
      have hop := (List.chain'_append.mp walk₂.linked).2.2 last ending next rfl
      have visited := walk₁.stops last ending next hop
      exact absurd visited (List.disjoint_of_nodup_append walk₂.nodup · (List.mem_cons_self _ _))

theorem IsReferenceWalk.unique {this : Fin n} {w₁ w₂ : List (Fin n)}
    (walk₁ : IsReferenceWalk doc this w₁) (walk₂ : IsReferenceWalk doc this w₂) : w₁ = w₂ := by
  rcases prefix_of_chain (walk₁.head.trans walk₂.head.symm) walk₁.linked walk₂.linked with
    before | after
  · exact walk₁.eq_of_isPrefix walk₂ before
  · exact (walk₂.eq_of_isPrefix walk₁ after).symm

end Walk

/-! ### The loop -/

section Loop

variable {doc : Fin n → SVGGradientElement Length n}

theorem get_setGradientAttributes (element : SVGGradientElement Length n)
    (attributes : RadialGradientAttributes Length) (a : RadialAttribute) :
    (setGradientAttributes element attributes).get a = (attributes.get a).or (element.specified a) := by
  unfold setGradientAttributes
  cases radial : element.radial with
  | none => simp [SVGGradientElement.specified, radial]
  | some current => cases a <;> simp [get_setIfUnset]

theorem get_foldl_setGradientAttributes (walk : List (Fin n))
    (attributes : RadialGradientAttributes Length) (a : RadialAttribute) :
    (walk.foldl (fun attributes e => setGradientAttributes (doc e) attributes) attributes).get a =
      (attributes.get a).or (firstSpecified doc walk a) := by
  induction walk generalizing attributes with
  | nil => simp [firstSpecified]
  | cons e walk ih =>
      rw [List.foldl_cons, ih, get_setGradientAttributes]
      simp only [firstSpecified, List.findSome?_cons]
      cases (doc e).specified a <;> cases attributes.get a <;> rfl

theorem collectLoop_succ_of_hop {fuel : Nat} {current next : Fin n} {visited : List (Fin n)}
    {attributes : RadialGradientAttributes Length} (hop : Linked doc current next)
    (fresh : next ∉ current :: visited) :
    collectLoop doc (fuel + 1) current visited attributes =
      collectLoop doc fuel next (current :: visited) (setGradientAttributes (doc current) attributes) := by
  simp [collectLoop, hop.1, hop.2, fresh]

theorem collectLoop_succ_of_stop {fuel : Nat} {current : Fin n} {visited : List (Fin n)}
    {attributes : RadialGradientAttributes Length}
    (stops : ∀ next, Linked doc current next → next ∈ current :: visited) :
    collectLoop doc (fuel + 1) current visited attributes =
      some (setGradientAttributes (doc current) attributes, current :: visited) := by
  unfold collectLoop
  cases reference : (doc current).referencedElement with
  | none => rfl
  | some next =>
      by_cases attached : (doc next).hasLayoutObject = true
      · simp [attached, stops next ⟨reference, attached⟩]
      · simp [attached]

theorem collectLoop_walk : ∀ (fuel : Nat) (current : Fin n) (visited : List (Fin n))
    (attributes : RadialGradientAttributes Length), (current :: visited).Nodup →
      n ≤ fuel + visited.length → ∃ walk,
        collectLoop doc fuel current visited attributes =
          some (walk.foldl (fun attributes e => setGradientAttributes (doc e) attributes) attributes,
            walk.reverse ++ visited) ∧
        walk.head? = some current ∧ walk.Chain' (Linked doc) ∧ (walk.reverse ++ visited).Nodup ∧
        ∀ last ∈ walk.getLast?, ∀ next, Linked doc last next → next ∈ walk ++ visited
  | 0, current, visited, _, fresh, enough => by
      have bound := fresh.length_le_card
      simp only [List.length_cons, Fintype.card_fin] at bound
      omega
  | fuel + 1, current, visited, attributes, fresh, enough => by
      by_cases go : ∃ next, Linked doc current next ∧ next ∉ current :: visited
      · obtain ⟨next, hop, unseen⟩ := go
        obtain ⟨walk, ran, head, linked, unique, stops⟩ :=
          collectLoop_walk fuel next (current :: visited) _ (List.nodup_cons.mpr ⟨unseen, fresh⟩)
            (by simp only [List.length_cons]; omega)
        refine ⟨current :: walk, by simpa [collectLoop_succ_of_hop hop unseen] using ran, rfl,
          linked.cons' fun y first => ?_, by simpa using unique, fun last ending next' hop' => ?_⟩
        · rw [head, Option.mem_some_iff] at first
          exact first ▸ hop
        · cases walk with
          | nil => simp at head
          | cons e walk =>
              rw [List.getLast?_cons_cons] at ending
              exact List.perm_middle.subset (stops last ending next' hop')
      · push_neg at go
        exact ⟨[current], collectLoop_succ_of_stop go, rfl, List.chain'_singleton _, fresh,
          by simpa using go⟩

end Loop

theorem get_setFocalDefaults (defaults : RadialAttribute → Length)
    (attributes : RadialGradientAttributes Length) (a : RadialAttribute) :
    (setFocalDefaults defaults attributes).get a =
      if a = .fx then some ((attributes.get .fx).getD (attributes.value defaults .cx))
      else if a = .fy then some ((attributes.get .fy).getD (attributes.value defaults .cy))
      else attributes.get a := by
  unfold setFocalDefaults has value
  cases fx : attributes.get .fx <;> cases fy : attributes.get .fy <;> cases a <;> simp [fx, fy]

/-- `CollectGradientAttributes` from empty attributes, on any document: the loop stops within one
pass per element, having visited exactly the reference walk from `this`, each element once. Each
attribute the loop collects is the one the first radial gradient of the walk specifies, and after
it an unset `fx` (`fy`) takes the collected `cx` (`cy`). -/
theorem collectGradientAttributes_resolves_walk (defaults : RadialAttribute → Length)
    (doc : Fin n → SVGGradientElement Length n) (this : Fin n) :
    ∃ walk, IsReferenceWalk doc this walk ∧ (∀ walk', IsReferenceWalk doc this walk' → walk' = walk) ∧
      ∃ collected, collectLoop doc n this [] .empty = some (collected, walk.reverse) ∧
        (∀ a, collected.get a = firstSpecified doc walk a) ∧
        ∃ result, collectGradientAttributes defaults doc this .empty = some result ∧
          result.get .fx = some ((firstSpecified doc walk .fx).getD (result.value defaults .cx)) ∧
          result.get .fy = some ((firstSpecified doc walk .fy).getD (result.value defaults .cy)) ∧
          ∀ a, a ≠ .fx → a ≠ .fy → result.get a = firstSpecified doc walk a := by
  obtain ⟨walk, ran, head, linked, unique, stops⟩ :=
    @collectLoop_walk Length n doc n this [] .empty (List.nodup_singleton this) (by simp)
  have walked : IsReferenceWalk doc this walk :=
    ⟨head, linked, by simpa using unique, fun last ending next hop => by
      simpa using stops last ending next hop⟩
  have collected : ∀ a, (walk.foldl (fun attributes e => setGradientAttributes (doc e) attributes)
      .empty).get a = firstSpecified doc walk a := fun a => by
    simp [get_foldl_setGradientAttributes]
  have kept : ∀ a, a ≠ .fx → a ≠ .fy →
      (setFocalDefaults defaults (walk.foldl (fun attributes e => setGradientAttributes (doc e)
        attributes) .empty)).get a = firstSpecified doc walk a := fun a notFx notFy => by
    rw [get_setFocalDefaults, if_neg notFx, if_neg notFy, collected]
  refine ⟨walk, walked, fun walk' other => other.unique walked, _, by simpa using ran, collected,
    _, by simp [collectGradientAttributes, ran], ?_, ?_, kept⟩
  · simp only [get_setFocalDefaults, if_true, collected, value,
      kept .cx (by decide) (by decide)]
  · simp only [get_setFocalDefaults, reduceCtorEq, if_true, if_false, collected, value,
      kept .cy (by decide) (by decide)]

example :
    collectGradientAttributes (fun _ => 0)
      (fun i : Fin 3 => match i with
        | ⟨0, _⟩ => ⟨some fun | .r => some 5 | _ => none, true, some 1⟩
        | ⟨1, _⟩ => ⟨none, true, some 2⟩
        | _ => ⟨some fun | .cx => some 7 | .r => some 9 | _ => none, true, some 0⟩)
      0 .empty = some ⟨some 7, none, some 5, some 7, some 0, none⟩ := by
  decide

end BlinkSVG
