import Mathlib.Data.List.Basic

/-!
`ActiveScriptWrappableManager`: weak references to wrappables, each with a strong one that a
recompute sets while the wrappable is active. Over every run, the strong references, and what an
iteration traces, are the wrappables the recomputes since the last clear found active.
-/

namespace BlinkBindings

structure ActivityProbe (α : Type) where
  isContextDestroyed : α → Bool
  dispatchHasPendingActivity : α → Bool

variable {α : Type}

def scriptWrappableIsActive (probe : ActivityProbe α) (asw : α) : Bool :=
  if probe.isContextDestroyed asw then false else probe.dispatchHasPendingActivity asw

inductive RecomputeMode
  | kOpportunistic
  | kRequired
  deriving DecidableEq, Repr

/-- The members: each entry is a wrappable and the strong reference kept to it, `none` for
`nullptr`. -/
structure ActiveScriptWrappableManager (α : Type) where
  activeScriptWrappables : List (α × Option α)
  recomputedCnt : Nat

namespace ActiveScriptWrappableManager

variable (manager : ActiveScriptWrappableManager α)

def recomputeEntry (probe : ActivityProbe α) (pair : α × Option α) : α × Option α :=
  if !scriptWrappableIsActive probe pair.1 || pair.2.isSome then pair else (pair.1, some pair.1)

def recomputeActiveScriptWrappables (mode : RecomputeMode) (probe : ActivityProbe α) :
    ActiveScriptWrappableManager α :=
  if mode = .kOpportunistic ∧ 0 < manager.recomputedCnt then manager
  else ⟨manager.activeScriptWrappables.map (recomputeEntry probe), manager.recomputedCnt + 1⟩

def iterateActiveScriptWrappables (probe : ActivityProbe α) :
    List α × ActiveScriptWrappableManager α :=
  let manager := manager.recomputeActiveScriptWrappables .kRequired probe
  (manager.activeScriptWrappables.filterMap (·.2),
    ⟨manager.activeScriptWrappables.map fun pair => (pair.1, none), 0⟩)

def cleanupInactiveAndClearActiveScriptWrappables (isHeapObjectAlive : α → Bool) :
    ActiveScriptWrappableManager α :=
  ⟨(manager.activeScriptWrappables.filter fun pair => isHeapObjectAlive pair.1).map
    fun pair => (pair.1, none), 0⟩

def registered (wrappables : List α) : ActiveScriptWrappableManager α :=
  ⟨wrappables.map fun asw => (asw, none), 0⟩

end ActiveScriptWrappableManager

inductive ManagerOperation (α : Type)
  | recompute (mode : RecomputeMode) (probe : ActivityProbe α)
  | iterate (probe : ActivityProbe α)
  | cleanup (isHeapObjectAlive : α → Bool)

namespace ActiveScriptWrappableManager

variable (manager : ActiveScriptWrappableManager α)

def step : ManagerOperation α → ActiveScriptWrappableManager α
  | .recompute mode probe => manager.recomputeActiveScriptWrappables mode probe
  | .iterate probe => (manager.iterateActiveScriptWrappables probe).2
  | .cleanup isHeapObjectAlive => manager.cleanupInactiveAndClearActiveScriptWrappables isHeapObjectAlive

def run (ops : List (ManagerOperation α)) : ActiveScriptWrappableManager α :=
  ops.foldl (fun manager op => manager.step op) manager

end ActiveScriptWrappableManager

/-! ### What the recomputes since a clear find -/

abbrev RecomputeCall (α : Type) := RecomputeMode × ActivityProbe α

def recordRecompute (calls : List (RecomputeCall α)) : ManagerOperation α → List (RecomputeCall α)
  | .recompute mode probe => calls ++ [(mode, probe)]
  | _ => []

def recomputesSinceClear (ops : List (ManagerOperation α)) : List (RecomputeCall α) :=
  ops.foldl recordRecompute []

def foundByRequired (calls : List (RecomputeCall α)) (asw : α) : Bool :=
  calls.any fun call => call.1 == .kRequired && scriptWrappableIsActive call.2 asw

/-- Whether the recomputes `calls` since a clear find `asw` active: the first of either mode, and
each required one after it. -/
def markedDuring : List (RecomputeCall α) → α → Bool
  | [] => fun _ => false
  | (_, probe) :: calls => fun asw => scriptWrappableIsActive probe asw || foundByRequired calls asw

@[simp]
theorem foundByRequired_append_singleton (calls : List (RecomputeCall α)) (mode : RecomputeMode)
    (probe : ActivityProbe α) (asw : α) :
    foundByRequired (calls ++ [(mode, probe)]) asw =
      (foundByRequired calls asw || mode == .kRequired && scriptWrappableIsActive probe asw) := by
  simp [foundByRequired, List.any_append]

theorem markedDuring_append_singleton (calls : List (RecomputeCall α)) (mode : RecomputeMode)
    (probe : ActivityProbe α) (asw : α) :
    markedDuring (calls ++ [(mode, probe)]) asw = (markedDuring calls asw ||
      (calls.isEmpty || mode == .kRequired) && scriptWrappableIsActive probe asw) := by
  cases calls with
  | nil => simp [markedDuring, foundByRequired]
  | cons first calls =>
      obtain ⟨_, first⟩ := first
      simp [markedDuring, Bool.or_assoc]

/-! ### The strong references over a run -/

namespace ActiveScriptWrappableManager

/-- The manager after the recomputes `calls` since its last clear: the strong reference of each
entry is to its wrappable if the recomputes found it active, and null otherwise; and the count is
zero exactly while there has been no recompute. -/
structure MarkedSince (calls : List (RecomputeCall α)) (manager : ActiveScriptWrappableManager α) :
    Prop where
  held : ∀ pair ∈ manager.activeScriptWrappables,
    pair.2 = if markedDuring calls pair.1 then some pair.1 else none
  counted : manager.recomputedCnt = 0 ↔ calls = []

variable {manager : ActiveScriptWrappableManager α} {calls : List (RecomputeCall α)}

theorem markedSince_cleared (cleared : ∀ pair ∈ manager.activeScriptWrappables, pair.2 = none)
    (fresh : manager.recomputedCnt = 0) : MarkedSince [] manager :=
  ⟨fun pair held => by simpa [markedDuring] using cleared pair held, by simp [fresh]⟩

@[simp]
theorem recomputeEntry_fst (probe : ActivityProbe α) (pair : α × Option α) :
    (recomputeEntry probe pair).1 = pair.1 := by
  unfold recomputeEntry
  split <;> rfl

theorem recomputeEntry_snd {probe : ActivityProbe α} {marked : Bool} {pair : α × Option α}
    (held : pair.2 = if marked then some pair.1 else none) :
    (recomputeEntry probe pair).2 =
      if marked || scriptWrappableIsActive probe pair.1 then some pair.1 else none := by
  unfold recomputeEntry
  cases marked <;> cases active : scriptWrappableIsActive probe pair.1 <;> simp_all

theorem recomputeActiveScriptWrappables_kRequired (probe : ActivityProbe α) :
    manager.recomputeActiveScriptWrappables .kRequired probe =
      ⟨manager.activeScriptWrappables.map (recomputeEntry probe), manager.recomputedCnt + 1⟩ :=
  if_neg (by simp)

theorem MarkedSince.recompute (marked : MarkedSince calls manager) (mode : RecomputeMode)
    (probe : ActivityProbe α) :
    MarkedSince (calls ++ [(mode, probe)]) (manager.recomputeActiveScriptWrappables mode probe) := by
  unfold recomputeActiveScriptWrappables
  split
  · next skipped =>
      obtain ⟨rfl, counted⟩ := skipped
      have started : calls ≠ [] := fun none => by simp [marked.counted.mpr none] at counted
      refine ⟨fun pair held => ?_, by simp [marked.counted, started]⟩
      simpa [markedDuring_append_singleton, List.isEmpty_iff, started] using marked.held pair held
  · next effective =>
      have counts : calls.isEmpty || mode == .kRequired := by
        cases mode with
        | kOpportunistic => simp [marked.counted.mp (by simpa using effective)]
        | kRequired => simp
      refine ⟨?_, by simp⟩
      simp only [List.mem_map]
      rintro _ ⟨pair, held, rfl⟩
      rw [recomputeEntry_snd (marked.held pair held), recomputeEntry_fst,
        markedDuring_append_singleton, counts, Bool.true_and]

theorem MarkedSince.step (marked : MarkedSince calls manager) (op : ManagerOperation α) :
    MarkedSince (recordRecompute calls op) (manager.step op) := by
  cases op with
  | recompute mode probe => exact marked.recompute mode probe
  | iterate probe =>
      refine markedSince_cleared (fun pair held => ?_) rfl
      obtain ⟨_, _, rfl⟩ := List.mem_map.mp held
      rfl
  | cleanup isHeapObjectAlive =>
      refine markedSince_cleared (fun pair held => ?_) rfl
      obtain ⟨_, _, rfl⟩ := List.mem_map.mp held
      rfl

theorem MarkedSince.run (marked : MarkedSince calls manager) (ops : List (ManagerOperation α)) :
    MarkedSince (ops.foldl recordRecompute calls) (manager.run ops) := by
  induction ops generalizing manager calls with
  | nil => exact marked
  | cons op ops ih => exact ih (marked.step op)

theorem markedSince_run_registered (wrappables : List α) (ops : List (ManagerOperation α)) :
    MarkedSince (recomputesSinceClear ops) ((registered wrappables).run ops) :=
  (markedSince_cleared (by simp [registered]) rfl).run ops

/-- Over every run from registered wrappables, the manager holds a strong reference to a
wrappable exactly when the first recompute since the last iteration or cleanup, or a required one
since, found it active; and every strong reference is to its own wrappable. -/
theorem strongReference_iff_marked (wrappables : List α) (ops : List (ManagerOperation α)) :
    ((registered wrappables).run ops).activeScriptWrappables =
      ((registered wrappables).run ops).activeScriptWrappables.map fun pair =>
        (pair.1, if markedDuring (recomputesSinceClear ops) pair.1 then some pair.1 else none) :=
  (List.map_id _).symm.trans <| List.map_congr_left fun pair mem =>
    Prod.ext rfl ((markedSince_run_registered wrappables ops).held pair mem)

theorem filterMap_snd_of_held {entries : List (α × Option α)} (marked : α → Bool)
    (held : ∀ pair ∈ entries, pair.2 = if marked pair.1 then some pair.1 else none) :
    entries.filterMap (·.2) = (entries.map Prod.fst).filter marked := by
  induction entries with
  | nil => rfl
  | cons pair entries ih =>
      rw [List.filterMap_cons, held pair (List.mem_cons_self _ _), List.map_cons, List.filter_cons,
        ih fun pair' mem => held pair' (List.mem_cons_of_mem _ mem)]
      cases marked pair.1 <;> rfl

/-- Over every run from registered wrappables, an iteration traces exactly, in order, the
registered wrappables it finds active, or that the first recompute since the last iteration or
cleanup, or a required one since, found active: nothing active is missed, and nothing is kept that
no recompute found active. -/
theorem iterate_traces_marked (wrappables : List α) (ops : List (ManagerOperation α))
    (probe : ActivityProbe α) :
    (((registered wrappables).run ops).iterateActiveScriptWrappables probe).1 =
      (((registered wrappables).run ops).activeScriptWrappables.map Prod.fst).filter fun asw =>
        markedDuring (recomputesSinceClear ops) asw || scriptWrappableIsActive probe asw := by
  have held := (markedSince_run_registered wrappables ops).held
  generalize (registered wrappables).run ops = manager at held ⊢
  have traced : ∀ pair ∈ manager.activeScriptWrappables.map (recomputeEntry probe),
      pair.2 = if markedDuring (recomputesSinceClear ops) pair.1 ||
        scriptWrappableIsActive probe pair.1 then some pair.1 else none := by
    simp only [List.mem_map]
    rintro _ ⟨pair, mem, rfl⟩
    rw [recomputeEntry_snd (held pair mem), recomputeEntry_fst]
  simp only [iterateActiveScriptWrappables, recomputeActiveScriptWrappables_kRequired]
  rw [filterMap_snd_of_held (fun asw =>
    markedDuring (recomputesSinceClear ops) asw || scriptWrappableIsActive probe asw) traced]
  simp only [List.map_map, Function.comp_def, recomputeEntry_fst]

/- A second opportunistic recompute finds nothing: wrappable `2`, busy only then, is not traced. -/
example : (((registered [1, 2, 3]).run [.recompute .kOpportunistic ⟨fun _ => false, (· == 1)⟩,
    .recompute .kOpportunistic ⟨fun _ => false, (· == 2)⟩]).iterateActiveScriptWrappables
      ⟨fun _ => false, (· == 3)⟩).1 = [1, 3] := by decide

end ActiveScriptWrappableManager

end BlinkBindings
