import Mathlib.Logic.Function.Iterate
import Blink.IndexedDB.CursorImpl

/-!
What the cache stands for: the entries of the last prefetched batch that have been neither
delivered nor skipped, first entry next. The three vectors of the cursor store this window
back to front. One spec lemma per member function, then the in-order law for a batch.
-/

namespace BlinkIndexedDB

structure Entry (Key Value : Type) where
  key : Key
  primaryKey : Key
  value : Value
  deriving DecidableEq, Repr

theorem exists_drop_eq_cons {α : Type} {items : List α} {count : Nat}
    (fits : count < items.length) : ∃ first rest, items.drop count = first :: rest :=
  ⟨items[count], items.drop (count + 1), List.drop_eq_getElem_cons fits⟩

def Entry.zipAll {Key Value : Type} :
    List Key → List Key → List Value → List (Entry Key Value)
  | key :: keys, primaryKey :: primaryKeys, value :: values =>
      ⟨key, primaryKey, value⟩ :: zipAll keys primaryKeys values
  | _, _, _ => []

theorem Entry.map_zipAll {Key Value : Type} (keys primaryKeys : List Key) (values : List Value)
    (primaryAgree : primaryKeys.length = keys.length) (valuesAgree : values.length = keys.length) :
    (zipAll keys primaryKeys values).map Entry.key = keys ∧
      (zipAll keys primaryKeys values).map Entry.primaryKey = primaryKeys ∧
      (zipAll keys primaryKeys values).map Entry.value = values := by
  induction keys generalizing primaryKeys values with
  | nil =>
      rw [List.length_nil, List.length_eq_zero] at primaryAgree valuesAgree
      subst primaryAgree valuesAgree
      simp [zipAll]
  | cons key keys ih =>
      cases primaryKeys with
      | nil => simp at primaryAgree
      | cons primaryKey primaryKeys =>
          cases values with
          | nil => simp at valuesAgree
          | cons value values =>
              simp only [List.length_cons, Nat.add_right_cancel_iff] at primaryAgree valuesAgree
              obtain ⟨keysEq, primaryEq, valuesEq⟩ := ih primaryKeys values primaryAgree valuesAgree
              simp [zipAll, keysEq, primaryEq, valuesEq]

namespace WebIDBCursorImpl

variable {Key Value : Type} (limits : PrefetchLimits) (c : WebIDBCursorImpl Key Value)

/-- The three vectors hold `window` back to front, so that `back()` is its first entry. -/
def Holds (window : List (Entry Key Value)) : Prop :=
  c.prefetchKeys = (window.map Entry.key).reverse ∧
    c.prefetchPrimaryKeys = (window.map Entry.primaryKey).reverse ∧
    c.prefetchValues = (window.map Entry.value).reverse

theorem resetPrefetchCache_of_isEmpty (empty : c.prefetchKeys = []) :
    resetPrefetchCache limits c =
      ({ c with continueCount := 0, prefetchAmount := limits.kMinPrefetchAmount }, []) := by
  simp [resetPrefetchCache, empty]

theorem resetPrefetchCache_of_ne_nil (nonempty : c.prefetchKeys ≠ []) :
    resetPrefetchCache limits c =
      ({ c with continueCount := 0, prefetchAmount := limits.kMinPrefetchAmount,
                prefetchKeys := [], prefetchPrimaryKeys := [], prefetchValues := [],
                pendingOnsuccessCallbacks := 0 },
        [.send (.prefetchReset c.usedPrefetches c.prefetchKeys.length)]) := by
  simp [resetPrefetchCache, nonempty]

theorem resetPrefetchCache_effects :
    (c.resetPrefetchCache limits).2 =
      if c.prefetchKeys.isEmpty then []
      else [.send (.prefetchReset c.usedPrefetches c.prefetchKeys.length)] := by
  by_cases empty : c.prefetchKeys = []
  · rw [resetPrefetchCache_of_isEmpty limits c empty, if_pos (by simp [empty])]
  · rw [resetPrefetchCache_of_ne_nil limits c empty, if_neg (by simpa using empty)]

@[simp] theorem resetPrefetchCache_continueCount :
    (resetPrefetchCache limits c).1.continueCount = 0 := by
  unfold resetPrefetchCache; dsimp only; split <;> rfl

@[simp] theorem resetPrefetchCache_prefetchAmount :
    (resetPrefetchCache limits c).1.prefetchAmount = limits.kMinPrefetchAmount := by
  unfold resetPrefetchCache; dsimp only; split <;> rfl

@[simp] theorem resetPrefetchCache_transactionId :
    (resetPrefetchCache limits c).1.transactionId = c.transactionId := by
  unfold resetPrefetchCache; dsimp only; split <;> rfl

@[simp] theorem resetPrefetchCache_prefetchKeys :
    (resetPrefetchCache limits c).1.prefetchKeys = [] := by
  unfold resetPrefetchCache; dsimp only; split
  · exact List.isEmpty_iff.mp ‹_›
  · rfl

theorem resetPrefetchCache_clears (agree : c.SizesAgree) :
    (resetPrefetchCache limits c).1.Holds [] := by
  by_cases empty : c.prefetchKeys = []
  · have ⟨primaryAgree, valuesAgree⟩ := agree
    rw [empty, List.length_nil, List.length_eq_zero] at primaryAgree valuesAgree
    simp [resetPrefetchCache_of_isEmpty limits c empty, Holds, empty, primaryAgree, valuesAgree]
  · simp [resetPrefetchCache_of_ne_nil limits c empty, Holds]

theorem dropStaleBatch_of_ne_zero (live : c.continueCount ≠ 0) :
    dropStaleBatch limits c = (c, []) := by
  simp [dropStaleBatch, live]

theorem dropStaleBatch_of_eq_zero (stale : c.continueCount = 0) :
    dropStaleBatch limits c = resetPrefetchCache limits c := by
  simp [dropStaleBatch, stale]

theorem Holds.sizesAgree {window : List (Entry Key Value)} (holds : c.Holds window) :
    c.SizesAgree := by
  simp [SizesAgree, holds.1, holds.2.1, holds.2.2]

theorem Holds.isEmpty_iff {window : List (Entry Key Value)} (holds : c.Holds window) :
    c.prefetchKeys = [] ↔ window = [] := by
  simp [holds.1]

theorem Holds.length {window : List (Entry Key Value)} (holds : c.Holds window) :
    c.prefetchKeys.length = window.length := by
  simp [holds.1]

theorem Holds.popPrefetch {entry : Entry Key Value} {window : List (Entry Key Value)}
    (holds : c.Holds (entry :: window)) : c.popPrefetch.Holds window := by
  simp only [Holds, WebIDBCursorImpl.popPrefetch, holds.1, holds.2.1, holds.2.2, List.map_cons,
    List.dropLast_reverse, List.tail_cons, and_self]

theorem cachedContinue_of_holds {entry : Entry Key Value} {window : List (Entry Key Value)}
    (holds : c.Holds (entry :: window)) :
    cachedContinue limits c =
      let drained := dropStaleBatch limits
        { c.popPrefetch with pendingOnsuccessCallbacks := c.pendingOnsuccessCallbacks + 1 }
      some (drained.1,
        drained.2 ++ [.callback (.successCursorContinue entry.key entry.primaryKey entry.value)]) := by
  simp [cachedContinue, holds.sizesAgree, holds.1, holds.2.1, holds.2.2]

theorem iterate_popPrefetch (count : Nat) :
    WebIDBCursorImpl.popPrefetch^[count] c =
      { c with prefetchKeys := List.dropLast^[count] c.prefetchKeys,
               prefetchPrimaryKeys := List.dropLast^[count] c.prefetchPrimaryKeys,
               prefetchValues := List.dropLast^[count] c.prefetchValues,
               usedPrefetches := c.usedPrefetches + count } := by
  induction count generalizing c with
  | zero => rfl
  | succ count ih =>
      rw [Function.iterate_succ_apply, ih, Function.iterate_succ_apply, Function.iterate_succ_apply,
        Function.iterate_succ_apply]
      simp only [WebIDBCursorImpl.popPrefetch, Nat.add_assoc, Nat.add_comm 1 count]

theorem iterate_dropLast_reverse {α : Type} (count : Nat) (items : List α) :
    List.dropLast^[count] items.reverse = (items.drop count).reverse := by
  induction count with
  | zero => rfl
  | succ count ih =>
      rw [Function.iterate_succ_apply', ih, List.dropLast_reverse, List.tail_drop]

theorem skipPrefetches_eq_iterate (count : Nat) :
    skipPrefetches (count + 1) c = WebIDBCursorImpl.popPrefetch^[count] c := by
  induction count generalizing c with
  | zero => rfl
  | succ count ih => exact ih c.popPrefetch

theorem Holds.iterate_popPrefetch {window : List (Entry Key Value)} (holds : c.Holds window)
    (count : Nat) : (WebIDBCursorImpl.popPrefetch^[count] c).Holds (window.drop count) := by
  simp only [WebIDBCursorImpl.iterate_popPrefetch, Holds, holds.1, holds.2.1, holds.2.2,
    iterate_dropLast_reverse, List.map_drop, and_self]

theorem cachedAdvance_of_holds {window : List (Entry Key Value)} (holds : c.Holds window)
    (count : Nat) (fits : count < window.length) :
    cachedAdvance limits (count + 1) c =
      cachedContinue limits (WebIDBCursorImpl.popPrefetch^[count] c) := by
  simp [cachedAdvance, holds.length, holds.sizesAgree, Nat.succ_le_of_lt fits, skipPrefetches_eq_iterate]

theorem setPrefetchData_holds (batch : List (Entry Key Value)) (emptyCache : c.Holds []) :
    (setPrefetchData (batch.map Entry.key) (batch.map Entry.primaryKey) (batch.map Entry.value)
      c).Holds batch := by
  simp [Holds, setPrefetchData, emptyCache.1, emptyCache.2.1, emptyCache.2.2]

def served (count : Nat) : WebIDBCursorImpl Key Value :=
  { WebIDBCursorImpl.popPrefetch^[count] c with
    pendingOnsuccessCallbacks := c.pendingOnsuccessCallbacks + 1 }

@[simp] theorem served_continueCount (count : Nat) :
    (c.served count).continueCount = c.continueCount := by
  simp [served, WebIDBCursorImpl.iterate_popPrefetch]

@[simp] theorem served_usedPrefetches (count : Nat) :
    (c.served count).usedPrefetches = c.usedPrefetches + count := by
  simp [served, WebIDBCursorImpl.iterate_popPrefetch]

@[simp] theorem served_prefetchAmount (count : Nat) :
    (c.served count).prefetchAmount = c.prefetchAmount := by
  simp [served, WebIDBCursorImpl.iterate_popPrefetch]

@[simp] theorem served_pendingOnsuccessCallbacks (count : Nat) :
    (c.served count).pendingOnsuccessCallbacks = c.pendingOnsuccessCallbacks + 1 := rfl

@[simp] theorem served_transactionId (count : Nat) :
    (c.served count).transactionId = c.transactionId := by
  simp [served, WebIDBCursorImpl.iterate_popPrefetch]

theorem Holds.served {window : List (Entry Key Value)} (holds : c.Holds window) (count : Nat) :
    (c.served count).Holds (window.drop count) :=
  Holds.iterate_popPrefetch c holds count

end WebIDBCursorImpl

inductive CachedCall
  | cachedContinue
  | cachedAdvance (count : Nat)

namespace CachedCall

def count : CachedCall → Nat
  | cachedContinue => 1
  | cachedAdvance count => count

def serve {Key Value : Type} (limits : PrefetchLimits) :
    CachedCall → WebIDBCursorImpl Key Value →
      Option (WebIDBCursorImpl Key Value × List (Effect Key Value))
  | cachedContinue, c => c.cachedContinue limits
  | cachedAdvance count, c => c.cachedAdvance limits count

variable {Key Value : Type} (limits : PrefetchLimits)

theorem serve_of_holds (call : CachedCall) {c : WebIDBCursorImpl Key Value}
    {window later : List (Entry Key Value)} {entry : Entry Key Value} (holds : c.Holds window)
    (live : c.continueCount ≠ 0) (takes : 1 ≤ call.count)
    (next : window.drop (call.count - 1) = entry :: later) :
    call.serve limits c =
      some (c.served call.count,
        [.callback (.successCursorContinue entry.key entry.primaryKey entry.value)]) := by
  obtain ⟨skipped, counted⟩ : ∃ skipped, call.count = skipped + 1 := ⟨call.count - 1, by omega⟩
  rw [counted, Nat.add_sub_cancel] at next
  rw [counted]
  have holdsLater := WebIDBCursorImpl.Holds.iterate_popPrefetch c holds skipped
  rw [next] at holdsLater
  have served : call.serve limits c =
      WebIDBCursorImpl.cachedContinue limits (WebIDBCursorImpl.popPrefetch^[skipped] c) := by
    cases call with
    | cachedContinue =>
        cases (show skipped = 0 by simp [CachedCall.count] at counted; omega)
        rfl
    | cachedAdvance count =>
        simp only [CachedCall.count] at counted
        subst counted
        have fits : skipped < window.length := by
          have := congrArg List.length next
          simp only [List.length_drop, List.length_cons] at this
          omega
        exact WebIDBCursorImpl.cachedAdvance_of_holds limits c holds skipped fits
  rw [served, WebIDBCursorImpl.cachedContinue_of_holds limits _ holdsLater,
    WebIDBCursorImpl.dropStaleBatch_of_ne_zero]
  · simp only [WebIDBCursorImpl.served, Function.iterate_succ_apply',
      WebIDBCursorImpl.iterate_popPrefetch, WebIDBCursorImpl.popPrefetch, List.nil_append]
  · simpa [WebIDBCursorImpl.iterate_popPrefetch, WebIDBCursorImpl.popPrefetch] using live

end CachedCall

def Effect.delivered? {Key Value : Type} : Effect Key Value → Option (Entry Key Value)
  | .callback (.successCursorContinue key primaryKey value) => some ⟨key, primaryKey, value⟩
  | _ => none

def deliveredEntries {Key Value : Type} (effects : List (Effect Key Value)) :
    List (Entry Key Value) :=
  effects.filterMap Effect.delivered?

def serveCalls {Key Value : Type} (limits : PrefetchLimits) (c : WebIDBCursorImpl Key Value) :
    List CachedCall → Option (WebIDBCursorImpl Key Value × List (Entry Key Value))
  | [] => some (c, [])
  | call :: rest =>
      match call.serve limits c with
      | none => none
      | some (next, effects) =>
          match serveCalls limits next rest with
          | none => none
          | some (last, entries) => some (last, deliveredEntries effects ++ entries)

/-- The abstract cache: a queue over the batch. A call taking `count` entries skips
`count - 1` of them and delivers the next. -/
def serveWindow {Key Value : Type} :
    List (Entry Key Value) → List CachedCall → List (Entry Key Value)
  | _, [] => []
  | window, call :: rest =>
      match window.drop (call.count - 1) with
      | [] => []
      | entry :: later => entry :: serveWindow later rest

def CallsFit : Nat → List CachedCall → Prop
  | _, [] => True
  | remaining, call :: rest =>
      1 ≤ call.count ∧ call.count ≤ remaining ∧ CallsFit (remaining - call.count) rest

def callsTotal : List CachedCall → Nat
  | [] => 0
  | call :: calls => call.count + callsTotal calls

theorem deliveredEntries_resetPrefetchCache {Key Value : Type} (limits : PrefetchLimits)
    (c : WebIDBCursorImpl Key Value) :
    deliveredEntries (c.resetPrefetchCache limits).2 = [] := by
  unfold WebIDBCursorImpl.resetPrefetchCache; dsimp only; split <;> rfl

theorem callsTotal_cons (call : CachedCall) (rest : List CachedCall) :
    callsTotal (call :: rest) = call.count + callsTotal rest := rfl

theorem serveCalls_of_holds {Key Value : Type} (limits : PrefetchLimits)
    {c : WebIDBCursorImpl Key Value} {window : List (Entry Key Value)} (holds : c.Holds window)
    (live : c.continueCount ≠ 0) (calls : List CachedCall) (fit : CallsFit window.length calls) :
    ∃ last, serveCalls limits c calls = some (last, serveWindow window calls) ∧
      last.Holds (window.drop (callsTotal calls)) ∧
      last.usedPrefetches = c.usedPrefetches + callsTotal calls ∧
      last.continueCount = c.continueCount := by
  induction calls generalizing c window with
  | nil => exact ⟨c, rfl, by simpa [callsTotal] using holds, by simp [callsTotal], rfl⟩
  | cons call rest ih =>
      obtain ⟨takes, fits, fitRest⟩ := fit
      obtain ⟨entry, later, next⟩ := exists_drop_eq_cons (show call.count - 1 < window.length by omega)
      have rest_eq : window.drop call.count = later := by
        rw [show call.count = call.count - 1 + 1 by omega, ← List.tail_drop, next, List.tail_cons]
      have holdsServed := WebIDBCursorImpl.Holds.served c holds call.count
      rw [rest_eq] at holdsServed
      have fitLater : CallsFit later.length rest := by
        rw [← rest_eq, List.length_drop]
        exact fitRest
      obtain ⟨last, ran, lastHolds, lastUsed, lastCount⟩ :=
        ih holdsServed (by simpa using live) fitLater
      refine ⟨last, ?_, ?_, ?_, ?_⟩
      · simp [serveCalls, CachedCall.serve_of_holds limits call holds live takes next, ran,
          serveWindow, next, deliveredEntries, Effect.delivered?]
      · rw [callsTotal_cons, ← List.drop_drop, rest_eq]
        exact lastHolds
      · simp [lastUsed, callsTotal_cons, Nat.add_assoc]
      · simp [lastCount]

/-- Stored into an empty cache, a batch `[e₁, …, eₖ]` is served in order by the
`CachedContinue` that follows and by the cache-served calls after it, up to the next reset:
each call skips `count - 1` entries and delivers the next, and the three vectors, read from
back to front, hold the entries after the first `used_prefetches_`. -/
theorem setPrefetchData_serves_in_order {Key Value : Type} (limits : PrefetchLimits)
    (batch : List (Entry Key Value)) (c : WebIDBCursorImpl Key Value) (emptyCache : c.Holds [])
    (calls : List CachedCall) (fit : CallsFit batch.length (.cachedContinue :: calls))
    (beforeReset : calls = [] ∨ c.continueCount ≠ 0) :
    let stored := c.setPrefetchData (batch.map Entry.key) (batch.map Entry.primaryKey)
      (batch.map Entry.value)
    stored.Holds (batch.drop stored.usedPrefetches) ∧
      ∃ last, serveCalls limits stored (.cachedContinue :: calls) =
          some (last, serveWindow batch (.cachedContinue :: calls)) ∧
        (c.continueCount ≠ 0 →
          last.Holds (batch.drop last.usedPrefetches) ∧
            last.usedPrefetches = callsTotal (.cachedContinue :: calls)) := by
  intro stored
  have holds : stored.Holds batch := c.setPrefetchData_holds batch emptyCache
  have unused : stored.usedPrefetches = 0 := rfl
  refine ⟨by rw [unused]; exact holds, ?_⟩
  by_cases live : c.continueCount = 0
  · obtain rfl : calls = [] := beforeReset.resolve_right (not_not.mpr live)
    obtain ⟨entry, later, rfl⟩ : ∃ entry later, batch = entry :: later := by
      cases batch with
      | nil => simp [CallsFit, CachedCall.count] at fit
      | cons entry later => exact ⟨entry, later, rfl⟩
    let drainedFrom := { stored.popPrefetch with
      pendingOnsuccessCallbacks := stored.pendingOnsuccessCallbacks + 1 }
    have drained : WebIDBCursorImpl.dropStaleBatch limits drainedFrom =
        WebIDBCursorImpl.resetPrefetchCache limits drainedFrom :=
      WebIDBCursorImpl.dropStaleBatch_of_eq_zero limits _ live
    refine ⟨(WebIDBCursorImpl.resetPrefetchCache limits drainedFrom).1, ?_,
      fun stale => absurd live stale⟩
    rw [serveCalls, CachedCall.serve, WebIDBCursorImpl.cachedContinue_of_holds limits _ holds]
    simp only [drained, serveCalls, deliveredEntries, List.filterMap_append, List.append_nil]
    rw [← deliveredEntries, deliveredEntries_resetPrefetchCache]
    rfl
  · obtain ⟨last, ran, lastHolds, lastUsed, -⟩ :=
      serveCalls_of_holds limits holds live (.cachedContinue :: calls) fit
    refine ⟨last, ran, fun _ => ⟨?_, by rw [lastUsed, unused, Nat.zero_add]⟩⟩
    rw [lastUsed, unused, Nat.zero_add]
    exact lastHolds

/-- Two entries stored into a fresh cursor that has seen three keyless continues: the
following `CachedContinue` and `CachedAdvance(1)` deliver them in order. -/
theorem setPrefetchData_serves_two :
    let c : WebIDBCursorImpl Nat Nat :=
      { WebIDBCursorImpl.create exampleLimits 0 with continueCount := 3 }
    let batch : List (Entry Nat Nat) := [⟨1, 10, 100⟩, ⟨2, 20, 200⟩]
    c.Holds [] ∧ CallsFit batch.length [.cachedContinue, .cachedAdvance 1] ∧
      ([CachedCall.cachedAdvance 1] = [] ∨ c.continueCount ≠ 0) ∧
      ∃ last, serveCalls exampleLimits
          (c.setPrefetchData (batch.map Entry.key) (batch.map Entry.primaryKey)
            (batch.map Entry.value)) [.cachedContinue, .cachedAdvance 1] =
        some (last, batch) := by
  intro c batch
  have emptyCache : c.Holds [] := ⟨rfl, rfl, rfl⟩
  have fit : CallsFit batch.length [.cachedContinue, .cachedAdvance 1] := by
    simp [CallsFit, CachedCall.count, batch]
  have live : [CachedCall.cachedAdvance 1] = [] ∨ c.continueCount ≠ 0 := .inr (by decide)
  exact ⟨emptyCache, fit, live,
    (setPrefetchData_serves_in_order exampleLimits batch c emptyCache [.cachedAdvance 1] fit live).2.imp
      fun _ served => served.1⟩

end BlinkIndexedDB
