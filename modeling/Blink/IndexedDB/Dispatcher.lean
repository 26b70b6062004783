import Blink.IndexedDB.PrefetchProtocol

/-!
Several cursors registered with `IndexedDBDispatcher`. Before a cursor sends a plain `Advance` or
`CursorContinue`, the dispatcher resets the cache of every other cursor of its transaction.
-/

namespace BlinkIndexedDB

variable {Key Value : Type} (limits : PrefetchLimits)

/-- Modelled from the spec: `IndexedDBDispatcher`, which is not among the sources, keeps the
live cursors. A cursor's slot is its identity; a destroyed cursor leaves its slot empty. -/
structure Dispatcher (Key Value : Type) where
  cursors : List (Option (Session Key Value))

inductive DispatcherEvent (Key Value : Type)
  | create (transactionId : Int)
  | destroy (cursor : Nat)
  | deliver (cursor : Nat) (event : Event Key Value)

def Effect.broadcasts : Effect Key Value → Bool
  | .resetCursorPrefetchCaches => true
  | _ => false

def Request.isPlain {Key : Type} : Request Key → Bool
  | .advance _ => true
  | .cursorContinue _ _ => true
  | _ => false

/-- Modelled from the spec: `IndexedDBDispatcher::ResetCursorPrefetchCaches(transaction_id,
except)` calls `ResetPrefetchCache` on every registered cursor of the transaction but `except`.
Each slot comes back with what its cursor sent. -/
def resetCursorPrefetchCaches (transactionId : Int) (except : Nat)
    (cursors : List (Option (Session Key Value))) :
    List (Option (Session Key Value) × List (Effect Key Value)) :=
  cursors.mapIdx fun index slot =>
    match slot with
    | some s =>
        if index ≠ except ∧ s.cursor.transactionId = transactionId then
          (some ⟨(s.cursor.resetPrefetchCache limits).1, s.outstanding⟩,
            (s.cursor.resetPrefetchCache limits).2)
        else (some s, [])
    | none => (none, [])

namespace Dispatcher

def step (w : Dispatcher Key Value) :
    DispatcherEvent Key Value → Except Halt (Dispatcher Key Value × List (List (Effect Key Value)))
  | .create transactionId =>
      .ok (⟨w.cursors ++ [some (Session.init limits transactionId)]⟩,
        (w.cursors ++ [none]).map fun _ => [])
  | .destroy index => .ok (⟨w.cursors.set index none⟩, w.cursors.map fun _ => [])
  | .deliver index event =>
      match w.cursors[index]? with
      | some (some s) =>
          match s.step limits event with
          | .error halt => .error halt
          | .ok (next, effects) =>
              let cursors := w.cursors.set index (some next)
              if effects.any Effect.broadcasts then
                let reset := resetCursorPrefetchCaches limits s.cursor.transactionId index cursors
                .ok (⟨reset.map Prod.fst⟩, (reset.map Prod.snd).set index effects)
              else .ok (⟨cursors⟩, (cursors.map fun _ => []).set index effects)
      | _ => .error .protocol

inductive Reachable : Dispatcher Key Value → Prop
  | empty : Reachable ⟨[]⟩
  | step {w next : Dispatcher Key Value} {event : DispatcherEvent Key Value}
      {effects : List (List (Effect Key Value))} :
      Reachable w → w.step limits event = .ok (next, effects) → Reachable next

def run (w : Dispatcher Key Value) : List (DispatcherEvent Key Value) → Except Halt (Dispatcher Key Value)
  | [] => .ok w
  | event :: rest =>
      match w.step limits event with
      | .error halt => .error halt
      | .ok (next, _) => next.run rest

theorem Reachable.run {w last : Dispatcher Key Value} {events : List (DispatcherEvent Key Value)}
    (reachable : w.Reachable limits) (ran : w.run limits events = .ok last) :
    last.Reachable limits := by
  induction events generalizing w with
  | nil => cases ran; exact reachable
  | cons event rest ih =>
      simp only [Dispatcher.run] at ran
      split at ran
      · cases ran
      · exact ih (reachable.step ‹_›) ran

end Dispatcher

theorem Session.step_resetPrefetchCache (s : Session Key Value) :
    s.step limits .resetPrefetchCache =
      .ok (⟨(s.cursor.resetPrefetchCache limits).1, s.outstanding⟩,
        (s.cursor.resetPrefetchCache limits).2) := by
  simp [Session.step, Session.apply, WebIDBCursorImpl.awaiting_resetPrefetchCache]

theorem resetCursorPrefetchCaches_getElem? (transactionId : Int) (except index : Nat)
    (cursors : List (Option (Session Key Value))) :
    (resetCursorPrefetchCaches limits transactionId except cursors)[index]? =
      cursors[index]?.map fun slot =>
        match slot with
        | some s =>
            if index ≠ except ∧ s.cursor.transactionId = transactionId then
              (some ⟨(s.cursor.resetPrefetchCache limits).1, s.outstanding⟩,
                (s.cursor.resetPrefetchCache limits).2)
            else (some s, [])
        | none => (none, []) := by
  simp [resetCursorPrefetchCaches, List.getElem?_mapIdx]

@[simp]
theorem resetCursorPrefetchCaches_length (transactionId : Int) (except : Nat)
    (cursors : List (Option (Session Key Value))) :
    (resetCursorPrefetchCaches limits transactionId except cursors).length = cursors.length := by
  simp [resetCursorPrefetchCaches]

theorem Dispatcher.Reachable.live {w : Dispatcher Key Value} (reachable : w.Reachable limits)
    {index : Nat} {s : Session Key Value} (live : w.cursors[index]? = some (some s)) :
    Session.Reachable limits s := by
  induction reachable generalizing index s with
  | empty => simp at live
  | @step w next event effects _ stepped ih =>
      cases event with
      | create transactionId =>
          cases stepped
          by_cases inside : index < w.cursors.length
          · rw [List.getElem?_append_left inside] at live
            exact ih live
          · rw [List.getElem?_append_right (Nat.le_of_not_lt inside)] at live
            cases past : index - w.cursors.length with
            | zero =>
                simp only [past, List.getElem?_cons_zero, Option.some.injEq] at live
                subst live
                exact .init transactionId
            | succ later => simp [past] at live
      | destroy gone =>
          cases stepped
          rw [List.getElem?_set] at live
          split at live
          · simp at live
          · exact ih live
      | deliver caller event =>
          simp only [Dispatcher.step] at stepped
          split at stepped
          · rename_i t found
            split at stepped
            · cases stepped
            · rename_i next' effects' sessionStepped
              have callerReached := (ih found).step sessionStepped
              have updated : ∀ {j : Nat} {u : Session Key Value},
                  (w.cursors.set caller (some next'))[j]? = some (some u) →
                    Session.Reachable limits u := by
                intro j u found'
                rw [List.getElem?_set] at found'
                split at found'
                · split at found'
                  · cases found'
                    exact callerReached
                  · cases found'
                · exact ih found'
              split at stepped
              · cases stepped
                simp only [List.getElem?_map, resetCursorPrefetchCaches_getElem?] at live
                cases slot : (w.cursors.set caller (some next'))[index]? with
                | none => simp [slot] at live
                | some slot' =>
                    cases slot' with
                    | none => simp [slot] at live
                    | some u =>
                        simp only [slot, Option.map_some'] at live
                        split at live
                        · cases live
                          exact (updated slot).step (Session.step_resetPrefetchCache limits u)
                        · cases live
                          exact updated slot
              · cases stepped
                exact updated live
          · cases stepped

theorem resetPrefetchCache_sends_reset (c : WebIDBCursorImpl Key Value) {request : Request Key}
    (sent : .send request ∈ (c.resetPrefetchCache limits).2) : request.isPlain = false := by
  rw [WebIDBCursorImpl.resetPrefetchCache_effects] at sent
  split at sent <;> simp at sent
  subst sent
  rfl

theorem prefetchResets_resetPrefetchCache (c : WebIDBCursorImpl Key Value) :
    ((c.resetPrefetchCache limits).2.filterMap Effect.prefetchReset?).length =
      if c.prefetchKeys.isEmpty then 0 else 1 := by
  rw [WebIDBCursorImpl.resetPrefetchCache_effects]
  split <;> rfl

theorem Session.Moves.plainSent {s next : Session Key Value} {event : Event Key Value}
    {effects : List (Effect Key Value)} (inv : Session.CacheInvariant limits s)
    (moves : Session.Moves limits s event next effects) {request : Request Key}
    (sent : .send request ∈ effects) (plain : request.isPlain = true) :
    next.cursor.Holds [] ∧ effects.any Effect.broadcasts = true := by
  have fromReset : ∀ c : WebIDBCursorImpl Key Value, .send request ∉ (c.resetPrefetchCache limits).2 :=
    fun c inReset => absurd (resetPrefetchCache_sends_reset limits c inReset) (by simp [plain])
  cases moves with
  | keylessPlain holds => exact ⟨holds, rfl⟩
  | keyed | advanceUncached =>
      exact ⟨WebIDBCursorImpl.resetPrefetchCache_clears limits _ inv.sizesAgree,
        by simp [Effect.broadcasts]⟩
  | keylessPrefetch =>
      simp only [List.mem_singleton, Effect.send.injEq] at sent
      subst sent
      simp [Request.isPlain] at plain
  | replyBatch =>
      rcases List.mem_cons.mp sent with first | rest
      · cases first
      · rcases List.mem_append.mp rest with dropped | delivered
        · unfold WebIDBCursorImpl.dropStaleBatch at dropped
          split at dropped
          · exact absurd dropped (fromReset _)
          · cases dropped
        · simp at delivered
  | postLast | reset => exact absurd sent (fromReset _)
  | _ => simp at sent

/-- When a cursor sends a plain `Advance` or `CursorContinue`, its own cache is empty; every
other live cursor of its transaction has had its cache cleared and its continue count and
prefetch amount restored, and has sent one `PrefetchReset` exactly when it held entries; every
other slot is untouched. -/
theorem plainRequest_resets_siblings {w next : Dispatcher Key Value}
    (reachable : w.Reachable limits) {index : Nat} {s : Session Key Value}
    (live : w.cursors[index]? = some (some s)) {event : Event Key Value}
    {effects : List (List (Effect Key Value))}
    (stepped : w.step limits (.deliver index event) = .ok (next, effects))
    {request : Request Key} (sent : .send request ∈ effects[index]?.getD [])
    (plain : request.isPlain = true) :
    (∃ moved, next.cursors[index]? = some (some moved) ∧ moved.cursor.Holds []) ∧
    (∀ sibling t, sibling ≠ index → w.cursors[sibling]? = some (some t) →
      t.cursor.transactionId = s.cursor.transactionId →
      ∃ reset, next.cursors[sibling]? = some (some reset) ∧ reset.cursor.Holds [] ∧
        reset.cursor.continueCount = 0 ∧ reset.cursor.prefetchAmount = limits.kMinPrefetchAmount ∧
        ((effects[sibling]?.getD []).filterMap Effect.prefetchReset?).length =
          if t.cursor.prefetchKeys.isEmpty then 0 else 1) ∧
    (∀ other, other ≠ index →
      (∀ t, w.cursors[other]? = some (some t) → t.cursor.transactionId ≠ s.cursor.transactionId) →
      next.cursors[other]? = w.cursors[other]? ∧ effects[other]?.getD [] = []) := by
  have inside : index < w.cursors.length := (List.getElem?_eq_some_iff.mp live).1
  simp only [Dispatcher.step, live] at stepped
  split at stepped
  · cases stepped
  rename_i moved sent' sessionStepped
  have inv := Session.Reachable.cacheInvariant limits (reachable.live limits live)
  have own : effects[index]?.getD [] = sent' := by
    split at stepped <;> cases stepped <;> simp [List.getElem?_set, inside]
  rw [own] at sent
  obtain ⟨cleared, broadcast⟩ := (inv.moves limits sessionStepped).plainSent limits inv sent plain
  rw [if_pos broadcast] at stepped
  cases stepped
  refine ⟨⟨moved, ?_, cleared⟩, fun sibling t apart found sameTransaction => ?_,
    fun other apart otherTransaction => ?_⟩
  · simp only [List.getElem?_map, resetCursorPrefetchCaches_getElem?, List.getElem?_set_self inside]
    simp
  · have agree := (Session.Reachable.cacheInvariant limits (reachable.live limits found)).sizesAgree
    refine ⟨⟨(t.cursor.resetPrefetchCache limits).1, t.outstanding⟩, ?_,
      WebIDBCursorImpl.resetPrefetchCache_clears limits _ agree, by simp, by simp, ?_⟩
    · simp [resetCursorPrefetchCaches_getElem?, List.getElem?_set_ne (Ne.symm apart), found, apart,
        sameTransaction]
    · simp [resetCursorPrefetchCaches_getElem?, List.getElem?_set_ne (Ne.symm apart), found, apart,
        sameTransaction, prefetchResets_resetPrefetchCache]
  · simp only [List.getElem?_map, List.getElem?_set_ne (Ne.symm apart),
      resetCursorPrefetchCaches_getElem?]
    cases found : w.cursors[other]? with
    | none => simp
    | some slot =>
        cases slot with
        | none => simp
        | some t => simp [otherTransaction t found]

/-- Two cursors of transaction 1 and one of transaction 2, the second holding what is left of a
batch of three: an `Advance` on the first clears the second, which sends one `PrefetchReset`,
and leaves the third alone. -/
theorem advance_resets_sibling :
    let prefetched : List (DispatcherEvent Nat Nat) := [.create 1, .create 1, .create 2,
      .deliver 1 (.cursorContinue none none), .deliver 1 (.reply (.empty true)),
      .deliver 1 (.cursorContinue none none), .deliver 1 (.reply (.empty true)),
      .deliver 1 (.cursorContinue none none),
      .deliver 1 (.reply (.values [1, 2, 3] [1, 2, 3] [10, 20, 30]))]
    ∃ w next effects, (⟨[]⟩ : Dispatcher Nat Nat).run exampleLimits prefetched = .ok w ∧
      (∃ t, w.cursors[1]? = some (some t) ∧ t.cursor.prefetchKeys = [3, 2]) ∧
      w.step exampleLimits (.deliver 0 (.advance 1)) = .ok (next, effects) ∧
      (∃ moved, next.cursors[0]? = some (some moved) ∧ moved.cursor.Holds []) ∧
      (∀ sibling t, sibling ≠ 0 → w.cursors[sibling]? = some (some t) →
        t.cursor.transactionId = 1 →
        ∃ reset, next.cursors[sibling]? = some (some reset) ∧ reset.cursor.Holds [] ∧
          reset.cursor.continueCount = 0 ∧
          reset.cursor.prefetchAmount = exampleLimits.kMinPrefetchAmount ∧
          ((effects[sibling]?.getD []).filterMap Effect.prefetchReset?).length =
            if t.cursor.prefetchKeys.isEmpty then 0 else 1) ∧
      (∀ other, other ≠ 0 →
        (∀ t, w.cursors[other]? = some (some t) → t.cursor.transactionId ≠ 1) →
        next.cursors[other]? = w.cursors[other]? ∧ effects[other]?.getD [] = []) := by
  intro prefetched
  have ran : (⟨[]⟩ : Dispatcher Nat Nat).run exampleLimits prefetched = .ok ⟨[
      some ⟨⟨1, 0, 0, 0, 5, [], [], []⟩, none⟩,
      some ⟨⟨1, 3, 1, 1, 10, [3, 2], [3, 2], [30, 20]⟩, none⟩,
      some ⟨⟨2, 0, 0, 0, 5, [], [], []⟩, none⟩]⟩ := rfl
  exact ⟨_, _, _, ran, ⟨_, rfl, rfl⟩, rfl,
    @plainRequest_resets_siblings _ _ exampleLimits _ _ (Dispatcher.Reachable.empty.run exampleLimits ran)
      0 _ rfl (.advance 1) _ rfl (.advance 1) (by decide) rfl⟩

end BlinkIndexedDB
