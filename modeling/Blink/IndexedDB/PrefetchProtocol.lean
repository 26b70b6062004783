import Mathlib.Algebra.Group.Nat.Basic
import Blink.IndexedDB.Session

/-!
The requests a cursor sends over whole runs: the prefetch schedule, counted from the most recent
step that runs `ResetPrefetchCache`, and the `PrefetchReset` protocol.
-/

namespace BlinkIndexedDB

variable {Key Value : Type} (limits : PrefetchLimits)

/-! ### The prefetch schedule -/

def scheduledAmount (prefetches : Nat) : Nat :=
  min (limits.kMinPrefetchAmount * 2 ^ prefetches) limits.kMaxPrefetchAmount

theorem scheduledAmount_zero : scheduledAmount limits 0 = limits.kMinPrefetchAmount := by
  simp [scheduledAmount, limits.minLeMax]

theorem doubledAmount_scheduledAmount (prefetches : Nat) :
    WebIDBCursorImpl.doubledAmount limits (scheduledAmount limits prefetches) =
      scheduledAmount limits (prefetches + 1) := by
  unfold WebIDBCursorImpl.doubledAmount scheduledAmount
  rw [Nat.pow_succ, ← Nat.mul_assoc]
  split <;> omega

/-- Whether `event`, arriving at `s`, runs `ResetPrefetchCache`: a keyed continue; an advance
past the cache, or one whose `CachedContinue` finds `continue_count_` zero; the
`PostSuccessHandlerCallback` that brings the pending successes to zero; a batch that
`PrefetchCallback` accepts while `continue_count_` is zero; and the registry's reset. -/
def Session.runsReset (s : Session Key Value) : Event Key Value → Bool
  | .cursorContinue none none => false
  | .cursorContinue _ _ => true
  | .advance count => decide (s.cursor.prefetchKeys.length < count) || s.cursor.continueCount == 0
  | .reply result =>
      match s.outstanding, prefetchCallback result with
      | some .prefetchCallback, .successCursorPrefetch _ _ _ => s.cursor.continueCount == 0
      | _, _ => false
  | .postSuccessHandlerCallback => s.cursor.pendingOnsuccessCallbacks - 1 == 0
  | .resetPrefetchCache => true

structure ScheduleCount where
  keyless : Nat
  prefetches : Nat
  deriving DecidableEq, Repr

def Event.isKeyless : Event Key Value → Bool
  | .cursorContinue none none => true
  | _ => false

def Effect.isPrefetch : Effect Key Value → Bool
  | .send (.prefetch _) => true
  | _ => false

def ScheduleCount.afterStep (n : ScheduleCount) (s : Session Key Value) (event : Event Key Value)
    (effects : List (Effect Key Value)) : ScheduleCount :=
  if s.runsReset event then ⟨0, 0⟩
  else ⟨n.keyless + if event.isKeyless then 1 else 0,
    n.prefetches + effects.countP Effect.isPrefetch⟩

def sinceReset (s : Session Key Value) (events : List (Event Key Value)) : ScheduleCount :=
  s.foldSteps limits ScheduleCount.afterStep ⟨0, 0⟩ events

def ScheduleKept (s : Session Key Value) (n : ScheduleCount) : Prop :=
  s.cursor.continueCount = n.keyless ∧ s.cursor.prefetchAmount = scheduledAmount limits n.prefetches

theorem scheduleKept_reset {s : Session Key Value} {event : Event Key Value}
    (resets : s.runsReset event = true) (c : WebIDBCursorImpl Key Value)
    (outstanding : Option Awaiting) (n : ScheduleCount) (effects : List (Effect Key Value)) :
    ScheduleKept limits ⟨(c.resetPrefetchCache limits).1, outstanding⟩
      (n.afterStep s event effects) := by
  simp [ScheduleKept, ScheduleCount.afterStep, resets, scheduledAmount_zero]

theorem afterStep_of_quiet {s : Session Key Value} {event : Event Key Value}
    (quiet : s.runsReset event = false) (n : ScheduleCount) (effects : List (Effect Key Value)) :
    n.afterStep s event effects = ⟨n.keyless + if event.isKeyless then 1 else 0,
      n.prefetches + effects.countP Effect.isPrefetch⟩ := by
  simp [ScheduleCount.afterStep, quiet]

theorem Session.Moves.scheduleKept {s next : Session Key Value} {event : Event Key Value}
    {effects : List (Effect Key Value)} {n : ScheduleCount} (inv : Session.CacheInvariant limits s)
    (kept : ScheduleKept limits s n) (moves : Session.Moves limits s event next effects) :
    ScheduleKept limits next (n.afterStep s event effects) := by
  obtain ⟨counted, scheduled⟩ := kept
  cases moves with
  | keylessCached | keylessPrefetch | keylessPlain =>
      rw [afterStep_of_quiet (by rfl)]
      simp [ScheduleKept, Event.isKeyless, Effect.isPrefetch, counted, scheduled,
        doubledAmount_scheduledAmount]
  | keyed keyed =>
      refine scheduleKept_reset limits ?_ _ _ n _
      rcases keyed with keyed | keyed <;> simp [Session.runsReset, keyed]
  | @advanceCached count window later entry holds next =>
      have nonempty : s.cursor.prefetchKeys ≠ [] := by
        rw [Ne, holds.isEmpty_iff]; rintro rfl; simp at next
      have fits : (count : Nat) ≤ s.cursor.prefetchKeys.length := by
        have := congrArg List.length next
        simp only [List.length_drop, List.length_cons] at this
        rw [holds.length]
        omega
      have live := inv.cachedLive nonempty
      rw [afterStep_of_quiet (by simp [Session.runsReset, fits]; omega)]
      simp [ScheduleKept, Event.isKeyless, Effect.isPrefetch, counted, scheduled]
  | advanceUncached exceeds =>
      exact scheduleKept_reset limits (by simp [Session.runsReset, exceeds]) _ _ n _
  | replyAdvance busy | replyContinue busy =>
      rw [afterStep_of_quiet (by simp [Session.runsReset, busy])]
      simp [ScheduleKept, Event.isKeyless, Effect.isPrefetch, counted, scheduled]
  | @replyNoBatch result busy notBatch =>
      have quiet : s.runsReset (.reply result) = false := by
        simp only [Session.runsReset, busy]
        split
        · exact absurd ‹_› (notBatch _ _ _)
        · rfl
      rw [afterStep_of_quiet quiet]
      simp [ScheduleKept, Event.isKeyless, Effect.isPrefetch, counted, scheduled]
  | @replyBatch entry later busy =>
      have accepted : prefetchCallback (.values ((entry :: later).map Entry.key)
          ((entry :: later).map Entry.primaryKey) ((entry :: later).map Entry.value)) =
          .successCursorPrefetch ((entry :: later).map Entry.key)
            ((entry :: later).map Entry.primaryKey) ((entry :: later).map Entry.value) := by
        simp [prefetchCallback]
      by_cases stale : s.cursor.continueCount = 0
      · rw [WebIDBCursorImpl.dropStaleBatch_of_eq_zero limits _ (by simpa using stale)]
        refine scheduleKept_reset limits ?_ _ _ n _
        simp only [Session.runsReset, busy, accepted, stale, beq_self_eq_true]
      · rw [WebIDBCursorImpl.dropStaleBatch_of_ne_zero limits _ (by simpa using stale),
          afterStep_of_quiet]
        · simp [ScheduleKept, Event.isKeyless, Effect.isPrefetch, WebIDBCursorImpl.setPrefetchData,
            counted, scheduled]
        · simp only [Session.runsReset, busy, accepted]
          simpa using stale
  | postLast last =>
      exact scheduleKept_reset limits (by simp [Session.runsReset, last]) _ _ n _
  | postMore more =>
      rw [afterStep_of_quiet (by simpa [Session.runsReset] using more)]
      simp [ScheduleKept, Event.isKeyless, counted, scheduled]
  | reset => exact scheduleKept_reset limits (by rfl) _ _ n _

/-- On an empty cache, a keyless continue sends `Prefetch` exactly when the keyless calls since
the most recent step that ran `ResetPrefetchCache`, this one included, pass the threshold, and
asks for the scheduled amount for the number of `Prefetch` requests since that step; otherwise
it sends a plain continue. -/
theorem keylessContinue_follows_schedule {transactionId : Int} {events : List (Event Key Value)}
    {s : Session Key Value} {trace : List (Event Key Value × List (Effect Key Value))}
    (ran : (Session.init limits transactionId).run limits events = .ok (s, trace))
    (empty : s.cursor.prefetchKeys = []) :
    let counts := sinceReset limits (Session.init limits transactionId) events
    ∃ next, s.cursor.cursorContinue limits none none = some (next,
      if limits.kPrefetchContinueThreshold < counts.keyless + 1 then
        [.send (.prefetch (scheduledAmount limits counts.prefetches))]
      else [.resetCursorPrefetchCaches, .send (.cursorContinue none none)]) := by
  have initial : ScheduleKept limits (Session.init limits transactionId : Session Key Value) ⟨0, 0⟩ :=
    ⟨rfl, (scheduledAmount_zero limits).symm⟩
  obtain ⟨counted, scheduled⟩ : ScheduleKept limits s
      (sinceReset limits (Session.init limits transactionId) events) :=
    Session.Reachable.run_foldSteps limits ScheduleCount.afterStep (ScheduleKept limits)
      (fun inv kept moves => moves.scheduleKept limits inv kept) (.init transactionId) initial ran
  intro counts
  split
  · rename_i past
    rw [← counted] at past
    rw [s.cursor.cursorContinue_prefetch limits empty past, ← scheduled]
    exact ⟨_, rfl⟩
  · rename_i within
    rw [← counted] at within
    rw [s.cursor.cursorContinue_plain limits empty (Nat.le_of_not_lt within)]
    exact ⟨_, rfl⟩

/-- Three keyless continues answered as ended, the third sending the first `Prefetch`: a fourth
asks for twice the minimum, but after a reset from the registry it is a plain continue. -/
theorem keyless_schedule_restarts_after_reset :
    let events : List (Event Nat Nat) := [.cursorContinue none none, .reply (.empty true),
      .cursorContinue none none, .reply (.empty true), .cursorContinue none none,
      .reply (.empty true)]
    (∃ s trace, (Session.init exampleLimits 0).run exampleLimits events = .ok (s, trace) ∧
      s.cursor.prefetchKeys = [] ∧
      ∃ next, s.cursor.cursorContinue exampleLimits none none =
        some (next, [.send (.prefetch 10)])) ∧
    ∃ s trace, (Session.init exampleLimits 0).run exampleLimits (events ++ [.resetPrefetchCache]) =
        .ok (s, trace) ∧ s.cursor.prefetchKeys = [] ∧
      ∃ next, s.cursor.cursorContinue exampleLimits none none =
        some (next, [.resetCursorPrefetchCaches, .send (.cursorContinue none none)]) := by
  intro events
  have ran : (Session.init exampleLimits 0).run exampleLimits events =
      .ok (⟨⟨0, 3, 0, 1, 10, [], [], []⟩, none⟩, _) := rfl
  have resetRan : (Session.init exampleLimits 0).run exampleLimits
      (events ++ [.resetPrefetchCache]) = .ok (⟨⟨0, 0, 0, 1, 5, [], [], []⟩, none⟩, _) := rfl
  exact ⟨⟨_, _, ran, rfl, keylessContinue_follows_schedule exampleLimits ran rfl⟩,
    _, _, resetRan, rfl, keylessContinue_follows_schedule exampleLimits resetRan rfl⟩

/-! ### `PrefetchReset` -/

structure OwedReset where
  batchSize : Nat
  consumed : Nat
  deriving DecidableEq, Repr

def Event.consumes : Event Key Value → Nat
  | .cursorContinue _ _ => 1
  | .advance count => count
  | _ => 0

def Effect.storedBatch? : Effect Key Value → Option Nat
  | .callback (.successCursorPrefetch keys _ _) => some keys.length
  | _ => none

def Effect.prefetchReset? : Effect Key Value → Option (Nat × Nat)
  | .send (.prefetchReset used unused) => some (used, unused)
  | _ => none

namespace OwedReset

/-- What a step stores and consumes. A stored batch counts the entry served with it, and the
entries of a step count before its resets, as `CachedContinue` counts `used_prefetches_`
before it calls `ResetPrefetchCache`. -/
def afterDeliveries (owed : Option OwedReset) (event : Event Key Value)
    (effects : List (Effect Key Value)) : Option OwedReset :=
  match effects.head?.bind Effect.storedBatch? with
  | some size => some ⟨size, 1⟩
  | none =>
      if (deliveredEntries effects).isEmpty then owed
      else owed.map fun o => ⟨o.batchSize, o.consumed + event.consumes⟩

/-- Checks a step's `PrefetchReset`s in order: each must be owed by a batch, name its consumed
entries as used, leave at least one on each side and add up to its size; it settles the batch. -/
def checkResets (owed : Option OwedReset) : List (Effect Key Value) → Option (Option OwedReset)
  | [] => some owed
  | effect :: rest =>
      match effect.prefetchReset?, owed with
      | none, _ => checkResets owed rest
      | some (used, unused), some o =>
          if used = o.consumed ∧ 1 ≤ used ∧ 1 ≤ unused ∧ used + unused = o.batchSize then
            checkResets none rest
          else none
      | some _, none => none

def checkStep (checked : Option (Option OwedReset))
    (step : Event Key Value × List (Effect Key Value)) : Option (Option OwedReset) :=
  checked.bind fun owed => checkResets (afterDeliveries owed step.1 step.2) step.2

theorem deliveredEntries_append (effects rest : List (Effect Key Value)) :
    deliveredEntries (effects ++ rest) = deliveredEntries effects ++ deliveredEntries rest :=
  List.filterMap_append _ _ _

theorem checkResets_of_quiet (owed : Option OwedReset) {effects : List (Effect Key Value)}
    (quiet : ∀ effect ∈ effects, effect.prefetchReset? = none) :
    checkResets owed effects = some owed := by
  induction effects with
  | nil => rfl
  | cons effect rest ih =>
      simp only [List.mem_cons, forall_eq_or_imp] at quiet
      simp only [checkResets, quiet.1]
      exact ih quiet.2

theorem checkResets_resetPrefetchCache {c : WebIDBCursorImpl Key Value} {owed : Option OwedReset}
    (owes : c.prefetchKeys ≠ [] → owed = some ⟨c.usedPrefetches + c.prefetchKeys.length,
      c.usedPrefetches⟩ ∧ 1 ≤ c.usedPrefetches)
    {rest : List (Effect Key Value)} (quiet : ∀ effect ∈ rest, effect.prefetchReset? = none) :
    ∃ settled, checkResets owed ((c.resetPrefetchCache limits).2 ++ rest) = some settled := by
  rw [WebIDBCursorImpl.resetPrefetchCache_effects]
  split
  · exact ⟨owed, checkResets_of_quiet owed (by simpa [Effect.prefetchReset?] using quiet)⟩
  · rename_i nonempty
    replace nonempty : c.prefetchKeys ≠ [] := by simpa using nonempty
    obtain ⟨rfl, used⟩ := owes nonempty
    have unused : 1 ≤ c.prefetchKeys.length := List.length_pos.mpr nonempty
    refine ⟨none, ?_⟩
    simp only [List.cons_append, List.singleton_append, checkResets, Effect.prefetchReset?, used,
      unused, and_self, if_true]
    exact checkResets_of_quiet none quiet

theorem afterDeliveries_of_quiet (owed : Option OwedReset) (event : Event Key Value)
    {effects : List (Effect Key Value)} (noBatch : effects.head?.bind Effect.storedBatch? = none)
    (delivered : deliveredEntries effects = []) : afterDeliveries owed event effects = owed := by
  simp [afterDeliveries, noBatch, delivered]

theorem afterDeliveries_resetPrefetchCache (c : WebIDBCursorImpl Key Value)
    (owed : Option OwedReset) (event : Event Key Value) {rest : List (Effect Key Value)}
    (quiet : ∀ effect ∈ rest, effect.storedBatch? = none ∧ effect.delivered? = none) :
    afterDeliveries owed event ((c.resetPrefetchCache limits).2 ++ rest) = owed := by
  refine afterDeliveries_of_quiet owed event ?_ ?_
  · rw [WebIDBCursorImpl.resetPrefetchCache_effects]
    split
    · cases rest with
      | nil => rfl
      | cons effect _ => simp [(quiet effect (List.mem_cons_self _ _)).1]
    · rfl
  · rw [deliveredEntries_append, deliveredEntries_resetPrefetchCache, List.nil_append]
    exact List.filterMap_eq_nil_iff.mpr fun effect member => (quiet effect member).2

theorem afterDeliveries_stored (owed : Option OwedReset) (event : Event Key Value)
    (keys primaryKeys : List Key) (values : List Value) (rest : List (Effect Key Value)) :
    afterDeliveries owed event (.callback (.successCursorPrefetch keys primaryKeys values) :: rest) =
      some ⟨keys.length, 1⟩ := rfl

end OwedReset

def resetsConform (trace : List (Event Key Value × List (Effect Key Value))) : Bool :=
  (trace.foldl OwedReset.checkStep (some none)).isSome

example : resetsConform [((.resetPrefetchCache : Event Nat Nat),
    [.send (.prefetchReset 1 1)])] = false := by decide

def ResetOwed (s : Session Key Value) (checked : Option (Option OwedReset)) : Prop :=
  ∃ owed, checked = some owed ∧ (s.cursor.prefetchKeys ≠ [] →
    owed = some ⟨s.cursor.usedPrefetches + s.cursor.prefetchKeys.length, s.cursor.usedPrefetches⟩ ∧
      1 ≤ s.cursor.usedPrefetches)

theorem resetOwed_of_empty {next : Session Key Value} (owed : Option OwedReset)
    (event : Event Key Value) {effects : List (Effect Key Value)}
    (empty : next.cursor.prefetchKeys = [])
    (quiet : ∀ effect ∈ effects, effect.prefetchReset? = none) :
    ResetOwed next (OwedReset.checkStep (some owed) (event, effects)) :=
  ⟨_, OwedReset.checkResets_of_quiet _ quiet, fun nonempty => absurd empty nonempty⟩

theorem resetOwed_reset {c : WebIDBCursorImpl Key Value} {owed : Option OwedReset}
    (owes : c.prefetchKeys ≠ [] → owed = some ⟨c.usedPrefetches + c.prefetchKeys.length,
      c.usedPrefetches⟩ ∧ 1 ≤ c.usedPrefetches)
    (outstanding : Option Awaiting) (event : Event Key Value) (rest : List (Effect Key Value))
    (quiet : ∀ effect ∈ rest, effect.prefetchReset? = none ∧ effect.storedBatch? = none ∧
      effect.delivered? = none) :
    ResetOwed ⟨(c.resetPrefetchCache limits).1, outstanding⟩
      (OwedReset.checkStep (some owed) (event, (c.resetPrefetchCache limits).2 ++ rest)) := by
  obtain ⟨settled, checked⟩ := OwedReset.checkResets_resetPrefetchCache limits owes
    (fun effect member => (quiet effect member).1)
  refine ⟨settled, ?_, fun nonempty => absurd
    (WebIDBCursorImpl.resetPrefetchCache_prefetchKeys limits c) nonempty⟩
  simp only [OwedReset.checkStep, Option.some_bind, checked,
    OwedReset.afterDeliveries_resetPrefetchCache limits c owed event fun effect member =>
      (quiet effect member).2]

theorem resetOwed_served {c : WebIDBCursorImpl Key Value} {window : List (Entry Key Value)}
    (holds : c.Holds window) (count : Nat) (fits : count ≤ window.length)
    (used : 1 ≤ c.usedPrefetches) {event : Event Key Value} (consumed : event.consumes = count)
    (entry : Entry Key Value) :
    ResetOwed ⟨c.served count, none⟩
      (OwedReset.checkStep (some (some ⟨c.usedPrefetches + c.prefetchKeys.length, c.usedPrefetches⟩))
        (event, [.callback (.successCursorContinue entry.key entry.primaryKey entry.value)])) := by
  refine ⟨_, rfl, fun _ => ⟨?_, by simp only [WebIDBCursorImpl.served_usedPrefetches]; omega⟩⟩
  rw [(holds.served _ count).length, WebIDBCursorImpl.served_usedPrefetches, holds.length,
    List.length_drop]
  simp only [OwedReset.checkStep, OwedReset.afterDeliveries, Option.some_bind,
    OwedReset.checkResets, deliveredEntries, Effect.delivered?, Effect.prefetchReset?,
    Effect.storedBatch?, List.head?_cons, List.filterMap_cons, List.filterMap_nil,
    List.isEmpty_cons, Option.map_some', consumed, Bool.false_eq_true, if_false]
  congr 2
  omega

theorem Session.Moves.resetOwed {s next : Session Key Value} {event : Event Key Value}
    {effects : List (Effect Key Value)} {checked : Option (Option OwedReset)}
    (inv : Session.CacheInvariant limits s) (owes : ResetOwed s checked)
    (moves : Session.Moves limits s event next effects) :
    ResetOwed next (OwedReset.checkStep checked (event, effects)) := by
  obtain ⟨owed, rfl, owes⟩ := owes
  cases moves with
  | @keylessCached entry window holds idle =>
      obtain ⟨rfl, used⟩ := owes (by simp [holds.1])
      exact resetOwed_served (c := { s.cursor with continueCount := s.cursor.continueCount + 1 })
        holds 1 (by simp) used (by rfl) entry
  | @advanceCached count window later entry holds next idle =>
      have nonempty : s.cursor.prefetchKeys ≠ [] := by
        rw [Ne, holds.isEmpty_iff]; rintro rfl; simp at next
      obtain ⟨rfl, used⟩ := owes nonempty
      have fits : (count : Nat) ≤ window.length := by
        have := congrArg List.length next
        simp only [List.length_drop, List.length_cons] at this
        have := count.pos
        omega
      exact resetOwed_served holds count fits used (by rfl) entry
  | keylessPrefetch holds | keylessPlain holds =>
      exact resetOwed_of_empty owed _ holds.1 (by simp [Effect.prefetchReset?])
  | keyed | advanceUncached =>
      exact resetOwed_reset limits owes _ _ _
        (by simp [Effect.prefetchReset?, Effect.storedBatch?, Effect.delivered?])
  | replyAdvance busy | replyContinue busy | replyNoBatch busy =>
      exact resetOwed_of_empty owed _ (inv.emptyWhileOutstanding limits (by simp [busy])).1
        (by simp [Effect.prefetchReset?])
  | @replyBatch entry later busy empty =>
      set stored := (s.cursor.setPrefetchData ((entry :: later).map Entry.key)
        ((entry :: later).map Entry.primaryKey) ((entry :: later).map Entry.value)).served 1
        with storedEq
      have storedUsed : stored.usedPrefetches = 1 := by
        simp [storedEq, WebIDBCursorImpl.setPrefetchData]
      have storedLength : stored.prefetchKeys.length = later.length :=
        ((s.cursor.setPrefetchData_holds (entry :: later) empty).served _ 1).length
      have storedOwes : stored.prefetchKeys ≠ [] → some (⟨later.length + 1, 1⟩ : OwedReset) =
          some ⟨stored.usedPrefetches + stored.prefetchKeys.length, stored.usedPrefetches⟩ ∧
            1 ≤ stored.usedPrefetches := fun _ => by
        rw [storedUsed, storedLength, Nat.add_comm]
        exact ⟨rfl, le_refl 1⟩
      by_cases stale : s.cursor.continueCount = 0
      · rw [WebIDBCursorImpl.dropStaleBatch_of_eq_zero limits stored
          (by simpa [storedEq, WebIDBCursorImpl.setPrefetchData] using stale)]
        obtain ⟨settled, checked⟩ := OwedReset.checkResets_resetPrefetchCache limits storedOwes
          (show ∀ effect ∈ [Effect.callback (.successCursorContinue entry.key entry.primaryKey
            entry.value)], effect.prefetchReset? = none by simp [Effect.prefetchReset?])
        refine ⟨settled, ?_, fun nonempty => absurd
          (WebIDBCursorImpl.resetPrefetchCache_prefetchKeys limits stored) nonempty⟩
        simp only [OwedReset.checkStep, Option.some_bind, OwedReset.afterDeliveries_stored,
          List.length_map, List.length_cons, OwedReset.checkResets, Effect.prefetchReset?, checked]
      · rw [WebIDBCursorImpl.dropStaleBatch_of_ne_zero limits stored
          (by simpa [storedEq, WebIDBCursorImpl.setPrefetchData] using stale)]
        refine ⟨_, ?_, storedOwes⟩
        simp [OwedReset.checkStep, OwedReset.afterDeliveries_stored, OwedReset.checkResets,
          Effect.prefetchReset?]
  | postLast =>
      have owes : { s.cursor with pendingOnsuccessCallbacks :=
          s.cursor.pendingOnsuccessCallbacks - 1 }.prefetchKeys ≠ [] →
          owed = some ⟨s.cursor.usedPrefetches + s.cursor.prefetchKeys.length,
            s.cursor.usedPrefetches⟩ ∧ 1 ≤ s.cursor.usedPrefetches := owes
      simpa only [List.append_nil] using resetOwed_reset limits owes s.outstanding
        .postSuccessHandlerCallback [] (by simp)
  | postMore =>
      exact ⟨owed, rfl, owes⟩
  | reset =>
      simpa only [List.append_nil] using resetOwed_reset limits owes s.outstanding
        .resetPrefetchCache [] (by simp)

/-- Every `PrefetchReset(used, unused)` a cursor sends names as used the entries of the most
recently stored batch that the caller consumed, at least one, leaves at least one unused, adds
up to the batch's size, and comes at most once per batch. -/
theorem prefetchResets_conform {transactionId : Int} {events : List (Event Key Value)}
    {s : Session Key Value} {trace : List (Event Key Value × List (Effect Key Value))}
    (ran : (Session.init limits transactionId).run limits events = .ok (s, trace)) :
    resetsConform trace = true := by
  have initial : ResetOwed (Session.init limits transactionId : Session Key Value) (some none) :=
    ⟨none, rfl, fun nonempty => absurd rfl nonempty⟩
  obtain ⟨owed, checked, -⟩ := Session.Reachable.run_foldl limits OwedReset.checkStep ResetOwed
    (fun inv owes moves => moves.resetOwed limits inv owes) (.init transactionId) initial ran
  simp [resetsConform, checked]

/-- A batch of three stored by the first `Prefetch`, its first entry served, and a keyed
continue that drops the other two. -/
theorem keyed_continue_resets_batch :
    let events : List (Event Nat Nat) := [.cursorContinue none none, .reply (.empty true),
      .cursorContinue none none, .reply (.empty true), .cursorContinue none none,
      .reply (.values [1, 2, 3] [1, 2, 3] [10, 20, 30]), .cursorContinue (some 3) none]
    ∃ s trace, (Session.init exampleLimits 0).run exampleLimits events = .ok (s, trace) ∧
      resetsConform trace = true := by
  intro events
  exact ⟨_, _, rfl, @prefetchResets_conform _ _ exampleLimits 0 events _ _ rfl⟩

end BlinkIndexedDB
