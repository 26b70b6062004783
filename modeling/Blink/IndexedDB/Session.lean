import Mathlib.Data.PNat.Defs
import Blink.IndexedDB.PrefetchWindow

/-!
One cursor between the `IDBCursor` above it and the backend below it. Events are the calls it
receives; a run stops when a `DCHECK` fails or when an event breaks the one-request-at-a-time
protocol. The invariants of the cache hold in every state a run reaches.
-/

namespace BlinkIndexedDB

inductive Awaiting
  | advanceCallback
  | cursorContinueCallback
  | prefetchCallback
  deriving DecidableEq, Repr

def Request.awaiting {Key : Type} : Request Key → Option Awaiting
  | .advance _ => some .advanceCallback
  | .cursorContinue _ _ => some .cursorContinueCallback
  | .prefetch _ => some .prefetchCallback
  | .prefetchReset _ _ => none

def Effect.awaiting {Key Value : Type} : Effect Key Value → Option Awaiting
  | .send request => request.awaiting
  | _ => none

namespace WebIDBCursorImpl

variable {Key Value : Type} (limits : PrefetchLimits) (c : WebIDBCursorImpl Key Value)

theorem cursorContinue_cached {entry : Entry Key Value} {window : List (Entry Key Value)}
    (holds : c.Holds (entry :: window)) :
    c.cursorContinue limits none none =
      some ({ c with continueCount := c.continueCount + 1 }.served 1,
        [.callback (.successCursorContinue entry.key entry.primaryKey entry.value)]) := by
  have counted : { c with continueCount := c.continueCount + 1 }.Holds (entry :: window) := holds
  have served := CachedCall.serve_of_holds limits .cachedContinue counted (by simp)
    (by simp [CachedCall.count]) (show (entry :: window).drop (1 - 1) = entry :: window from rfl)
  simp only [CachedCall.serve, CachedCall.count] at served
  have nonempty : (!c.prefetchKeys.isEmpty) = true := by simp [holds.1]
  simp only [cursorContinue, nonempty, if_true]
  exact served

theorem cursorContinue_prefetch (empty : c.prefetchKeys = [])
    (past : limits.kPrefetchContinueThreshold < c.continueCount + 1) :
    c.cursorContinue limits none none =
      some ({ c with continueCount := c.continueCount + 1,
                     pendingOnsuccessCallbacks := c.pendingOnsuccessCallbacks + 1,
                     prefetchAmount := doubledAmount limits c.prefetchAmount },
        [.send (.prefetch c.prefetchAmount)]) := by
  simp [cursorContinue, empty, past]

theorem cursorContinue_plain (empty : c.prefetchKeys = [])
    (within : c.continueCount + 1 ≤ limits.kPrefetchContinueThreshold) :
    c.cursorContinue limits none none =
      some ({ c with continueCount := c.continueCount + 1 },
        [.resetCursorPrefetchCaches, .send (.cursorContinue none none)]) := by
  simp [cursorContinue, empty, Nat.not_lt.mpr within]

theorem cursorContinue_keyed {key primaryKey : Option Key}
    (keyed : key ≠ none ∨ primaryKey ≠ none) :
    c.cursorContinue limits key primaryKey =
      some ((c.resetPrefetchCache limits).1, (c.resetPrefetchCache limits).2 ++
        [.resetCursorPrefetchCaches, .send (.cursorContinue key primaryKey)]) := by
  unfold cursorContinue
  split
  · simp at keyed
  · rfl

theorem advance_cached {window later : List (Entry Key Value)} {entry : Entry Key Value}
    {count : Nat} (holds : c.Holds window) (live : c.continueCount ≠ 0) (takes : 1 ≤ count)
    (next : window.drop (count - 1) = entry :: later) :
    c.advance limits count =
      some (c.served count,
        [.callback (.successCursorContinue entry.key entry.primaryKey entry.value)]) := by
  have fits : count ≤ c.prefetchKeys.length := by
    have := congrArg List.length next
    simp only [List.length_drop, List.length_cons] at this
    rw [holds.length]
    omega
  have served := CachedCall.serve_of_holds limits (.cachedAdvance count) holds live takes next
  simp only [CachedCall.serve, CachedCall.count] at served
  simp [advance, fits, ← served]

theorem advance_uncached {count : Nat} (exceeds : c.prefetchKeys.length < count) :
    c.advance limits count =
      some ((c.resetPrefetchCache limits).1, (c.resetPrefetchCache limits).2 ++
        [.resetCursorPrefetchCaches, .send (.advance count)]) := by
  simp [advance, Nat.not_le.mpr exceeds]

theorem successCursorPrefetch_of_holds {entry : Entry Key Value} {later : List (Entry Key Value)}
    (emptyCache : c.Holds []) :
    let stored := c.setPrefetchData ((entry :: later).map Entry.key)
      ((entry :: later).map Entry.primaryKey) ((entry :: later).map Entry.value)
    c.successCursorPrefetch limits ((entry :: later).map Entry.key)
        ((entry :: later).map Entry.primaryKey) ((entry :: later).map Entry.value) =
      some ((dropStaleBatch limits (stored.served 1)).1, (dropStaleBatch limits (stored.served 1)).2 ++
        [.callback (.successCursorContinue entry.key entry.primaryKey entry.value)]) := by
  intro stored
  exact cachedContinue_of_holds limits stored (c.setPrefetchData_holds _ emptyCache)

theorem successCursorPrefetch_nil (emptyCache : c.Holds []) :
    c.successCursorPrefetch limits [] [] [] = none := by
  simp [successCursorPrefetch, cachedContinue, setPrefetchData, emptyCache.1, emptyCache.2.1,
    emptyCache.2.2]

theorem doubledAmount_bounds {amount : Nat} (atLeast : limits.kMinPrefetchAmount ≤ amount) :
    limits.kMinPrefetchAmount ≤ doubledAmount limits amount ∧
      doubledAmount limits amount ≤ limits.kMaxPrefetchAmount := by
  have := limits.minLeMax
  unfold doubledAmount
  split <;> omega

theorem postSuccessHandlerCallback_of_eq_zero (last : c.pendingOnsuccessCallbacks - 1 = 0) :
    c.postSuccessHandlerCallback limits =
      resetPrefetchCache limits { c with pendingOnsuccessCallbacks := c.pendingOnsuccessCallbacks - 1 } := by
  simp [postSuccessHandlerCallback, last]

theorem postSuccessHandlerCallback_of_ne_zero (more : c.pendingOnsuccessCallbacks - 1 ≠ 0) :
    c.postSuccessHandlerCallback limits =
      ({ c with pendingOnsuccessCallbacks := c.pendingOnsuccessCallbacks - 1 }, []) := by
  simp [postSuccessHandlerCallback, more]

theorem awaiting_resetPrefetchCache :
    (c.resetPrefetchCache limits).2.filterMap Effect.awaiting = [] := by
  unfold resetPrefetchCache; dsimp only; split <;> rfl

end WebIDBCursorImpl

theorem prefetchCallback_eq_success {Key Value : Type} {result : IDBCursorResult Key Value}
    {keys primaryKeys : List Key} {values : List Value}
    (accepted : prefetchCallback result = .successCursorPrefetch keys primaryKeys values) :
    result = .values keys primaryKeys values ∧ primaryKeys.length = keys.length ∧
      values.length = keys.length := by
  unfold prefetchCallback at accepted
  split at accepted
  · cases accepted
  · cases accepted
  · cases accepted
  · split at accepted
    · cases accepted
    · cases accepted
      exact ⟨rfl, by omega, by omega⟩

/-- A call on the cursor: from `IDBCursor` (an advance count is at least one there), the
backend's reply to the outstanding request, the end of a success handler, or a reset ordered by
`IndexedDBDispatcher` for a sibling. -/
inductive Event (Key Value : Type)
  | cursorContinue (key primaryKey : Option Key)
  | advance (count : ℕ+)
  | reply (result : IDBCursorResult Key Value)
  | postSuccessHandlerCallback
  | resetPrefetchCache

/-- Why a run stops: a failed `DCHECK`, or an event the protocol rules out (a second request
while one is outstanding, or a reply when none is). -/
inductive Halt
  | assertion
  | protocol
  deriving DecidableEq, Repr

structure Session (Key Value : Type) where
  cursor : WebIDBCursorImpl Key Value
  outstanding : Option Awaiting

namespace Session

variable {Key Value : Type} (limits : PrefetchLimits)

def init (transactionId : Int) : Session Key Value :=
  ⟨WebIDBCursorImpl.create limits transactionId, none⟩

def apply (s : Session Key Value) :
    Option (WebIDBCursorImpl Key Value × List (Effect Key Value)) →
      Except Halt (Session Key Value × List (Effect Key Value))
  | none => .error .assertion
  | some (cursor, effects) =>
      match s.outstanding, effects.filterMap Effect.awaiting with
      | outstanding, [] => .ok (⟨cursor, outstanding⟩, effects)
      | none, [awaiting] => .ok (⟨cursor, some awaiting⟩, effects)
      | _, _ => .error .protocol

def answer (s : Session Key Value) (result : IDBCursorResult Key Value) :
    Awaiting → Except Halt (Session Key Value × List (Effect Key Value))
  | .advanceCallback => .ok (⟨s.cursor, none⟩, [.callback (advanceCallback result)])
  | .cursorContinueCallback => .ok (⟨s.cursor, none⟩, [.callback (cursorContinueCallback result)])
  | .prefetchCallback =>
      match prefetchCallback result with
      | .successCursorPrefetch keys primaryKeys values =>
          match s.cursor.successCursorPrefetch limits keys primaryKeys values with
          | none => .error .assertion
          | some (cursor, effects) =>
              .ok (⟨cursor, none⟩, .callback (.successCursorPrefetch keys primaryKeys values) :: effects)
      | call => .ok (⟨s.cursor, none⟩, [.callback call])

def step (s : Session Key Value) :
    Event Key Value → Except Halt (Session Key Value × List (Effect Key Value))
  | .cursorContinue key primaryKey => s.apply (s.cursor.cursorContinue limits key primaryKey)
  | .advance count => s.apply (s.cursor.advance limits count)
  | .reply result =>
      match s.outstanding with
      | none => .error .protocol
      | some awaiting => s.answer limits result awaiting
  | .postSuccessHandlerCallback => s.apply (some (s.cursor.postSuccessHandlerCallback limits))
  | .resetPrefetchCache => s.apply (some (s.cursor.resetPrefetchCache limits))

def run (s : Session Key Value) :
    List (Event Key Value) →
      Except Halt (Session Key Value × List (Event Key Value × List (Effect Key Value)))
  | [] => .ok (s, [])
  | event :: rest =>
      match s.step limits event with
      | .error halt => .error halt
      | .ok (next, effects) =>
          match next.run rest with
          | .error halt => .error halt
          | .ok (last, trace) => .ok (last, (event, effects) :: trace)

def foldSteps {σ : Type}
    (summarize : σ → Session Key Value → Event Key Value → List (Effect Key Value) → σ) :
    Session Key Value → σ → List (Event Key Value) → σ
  | _, summary, [] => summary
  | s, summary, event :: rest =>
      match s.step limits event with
      | .error _ => summary
      | .ok (next, effects) => foldSteps summarize next (summarize summary s event effects) rest

inductive Reachable : Session Key Value → Prop
  | init (transactionId : Int) : Reachable (init limits transactionId)
  | step {s next : Session Key Value} {event : Event Key Value} {effects : List (Effect Key Value)} :
      Reachable s → s.step limits event = .ok (next, effects) → Reachable next

theorem apply_ok {s next : Session Key Value}
    {result : WebIDBCursorImpl Key Value × List (Effect Key Value)} {effects : List (Effect Key Value)}
    (applied : s.apply (some result) = .ok (next, effects)) :
    effects = result.2 ∧ next.cursor = result.1 ∧
      ((result.2.filterMap Effect.awaiting = [] ∧ next.outstanding = s.outstanding) ∨
        (s.outstanding = none ∧ ∃ awaiting, result.2.filterMap Effect.awaiting = [awaiting] ∧
          next.outstanding = some awaiting)) := by
  simp only [apply] at applied
  split at applied
  · cases applied; exact ⟨rfl, rfl, .inl ⟨‹_›, rfl⟩⟩
  · cases applied; exact ⟨rfl, rfl, .inr ⟨‹_›, _, ‹_›, rfl⟩⟩
  · cases applied

structure CacheInvariant (s : Session Key Value) : Prop where
  window : ∃ window, s.cursor.Holds window
  amountAtLeast : limits.kMinPrefetchAmount ≤ s.cursor.prefetchAmount
  amountAtMost : s.cursor.prefetchAmount ≤ limits.kMaxPrefetchAmount
  quiet : s.outstanding ≠ none → s.cursor.prefetchKeys = []
  cachedLive : s.cursor.prefetchKeys ≠ [] →
    limits.kPrefetchContinueThreshold < s.cursor.continueCount
  cachedPending : s.cursor.prefetchKeys ≠ [] → 1 ≤ s.cursor.pendingOnsuccessCallbacks
  prefetchLive : s.outstanding = some .prefetchCallback →
    s.cursor.continueCount = 0 ∨ limits.kPrefetchContinueThreshold < s.cursor.continueCount

theorem cacheInvariant_init (transactionId : Int) :
    CacheInvariant limits (init limits transactionId : Session Key Value) where
  window := ⟨[], by simp [init, WebIDBCursorImpl.create, WebIDBCursorImpl.Holds]⟩
  amountAtLeast := Nat.le_refl _
  amountAtMost := limits.minLeMax
  quiet := by simp [init]
  cachedLive := by simp [init, WebIDBCursorImpl.create]
  cachedPending := by simp [init, WebIDBCursorImpl.create]
  prefetchLive := by simp [init]

theorem cacheInvariant_of_empty {cursor : WebIDBCursorImpl Key Value} {outstanding : Option Awaiting}
    (empty : cursor.Holds []) (atLeast : limits.kMinPrefetchAmount ≤ cursor.prefetchAmount)
    (atMost : cursor.prefetchAmount ≤ limits.kMaxPrefetchAmount)
    (prefetchLive : outstanding = some .prefetchCallback →
      cursor.continueCount = 0 ∨ limits.kPrefetchContinueThreshold < cursor.continueCount) :
    CacheInvariant limits ⟨cursor, outstanding⟩ where
  window := ⟨[], empty⟩
  amountAtLeast := atLeast
  amountAtMost := atMost
  quiet := fun _ => empty.1
  cachedLive := fun nonempty => absurd empty.1 nonempty
  cachedPending := fun nonempty => absurd empty.1 nonempty
  prefetchLive := prefetchLive

theorem cacheInvariant_reset {cursor : WebIDBCursorImpl Key Value} (agree : cursor.SizesAgree)
    (outstanding : Option Awaiting) :
    CacheInvariant limits ⟨(cursor.resetPrefetchCache limits).1, outstanding⟩ :=
  cacheInvariant_of_empty limits (cursor.resetPrefetchCache_clears limits agree)
    (by simp) (by simpa using limits.minLeMax) (fun _ => .inl (by simp))

theorem CacheInvariant.sizesAgree {s : Session Key Value} (inv : CacheInvariant limits s) :
    s.cursor.SizesAgree := by
  obtain ⟨window, holds⟩ := inv.window
  exact holds.sizesAgree

theorem CacheInvariant.idle {s : Session Key Value} (inv : CacheInvariant limits s)
    (nonempty : s.cursor.prefetchKeys ≠ []) : s.outstanding = none := by
  by_contra busy
  exact nonempty (inv.quiet busy)

theorem cacheInvariant_served {cursor : WebIDBCursorImpl Key Value} {window : List (Entry Key Value)}
    (holds : cursor.Holds window) (count : Nat)
    (atLeast : limits.kMinPrefetchAmount ≤ cursor.prefetchAmount)
    (atMost : cursor.prefetchAmount ≤ limits.kMaxPrefetchAmount)
    (live : limits.kPrefetchContinueThreshold < cursor.continueCount)
    (pending : 0 ≤ cursor.pendingOnsuccessCallbacks) :
    CacheInvariant limits ⟨cursor.served count, none⟩ where
  window := ⟨_, holds.served cursor count⟩
  amountAtLeast := by simpa using atLeast
  amountAtMost := by simpa using atMost
  quiet := by simp
  cachedLive := fun _ => by simpa using live
  cachedPending := fun _ => by simp; omega
  prefetchLive := by simp

theorem CacheInvariant.emptyWhileOutstanding {s : Session Key Value} (inv : CacheInvariant limits s)
    (busy : s.outstanding ≠ none) : s.cursor.Holds [] := by
  obtain ⟨window, holds⟩ := inv.window
  rwa [← (holds.isEmpty_iff).mp (inv.quiet busy)]

/-- What one event does to a session that keeps the invariant, read off the member functions:
a keyless continue is served from the cache, or sends `Prefetch`, or a plain continue; a keyed
continue and an advance past the cache reset it and send their request; an advance within the
cache serves from it; a reply goes to the bound callback, a prefetched batch being stored and
served from; a success handler's end resets the cache when it was the last pending one; and a
sibling's request resets it. -/
inductive Moves : Session Key Value → Event Key Value → Session Key Value →
    List (Effect Key Value) → Prop
  | keylessCached {s : Session Key Value} {entry : Entry Key Value} {window : List (Entry Key Value)} :
      s.cursor.Holds (entry :: window) → s.outstanding = none →
      Moves s (.cursorContinue none none)
        ⟨{ s.cursor with continueCount := s.cursor.continueCount + 1 }.served 1, none⟩
        [.callback (.successCursorContinue entry.key entry.primaryKey entry.value)]
  | keylessPrefetch {s : Session Key Value} :
      s.cursor.Holds [] → s.outstanding = none →
      limits.kPrefetchContinueThreshold < s.cursor.continueCount + 1 →
      Moves s (.cursorContinue none none)
        ⟨{ s.cursor with continueCount := s.cursor.continueCount + 1,
                         pendingOnsuccessCallbacks := s.cursor.pendingOnsuccessCallbacks + 1,
                         prefetchAmount := WebIDBCursorImpl.doubledAmount limits s.cursor.prefetchAmount },
          some .prefetchCallback⟩
        [.send (.prefetch s.cursor.prefetchAmount)]
  | keylessPlain {s : Session Key Value} :
      s.cursor.Holds [] → s.outstanding = none →
      s.cursor.continueCount + 1 ≤ limits.kPrefetchContinueThreshold →
      Moves s (.cursorContinue none none)
        ⟨{ s.cursor with continueCount := s.cursor.continueCount + 1 }, some .cursorContinueCallback⟩
        [.resetCursorPrefetchCaches, .send (.cursorContinue none none)]
  | keyed {s : Session Key Value} {key primaryKey : Option Key} :
      (key ≠ none ∨ primaryKey ≠ none) → s.outstanding = none →
      Moves s (.cursorContinue key primaryKey)
        ⟨(s.cursor.resetPrefetchCache limits).1, some .cursorContinueCallback⟩
        ((s.cursor.resetPrefetchCache limits).2 ++
          [.resetCursorPrefetchCaches, .send (.cursorContinue key primaryKey)])
  | advanceCached {s : Session Key Value} {count : ℕ+} {window later : List (Entry Key Value)}
      {entry : Entry Key Value} :
      s.cursor.Holds window → window.drop (count - 1) = entry :: later → s.outstanding = none →
      Moves s (.advance count) ⟨s.cursor.served count, none⟩
        [.callback (.successCursorContinue entry.key entry.primaryKey entry.value)]
  | advanceUncached {s : Session Key Value} {count : ℕ+} :
      s.cursor.prefetchKeys.length < count → s.outstanding = none →
      Moves s (.advance count) ⟨(s.cursor.resetPrefetchCache limits).1, some .advanceCallback⟩
        ((s.cursor.resetPrefetchCache limits).2 ++
          [.resetCursorPrefetchCaches, .send (.advance count)])
  | replyAdvance {s : Session Key Value} {result : IDBCursorResult Key Value} :
      s.outstanding = some .advanceCallback →
      Moves s (.reply result) ⟨s.cursor, none⟩ [.callback (advanceCallback result)]
  | replyContinue {s : Session Key Value} {result : IDBCursorResult Key Value} :
      s.outstanding = some .cursorContinueCallback →
      Moves s (.reply result) ⟨s.cursor, none⟩ [.callback (cursorContinueCallback result)]
  | replyBatch {s : Session Key Value} {entry : Entry Key Value} {later : List (Entry Key Value)} :
      s.outstanding = some .prefetchCallback → s.cursor.Holds [] →
      Moves s (.reply (.values ((entry :: later).map Entry.key)
          ((entry :: later).map Entry.primaryKey) ((entry :: later).map Entry.value)))
        ⟨(WebIDBCursorImpl.dropStaleBatch limits ((s.cursor.setPrefetchData
          ((entry :: later).map Entry.key) ((entry :: later).map Entry.primaryKey)
          ((entry :: later).map Entry.value)).served 1)).1, none⟩
        (.callback (.successCursorPrefetch ((entry :: later).map Entry.key)
            ((entry :: later).map Entry.primaryKey) ((entry :: later).map Entry.value)) ::
          ((WebIDBCursorImpl.dropStaleBatch limits ((s.cursor.setPrefetchData
            ((entry :: later).map Entry.key) ((entry :: later).map Entry.primaryKey)
            ((entry :: later).map Entry.value)).served 1)).2 ++
          [.callback (.successCursorContinue entry.key entry.primaryKey entry.value)]))
  | replyNoBatch {s : Session Key Value} {result : IDBCursorResult Key Value} :
      s.outstanding = some .prefetchCallback →
      (∀ keys primaryKeys values, prefetchCallback result ≠ .successCursorPrefetch keys primaryKeys values) →
      Moves s (.reply result) ⟨s.cursor, none⟩ [.callback (prefetchCallback result)]
  | postLast {s : Session Key Value} :
      s.cursor.pendingOnsuccessCallbacks - 1 = 0 →
      Moves s .postSuccessHandlerCallback
        ⟨({ s.cursor with pendingOnsuccessCallbacks := s.cursor.pendingOnsuccessCallbacks - 1 }
          |>.resetPrefetchCache limits).1, s.outstanding⟩
        ({ s.cursor with pendingOnsuccessCallbacks := s.cursor.pendingOnsuccessCallbacks - 1 }
          |>.resetPrefetchCache limits).2
  | postMore {s : Session Key Value} :
      s.cursor.pendingOnsuccessCallbacks - 1 ≠ 0 →
      Moves s .postSuccessHandlerCallback
        ⟨{ s.cursor with pendingOnsuccessCallbacks := s.cursor.pendingOnsuccessCallbacks - 1 },
          s.outstanding⟩ []
  | reset {s : Session Key Value} :
      Moves s .resetPrefetchCache ⟨(s.cursor.resetPrefetchCache limits).1, s.outstanding⟩
        (s.cursor.resetPrefetchCache limits).2

theorem CacheInvariant.moves_cursorContinue {s next : Session Key Value}
    {key primaryKey : Option Key} {effects : List (Effect Key Value)} (inv : CacheInvariant limits s)
    (stepped : s.apply (s.cursor.cursorContinue limits key primaryKey) = .ok (next, effects)) :
    Moves limits s (.cursorContinue key primaryKey) next effects := by
  obtain ⟨window, holds⟩ := inv.window
  obtain ⟨cursor, outstanding⟩ := next
  by_cases keyless : key = none ∧ primaryKey = none
  · obtain ⟨rfl, rfl⟩ := keyless
    cases window with
    | cons entry later =>
        rw [s.cursor.cursorContinue_cached limits holds] at stepped
        obtain ⟨rfl, rfl, ⟨-, rfl⟩ | ⟨-, _, awaited, -⟩⟩ := apply_ok stepped
        · have idle := inv.idle limits (by simp [holds.1])
          rw [idle]
          exact .keylessCached holds idle
        · simp [Effect.awaiting] at awaited
    | nil =>
        by_cases past : limits.kPrefetchContinueThreshold < s.cursor.continueCount + 1
        · rw [s.cursor.cursorContinue_prefetch limits holds.1 past] at stepped
          obtain ⟨rfl, rfl, ⟨awaited, -⟩ | ⟨idle, awaiting, awaited, rfl⟩⟩ := apply_ok stepped
          · simp [Effect.awaiting, Request.awaiting] at awaited
          · simp only [List.filterMap_cons, List.filterMap_nil, Effect.awaiting, Request.awaiting,
              List.cons.injEq, and_true] at awaited
            subst awaited
            exact .keylessPrefetch holds idle past
        · rw [s.cursor.cursorContinue_plain limits holds.1 (Nat.le_of_not_lt past)] at stepped
          obtain ⟨rfl, rfl, ⟨awaited, -⟩ | ⟨idle, awaiting, awaited, rfl⟩⟩ := apply_ok stepped
          · simp [Effect.awaiting, Request.awaiting] at awaited
          · simp only [List.filterMap_cons, List.filterMap_nil, Effect.awaiting, Request.awaiting,
              List.cons.injEq, and_true] at awaited
            subst awaited
            exact .keylessPlain holds idle (Nat.le_of_not_lt past)
  · have keyed : key ≠ none ∨ primaryKey ≠ none := by tauto
    rw [s.cursor.cursorContinue_keyed limits keyed] at stepped
    obtain ⟨rfl, rfl, ⟨awaited, -⟩ | ⟨idle, awaiting, awaited, rfl⟩⟩ := apply_ok stepped
    · simp [List.filterMap_append, WebIDBCursorImpl.awaiting_resetPrefetchCache, Effect.awaiting,
        Request.awaiting] at awaited
    · simp [List.filterMap_append, WebIDBCursorImpl.awaiting_resetPrefetchCache, Effect.awaiting,
        Request.awaiting] at awaited
      subst awaited
      exact .keyed keyed idle

theorem CacheInvariant.moves_advance {s next : Session Key Value} {count : ℕ+}
    {effects : List (Effect Key Value)} (inv : CacheInvariant limits s)
    (stepped : s.apply (s.cursor.advance limits count) = .ok (next, effects)) :
    Moves limits s (.advance count) next effects := by
  obtain ⟨window, holds⟩ := inv.window
  obtain ⟨cursor, outstanding⟩ := next
  by_cases fits : (count : Nat) ≤ s.cursor.prefetchKeys.length
  · have nonempty : s.cursor.prefetchKeys ≠ [] := by
      intro empty
      rw [empty, List.length_nil] at fits
      exact absurd count.pos (by omega)
    obtain ⟨entry, later, next⟩ :=
      exists_drop_eq_cons (show (count : Nat) - 1 < window.length by
        rw [← holds.length]; have := count.pos; omega)
    rw [s.cursor.advance_cached limits holds (by have := inv.cachedLive nonempty; omega) count.pos
      next] at stepped
    obtain ⟨rfl, rfl, ⟨-, rfl⟩ | ⟨-, _, awaited, -⟩⟩ := apply_ok stepped
    · rw [inv.idle limits nonempty]
      exact .advanceCached holds next (inv.idle limits nonempty)
    · simp [Effect.awaiting] at awaited
  · rw [s.cursor.advance_uncached limits (Nat.lt_of_not_le fits)] at stepped
    obtain ⟨rfl, rfl, ⟨awaited, -⟩ | ⟨idle, awaiting, awaited, rfl⟩⟩ := apply_ok stepped
    · simp [List.filterMap_append, WebIDBCursorImpl.awaiting_resetPrefetchCache, Effect.awaiting,
        Request.awaiting] at awaited
    · simp [List.filterMap_append, WebIDBCursorImpl.awaiting_resetPrefetchCache, Effect.awaiting,
        Request.awaiting] at awaited
      subst awaited
      exact .advanceUncached (Nat.lt_of_not_le fits) idle

theorem CacheInvariant.moves_reply {s next : Session Key Value} {result : IDBCursorResult Key Value}
    {effects : List (Effect Key Value)} (inv : CacheInvariant limits s)
    (stepped : s.step limits (.reply result) = .ok (next, effects)) :
    Moves limits s (.reply result) next effects := by
  simp only [Session.step] at stepped
  split at stepped
  · cases stepped
  · rename_i awaiting busy
    have emptyHolds := inv.emptyWhileOutstanding limits (by simp [busy])
    cases awaiting with
    | advanceCallback => cases stepped; exact .replyAdvance busy
    | cursorContinueCallback => cases stepped; exact .replyContinue busy
    | prefetchCallback =>
        simp only [answer] at stepped
        split at stepped
        · rename_i keys primaryKeys values accepted
          obtain ⟨rfl, primaryAgree, valuesAgree⟩ := prefetchCallback_eq_success accepted
          obtain ⟨keysEq, primaryEq, valuesEq⟩ :=
            Entry.map_zipAll keys primaryKeys values primaryAgree valuesAgree
          generalize Entry.zipAll keys primaryKeys values = batch at keysEq primaryEq valuesEq
          subst keysEq primaryEq valuesEq
          split at stepped
          · cases stepped
          · rename_i cursor storedEffects served
            cases stepped
            cases batch with
            | nil => rw [List.map_nil, List.map_nil, List.map_nil,
                s.cursor.successCursorPrefetch_nil limits emptyHolds] at served; cases served
            | cons entry later =>
                rw [s.cursor.successCursorPrefetch_of_holds limits emptyHolds] at served
                cases served
                exact .replyBatch busy emptyHolds
        · rename_i call notBatch
          cases stepped
          exact .replyNoBatch busy notBatch

theorem CacheInvariant.moves_postSuccessHandlerCallback {s next : Session Key Value}
    {effects : List (Effect Key Value)}
    (stepped : s.apply (some (s.cursor.postSuccessHandlerCallback limits)) = .ok (next, effects)) :
    Moves limits s .postSuccessHandlerCallback next effects := by
  obtain ⟨cursor, outstanding⟩ := next
  by_cases last : s.cursor.pendingOnsuccessCallbacks - 1 = 0
  · rw [s.cursor.postSuccessHandlerCallback_of_eq_zero limits last] at stepped
    obtain ⟨rfl, rfl, ⟨-, rfl⟩ | ⟨-, _, awaited, -⟩⟩ := apply_ok stepped
    · exact .postLast last
    · simp [WebIDBCursorImpl.awaiting_resetPrefetchCache] at awaited
  · rw [s.cursor.postSuccessHandlerCallback_of_ne_zero limits last] at stepped
    obtain ⟨rfl, rfl, ⟨-, rfl⟩ | ⟨-, _, awaited, -⟩⟩ := apply_ok stepped
    · exact .postMore last
    · simp at awaited

theorem CacheInvariant.moves {s next : Session Key Value} {event : Event Key Value}
    {effects : List (Effect Key Value)} (inv : CacheInvariant limits s)
    (stepped : s.step limits event = .ok (next, effects)) : Moves limits s event next effects := by
  cases event with
  | cursorContinue key primaryKey => exact inv.moves_cursorContinue limits stepped
  | advance count => exact inv.moves_advance limits stepped
  | reply result => exact inv.moves_reply limits stepped
  | postSuccessHandlerCallback => exact CacheInvariant.moves_postSuccessHandlerCallback limits stepped
  | resetPrefetchCache =>
      obtain ⟨cursor, outstanding⟩ := next
      replace stepped : s.apply (some (s.cursor.resetPrefetchCache limits)) = _ := stepped
      obtain ⟨rfl, rfl, ⟨-, rfl⟩ | ⟨-, _, awaited, -⟩⟩ := apply_ok stepped
      · exact .reset
      · simp [WebIDBCursorImpl.awaiting_resetPrefetchCache] at awaited

theorem CacheInvariant.step {s next : Session Key Value} {event : Event Key Value}
    {effects : List (Effect Key Value)} (inv : CacheInvariant limits s)
    (stepped : s.step limits event = .ok (next, effects)) : CacheInvariant limits next := by
  have emptyWhenBusy := inv.emptyWhileOutstanding limits
  cases inv.moves limits stepped with
  | keylessCached holds idle =>
      have nonempty : s.cursor.prefetchKeys ≠ [] := by simp [holds.1]
      exact cacheInvariant_served limits (show { s.cursor with
        continueCount := s.cursor.continueCount + 1 }.Holds _ from holds) 1 inv.amountAtLeast
        inv.amountAtMost (Nat.lt_succ_of_lt (inv.cachedLive nonempty))
        (by have := inv.cachedPending nonempty; simp only; omega)
  | keylessPrefetch holds idle past =>
      have bounds := WebIDBCursorImpl.doubledAmount_bounds limits inv.amountAtLeast
      exact cacheInvariant_of_empty limits holds bounds.1 bounds.2 (fun _ => .inr past)
  | keylessPlain holds idle within =>
      exact cacheInvariant_of_empty limits holds inv.amountAtLeast inv.amountAtMost (by simp)
  | keyed keyed idle => exact cacheInvariant_reset limits inv.sizesAgree _
  | advanceCached holds next idle =>
      have nonempty : s.cursor.prefetchKeys ≠ [] := by
        rw [Ne, holds.isEmpty_iff]; rintro rfl; simp at next
      exact cacheInvariant_served limits holds _ inv.amountAtLeast inv.amountAtMost
        (inv.cachedLive nonempty) (by have := inv.cachedPending nonempty; omega)
  | advanceUncached exceeds idle => exact cacheInvariant_reset limits inv.sizesAgree _
  | replyAdvance busy | replyContinue busy | replyNoBatch busy =>
      exact cacheInvariant_of_empty limits (emptyWhenBusy (by simp [busy])) inv.amountAtLeast
        inv.amountAtMost (by simp)
  | @replyBatch entry later busy empty =>
      have storedHolds := s.cursor.setPrefetchData_holds (entry :: later) empty
      by_cases stale : s.cursor.continueCount = 0
      · rw [WebIDBCursorImpl.dropStaleBatch_of_eq_zero limits _ (by simpa using stale)]
        exact cacheInvariant_reset limits (storedHolds.served _ 1).sizesAgree none
      · rw [WebIDBCursorImpl.dropStaleBatch_of_ne_zero limits _ (by simpa using stale)]
        exact cacheInvariant_served limits storedHolds 1 inv.amountAtLeast inv.amountAtMost
          ((inv.prefetchLive busy).resolve_left stale) (le_refl 0)
  | postLast last =>
      have agree : { s.cursor with
          pendingOnsuccessCallbacks := s.cursor.pendingOnsuccessCallbacks - 1 }.SizesAgree :=
        inv.sizesAgree
      exact cacheInvariant_reset limits agree _
  | postMore more =>
      exact { inv with
        cachedPending := fun nonempty => by
          have := inv.cachedPending nonempty
          simp only at more ⊢
          omega }
  | reset => exact cacheInvariant_reset limits inv.sizesAgree _

theorem Reachable.cacheInvariant {s : Session Key Value} (reachable : Reachable limits s) :
    CacheInvariant limits s := by
  induction reachable with
  | init transactionId => exact cacheInvariant_init limits transactionId
  | step _ stepped inv => exact inv.step limits stepped

theorem Reachable.run_foldl {σ : Type} (summarize : σ → Event Key Value × List (Effect Key Value) → σ)
    (related : Session Key Value → σ → Prop)
    (moves : ∀ {s next : Session Key Value} {event : Event Key Value}
      {effects : List (Effect Key Value)} {summary : σ}, CacheInvariant limits s →
        related s summary → Moves limits s event next effects →
          related next (summarize summary (event, effects)))
    {s last : Session Key Value} {events : List (Event Key Value)}
    {trace : List (Event Key Value × List (Effect Key Value))} {summary : σ}
    (reachable : Reachable limits s) (holds : related s summary)
    (ran : s.run limits events = .ok (last, trace)) :
    related last (trace.foldl summarize summary) := by
  induction events generalizing s trace summary with
  | nil => cases ran; exact holds
  | cons event rest ih =>
      simp only [Session.run] at ran
      split at ran
      · cases ran
      · rename_i next effects stepped
        split at ran
        · cases ran
        · cases ran
          have inv := reachable.cacheInvariant
          rw [List.foldl_cons]
          exact ih (reachable.step stepped) (moves inv holds (inv.moves limits stepped)) ‹_›

theorem Reachable.run_foldSteps {σ : Type}
    (summarize : σ → Session Key Value → Event Key Value → List (Effect Key Value) → σ)
    (related : Session Key Value → σ → Prop)
    (moves : ∀ {s next : Session Key Value} {event : Event Key Value}
      {effects : List (Effect Key Value)} {summary : σ}, CacheInvariant limits s →
        related s summary → Moves limits s event next effects →
          related next (summarize summary s event effects))
    {s last : Session Key Value} {events : List (Event Key Value)}
    {trace : List (Event Key Value × List (Effect Key Value))} {summary : σ}
    (reachable : Reachable limits s) (holds : related s summary)
    (ran : s.run limits events = .ok (last, trace)) :
    related last (s.foldSteps limits summarize summary events) := by
  induction events generalizing s trace summary with
  | nil => cases ran; exact holds
  | cons event rest ih =>
      simp only [Session.run] at ran
      split at ran
      · cases ran
      · rename_i next effects stepped
        split at ran
        · cases ran
        · cases ran
          have inv := reachable.cacheInvariant
          simp only [foldSteps, stepped]
          exact ih (reachable.step stepped) (moves inv holds (inv.moves limits stepped)) ‹_›

theorem Reachable.run {s last : Session Key Value} {events : List (Event Key Value)}
    {trace : List (Event Key Value × List (Effect Key Value))} (reachable : Reachable limits s)
    (ran : s.run limits events = .ok (last, trace)) : Reachable limits last := by
  induction events generalizing s trace with
  | nil => cases ran; exact reachable
  | cons event rest ih =>
      simp only [Session.run] at ran
      split at ran
      · cases ran
      · rename_i next effects stepped
        split at ran
        · cases ran
        · cases ran
          exact ih (reachable.step stepped) ‹_›

/-- The representation of the cache between operations: (a) three vectors of one length,
(b) a prefetch amount within its bounds, (c) an empty cache while a request is outstanding, so
that a prefetch reply is stored alone, and (d) a non-empty cache only with a continue count
past the threshold and a pending success, so that the `PostSuccessHandlerCallback` bringing
the count to zero leaves the cache empty. -/
structure CacheRepresentation (s : Session Key Value) : Prop where
  sizesAgree : s.cursor.SizesAgree
  amountAtLeast : limits.kMinPrefetchAmount ≤ s.cursor.prefetchAmount
  amountAtMost : s.cursor.prefetchAmount ≤ limits.kMaxPrefetchAmount
  emptyWhileOutstanding : s.outstanding ≠ none → s.cursor.Holds []
  batchStoredAlone : s.outstanding = some .prefetchCallback →
    ∀ keys primaryKeys values, (s.cursor.setPrefetchData keys primaryKeys values).prefetchKeys =
      keys.reverse ∧
      (s.cursor.setPrefetchData keys primaryKeys values).prefetchPrimaryKeys = primaryKeys.reverse ∧
      (s.cursor.setPrefetchData keys primaryKeys values).prefetchValues = values.reverse
  cachedLive : s.cursor.prefetchKeys ≠ [] →
    limits.kPrefetchContinueThreshold < s.cursor.continueCount ∧
      1 ≤ s.cursor.pendingOnsuccessCallbacks
  lastSuccessDrops : s.cursor.pendingOnsuccessCallbacks - 1 = 0 →
    (s.cursor.postSuccessHandlerCallback limits).1.Holds []

/-- Every state a cursor reaches, over any interleaving of calls, replies, success handlers and
sibling resets with one request outstanding at a time, keeps the cache representation. -/
theorem reachable_cacheRepresentation {s : Session Key Value} (reachable : Reachable limits s) :
    CacheRepresentation limits s := by
  have inv := reachable.cacheInvariant
  refine ⟨inv.sizesAgree, inv.amountAtLeast, inv.amountAtMost, inv.emptyWhileOutstanding limits,
    fun busy keys primaryKeys values => ?_, fun nonempty => ⟨inv.cachedLive nonempty,
      inv.cachedPending nonempty⟩, fun last => ?_⟩
  · have empty := inv.emptyWhileOutstanding limits (by simp [busy])
    simp [WebIDBCursorImpl.setPrefetchData, empty.1, empty.2.1, empty.2.2]
  · rw [s.cursor.postSuccessHandlerCallback_of_eq_zero limits last]
    have agree : { s.cursor with
        pendingOnsuccessCallbacks := s.cursor.pendingOnsuccessCallbacks - 1 }.SizesAgree :=
      inv.sizesAgree
    exact WebIDBCursorImpl.resetPrefetchCache_clears limits _ agree

/-- Two runs of a cursor with a threshold of two: the third keyless continue leaves a
`Prefetch` outstanding, and its reply of three entries serves one and caches the other two. -/
theorem prefetching_and_filled_cacheRepresentation :
    let prefetching : List (Event Nat Nat) := [.cursorContinue none none, .reply (.empty true),
      .cursorContinue none none, .reply (.empty true), .cursorContinue none none]
    (∃ s trace, (init exampleLimits 0).run exampleLimits prefetching = .ok (s, trace) ∧
      s.outstanding = some .prefetchCallback ∧ Reachable exampleLimits s ∧
        CacheRepresentation exampleLimits s) ∧
    ∃ s trace, (init exampleLimits 0).run exampleLimits
        (prefetching ++ [.reply (.values [1, 2, 3] [1, 2, 3] [10, 20, 30])]) = .ok (s, trace) ∧
      s.cursor.prefetchKeys = [3, 2] ∧ Reachable exampleLimits s ∧
        CacheRepresentation exampleLimits s := by
  intro prefetching
  have prefetchRan : (init exampleLimits 0 : Session Nat Nat).run exampleLimits prefetching =
      .ok (⟨⟨0, 3, 0, 1, 10, [], [], []⟩, some .prefetchCallback⟩, _) := rfl
  have filledRan : (init exampleLimits 0 : Session Nat Nat).run exampleLimits
      (prefetching ++ [.reply (.values [1, 2, 3] [1, 2, 3] [10, 20, 30])]) =
      .ok (⟨⟨0, 3, 1, 1, 10, [3, 2], [3, 2], [30, 20]⟩, none⟩, _) := rfl
  have prefetchReached := (Reachable.init 0).run exampleLimits prefetchRan
  have filledReached := (Reachable.init 0).run exampleLimits filledRan
  exact ⟨⟨_, _, prefetchRan, rfl, prefetchReached,
      reachable_cacheRepresentation exampleLimits prefetchReached⟩,
    _, _, filledRan, rfl, filledReached, reachable_cacheRepresentation exampleLimits filledReached⟩

theorem apply_ne_assertion (s : Session Key Value)
    (result : WebIDBCursorImpl Key Value × List (Effect Key Value)) :
    s.apply (some result) ≠ .error .assertion := by
  simp only [apply]
  split <;> simp

theorem CacheInvariant.cursorContinue_isSome {s : Session Key Value} (inv : CacheInvariant limits s)
    (key primaryKey : Option Key) : (s.cursor.cursorContinue limits key primaryKey).isSome := by
  obtain ⟨window, holds⟩ := inv.window
  by_cases keyless : key = none ∧ primaryKey = none
  · obtain ⟨rfl, rfl⟩ := keyless
    cases window with
    | cons entry later => simp [s.cursor.cursorContinue_cached limits holds]
    | nil =>
        by_cases past : limits.kPrefetchContinueThreshold < s.cursor.continueCount + 1
        · simp [s.cursor.cursorContinue_prefetch limits holds.1 past]
        · simp [s.cursor.cursorContinue_plain limits holds.1 (Nat.le_of_not_lt past)]
  · simp [s.cursor.cursorContinue_keyed limits (by tauto)]

theorem CacheInvariant.advance_isSome {s : Session Key Value} (inv : CacheInvariant limits s)
    (count : ℕ+) : (s.cursor.advance limits count).isSome := by
  obtain ⟨window, holds⟩ := inv.window
  by_cases fits : (count : Nat) ≤ s.cursor.prefetchKeys.length
  · have nonempty : s.cursor.prefetchKeys ≠ [] := by
      intro empty
      rw [empty, List.length_nil] at fits
      exact absurd count.pos (by omega)
    obtain ⟨entry, later, next⟩ :=
      exists_drop_eq_cons (show (count : Nat) - 1 < window.length by
        rw [← holds.length]; have := count.pos; omega)
    simp [s.cursor.advance_cached limits holds (by have := inv.cachedLive nonempty; omega) count.pos
      next]
  · simp [s.cursor.advance_uncached limits (Nat.lt_of_not_le fits)]

/-- From a state keeping the invariant, the only event on which a `DCHECK` of the cursor fails
is a prefetch reply whose three arrays are empty: `PrefetchCallback` accepts it, and
`CachedContinue` is entered with an empty cache. -/
theorem CacheInvariant.step_eq_assertion_iff {s : Session Key Value}
    (inv : CacheInvariant limits s) (event : Event Key Value) :
    s.step limits event = .error .assertion ↔
      s.outstanding = some .prefetchCallback ∧ event = .reply (.values [] [] []) := by
  have emptyWhenBusy := inv.emptyWhileOutstanding limits
  constructor
  · intro aborted
    cases event with
    | cursorContinue key primaryKey =>
        obtain ⟨result, found⟩ := Option.isSome_iff_exists.mp (inv.cursorContinue_isSome limits key primaryKey)
        exact absurd aborted (by simp only [Session.step, found]; exact s.apply_ne_assertion result)
    | advance count =>
        obtain ⟨result, found⟩ := Option.isSome_iff_exists.mp (inv.advance_isSome limits count)
        exact absurd aborted (by simp only [Session.step, found]; exact s.apply_ne_assertion result)
    | postSuccessHandlerCallback | resetPrefetchCache => exact absurd aborted (s.apply_ne_assertion _)
    | reply result =>
        simp only [Session.step] at aborted
        split at aborted
        · cases aborted
        · rename_i awaiting busy
          have empty := emptyWhenBusy (by simp [busy])
          cases awaiting with
          | advanceCallback | cursorContinueCallback => cases aborted
          | prefetchCallback =>
              simp only [answer] at aborted
              split at aborted
              · rename_i keys primaryKeys values accepted
                obtain ⟨rfl, primaryAgree, valuesAgree⟩ := prefetchCallback_eq_success accepted
                obtain ⟨keysEq, primaryEq, valuesEq⟩ :=
                  Entry.map_zipAll keys primaryKeys values primaryAgree valuesAgree
                split at aborted
                · rename_i noEntry
                  have batchNone : s.cursor.successCursorPrefetch limits
                      ((Entry.zipAll keys primaryKeys values).map Entry.key)
                      ((Entry.zipAll keys primaryKeys values).map Entry.primaryKey)
                      ((Entry.zipAll keys primaryKeys values).map Entry.value) = none := by
                    rw [keysEq, primaryEq, valuesEq]; exact noEntry
                  cases batch : Entry.zipAll keys primaryKeys values with
                  | nil =>
                      rw [batch] at keysEq primaryEq valuesEq
                      simp only [List.map_nil] at keysEq primaryEq valuesEq
                      subst keysEq primaryEq valuesEq
                      exact ⟨busy, rfl⟩
                  | cons entry later =>
                      rw [batch, s.cursor.successCursorPrefetch_of_holds limits empty] at batchNone
                      cases batchNone
                · cases aborted
              · cases aborted
  · rintro ⟨busy, rfl⟩
    simp [Session.step, busy, answer, prefetchCallback, s.cursor.successCursorPrefetch_nil limits
      (emptyWhenBusy (by simp [busy]))]

/-- A prefetch reply carrying three empty arrays, after the third keyless continue of a fresh
cursor with a continue threshold of two, fails the `DCHECK` at the head of `CachedContinue`. -/
theorem empty_prefetch_reply_fails_dcheck :
    (init exampleLimits 0 : Session Nat Nat).run exampleLimits
      [.cursorContinue none none, .reply (.empty true), .cursorContinue none none,
        .reply (.empty true), .cursorContinue none none, .reply (.values [] [] [])] =
      .error .assertion := by
  rfl

end Session

end BlinkIndexedDB
