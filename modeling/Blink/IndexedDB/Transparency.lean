import Blink.IndexedDB.Session

/-!
The prefetch cache is invisible to the caller: against a backend cursor over a fixed sequence of
entries, the results the caller receives over every run are those a cursor without a cache
delivers.
-/

namespace BlinkIndexedDB

variable {Key Value : Type}

/-- The backend cursor. `position` is the index of the entry the next keyless continue returns;
all positions past the last entry are the one position `entries.length`. `prefetchStart` is
where the most recent `Prefetch` started. -/
structure Backend where
  position : Nat
  prefetchStart : Nat
  deriving DecidableEq, Repr

def entryResult : Option (Entry Key Value) → IDBCursorResult Key Value
  | none => .empty true
  | some entry => .values [entry.key] [entry.primaryKey] [entry.value]

def batchResult (batch : List (Entry Key Value)) : IDBCursorResult Key Value :=
  if batch.isEmpty then .empty true
  else .values (batch.map Entry.key) (batch.map Entry.primaryKey) (batch.map Entry.value)

inductive Call (Key : Type)
  | cursorContinue (key primaryKey : Option Key)
  | advance (count : ℕ+)

def Call.request {Key : Type} : Call Key → Request Key
  | .cursorContinue key primaryKey => .cursorContinue key primaryKey
  | .advance count => .advance count

def Call.event {Key Value : Type} : Call Key → Event Key Value
  | .cursorContinue key primaryKey => .cursorContinue key primaryKey
  | .advance count => .advance count

namespace Backend

variable (entries : List (Entry Key Value)) (seek : Nat → Option Key → Option Key → Nat)

def target (b : Backend) : Request Key → Nat
  | .advance count => b.position + count - 1
  | .cursorContinue key primaryKey =>
      match key, primaryKey with
      | none, none => b.position
      | _, _ => seek b.position key primaryKey
  | .prefetch _ => b.position
  | .prefetchReset _ _ => b.position

def prefetched (b : Backend) (amount : Nat) : List (Entry Key Value) :=
  (entries.drop b.position).take amount

def reply (b : Backend) (request : Request Key) : IDBCursorResult Key Value :=
  match request with
  | .prefetch amount => batchResult (b.prefetched entries amount)
  | _ => entryResult entries[b.target seek request]?

def receive (b : Backend) : Request Key → Backend
  | .prefetch amount => ⟨b.position + (b.prefetched entries amount).length, b.position⟩
  | .prefetchReset used _ => ⟨b.prefetchStart + used, b.prefetchStart⟩
  | .advance count => ⟨min (b.target seek (.advance count) + 1) entries.length, b.prefetchStart⟩
  | .cursorContinue key primaryKey =>
      ⟨min (b.target seek (.cursorContinue key primaryKey) + 1) entries.length, b.prefetchStart⟩

def take (state : Backend × Option (IDBCursorResult Key Value)) :
    Effect Key Value → Backend × Option (IDBCursorResult Key Value)
  | .send request => (state.1.receive entries seek request,
      if request.awaiting.isSome then some (state.1.reply entries seek request) else state.2)
  | _ => state

def serve (b : Backend) (effects : List (Effect Key Value)) :
    Backend × Option (IDBCursorResult Key Value) :=
  effects.foldl (take entries seek) (b, none)

/-- The cursor without a cache sends each call to the backend and forwards the reply through
`AdvanceCallback` or `CursorContinueCallback`. -/
def plainResults (b : Backend) : List (Call Key) → List (Callback Key Value)
  | [] => []
  | call :: rest => singleEntryCallback (b.reply entries seek call.request) ::
      (b.receive entries seek call.request).plainResults rest

theorem reply_congr {b b' : Backend} (same : b.position = b'.position) (request : Request Key) :
    b.reply entries seek request = b'.reply entries seek request := by
  cases request <;> simp [reply, target, prefetched, same]

theorem receive_call_position {b b' : Backend} (same : b.position = b'.position)
    (call : Call Key) :
    (b.receive entries seek call.request).position = (b'.receive entries seek call.request).position := by
  cases call <;> simp [Call.request, receive, target, same]

theorem receive_call_le (b : Backend) (call : Call Key) :
    (b.receive entries seek call.request).position ≤ entries.length := by
  cases call <;> exact min_le_right _ _

theorem serve_append (b : Backend) (effects rest : List (Effect Key Value)) :
    b.serve entries seek (effects ++ rest) = rest.foldl (take entries seek) (b.serve entries seek effects) :=
  List.foldl_append ..

end Backend

inductive Occurrence (Key : Type)
  | call (call : Call Key)
  | respond
  | postSuccessHandlerCallback
  | resetPrefetchCache

def Occurrence.call? {Key : Type} : Occurrence Key → Option (Call Key)
  | .call made => some made
  | _ => none

def calls {Key : Type} (occurrences : List (Occurrence Key)) : List (Call Key) :=
  occurrences.filterMap Occurrence.call?

structure System (Key Value : Type) where
  session : Session Key Value
  backend : Backend
  inFlight : Option (IDBCursorResult Key Value)

namespace System

variable (limits : PrefetchLimits) (entries : List (Entry Key Value))
  (seek : Nat → Option Key → Option Key → Nat)

def init (transactionId : Int) (start : Nat) : System Key Value :=
  ⟨Session.init limits transactionId, ⟨start, 0⟩, none⟩

def proceed (sys : System Key Value) (event : Event Key Value)
    (kept : Option (IDBCursorResult Key Value)) :
    Except Halt (System Key Value × List (Effect Key Value)) :=
  match sys.session.step limits event with
  | .error halt => .error halt
  | .ok (session, effects) =>
      .ok (⟨session, (sys.backend.serve entries seek effects).1,
        (sys.backend.serve entries seek effects).2.or kept⟩, effects)

def step (sys : System Key Value) :
    Occurrence Key → Except Halt (System Key Value × List (Effect Key Value))
  | .call call => sys.proceed limits entries seek call.event sys.inFlight
  | .respond =>
      match sys.inFlight with
      | none => .error .protocol
      | some result => sys.proceed limits entries seek (.reply result) none
  | .postSuccessHandlerCallback => sys.proceed limits entries seek .postSuccessHandlerCallback sys.inFlight
  | .resetPrefetchCache => sys.proceed limits entries seek .resetPrefetchCache sys.inFlight

def run (sys : System Key Value) :
    List (Occurrence Key) →
      Except Halt (System Key Value × List (Occurrence Key × List (Effect Key Value)))
  | [] => .ok (sys, [])
  | occurrence :: rest =>
      match sys.step limits entries seek occurrence with
      | .error halt => .error halt
      | .ok (next, effects) =>
          match next.run rest with
          | .error halt => .error halt
          | .ok (last, trace) => .ok (last, (occurrence, effects) :: trace)

theorem proceed_ok {sys next : System Key Value} {event : Event Key Value}
    {kept : Option (IDBCursorResult Key Value)} {effects : List (Effect Key Value)}
    (proceeded : sys.proceed limits entries seek event kept = .ok (next, effects)) :
    ∃ session, sys.session.step limits event = .ok (session, effects) ∧
      next = ⟨session, (sys.backend.serve entries seek effects).1,
        (sys.backend.serve entries seek effects).2.or kept⟩ := by
  simp only [proceed] at proceeded
  split at proceeded
  · cases proceeded
  · cases proceeded
    exact ⟨_, ‹_›, rfl⟩

end System

def Callback.isResult {Key Value : Type} : Callback Key Value → Bool
  | .successCursorPrefetch _ _ _ => false
  | _ => true

def Effect.result? {Key Value : Type} : Effect Key Value → Option (Callback Key Value)
  | .callback call => if call.isResult then some call else none
  | _ => none

def deliveredResults {Key Value : Type} (trace : List (Occurrence Key × List (Effect Key Value))) :
    List (Callback Key Value) :=
  (trace.flatMap Prod.snd).filterMap Effect.result?

section Simulation

variable (limits : PrefetchLimits) (entries : List (Entry Key Value))
  (seek : Nat → Option Key → Option Key → Nat)

theorem Entry.getElem?_of_prefix {window : List (Entry Key Value)} {position index : Nat}
    {entry : Entry Key Value} (fits : window <+: entries.drop position)
    (found : window[index]? = some entry) : entries[position + index]? = some entry := by
  obtain ⟨rest, same⟩ := fits
  rw [← List.getElem?_drop, ← same, List.getElem?_append_left (List.getElem?_eq_some_iff.mp found).1]
  exact found

theorem Entry.drop_prefix {window : List (Entry Key Value)} {position : Nat}
    (fits : window <+: entries.drop position) (count : Nat) :
    window.drop count <+: entries.drop (position + count) := by
  obtain ⟨rest, same⟩ := fits
  by_cases within : count ≤ window.length
  · refine ⟨rest, ?_⟩
    rw [← List.drop_append_of_le_length within, same, List.drop_drop, Nat.add_comm]
  · rw [List.drop_eq_nil_of_le (by omega)]
    exact List.nil_prefix

theorem Entry.prefix_length {window : List (Entry Key Value)} {position : Nat}
    (fits : window <+: entries.drop position) (nonempty : window ≠ []) :
    position + window.length ≤ entries.length := by
  have := fits.length_le
  have := List.length_pos.mpr nonempty
  simp only [List.length_drop] at *
  omega

structure Ahead (cursor : WebIDBCursorImpl Key Value) (backend : Backend) (position : Nat)
    (window : List (Entry Key Value)) : Prop where
  holds : cursor.Holds window
  fits : window <+: entries.drop position
  backendPast : backend.position = position + window.length
  startUsed : window ≠ [] → backend.prefetchStart + cursor.usedPrefetches = position

/-- How the cursor with its cache stands to the cursor without one, which has delivered `owed`
more results than it. -/
inductive Tracks : System Key Value → Backend → List (Callback Key Value) → Prop
  | idle {sys : System Key Value} {plain : Backend} {window : List (Entry Key Value)} :
      sys.session.outstanding = none → sys.inFlight = none →
      Ahead entries sys.session.cursor sys.backend plain.position window →
      plain.position ≤ entries.length → Tracks sys plain []
  | awaitingEntry {sys : System Key Value} {plain : Backend} {reply : IDBCursorResult Key Value}
      {awaiting : Awaiting} :
      sys.session.outstanding = some awaiting → awaiting ≠ .prefetchCallback →
      sys.inFlight = some reply → sys.backend.position = plain.position →
      plain.position ≤ entries.length → Tracks sys plain [singleEntryCallback reply]
  | awaitingBatch {sys : System Key Value} {plain : Backend} {batch : List (Entry Key Value)} :
      sys.session.outstanding = some .prefetchCallback → sys.inFlight = some (batchResult batch) →
      batch <+: entries.drop sys.backend.prefetchStart →
      (batch = [] → entries.length ≤ sys.backend.prefetchStart) →
      sys.backend.position = sys.backend.prefetchStart + batch.length →
      plain.position = min (sys.backend.prefetchStart + 1) entries.length →
      sys.backend.prefetchStart ≤ entries.length →
      Tracks sys plain [singleEntryCallback (entryResult entries[sys.backend.prefetchStart]?)]

theorem Tracks.owed_eq_nil {sys : System Key Value} {plain : Backend}
    {owed : List (Callback Key Value)} (tracks : Tracks entries sys plain owed)
    (idle : sys.session.outstanding = none) : owed = [] := by
  cases tracks with
  | idle => rfl
  | awaitingEntry busy | awaitingBatch busy => simp [busy] at idle

theorem Tracks.transfer {sys next : System Key Value} {plain : Backend}
    {owed : List (Callback Key Value)} (tracks : Tracks entries sys plain owed)
    (busy : sys.session.outstanding ≠ none)
    (sameOutstanding : next.session.outstanding = sys.session.outstanding)
    (sameBackend : next.backend = sys.backend) (sameInFlight : next.inFlight = sys.inFlight) :
    Tracks entries next plain owed := by
  cases tracks with
  | idle idle => exact absurd idle busy
  | awaitingEntry waiting plainRequest replied atPlain bounded =>
      exact .awaitingEntry (sameOutstanding.trans waiting) plainRequest (sameInFlight.trans replied)
        (sameBackend ▸ atPlain) bounded
  | awaitingBatch waiting replied fits empty past plainAt bounded =>
      rw [← sameBackend] at fits empty past plainAt bounded ⊢
      exact .awaitingBatch (sameOutstanding.trans waiting) (sameInFlight.trans replied) fits empty
        past plainAt bounded

theorem Entry.ext_maps : ∀ {window window' : List (Entry Key Value)},
    window.map Entry.key = window'.map Entry.key →
    window.map Entry.primaryKey = window'.map Entry.primaryKey →
    window.map Entry.value = window'.map Entry.value → window = window'
  | [], [], _, _, _ => rfl
  | ⟨_, _, _⟩ :: _, ⟨_, _, _⟩ :: _, keys, primaryKeys, values => by
      simp only [List.map_cons, List.cons.injEq] at keys primaryKeys values
      rw [keys.1, primaryKeys.1, values.1,
        Entry.ext_maps keys.2 primaryKeys.2 values.2]

theorem WebIDBCursorImpl.Holds.unique {c : WebIDBCursorImpl Key Value}
    {window window' : List (Entry Key Value)} (holds : c.Holds window) (holds' : c.Holds window') :
    window = window' :=
  Entry.ext_maps (List.reverse_inj.mp (holds.1.symm.trans holds'.1))
    (List.reverse_inj.mp (holds.2.1.symm.trans holds'.2.1))
    (List.reverse_inj.mp (holds.2.2.symm.trans holds'.2.2))

theorem batchResult_eq_values {batch : List (Entry Key Value)} {keys primaryKeys : List Key}
    {values : List Value} (same : batchResult batch = .values keys primaryKeys values) :
    batch.map Entry.key = keys ∧ batch.map Entry.primaryKey = primaryKeys ∧
      batch.map Entry.value = values := by
  unfold batchResult at same
  split at same
  · cases same
  · cases same
    exact ⟨rfl, rfl, rfl⟩

theorem singleEntryCallback_isResult (result : IDBCursorResult Key Value) :
    (singleEntryCallback result).isResult = true := by
  unfold singleEntryCallback
  split <;> rfl

theorem results_resetPrefetchCache (c : WebIDBCursorImpl Key Value) :
    (c.resetPrefetchCache limits).2.filterMap Effect.result? = [] := by
  rw [WebIDBCursorImpl.resetPrefetchCache_effects]
  split <;> rfl

theorem Backend.take_resetPrefetchCache (c : WebIDBCursorImpl Key Value)
    (state : Backend × Option (IDBCursorResult Key Value)) :
    (c.resetPrefetchCache limits).2.foldl (Backend.take entries seek) state =
      if c.prefetchKeys.isEmpty then state
      else (⟨state.1.prefetchStart + c.usedPrefetches, state.1.prefetchStart⟩, state.2) := by
  rw [WebIDBCursorImpl.resetPrefetchCache_effects]
  split <;> rfl

theorem Ahead.empty {cursor : WebIDBCursorImpl Key Value} {backend : Backend} {position : Nat}
    (holds : cursor.Holds []) (atPosition : backend.position = position) :
    Ahead entries cursor backend position [] :=
  ⟨holds, List.nil_prefix, by simp [atPosition], fun nonempty => absurd rfl nonempty⟩

theorem Ahead.reset {c : WebIDBCursorImpl Key Value} {b : Backend} {position : Nat}
    {window : List (Entry Key Value)} (ahead : Ahead entries c b position window)
    (answer : Option (IDBCursorResult Key Value)) :
    ((c.resetPrefetchCache limits).2.foldl (Backend.take entries seek) (b, answer)).2 = answer ∧
      Ahead entries (c.resetPrefetchCache limits).1
        ((c.resetPrefetchCache limits).2.foldl (Backend.take entries seek) (b, answer)).1 position [] := by
  rw [Backend.take_resetPrefetchCache]
  refine ⟨by split <;> rfl,
    Ahead.empty entries (c.resetPrefetchCache_clears limits ahead.holds.sizesAgree) ?_⟩
  split
  · rename_i empty
    rw [ahead.backendPast,
      (WebIDBCursorImpl.Holds.isEmpty_iff _ ahead.holds).mp (List.isEmpty_iff.mp empty)]
    rfl
  · rename_i nonempty
    exact ahead.startUsed fun gone =>
      nonempty (List.isEmpty_iff.mpr ((WebIDBCursorImpl.Holds.isEmpty_iff _ ahead.holds).mpr gone))

theorem Ahead.served {c : WebIDBCursorImpl Key Value} {b : Backend} {position : Nat}
    {window later : List (Entry Key Value)} {entry : Entry Key Value}
    (ahead : Ahead entries c b position window) {count : Nat} (takes : 1 ≤ count)
    (next : window.drop (count - 1) = entry :: later) :
    entries[position + (count - 1)]? = some entry ∧ position + count ≤ entries.length ∧
      Ahead entries (c.served count) b (position + count) (window.drop count) := by
  have found : window[count - 1]? = some entry := by
    rw [← Nat.add_zero (count - 1), ← List.getElem?_drop, next, List.getElem?_cons_zero]
  have fits : count ≤ window.length := by
    have := congrArg List.length next
    simp only [List.length_drop, List.length_cons] at this
    omega
  have bound := Entry.prefix_length entries ahead.fits (by rintro rfl; simp at next)
  refine ⟨Entry.getElem?_of_prefix entries ahead.fits found, by omega,
    ahead.holds.served _ count, Entry.drop_prefix entries ahead.fits count, ?_, fun _ => ?_⟩
  · rw [ahead.backendPast, List.length_drop]
    omega
  · rw [WebIDBCursorImpl.served_usedPrefetches, ← Nat.add_assoc,
      ahead.startUsed (by rintro rfl; simp at next)]

theorem Backend.take_sent (state : Backend × Option (IDBCursorResult Key Value)) (call : Call Key) :
    [Effect.resetCursorPrefetchCaches, .send call.request].foldl (Backend.take entries seek) state =
      (state.1.receive entries seek call.request, some (state.1.reply entries seek call.request)) := by
  cases call <;> rfl

theorem tracks_sent {session : Session Key Value} {awaiting : Awaiting} {plain : Backend}
    (state : Backend × Option (IDBCursorResult Key Value)) (call : Call Key)
    (waiting : session.outstanding = some awaiting) (plainRequest : awaiting ≠ .prefetchCallback)
    (atPlain : state.1.position = plain.position) (kept : Option (IDBCursorResult Key Value)) :
    Tracks entries ⟨session,
        ([Effect.resetCursorPrefetchCaches, .send call.request].foldl (Backend.take entries seek) state).1,
        ([Effect.resetCursorPrefetchCaches, .send call.request].foldl (Backend.take entries seek) state).2.or kept⟩
      (plain.receive entries seek call.request) [singleEntryCallback (plain.reply entries seek call.request)] := by
  rw [Backend.take_sent, Backend.reply_congr entries seek atPlain]
  exact .awaitingEntry waiting plainRequest rfl (Backend.receive_call_position entries seek atPlain call)
    (Backend.receive_call_le entries seek plain call)

theorem Session.Moves.idle_of_call {s next : Session Key Value} {call : Call Key}
    {effects : List (Effect Key Value)} (moves : Session.Moves limits s call.event next effects) :
    s.outstanding = none := by
  cases call <;> cases moves <;> assumption

theorem Tracks.call {sys : System Key Value} {plain : Backend} {owed : List (Callback Key Value)}
    {call : Call Key} {session : Session Key Value} {effects : List (Effect Key Value)}
    (inv : Session.CacheInvariant limits sys.session) (tracks : Tracks entries sys plain owed)
    (moves : Session.Moves limits sys.session call.event session effects) :
    ∃ owedNext, Tracks entries ⟨session, (sys.backend.serve entries seek effects).1,
        (sys.backend.serve entries seek effects).2.or sys.inFlight⟩
        (plain.receive entries seek call.request) owedNext ∧
      owed ++ [singleEntryCallback (plain.reply entries seek call.request)] =
        effects.filterMap Effect.result? ++ owedNext := by
  have idle := moves.idle_of_call limits
  cases tracks with
  | awaitingEntry busy | awaitingBatch busy => simp [busy] at idle
  | @idle window _ noReply ahead bounded =>
    rw [noReply]
    cases call with
    | cursorContinue key primaryKey =>
        cases moves with
        | @keylessCached entry later holds =>
            obtain rfl := WebIDBCursorImpl.Holds.unique ahead.holds holds
            have counted : Ahead entries { sys.session.cursor with
                continueCount := sys.session.cursor.continueCount + 1 } sys.backend plain.position
                (entry :: later) := ⟨ahead.holds, ahead.fits, ahead.backendPast, ahead.startUsed⟩
            obtain ⟨found, bound, served⟩ := counted.served entries (le_refl 1) rfl
            have moved : (plain.receive entries seek (Call.cursorContinue none none).request).position =
                plain.position + 1 := by
              simp [Call.request, Backend.receive, Backend.target]; omega
            refine ⟨[], .idle rfl rfl (moved ▸ served) (moved ▸ bound), ?_⟩
            simp only [Nat.sub_self, Nat.add_zero] at found
            simp [Call.request, Backend.reply, Backend.target, found, entryResult,
              singleEntryCallback, Effect.result?, Callback.isResult]
        | keylessPrefetch holds =>
            obtain rfl := WebIDBCursorImpl.Holds.unique ahead.holds holds
            have atPlain : sys.backend.position = plain.position := by simp [ahead.backendPast]
            have some : 1 ≤ sys.session.cursor.prefetchAmount :=
              le_trans limits.minPos inv.amountAtLeast
            have served : sys.backend.serve entries seek
                [.send (.prefetch sys.session.cursor.prefetchAmount)] =
                (⟨sys.backend.position +
                    (sys.backend.prefetched entries sys.session.cursor.prefetchAmount).length,
                  sys.backend.position⟩,
                  .some (batchResult (sys.backend.prefetched entries sys.session.cursor.prefetchAmount))) :=
              rfl
            rw [served]
            refine ⟨_, .awaitingBatch rfl rfl (List.take_prefix _ _) (fun gone => ?_) rfl
              (by simp [Call.request, Backend.receive, Backend.target, atPlain])
              (by dsimp only; omega), ?_⟩
            · rcases List.take_eq_nil_iff.mp gone with zero | dropped
              · omega
              · exact List.drop_eq_nil_iff.mp dropped
            · simp [Call.request, Backend.reply, Backend.target, Effect.result?, atPlain]
        | keylessPlain holds =>
            obtain rfl := WebIDBCursorImpl.Holds.unique ahead.holds holds
            exact ⟨_, tracks_sent entries seek _ (.cursorContinue none none) rfl (by simp)
              (by simp [ahead.backendPast]) none, by simp [Effect.result?]⟩
        | keyed =>
            rw [Backend.serve_append]
            exact ⟨_, tracks_sent entries seek _ (.cursorContinue key primaryKey) rfl (by simp)
              (by simpa using (ahead.reset limits entries seek none).2.backendPast) none,
              by simp [List.filterMap_append, results_resetPrefetchCache, Effect.result?]⟩
    | advance count =>
        cases moves with
        | advanceCached holds next =>
            obtain rfl := WebIDBCursorImpl.Holds.unique ahead.holds holds
            obtain ⟨found, bound, served⟩ := ahead.served entries count.pos next
            have moved : (plain.receive entries seek (Call.advance count).request).position =
                plain.position + count := by
              have := count.pos
              simp [Call.request, Backend.receive, Backend.target]; omega
            have reply : plain.reply entries seek (Call.advance count).request =
                entryResult entries[plain.position + ((count : Nat) - 1)]? := by
              simp only [Call.request, Backend.reply, Backend.target]
              rw [Nat.add_sub_assoc count.pos]
            refine ⟨[], .idle rfl rfl (moved ▸ served) (moved ▸ bound), ?_⟩
            simp [reply, found, entryResult, singleEntryCallback, Effect.result?, Callback.isResult]
        | advanceUncached =>
            rw [Backend.serve_append]
            exact ⟨_, tracks_sent entries seek _ (.advance count) rfl (by simp)
              (by simpa using (ahead.reset limits entries seek none).2.backendPast) none,
              by simp [List.filterMap_append, results_resetPrefetchCache, Effect.result?]⟩

theorem Backend.serve_resetPrefetchCache_of_empty (b : Backend) {c : WebIDBCursorImpl Key Value}
    (empty : c.prefetchKeys = []) :
    b.serve entries seek (c.resetPrefetchCache limits).2 = (b, none) := by
  rw [Backend.serve, Backend.take_resetPrefetchCache, if_pos (by simp [empty])]

theorem Tracks.respond {sys : System Key Value} {plain : Backend} {owed : List (Callback Key Value)}
    {result : IDBCursorResult Key Value} {session : Session Key Value}
    {effects : List (Effect Key Value)} (inv : Session.CacheInvariant limits sys.session)
    (tracks : Tracks entries sys plain owed) (replied : sys.inFlight = some result)
    (moves : Session.Moves limits sys.session (.reply result) session effects) :
    ∃ owedNext, Tracks entries ⟨session, (sys.backend.serve entries seek effects).1,
        (sys.backend.serve entries seek effects).2.or none⟩ plain owedNext ∧
      owed = effects.filterMap Effect.result? ++ owedNext := by
  have emptyWhenBusy := inv.emptyWhileOutstanding limits
  cases tracks with
  | idle _ noReply => simp [noReply] at replied
  | @awaitingEntry reply awaiting waiting plainRequest inFlight atPlain bounded =>
      rw [inFlight, Option.some.injEq] at replied
      subst replied
      have holds := emptyWhenBusy (by simp [waiting])
      have answered : ∀ call : Callback Key Value, call = singleEntryCallback reply →
          ∃ owedNext, Tracks entries ⟨⟨sys.session.cursor, none⟩,
            (sys.backend.serve entries seek [.callback call]).1,
            (sys.backend.serve entries seek [.callback call]).2.or none⟩ plain owedNext ∧
          [singleEntryCallback reply] = [Effect.callback call].filterMap Effect.result? ++ owedNext := by
        rintro _ rfl
        exact ⟨[], .idle rfl rfl (Ahead.empty entries holds atPlain) bounded,
          by simp [Effect.result?, singleEntryCallback_isResult]⟩
      cases moves with
      | replyAdvance | replyContinue => exact answered _ rfl
      | replyBatch busy | replyNoBatch busy =>
          exact absurd (Option.some.inj (waiting.symm.trans busy)) plainRequest
  | @awaitingBatch batch waiting inFlight fits empty past plainAt bounded =>
      have holds := emptyWhenBusy (by simp [waiting])
      cases moves with
      | replyAdvance busy | replyContinue busy => simp [waiting] at busy
      | @replyBatch entry later _ cacheEmpty =>
          rw [inFlight, Option.some.injEq] at replied
          obtain ⟨keysEq, primaryEq, valuesEq⟩ := batchResult_eq_values replied
          obtain rfl := Entry.ext_maps keysEq primaryEq valuesEq
          have found : entries[sys.backend.prefetchStart + 0]? = some entry :=
            Entry.getElem?_of_prefix entries fits (List.getElem?_cons_zero ..)
          rw [Nat.add_zero] at found
          have bound := Entry.prefix_length entries fits (List.cons_ne_nil _ _)
          set stored := (sys.session.cursor.setPrefetchData ((entry :: later).map Entry.key)
            ((entry :: later).map Entry.primaryKey) ((entry :: later).map Entry.value)).served 1
            with storedEq
          have storedAhead : Ahead entries stored sys.backend (sys.backend.prefetchStart + 1) later :=
            ⟨(sys.session.cursor.setPrefetchData_holds (entry :: later) cacheEmpty).served _ 1,
              Entry.drop_prefix entries fits 1, by simp only [past, List.length_cons]; omega,
              fun _ => by simp [storedEq, WebIDBCursorImpl.setPrefetchData]⟩
          have moved : plain.position = sys.backend.prefetchStart + 1 := by
            simp only [List.length_cons] at bound; omega
          replace storedAhead : Ahead entries stored sys.backend plain.position later :=
            moved ▸ storedAhead
          replace bounded : plain.position ≤ entries.length := by
            simp only [List.length_cons] at bound; omega
          have delivered : [singleEntryCallback (entryResult entries[sys.backend.prefetchStart]?)] =
              [Callback.successCursorContinue entry.key entry.primaryKey entry.value] := by
            rw [found]; rfl
          by_cases stale : stored.continueCount = 0
          · rw [WebIDBCursorImpl.dropStaleBatch_of_eq_zero limits _ stale]
            obtain ⟨answered, reset⟩ := storedAhead.reset limits entries seek none
            have served : ∀ batchCall deliver : Callback Key Value, sys.backend.serve entries seek
                (.callback batchCall :: ((stored.resetPrefetchCache limits).2 ++ [.callback deliver])) =
                (stored.resetPrefetchCache limits).2.foldl (Backend.take entries seek) (sys.backend, none) := by
              intro batchCall deliver
              rw [Backend.serve, List.foldl_cons, List.foldl_append]
              rfl
            rw [served]
            refine ⟨[], .idle rfl (by rw [answered]; rfl) reset bounded, ?_⟩
            rw [delivered]
            simp [List.filterMap_append, results_resetPrefetchCache, Effect.result?, Callback.isResult]
          · rw [WebIDBCursorImpl.dropStaleBatch_of_ne_zero limits _ stale]
            refine ⟨[], .idle rfl rfl storedAhead bounded, ?_⟩
            rw [delivered]
            simp [Effect.result?, Callback.isResult]
      | replyNoBatch _ notBatch =>
          rw [inFlight, Option.some.injEq] at replied
          subst replied
          cases batch with
          | cons first rest =>
              exact absurd (by simp [batchResult, prefetchCallback])
                (notBatch ((first :: rest).map Entry.key) ((first :: rest).map Entry.primaryKey)
                  ((first :: rest).map Entry.value))
          | nil =>
              have atEnd : sys.backend.prefetchStart = entries.length :=
                Nat.le_antisymm bounded (empty rfl)
              refine ⟨[], .idle rfl rfl (Ahead.empty entries holds ?_) (by omega), ?_⟩
              · show sys.backend.position = plain.position
                rw [past, plainAt, atEnd]
                simp
              · rw [atEnd, List.getElem?_eq_none (le_refl _)]
                rfl

theorem Tracks.reset {sys : System Key Value} {plain : Backend} {owed : List (Callback Key Value)}
    (c : WebIDBCursorImpl Key Value) (inv : Session.CacheInvariant limits sys.session)
    (tracks : Tracks entries sys plain owed) (sameCache : c.Holds = sys.session.cursor.Holds)
    (sameUsed : c.usedPrefetches = sys.session.cursor.usedPrefetches) :
    ∃ owedNext, Tracks entries ⟨⟨(c.resetPrefetchCache limits).1, sys.session.outstanding⟩,
        (sys.backend.serve entries seek (c.resetPrefetchCache limits).2).1,
        (sys.backend.serve entries seek (c.resetPrefetchCache limits).2).2.or sys.inFlight⟩ plain owedNext ∧
      owed = (c.resetPrefetchCache limits).2.filterMap Effect.result? ++ owedNext := by
  simp only [results_resetPrefetchCache, List.nil_append]
  cases tracks with
  | @idle window idle noReply ahead bounded =>
      have ahead : Ahead entries c sys.backend plain.position window :=
        ⟨sameCache ▸ ahead.holds, ahead.fits, ahead.backendPast, sameUsed ▸ ahead.startUsed⟩
      obtain ⟨answered, reset⟩ := ahead.reset limits entries seek none
      exact ⟨[], .idle idle (by rw [noReply, Backend.serve, answered]; rfl) reset bounded, rfl⟩
  | awaitingEntry waiting =>
      have empty : c.prefetchKeys = [] :=
        (sameCache ▸ inv.emptyWhileOutstanding limits (by simp [waiting]) : c.Holds []).1
      exact ⟨_, Tracks.transfer entries (.awaitingEntry waiting ‹_› ‹_› ‹_› ‹_›) (by simp [waiting]) rfl
        (by rw [Backend.serve_resetPrefetchCache_of_empty limits entries seek _ empty])
        (by rw [Backend.serve_resetPrefetchCache_of_empty limits entries seek _ empty]; rfl), rfl⟩
  | awaitingBatch waiting =>
      have empty : c.prefetchKeys = [] :=
        (sameCache ▸ inv.emptyWhileOutstanding limits (by simp [waiting]) : c.Holds []).1
      exact ⟨_, Tracks.transfer entries (.awaitingBatch waiting ‹_› ‹_› ‹_› ‹_› ‹_› ‹_›)
        (by simp [waiting]) rfl
        (by rw [Backend.serve_resetPrefetchCache_of_empty limits entries seek _ empty])
        (by rw [Backend.serve_resetPrefetchCache_of_empty limits entries seek _ empty]; rfl), rfl⟩

def Backend.afterOccurrence (b : Backend) : Occurrence Key → Backend
  | .call call => b.receive entries seek call.request
  | _ => b

def Backend.resultsOf (b : Backend) : Occurrence Key → List (Callback Key Value)
  | .call call => [singleEntryCallback (b.reply entries seek call.request)]
  | _ => []

theorem Tracks.step {sys next : System Key Value} {plain : Backend}
    {owed : List (Callback Key Value)} {occurrence : Occurrence Key}
    {effects : List (Effect Key Value)} (inv : Session.CacheInvariant limits sys.session)
    (tracks : Tracks entries sys plain owed)
    (stepped : sys.step limits entries seek occurrence = .ok (next, effects)) :
    ∃ owedNext, Tracks entries next (plain.afterOccurrence entries seek occurrence) owedNext ∧
      owed ++ plain.resultsOf entries seek occurrence = effects.filterMap Effect.result? ++ owedNext := by
  cases occurrence with
  | call call =>
      obtain ⟨session, sessionStepped, rfl⟩ := System.proceed_ok limits entries seek stepped
      exact tracks.call limits entries seek inv (inv.moves limits sessionStepped)
  | respond =>
      simp only [System.step] at stepped
      split at stepped
      · cases stepped
      · rename_i result replied
        obtain ⟨session, sessionStepped, rfl⟩ := System.proceed_ok limits entries seek stepped
        obtain ⟨owedNext, tracked, same⟩ :=
          tracks.respond limits entries seek inv replied (inv.moves limits sessionStepped)
        exact ⟨owedNext, tracked, by simpa [Backend.resultsOf] using same⟩
  | postSuccessHandlerCallback =>
      obtain ⟨session, sessionStepped, rfl⟩ := System.proceed_ok limits entries seek stepped
      simp only [Backend.afterOccurrence, Backend.resultsOf, List.append_nil]
      cases inv.moves limits sessionStepped with
      | postLast => exact tracks.reset limits entries seek _ inv rfl rfl
      | postMore =>
          cases tracks with
          | @idle window idle noReply ahead bounded =>
              exact ⟨[], .idle idle noReply ⟨ahead.holds, ahead.fits, ahead.backendPast,
                ahead.startUsed⟩ bounded, rfl⟩
          | awaitingEntry waiting =>
              exact ⟨_, Tracks.transfer entries (.awaitingEntry waiting ‹_› ‹_› ‹_› ‹_›)
                (by simp [waiting]) rfl rfl rfl, rfl⟩
          | awaitingBatch waiting =>
              exact ⟨_, Tracks.transfer entries (.awaitingBatch waiting ‹_› ‹_› ‹_› ‹_› ‹_› ‹_›)
                (by simp [waiting]) rfl rfl rfl, rfl⟩
  | resetPrefetchCache =>
      obtain ⟨session, sessionStepped, rfl⟩ := System.proceed_ok limits entries seek stepped
      simp only [Backend.afterOccurrence, Backend.resultsOf, List.append_nil]
      cases inv.moves limits sessionStepped with
      | reset => exact tracks.reset limits entries seek _ inv rfl rfl

theorem System.step_session {sys next : System Key Value} {occurrence : Occurrence Key}
    {effects : List (Effect Key Value)}
    (stepped : sys.step limits entries seek occurrence = .ok (next, effects)) :
    ∃ event, sys.session.step limits event = .ok (next.session, effects) := by
  cases occurrence with
  | respond =>
      simp only [System.step] at stepped
      split at stepped
      · cases stepped
      · obtain ⟨session, sessionStepped, rfl⟩ := System.proceed_ok limits entries seek stepped
        exact ⟨_, sessionStepped⟩
  | _ =>
      obtain ⟨session, sessionStepped, rfl⟩ := System.proceed_ok limits entries seek stepped
      exact ⟨_, sessionStepped⟩

theorem Backend.plainResults_calls_cons (b : Backend) (occurrence : Occurrence Key)
    (rest : List (Occurrence Key)) :
    (b.plainResults entries seek (calls (occurrence :: rest)) : List (Callback Key Value)) =
      b.resultsOf entries seek occurrence ++
        (b.afterOccurrence entries seek occurrence).plainResults entries seek (calls rest) := by
  cases occurrence <;> rfl

/-- Over a whole run, the plain cursor's results, after what it was owed at the start, are the
results delivered followed by what is owed at the end. -/
theorem Tracks.run {sys last : System Key Value} {plain : Backend}
    {owed : List (Callback Key Value)} {occurrences : List (Occurrence Key)}
    {trace : List (Occurrence Key × List (Effect Key Value))}
    (reachable : Session.Reachable limits sys.session) (tracks : Tracks entries sys plain owed)
    (ran : sys.run limits entries seek occurrences = .ok (last, trace)) :
    ∃ plainLast owedLast, Tracks entries last plainLast owedLast ∧
      owed ++ plain.plainResults entries seek (calls occurrences) =
        deliveredResults trace ++ owedLast := by
  induction occurrences generalizing sys plain owed trace with
  | nil =>
      cases ran
      exact ⟨plain, owed, tracks, by simp [calls, Backend.plainResults, deliveredResults]⟩
  | cons occurrence rest ih =>
      simp only [System.run] at ran
      split at ran
      · cases ran
      · rename_i next effects stepped
        split at ran
        · cases ran
        · rename_i last' trace' ran'
          cases ran
          obtain ⟨event, sessionStepped⟩ := System.step_session limits entries seek stepped
          obtain ⟨owedNext, tracked, same⟩ :=
            tracks.step limits entries seek reachable.cacheInvariant stepped
          obtain ⟨plainLast, owedLast, trackedLast, rest⟩ :=
            ih (reachable.step sessionStepped) tracked ran'
          refine ⟨plainLast, owedLast, trackedLast, ?_⟩
          rw [Backend.plainResults_calls_cons, ← List.append_assoc, same, List.append_assoc, rest]
          simp [deliveredResults, List.filterMap_append]

theorem Tracks.step_ne_assertion {sys : System Key Value} {plain : Backend}
    {owed : List (Callback Key Value)} (inv : Session.CacheInvariant limits sys.session)
    (tracks : Tracks entries sys plain owed) (occurrence : Occurrence Key) :
    sys.step limits entries seek occurrence ≠ .error .assertion := by
  have proceeded : ∀ event kept, sys.proceed limits entries seek event kept = .error .assertion →
      sys.session.outstanding = some .prefetchCallback ∧ event = .reply (.values [] [] []) := by
    intro event kept halted
    simp only [System.proceed] at halted
    split at halted
    · cases halted
      exact (inv.step_eq_assertion_iff limits event).mp ‹_›
    · cases halted
  intro halted
  cases occurrence with
  | respond =>
      simp only [System.step] at halted
      split at halted
      · cases halted
      · rename_i result replied
        obtain ⟨busy, emptyBatch⟩ := proceeded _ _ halted
        cases emptyBatch
        cases tracks with
        | idle _ noReply => simp [noReply] at replied
        | awaitingEntry waiting plainRequest =>
            exact plainRequest (Option.some.inj (waiting.symm.trans busy))
        | awaitingBatch _ inFlight =>
            rw [inFlight, Option.some.injEq] at replied
            obtain ⟨keysEq, -, -⟩ := batchResult_eq_values replied
            obtain rfl := List.map_eq_nil_iff.mp keysEq
            simp [batchResult] at replied
  | call call => cases call <;> simpa [Call.event] using (proceeded _ _ halted).2
  | postSuccessHandlerCallback | resetPrefetchCache => simpa using (proceeded _ _ halted).2

theorem Tracks.run_ne_assertion {sys : System Key Value} {plain : Backend}
    {owed : List (Callback Key Value)} (reachable : Session.Reachable limits sys.session)
    (tracks : Tracks entries sys plain owed) (occurrences : List (Occurrence Key)) :
    sys.run limits entries seek occurrences ≠ .error .assertion := by
  induction occurrences generalizing sys plain owed with
  | nil => simp [System.run]
  | cons occurrence rest ih =>
      intro halted
      simp only [System.run] at halted
      split at halted
      · cases halted
        exact tracks.step_ne_assertion limits entries seek reachable.cacheInvariant occurrence ‹_›
      · rename_i next effects stepped
        split at halted
        · cases halted
          obtain ⟨event, sessionStepped⟩ := System.step_session limits entries seek stepped
          obtain ⟨owedNext, tracked, -⟩ :=
            tracks.step limits entries seek reachable.cacheInvariant stepped
          exact ih (reachable.step sessionStepped) tracked ‹_›
        · cases halted

theorem cachedCursor_never_fails_dcheck {transactionId : Int} {start : Nat}
    (opened : start ≤ entries.length) (occurrences : List (Occurrence Key)) :
    (System.init limits transactionId start : System Key Value).run limits entries seek occurrences ≠
      .error .assertion :=
  Tracks.run_ne_assertion limits entries seek (.init transactionId)
    (.idle rfl rfl (Ahead.empty entries ⟨rfl, rfl, rfl⟩ rfl) opened) occurrences

/-- The prefetch cache is invisible: over every run of calls, backend replies, success
handlers' ends and sibling resets, with at most one request in flight, no `DCHECK` fails, and
the results the caller receives are those a cursor without a cache delivers for the same calls
from the same backend position, except the result of a call still in flight; once no request is
in flight they are the same. -/
theorem cachedResults_match_plain {transactionId : Int} {start : Nat}
    (opened : start ≤ entries.length) (occurrences : List (Occurrence Key)) :
    (System.init limits transactionId start : System Key Value).run limits entries seek occurrences ≠
        .error .assertion ∧
      ∀ {last : System Key Value} {trace : List (Occurrence Key × List (Effect Key Value))},
        (System.init limits transactionId start).run limits entries seek occurrences =
          .ok (last, trace) →
        deliveredResults trace <+: (⟨start, 0⟩ : Backend).plainResults entries seek (calls occurrences) ∧
          (last.session.outstanding = none →
            deliveredResults trace = (⟨start, 0⟩ : Backend).plainResults entries seek
              (calls occurrences)) := by
  refine ⟨cachedCursor_never_fails_dcheck limits entries seek opened occurrences, fun ran => ?_⟩
  have initial : Tracks entries (System.init limits transactionId start) ⟨start, 0⟩ [] :=
    .idle rfl rfl (Ahead.empty entries ⟨rfl, rfl, rfl⟩ rfl) opened
  obtain ⟨plainLast, owedLast, tracked, same⟩ :=
    initial.run limits entries seek (.init transactionId) ran
  rw [List.nil_append] at same
  refine ⟨⟨owedLast, same.symm⟩, fun idle => ?_⟩
  rw [same, tracked.owed_eq_nil entries idle, List.append_nil]

/-- Four entries read by keyless continues and an advance past the end: the third continue
prefetches the last two entries, the fourth is served from the cache. -/
theorem keyless_reads_match_plain :
    let entries : List (Entry Nat Nat) := [⟨1, 1, 10⟩, ⟨2, 2, 20⟩, ⟨3, 3, 30⟩, ⟨4, 4, 40⟩]
    let seek : Nat → Option Nat → Option Nat → Nat := fun position _ _ => position
    let occurrences : List (Occurrence Nat) := [.call (.cursorContinue none none), .respond,
      .call (.cursorContinue none none), .respond, .call (.cursorContinue none none), .respond,
      .call (.cursorContinue none none), .call (.advance 1), .respond]
    ∃ last trace, 0 ≤ entries.length ∧
      (System.init exampleLimits 0 0).run exampleLimits entries seek occurrences ≠
        .error .assertion ∧
      (System.init exampleLimits 0 0).run exampleLimits entries seek occurrences = .ok (last, trace) ∧
      (deliveredResults trace <+: (⟨0, 0⟩ : Backend).plainResults entries seek (calls occurrences) ∧
        (last.session.outstanding = none →
          deliveredResults trace = (⟨0, 0⟩ : Backend).plainResults entries seek (calls occurrences))) := by
  intro entries seek occurrences
  have succeeded : ((System.init exampleLimits 0 0).run exampleLimits entries seek
      occurrences).isOk = true := by rfl
  obtain ⟨noDcheck, agrees⟩ :=
    @cachedResults_match_plain _ _ exampleLimits entries seek 0 0 (Nat.zero_le _) occurrences
  cases ran : (System.init exampleLimits 0 0).run exampleLimits entries seek occurrences with
  | error halt =>
      rw [ran] at succeeded
      cases succeeded
  | ok result =>
      obtain ⟨last, trace⟩ := result
      exact ⟨last, trace, Nat.zero_le _, ran ▸ noDcheck, rfl, agrees ran⟩

end Simulation

end BlinkIndexedDB
