import Mathlib.Data.List.Basic

/-!
The prefetch cache of `WebIDBCursorImpl` (web_idb_cursor_impl.cc): the cursor's fields, the
replies it receives from the backend and the member functions that read or write the cache.
A member function returns the new cursor together with what it did outside itself, in order.
-/

namespace BlinkIndexedDB

/-- The enum constants of `WebIDBCursorImpl`'s header, which is not among the sources. The
model uses only that the minimum prefetch amount is positive and at most the maximum. -/
structure PrefetchLimits where
  kPrefetchContinueThreshold : Nat
  kMinPrefetchAmount : Nat
  kMaxPrefetchAmount : Nat
  minPos : 0 < kMinPrefetchAmount
  minLeMax : kMinPrefetchAmount ≤ kMaxPrefetchAmount

def exampleLimits : PrefetchLimits := ⟨2, 5, 100, by decide, by decide⟩

inductive IDBException
  | kUnknownError
  | other (code : Nat)
  deriving DecidableEq, Repr

structure IDBError where
  errorCode : IDBException
  errorMessage : String
  deriving DecidableEq, Repr

inductive IDBCursorResult (Key Value : Type)
  | errorResult (error : IDBError)
  | empty (flag : Bool)
  | values (keys primaryKeys : List Key) (values : List Value)
  deriving DecidableEq, Repr

inductive Request (Key : Type)
  | advance (count : Nat)
  | cursorContinue (key primaryKey : Option Key)
  | prefetch (amount : Nat)
  | prefetchReset (usedPrefetches unusedPrefetches : Nat)
  deriving DecidableEq, Repr

inductive Callback (Key Value : Type)
  | successCursorContinue (key primaryKey : Key) (value : Value)
  | successValue
  | error (code : IDBException) (message : String)
  | successCursorPrefetch (keys primaryKeys : List Key) (values : List Value)
  deriving DecidableEq, Repr

inductive Effect (Key Value : Type)
  | send (request : Request Key)
  | resetCursorPrefetchCaches
  | callback (call : Callback Key Value)
  deriving DecidableEq, Repr

/-- The fields of `WebIDBCursorImpl` that the cache logic reads. The three vectors hold the
prefetched entries back to front: the next entry is the last element. -/
structure WebIDBCursorImpl (Key Value : Type) where
  transactionId : Int
  continueCount : Nat
  usedPrefetches : Nat
  pendingOnsuccessCallbacks : Int
  prefetchAmount : Nat
  prefetchKeys : List Key
  prefetchPrimaryKeys : List Key
  prefetchValues : List Value
  deriving DecidableEq, Repr

namespace WebIDBCursorImpl

variable {Key Value : Type} (limits : PrefetchLimits)

def create (transactionId : Int) : WebIDBCursorImpl Key Value where
  transactionId := transactionId
  continueCount := 0
  usedPrefetches := 0
  pendingOnsuccessCallbacks := 0
  prefetchAmount := limits.kMinPrefetchAmount
  prefetchKeys := []
  prefetchPrimaryKeys := []
  prefetchValues := []

def resetPrefetchCache (c : WebIDBCursorImpl Key Value) :
    WebIDBCursorImpl Key Value × List (Effect Key Value) :=
  let c := { c with continueCount := 0, prefetchAmount := limits.kMinPrefetchAmount }
  if c.prefetchKeys.isEmpty then (c, [])
  else
    ({ c with prefetchKeys := [], prefetchPrimaryKeys := [], prefetchValues := [],
              pendingOnsuccessCallbacks := 0 },
     [.send (.prefetchReset c.usedPrefetches c.prefetchKeys.length)])

def SizesAgree (c : WebIDBCursorImpl Key Value) : Prop :=
  c.prefetchPrimaryKeys.length = c.prefetchKeys.length ∧
    c.prefetchValues.length = c.prefetchKeys.length

instance (c : WebIDBCursorImpl Key Value) : Decidable c.SizesAgree :=
  inferInstanceAs (Decidable (_ ∧ _))

def popPrefetch (c : WebIDBCursorImpl Key Value) : WebIDBCursorImpl Key Value :=
  { c with prefetchKeys := c.prefetchKeys.dropLast,
           prefetchPrimaryKeys := c.prefetchPrimaryKeys.dropLast,
           prefetchValues := c.prefetchValues.dropLast,
           usedPrefetches := c.usedPrefetches + 1 }

def dropStaleBatch (c : WebIDBCursorImpl Key Value) :
    WebIDBCursorImpl Key Value × List (Effect Key Value) :=
  if c.continueCount = 0 then resetPrefetchCache limits c else (c, [])

/-- `CachedContinue`; `none` when a `DCHECK` at its head fails, where `back()` would read an
empty vector. -/
def cachedContinue (c : WebIDBCursorImpl Key Value) :
    Option (WebIDBCursorImpl Key Value × List (Effect Key Value)) :=
  if c.SizesAgree then
    match c.prefetchKeys.getLast?, c.prefetchPrimaryKeys.getLast?, c.prefetchValues.getLast? with
    | some key, some primaryKey, some value =>
        let drained := dropStaleBatch limits { c.popPrefetch with
          pendingOnsuccessCallbacks := c.pendingOnsuccessCallbacks + 1 }
        some (drained.1, drained.2 ++ [.callback (.successCursorContinue key primaryKey value)])
    | _, _, _ => none
  else none

def skipPrefetches : Nat → WebIDBCursorImpl Key Value → WebIDBCursorImpl Key Value
  | count + 2, c => skipPrefetches (count + 1) c.popPrefetch
  | _, c => c

def cachedAdvance (count : Nat) (c : WebIDBCursorImpl Key Value) :
    Option (WebIDBCursorImpl Key Value × List (Effect Key Value)) :=
  if count ≤ c.prefetchKeys.length ∧ c.SizesAgree then
    cachedContinue limits (skipPrefetches count c)
  else none

def advance (count : Nat) (c : WebIDBCursorImpl Key Value) :
    Option (WebIDBCursorImpl Key Value × List (Effect Key Value)) :=
  if count ≤ c.prefetchKeys.length then cachedAdvance limits count c
  else
    let reset := resetPrefetchCache limits c
    some (reset.1, reset.2 ++ [.resetCursorPrefetchCaches, .send (.advance count)])

def doubledAmount (amount : Nat) : Nat :=
  if limits.kMaxPrefetchAmount < amount * 2 then limits.kMaxPrefetchAmount else amount * 2

def cursorContinue (key primaryKey : Option Key) (c : WebIDBCursorImpl Key Value) :
    Option (WebIDBCursorImpl Key Value × List (Effect Key Value)) :=
  match key, primaryKey with
  | none, none =>
      let c := { c with continueCount := c.continueCount + 1 }
      if !c.prefetchKeys.isEmpty then cachedContinue limits c
      else if limits.kPrefetchContinueThreshold < c.continueCount then
        some ({ c with pendingOnsuccessCallbacks := c.pendingOnsuccessCallbacks + 1,
                       prefetchAmount := doubledAmount limits c.prefetchAmount },
              [.send (.prefetch c.prefetchAmount)])
      else some (c, [.resetCursorPrefetchCaches, .send (.cursorContinue none none)])
  | _, _ =>
      let reset := resetPrefetchCache limits c
      some (reset.1, reset.2 ++ [.resetCursorPrefetchCaches, .send (.cursorContinue key primaryKey)])

def postSuccessHandlerCallback (c : WebIDBCursorImpl Key Value) :
    WebIDBCursorImpl Key Value × List (Effect Key Value) :=
  let c := { c with pendingOnsuccessCallbacks := c.pendingOnsuccessCallbacks - 1 }
  if c.pendingOnsuccessCallbacks = 0 then resetPrefetchCache limits c else (c, [])

def setPrefetchData (keys primaryKeys : List Key) (values : List Value)
    (c : WebIDBCursorImpl Key Value) : WebIDBCursorImpl Key Value :=
  { c with prefetchKeys := c.prefetchKeys ++ keys.reverse,
           prefetchPrimaryKeys := c.prefetchPrimaryKeys ++ primaryKeys.reverse,
           prefetchValues := c.prefetchValues ++ values.reverse,
           usedPrefetches := 0,
           pendingOnsuccessCallbacks := 0 }

/-- Modelled from the spec: `WebIDBCallbacksImpl::SuccessCursorPrefetch`, which is not among the
sources, stores the batch with `SetPrefetchData` and serves its first entry with
`CachedContinue`. -/
def successCursorPrefetch (keys primaryKeys : List Key) (values : List Value)
    (c : WebIDBCursorImpl Key Value) :
    Option (WebIDBCursorImpl Key Value × List (Effect Key Value)) :=
  cachedContinue limits (setPrefetchData keys primaryKeys values c)

end WebIDBCursorImpl

def singleEntryCallback {Key Value : Type} : IDBCursorResult Key Value → Callback Key Value
  | .errorResult error => .error error.errorCode error.errorMessage
  | .empty true => .successValue
  | .empty false => .error .kUnknownError "Invalid response"
  | .values [key] [primaryKey] [value] => .successCursorContinue key primaryKey value
  | .values _ _ _ => .error .kUnknownError "Invalid response"

def advanceCallback {Key Value : Type} (result : IDBCursorResult Key Value) :
    Callback Key Value :=
  singleEntryCallback result

def cursorContinueCallback {Key Value : Type} (result : IDBCursorResult Key Value) :
    Callback Key Value :=
  singleEntryCallback result

def prefetchCallback {Key Value : Type} : IDBCursorResult Key Value → Callback Key Value
  | .errorResult error => .error error.errorCode error.errorMessage
  | .empty true => .successValue
  | .empty false => .error .kUnknownError "Invalid response"
  | .values keys primaryKeys values =>
      if keys.length ≠ primaryKeys.length ∨ keys.length ≠ values.length then
        .error .kUnknownError "Invalid response"
      else .successCursorPrefetch keys primaryKeys values

end BlinkIndexedDB
