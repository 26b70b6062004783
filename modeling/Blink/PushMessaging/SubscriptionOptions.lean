import Mathlib.Data.List.Basic

/-!
`PushSubscriptionOptions::FromOptionsInit`: the `applicationServerKey` must be a 65-byte VAPID key
or a numeric sender id. For an `ArrayBufferView` the code checks the whole underlying buffer, not
the view's window of it.
-/

namespace BlinkPushMessaging

/-- Modelled from the spec: an `ArrayBufferView`, a window of `byteLength` bytes from
`byteOffset` into its buffer. -/
structure ArrayBufferView where
  buffer : List UInt8
  byteOffset : Nat
  byteLength : Nat
  inBounds : byteOffset + byteLength ≤ buffer.length

inductive ArrayBufferOrArrayBufferViewOrString
  | arrayBuffer (data : List UInt8)
  | arrayBufferView (view : ArrayBufferView)
  | string (value : String)

structure PushSubscriptionOptionsInit where
  userVisibleOnly : Bool
  applicationServerKey : Option ArrayBufferOrArrayBufferViewOrString

structure PushSubscriptionOptions where
  userVisibleOnly : Bool
  applicationServerKey : List UInt8
  deriving DecidableEq, Repr

inductive DOMExceptionCode
  | invalidCharacterError
  | invalidAccessError
  deriving DecidableEq, Repr

structure DOMException where
  code : DOMExceptionCode
  message : String
  deriving DecidableEq, Repr

def kMaxApplicationServerKeyLength : Nat := 255

def isASCIIDigit (c : UInt8) : Bool := 0x30 ≤ c && c ≤ 0x39

def isVapid (input : List UInt8) : Bool := input.length == 65 && input.head? == some 0x04

def isSenderId (input : List UInt8) : Bool :=
  0 < input.length && input.length < kMaxApplicationServerKeyLength && input.all isASCIIDigit

def notBase64URLError : DOMException :=
  ⟨.invalidCharacterError,
    "The provided applicationServerKey is not encoded as base64url without padding."⟩

def notValidError : DOMException := ⟨.invalidAccessError, "The provided applicationServerKey is not valid."⟩

def checkSenderInfo (input : List UInt8) : List UInt8 × Option DOMException :=
  if isVapid input || isSenderId input then (input, none) else ([], some notValidError)

/-- `BufferSourceToVector`. `decode` is `Base64UnpaddedURLDecode`, whose source is not among the
sources. -/
def bufferSourceToVector (decode : String → Option (List UInt8)) :
    ArrayBufferOrArrayBufferViewOrString → List UInt8 × Option DOMException
  | .arrayBuffer data => checkSenderInfo data
  | .arrayBufferView view => checkSenderInfo view.buffer
  | .string value =>
      match decode value with
      | none => ([], some notBase64URLError)
      | some decoded => checkSenderInfo decoded

def fromOptionsInit (decode : String → Option (List UInt8)) (optionsInit : PushSubscriptionOptionsInit) :
    PushSubscriptionOptions × Option DOMException :=
  match optionsInit.applicationServerKey with
  | none => (⟨optionsInit.userVisibleOnly, []⟩, none)
  | some key =>
      let (applicationServerKey, exception) := bufferSourceToVector decode key
      (⟨optionsInit.userVisibleOnly, [] ++ applicationServerKey⟩, exception)

/-! ### The law of the key -/

def ArrayBufferOrArrayBufferViewOrString.denotedBytes (decode : String → Option (List UInt8)) :
    ArrayBufferOrArrayBufferViewOrString → Option (List UInt8)
  | .arrayBuffer data => some data
  | .arrayBufferView view => some ((view.buffer.drop view.byteOffset).take view.byteLength)
  | .string value => decode value

def IsValidKey (b : List UInt8) : Prop :=
  (b.length = 65 ∧ b.head? = some 0x04) ∨
    (b ≠ [] ∧ b.length < 255 ∧ ∀ x ∈ b, 0x30 ≤ x ∧ x ≤ 0x39)

theorem isVapid_or_isSenderId (b : List UInt8) :
    (isVapid b || isSenderId b) = true ↔ IsValidKey b := by
  simp only [isVapid, isSenderId, isASCIIDigit, kMaxApplicationServerKeyLength, IsValidKey,
    Bool.or_eq_true, Bool.and_eq_true, beq_iff_eq, decide_eq_true_eq, List.all_eq_true,
    List.length_pos, and_assoc]

instance (b : List UInt8) : Decidable (IsValidKey b) :=
  decidable_of_iff _ (isVapid_or_isSenderId b)

/-- The options `FromOptionsInit` should give: the denoted bytes and no exception for a valid key,
`InvalidAccessError` and an empty key for any other decodable one, `InvalidCharacterError` and an
empty key for a string that does not decode. -/
def expectedOptions (decode : String → Option (List UInt8)) (optionsInit : PushSubscriptionOptionsInit) :
    PushSubscriptionOptions × Option DOMException :=
  match optionsInit.applicationServerKey with
  | none => (⟨optionsInit.userVisibleOnly, []⟩, none)
  | some key =>
      match key.denotedBytes decode with
      | none => (⟨optionsInit.userVisibleOnly, []⟩, some notBase64URLError)
      | some b =>
          if IsValidKey b then (⟨optionsInit.userVisibleOnly, b⟩, none)
          else (⟨optionsInit.userVisibleOnly, []⟩, some notValidError)

/-- A view of the first byte of the buffer `"1a"` denotes the sender id `"1"`, but the code checks
the whole buffer, throws `InvalidAccessError` and stores an empty key. -/
theorem fromOptionsInit_checks_view_buffer (decode : String → Option (List UInt8)) :
    expectedOptions decode ⟨false, some (.arrayBufferView ⟨[0x31, 0x61], 0, 1, by decide⟩)⟩ =
        (⟨false, [0x31]⟩, none) ∧
      fromOptionsInit decode ⟨false, some (.arrayBufferView ⟨[0x31, 0x61], 0, 1, by decide⟩)⟩ =
        (⟨false, []⟩, some notValidError) :=
  ⟨rfl, rfl⟩

end BlinkPushMessaging
