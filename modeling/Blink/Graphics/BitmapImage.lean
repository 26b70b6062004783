import Mathlib.Data.List.Basic

/-!
`BitmapImage` and what it caches of its decoder: the size, the frame count, the repetition count
and the paint image of the current frame. Over every run the caches agree with the decoder on the
data held, a known size never changes, and neither does a repetition count read after all data.
-/

namespace BlinkGraphics

def kAnimationLoopOnce : Int := 0
def kAnimationLoopInfinite : Int := -1
def kAnimationNone : Int := -2

inductive ImageAnimationPolicy
  | kImageAnimationPolicyAllowed
  | kImageAnimationPolicyAnimateOnce
  | kImageAnimationPolicyNoAnimation
  deriving DecidableEq, Repr

def getRepetitionCountWithPolicyOverride (actualCount : Int) (policy : ImageAnimationPolicy) : Int :=
  if actualCount = kAnimationNone ∨ policy = .kImageAnimationPolicyNoAnimation then kAnimationNone
  else if actualCount = kAnimationLoopOnce ∨ policy = .kImageAnimationPolicyAnimateOnce then
    kAnimationLoopOnce
  else actualCount

structure IntSize where
  width : Int
  height : Int
  deriving DecidableEq, Repr

def IntSize.transposedSize (size : IntSize) : IntSize := ⟨size.height, size.width⟩

def IntSize.area (size : IntSize) : Int := size.width * size.height

abbrev DecoderData := List UInt8 × Bool

inductive SkAlphaType
  | kUnknown
  | kOpaque
  | kPremul
  | kUnpremul
  deriving DecidableEq, Repr

/-- Modelled from the spec: what the image asks of `DeferredImageDecoder` and `ImageDecoder`, not
among the sources; each answer depends only on the data given. `create` and `createsGenerator`
say whether `Create` and `CreateGenerator()` return one; `frameSize` and `usesWidthAsHeight` are
read at index 0. -/
structure DecoderModel where
  create : List UInt8 → Bool → Bool
  hasSufficientDataToSniffImageType : List UInt8 → Bool
  isSizeAvailable : DecoderData → Bool
  frameSize : DecoderData → IntSize
  usesWidthAsHeight : DecoderData → Bool
  frameCount : DecoderData → Nat
  repetitionCount : DecoderData → Int
  alphaType : DecoderData → SkAlphaType
  imageIsHighBitDepth : DecoderData → Bool
  createsGenerator : DecoderData → Bool

inductive RepetitionCountStatus
  | kUnknown
  | kUncertain
  | kCertain
  deriving DecidableEq, Repr

inductive CompletionState
  | DONE
  | PARTIALLY_DONE
  deriving DecidableEq, Repr

structure PaintImage where
  generator : DecoderData
  repetitionCount : Int
  isHighBitDepth : Bool
  completionState : CompletionState
  resetAnimationSequenceId : Nat
  alphaType : SkAlphaType
  deriving DecidableEq, Repr

inductive SizeAvailability
  | kSizeAvailable
  | kSizeUnavailable
  deriving DecidableEq, Repr

/-- The members of `BitmapImage` its methods read and write, without the trailing underscore;
`size_`, `size_respecting_orientation_`, `frame_count_` and `repetition_count_` are the stored
ones, beside the methods of those names. `decoder` is the data the decoder holds, `none` while
there is no decoder; `cachedFrame` is `none` for the null `PaintImage`; `hasImageObserver` is
whether `GetImageObserver()` is set. -/
structure BitmapImage where
  decoder : Option DecoderData
  hasImageObserver : Bool
  animationPolicy : ImageAnimationPolicy
  allDataReceived : Bool
  haveSize : Bool
  sizeAvailable : Bool
  storedSize : IntSize
  storedSizeRespectingOrientation : IntSize
  haveFrameCount : Bool
  storedFrameCount : Nat
  repetitionCountStatus : RepetitionCountStatus
  storedRepetitionCount : Int
  cachedFrame : Option PaintImage
  resetAnimationSequenceId : Nat
  deriving DecidableEq, Repr

namespace BitmapImage

def create (hasImageObserver : Bool) : BitmapImage where
  decoder := none
  hasImageObserver := hasImageObserver
  animationPolicy := .kImageAnimationPolicyAllowed
  allDataReceived := false
  haveSize := false
  sizeAvailable := false
  storedSize := ⟨0, 0⟩
  storedSizeRespectingOrientation := ⟨0, 0⟩
  haveFrameCount := false
  storedFrameCount := 0
  repetitionCountStatus := .kUnknown
  storedRepetitionCount := kAnimationNone
  cachedFrame := none
  resetAnimationSequenceId := 0

variable (dec : DecoderModel) (image : BitmapImage)

def updateSize : BitmapImage :=
  match image.decoder with
  | some data =>
      if !image.sizeAvailable || image.haveSize then image
      else
        let size := dec.frameSize data
        { image with
          storedSize := size
          storedSizeRespectingOrientation :=
            if dec.usesWidthAsHeight data then size.transposedSize else size
          haveSize := true }
  | none => image

def size : IntSize × BitmapImage :=
  let image := image.updateSize dec
  (image.storedSize, image)

def sizeRespectingOrientation : IntSize × BitmapImage :=
  let image := image.updateSize dec
  (image.storedSizeRespectingOrientation, image)

def frameCount : Nat × BitmapImage :=
  if !image.haveFrameCount then
    let frameCount := match image.decoder with
      | some data => dec.frameCount data
      | none => 0
    (frameCount, { image with storedFrameCount := frameCount, haveFrameCount := decide (0 < frameCount) })
  else (image.storedFrameCount, image)

def isSizeAvailable : Bool × BitmapImage :=
  if image.sizeAvailable then (true, image)
  else
    let sizeAvailable := match image.decoder with
      | some data => dec.isSizeAvailable data
      | none => false
    let image := { image with sizeAvailable := sizeAvailable }
    if sizeAvailable then (true, (image.size dec).2) else (false, image)

def repetitionCount : Int × BitmapImage :=
  if image.repetitionCountStatus = .kUnknown ∨
      (image.repetitionCountStatus = .kUncertain ∧ image.allDataReceived = true) then
    let count := match image.decoder with
      | some data => dec.repetitionCount data
      | none => kAnimationNone
    let count := if 0 < count then count + 1 else count
    let status := if image.allDataReceived ∨ count = kAnimationNone then .kCertain else .kUncertain
    (count, { image with storedRepetitionCount := count, repetitionCountStatus := status })
  else (image.storedRepetitionCount, image)

def createPaintImage : Option PaintImage × BitmapImage :=
  match image.decoder with
  | some data =>
      if !dec.createsGenerator data then (none, image)
      else
        let completionState := if image.allDataReceived then .DONE else .PARTIALLY_DONE
        let (count, image) := image.repetitionCount dec
        (some ⟨data, getRepetitionCountWithPolicyOverride count image.animationPolicy,
          dec.imageIsHighBitDepth data, completionState, image.resetAnimationSequenceId,
          dec.alphaType data⟩, image)
  | none => (none, image)

def totalFrameBytes : Nat × BitmapImage :=
  if image.cachedFrame.isSome then
    let (size, image) := image.size dec
    (size.area.toNat * 4, image)
  else (0, image)

def notifyMemoryChanged : Option Nat × BitmapImage :=
  if image.hasImageObserver then
    let (bytes, image) := image.totalFrameBytes dec
    (some bytes, image)
  else (none, image)

def destroyDecodedData : Option Nat × BitmapImage :=
  notifyMemoryChanged dec { image with cachedFrame := none }

def currentAlphaType : SkAlphaType :=
  match image.decoder with
  | some data => dec.alphaType data
  | none => .kUnknown

def paintImageForCurrentFrame : (Option PaintImage × Option Nat) × BitmapImage :=
  let alphaType := image.currentAlphaType dec
  match image.cachedFrame.filter fun cached => cached.alphaType = alphaType with
  | some cached => ((some cached, none), image)
  | none =>
      let (frame, image) := image.createPaintImage dec
      let image := { image with cachedFrame := frame }
      let (reported, image) := image.notifyMemoryChanged dec
      ((frame, reported), image)

def resetAnimation : BitmapImage :=
  { image with cachedFrame := none, resetAnimationSequenceId := image.resetAnimationSequenceId + 1 }

def setAnimationPolicy (policy : ImageAnimationPolicy) : BitmapImage :=
  if image.animationPolicy = policy then image
  else { image with animationPolicy := policy }.resetAnimation

def maybeAnimated : Bool × BitmapImage :=
  let (frameCount, image) := image.frameCount dec
  if 1 < frameCount then (true, image)
  else
    (match image.decoder with
      | some data => decide (dec.repetitionCount data ≠ kAnimationNone)
      | none => false, image)

def shouldReportByteSizeUMAs (dataNowCompletelyReceived : Bool) : Bool × BitmapImage :=
  match image.decoder with
  | some data =>
      if !image.allDataReceived && dataNowCompletelyReceived && decide (data.1.length ≠ 0) then
        image.isSizeAvailable dec
      else (false, image)
  | none => (false, image)

def dataChanged (allDataReceived : Bool) : SizeAvailability × BitmapImage :=
  let image := { image with cachedFrame := none }
  let (_, image) := image.shouldReportByteSizeUMAs dec allDataReceived
  let image := { image with allDataReceived := allDataReceived, haveFrameCount := false }
  let (available, image) := image.isSizeAvailable dec
  (if available then .kSizeAvailable else .kSizeUnavailable, image)

def setData (data : Option (List UInt8)) (allDataReceived : Bool) : SizeAvailability × BitmapImage :=
  match data with
  | none => (.kSizeAvailable, image)
  | some bytes =>
      if bytes.length = 0 then (.kSizeAvailable, image)
      else match image.decoder with
        | some _ => { image with decoder := some (bytes, allDataReceived) }.dataChanged dec allDataReceived
        | none =>
            let hasEnoughData := dec.hasSufficientDataToSniffImageType bytes
            if dec.create bytes allDataReceived then
              { image with decoder := some (bytes, allDataReceived) }.dataChanged dec allDataReceived
            else if hasEnoughData then (.kSizeAvailable, image)
            else image.dataChanged dec allDataReceived

/-- The calls that read or change a bitmap image. `paintImageForCurrentFrame` also stands for
`Draw`, whose only effect on the image it is, and `createPaintImage` for `PaintImageForTesting`. -/
inductive ImageOperation
  | setData (data : Option (List UInt8)) (allDataReceived : Bool)
  | size
  | sizeRespectingOrientation
  | isSizeAvailable
  | frameCount
  | repetitionCount
  | maybeAnimated
  | createPaintImage
  | paintImageForCurrentFrame
  | destroyDecodedData
  | resetAnimation
  | setAnimationPolicy (policy : ImageAnimationPolicy)

def step : ImageOperation → BitmapImage
  | .setData data allDataReceived => (image.setData dec data allDataReceived).2
  | .size => (image.size dec).2
  | .sizeRespectingOrientation => (image.sizeRespectingOrientation dec).2
  | .isSizeAvailable => (image.isSizeAvailable dec).2
  | .frameCount => (image.frameCount dec).2
  | .repetitionCount => (image.repetitionCount dec).2
  | .maybeAnimated => (image.maybeAnimated dec).2
  | .createPaintImage => (image.createPaintImage dec).2
  | .paintImageForCurrentFrame => (image.paintImageForCurrentFrame dec).2
  | .destroyDecodedData => (image.destroyDecodedData dec).2
  | .resetAnimation => image.resetAnimation
  | .setAnimationPolicy policy => image.setAnimationPolicy policy

def run (ops : List ImageOperation) : BitmapImage :=
  ops.foldl (fun image op => image.step dec op) image

inductive Reachable : BitmapImage → Prop
  | create (hasImageObserver : Bool) : Reachable (create hasImageObserver)
  | step {image : BitmapImage} (op : ImageOperation) : Reachable image →
      Reachable (image.step dec op)

/-! ### Finding the size -/

/-- What every call keeps: an available size stays available, a known size stays as it was, if
an available size was always known it still is, and a certain repetition count stays as it was. -/
structure Kept (image image' : BitmapImage) : Prop where
  available : image.sizeAvailable = true → image'.sizeAvailable = true
  kept : image.haveSize = true → image'.haveSize = true ∧ image'.storedSize = image.storedSize ∧
    image'.storedSizeRespectingOrientation = image.storedSizeRespectingOrientation
  computed : (image.sizeAvailable = true → image.haveSize = true) →
    image'.sizeAvailable = true → image'.haveSize = true
  certain : image.repetitionCountStatus = .kCertain →
    image'.repetitionCountStatus = .kCertain ∧ image'.storedRepetitionCount = image.storedRepetitionCount

structure SizeFound (image image' : BitmapImage) extends Kept image image' : Prop where
  eq : ∃ available known size oriented, image' = { image with
    sizeAvailable := available, haveSize := known, storedSize := size,
    storedSizeRespectingOrientation := oriented }

theorem Kept.refl : Kept image image :=
  ⟨id, fun known => ⟨known, rfl, rfl⟩, id, fun certain => ⟨certain, rfl⟩⟩

theorem SizeFound.refl : SizeFound image image := ⟨.refl image, _, _, _, _, rfl⟩

variable {dec image}

theorem Kept.of_sizes {image' : BitmapImage}
    (sizes : (image'.sizeAvailable, image'.haveSize, image'.storedSize,
      image'.storedSizeRespectingOrientation, image'.repetitionCountStatus, image'.storedRepetitionCount) =
      (image.sizeAvailable, image.haveSize, image.storedSize, image.storedSizeRespectingOrientation,
        image.repetitionCountStatus, image.storedRepetitionCount)) :
    Kept image image' := by
  simp only [Prod.mk.injEq] at sizes
  obtain ⟨available, known, size, oriented, status, count⟩ := sizes
  exact ⟨fun a => available ▸ a, fun k => ⟨known ▸ k, size, oriented⟩,
    fun computed a => known ▸ computed (available ▸ a), fun c => ⟨status ▸ c, count⟩⟩

theorem Kept.trans {image' image'' : BitmapImage} (first : Kept image image')
    (second : Kept image' image'') : Kept image image'' := by
  refine ⟨fun a => second.available (first.available a), fun known => ?_,
    fun computed => second.computed (first.computed computed), fun certain => ?_⟩
  · obtain ⟨known₁, size₁, oriented₁⟩ := first.kept known
    obtain ⟨known₂, size₂, oriented₂⟩ := second.kept known₁
    exact ⟨known₂, size₂.trans size₁, oriented₂.trans oriented₁⟩
  · obtain ⟨certain₁, count₁⟩ := first.certain certain
    obtain ⟨certain₂, count₂⟩ := second.certain certain₁
    exact ⟨certain₂, count₂.trans count₁⟩

theorem SizeFound.trans {image' image'' : BitmapImage} (first : SizeFound image image')
    (second : SizeFound image' image'') : SizeFound image image'' := by
  obtain ⟨kept, _, _, _, _, rfl⟩ := first
  obtain ⟨kept', available, known, size, oriented, rfl⟩ := second
  exact ⟨kept.trans kept', available, known, size, oriented, rfl⟩

variable (dec image)

theorem sizeFound_updateSize : SizeFound image (image.updateSize dec) := by
  unfold updateSize
  split
  · split
    · exact .refl image
    · next notFound =>
        simp only [Bool.or_eq_true, Bool.not_eq_true', not_or, Bool.not_eq_false] at notFound
        exact ⟨⟨id, fun known => by simp_all, fun _ _ => rfl, fun certain => ⟨certain, rfl⟩⟩,
          _, _, _, _, rfl⟩
  · exact .refl image

@[simp]
theorem sizeAvailable_updateSize : (image.updateSize dec).sizeAvailable = image.sizeAvailable := by
  unfold updateSize
  split
  · split <;> rfl
  · rfl

theorem updateSize_of_haveSize (known : image.haveSize = true) : image.updateSize dec = image := by
  unfold updateSize
  split <;> simp [known]

theorem haveSize_updateSize (available : image.sizeAvailable = true)
    (decoded : image.decoder.isSome) : (image.updateSize dec).haveSize = true := by
  obtain ⟨data, decoded⟩ := Option.isSome_iff_exists.mp decoded
  unfold updateSize
  rw [decoded]
  dsimp only
  split <;> simp_all

theorem size_of_haveSize (known : image.haveSize = true) : image.size dec = (image.storedSize, image) := by
  rw [size, updateSize_of_haveSize dec image known]

theorem sizeRespectingOrientation_of_haveSize (known : image.haveSize = true) :
    image.sizeRespectingOrientation dec = (image.storedSizeRespectingOrientation, image) := by
  rw [sizeRespectingOrientation, updateSize_of_haveSize dec image known]

theorem sizeFound_size : SizeFound image (image.size dec).2 := sizeFound_updateSize dec image

theorem sizeFound_isSizeAvailable : SizeFound image (image.isSizeAvailable dec).2 := by
  unfold isSizeAvailable
  split
  · exact .refl image
  · next unavailable =>
      dsimp only
      split
      · next found =>
          have decoded : image.decoder.isSome := by
            revert found
            cases image.decoder <;> simp
          rw [found]
          have sized := sizeFound_size dec { image with sizeAvailable := true }
          exact ⟨⟨fun a => absurd a unavailable, sized.kept,
            fun _ _ => haveSize_updateSize dec _ rfl decoded, sized.certain⟩, sized.eq⟩
      · next missing =>
          exact ⟨⟨fun a => absurd a unavailable, fun known => ⟨known, rfl, rfl⟩,
            fun _ a => absurd a missing, fun certain => ⟨certain, rfl⟩⟩, _, _, _, _, rfl⟩

theorem isSizeAvailable_answer :
    (image.isSizeAvailable dec).1 = (image.isSizeAvailable dec).2.sizeAvailable := by
  unfold isSizeAvailable
  split
  · next available => exact available.symm
  · dsimp only
    split
    · next found => simpa [size] using found.symm
    · next missing => simpa using missing

theorem isSizeAvailable_of_available (available : image.sizeAvailable = true) :
    (image.isSizeAvailable dec).1 = true := by
  simp [isSizeAvailable, available]

theorem sizeFound_totalFrameBytes : SizeFound image (image.totalFrameBytes dec).2 := by
  unfold totalFrameBytes
  split
  · exact sizeFound_size dec image
  · exact .refl image

theorem sizeFound_notifyMemoryChanged : SizeFound image (image.notifyMemoryChanged dec).2 := by
  unfold notifyMemoryChanged
  split
  · exact sizeFound_totalFrameBytes dec image
  · exact .refl image

theorem sizeFound_shouldReportByteSizeUMAs (dataNowCompletelyReceived : Bool) :
    SizeFound image (image.shouldReportByteSizeUMAs dec dataNowCompletelyReceived).2 := by
  unfold shouldReportByteSizeUMAs
  split
  · split
    · exact sizeFound_isSizeAvailable dec image
    · exact .refl image
  · exact .refl image

variable {dec image}

theorem SizeFound.others {image' : BitmapImage} (found : SizeFound image image') :
    image'.decoder = image.decoder ∧ image'.haveFrameCount = image.haveFrameCount ∧
      image'.storedFrameCount = image.storedFrameCount ∧ image'.cachedFrame = image.cachedFrame ∧
      image'.animationPolicy = image.animationPolicy ∧
      image'.allDataReceived = image.allDataReceived ∧
      image'.repetitionCountStatus = image.repetitionCountStatus ∧
      image'.storedRepetitionCount = image.storedRepetitionCount ∧
      image'.resetAnimationSequenceId = image.resetAnimationSequenceId := by
  obtain ⟨-, _, _, _, _, rfl⟩ := found
  exact ⟨rfl, rfl, rfl, rfl, rfl, rfl, rfl, rfl, rfl⟩

variable (dec image)

/-! ### The frame count -/

def plainFrameCount : Nat :=
  match image.decoder with
  | some data => dec.frameCount data
  | none => 0

theorem frameCount_spec : (image.frameCount dec).2 = image ∨
    (image.frameCount dec).2 = { image with
      storedFrameCount := image.plainFrameCount dec,
      haveFrameCount := decide (0 < image.plainFrameCount dec) } := by
  unfold BitmapImage.frameCount
  split
  · exact .inr rfl
  · exact .inl rfl

theorem maybeAnimated_image : (image.maybeAnimated dec).2 = (image.frameCount dec).2 := by
  unfold maybeAnimated
  generalize image.frameCount dec = counted
  obtain ⟨count, image'⟩ := counted
  dsimp only
  split <;> rfl

/-! ### The repetition count -/

def RepetitionCountSettled : Prop :=
  image.repetitionCountStatus = .kCertain ∨
    (image.repetitionCountStatus = .kUncertain ∧ image.allDataReceived = false)

theorem repetitionCount_of_settled (settled : image.RepetitionCountSettled) :
    image.repetitionCount dec = (image.storedRepetitionCount, image) := by
  unfold repetitionCount
  rw [if_neg]
  rcases settled with certain | ⟨uncertain, incomplete⟩ <;> simp_all

theorem repetitionCount_spec :
    (∃ count status, (image.repetitionCount dec).2 =
      { image with storedRepetitionCount := count, repetitionCountStatus := status }) ∧
    (image.repetitionCount dec).1 = (image.repetitionCount dec).2.storedRepetitionCount ∧
    (image.repetitionCount dec).2.RepetitionCountSettled := by
  unfold repetitionCount
  split
  · refine ⟨⟨_, _, rfl⟩, rfl, ?_⟩
    unfold RepetitionCountSettled
    dsimp only
    split_ifs with positive done done <;>
      first | exact .inl rfl | exact .inr ⟨rfl, by simpa using (not_or.mp done).1⟩
  · next unsettled =>
      refine ⟨⟨_, _, rfl⟩, rfl, ?_⟩
      unfold RepetitionCountSettled
      cases status : image.repetitionCountStatus <;> simp_all

theorem repetitionCount_certain (all : image.allDataReceived = true) :
    (image.repetitionCount dec).2.repetitionCountStatus = .kCertain := by
  obtain ⟨⟨count, status, counted⟩, -, settled⟩ := repetitionCount_spec dec image
  rw [counted] at settled ⊢
  rcases settled with certain | ⟨-, incomplete⟩
  · exact certain
  · simp [all] at incomplete

/-! ### The paint image -/

def freshPaintImage : Option PaintImage :=
  match image.decoder with
  | some data =>
      if dec.createsGenerator data then
        some ⟨data, getRepetitionCountWithPolicyOverride image.storedRepetitionCount image.animationPolicy,
          dec.imageIsHighBitDepth data, if image.allDataReceived then .DONE else .PARTIALLY_DONE,
          image.resetAnimationSequenceId, dec.alphaType data⟩
      else none
  | none => none

theorem createPaintImage_spec :
    ((image.createPaintImage dec).2 = image ∨
      (image.createPaintImage dec).2 = (image.repetitionCount dec).2) ∧
    ∀ frame ∈ (image.createPaintImage dec).1,
      (image.createPaintImage dec).2.RepetitionCountSettled ∧
        freshPaintImage dec (image.createPaintImage dec).2 = some frame := by
  unfold createPaintImage
  cases decoded : image.decoder with
  | none => exact ⟨.inl rfl, fun _ built => by cases built⟩
  | some data =>
      dsimp only
      split
      · exact ⟨.inl rfl, fun _ built => by cases built⟩
      · next generated =>
          obtain ⟨⟨count, status, moved⟩, answered, settled⟩ := repetitionCount_spec dec image
          generalize image.repetitionCount dec = counted at moved answered settled ⊢
          obtain ⟨answer, image'⟩ := counted
          dsimp only at moved answered settled ⊢
          subst moved answered
          refine ⟨.inr rfl, fun frame built => ⟨settled, ?_⟩⟩
          cases built
          simp only [Bool.not_eq_true', Bool.not_eq_false] at generated
          simp [freshPaintImage, decoded, generated]

theorem createPaintImage_of_settled (settled : image.RepetitionCountSettled) :
    image.createPaintImage dec = (image.freshPaintImage dec, image) := by
  unfold createPaintImage freshPaintImage
  rw [repetitionCount_of_settled dec image settled]
  cases image.decoder with
  | none => rfl
  | some data =>
      dsimp only
      cases dec.createsGenerator data <;> rfl

theorem paintImageForCurrentFrame_cases :
    (∃ cached, image.cachedFrame = some cached ∧
      image.paintImageForCurrentFrame dec = ((some cached, none), image)) ∨
    (image.paintImageForCurrentFrame dec).1.1 = (image.createPaintImage dec).1 ∧
      SizeFound { (image.createPaintImage dec).2 with cachedFrame := (image.createPaintImage dec).1 }
        (image.paintImageForCurrentFrame dec).2 := by
  unfold paintImageForCurrentFrame
  generalize image.createPaintImage dec = built
  obtain ⟨frame, image'⟩ := built
  dsimp only
  split
  · next hit => exact .inl ⟨_, (Option.filter_eq_some.mp hit).1, rfl⟩
  · exact .inr ⟨rfl, sizeFound_notifyMemoryChanged dec _⟩

theorem setData_cases (data : Option (List UInt8)) (allDataReceived : Bool) :
    (image.setData dec data allDataReceived).2 = image ∨
      ∃ decoder, (image.setData dec data allDataReceived).2 =
        ({ image with decoder := decoder }.dataChanged dec allDataReceived).2 := by
  unfold BitmapImage.setData
  split
  · exact .inl rfl
  · split
    · exact .inl rfl
    · split
      · exact .inr ⟨_, rfl⟩
      · dsimp only
        split
        · exact .inr ⟨_, rfl⟩
        · split
          · exact .inl rfl
          · exact .inr ⟨image.decoder, rfl⟩

/-! ### What every call keeps -/

theorem kept_dataChanged (allDataReceived : Bool) :
    Kept image (image.dataChanged dec allDataReceived).2 := by
  unfold dataChanged
  dsimp only
  exact (Kept.of_sizes (by rfl)).trans <|
    (sizeFound_shouldReportByteSizeUMAs dec { image with cachedFrame := none } _).toKept.trans <|
    (Kept.of_sizes (by rfl)).trans (sizeFound_isSizeAvailable dec _).toKept

theorem kept_repetitionCount : Kept image (image.repetitionCount dec).2 := by
  by_cases certain : image.repetitionCountStatus = .kCertain
  · rw [repetitionCount_of_settled dec image (.inl certain)]
    exact .refl image
  · obtain ⟨⟨count, status, counted⟩, -, -⟩ := repetitionCount_spec dec image
    rw [counted]
    exact ⟨id, fun known => ⟨known, rfl, rfl⟩, id, fun c => absurd c certain⟩

theorem kept_createPaintImage : Kept image (image.createPaintImage dec).2 := by
  rcases (createPaintImage_spec dec image).1 with same | counted
  · exact .of_sizes (by rw [same])
  · rw [counted]
    exact kept_repetitionCount dec image

theorem kept_step (op : ImageOperation) : Kept image (image.step dec op) := by
  cases op with
  | setData data allDataReceived =>
      rcases setData_cases dec image data allDataReceived with same | ⟨decoder, changed⟩
      · exact .of_sizes (by rw [step, same])
      · rw [step, changed]
        exact (Kept.of_sizes (by rfl)).trans (kept_dataChanged dec _ allDataReceived)
  | size | sizeRespectingOrientation => exact (sizeFound_updateSize dec image).toKept
  | isSizeAvailable => exact (sizeFound_isSizeAvailable dec image).toKept
  | frameCount | maybeAnimated =>
      first | rw [step, maybeAnimated_image] | rw [step]
      rcases frameCount_spec dec image with same | same <;> exact .of_sizes (by rw [same])
  | repetitionCount => exact kept_repetitionCount dec image
  | createPaintImage => exact kept_createPaintImage dec image
  | paintImageForCurrentFrame =>
      rcases paintImageForCurrentFrame_cases dec image with ⟨_, -, painted⟩ | ⟨-, found⟩
      · exact .of_sizes (by rw [step, painted])
      · exact (kept_createPaintImage dec image).trans
          ((Kept.of_sizes (by rfl)).trans found.toKept)
  | destroyDecodedData =>
      exact (Kept.of_sizes (by rfl)).trans (sizeFound_notifyMemoryChanged dec _).toKept
  | resetAnimation => exact .of_sizes rfl
  | setAnimationPolicy policy =>
      rw [step, setAnimationPolicy]
      split <;> exact .of_sizes rfl

theorem kept_run (ops : List ImageOperation) : Kept image (image.run dec ops) := by
  induction ops generalizing image with
  | nil => exact .refl image
  | cons op ops ih => exact (kept_step dec image op).trans (ih _)

/-! ### The caches over a run -/

/-- The caches agree with the decoder: a known frame count is the decoder's, and a cached paint
image is the one `CreatePaintImage` would build now, from a settled repetition count. -/
structure CachesCoherent : Prop where
  knownFrameCount : image.haveFrameCount = true → image.storedFrameCount = image.plainFrameCount dec
  cachedPaintImage : ∀ cached, image.cachedFrame = some cached →
    image.RepetitionCountSettled ∧ image.freshPaintImage dec = some cached

variable {dec image}

theorem CachesCoherent.sizeFound {image' : BitmapImage} (coherent : CachesCoherent dec image)
    (found : SizeFound image image') : CachesCoherent dec image' := by
  obtain ⟨-, _, _, _, _, rfl⟩ := found
  exact ⟨coherent.knownFrameCount, coherent.cachedPaintImage⟩

theorem cachesCoherent_of_cleared (noCount : image.haveFrameCount = false)
    (noFrame : image.cachedFrame = none) : CachesCoherent dec image :=
  ⟨fun known => absurd known (by simp [noCount]), fun _ cached => by simp [noFrame] at cached⟩

variable (dec image)

theorem cachesCoherent_dataChanged (allDataReceived : Bool) :
    CachesCoherent dec (image.dataChanged dec allDataReceived).2 := by
  unfold dataChanged
  dsimp only
  refine CachesCoherent.sizeFound (cachesCoherent_of_cleared rfl ?_) (sizeFound_isSizeAvailable _ _)
  exact (sizeFound_shouldReportByteSizeUMAs dec _ allDataReceived).others.2.2.2.1

variable {dec image}

theorem CachesCoherent.repetitionCount (coherent : CachesCoherent dec image) :
    CachesCoherent dec (image.repetitionCount dec).2 := by
  cases cached : image.cachedFrame with
  | some frame =>
      rwa [repetitionCount_of_settled dec image (coherent.cachedPaintImage frame cached).1]
  | none =>
      obtain ⟨⟨count, status, counted⟩, -, -⟩ := repetitionCount_spec dec image
      rw [counted]
      exact ⟨coherent.knownFrameCount, fun _ frame => by simp_all⟩

theorem CachesCoherent.createPaintImage (coherent : CachesCoherent dec image) :
    CachesCoherent dec (image.createPaintImage dec).2 := by
  rcases (createPaintImage_spec dec image).1 with same | counted
  · rwa [same]
  · rw [counted]
    exact coherent.repetitionCount

theorem CachesCoherent.step (coherent : CachesCoherent dec image) (op : ImageOperation) :
    CachesCoherent dec (image.step dec op) := by
  cases op with
  | setData data allDataReceived =>
      rcases setData_cases dec image data allDataReceived with same | ⟨decoder, changed⟩
      · rwa [BitmapImage.step, same]
      · rw [BitmapImage.step, changed]
        exact cachesCoherent_dataChanged dec _ allDataReceived
  | size | sizeRespectingOrientation => exact coherent.sizeFound (sizeFound_updateSize dec image)
  | isSizeAvailable => exact coherent.sizeFound (sizeFound_isSizeAvailable dec image)
  | frameCount | maybeAnimated =>
      first | rw [BitmapImage.step, maybeAnimated_image] | rw [BitmapImage.step]
      rcases frameCount_spec dec image with same | counted
      · rwa [same]
      · rw [counted]
        exact ⟨fun _ => rfl, coherent.cachedPaintImage⟩
  | repetitionCount => exact coherent.repetitionCount
  | createPaintImage => exact coherent.createPaintImage
  | paintImageForCurrentFrame =>
      rw [BitmapImage.step]
      rcases paintImageForCurrentFrame_cases dec image with ⟨_, -, painted⟩ | ⟨-, found⟩
      · rwa [painted]
      · refine CachesCoherent.sizeFound ?_ found
        exact ⟨coherent.createPaintImage.knownFrameCount, (createPaintImage_spec dec image).2⟩
  | destroyDecodedData =>
      rw [BitmapImage.step, destroyDecodedData]
      refine CachesCoherent.sizeFound ?_ (sizeFound_notifyMemoryChanged dec _)
      exact ⟨coherent.knownFrameCount, fun _ cached => by cases cached⟩
  | resetAnimation => exact ⟨coherent.knownFrameCount, fun _ cached => by cases cached⟩
  | setAnimationPolicy policy =>
      rw [BitmapImage.step, setAnimationPolicy]
      split
      · exact coherent
      · exact ⟨coherent.knownFrameCount, fun _ cached => by cases cached⟩

theorem Reachable.cachesCoherent (reachable : Reachable dec image) : CachesCoherent dec image := by
  induction reachable with
  | create => exact cachesCoherent_of_cleared rfl rfl
  | step op _ coherent => exact coherent.step op

theorem Reachable.run (reachable : Reachable dec image) (ops : List ImageOperation) :
    Reachable dec (image.run dec ops) := by
  induction ops generalizing image with
  | nil => exact reachable
  | cons op ops ih => exact ih (reachable.step op)

theorem Reachable.haveSize (reachable : Reachable dec image)
    (available : image.sizeAvailable = true) : image.haveSize = true := by
  induction reachable with
  | create => cases available
  | step op _ computed => exact (kept_step dec _ op).computed computed available

/-! ### The caches are transparent -/

def sampleDecoder : DecoderModel where
  create _ _ := true
  hasSufficientDataToSniffImageType _ := true
  isSizeAvailable _ := true
  frameSize data := ⟨data.1.length, 1⟩
  usesWidthAsHeight _ := false
  frameCount data := data.1.length
  repetitionCount data := data.1.length
  alphaType _ := .kOpaque
  imageIsHighBitDepth _ := false
  createsGenerator _ := true

/-- Over every run, `FrameCount()` answers the decoder's frame count on the data the image holds:
the cached count is never stale, new data included. -/
theorem frameCount_eq_plainFrameCount (reachable : Reachable dec image) :
    (image.frameCount dec).1 = image.plainFrameCount dec := by
  unfold BitmapImage.frameCount
  split
  · rfl
  · next known => exact reachable.cachesCoherent.knownFrameCount (by simpa using known)

theorem frameCount_after_more_data :
    let image := (create false).run sampleDecoder
      [.setData (some [1]) false, .frameCount, .setData (some [1, 2]) true]
    Reachable sampleDecoder image ∧
      (image.frameCount sampleDecoder).1 = image.plainFrameCount sampleDecoder :=
  ⟨(Reachable.create false).run _, frameCount_eq_plainFrameCount ((Reachable.create false).run _)⟩

/-- Over every run, the paint image `PaintImageForCurrentFrame()` hands out is the one
`CreatePaintImage()` would build now: a cached one is never stale, after new data, a new
animation policy or a reset of the animation included. -/
theorem paintImageForCurrentFrame_eq_createPaintImage (reachable : Reachable dec image) :
    (image.paintImageForCurrentFrame dec).1.1 = (image.createPaintImage dec).1 := by
  rcases paintImageForCurrentFrame_cases dec image with ⟨cached, stored, painted⟩ | ⟨painted, -⟩
  · obtain ⟨settled, fresh⟩ := reachable.cachesCoherent.cachedPaintImage cached stored
    rw [painted, createPaintImage_of_settled dec image settled, fresh]
  · exact painted

theorem paintImage_after_policy_change :
    let image := (create false).run sampleDecoder [.setData (some [1]) true,
      .paintImageForCurrentFrame, .setAnimationPolicy .kImageAnimationPolicyNoAnimation]
    Reachable sampleDecoder image ∧ (image.paintImageForCurrentFrame sampleDecoder).1.1 =
      (image.createPaintImage sampleDecoder).1 :=
  ⟨(Reachable.create false).run _,
    paintImageForCurrentFrame_eq_createPaintImage ((Reachable.create false).run _)⟩

/-- Once `IsSizeAvailable()` has answered true, it answers true after any further calls, and
`Size()` and `SizeRespectingOrientation()` answer what they answered then, whatever data
arrives. -/
theorem size_fixed_once_available {image' : BitmapImage} (reachable : Reachable dec image)
    (answered : image.isSizeAvailable dec = (true, image')) (ops : List ImageOperation) :
    ((image'.run dec ops).isSizeAvailable dec).1 = true ∧
      ((image'.run dec ops).size dec).1 = (image'.size dec).1 ∧
      ((image'.run dec ops).sizeRespectingOrientation dec).1 =
        (image'.sizeRespectingOrientation dec).1 := by
  have available : image'.sizeAvailable = true := by
    simpa [answered] using isSizeAvailable_answer dec image
  have known : image'.haveSize = true := by
    have reached := reachable.step .isSizeAvailable
    rw [step, answered] at reached
    exact reached.haveSize available
  have kept := kept_run dec image' ops
  obtain ⟨known', size, oriented⟩ := kept.kept known
  refine ⟨isSizeAvailable_of_available dec _ (kept.available available), ?_, ?_⟩
  · rw [size_of_haveSize dec _ known', size_of_haveSize dec _ known, size]
  · rw [sizeRespectingOrientation_of_haveSize dec _ known',
      sizeRespectingOrientation_of_haveSize dec _ known, oriented]

theorem size_kept_after_more_data :
    let image := (create false).run sampleDecoder [.setData (some [1]) false]
    let ops : List ImageOperation := [.setData (some [1, 2]) true, .size]
    Reachable sampleDecoder image ∧
      image.isSizeAvailable sampleDecoder = (true, (image.isSizeAvailable sampleDecoder).2) ∧
      ((((image.isSizeAvailable sampleDecoder).2.run sampleDecoder ops).isSizeAvailable
          sampleDecoder).1 = true ∧
        (((image.isSizeAvailable sampleDecoder).2.run sampleDecoder ops).size sampleDecoder).1 =
          ((image.isSizeAvailable sampleDecoder).2.size sampleDecoder).1 ∧
        (((image.isSizeAvailable sampleDecoder).2.run sampleDecoder ops).sizeRespectingOrientation
            sampleDecoder).1 =
          ((image.isSizeAvailable sampleDecoder).2.sizeRespectingOrientation sampleDecoder).1) :=
  ⟨(Reachable.create false).run _, rfl, size_fixed_once_available
    ((Reachable.create false).run [.setData (some [1]) false]) (by rfl) _⟩

/-- Once `RepetitionCount()` has answered after all data was received, it answers the same after
any further calls, whatever data arrives later: the count is not read from the decoder again. -/
theorem repetitionCount_fixed_once_complete {count : Int} {image' : BitmapImage}
    (answered : image.repetitionCount dec = (count, image')) (all : image.allDataReceived = true)
    (ops : List ImageOperation) : ((image'.run dec ops).repetitionCount dec).1 = count := by
  have certain : image'.repetitionCountStatus = .kCertain := by
    simpa [answered] using repetitionCount_certain dec image all
  have stored : image'.storedRepetitionCount = count := by
    simpa [answered] using ((repetitionCount_spec dec image).2.1).symm
  obtain ⟨certain', unchanged⟩ := (kept_run dec image' ops).certain certain
  rw [repetitionCount_of_settled dec _ (.inl certain'), unchanged, stored]

theorem repetitionCount_kept_after_more_data :
    let image := (create false).run sampleDecoder [.setData (some [1]) true]
    let ops : List ImageOperation := [.setData (some [1, 2, 3]) true]
    image.repetitionCount sampleDecoder = ((image.repetitionCount sampleDecoder).1,
        (image.repetitionCount sampleDecoder).2) ∧ image.allDataReceived = true ∧
      (((image.repetitionCount sampleDecoder).2.run sampleDecoder ops).repetitionCount
        sampleDecoder).1 = (image.repetitionCount sampleDecoder).1 :=
  ⟨rfl, rfl, @repetitionCount_fixed_once_complete _
    ((create false).run sampleDecoder [.setData (some [1]) true]) _ _ rfl rfl _⟩

end BitmapImage

end BlinkGraphics
