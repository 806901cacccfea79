import Rkipc.Libc.Align
import Rkipc.Osd.Overlay
import Rkipc.Transition.System

namespace Rkipc.Osd.BitmapUpdate

open Ini Libc Overlay Transition

/-! The bitmaps that `RK_MPI_RGN_SetBitMap` is given: by `rk_osd_init`, by the clocks that it
starts and by `rk_osd_bmp_change`. -/

/-- What is handed to the callbacks: a size, and the bytes that the buffer has. -/
structure OsdData where
  size : Vec
  bytes : Int

/-- What comes of an entry.  A pointer that is NULL ends the process; `fails` is a return
without the unlock. -/
inductive Made
  | dies
  | fails
  | skips
  | startsClock
  | passes (data : OsdData)

/-- What a call reads of the parameters, with the position scaled. -/
structure Reads where
  osdType : Option Text
  enabled : Int
  position : Vec
  frame : Vec
  fontSize : Int
  fontColor : Option Text
  displayText : Option Text
  initFromIni : Int

/-- The size of the bitmap if its file is loaded, the characters of a text if it is converted,
what `wstr_get_actual_advance_x` returns for characters, and those that are in `wch` before. -/
structure Outside where
  image : Option Vec
  iconv : Text → Option (List Nat)
  advance : List Nat → Int
  held : List Nat

/-- `iconv_utf8_to_wchar` copies the text and a NUL to an array of 128 bytes first, if
`iconv_open` succeeds. -/
def Outside.overflows (outside : Outside) (text : Text) : Bool :=
  (outside.iconv text).isSome && 127 < text.length

/-- `UPALIGNTO16` of an unsigned number, converted to an `int`. -/
def upAlign16Unsigned (value : Int) : Int :=
  Int.bmod ((value % 2 ^ 32 + 15) % 2 ^ 32 / 16 * 16) (2 ^ 32)

def bufferBytes (size : Vec) : Option Int := do
  let area ← toInt (size .x * size .y)
  toInt (area * 4)

/-- The text of a `channelName` or a `character`, which is moved into the frame or rejected. -/
def textData (rejected : Made) (reads : Reads) (width : Int) : Option Made := do
  let originX ← upAlign16 (reads.position .x)
  let originY ← upAlign16 (reads.position .y)
  let height := upAlign16Unsigned reads.fontSize
  let bytes ← bufferBytes (sides width height)
  -- as an unsigned number this is more than `malloc` has
  if bytes < 0 then some .dies
  else
    let originX ← shrink 16 (reads.frame .x + 1) width originX
    let originY ← shrink 16 (reads.frame .y + 1) height originY
    if originX < 0 ∨ originY < 0 ∨ width < 0 ∨ height < 0 then some rejected
    else some (.passes ⟨sides width height, bytes⟩)

def Reads.isText (reads : Reads) : Bool :=
  reads.osdType = some "channelName".toList ∨ reads.osdType = some "character".toList

def Reads.isImage (reads : Reads) : Bool := reads.osdType = some "image".toList

/-- Only `rk_osd_init` looks for this text. -/
def Reads.initText (reads : Reads) (text : Text) : Text :=
  if text = "isp config:".toList then
    text ++ (if reads.initFromIni ≠ 0 then "ini" else "json").toList
  else text

/-- A round of `rk_osd_init`; covers and mosaics have no bitmap. -/
def initEntry (reads : Reads) (outside : Outside) : Option Made :=
  if reads.osdType = none ∨ reads.enabled = 0 then some .skips
  else do
    let _ ← upAlign16 (reads.position .x)
    let _ ← upAlign16 (reads.position .y)
    if reads.isImage then
      -- without a file all of `osd_data` is as it was
      let size ← outside.image
      let area ← toInt (size .x * size .y)
      some (.passes ⟨size, area * 4 % 2 ^ 32⟩)
    else if reads.osdType = some "privacyMask".toList then some .skips
    else if reads.fontColor = none then some .dies
    else if reads.isText then
      reads.displayText.elim (some .dies) fun text =>
        if outside.overflows (reads.initText text) then none
        else
          (outside.iconv (reads.initText text)).elim (some .skips) fun wch =>
            (upAlign16 (outside.advance wch)).bind (textData .skips reads)
    else if reads.osdType = some "dateTime".toList then some .startsClock
    else some .skips

/-- `rk_osd_bmp_change`, which does not measure the text. -/
def bmpChange (reads : Reads) (outside : Outside) : Option Made :=
  if reads.osdType = none ∨ reads.enabled = 0 then some .fails
  else do
    let _ ← upAlign16 (reads.position .x)
    let _ ← upAlign16 (reads.position .y)
    if reads.fontColor = none then some .dies
    else if reads.isText then
      reads.displayText.elim (some .dies) fun text =>
        if outside.overflows text then none
        else
          let wch := (outside.iconv text).getD outside.held
          textData .fails reads (upAlign16Unsigned (wch.length * reads.fontSize))
    else some .skips

/-- The time, of which the advance is measured, in a font of the clock. -/
def timeData (fontSize advance : Int) : Option Made := do
  let width ← upAlign16 advance
  let height := upAlign16Unsigned fontSize
  let bytes ← bufferBytes (sides width height)
  if bytes < 0 then some .dies else some (.passes ⟨sides width height, bytes⟩)

/-- `osd_time_server` before its loop. -/
def startClock (reads : Reads) (advance : Int) : Option Made := do
  let _ ← upAlign16 (reads.position .x)
  let _ ← upAlign16 (reads.position .y)
  if reads.fontColor = none then some .dies else timeData reads.fontSize advance

/-- A bitmap that is set, with the size that the region was created with, if there is one. -/
structure Update where
  id : Int
  data : OsdData
  region : Option Vec

inductive Process
  | runs
  | died
  | undefined
deriving DecidableEq

/-- A thread of `osd_time_server`, with the font size it has read. -/
inductive Clock
  | starting
  | running (id : Int) (fontSize : Int)
  | ended

/-- `entry` is the round of `rk_osd_init`, 8 once it is over. -/
structure State where
  process : Process
  entry : Nat
  mutexHeld : Bool
  clocks : List Clock
  regions : Int → Option Vec
  updates : List Update

/-- Which calls of `rkipc_osd_bmp_create` succeed. -/
structure Calls where
  created : Bool
  attached : Bool
  bitmapSet : Bool

inductive Step
  | initEntry (reads : Reads) (outside : Outside) (calls : Calls)
      (threadCreated signalCreated : Bool)
  | startClock (clock : Nat) (entries : Entries) (reads : Reads) (advance : Int) (calls : Calls)
  | tick (clock : Nat) (advance : Int)
  | bmpChange (id : Int) (reads : Reads) (outside : Outside)

namespace State

def start : State where
  process := .runs
  entry := 0
  mutexHeld := false
  clocks := []
  regions _ := none
  updates := []

/-- `rkipc_osd_bmp_change` -/
def setBitmap (id : Int) (data : OsdData) (state : State) : State :=
  { state with updates := state.updates ++ [Update.mk id data (state.regions id)] }

def setRegion (id : Int) (region : Option Vec) (state : State) : State :=
  { state with regions := fun other => if other = id then region else state.regions other }

/-- `rkipc_osd_bmp_create` -/
def create (id : Int) (calls : Calls) (data : OsdData) (state : State) : State :=
  if calls.created = false then state.setRegion id none
  else if calls.attached = false then state.setRegion id (some data.size)
  else (state.setRegion id (some data.size)).setBitmap id data

def setClock (clock : Nat) (next : Clock) (state : State) : State :=
  { state with clocks := state.clocks.set clock next }

/-- What a call does with what comes of its entry. -/
def settle (passed : OsdData → State → State) (state : State) : Option Made → State
  | none => { state with process := .undefined }
  | some .dies => { state with process := .died }
  | some .fails => { state with mutexHeld := true }
  | some .skips => state
  | some .startsClock => { state with clocks := state.clocks ++ [Clock.starting] }
  | some (.passes data) => passed data state

def step (state : State) (label : Step) : Option State :=
  if state.process ≠ .runs then none
  else
    match label with
    | .initEntry reads outside calls threadCreated signalCreated =>
        if state.entry < 8 then
          let made := BitmapUpdate.initEntry reads outside
          let next := state.settle (create state.entry calls) made
          match made with
          | some .startsClock => some { next with
              clocks := if threadCreated then next.clocks else state.clocks
              entry := if signalCreated then state.entry + 1 else 8 }
          | _ => some { next with entry := state.entry + 1 }
        else none
    | .startClock clock entries reads advance calls =>
        match state.clocks[clock]? with
        | some .starting =>
            let id : Int := (osdTimeId entries).val
            some ((state.settle (create id calls)
              (BitmapUpdate.startClock reads advance)).setClock clock
                (if calls.created && calls.attached && calls.bitmapSet then
                  .running id reads.fontSize else .ended))
        | _ => none
    | .tick clock advance =>
        match state.clocks[clock]? with
        | some (.running id fontSize) =>
            some (state.settle (setBitmap id) (timeData fontSize advance))
        | _ => none
    | .bmpChange id reads outside =>
        if 8 ≤ state.entry ∧ state.mutexHeld = false then
          some (state.settle (setBitmap id) (BitmapUpdate.bmpChange reads outside))
        else none

end State

def osd : System State Step where
  initial state := state = .start
  step := State.step

/-- The bitmap has the size that the region was created with, and a buffer for it. -/
def Update.Sized (update : Update) : Prop :=
  update.region = some update.data.size ∧
    update.data.bytes = update.data.size .x * update.data.size .y * 4

def State.Sized (state : State) : Prop :=
  state.process ≠ .undefined ∧ ∀ update ∈ state.updates, update.Sized

/-- Something is handed to the callback. -/
def Passes (made : Option Made) : Prop := ∃ data, made = some (.passes data)

/-- No step overflows, nor the array of a text; the bitmap of an image is loaded and has fewer
than 2^30 pixels; and for a time or a text that is set, the region was created with the rounded
advance of the time or the rounded product of the length of the text and the font size, and the
rounded font size. -/
def Suits (state : State) : Step → Prop
  | .initEntry reads outside calls _ _ =>
      (initEntry reads outside).isSome = true ∧
        (reads.isImage = true → reads.enabled ≠ 0 → calls.created = true →
          calls.attached = true → ∀ size, outside.image = some size →
            0 ≤ size .x * size .y ∧ size .x * size .y < 2 ^ 30)
  | .startClock _ _ reads advance _ => (startClock reads advance).isSome = true
  | .tick clock advance =>
      ∀ id fontSize, state.clocks[clock]? = some (.running id fontSize) →
        (timeData fontSize advance).isSome = true ∧
          (Passes (timeData fontSize advance) →
            ∃ size, state.regions id = some size ∧ upAlign16 advance = some (size .x) ∧
              upAlign16Unsigned fontSize = size .y)
  | .bmpChange id reads outside =>
      (bmpChange reads outside).isSome = true ∧
        (Passes (bmpChange reads outside) → ∃ size text, state.regions id = some size ∧
          reads.displayText = some text ∧
          upAlign16Unsigned (((outside.iconv text).getD outside.held).length *
            reads.fontSize) = size .x ∧
          upAlign16Unsigned reads.fontSize = size .y)

variable {state next : State} {label : Step} {reads : Reads} {outside : Outside}
  {made : Option Made} {data : OsdData} {size : Vec}

def OsdData.Full (data : OsdData) : Prop := data.bytes = data.size .x * data.size .y * 4

section Data

theorem bufferBytes_eq_some {bytes : Int} (isBytes : bufferBytes size = some bytes) :
    bytes = size .x * size .y * 4 := by
  obtain ⟨area, isArea, isProduct⟩ := Option.bind_eq_some_iff.mp isBytes
  rw [(toInt_eq_some_iff.mp isArea).2, (toInt_eq_some_iff.mp isProduct).2]

theorem skips_ne_passes (data : OsdData) : Made.skips ≠ .passes data := nofun

theorem fails_ne_passes (data : OsdData) : Made.fails ≠ .passes data := nofun

theorem textData_passes {rejected : Made} {width : Int}
    (rejects : ∀ data, rejected ≠ .passes data)
    (passes : textData rejected reads width = some (.passes data)) :
    data.size = sides width (upAlign16Unsigned reads.fontSize) ∧ data.Full := by
  simp only [textData, Option.bind_eq_bind, Option.bind_eq_some_iff] at passes
  obtain ⟨_, _, _, _, bytes, isBytes, passes⟩ := passes
  split at passes
  · cases passes
  · simp only [Option.bind_eq_some_iff] at passes
    obtain ⟨_, _, _, _, passes⟩ := passes
    split at passes
    · exact absurd (Option.some.inj passes) (rejects data)
    · cases passes
      exact ⟨rfl, bufferBytes_eq_some isBytes⟩

theorem timeData_passes {fontSize advance : Int}
    (passes : timeData fontSize advance = some (.passes data)) :
    upAlign16 advance = some (data.size .x) ∧ upAlign16Unsigned fontSize = data.size .y ∧
      data.Full := by
  simp only [timeData, Option.bind_eq_bind, Option.bind_eq_some_iff] at passes
  obtain ⟨width, isWidth, bytes, isBytes, passes⟩ := passes
  split at passes
  · cases passes
  · cases passes
    exact ⟨isWidth, rfl, bufferBytes_eq_some isBytes⟩

theorem startClock_passes {advance : Int}
    (passes : startClock reads advance = some (.passes data)) : data.Full := by
  simp only [startClock, Option.bind_eq_bind, Option.bind_eq_some_iff] at passes
  obtain ⟨_, _, _, _, passes⟩ := passes
  split at passes
  · cases passes
  · exact (timeData_passes passes).2.2

/-- What `rk_osd_bmp_change` hands over is as wide as so many squares of the font size. -/
theorem bmpChange_passes (passes : bmpChange reads outside = some (.passes data)) :
    ∃ text, reads.displayText = some text ∧
      upAlign16Unsigned (((outside.iconv text).getD outside.held).length * reads.fontSize) =
        data.size .x ∧
      upAlign16Unsigned reads.fontSize = data.size .y ∧ data.Full := by
  unfold bmpChange at passes
  split at passes
  · cases passes
  · simp only [Option.bind_eq_bind, Option.bind_eq_some_iff] at passes
    obtain ⟨_, _, _, _, passes⟩ := passes
    split at passes
    · cases passes
    · split at passes
      · cases isText : reads.displayText with
        | none =>
            rw [isText] at passes
            cases passes
        | some text =>
            rw [isText, Option.elim_some] at passes
            obtain ⟨_, passes⟩ := Option.ite_none_left_eq_some.mp passes
            obtain ⟨isSize, full⟩ := textData_passes fails_ne_passes passes
            exact ⟨text, rfl, by rw [isSize]; rfl, by rw [isSize]; rfl, full⟩
      · cases passes

/-- The buffer of an image is large enough unless its size overflows. -/
theorem initEntry_passes (passes : initEntry reads outside = some (.passes data)) :
    (reads.isImage = true ∧ reads.enabled ≠ 0 ∧ outside.image = some data.size ∧
        data.bytes = data.size .x * data.size .y * 4 % 2 ^ 32) ∨
      (reads.isImage = false ∧ data.Full) := by
  unfold initEntry at passes
  split at passes
  · cases passes
  next isShown =>
    simp only [Option.bind_eq_bind, Option.bind_eq_some_iff] at passes
    obtain ⟨_, _, _, _, passes⟩ := passes
    split at passes
    next isImage =>
      simp only [Option.bind_eq_some_iff] at passes
      obtain ⟨size, isSize, area, isArea, passes⟩ := passes
      cases passes
      refine .inl ⟨isImage, fun isZero => isShown (.inr isZero), isSize, ?_⟩
      rw [(toInt_eq_some_iff.mp isArea).2]
    next notImage =>
      refine .inr ⟨Bool.eq_false_iff.mpr notImage, ?_⟩
      split at passes
      · cases passes
      · split at passes
        · cases passes
        · split at passes
          · cases isText : reads.displayText with
            | none =>
                rw [isText] at passes
                cases passes
            | some text =>
                rw [isText, Option.elim_some] at passes
                obtain ⟨_, passes⟩ := Option.ite_none_left_eq_some.mp passes
                cases isConverted : outside.iconv (reads.initText text) with
                | none =>
                    rw [isConverted] at passes
                    cases passes
                | some wch =>
                    rw [isConverted, Option.elim_some] at passes
                    obtain ⟨width, _, passes⟩ := Option.bind_eq_some_iff.mp passes
                    exact (textData_passes skips_ne_passes passes).2
          · split at passes
            · cases passes
            · cases passes

theorem initEntry_image (isImage : reads.isImage = true) (isShown : reads.enabled ≠ 0)
    (isSize : outside.image = some size) (isSome : (initEntry reads outside).isSome = true) :
    initEntry reads outside =
      some (.passes ⟨size, size .x * size .y * 4 % 2 ^ 32⟩) := by
  have hasType : ¬ (reads.osdType = none ∨ reads.enabled = 0) := by
    rintro (isNone | isZero)
    · rw [Reads.isImage, isNone] at isImage
      cases isImage
    · exact isShown isZero
  obtain ⟨made, isMade⟩ := Option.isSome_iff_exists.mp isSome
  rw [isMade]
  rw [initEntry, if_neg hasType] at isMade
  simp only [Option.bind_eq_bind, Option.bind_eq_some_iff, isImage, if_true, isSize,
    Option.some.injEq, exists_eq_left'] at isMade
  obtain ⟨_, _, _, _, area, isArea, rfl⟩ := isMade
  rw [(toInt_eq_some_iff.mp isArea).2]

end Data

section Settle

theorem settle_sized_iff {passed : OsdData → State → State} (sized : state.Sized) :
    (state.settle passed made).Sized ↔
      made.isSome = true ∧ ∀ data, made = some (.passes data) → (passed data state).Sized := by
  cases made with
  | none =>
      refine iff_of_false (fun sized => sized.1 rfl) (fun suits => by cases suits.1)
  | some made =>
      cases made with
      | passes data =>
          refine ⟨fun sized => ⟨rfl, fun other isOther => ?_⟩, fun suits => suits.2 data rfl⟩
          cases isOther
          exact sized
      | dies => exact iff_of_true ⟨nofun, sized.2⟩ ⟨rfl, nofun⟩
      | fails | skips | startsClock => exact iff_of_true sized ⟨rfl, nofun⟩

theorem setBitmap_sized_iff {id : Int} (sized : state.Sized) :
    (state.setBitmap id data).Sized ↔ state.regions id = some data.size ∧ data.Full := by
  constructor
  · intro after
    exact after.2 (Update.mk id data (state.regions id))
      (List.mem_append_right _ (List.mem_singleton_self _))
  · intro isNew
    refine ⟨sized.1, fun update isIn => ?_⟩
    obtain before | isLast := List.mem_append.mp isIn
    · exact sized.2 update before
    · rw [List.mem_singleton.mp isLast]
      exact isNew

theorem create_sized_iff {id : Int} {calls : Calls} (sized : state.Sized) :
    (state.create id calls data).Sized ↔
      (calls.created = true → calls.attached = true → data.Full) := by
  unfold State.create
  split
  next isNot =>
    refine iff_of_true sized fun isCreated => ?_
    rw [isNot] at isCreated
    cases isCreated
  next isCreated =>
    split
    next isNot =>
      refine iff_of_true sized fun _ isAttached => ?_
      rw [isNot] at isAttached
      cases isAttached
    next isAttached =>
      have after : (state.setRegion id (some data.size)).Sized := sized
      rw [setBitmap_sized_iff after]
      have isRegion : (state.setRegion id (some data.size)).regions id = some data.size :=
        if_pos rfl
      rw [and_iff_right isRegion]
      exact ⟨fun full _ _ => full,
        fun suits => suits (Bool.eq_true_of_not_eq_false isCreated)
          (Bool.eq_true_of_not_eq_false isAttached)⟩

end Settle

section Steps

theorem initEntry_sized_iff (sized : state.Sized) (calls : Calls) (id : Int) :
    (state.settle (State.create id calls) (initEntry reads outside)).Sized ↔
      (initEntry reads outside).isSome = true ∧
        (reads.isImage = true → reads.enabled ≠ 0 → calls.created = true →
          calls.attached = true → ∀ size, outside.image = some size →
            0 ≤ size .x * size .y ∧ size .x * size .y < 2 ^ 30) := by
  rw [settle_sized_iff sized]
  refine and_congr_right fun isSome => ?_
  constructor
  · intro each isImage isShown isCreated isAttached size isSize
    have isPassed := initEntry_image isImage isShown isSize isSome
    have full := (create_sized_iff sized).mp (each _ isPassed) isCreated isAttached
    unfold OsdData.Full at full
    dsimp only at full
    omega
  · intro small data isPassed
    rw [create_sized_iff sized]
    intro isCreated isAttached
    obtain ⟨isImage, isShown, isSize, isBytes⟩ | ⟨_, full⟩ := initEntry_passes isPassed
    · obtain ⟨nonneg, less⟩ := small isImage isShown isCreated isAttached _ isSize
      rw [OsdData.Full, isBytes]
      omega
    · exact full

theorem startClock_sized_iff (sized : state.Sized) {calls : Calls} {id advance : Int} :
    (state.settle (State.create id calls) (startClock reads advance)).Sized ↔
      (startClock reads advance).isSome = true := by
  rw [settle_sized_iff sized]
  refine and_iff_left fun data isPassed => ?_
  exact (create_sized_iff sized).mpr fun _ _ => startClock_passes isPassed

theorem timeData_sized_iff (sized : state.Sized) {id fontSize advance : Int} :
    (state.settle (State.setBitmap id) (timeData fontSize advance)).Sized ↔
      (timeData fontSize advance).isSome = true ∧
        (Passes (timeData fontSize advance) →
          ∃ size, state.regions id = some size ∧ upAlign16 advance = some (size .x) ∧
            upAlign16Unsigned fontSize = size .y) := by
  rw [settle_sized_iff sized]
  refine and_congr_right fun _ => ?_
  constructor
  · rintro each ⟨data, isPassed⟩
    obtain ⟨isWidth, isHeight, _⟩ := timeData_passes isPassed
    have isRegion := (setBitmap_sized_iff sized).mp (each data isPassed)
    exact ⟨data.size, isRegion.1, isWidth, isHeight⟩
  · intro suits data isPassed
    obtain ⟨isWidth, isHeight, full⟩ := timeData_passes isPassed
    obtain ⟨size, isRegion, sameWidth, sameHeight⟩ := suits ⟨data, isPassed⟩
    have same : size = data.size := by
      funext axis
      cases axis with
      | x => exact Option.some.inj (sameWidth.symm.trans isWidth)
      | y => exact sameHeight.symm.trans isHeight
    exact (setBitmap_sized_iff sized).mpr ⟨same ▸ isRegion, full⟩

theorem bmpChange_sized_iff (sized : state.Sized) {id : Int} :
    (state.settle (State.setBitmap id) (bmpChange reads outside)).Sized ↔
      (bmpChange reads outside).isSome = true ∧
        (Passes (bmpChange reads outside) → ∃ size text, state.regions id = some size ∧
          reads.displayText = some text ∧
          upAlign16Unsigned (((outside.iconv text).getD outside.held).length *
            reads.fontSize) = size .x ∧
          upAlign16Unsigned reads.fontSize = size .y) := by
  rw [settle_sized_iff sized]
  refine and_congr_right fun _ => ?_
  constructor
  · rintro each ⟨data, isPassed⟩
    obtain ⟨text, isText, isWidth, isHeight, _⟩ := bmpChange_passes isPassed
    have isRegion := (setBitmap_sized_iff sized).mp (each data isPassed)
    exact ⟨data.size, text, isRegion.1, isText, isWidth, isHeight⟩
  · intro suits data isPassed
    obtain ⟨text, isText, isWidth, isHeight, full⟩ := bmpChange_passes isPassed
    obtain ⟨size, other, isRegion, isOther, sameWidth, sameHeight⟩ := suits ⟨data, isPassed⟩
    cases isText.symm.trans isOther
    have same : size = data.size := by
      funext axis
      cases axis with
      | x => exact sameWidth.symm.trans isWidth
      | y => exact sameHeight.symm.trans isHeight
    exact (setBitmap_sized_iff sized).mpr ⟨same ▸ isRegion, full⟩

/-- A step keeps to the sizes if and only if it meets the condition. -/
theorem sized_iff_suits (sized : state.Sized) (stepped : state.step label = some next) :
    next.Sized ↔ Suits state label := by
  unfold State.step at stepped
  split at stepped
  · cases stepped
  · cases label with
    | initEntry reads outside calls threadCreated signalCreated =>
        dsimp only at stepped
        split at stepped
        · refine Iff.trans ?_ (initEntry_sized_iff sized calls state.entry)
          split at stepped
          next =>
            cases stepped
            exact Iff.rfl
          next =>
            cases stepped
            exact Iff.rfl
        · cases stepped
    | startClock clock entries reads advance calls =>
        dsimp only at stepped
        split at stepped
        · cases stepped
          exact startClock_sized_iff sized
        · cases stepped
    | tick clock advance =>
        dsimp only at stepped
        split at stepped
        next id fontSize isClock =>
          cases stepped
          refine (timeData_sized_iff sized).trans ⟨fun suits other size isOther => ?_,
            fun suits => suits id fontSize isClock⟩
          cases isClock.symm.trans isOther
          exact suits
        next => cases stepped
    | bmpChange id reads outside =>
        dsimp only at stepped
        split at stepped
        · cases stepped
          exact bmpChange_sized_iff sized
        · cases stepped

/-- The sizes are right in every run whose steps meet the condition. -/
theorem sized (reachable : osd.Reachable Suits state) : state.Sized := by
  refine reachable.invariant ?_ ?_
  · rintro first rfl
    exact ⟨nofun, nofun⟩
  · intro state label next sized suits stepped
    exact (sized_iff_suits sized stepped).mpr suits

end Steps

def twoCharacters (osdType : Option Text) : Reads where
  osdType := osdType
  enabled := 1
  position := sides 0 0
  frame := sides 1920 1080
  fontSize := 32
  fontColor := some "0xfff799".toList
  displayText := some "ab".toList
  initFromIni := 1

def narrow : Outside where
  image := none
  iconv text := some (text.map Char.toNat)
  advance wch := 17 * wch.length
  held := []

def allSucceed : Calls := ⟨true, true, true⟩

def startRound : Step :=
  .initEntry (twoCharacters (some "dateTime".toList)) narrow allSucceed true true

def firstTime : Step :=
  .startClock 0 (fun _ => ⟨none, 0, []⟩) (twoCharacters none) 300 allSucceed

def clockStarted : State := { State.start with entry := 1, clocks := [Clock.starting] }

def ticking : State := { clockStarted with
  clocks := [Clock.running 0 32]
  regions other := if other = 0 then some (sides 304 32) else none
  updates := [Update.mk 0 ⟨sides 304 32, 38912⟩ (some (sides 304 32))] }

theorem reachable_ticking : osd.Reachable Suits ticking := by
  have noImage : (twoCharacters (some "dateTime".toList)).isImage = false := by decide
  have suitsRound : Suits .start startRound :=
    ⟨by decide, fun isImage => by rw [noImage] at isImage; cases isImage⟩
  have isStarted : osd.step .start startRound = some clockStarted := rfl
  have suitsTime : Suits clockStarted firstTime := by
    change (startClock _ _).isSome = true
    decide
  have isSet : osd.step clockStarted firstTime = some ticking := rfl
  exact ((System.Reachable.start rfl).step suitsRound isStarted).step suitsTime isSet

/-- The next time is a little wider. -/
theorem sized_ticking : (ticking.setBitmap 0 ⟨sides 304 32, 38912⟩).Sized := by
  have suits : Suits ticking (.tick 0 304) := by
    intro id fontSize isClock
    cases isClock
    refine ⟨by decide, fun _ => ⟨sides 304 32, rfl, by decide, by decide⟩⟩
  exact sized (reachable_ticking.step suits rfl)

def sameText : List Step :=
  Step.initEntry (twoCharacters (some "character".toList)) narrow allSucceed true true ::
    List.replicate 7 (Step.initEntry (twoCharacters none) narrow allSucceed true true) ++
      [Step.bmpChange 0 (twoCharacters (some "character".toList)) narrow]

/-- The region is 48 wide, the bitmap 64. -/
theorem wider_than_region :
    ∃ state, osd.Reachable System.anyStep state ∧ ¬ state.Sized := by
  have widths : (osd.run .start sameText).map (fun state => state.updates.map fun update =>
      (update.region.map (· .x), update.data.size .x)) =
        some [(some 48, 48), (some 48, 64)] := by
    decide +kernel
  obtain ⟨state, isLast, widths⟩ := Option.map_eq_some_iff.mp widths
  refine ⟨state, System.reachable_of_run rfl isLast, fun sized => ?_⟩
  have isIn : (some 48, (64 : Int)) ∈ state.updates.map fun update =>
      (update.region.map (· .x), update.data.size .x) := by
    rw [widths]
    exact List.mem_cons_of_mem _ (List.mem_singleton_self _)
  obtain ⟨update, isUpdate, same⟩ := List.mem_map.mp isIn
  obtain ⟨isWidth, isBitmap⟩ := Prod.mk.inj same
  rw [(sized.2 update isUpdate).1, Option.map_some, isBitmap] at isWidth
  cases isWidth

end Rkipc.Osd.BitmapUpdate
