import Mathlib.Data.Fintype.Basic
import Rkipc.Libc.Ownership
import Rkipc.Osd.Overlay

namespace Rkipc.Osd.Buffers

open Ini Libc Overlay

/-! The buffers behind the overlays of one run of `rk_osd_init`. -/

abbrev Event := MemoryEvent OsdId

/-- What `load_bmp_form_file` meets: whether `fopen` succeeds, the header as it is after
the reads, whether `bmp_data` is allocated, the number of its bytes that are read, and
whether the buffer is allocated. -/
structure ImageFile where
  opens : Bool
  fileType : Nat
  biBitCount : Nat
  bfOffBits : Nat
  dataAllocated : Bool
  read : Nat
  bufferAllocated : Bool
deriving DecidableEq

/-- The file behind an entry, and whether the buffer of its text is allocated; `fontPath`
is the parameter of all entries. -/
structure Memory where
  image : OsdId → ImageFile
  textAllocated : OsdId → Bool
  fontPath : Option Text

/-- The events of a piece of code, the fields and counters after it, and whether the run
goes on. -/
structure Round where
  events : List Event
  buffer : Pointer
  next : Nat
  goesOn : Bool

section Image

variable (file : ImageFile) (id : OsdId) (buffer : Pointer) (next : Nat)

def bmpCheck : Bool := file.fileType = 0x4d42 ∧ 24 ≤ file.biBitCount ∧ 12 + 40 ≤ file.bfOffBits

/-- The buffer is cleared before it is compared with NULL. -/
def loadBmpFormFile : Round :=
  if file.opens = false ∨ bmpCheck file = false ∨ file.dataAllocated = false then
    ⟨[], buffer, next, true⟩
  else if file.read = 0 then ⟨[.malloc next id], buffer, next + 1, true⟩
  else if file.bufferAllocated = false then
    ⟨[.malloc next id, .write .null], .null, next + 1, false⟩
  else
    ⟨[.malloc next id, .malloc (next + 1) id, .write (.block (next + 1)),
        .fill (.block (next + 1)) id, .free (.block next)],
      .block (next + 1), next + 2, true⟩

/-- The entry of an image, where the result of `fill_image` is not looked at. -/
def imageEntry : Round :=
  let loaded := loadBmpFormFile file id buffer next
  if loaded.goesOn then
    { loaded with
      events := loaded.events ++ .pass loaded.buffer id ::
        if loaded.buffer = .null then [] else [.free loaded.buffer] }
  else loaded

end Image

section Init

variable (config : Config) (outside : Outside) (memory : Memory)

def placed (id : OsdId) (advance : Int) : Bool :=
  ∀ axis, 0 ≤ textOrigin config outside id advance axis ∧ 0 ≤ textSize config advance axis

/-- `fill_text` refuses a path that is NULL, which is not looked at either. -/
def fillText (pointer : Pointer) (id : OsdId) : List Event :=
  if memory.fontPath = none then [] else [.fill pointer id]

def textEntry (id : OsdId) (advance : Int) (next : Nat) : Round :=
  if memory.textAllocated id then
    let buffer := Pointer.block next
    ⟨.malloc next id :: .write buffer :: fillText memory buffer id ++
        (if placed config outside id advance then [.pass buffer id, .free buffer] else []),
      buffer, next + 1, true⟩
  else ⟨[.write .null], .null, next, false⟩

def initEntry (id : OsdId) (buffer : Pointer) (next : Nat) : Round :=
  match branch config id with
  | .skip => ⟨[], buffer, next, true⟩
  | .image => imageEntry (memory.image id) id buffer next
  | .privacyMask => ⟨[], buffer, next, true⟩
  | .null => ⟨[], buffer, next, false⟩
  | .text advance => textEntry config outside memory id advance next
  | .dateTime => ⟨[], buffer, next, outside.signalCreated id⟩

def rounds : List OsdId → Pointer → Nat → List Event
  | [], _, _ => []
  | id :: rest, buffer, next =>
      let round := initEntry config outside memory id buffer next
      round.events ++ if round.goesOn then rounds rest round.buffer round.next else []

/-- `osd_data` is not initialised. -/
def rkOsdInit : List Event := rounds config outside memory (List.finRange 8) .uninit 0

/-- The file opens, is accepted and read, and there is memory for it. -/
def ImageFile.Loads (file : ImageFile) : Prop :=
  file.opens = true ∧ bmpCheck file = true ∧ file.dataAllocated = true ∧ file.read ≠ 0 ∧
    file.bufferAllocated = true

/-- Nothing goes wrong with the buffer of an entry. -/
def Suits (id : OsdId) : Prop :=
  match branch config id with
  | .image => (memory.image id).Loads
  | .text advance =>
      memory.textAllocated id = true ∧ memory.fontPath ≠ none ∧
        placed config outside id advance = true
  | _ => True

/-- The loop goes on behind an entry: no string of it is NULL, and its signal is made. -/
def passes (id : OsdId) : Bool :=
  match branch config id with
  | .null => false
  | .dateTime => outside.signalCreated id
  | _ => true

end Init

end Rkipc.Osd.Buffers
