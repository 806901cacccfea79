import Mathlib.Tactic.Linarith
import Mathlib.Tactic.Ring
import Rkipc.Libc.Rounds
import Rkipc.Libc.Align

namespace Rkipc.Osd.BmpReader

open Libc

/-! The image of an overlay: a file of a picture, read into the buffer of the overlay. -/

abbrev Byte := BitVec 8

inductive LongWidth
  | bits32
  | bits64
deriving DecidableEq

def LongWidth.bits : LongWidth → Nat
  | .bits32 => 32
  | .bits64 => 64

/-- What the variables of the headers hold before they are read. -/
structure Stack where
  fileType : Nat → Byte
  bitHead : Nat → Byte
  bitInfoHead : Nat → Byte

/-- What is outside of the call, but for the file: `malloc` may fail each time. -/
structure Outside where
  long : LongWidth
  stack : Stack
  dataAllocated : Bool
  bufferAllocated : Bool

structure Header where
  fileType : BitVec 16
  bfOffBits : BitVec 32
  biWidth : BitVec 32
  biHeight : BitVec 32
  biBitCount : BitVec 16
deriving DecidableEq

section Headers

/-- `fread` into a variable: behind the end of the file it is left as it was. -/
def fread (file : List Byte) (position : Nat) (memory : Nat → Byte) (i : Nat) : Byte :=
  file[position + i]?.getD (memory i)

def word16 (memory : Nat → Byte) (offset : Nat) : BitVec 16 :=
  memory (offset + 1) ++ memory offset

def word32 (memory : Nat → Byte) (offset : Nat) : BitVec 32 :=
  memory (offset + 3) ++ memory (offset + 2) ++ memory (offset + 1) ++ memory offset

def sizeofFileHeader : Nat := 12

def sizeofInfoHeader : Nat := 40

def behindHeaders : Nat := 2 + sizeofFileHeader + sizeofInfoHeader

def readHeader (stack : Stack) (file : List Byte) : Header :=
  let bitHead := fread file 2 stack.bitHead
  let bitInfoHead := fread file (2 + sizeofFileHeader) stack.bitInfoHead
  { fileType := word16 (fread file 0 stack.fileType) 0
    bfOffBits := word32 bitHead 8
    biWidth := word32 bitInfoHead 4
    biHeight := word32 bitInfoHead 8
    biBitCount := word16 bitInfoHead 14 }

end Headers

namespace Header

variable (header : Header)

def bmpCheck : Bool :=
  header.fileType = 0x4d42 ∧ ¬ header.biBitCount.toNat < 24 ∧
    ¬ header.bfOffBits.toNat < sizeofFileHeader + sizeofInfoHeader

def width : Int := header.biWidth.toInt

def height : Int := header.biHeight.toInt

/-- `WIDTHBYTES`, in `int` arithmetic. -/
def widthBytes (bits : Int) : Option Int := do
  toInt ((← toInt (bits + 31)) >>> (5 : Nat) * 4)

def pitch : Option Int := do
  widthBytes (← toInt (header.width * header.biBitCount.toNat))

def dataSize : Option Int := do
  toInt ((← header.pitch) * header.height)

end Header

structure RgbQuad where
  rgbReserved : Byte
  rgbRed : Byte
  rgbGreen : Byte
  rgbBlue : Byte
deriving DecidableEq

section Convert

/-- A byte of `bmp_data`, which holds what was read from the file. -/
def byteAt (bmpData : List Byte) (k : Int) : Option Byte :=
  if 0 ≤ k then bmpData[k.toNat]? else none

def quad24 (bmpData : List Byte) (k : Int) : Option RgbQuad := do
  let rgbBlue ← byteAt bmpData k
  let rgbGreen ← byteAt bmpData (k + 1)
  let rgbRed ← byteAt bmpData (k + 2)
  let rgbReserved := if rgbBlue = 0x08 ∧ rgbGreen = 0x00 ∧ rgbRed = 0x00 then 0x00 else 0xff
  return { rgbReserved, rgbRed, rgbGreen, rgbBlue }

def quad32 (bmpData : List Byte) (k : Int) : Option RgbQuad := do
  let rgbBlue ← byteAt bmpData k
  let rgbGreen ← byteAt bmpData (k + 1)
  let rgbRed ← byteAt bmpData (k + 2)
  let rgbReserved ← byteAt bmpData (k + 3)
  return { rgbReserved, rgbRed, rgbGreen, rgbBlue }

/-- The values of `k` in the two loops. -/
def places (width height pitch stride : Int) : List Int :=
  (List.range height.toNat).flatMap fun i : Nat =>
    (List.range width.toNat).map fun j : Nat => (height - i - 1) * pitch + j * stride

variable (header : Header) (bmpData : List Byte)

/-- The pixels in the order in which they are written, from the start of the buffer on. -/
def bmp24ToArgb8888 : Option (List RgbQuad) := do
  (places header.width header.height (← header.pitch) 3).mapM (quad24 bmpData)

def bmp32ToArgb8888 : Option (List RgbQuad) := do
  (places header.width header.height (← header.pitch) 4).mapM (quad32 bmpData)

def toArgb8888 : Option (List RgbQuad) :=
  if header.biBitCount = 24 then bmp24ToArgb8888 header bmpData
  else bmp32ToArgb8888 header bmpData

end Convert

/-- The fields of the overlay behind a success: the bytes that `buffer` has room for, the
pixels that are written into it, and the numbers. -/
structure Loaded where
  allocated : Int
  pixels : List RgbQuad
  width : Int
  height : Int
  size : Int
deriving DecidableEq

/-- A return of -1, with the pointer to the buffer changed or not; a success; or a read outside
of the bytes from the file, an overflow, or a write to NULL. -/
inductive Outcome
  | fails (touched : Bool)
  | loads (loaded : Loaded)
  | faults
deriving DecidableEq

section Load

variable (outside : Outside)

/-- Sizes over half of the range of `size_t` are refused. -/
def malloc (succeeds : Bool) (size : Int) : Bool :=
  succeeds && size % 2 ^ outside.long.bits < 2 ^ (outside.long.bits - 1)

/-- Where the data is read; an offset that is negative as a `long` is refused. -/
def fseek (header : Header) (file : List Byte) : Nat :=
  if outside.long = .bits32 ∧ 2 ^ 31 ≤ header.bfOffBits.toNat then min behindHeaders file.length
  else header.bfOffBits.toNat

/-- What comes behind the reads of the file; the buffer is cleared before it is compared with
NULL. -/
def loadPixels (header : Header) (bmpData : List Byte) : Outcome :=
  match toInt (header.width * header.height) with
  | none => .faults
  | some area =>
      let bytes := area * 4 % 2 ^ outside.long.bits
      if malloc outside outside.bufferAllocated bytes then
        match toArgb8888 header bmpData with
        | none => .faults
        | some pixels =>
            .loads ⟨bytes, pixels, header.width, header.height, area * 4 % 2 ^ 32⟩
      else if bytes = 0 then .fails true
      else .faults

def loadData (file : List Byte) (header : Header) (dataSize : Int) : Outcome :=
  if malloc outside outside.dataAllocated dataSize then
    let bmpData := (file.drop (fseek outside header file)).take dataSize.toNat
    if bmpData = [] then .fails false else loadPixels outside header bmpData
  else .fails false

/-- `load_bmp_form_file`, with the content of the file if it can be opened. -/
def loadBmpFormFile (image : Option (List Byte)) : Outcome :=
  match image with
  | none => .fails false
  | some file =>
      let header := readHeader outside.stack file
      if header.bmpCheck then
        match header.dataSize with
        | none => .faults
        | some dataSize => loadData outside file header dataSize
      else .fails false

end Load

/-- A failure leaves the pointer as it was, a success has the size of a picture and room for
its pixels. -/
def Outcome.Safe : Outcome → Prop
  | .fails touched => touched = false
  | .loads loaded =>
      (0 < loaded.width ∧ 0 < loaded.height) ∧
        loaded.allocated = loaded.width * loaded.height * 4 ∧
        loaded.size = loaded.width * loaded.height * 4 ∧
        4 * (loaded.pixels.length : Int) ≤ loaded.allocated
  | .faults => False

namespace Header

variable (header : Header)

def rowBytes : Int := (header.width * header.biBitCount.toNat + 31) / 32 * 4

def stride : Int := if header.biBitCount = 24 then 3 else 4

/-- No product overflows. -/
structure InRange : Prop where
  row : intMin ≤ header.width * header.biBitCount.toNat ∧
    header.width * header.biBitCount.toNat + 31 ≤ intMax
  data : intMin ≤ header.rowBytes * header.height ∧ header.rowBytes * header.height ≤ intMax

/-- A picture whose rows hold their pixels, with all of them in the file. -/
structure Fits (available : Int) : Prop where
  width : 0 < header.width
  height : 0 < header.height
  row : header.stride * header.width ≤ header.rowBytes
  data : (header.height - 1) * header.rowBytes + header.stride * header.width ≤ available

end Header

/-- If some of the data is read, then the picture fits and the buffer is allocated. -/
def SuitsData (outside : Outside) (file : List Byte) (header : Header) : Prop :=
  outside.dataAllocated = true → 0 < header.rowBytes * header.height →
    fseek outside header file < file.length →
    header.Fits (file.length - fseek outside header file : Nat) ∧
      outside.bufferAllocated = true ∧
      header.width * header.height * 4 < 2 ^ (outside.long.bits - 1)

/-- If the file is accepted, no product overflows, and its data suits. -/
def SuitsFile (outside : Outside) (file : List Byte) (header : Header) : Prop :=
  header.bmpCheck = true → header.InRange ∧ SuitsData outside file header

def Suits (outside : Outside) (image : Option (List Byte)) : Prop :=
  ∀ file, image = some file → SuitsFile outside file (readHeader outside.stack file)

section Products

variable {header : Header} {value result : Int}

theorem pitch_eq_some_iff {pitch : Int} : header.pitch = some pitch ↔
    (intMin ≤ header.width * header.biBitCount.toNat ∧
      header.width * header.biBitCount.toNat + 31 ≤ intMax) ∧ header.rowBytes = pitch := by
  unfold Header.pitch Header.widthBytes Header.rowBytes
  generalize header.width * header.biBitCount.toNat = bits
  simp only [bind, Option.bind_eq_some_iff, toInt_eq_some_iff, Int.shiftRight_eq_div_pow]
  constructor
  · rintro ⟨_, ⟨inRange, rfl⟩, _, ⟨rounded, rfl⟩, _, rfl⟩
    exact ⟨⟨inRange.1, rounded.2⟩, rfl⟩
  · rintro ⟨inRange, rfl⟩
    refine ⟨bits, ⟨?_, rfl⟩, bits + 31, ⟨?_, rfl⟩, ?_, rfl⟩
    all_goals unfold intMin intMax at *
    all_goals omega

theorem dataSize_eq_some_iff {dataSize : Int} : header.dataSize = some dataSize ↔
    header.InRange ∧ header.rowBytes * header.height = dataSize := by
  unfold Header.dataSize
  simp only [bind, Option.bind_eq_some_iff, pitch_eq_some_iff, toInt_eq_some_iff]
  constructor
  · rintro ⟨_, ⟨row, rfl⟩, data, same⟩
    exact ⟨⟨row, data⟩, same⟩
  · exact fun ⟨inRange, same⟩ => ⟨_, ⟨inRange.row, rfl⟩, inRange.data, same⟩

theorem three_mul_width_le (check : header.bmpCheck = true) (positive : 0 < header.width) :
    3 * header.width ≤ header.rowBytes := by
  have depth : 24 ≤ header.biBitCount.toNat := not_lt.mp (of_decide_eq_true check).2.1
  have bits : header.width * 24 ≤ header.width * header.biBitCount.toNat :=
    mul_le_mul_of_nonneg_left (by omega) positive.le
  unfold Header.rowBytes
  omega

end Products

section Reads

variable {bmpData : List Byte} {k : Int}

theorem exists_byteAt_iff (bmpData : List Byte) (k : Int) :
    (∃ byte, byteAt bmpData k = some byte) ↔ 0 ≤ k ∧ k < bmpData.length := by
  unfold byteAt
  split
  next nonneg =>
    rw [← Option.ne_none_iff_exists', Ne, List.getElem?_eq_none_iff]
    omega
  next negative => exact iff_of_false nofun fun inside => negative inside.1

theorem exists_quad24_iff :
    (∃ quad, quad24 bmpData k = some quad) ↔ 0 ≤ k ∧ k + 3 ≤ bmpData.length := by
  simp only [quad24, bind, Option.bind_eq_some_iff]
  constructor
  · rintro ⟨_, _, isBlue, _, _, _, isRed, _⟩
    have first := (exists_byteAt_iff _ _).mp ⟨_, isBlue⟩
    have last := (exists_byteAt_iff _ _).mp ⟨_, isRed⟩
    omega
  · intro inside
    obtain ⟨blue, isBlue⟩ := (exists_byteAt_iff bmpData k).mpr ⟨by omega, by omega⟩
    obtain ⟨green, isGreen⟩ := (exists_byteAt_iff bmpData (k + 1)).mpr ⟨by omega, by omega⟩
    obtain ⟨red, isRed⟩ := (exists_byteAt_iff bmpData (k + 2)).mpr ⟨by omega, by omega⟩
    exact ⟨_, blue, isBlue, green, isGreen, red, isRed, rfl⟩

theorem exists_quad32_iff :
    (∃ quad, quad32 bmpData k = some quad) ↔ 0 ≤ k ∧ k + 4 ≤ bmpData.length := by
  simp only [quad32, bind, Option.bind_eq_some_iff]
  constructor
  · rintro ⟨_, _, isBlue, _, _, _, _, _, isReserved, _⟩
    have first := (exists_byteAt_iff _ _).mp ⟨_, isBlue⟩
    have last := (exists_byteAt_iff _ _).mp ⟨_, isReserved⟩
    omega
  · intro inside
    obtain ⟨blue, isBlue⟩ := (exists_byteAt_iff bmpData k).mpr ⟨by omega, by omega⟩
    obtain ⟨green, isGreen⟩ := (exists_byteAt_iff bmpData (k + 1)).mpr ⟨by omega, by omega⟩
    obtain ⟨red, isRed⟩ := (exists_byteAt_iff bmpData (k + 2)).mpr ⟨by omega, by omega⟩
    obtain ⟨reserved, isReserved⟩ := (exists_byteAt_iff bmpData (k + 3)).mpr ⟨by omega, by omega⟩
    exact ⟨_, blue, isBlue, green, isGreen, red, isRed, reserved, isReserved, rfl⟩

variable {width height pitch stride available : Int}

theorem length_places :
    (places width height pitch stride).length = height.toNat * width.toNat := by
  simp [places, List.length_flatMap, List.map_const']

theorem forall_places_iff (widthPos : 0 < width) (heightPos : 0 < height) (pitchNonneg : 0 ≤ pitch)
    (strideNonneg : 0 ≤ stride) :
    (∀ k ∈ places width height pitch stride, 0 ≤ k ∧ k + stride ≤ available) ↔
      (height - 1) * pitch + stride * width ≤ available := by
  have lastColumn : (width - 1) * stride + stride = stride * width := by ring
  constructor
  · intro all
    have isIn : (height - 1) * pitch + (width - 1) * stride ∈
        places width height pitch stride := by
      refine List.mem_flatMap.mpr ⟨0, List.mem_range.mpr (by omega), ?_⟩
      refine List.mem_map.mpr ⟨(width - 1).toNat, List.mem_range.mpr (by omega), ?_⟩
      rw [Int.toNat_of_nonneg (by omega), Nat.cast_zero, sub_zero]
    have inside := (all _ isIn).2
    omega
  · intro fits k isIn
    obtain ⟨i, isRow, isIn⟩ := List.mem_flatMap.mp isIn
    obtain ⟨j, isColumn, rfl⟩ := List.mem_map.mp isIn
    rw [List.mem_range] at isRow isColumn
    have row := mul_nonneg (by omega : 0 ≤ height - i - 1) pitchNonneg
    have column := mul_nonneg (Int.natCast_nonneg j) strideNonneg
    have lastRow := mul_le_mul_of_nonneg_right (by omega : height - i - 1 ≤ height - 1) pitchNonneg
    have last := mul_le_mul_of_nonneg_right (by omega : (j : Int) ≤ width - 1) strideNonneg
    omega

end Reads

section Pixels

variable {header : Header} {bmpData : List Byte}

theorem toArgb8888_eq (inRange : header.InRange) : toArgb8888 header bmpData =
    (places header.width header.height header.rowBytes header.stride).mapM
      (if header.biBitCount = 24 then quad24 bmpData else quad32 bmpData) := by
  have isPitch : header.pitch = some header.rowBytes := pitch_eq_some_iff.mpr ⟨inRange.row, rfl⟩
  unfold toArgb8888 bmp24ToArgb8888 bmp32ToArgb8888 Header.stride
  rw [isPitch]
  split
  next => rfl
  next => rfl

theorem exists_toArgb8888_iff (bmpData : List Byte) (inRange : header.InRange)
    (widthPos : 0 < header.width) (heightPos : 0 < header.height)
    (rowNonneg : 0 ≤ header.rowBytes) :
    (∃ pixels, toArgb8888 header bmpData = some pixels) ↔
      (header.height - 1) * header.rowBytes + header.stride * header.width ≤ bmpData.length := by
  rw [toArgb8888_eq inRange, exists_mapM_iff,
    ← forall_places_iff widthPos heightPos rowNonneg (by unfold Header.stride; split <;> decide)]
  refine forall₂_congr fun k _ => ?_
  unfold Header.stride
  split
  next => exact exists_quad24_iff
  next => exact exists_quad32_iff

theorem length_pixels (inRange : header.InRange) {pixels : List RgbQuad}
    (isPixels : toArgb8888 header bmpData = some pixels) :
    pixels.length = header.height.toNat * header.width.toNat := by
  rw [toArgb8888_eq inRange] at isPixels
  rw [length_of_mapM isPixels, length_places]

end Pixels

section Safety

variable {outside : Outside} {header : Header} {bmpData : List Byte}

theorem malloc_iff {succeeds : Bool} {size : Int} : malloc outside succeeds size = true ↔
    succeeds = true ∧ size % 2 ^ outside.long.bits < 2 ^ (outside.long.bits - 1) := by
  unfold malloc
  rw [Bool.and_eq_true, decide_eq_true_iff]

theorem area_le (check : header.bmpCheck = true) (inRange : header.InRange)
    (widthPos : 0 < header.width) (heightPos : 0 < header.height) :
    0 < header.width * header.height ∧ 3 * (header.width * header.height) ≤ intMax := by
  have row := mul_le_mul_of_nonneg_right (three_mul_width_le check widthPos) heightPos.le
  rw [mul_assoc] at row
  exact ⟨mul_pos widthPos heightPos, row.trans inRange.data.2⟩

theorem mod_of_area (outside : Outside) {area : Int} (positive : 0 < area)
    (small : 3 * area ≤ intMax) :
    area * 4 % 2 ^ outside.long.bits = area * 4 ∧ area * 4 % 2 ^ 32 = area * 4 := by
  unfold intMax at small
  have below : area * 4 < 2 ^ 32 := by omega
  refine ⟨?_, Int.emod_eq_of_lt (by omega) below⟩
  cases outside.long with
  | bits32 => exact Int.emod_eq_of_lt (by omega) below
  | bits64 => exact Int.emod_eq_of_lt (by omega) (below.trans (by decide))

variable {available : Nat}

theorem fits_of_safe (inRange : header.InRange) (positive : 0 < header.rowBytes * header.height)
    (isData : (bmpData.length : Int) = min (header.rowBytes * header.height) available)
    (safe : (loadPixels outside header bmpData).Safe) :
    header.Fits available ∧ outside.bufferAllocated = true ∧
      header.width * header.height * 4 < 2 ^ (outside.long.bits - 1) := by
  unfold loadPixels at safe
  split at safe
  next => exact safe.elim
  next area isArea =>
    obtain ⟨_, rfl⟩ := toInt_eq_some_iff.mp isArea
    dsimp only at safe
    split at safe
    next allocated =>
      split at safe
      next => exact safe.elim
      next pixels isPixels =>
        obtain ⟨⟨widthPos, heightPos⟩, isAllocated, _⟩ := safe
        have rowPos : 0 < header.rowBytes := (mul_pos_iff_of_pos_right heightPos).mp positive
        have read :=
          (exists_toArgb8888_iff _ inRange widthPos heightPos rowPos.le).mp ⟨pixels, isPixels⟩
        rw [isData, le_min_iff] at read
        obtain ⟨isBuffer, bound⟩ := malloc_iff.mp allocated
        rw [Int.emod_emod_of_dvd _ (dvd_refl _)] at bound
        refine ⟨⟨widthPos, heightPos, ?_, read.2⟩, isBuffer, isAllocated ▸ bound⟩
        have rows : header.rowBytes * header.height =
            (header.height - 1) * header.rowBytes + header.rowBytes := by ring
        omega
    next =>
      split at safe
      next => cases safe
      next => exact safe.elim

theorem safe_of_fits (check : header.bmpCheck = true) (inRange : header.InRange)
    (isData : (bmpData.length : Int) = min (header.rowBytes * header.height) available)
    (fits : header.Fits available) (isBuffer : outside.bufferAllocated = true)
    (bound : header.width * header.height * 4 < 2 ^ (outside.long.bits - 1)) :
    (loadPixels outside header bmpData).Safe := by
  obtain ⟨positive, small⟩ := area_le check inRange fits.width fits.height
  have isArea : toInt (header.width * header.height) = some (header.width * header.height) :=
    toInt_eq_some_iff.mpr ⟨by unfold intMin intMax at *; omega, rfl⟩
  obtain ⟨isBytes, isSize⟩ := mod_of_area outside positive small
  have allocated :
      malloc outside outside.bufferAllocated (header.width * header.height * 4) = true :=
    malloc_iff.mpr ⟨isBuffer, isBytes.symm ▸ bound⟩
  have rowPos : 0 < header.rowBytes := by
    have := three_mul_width_le check fits.width
    have := fits.width
    omega
  have rows : header.rowBytes * header.height =
      (header.height - 1) * header.rowBytes + header.rowBytes := by ring
  obtain ⟨pixels, isPixels⟩ :=
    (exists_toArgb8888_iff bmpData inRange fits.width fits.height rowPos.le).mpr (by
      have := fits.row
      have := fits.data
      rw [isData, le_min_iff]
      omega)
  have count := length_pixels inRange isPixels
  unfold loadPixels
  rw [isArea]
  dsimp only
  rw [isBytes, if_pos allocated, isPixels]
  refine ⟨⟨fits.width, fits.height⟩, rfl, isSize, ?_⟩
  rw [count, Nat.cast_mul, Int.toNat_of_nonneg fits.height.le, Int.toNat_of_nonneg fits.width.le]
  exact le_of_eq (by ring)

theorem malloc_data_iff (inRange : header.InRange) :
    malloc outside outside.dataAllocated (header.rowBytes * header.height) = true ↔
      outside.dataAllocated = true ∧ 0 ≤ header.rowBytes * header.height := by
  have data := inRange.data
  unfold intMin intMax at data
  rw [malloc_iff]
  refine and_congr_right fun _ => ?_
  cases outside.long with
  | bits32 =>
      simp only [LongWidth.bits]
      omega
  | bits64 =>
      simp only [LongWidth.bits]
      omega

theorem safe_loadData_iff {file : List Byte} (check : header.bmpCheck = true)
    (inRange : header.InRange) :
    (loadData outside file header (header.rowBytes * header.height)).Safe ↔
      SuitsData outside file header := by
  unfold loadData SuitsData
  by_cases allocated :
      malloc outside outside.dataAllocated (header.rowBytes * header.height) = true
  · obtain ⟨isData, nonneg⟩ := (malloc_data_iff inRange).mp allocated
    have nothing : (file.drop (fseek outside header file)).take
        (header.rowBytes * header.height).toNat = [] ↔
          ¬ (0 < header.rowBytes * header.height ∧ fseek outside header file < file.length) := by
      rw [List.take_eq_nil_iff, List.drop_eq_nil_iff]
      omega
    rw [if_pos allocated, imp_iff_right isData, ← and_imp]
    dsimp only
    split
    next isNothing => exact iff_of_true rfl fun some => absurd some (nothing.mp isNothing)
    next isSomething =>
      have some := not_not.mp (mt nothing.mpr isSomething)
      have count : ((((file.drop (fseek outside header file)).take
          (header.rowBytes * header.height).toNat).length : Nat) : Int) =
          min (header.rowBytes * header.height)
            (file.length - fseek outside header file : Nat) := by
        rw [List.length_take, List.length_drop, Nat.cast_min, Int.toNat_of_nonneg nonneg]
      rw [imp_iff_right some]
      constructor
      · exact fits_of_safe inRange some.1 count
      · exact fun ⟨fits, isBuffer, bound⟩ => safe_of_fits check inRange count fits isBuffer bound
  · rw [if_neg allocated]
    refine iff_of_true rfl fun isData positive => ?_
    exact absurd ((malloc_data_iff inRange).mpr ⟨isData, positive.le⟩) allocated

/-- The image is loaded safely, or not at all, exactly if the file suits. -/
theorem load_safe_iff (outside : Outside) (image : Option (List Byte)) :
    (loadBmpFormFile outside image).Safe ↔ Suits outside image := by
  cases image with
  | none => exact iff_of_true rfl nofun
  | some file =>
      have suits_iff : Suits outside (some file) ↔
          SuitsFile outside file (readHeader outside.stack file) := by
        constructor
        · exact fun suits => suits file rfl
        · intro suits other same
          cases same
          exact suits
      rw [suits_iff]
      unfold loadBmpFormFile
      dsimp only
      generalize readHeader outside.stack file = header
      by_cases check : header.bmpCheck = true
      · rw [if_pos check]
        unfold SuitsFile
        rw [imp_iff_right check]
        cases isSize : header.dataSize with
        | none =>
            refine iff_of_false id fun suits => ?_
            rw [dataSize_eq_some_iff.mpr ⟨suits.1, rfl⟩] at isSize
            cases isSize
        | some dataSize =>
            obtain ⟨inRange, rfl⟩ := dataSize_eq_some_iff.mp isSize
            rw [and_iff_right inRange]
            exact safe_loadData_iff check inRange
      · rw [if_neg check]
        exact iff_of_true rfl fun isCheck => absurd isCheck check

end Safety

section Examples

def allSucceeds : Outside := ⟨.bits64, ⟨fun _ => 0, fun _ => 0, fun _ => 0⟩, true, true⟩

/-- A picture of 4 x 2 pixels with 24 bits each, of which only the first row is in the file. -/
def cutOff : List Byte :=
  [0x42, 0x4d, 78, 0, 0, 0, 0, 0, 0, 0, 54, 0, 0, 0] ++
    [40, 0, 0, 0, 4, 0, 0, 0, 2, 0, 0, 0, 1, 0, 24, 0] ++ List.replicate 24 0 ++
    List.replicate 12 255

/-- The second row is read behind the bytes that came from the file. -/
theorem cutOff_unsafe : ¬ (loadBmpFormFile allSucceeds (some cutOff)).Safe := by
  have faults : loadBmpFormFile allSucceeds (some cutOff) = .faults := by decide
  rw [faults]
  exact id

end Examples

end Rkipc.Osd.BmpReader
