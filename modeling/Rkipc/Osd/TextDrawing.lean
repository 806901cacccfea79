import Mathlib.Algebra.Order.Group.Unbundled.Int
import Mathlib.Tactic.Ring
import Rkipc.Libc.LastWrite

namespace Rkipc.Osd.TextDrawing

open Libc

/-! The text of an overlay: glyphs that are drawn one after the other.  Sums and products are
exact: an `int` that overflows, which C leaves undefined, is left out. -/

/-- A pixel in the order blue, green, red, alpha. -/
abbrev Pixel := BitVec 32

/-- `set_font_color`: the value of `font_color_`. -/
def setFontColor (fontColor : BitVec 32) : Pixel :=
  0x000000FF ||| (fontColor >>> 8 &&& 0x0000FF00) ||| (fontColor <<< 8 &&& 0x00FF0000) |||
    (fontColor <<< 24 &&& 0xFF000000)

theorem setFontColor_ne_zero (fontColor : BitVec 32) : setFontColor fontColor ≠ 0 := by
  intro isZero
  have first := (BitVec.or_eq_zero_iff.mp (BitVec.or_eq_zero_iff.mp
    (BitVec.or_eq_zero_iff.mp isZero).1).1).1
  exact absurd first (by decide)

structure Vector where
  x : Int
  y : Int
deriving DecidableEq

/-- What `slot_` holds behind `FT_Load_Char` and `FT_Render_Glyph`, and whether the first of
them failed.  A row of the bitmap has `width` bytes. -/
structure Slot where
  error : Bool
  bitmapLeft : Int
  bitmapTop : Int
  width : Nat
  rows : Nat
  bitmap : Nat → BitVec 8
  advance : Vector

structure Face where
  ascender : Int
  height : Int
deriving DecidableEq

/-- A text without its terminator. -/
abbrev WText := List (BitVec 32)

/-- What is outside of the call: whether `library_` is not NULL, the face, and what the library
makes of a character behind a number of others, with the pen where it is. -/
structure Outside where
  library : Bool
  face : Option Face
  glyph : Nat → BitVec 32 → Vector → Slot

section Draw

/-- The buffer as it is given; it has room for `buf_w * buf_h` pixels. -/
structure Canvas where
  bufW : Int
  bufH : Int
  fontColor : BitVec 32

abbrev Writes := List (Int × Pixel)

variable (canvas : Canvas) (face : Face) (slot : Slot)

def left : Int := slot.bitmapLeft

def top : Int := (face.ascender >>> (6 : Nat)) - slot.bitmapTop

/-- The body of the inner loop; a pixel off the buffer is passed over. -/
def drawPixel (q p : Nat) : Writes :=
  let j := top face slot + q
  let offset := j * canvas.bufW
  let bmpOffset := q * slot.width
  let i := left slot + p
  if i < 0 ∨ j < 0 ∨ i ≥ canvas.bufW ∨ j ≥ canvas.bufH then []
  else
    [(offset + i,
      if slot.bitmap (bmpOffset + p) ≠ 0 then setFontColor canvas.fontColor else 0)]

def drawArgb8888Buffer : Writes :=
  (List.range slot.rows).flatMap fun q =>
    (List.range slot.width).flatMap fun p => drawPixel canvas face slot q p

def drawArgb8888Wchar : Writes :=
  if slot.error then [] else drawArgb8888Buffer canvas face slot

/-- The loop over the characters from number `i` on. -/
def drawChars (glyph : Nat → BitVec 32 → Vector → Slot) : Nat → Vector → WText → Writes
  | _, _, [] => []
  | i, pen, wch :: rest =>
      let slot := glyph i wch pen
      drawArgb8888Wchar canvas face slot ++
        drawChars glyph (i + 1) ⟨pen.x + slot.advance.x, pen.y + slot.advance.y⟩ rest

def penStart : Vector := ⟨0, (face.height >>> (6 : Nat)).tdiv 4 * 64⟩

/-- `draw_argb8888_text`: what it writes into the buffer; without a face it dies. -/
def drawArgb8888Text (outside : Outside) (wstr : Option WText) : Option Writes :=
  if outside.library = false then some []
  else
    match wstr with
    | none => some []
    | some wstr =>
        outside.face.map fun face => drawChars canvas face outside.glyph 0 (penStart face) wstr

end Draw

section Boxes

def loaded (glyph : Nat → BitVec 32 → Vector → Slot) : Nat → Vector → WText → List Slot
  | _, _, [] => []
  | i, pen, wch :: rest =>
      let slot := glyph i wch pen
      let later := loaded glyph (i + 1) ⟨pen.x + slot.advance.x, pen.y + slot.advance.y⟩ rest
      if slot.error then later else slot :: later

/-- The byte of the bitmap at a pixel, if the pixel is in the box of the glyph. -/
def Slot.byteAt (face : Face) (x y : Int) (slot : Slot) : Option (BitVec 8) :=
  if left slot ≤ x ∧ x < left slot + slot.width ∧
      top face slot ≤ y ∧ y < top face slot + slot.rows then
    some (slot.bitmap ((y - top face slot).toNat * slot.width + (x - left slot).toNat))
  else none

def lastByte (face : Face) (x y : Int) : List Slot → Option (BitVec 8)
  | [] => none
  | slot :: rest => (lastByte face x y rest).or (slot.byteAt face x y)

/-- A bitmap is not zero at the pixel. -/
def Lit (face : Face) (x y : Int) (slots : List Slot) : Prop :=
  ∃ slot ∈ slots, ∃ byte, slot.byteAt face x y = some byte ∧ byte ≠ 0

variable {canvas : Canvas} {face : Face} {slot : Slot} {x y : Int}

def Canvas.Has (canvas : Canvas) (x y : Int) : Prop :=
  0 ≤ x ∧ x < canvas.bufW ∧ 0 ≤ y ∧ y < canvas.bufH

def color (canvas : Canvas) (byte : BitVec 8) : Pixel :=
  if byte ≠ 0 then setFontColor canvas.fontColor else 0

theorem index_inj {width i j : Int} (isColumn : 0 ≤ i ∧ i < width) (onCanvas : 0 ≤ x ∧ x < width) :
    j * width + i = y * width + x ↔ j = y ∧ i = x := by
  have positive : width ≠ 0 := by omega
  have row {j i : Int} (isColumn : 0 ≤ i ∧ i < width) : (j * width + i) / width = j := by
    rw [Int.add_comm, Int.add_mul_ediv_right _ _ positive,
      Int.ediv_eq_zero_of_lt isColumn.1 isColumn.2, Int.zero_add]
  constructor
  · intro same
    have sameRow : j = y :=
      (row isColumn).symm.trans ((congrArg (· / width) same).trans (row onCanvas))
    subst sameRow
    exact ⟨rfl, Int.add_left_cancel same⟩
  · rintro ⟨rfl, rfl⟩
    rfl

theorem lastWrite_pixel (onCanvas : canvas.Has x y) (q p : Nat) :
    lastWrite (y * canvas.bufW + x) (drawPixel canvas face slot q p) =
      if top face slot + q = y ∧ left slot + p = x then
        some (color canvas (slot.bitmap (q * slot.width + p)))
      else none := by
  obtain ⟨xNonneg, xBelow, yNonneg, yBelow⟩ := onCanvas
  unfold drawPixel
  dsimp only
  split
  next outside => rw [if_neg (by omega)]; rfl
  next inside =>
    have same : (top face slot + q) * canvas.bufW + (left slot + p) = y * canvas.bufW + x ↔
        top face slot + q = y ∧ left slot + p = x :=
      index_inj (by omega) ⟨xNonneg, xBelow⟩
    rw [lastWrite, lastWrite, Option.none_or]
    exact if_congr same rfl rfl

/-- A box writes once at a pixel that it covers, and not at any other. -/
theorem lastWrite_buffer (onCanvas : canvas.Has x y) :
    lastWrite (y * canvas.bufW + x) (drawArgb8888Buffer canvas face slot) =
      (slot.byteAt face x y).map (color canvas) := by
  have single {q p : Nat} (other : ¬ (top face slot + q = y ∧ left slot + p = x)) :
      lastWrite (y * canvas.bufW + x) (drawPixel canvas face slot q p) = none := by
    rw [lastWrite_pixel onCanvas, if_neg other]
  unfold drawArgb8888Buffer Slot.byteAt
  split
  next covered =>
    have row : (y - top face slot).toNat ∈ List.range slot.rows := by
      rw [List.mem_range]
      omega
    have column : (x - left slot).toNat ∈ List.range slot.width := by
      rw [List.mem_range]
      omega
    rw [lastWrite_flatMap_single row fun q _ isOther =>
        lastWrite_flatMap_none fun p _ => single (by omega),
      lastWrite_flatMap_single column fun p _ isOther => single (by omega),
      lastWrite_pixel onCanvas, if_pos (by omega), Option.map_some]
  next uncovered =>
    refine lastWrite_flatMap_none fun q isRow => lastWrite_flatMap_none fun p isColumn => ?_
    rw [List.mem_range] at isRow isColumn
    exact single (by omega)

theorem lastWrite_chars (onCanvas : canvas.Has x y)
    (glyph : Nat → BitVec 32 → Vector → Slot) (i : Nat) (pen : Vector) (wstr : WText) :
    lastWrite (y * canvas.bufW + x) (drawChars canvas face glyph i pen wstr) =
      (lastByte face x y (loaded glyph i pen wstr)).map (color canvas) := by
  induction wstr generalizing i pen with
  | nil => rfl
  | cons wch rest induction =>
      rw [drawChars, loaded, lastWrite_append, induction]
      unfold drawArgb8888Wchar
      split
      next failed => exact Option.or_none
      next isLoaded =>
        rw [lastWrite_buffer onCanvas, lastByte]
        cases lastByte face x y (loaded glyph _ _ rest) <;> rfl

theorem inside_pixel {q p : Nat} {write : Int × Pixel}
    (isIn : write ∈ drawPixel canvas face slot q p) :
    0 ≤ write.1 ∧ write.1 < canvas.bufW * canvas.bufH := by
  unfold drawPixel at isIn
  dsimp only at isIn
  split at isIn
  next => cases isIn
  next inside =>
    obtain rfl := List.mem_singleton.mp isIn
    simp only [not_or, not_lt, ge_iff_le, not_le] at inside
    obtain ⟨column, row, columnBelow, rowBelow⟩ := inside
    have positive : 0 ≤ canvas.bufW := by omega
    have offset := Int.mul_nonneg row positive
    have lastRow := Int.mul_le_mul_of_nonneg_right (Int.add_one_le_of_lt rowBelow) positive
    rw [Int.add_mul, Int.one_mul, Int.mul_comm canvas.bufH] at lastRow
    dsimp only
    omega

theorem inside_chars {glyph : Nat → BitVec 32 → Vector → Slot} {i : Nat} {pen : Vector}
    {wstr : WText} {write : Int × Pixel} (isIn : write ∈ drawChars canvas face glyph i pen wstr) :
    0 ≤ write.1 ∧ write.1 < canvas.bufW * canvas.bufH := by
  induction wstr generalizing i pen with
  | nil => cases isIn
  | cons wch rest induction =>
      rw [drawChars, List.mem_append] at isIn
      obtain first | later := isIn
      · unfold drawArgb8888Wchar at first
        split at first
        next => cases first
        next =>
          unfold drawArgb8888Buffer at first
          simp only [List.mem_flatMap] at first
          obtain ⟨q, _, p, _, isPixel⟩ := first
          exact inside_pixel isPixel
      · exact induction later

theorem color_eq_iff (byte : BitVec 8) :
    color canvas byte = setFontColor canvas.fontColor ↔ byte ≠ 0 := by
  unfold color
  by_cases isZero : byte = 0
  · rw [if_neg (not_not.mpr isZero)]
    exact iff_of_false (setFontColor_ne_zero _).symm (not_not.mpr isZero)
  · rw [if_pos isZero]
    exact iff_of_true rfl isZero

theorem lit_of_lastByte {slots : List Slot} {byte : BitVec 8}
    (isLast : lastByte face x y slots = some byte) (notZero : byte ≠ 0) :
    Lit face x y slots := by
  induction slots with
  | nil => cases isLast
  | cons slot rest induction =>
      rw [lastByte, Option.or_eq_some_iff] at isLast
      obtain later | ⟨_, here⟩ := isLast
      · obtain ⟨slot, isIn, isLit⟩ := induction later
        exact ⟨slot, List.mem_cons_of_mem _ isIn, isLit⟩
      · exact ⟨slot, List.mem_cons_self, byte, here, notZero⟩

theorem lastByte_ne_none {slots : List Slot} (isLit : Lit face x y slots) :
    lastByte face x y slots ≠ none := by
  induction slots with
  | nil =>
      obtain ⟨_, isIn, _⟩ := isLit
      cases isIn
  | cons slot rest induction =>
      obtain ⟨other, isIn, byte, isByte, notZero⟩ := isLit
      rw [lastByte, Ne, Option.or_eq_none_iff, not_and_or]
      obtain same | later := List.mem_cons.mp isIn
      · subst same
        exact .inr (by rw [isByte]; exact nofun)
      · exact .inl (induction ⟨other, later, byte, isByte, notZero⟩)

/-- A pixel is right unless the last box over it erases a character. -/
theorem pixel_iff (slots : List Slot) :
    ((((lastByte face x y slots).map (color canvas)).getD 0 = setFontColor canvas.fontColor ↔
        Lit face x y slots) ∧
      (¬ Lit face x y slots → ((lastByte face x y slots).map (color canvas)).getD 0 = 0)) ↔
      (Lit face x y slots → lastByte face x y slots ≠ some 0) := by
  have notColor : (0 : Pixel) ≠ setFontColor canvas.fontColor := (setFontColor_ne_zero _).symm
  cases isLast : lastByte face x y slots with
  | none =>
      have unlit : ¬ Lit face x y slots := fun isLit => lastByte_ne_none isLit isLast
      exact iff_of_true ⟨iff_of_false notColor unlit, fun _ => rfl⟩ fun _ => nofun
  | some byte =>
      rw [Option.map_some, Option.getD_some, color_eq_iff]
      by_cases isZero : byte = 0
      · subst isZero
        constructor
        · exact fun right isLit => absurd rfl (right.1.mpr isLit)
        · intro unlit
          exact ⟨iff_of_false (not_not.mpr rfl) fun isLit => unlit isLit rfl, fun _ => rfl⟩
      · have isLit := lit_of_lastByte isLast isZero
        refine iff_of_true ⟨iff_of_true isZero isLit, fun unlit => absurd isLit unlit⟩ ?_
        exact fun _ same => isZero (Option.some.inj same)

end Boxes

section Text

variable (canvas : Canvas) (outside : Outside) (wstr : Option WText)

/-- The bitmap of a character that is loaded is not zero at the pixel. -/
def LitAt (x y : Int) : Prop :=
  outside.library = true ∧ ∃ face text, outside.face = some face ∧ wstr = some text ∧
    Lit face x y (loaded outside.glyph 0 (penStart face) text)

/-- Every write is in the buffer, and in a buffer that was cleared exactly the pixels of the
characters have the color. -/
def DrawsText : Prop :=
  ∃ writes, drawArgb8888Text canvas outside wstr = some writes ∧
    (∀ write ∈ writes, 0 ≤ write.1 ∧ write.1 < canvas.bufW * canvas.bufH) ∧
    ∀ x y, canvas.Has x y →
      (written (fun _ => 0) writes (y * canvas.bufW + x) = setFontColor canvas.fontColor ↔
        LitAt outside wstr x y) ∧
      (¬ LitAt outside wstr x y → written (fun _ => 0) writes (y * canvas.bufW + x) = 0)

/-- A face is there, and at no pixel of a character the box that is drawn last has a zero. -/
def Uncovered : Prop :=
  outside.library = true → ∀ text, wstr = some text → ∃ face, outside.face = some face ∧
    ∀ x y, canvas.Has x y → Lit face x y (loaded outside.glyph 0 (penStart face) text) →
      lastByte face x y (loaded outside.glyph 0 (penStart face) text) ≠ some 0

variable {canvas outside wstr}

theorem drawsText_of_nothing (isNothing : drawArgb8888Text canvas outside wstr = some [])
    (unlit : ∀ x y, ¬ LitAt outside wstr x y) : DrawsText canvas outside wstr := by
  refine ⟨[], isNothing, nofun, fun x y onCanvas => ⟨?_, fun _ => rfl⟩⟩
  exact iff_of_false (setFontColor_ne_zero _).symm (unlit x y)

theorem drawsText_face {face : Face} {text : WText} (library : outside.library = true)
    (isFace : outside.face = some face) :
    DrawsText canvas outside (some text) ↔
      ∀ x y, canvas.Has x y → Lit face x y (loaded outside.glyph 0 (penStart face) text) →
        lastByte face x y (loaded outside.glyph 0 (penStart face) text) ≠ some 0 := by
  have isWrites : drawArgb8888Text canvas outside (some text) =
      some (drawChars canvas face outside.glyph 0 (penStart face) text) := by
    unfold drawArgb8888Text
    rw [library, isFace]
    rfl
  have isLit (x y : Int) : LitAt outside (some text) x y ↔
      Lit face x y (loaded outside.glyph 0 (penStart face) text) := by
    constructor
    · rintro ⟨_, other, otherText, isOther, sameText, lit⟩
      rw [isFace] at isOther
      cases isOther
      cases sameText
      exact lit
    · exact fun lit => ⟨library, face, text, isFace, rfl, lit⟩
  constructor
  · rintro ⟨writes, same, _, right⟩ x y onCanvas
    rw [isWrites] at same
    cases same
    have pixel := right x y onCanvas
    rw [written_apply, lastWrite_chars onCanvas, isLit] at pixel
    exact (pixel_iff _).mp pixel
  · refine fun uncovered => ⟨_, isWrites, fun write => inside_chars, fun x y onCanvas => ?_⟩
    rw [written_apply, lastWrite_chars onCanvas, isLit]
    exact (pixel_iff _).mpr (uncovered x y onCanvas)

variable (canvas outside wstr)

/-- The text is drawn as it is meant to be exactly if no box erases a pixel of a character
that was drawn before. -/
theorem drawsText_iff : DrawsText canvas outside wstr ↔ Uncovered canvas outside wstr := by
  by_cases library : outside.library = true
  · cases wstr with
    | none =>
        refine iff_of_true (drawsText_of_nothing ?_ fun x y lit => ?_) fun _ text => nofun
        · unfold drawArgb8888Text
          rw [library]
          rfl
        · obtain ⟨_, _, _, _, isText, _⟩ := lit
          cases isText
    | some text =>
        cases isFace : outside.face with
        | none =>
            refine iff_of_false ?_ fun uncovered => ?_
            · rintro ⟨writes, same, _⟩
              unfold drawArgb8888Text at same
              rw [library, isFace] at same
              cases same
            · obtain ⟨face, isOther, _⟩ := uncovered library text rfl
              rw [isFace] at isOther
              cases isOther
        | some face =>
            refine (drawsText_face library isFace).trans ⟨fun all _ other same => ?_, fun all => ?_⟩
            · cases same
              exact ⟨face, isFace, all⟩
            · obtain ⟨other, isOther, all⟩ := all library text rfl
              rw [isFace] at isOther
              cases isOther
              exact all
  · refine iff_of_true (drawsText_of_nothing ?_ fun x y lit => library lit.1) fun isLibrary =>
      absurd isLibrary library
    exact if_pos (Bool.eq_false_of_not_eq_true library)

end Text

section Examples

/-- The first character has two columns; the box of the second begins in the second of them,
where its bitmap is zero. -/
def slanted : Outside where
  library := true
  face := some ⟨0, 0⟩
  glyph i _ _ :=
    if i = 0 then ⟨false, 0, 0, 2, 1, fun _ => 255, ⟨64, 0⟩⟩
    else ⟨false, 1, 0, 2, 1, fun p => if p = 0 then 0 else 255, ⟨64, 0⟩⟩

/-- The second character erases a pixel of the first. -/
theorem slanted_erases : ¬ DrawsText ⟨3, 1, 0xffffff⟩ slanted (some [0x56, 0x41]) := by
  rintro ⟨writes, isWrites, _, right⟩
  have same : drawArgb8888Text ⟨3, 1, 0xffffff⟩ slanted (some [0x56, 0x41]) =
      some [(0, 0xffffffff), (1, 0xffffffff), (1, 0), (2, 0xffffffff)] := by decide
  rw [same] at isWrites
  cases isWrites
  have isLit : LitAt slanted (some [0x56, 0x41]) 1 0 :=
    ⟨rfl, _, _, rfl, rfl, _, List.mem_cons_self, 255, by decide, by decide⟩
  have drawn := (right 1 0 ⟨by decide, by decide, by decide, by decide⟩).1.mpr isLit
  exact absurd drawn (by decide)

end Examples

end Rkipc.Osd.TextDrawing
