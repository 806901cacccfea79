import Mathlib.Algebra.Ring.Nat
import Mathlib.Data.List.Basic
import Mathlib.Data.List.GetD

namespace Rkipc.Player

/-! The size of a picture in a JPEG file. -/

namespace Jpeg

/-- What `rk_player_get_photo` hands over: the bytes that have been read of the file, and the
size of the file.  At least one byte has been read. -/
structure Photo where
  data : List UInt8
  bufSize : Nat
  read : 0 < data.length
  fits : data.length ≤ bufSize
  short : bufSize < 2 ^ 31

/-- The places that are read, and the width and the height if 0 is returned. -/
structure Outcome where
  reads : List Nat
  resolution : Option (Nat × Nat)
deriving DecidableEq

def Outcome.after (places : List Nat) (outcome : Outcome) : Outcome where
  reads := places ++ outcome.reads
  resolution := outcome.resolution

/-- `bswap_16(*(uint16_t *)(buf + cur))` -/
def bigEndian (buf : Nat → UInt8) (cur : Nat) : Nat :=
  256 * (buf cur).toNat + (buf (cur + 1)).toNat

/-- The marker of SOF0 or SOF2. -/
def isSof (marker : UInt8) : Bool := marker = 0xC0 || marker = 0xC2

/-- The loop.  Below `2 ^ 31` no place wraps. -/
def walk (buf : Nat → UInt8) (bufSize cur : Nat) : Outcome :=
  if cur + 4 + 4 < bufSize then
    if buf cur ≠ 0xFF then ⟨[cur], none⟩
    else if isSof (buf (cur + 1)) then
      { reads := [cur, cur + 1, cur + 5, cur + 6, cur + 7, cur + 8]
        resolution := some (bigEndian buf (cur + 7), bigEndian buf (cur + 5)) }
    else
      (walk buf bufSize (cur + 2 + bigEndian buf (cur + 2))).after
        [cur, cur + 1, cur + 2, cur + 3]
  else ⟨[], none⟩
termination_by bufSize - cur

def getJpegResolution (buf : Nat → UInt8) (bufSize : Nat) : Outcome :=
  if buf 0 ≠ 0xFF then ⟨[0], none⟩
  else if buf 1 ≠ 0xD8 then ⟨[0, 1], none⟩
  else (walk buf bufSize 2).after [0, 1]

end Jpeg

open Jpeg

namespace Jpeg.Photo

variable (photo : Photo) (rest : Nat → UInt8)

/-- The memory of the buffer, with what is there behind the bytes that have been read. -/
def buf (cur : Nat) : UInt8 := photo.data.getD cur (rest cur)

/-- The segments from the start of the image on. -/
inductive Reached : Nat → Prop
  | start : photo.data[0]? = some 0xFF → photo.data[1]? = some 0xD8 → Reached 2
  | next {cur : Nat} {marker high low : UInt8} : Reached cur →
      photo.data[cur]? = some 0xFF → photo.data[cur + 1]? = some marker →
      isSof marker = false → photo.data[cur + 2]? = some high →
      photo.data[cur + 3]? = some low → Reached (cur + 2 + (256 * high.toNat + low.toNat))

structure HasFrame (cur width height : Nat) : Prop where
  marked : photo.data[cur]? = some 0xFF
  isFrame : ∃ marker, photo.data[cur + 1]? = some marker ∧ isSof marker = true
  hasHeight : ∃ high low, photo.data[cur + 5]? = some high ∧
    photo.data[cur + 6]? = some low ∧ height = 256 * high.toNat + low.toNat
  hasWidth : ∃ high low, photo.data[cur + 7]? = some high ∧
    photo.data[cur + 8]? = some low ∧ width = 256 * high.toNat + low.toNat

/-- The reads are inside the file, and the size is that of the first frame. -/
structure Detects (outcome : Outcome) : Prop where
  inside : ∀ place ∈ outcome.reads, place < photo.data.length
  isFirst : ∀ width height, outcome.resolution = some (width, height) →
    ∃ cur, photo.Reached cur ∧ photo.HasFrame cur width height
  finds : ∀ cur width height, photo.Reached cur → photo.HasFrame cur width height →
    outcome.resolution = some (width, height)

/-- What is needed of a segment has been read. -/
structure Enough (cur : Nat) : Prop where
  first : cur < photo.data.length
  header : photo.data[cur]? = some 0xFF → ∃ marker, photo.data[cur + 1]? = some marker ∧
    cur + (if isSof marker then 8 else 3) < photo.data.length

/-- The segments that begin before the last bytes of the file are among the bytes read, and
these are not a single byte that begins a marker. -/
structure Complete : Prop where
  notSingle : photo.data ≠ [0xFF]
  segments : ∀ cur, photo.Reached cur → cur + 8 < photo.bufSize → photo.Enough cur

variable {photo : Photo} (rest : Nat → UInt8) {cur width height : Nat} {byte : UInt8}

theorem buf_of_getElem? (isByte : photo.data[cur]? = some byte) : photo.buf rest cur = byte := by
  rw [buf, List.getD_eq_getElem?_getD, isByte]
  rfl

theorem getElem?_buf (inside : cur < photo.data.length) :
    photo.data[cur]? = some (photo.buf rest cur) := by
  rw [List.getElem?_eq_getElem inside]
  exact congrArg some (buf_of_getElem? rest (List.getElem?_eq_getElem inside)).symm

theorem lt_of_getElem? (isByte : photo.data[cur]? = some byte) : cur < photo.data.length :=
  (List.getElem?_eq_some_iff.mp isByte).1

theorem walk_outside {buf : Nat → UInt8} {bufSize : Nat} (outside : ¬ cur + 8 < bufSize) :
    walk buf bufSize cur = ⟨[], none⟩ := by
  rw [walk, if_neg outside]

theorem walk_bad {buf : Nat → UInt8} {bufSize : Nat} (within : cur + 8 < bufSize)
    (bad : buf cur ≠ 0xFF) : walk buf bufSize cur = ⟨[cur], none⟩ := by
  rw [walk, if_pos within, if_pos bad]

theorem walk_frame {buf : Nat → UInt8} {bufSize : Nat} (within : cur + 8 < bufSize)
    (marked : buf cur = 0xFF) (isFrame : isSof (buf (cur + 1)) = true) :
    walk buf bufSize cur =
      { reads := [cur, cur + 1, cur + 5, cur + 6, cur + 7, cur + 8]
        resolution := some (bigEndian buf (cur + 7), bigEndian buf (cur + 5)) } := by
  rw [walk, if_pos within, if_neg (not_not.mpr marked), if_pos isFrame]

theorem walk_next {buf : Nat → UInt8} {bufSize : Nat} (within : cur + 8 < bufSize)
    (marked : buf cur = 0xFF) (other : isSof (buf (cur + 1)) = false) :
    walk buf bufSize cur =
      (walk buf bufSize (cur + 2 + bigEndian buf (cur + 2))).after
        [cur, cur + 1, cur + 2, cur + 3] := by
  rw [walk, if_pos within, if_neg (not_not.mpr marked), if_neg (by rw [other]; exact nofun)]

/-- A segment that is reached before the last bytes of the file is visited. -/
theorem visited (reached : photo.Reached cur) (within : cur + 8 < photo.bufSize) :
    ∃ places, getJpegResolution (photo.buf rest) photo.bufSize =
      (walk (photo.buf rest) photo.bufSize cur).after places := by
  induction reached with
  | start first second =>
    refine ⟨[0, 1], ?_⟩
    rw [getJpegResolution, if_neg (not_not.mpr (buf_of_getElem? rest first)),
      if_neg (not_not.mpr (buf_of_getElem? rest second))]
  | @next cur marker high low _ marked isMarker other isHigh isLow ih =>
    obtain ⟨places, isVisited⟩ := ih (by omega)
    have isLength : bigEndian (photo.buf rest) (cur + 2) = 256 * high.toNat + low.toNat := by
      rw [bigEndian, buf_of_getElem? rest isHigh, buf_of_getElem? rest isLow]
    have isOther : isSof (photo.buf rest (cur + 1)) = false := by
      rw [buf_of_getElem? rest isMarker, other]
    refine ⟨places ++ [cur, cur + 1, cur + 2, cur + 3], ?_⟩
    rw [isVisited, walk_next (by omega) (buf_of_getElem? rest marked) isOther, isLength]
    simp only [Outcome.after, List.append_assoc]

/-- A frame that has been read is found. -/
theorem finds_frame (reached : photo.Reached cur) (hasFrame : photo.HasFrame cur width height) :
    (getJpegResolution (photo.buf rest) photo.bufSize).resolution = some (width, height) := by
  obtain ⟨marked, ⟨marker, isMarker, isFrame⟩, ⟨top, bottom, isTop, isBottom, rfl⟩, left, right,
    isLeft, isRight, rfl⟩ := hasFrame
  have inside := lt_of_getElem? isRight
  have within : cur + 8 < photo.bufSize := Nat.lt_of_lt_of_le inside photo.fits
  obtain ⟨places, isVisited⟩ := visited rest reached within
  have isSof : isSof (photo.buf rest (cur + 1)) = true := by
    rw [buf_of_getElem? rest isMarker, isFrame]
  rw [isVisited, walk_frame within (buf_of_getElem? rest marked) isSof]
  dsimp only [Outcome.after, bigEndian]
  rw [buf_of_getElem? rest isTop, buf_of_getElem? rest isBottom, buf_of_getElem? rest isLeft,
    buf_of_getElem? rest isRight]

theorem hasFrame_of_inside (inside : cur + 8 < photo.data.length)
    (marked : photo.buf rest cur = 0xFF) (isFrame : isSof (photo.buf rest (cur + 1)) = true) :
    photo.HasFrame cur (bigEndian (photo.buf rest) (cur + 7))
      (bigEndian (photo.buf rest) (cur + 5)) where
  marked := by
    rw [getElem?_buf rest (by omega), marked]
  isFrame := ⟨_, getElem?_buf rest (by omega), isFrame⟩
  hasHeight := ⟨_, _, getElem?_buf rest (by omega), getElem?_buf rest (by omega), rfl⟩
  hasWidth := ⟨_, _, getElem?_buf rest (by omega), getElem?_buf rest (by omega), rfl⟩

/-- The walk from a segment that is reached. -/
theorem walk_sound (complete : photo.Complete) (reached : photo.Reached cur) :
    (∀ place ∈ (walk (photo.buf rest) photo.bufSize cur).reads, place < photo.data.length) ∧
      ∀ width height,
        (walk (photo.buf rest) photo.bufSize cur).resolution = some (width, height) →
          ∃ cur, photo.Reached cur ∧ photo.HasFrame cur width height := by
  induction cur using walk.induct (photo.buf rest) photo.bufSize with
  | case4 cur outside =>
    rw [walk_outside outside]
    exact ⟨fun _ member => absurd member List.not_mem_nil, fun _ _ isNone => nomatch isNone⟩
  | case1 cur within bad =>
    rw [walk_bad within bad]
    refine ⟨fun place member => ?_, fun _ _ isNone => nomatch isNone⟩
    rw [List.mem_singleton.mp member]
    exact (complete.segments cur reached within).first
  | case2 cur within marked isFrame =>
    have marked := not_not.mp marked
    have enough := complete.segments cur reached within
    have isMarked := getElem?_buf rest enough.first
    rw [marked] at isMarked
    obtain ⟨marker, isMarker, inside⟩ := enough.header isMarked
    rw [← buf_of_getElem? rest isMarker, if_pos isFrame] at inside
    rw [walk_frame within marked isFrame]
    refine ⟨fun place member => ?_, fun width height isFound => ?_⟩
    · simp only [List.mem_cons, List.not_mem_nil, or_false] at member
      omega
    · cases isFound
      exact ⟨cur, reached, hasFrame_of_inside rest inside marked isFrame⟩
  | case3 cur within marked other ih =>
    have marked := not_not.mp marked
    have other := (Bool.not_eq_true _).mp other
    have enough := complete.segments cur reached within
    have isMarked := getElem?_buf rest enough.first
    rw [marked] at isMarked
    obtain ⟨marker, isMarker, inside⟩ := enough.header isMarked
    rw [← buf_of_getElem? rest isMarker, if_neg (by rw [other]; exact nofun)] at inside
    obtain ⟨placesInside, isFound⟩ := ih <| .next reached isMarked isMarker
      (by rw [← buf_of_getElem? rest isMarker, other]) (getElem?_buf rest (by omega))
      (getElem?_buf rest (by omega))
    rw [walk_next within marked other]
    refine ⟨fun place member => ?_, isFound⟩
    rcases List.mem_append.mp member with isHere | isBehind
    · simp only [List.mem_cons, List.not_mem_nil, or_false] at isHere
      omega
    · exact placesInside place isBehind

/-- Where the walk comes to the end of what has been read, it goes on. -/
theorem enough_of_inside (reached : photo.Reached cur) (within : cur + 8 < photo.bufSize)
    (inside : ∀ place ∈ (getJpegResolution (photo.buf rest) photo.bufSize).reads,
      place < photo.data.length) : photo.Enough cur := by
  obtain ⟨places, isVisited⟩ := visited rest reached within
  rw [isVisited] at inside
  have isRead : ∀ place ∈ (walk (photo.buf rest) photo.bufSize cur).reads,
      place < photo.data.length := fun place member =>
    inside place (List.mem_append_right _ member)
  by_cases marked : photo.buf rest cur = 0xFF
  · cases isFrame : isSof (photo.buf rest (cur + 1)) with
    | true =>
      rw [walk_frame within marked isFrame] at isRead
      have isLast := isRead (cur + 8) (by simp)
      refine ⟨by omega, fun _ => ⟨_, getElem?_buf rest (by omega), ?_⟩⟩
      rw [if_pos isFrame]
      exact isLast
    | false =>
      rw [walk_next within marked isFrame] at isRead
      have isLast := isRead (cur + 3) (List.mem_append_left _ (by simp))
      refine ⟨by omega, fun _ => ⟨_, getElem?_buf rest (by omega), ?_⟩⟩
      rw [if_neg (by rw [isFrame]; exact nofun)]
      exact isLast
  · rw [walk_bad within marked] at isRead
    have isFirst := isRead cur (List.mem_singleton.mpr rfl)
    refine ⟨isFirst, fun isMarked => absurd ?_ marked⟩
    exact buf_of_getElem? rest isMarked

theorem complete_of_inside
    (inside : ∀ place ∈ (getJpegResolution (photo.buf rest) photo.bufSize).reads,
      place < photo.data.length) : photo.Complete where
  notSingle := by
    intro isSingle
    have isFirst : photo.buf rest 0 = 0xFF := by
      rw [buf, isSingle]
      rfl
    have isRead : 1 ∈ (getJpegResolution (photo.buf rest) photo.bufSize).reads := by
      rw [getJpegResolution, if_neg (not_not.mpr isFirst)]
      split
      · exact .tail _ (.head _)
      · exact .tail _ (.head _)
    have isInside := inside 1 isRead
    rw [isSingle] at isInside
    exact absurd isInside (by decide)
  segments := fun _ reached within => enough_of_inside rest reached within inside

theorem detects_of_complete (complete : photo.Complete) :
    photo.Detects (getJpegResolution (photo.buf rest) photo.bufSize) := by
  have hasFirst := getElem?_buf rest photo.read
  suffices sound :
      (∀ place ∈ (getJpegResolution (photo.buf rest) photo.bufSize).reads,
        place < photo.data.length) ∧
      ∀ width height,
        (getJpegResolution (photo.buf rest) photo.bufSize).resolution = some (width, height) →
          ∃ cur, photo.Reached cur ∧ photo.HasFrame cur width height by
    exact ⟨sound.1, sound.2, fun _ _ _ => finds_frame rest⟩
  rw [getJpegResolution]
  by_cases first : photo.buf rest 0 = 0xFF
  · rw [if_neg (not_not.mpr first)]
    have two : 1 < photo.data.length := by
      by_contra single
      obtain ⟨byte, isSingle⟩ := List.length_eq_one_iff.mp
        (Nat.le_antisymm (Nat.not_lt.mp single) photo.read)
      rw [isSingle] at hasFirst
      cases hasFirst
      exact complete.notSingle (isSingle.trans (congrArg (fun byte => [byte]) first))
    by_cases second : photo.buf rest 1 = 0xD8
    · rw [if_neg (not_not.mpr second)]
      have hasSecond := getElem?_buf rest two
      rw [first] at hasFirst
      rw [second] at hasSecond
      obtain ⟨placesInside, isFound⟩ := walk_sound rest complete (.start hasFirst hasSecond)
      refine ⟨fun place member => ?_, isFound⟩
      rcases List.mem_append.mp member with isHere | isBehind
      · simp only [List.mem_cons, List.not_mem_nil, or_false] at isHere
        omega
      · exact placesInside place isBehind
    · rw [if_pos second]
      refine ⟨fun place member => ?_, fun _ _ isNone => nomatch isNone⟩
      simp only [List.mem_cons, List.not_mem_nil, or_false] at member
      omega
  · rw [if_pos first]
    refine ⟨fun place member => ?_, fun _ _ isNone => nomatch isNone⟩
    rw [List.mem_singleton.mp member]
    exact photo.read

end Jpeg.Photo

/-- The size is found in what has been read exactly when this is enough for the segments. -/
theorem jpeg_detects_iff (photo : Photo) (rest : Nat → UInt8) :
    photo.Detects (getJpegResolution (photo.buf rest) photo.bufSize) ↔ photo.Complete :=
  ⟨fun detects => Photo.complete_of_inside rest detects.inside,
    Photo.detects_of_complete rest⟩

/-- Two bytes of a file of twenty. -/
def partly : Photo := ⟨[0xFF, 0xD8], 20, by decide, by decide, by decide⟩

theorem reads_behind : ¬ ∀ (photo : Photo) (rest : Nat → UInt8),
    photo.Detects (getJpegResolution (photo.buf rest) photo.bufSize) := by
  intro general
  have inside := (Photo.complete_of_inside _ (general partly fun _ => 0).inside).segments 2
    (.start rfl rfl) (by decide)
  exact absurd inside.first (by decide)

end Rkipc.Player
