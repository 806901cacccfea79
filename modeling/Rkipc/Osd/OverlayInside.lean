import Rkipc.Osd.Overlay

namespace Rkipc.Osd.Overlay

open Ini Libc

/-! Which overlays are inside the frames. -/

section Fits

variable (config : Config)

/-- The place in the sub stream, before it is rounded up, leaves room. -/
def SubFits (origin size : Vec) : Prop :=
  ∀ axis, 0 ≤ size axis ∧ size axis ≤ config.sub axis ∧
    -(16 * config.main axis) < origin axis * config.sub axis ∧
    origin axis * config.sub axis <
      config.main axis * (room 16 (config.sub axis) (size axis) + 1)

/-- An overlay that is not moved: its scaled position, before it is rounded up, is not
left of the frame and leaves room. -/
def PlaceFits (scaled size : Vec) : Channel → Prop
  | .venc0 => ∀ axis, 0 ≤ size axis ∧ -16 < scaled axis ∧
      scaled axis ≤ room 16 (config.main axis) (size axis)
  | .jpeg => ∀ axis, 0 ≤ size axis ∧ -16 < scaled axis ∧
      scaled axis ≤ room 16 (config.jpeg axis) (size axis)
  | .venc1 => SubFits config (upAlignTo16 scaled) size

/-- A text is moved for the main stream, and for that alone. -/
def TextFits (origin size : Vec) : Channel → Prop
  | .venc0 => True
  | .jpeg => ∀ axis, origin axis ≤ room 16 (config.jpeg axis) (size axis)
  | .venc1 => SubFits config origin size

variable (outside : Outside)

def movedOrigin (id : OsdId) (advance : Int) : Vec := fun axis =>
  min (alignUp 16 (position config outside id axis))
    (room 16 (config.main axis) (textSize config advance axis))

/-- What an entry has to meet for a channel, where `osd_data` holds a size before. -/
def EntryFits (channel : Channel) (id : OsdId) (held : Vec) : Prop :=
  match branch config id with
  | .image =>
      PlaceFits config (position config outside id) ((config.entries id).bitmap.getD held)
        channel
  | .text advance =>
      (∀ axis, 0 ≤ movedOrigin config outside id advance axis ∧
          0 ≤ textSize config advance axis) →
        TextFits config (movedOrigin config outside id advance) (textSize config advance)
          channel
  | .dateTime =>
      outside.threadCreated id = true →
        PlaceFits config (position config outside (timeId config)) (timeSize config) channel
  | .skip | .privacyMask | .null => True

end Fits

variable {config : Config} {outside : Outside} {channel : Channel} {id : OsdId}
  {held origin scaled size : Vec}

def RectInside (config : Config) (channel : Channel) (origin size : Vec) : Prop :=
  ∀ axis, 0 ≤ size axis ∧ 0 ≤ point config origin channel axis ∧
    point config origin channel axis + size axis ≤ frame config channel axis

section Rect

theorem subInside_iff (positive : ∀ axis, 0 < config.main axis) :
    RectInside config .venc1 origin size ↔ SubFits config origin size := by
  refine forall_congr' fun axis => and_congr_right fun _ => ?_
  exact alignUp_tdiv_inside_iff (by decide) (positive axis)

/-- Without a place of its own the overlay stands where it is rounded to. -/
theorem placeInside_iff (frame : Vec) :
    (∀ axis, 0 ≤ size axis ∧ 0 ≤ upAlignTo16 scaled axis ∧
      upAlignTo16 scaled axis + size axis ≤ frame axis) ↔
    ∀ axis, 0 ≤ size axis ∧ -16 < scaled axis ∧
      scaled axis ≤ room 16 (frame axis) (size axis) := by
  refine forall_congr' fun axis => and_congr_right fun _ => ?_
  rw [upAlignTo16, add_le_iff_le_room (by decide) dvd_alignUp,
    alignUp_le_iff (by decide) dvd_room, alignUp_nonneg_iff (by decide)]

theorem rectInside_place_iff (positive : ∀ axis, 0 < config.main axis) :
    RectInside config channel (upAlignTo16 scaled) size ↔
      PlaceFits config scaled size channel := by
  cases channel with
  | venc0 => exact placeInside_iff config.main
  | jpeg => exact placeInside_iff config.jpeg
  | venc1 => exact subInside_iff positive

/-- The loops move a text to the last place that leaves room. -/
theorem textOrigin_eq (advance : Int) :
    textOrigin config outside id advance = movedOrigin config outside id advance := by
  funext axis
  exact stepDown_eq (by decide) dvd_alignUp

theorem dvd_movedOrigin (advance : Int) (axis : Axis) :
    16 ∣ movedOrigin config outside id advance axis := by
  rcases min_choice (alignUp 16 (position config outside id axis))
    (room 16 (config.main axis) (textSize config advance axis)) with same | same
  · rw [movedOrigin, same]
    exact dvd_alignUp
  · rw [movedOrigin, same]
    exact dvd_room

theorem rectInside_text_iff (positive : ∀ axis, 0 < config.main axis) {advance : Int}
    (nonneg : ∀ axis, 0 ≤ movedOrigin config outside id advance axis ∧
      0 ≤ textSize config advance axis) :
    RectInside config channel (movedOrigin config outside id advance)
        (textSize config advance) ↔
      TextFits config (movedOrigin config outside id advance) (textSize config advance)
        channel := by
  cases channel with
  | venc0 =>
      refine ⟨fun _ => trivial, fun _ axis => ⟨(nonneg axis).2, (nonneg axis).1, ?_⟩⟩
      exact (add_le_iff_le_room (by decide) (dvd_movedOrigin advance axis)).mpr
        (min_le_right _ _)
  | jpeg =>
      refine forall_congr' fun axis => ?_
      have grid : movedOrigin config outside id advance axis +
            textSize config advance axis ≤ config.jpeg axis ↔
          movedOrigin config outside id advance axis ≤
            room 16 (config.jpeg axis) (textSize config advance axis) :=
        add_le_iff_le_room (by decide) (dvd_movedOrigin advance axis)
      exact ⟨fun inside => grid.mp inside.2.2,
        fun fits => ⟨(nonneg axis).2, (nonneg axis).1, grid.mpr fits⟩⟩
  | venc1 => exact subInside_iff positive

end Rect

theorem entryInside_iff (positive : ∀ axis, 0 < config.main axis) :
    (∀ data ∈ (initEntry config outside id held).1,
        RectInside config channel data.origin data.size) ↔
      EntryFits config outside channel id held := by
  have none : (∀ data ∈ ([] : List OsdData),
      RectInside config channel data.origin data.size) ↔ True :=
    ⟨fun _ => trivial, fun _ _ member => (List.not_mem_nil member).elim⟩
  unfold initEntry EntryFits
  cases branch config id with
  | skip | privacyMask | null => exact none
  | image =>
      rw [List.forall_mem_singleton]
      exact rectInside_place_iff positive
  | text advance =>
      dsimp only
      rw [textOrigin_eq]
      split
      next nonneg =>
        rw [List.forall_mem_singleton, rectInside_text_iff positive nonneg]
        exact ⟨fun fits _ => fits, fun fits => fits nonneg⟩
      next negative => exact ⟨fun _ nonneg => absurd nonneg negative, fun _ => none.mpr trivial⟩
  | dateTime =>
      dsimp only
      split
      next created =>
        rw [List.forall_mem_singleton]
        exact (rectInside_place_iff positive).trans
          ⟨fun fits _ => fits, fun fits => fits created⟩
      next failed => exact ⟨fun _ created => absurd created failed, fun _ => none.mpr trivial⟩

theorem mem_rkipcOsdBmpCreate {data : OsdData} {attachment : Attachment} :
    attachment ∈ rkipcOsdBmpCreate config data ↔
      enables config attachment.channel = true ∧
        attachment = ⟨attachment.channel, point config data.origin attachment.channel,
          data.size⟩ := by
  unfold rkipcOsdBmpCreate attach
  rw [List.mem_flatMap]
  constructor
  · rintro ⟨channel, _, member⟩
    split at member
    next enabled =>
      rw [List.mem_singleton.mp member]
      exact ⟨enabled, rfl⟩
    next => cases member
  · rintro ⟨enabled, same⟩
    refine ⟨attachment.channel, ?_, ?_⟩
    · cases attachment.channel <;> decide
    · rw [if_pos enabled]
      exact List.mem_singleton.mpr same

theorem allInside_iff : AllInside config outside held channel ↔
    (enables config channel = true → ∀ data ∈ rkOsdInit config outside held,
      RectInside config channel data.origin data.size) := by
  constructor
  · intro all enabled data member
    exact all ⟨channel, point config data.origin channel, data.size⟩
      (List.mem_flatMap.mpr ⟨data, member, mem_rkipcOsdBmpCreate.mpr ⟨enabled, rfl⟩⟩) rfl
  · intro all attachment member isChannel
    obtain ⟨data, isData, attached⟩ := List.mem_flatMap.mp member
    obtain ⟨enabled, same⟩ := mem_rkipcOsdBmpCreate.mp attached
    subst isChannel
    rw [same]
    exact all enabled data isData

theorem overlays_inside_iff (config : Config) (outside : Outside) (held : Vec)
    (channel : Channel) (positive : ∀ axis, 16 ≤ config.main axis) :
    AllInside config outside held channel ↔
      (enables config channel = true →
        ∀ round ∈ rounds config outside (List.finRange 8) held,
          EntryFits config outside channel round.1 round.2) := by
  rw [allInside_iff]
  refine imp_congr_right fun _ => ?_
  have visible : ∀ axis, 0 < config.main axis := fun axis =>
    lt_of_lt_of_le (by decide) (positive axis)
  constructor
  · intro all round member
    exact (entryInside_iff visible).mp fun data isData =>
      all data (List.mem_flatMap.mpr ⟨round, member, isData⟩)
  · intro all data isData
    obtain ⟨round, member, created⟩ := List.mem_flatMap.mp isData
    exact (entryInside_iff visible).mpr (all round member) data created

section Runs

def sized (width height : Int) : Vec
  | .x => width
  | .y => height

/-- An image of 64 by 64 in a main stream of 1920 by 1080. -/
def oneImage (place : Int) : Config where
  entries id :=
    { osdType := if id = 0 then some "image".toList else none
      enabled := 1
      style := []
      position := sized place 0
      maskSize := sized 0 0
      bitmap := some (sized 64 64)
      text := .unconverted
      time := 0 }
  normalized := sized 1920 1080
  main := sized 1920 1080
  sub := sized 704 576
  jpeg := sized 1920 1080
  enableVenc0 := true
  enableVenc1 := true
  enableJpeg := true
  fontColor := none
  fontSize := 32

/-- The scaling without rounding errors. -/
def exactScale : Outside where
  scale value frame normalized := (value * frame).tdiv normalized
  threadCreated _ := true
  signalCreated _ := true

theorem branch_oneImage (place : Int) (id : OsdId) :
    branch (oneImage place) id = if id = 0 then .image else .skip := by
  by_cases first : id = 0
  · subst first
    rfl
  · rw [if_neg first, branch]
    have missing : ((oneImage place).entries id).osdType = none := if_neg first
    rw [missing]

theorem overlays_inside_corner :
    AllInside (oneImage 0) exactScale (sized 0 0) .venc0 ∧
      AllInside (oneImage 0) exactScale (sized 0 0) .venc1 := by
  have corner : ∀ channel, channel ≠ .jpeg → PlaceFits (oneImage 0)
      (position (oneImage 0) exactScale 0) (sized 64 64) channel := by
    intro channel notJpeg
    cases channel with
    | venc0 | venc1 => exact Axis.forall_iff.mpr (by decide)
    | jpeg => exact absurd rfl notJpeg
  have fits : ∀ channel, channel ≠ .jpeg → ∀ id held,
      EntryFits (oneImage 0) exactScale channel id held := by
    intro channel notJpeg id held
    unfold EntryFits
    rw [branch_oneImage]
    by_cases first : id = 0
    · subst first
      exact corner channel notJpeg
    · rw [if_neg first]
      trivial
  have positive : ∀ axis, 16 ≤ (oneImage 0).main axis := by decide
  exact ⟨(overlays_inside_iff (oneImage 0) exactScale (sized 0 0) .venc0 positive).mpr
      fun _ round _ => fits .venc0 Channel.noConfusion round.1 round.2,
    (overlays_inside_iff (oneImage 0) exactScale (sized 0 0) .venc1 positive).mpr
      fun _ round _ => fits .venc1 Channel.noConfusion round.1 round.2⟩

/-- The image starts inside the frame and ends 48 pixels behind it. -/
theorem image_leaves_frame :
    ¬ ∀ (config : Config) (outside : Outside) (held : Vec),
      (∀ axis, 16 ≤ config.main axis ∧ 16 ≤ config.sub axis ∧ 0 < config.normalized axis) →
      AllInside config outside held .venc0 ∧ AllInside config outside held .venc1 := by
  intro general
  have inside := (general (oneImage 1900) exactScale (sized 0 0) (by decide)).1
  have created : (⟨0, 1, upAlignTo16 (position (oneImage 1900) exactScale 0), sized 64 64⟩ :
      OsdData) ∈ rkOsdInit (oneImage 1900) exactScale (sized 0 0) :=
    List.mem_flatMap.mpr ⟨(0, sized 0 0), List.mem_cons_self, List.mem_cons_self⟩
  have ends := (allInside_iff.mp inside rfl _ created .x).2.2
  exact absurd ends (by decide)

end Runs

end Rkipc.Osd.Overlay
