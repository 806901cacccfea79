import Rkipc.Ini.Dictionary
import Rkipc.Transition.System

namespace Rkipc.Osd.Font

open Ini Transition

/-! The library and the face of the font module. -/

/-- Whether `FT_Init_FreeType` and `FT_New_Face` succeed. -/
structure Outcome where
  library : Bool
  face : Bool
deriving DecidableEq

/-- Handles are numbered as they are made.  `fontPath` is what has been copied into the
array `font_path_`, whose first bytes are read as a pointer; `sizing` are the calls of
`set_font_size` that have found a face and not yet taken the mutex. -/
structure State where
  library : Option Nat
  face : Option Nat
  fontPath : Text
  fontSize : Int
  osdFontAlreadySet : Bool
  sizing : List Int
  logInfo : Bool
  libraries : Nat
  faces : Nat
  libraryReleases : List Nat
  faceReleases : List Nat
  badUse : Bool
  badRead : Bool
  badWrite : Bool
deriving DecidableEq

def start (logInfo : Bool) : State where
  library := none
  face := none
  fontPath := []
  fontSize := 0
  osdFontAlreadySet := false
  sizing := []
  logInfo := logInfo
  libraries := 0
  faces := 0
  libraryReleases := []
  faceReleases := []
  badUse := false
  badRead := false
  badWrite := false

namespace State

variable (state : State)

def ftInitFreeType (succeeds : Bool) : State :=
  if succeeds then
    { state with library := some state.libraries, libraries := state.libraries + 1 }
  else state

/-- `FT_New_Face` refuses a path that is NULL. -/
def ftNewFace (succeeds : Bool) (fontPath : Option Text) : State :=
  if succeeds ∧ fontPath ≠ none then
    { state with face := some state.faces, faces := state.faces + 1 }
  else state

def doneFreeType : State :=
  { state with
    library := none, libraryReleases := state.library.toList ++ state.libraryReleases }

def doneFace : State :=
  { state with face := none, faceReleases := state.face.toList ++ state.faceReleases }

/-- `char *font_path_[128]` -/
def fontPathSize : Nat := 512

/-- `memcpy(font_path_, font_path, strlen(font_path))`; behind the array there are other
globals. -/
def copyPath (fontPath : Text) : State :=
  { state with
    fontPath := (fontPath ++ state.fontPath.drop fontPath.length).take fontPathSize
    badWrite := state.badWrite || decide (fontPathSize < fontPath.length) }

def createFont (fontPath : Option Text) (fontSize : Int) (outcome : Outcome) : State :=
  let state := state.ftInitFreeType outcome.library
  if state.library = none then state
  else
    let state := state.ftNewFace outcome.face fontPath
    if state.face = none then state.doneFreeType
    else { state.copyPath (fontPath.getD []) with fontSize }

def destroyFont : State :=
  let state := if state.face = none then state else state.doneFace
  if state.library = none then state else state.doneFreeType

/-- `LOG_INFO("please check font_path %s\n", *font_path_)`, where NULL is not read. -/
def logPath : State :=
  if state.logInfo ∧ state.fontPath.take 4 ≠ [] then { state with badRead := true } else state

/-- The face is used, which has to be there and not released. -/
def useFace : State :=
  match state.face with
  | none => { state with badUse := true }
  | some handle => if handle ∈ state.faceReleases then { state with badUse := true } else state

/-- A pointer to characters, or NULL. -/
def wstrGetActualAdvanceX (wstr : Option Text) : State :=
  match wstr with
  | none => state
  | some wstr =>
      if state.face = none then state.logPath
      else if wstr = [] then state else state.useFace

/-- The height of the face is read whatever the text is. -/
def drawArgb8888Text (wstr : Option Text) : State :=
  if state.library = none then state.logPath
  else if wstr = none then state else state.useFace

end State

/-- `font` is what `rk_osd_init` and `rk_osd_bmp_change` do when they come to a text, and
`destroy` what `rk_osd_deinit` does; the clock and these measure and draw. -/
inductive Label
  | font (fontPath : Option Text) (fontSize : Int) (outcome : Outcome)
  | destroy
  | measure (wstr : Option Text)
  | draw (wstr : Option Text)
  | setFontSize (fontSize : Int)
  | applyFontSize (fontSize : Int)
deriving DecidableEq

namespace State

variable (state : State)

def step : Label → Option State
  | .font fontPath fontSize outcome =>
      some (if state.osdFontAlreadySet then state
        else { state.createFont fontPath fontSize outcome with osdFontAlreadySet := true })
  | .destroy => some { state.destroyFont with osdFontAlreadySet := false }
  | .measure wstr => some (state.wstrGetActualAdvanceX wstr)
  | .draw wstr => some (state.drawArgb8888Text wstr)
  | .setFontSize fontSize =>
      some (if state.face = none then state
        else { state with sizing := fontSize :: state.sizing })
  | .applyFontSize fontSize =>
      if fontSize ∈ state.sizing then
        some { state with fontSize, sizing := state.sizing.erase fontSize }
      else none

/-- Each handle that was made is the one in use or has been released, and not twice. -/
def Accounted (made : Nat) (releases : List Nat) (current : Option Nat) : Prop :=
  (current.toList ++ releases).Perm (List.range made)

/-- Library and face come and go together, each is released once, and nothing else is
used, read or written. -/
structure Sound (state : State) : Prop where
  together : state.library = none ↔ state.face = none
  libraries : Accounted state.libraries state.libraryReleases state.library
  faces : Accounted state.faces state.faceReleases state.face
  used : state.badUse = false
  read : state.badRead = false
  written : state.badWrite = false

end State

def system : System State Label where
  initial state := ∃ logInfo, state = start logInfo
  step := State.step

/-- Without a face nothing is measured or drawn, unless no font has been loaded yet or the
line is not logged; and the path of a font that is loaded has a place in the array. -/
def Clean (state : State) : Label → Prop
  | .font fontPath _ outcome =>
      state.osdFontAlreadySet = false → outcome.library = true → outcome.face = true →
        (fontPath.getD []).length ≤ State.fontPathSize
  | .measure wstr =>
      state.face = none → wstr ≠ none → state.fontPath.take 4 = [] ∨ state.logInfo = false
  | .draw _ => state.library = none → state.fontPath.take 4 = [] ∨ state.logInfo = false
  | _ => True

namespace State

section Accounts

variable {made handle : Nat} {releases : List Nat} {current : Option Nat}

theorem Accounted.make (accounted : Accounted made releases none) :
    Accounted (made + 1) releases (some made) := by
  rw [Accounted, List.range_succ]
  exact (List.Perm.cons made accounted).trans (List.perm_append_singleton made _).symm

theorem Accounted.release (accounted : Accounted made releases current) :
    Accounted made (current.toList ++ releases) none := accounted

theorem Accounted.notReleased (accounted : Accounted made releases (some handle)) :
    handle ∉ releases :=
  (List.nodup_cons.mp (accounted.nodup_iff.mpr List.nodup_range)).1

end Accounts

variable {state next : State}

/-- The flag of the callers is cleared only when there is no font. -/
structure Kept (state : State) : Prop extends Sound state where
  unset : state.osdFontAlreadySet = false → state.library = none

theorem Sound.face_none (sound : state.Sound) (empty : state.library = none) :
    state.face = none := sound.together.mp empty

theorem Sound.createFont (sound : state.Sound) (empty : state.library = none)
    {fontPath : Option Text} {fontSize : Int} {outcome : Outcome}
    (fits : outcome.library = true → outcome.face = true →
      (fontPath.getD []).length ≤ fontPathSize) :
    (state.createFont fontPath fontSize outcome).Sound := by
  have noFace := sound.face_none empty
  have libraries := sound.libraries
  have faces := sound.faces
  rw [empty] at libraries
  rw [noFace] at faces
  unfold State.createFont State.ftInitFreeType
  dsimp only
  cases library : outcome.library with
  | false =>
      rw [if_neg Bool.false_ne_true, if_pos empty]
      exact sound
  | true =>
      rw [if_pos rfl, if_neg (Option.some_ne_none _)]
      unfold State.ftNewFace
      split
      next opened =>
        rw [if_neg (Option.some_ne_none _)]
        exact {
          together := ⟨fun isNone => (Option.some_ne_none _ isNone).elim,
            fun isNone => (Option.some_ne_none _ isNone).elim⟩
          libraries := libraries.make
          faces := faces.make
          used := sound.used
          read := sound.read
          written := Bool.or_eq_false_iff.mpr
            ⟨sound.written, decide_eq_false (Nat.not_lt.mpr (fits library opened.1))⟩ }
      next =>
        exact {
          together := ⟨fun _ => noFace, fun _ => rfl⟩
          libraries := libraries.make.release
          faces := sound.faces
          used := sound.used
          read := sound.read
          written := sound.written }

theorem Sound.destroyFont (sound : state.Sound) :
    state.destroyFont.Sound ∧ state.destroyFont.library = none := by
  unfold State.destroyFont
  dsimp only
  cases library : state.library with
  | none =>
      rw [if_pos (sound.face_none library), if_pos library]
      exact ⟨sound, library⟩
  | some handle =>
      have hasFace : state.face ≠ none := fun noFace =>
        Option.some_ne_none _ (library.symm.trans (sound.together.mpr noFace))
      rw [if_neg hasFace, if_neg]
      · exact ⟨{
          together := ⟨fun _ => rfl, fun _ => rfl⟩
          libraries := sound.libraries.release
          faces := sound.faces.release
          used := sound.used
          read := sound.read
          written := sound.written }, rfl⟩
      · exact fun isNone => Option.some_ne_none _ (library.symm.trans isNone)

theorem logPath_eq (clean : state.fontPath.take 4 = [] ∨ state.logInfo = false) :
    state.logPath = state := by
  unfold State.logPath
  split
  next reads =>
    rcases clean with null | quiet
    · exact absurd null reads.2
    · exact Bool.noConfusion (quiet.symm.trans reads.1)
  next => rfl

theorem Sound.useFace (sound : state.Sound) (hasFace : state.face ≠ none) :
    state.useFace = state := by
  have faces := sound.faces
  unfold State.useFace
  split
  next noFace => exact absurd noFace hasFace
  next handle isFace =>
    rw [isFace] at faces
    exact if_neg faces.notReleased

theorem Sound.wstrGetActualAdvanceX (sound : state.Sound) (wstr : Option Text)
    (clean : Clean state (.measure wstr)) : state.wstrGetActualAdvanceX wstr = state := by
  unfold State.wstrGetActualAdvanceX
  cases wstr with
  | none => rfl
  | some wstr =>
      dsimp only
      split
      next noFace => exact logPath_eq (clean noFace (Option.some_ne_none wstr))
      next hasFace =>
        split
        next => rfl
        next => exact sound.useFace hasFace

theorem Sound.drawArgb8888Text (sound : state.Sound) (wstr : Option Text)
    (clean : Clean state (.draw wstr)) : state.drawArgb8888Text wstr = state := by
  unfold State.drawArgb8888Text
  split
  next empty => exact logPath_eq (clean empty)
  next hasLibrary =>
    split
    next => rfl
    next => exact sound.useFace fun noFace => hasLibrary (sound.together.mpr noFace)

theorem Kept.step {label : Label} (kept : state.Kept) (clean : Clean state label)
    (stepped : state.step label = some next) : next.Kept := by
  cases label with
  | font fontPath fontSize outcome =>
      cases stepped
      split
      next => exact kept
      next unset =>
        have empty := kept.unset (Bool.eq_false_iff.mpr unset)
        have sound : (state.createFont fontPath fontSize outcome).Sound :=
          kept.toSound.createFont empty (clean (Bool.eq_false_iff.mpr unset))
        exact ⟨⟨sound.together, sound.libraries, sound.faces, sound.used, sound.read,
          sound.written⟩,
          fun isUnset => Bool.noConfusion isUnset⟩
  | destroy =>
      cases stepped
      obtain ⟨sound, empty⟩ := kept.toSound.destroyFont
      exact ⟨⟨sound.together, sound.libraries, sound.faces, sound.used, sound.read,
          sound.written⟩,
        fun _ => empty⟩
  | measure wstr =>
      cases stepped
      rw [kept.toSound.wstrGetActualAdvanceX wstr clean]
      exact kept
  | draw wstr =>
      cases stepped
      rw [kept.toSound.drawArgb8888Text wstr clean]
      exact kept
  | setFontSize fontSize =>
      cases stepped
      split
      next => exact kept
      next => exact ⟨⟨kept.together, kept.libraries, kept.faces, kept.used, kept.read,
          kept.written⟩, kept.unset⟩
  | applyFontSize fontSize =>
      rw [State.step] at stepped
      split at stepped
      next =>
        cases stepped
        exact ⟨⟨kept.together, kept.libraries, kept.faces, kept.used, kept.read,
          kept.written⟩, kept.unset⟩
      next => contradiction

theorem Kept.start {logInfo : Bool} : (start logInfo).Kept where
  together := Iff.rfl
  libraries := List.Perm.nil
  faces := List.Perm.nil
  used := rfl
  read := rfl
  written := rfl
  unset _ := rfl

end State

/-- In every run of clean steps the font module is sound. -/
theorem font_sound {state : State} (reachable : system.Reachable Clean state) :
    state.Sound := by
  have kept : state.Kept := by
    refine reachable.invariant ?_ ?_
    · rintro _ ⟨logInfo, rfl⟩
      exact State.Kept.start
    · intro before label next kept clean stepped
      exact kept.step clean stepped
  exact kept.toSound

def cleanly (state : State) : Label → Bool
  | .font fontPath _ _ => decide ((fontPath.getD []).length ≤ State.fontPathSize)
  | .measure _ => state.face.isSome
  | .draw _ => state.library.isSome
  | _ => true

theorem cleanly_clean (state : State) (label : Label) (checked : cleanly state label = true) :
    Clean state label := by
  cases label with
  | measure wstr =>
      intro noFace _
      exact (Option.isSome_iff_ne_none.mp checked noFace).elim
  | draw wstr =>
      intro empty
      exact (Option.isSome_iff_ne_none.mp checked empty).elim
  | font fontPath fontSize outcome => exact fun _ _ _ => of_decide_eq_true checked
  | destroy => trivial
  | setFontSize fontSize => trivial
  | applyFontSize fontSize => trivial

def simsun : Option Text := some "/oem/usr/share/simsun_en.ttf".toList

/-- Two texts are drawn, and the module is started again. -/
def restarted : List Label :=
  [.font simsun 32 ⟨true, true⟩, .measure (some ['a']), .draw (some ['a']),
    .font simsun 32 ⟨true, true⟩, .draw (some ['b']), .destroy, .font simsun 16 ⟨true, true⟩]

theorem font_sound_restarted :
    ∃ state, system.Reachable Clean state ∧ state.faces = 2 ∧ state.Sound := by
  let ran := system.guardedRun cleanly (start true) restarted
  have made : ran.map State.faces = some 2 := by decide
  obtain ⟨state, reached, isTwo⟩ := Option.map_eq_some_iff.mp made
  have reachable : system.Reachable Clean state :=
    ⟨_, ⟨true, rfl⟩, System.reaches_of_guardedRun cleanly_clean restarted reached⟩
  exact ⟨state, reachable, isTwo, font_sound reachable⟩

/-- The path of the font is changed to one that does not open. -/
def missing : List Label :=
  [.font simsun 32 ⟨true, true⟩, .destroy, .font (some "/tmp/no.ttf".toList) 32 ⟨true, false⟩,
    .measure (some ['a'])]

/-- The line about the missing face reads through the first bytes of the old path. -/
theorem path_read : ¬ ∀ state, system.Reachable System.anyStep state → state.Sound := by
  intro general
  let ran := system.run (start true) missing
  have ends : ran.map State.badRead = some true := by decide
  obtain ⟨state, reached, isRead⟩ := Option.map_eq_some_iff.mp ends
  have sound := general state (System.reachable_of_run ⟨true, rfl⟩ reached)
  exact Bool.noConfusion (isRead.symm.trans sound.read)

end Rkipc.Osd.Font
