import Rkipc.Osd.BitmapUpdate
import Rkipc.Osd.Buffers
import Rkipc.Osd.Font
import Rkipc.Storage.FileListing
import Rkipc.Transition.Mutexes

namespace Rkipc.Osd.HeldMutexes

open Ini Overlay Transition Transition.Mutexes

/-! The mutexes that the calls of the OSD, of its fonts and of the file listing lock, on every
way out of them.  What locks nothing is left out.  Sums are exact: an `int` that overflows, which
C leaves undefined, is left out. -/

inductive Mutex
  | osd
  | font
  | folder (i : Nat)
deriving DecidableEq

/-- `g_font_mutex` is locked inside of `g_osd_mutex`. -/
def rank : Mutex → Nat
  | .osd | .folder _ => 0
  | .font => 1

abbrev Actions := List (Action Mutex)

/-- Whether `library_` and `face_` are there when a font is used. -/
structure Handles where
  library : Bool
  face : Bool
deriving DecidableEq

section Font

def createFont (outcome : Font.Outcome) : Actions :=
  .lock .font ::
    if outcome.library = false then [.unlock .font]
    else if outcome.face = false then [.unlock .font]
    else [.unlock .font]

def destroyFont : Actions := [.lock .font, .unlock .font]

def setFontSize (handles : Handles) : Actions :=
  if handles.face = false then [] else [.lock .font, .unlock .font]

def setFontColor : Actions := [.lock .font, .unlock .font]

def drawArgb8888Text (handles : Handles) (isNull : Bool) : Actions :=
  .lock .font ::
    if handles.library = false then [.unlock .font]
    else if isNull then [.unlock .font]
    else [.unlock .font]

def wstrGetActualAdvanceX (handles : Handles) (isNull : Bool) : Actions :=
  if isNull then []
  else .lock .font :: if handles.face = false then [.unlock .font] else [.unlock .font]

end Font

/-- What the calls of the OSD read and what they meet. -/
structure Surroundings where
  config : Config
  outside : Outside
  memory : Buffers.Memory
  fontAlreadySet : Bool
  outcome : Font.Outcome
  handles : Handles

inductive Goes
  | on
  | fails
  | dies
deriving DecidableEq

section Osd

variable (around : Surroundings)

def fillText : Actions :=
  if around.memory.fontPath = none then []
  else setFontColor ++ drawArgb8888Text around.handles false

def loadFont (alreadySet : Bool) : Actions :=
  if alreadySet then [] else createFont around.outcome ++ setFontColor

def comesToFont (id : OsdId) : Bool :=
  match (around.config.entries id).osdType with
  | none => false
  | some osdType =>
      (around.config.entries id).enabled ≠ 0 ∧ osdType ≠ "image".toList ∧
        osdType ≠ "privacyMask".toList ∧ around.config.fontColor ≠ none

def initEntry (alreadySet : Bool) (id : OsdId) : Actions × Goes :=
  let load := if comesToFont around id then loadFont around alreadySet else []
  match branch around.config id with
  | .skip => (load, .on)
  | .image =>
      let loaded := Buffers.loadBmpFormFile (around.memory.image id) id .uninit 0
      ([], if loaded.goesOn then .on else .dies)
  | .privacyMask => ([], .on)
  | .null => (load, .dies)
  | .text _ =>
      let measured := load ++ wstrGetActualAdvanceX around.handles false
      if around.memory.textAllocated id then (measured ++ fillText around, .on)
      else (measured, .dies)
  | .dateTime => (load, if around.outside.signalCreated id then .on else .fails)

/-- The loop of `rk_osd_init`, and the unlock behind it or before the return in it. -/
def initRounds (alreadySet : Bool) : List OsdId → Run Mutex
  | [] => ⟨[.unlock .osd], .returns⟩
  | id :: rest =>
      match initEntry around alreadySet id with
      | (actions, .on) =>
          let run := initRounds (alreadySet || comesToFont around id) rest
          ⟨actions ++ run.actions, run.ending⟩
      | (actions, .fails) => ⟨actions ++ [Action.unlock .osd], .returns⟩
      | (actions, .dies) => ⟨actions, .dies⟩

def rkOsdInit : Run Mutex :=
  let run := initRounds around around.fontAlreadySet (List.finRange 8)
  ⟨.lock .osd :: run.actions, run.ending⟩

/-- In both loops every round goes on. -/
def rkOsdPrivacyMaskRestart : Run Mutex := ⟨[.lock .osd, .unlock .osd], .returns⟩

/-- The parameters of the entry of the call, the number of characters in `wch` behind
`iconv_utf8_to_wchar`, and whether the buffer is allocated. -/
structure Change where
  params : Params
  wcslen : Nat
  allocated : Bool

def Change.isText (change : Change) : Bool :=
  change.params.osdType = some "channelName".toList ∨
    change.params.osdType = some "character".toList

def changeSize (change : Change) : Vec
  | .x => BitmapUpdate.upAlign16Unsigned (change.wcslen * around.config.fontSize)
  | .y => BitmapUpdate.upAlign16Unsigned around.config.fontSize

def changeOrigin (change : Change) : Vec :=
  clampOrigin around.config
    (upAlignTo16 (scaled around.config around.outside change.params.position))
    (changeSize around change)

/-- The text is moved to a place that is not outside of the frame. -/
def changePlaced (change : Change) : Bool :=
  ∀ axis, 0 ≤ changeOrigin around change axis ∧ 0 ≤ changeSize around change axis

def rkOsdBmpChange (change : Change) : Run Mutex :=
  if change.params.osdType = none then ⟨[.lock .osd], .returns⟩
  else if change.params.enabled = 0 then ⟨[.lock .osd], .returns⟩
  else if around.config.fontColor = none then ⟨[.lock .osd], .dies⟩
  else
    let load := loadFont around around.fontAlreadySet
    if change.isText then
      if change.params.text = .null ∨ change.allocated = false then ⟨.lock .osd :: load, .dies⟩
      else if changePlaced around change then
        ⟨.lock .osd :: (load ++ fillText around ++ [Action.unlock .osd]), .returns⟩
      else ⟨.lock .osd :: (load ++ fillText around), .returns⟩
    else ⟨.lock .osd :: (load ++ [Action.unlock .osd]), .returns⟩

end Osd

/-- What `rkipc_storage_get_file_list` is given, and the outcome of its allocation. -/
structure Listing where
  listNull : Bool
  handleNull : Bool
  folders : List Storage.Folder
  path : String
  malloc : Bool

def rkipcStorageGetFileList (listing : Listing) : Run Mutex :=
  if listing.listNull ∨ listing.handleNull then ⟨[], .returns⟩
  else
    match listing.folders.findIdx? fun folder => folder.cpath = listing.path with
    | none => ⟨[], .returns⟩
    | some i =>
        if listing.malloc = false then ⟨[.lock (.folder i)], .returns⟩
        else ⟨[.lock (.folder i), .unlock (.folder i)], .returns⟩

inductive Call
  | getFileList (listing : Listing)
  | osdInit (around : Surroundings)
  | bmpChange (around : Surroundings) (change : Change)
  | privacyMaskRestart
  | createFont (outcome : Font.Outcome)
  | destroyFont
  | setFontSize (handles : Handles)
  | setFontColor
  | drawText (handles : Handles) (isNull : Bool)
  | advanceX (handles : Handles) (isNull : Bool)

def runOf : Call → Run Mutex
  | .getFileList listing => rkipcStorageGetFileList listing
  | .osdInit around => rkOsdInit around
  | .bmpChange around change => rkOsdBmpChange around change
  | .privacyMaskRestart => rkOsdPrivacyMaskRestart
  | .createFont outcome => ⟨createFont outcome, .returns⟩
  | .destroyFont => ⟨destroyFont, .returns⟩
  | .setFontSize handles => ⟨setFontSize handles, .returns⟩
  | .setFontColor => ⟨setFontColor, .returns⟩
  | .drawText handles isNull => ⟨drawArgb8888Text handles isNull, .returns⟩
  | .advanceX handles isNull => ⟨wstrGetActualAdvanceX handles isNull, .returns⟩

/-- The array of a folder that is found is allocated. -/
def Listing.Suits (listing : Listing) : Prop :=
  listing.listNull = false → listing.handleNull = false →
    (∃ folder ∈ listing.folders, folder.cpath = listing.path) → listing.malloc = true

/-- The entry has a type and is enabled, and its text, if it comes to one, is not outside of the
frame. -/
def Change.Suits (around : Surroundings) (change : Change) : Prop :=
  change.params.osdType ≠ none ∧ change.params.enabled ≠ 0 ∧
    (around.config.fontColor ≠ none → change.isText = true → change.params.text ≠ .null →
      change.allocated = true → changePlaced around change = true)

def Suits : Call → Prop
  | .getFileList listing => listing.Suits
  | .bmpChange around change => change.Suits around
  | _ => True

abbrev calls := Mutexes.system runOf

def suited (_ : Mutexes.State Mutex) : Mutexes.Label Call → Prop
  | .call _ call => Suits call
  | .advance _ => True

section Neutral

abbrev IsNeutral (actions : Actions) : Prop := Neutral rank 1 actions

theorem neutral_font : IsNeutral [.lock .font, .unlock .font] := neutral_section (Nat.le_refl 1)

theorem neutral_createFont (outcome : Font.Outcome) : IsNeutral (createFont outcome) := by
  unfold createFont
  split
  · exact neutral_font
  · split <;> exact neutral_font

theorem neutral_draw (handles : Handles) (isNull : Bool) :
    IsNeutral (drawArgb8888Text handles isNull) := by
  unfold drawArgb8888Text
  split
  · exact neutral_font
  · split <;> exact neutral_font

theorem neutral_advanceX (handles : Handles) (isNull : Bool) :
    IsNeutral (wstrGetActualAdvanceX handles isNull) := by
  unfold wstrGetActualAdvanceX
  split
  · exact neutral_nil
  · split <;> exact neutral_font

variable {around : Surroundings}

theorem neutral_loadFont (alreadySet : Bool) : IsNeutral (loadFont around alreadySet) := by
  unfold loadFont
  split
  · exact neutral_nil
  · exact (neutral_createFont _).append neutral_font

theorem neutral_fillText : IsNeutral (fillText around) := by
  unfold fillText
  split
  · exact neutral_nil
  · exact neutral_font.append (neutral_draw _ _)

theorem neutral_initEntry (alreadySet : Bool) (id : OsdId) :
    IsNeutral (initEntry around alreadySet id).1 := by
  have load : IsNeutral (if comesToFont around id then loadFont around alreadySet else []) := by
    split
    · exact neutral_loadFont alreadySet
    · exact neutral_nil
  unfold initEntry
  dsimp only
  split
  · exact load
  · exact neutral_nil
  · exact neutral_nil
  · exact load
  · have measured := load.append (neutral_advanceX around.handles false)
    split
    · exact measured.append neutral_fillText
    · exact measured
  · exact load

end Neutral

section Runs

variable {around : Surroundings} {actions : Actions}

theorem below_font : ∀ other ∈ [Mutex.osd], rank other < 1 := by decide

/-- Inside of `g_osd_mutex` a call uses the font, and then unlocks. -/
theorem ordered_osd (neutral : IsNeutral actions) :
    (⟨.lock .osd :: (actions ++ [Action.unlock .osd]), .returns⟩ : Run Mutex).Ordered rank :=
  ⟨nofun, (neutral [.osd] below_font).2 _ _ ⟨rfl, fun _ => rfl⟩⟩

theorem ordered_dies (neutral : IsNeutral actions) :
    (⟨.lock .osd :: actions, .dies⟩ : Run Mutex).Ordered rank := by
  refine ⟨nofun, ?_⟩
  have closes := (neutral [.osd] below_font).2 [] .dies nofun
  rwa [List.append_nil] at closes

theorem not_releases_osd (neutral : IsNeutral actions) :
    ¬ (⟨.lock .osd :: actions, .returns⟩ : Run Mutex).Releases := by
  intro releases
  have isFree : heldAfter [.osd] actions = [] := releases rfl
  rw [(neutral [.osd] below_font).1] at isFree
  cases isFree

theorem closes_initRounds (ids : List OsdId) (alreadySet : Bool) :
    Closes rank [.osd] (initRounds around alreadySet ids).actions
      (initRounds around alreadySet ids).ending := by
  induction ids generalizing alreadySet with
  | nil => exact ⟨rfl, fun _ => rfl⟩
  | cons id rest induction =>
      have neutral : IsNeutral (initEntry around alreadySet id).1 :=
        neutral_initEntry alreadySet id
      have neutral := neutral [.osd] below_font
      rw [initRounds]
      split
      next isEntry =>
        rw [isEntry] at neutral
        exact neutral.2 _ _ (induction _)
      next isEntry =>
        rw [isEntry] at neutral
        exact neutral.2 _ _ ⟨rfl, fun _ => rfl⟩
      next isEntry =>
        rw [isEntry] at neutral
        have closes := neutral.2 [] .dies nofun
        rwa [List.append_nil] at closes

theorem ordered_osdInit : (rkOsdInit around).Ordered rank :=
  ⟨nofun, closes_initRounds _ _⟩

theorem ordered_font (neutral : IsNeutral actions) :
    (⟨actions, .returns⟩ : Run Mutex).Ordered rank := by
  have closes := (neutral [] nofun).2 [] .returns fun _ => rfl
  rwa [List.append_nil] at closes

theorem bmpChange_cases (change : Change) :
    (change.Suits around ∧ (rkOsdBmpChange around change).Ordered rank) ∨
      (¬ change.Suits around ∧ ¬ (rkOsdBmpChange around change).Releases) := by
  have load : IsNeutral (loadFont around around.fontAlreadySet) := neutral_loadFont _
  unfold rkOsdBmpChange Change.Suits
  split
  next isNull => exact .inr ⟨fun suits => suits.1 isNull, not_releases_osd neutral_nil⟩
  next isType =>
    split
    next isZero => exact .inr ⟨fun suits => suits.2.1 isZero, not_releases_osd neutral_nil⟩
    next isEnabled =>
      split
      next noColor =>
        exact .inl ⟨⟨isType, isEnabled, fun color => absurd noColor color⟩,
          ordered_dies neutral_nil⟩
      next color =>
        dsimp only
        split
        next isText =>
          split
          next dies =>
            refine .inl ⟨⟨isType, isEnabled, fun _ _ notNull allocated => ?_⟩, ordered_dies load⟩
            rcases dies with isNull | notAllocated
            · exact absurd isNull notNull
            · rw [allocated] at notAllocated
              cases notAllocated
          next lives =>
            obtain ⟨notNull, allocated⟩ := not_or.mp lives
            split
            next placed =>
              exact .inl ⟨⟨isType, isEnabled, fun _ _ _ _ => placed⟩,
                ordered_osd (load.append neutral_fillText)⟩
            next outside =>
              refine .inr ⟨fun suits => outside ?_,
                not_releases_osd (load.append neutral_fillText)⟩
              exact suits.2.2 color isText notNull (Bool.not_eq_false _ ▸ allocated)
        next noText =>
          exact .inl ⟨⟨isType, isEnabled, fun _ isText => absurd isText noText⟩,
            ordered_osd load⟩

theorem getFileList_cases (listing : Listing) :
    (listing.Suits ∧ (rkipcStorageGetFileList listing).Ordered rank) ∨
      (¬ listing.Suits ∧ ¬ (rkipcStorageGetFileList listing).Releases) := by
  unfold rkipcStorageGetFileList Listing.Suits
  split
  next isNull =>
    refine .inl ⟨fun list handle => ?_, fun _ => rfl⟩
    rw [list, handle] at isNull
    simp at isNull
  next notNull =>
    split
    next missing =>
      refine .inl ⟨fun _ _ ⟨folder, member, isPath⟩ => ?_, fun _ => rfl⟩
      have differs := List.findIdx?_eq_none_iff.mp missing folder member
      exact absurd isPath (of_decide_eq_false differs)
    next i isFound =>
      split
      next failed =>
        refine .inr ⟨fun suits => ?_, fun releases => nomatch releases rfl⟩
        obtain ⟨listed, handled⟩ := not_or.mp notNull
        obtain ⟨inside, isPath, _⟩ := List.findIdx?_eq_some_iff_getElem.mp isFound
        have malloc := suits (Bool.eq_false_iff.mpr listed) (Bool.eq_false_iff.mpr handled)
          ⟨_, List.getElem_mem inside, of_decide_eq_true isPath⟩
        rw [failed] at malloc
        cases malloc
      next malloc =>
        exact .inl ⟨fun _ _ _ => Bool.not_eq_false _ ▸ malloc,
          nofun, rfl, fun _ => rfl⟩

theorem ordered_of_suits {call : Call} (suits : Suits call) : (runOf call).Ordered rank := by
  cases call with
  | getFileList listing =>
      exact (getFileList_cases listing).elim And.right fun unsuited => absurd suits unsuited.1
  | osdInit around => exact ordered_osdInit
  | bmpChange around change =>
      exact (bmpChange_cases change).elim And.right fun unsuited => absurd suits unsuited.1
  | privacyMaskRestart => exact ⟨nofun, rfl, fun _ => rfl⟩
  | createFont outcome => exact ordered_font (neutral_createFont outcome)
  | destroyFont | setFontColor => exact ordered_font neutral_font
  | setFontSize handles =>
      refine ordered_font ?_
      unfold setFontSize
      split
      · exact neutral_nil
      · exact neutral_font
  | drawText handles isNull => exact ordered_font (neutral_draw handles isNull)
  | advanceX handles isNull => exact ordered_font (neutral_advanceX handles isNull)

theorem releases_iff_suits (call : Call) : (runOf call).Releases ↔ Suits call := by
  refine ⟨fun releases => ?_, fun suits => (ordered_of_suits suits).releases⟩
  cases call with
  | getFileList listing =>
      exact (getFileList_cases listing).elim And.left fun unsuited => absurd releases unsuited.2
  | bmpChange around change =>
      exact (bmpChange_cases change).elim And.left fun unsuited => absurd releases unsuited.2
  | osdInit _ | privacyMaskRestart | createFont _ | destroyFont | setFontSize _ | setFontColor
  | drawText _ _ | advanceX _ _ => trivial

theorem rank_le (mutex : Mutex) : rank mutex ≤ 1 := by
  cases mutex with
  | osd | folder i => exact Nat.zero_le 1
  | font => exact Nat.le_refl 1

/-- The calls that suit, and no others, return with every mutex unlocked, and after any of these
calls from any threads no thread is blocked for ever. -/
theorem unlocked_iff (call : Call) :
    ((runOf call).Releases ↔ Suits call) ∧
      ∀ state, calls.Reachable suited state → state.alive = true →
        state.NeverBlocked runOf := by
  refine ⟨releases_iff_suits call, fun state reachable alive => ?_⟩
  have ordered : calls.Reachable (orderedCalls rank runOf) state := by
    refine reachable.mono fun before label suits => ?_
    cases label with
    | call thread call => exact ordered_of_suits suits
    | advance thread => trivial
  exact (sound_of_reachable ordered).neverBlocked alive rank_le runOf

end Runs

section Examples

def noEntries : Surroundings where
  config := ⟨fun _ => ⟨⟨none, 0, []⟩, fun _ => 0, fun _ => 0, none, .null, 0⟩, fun _ => 1,
    fun _ => 1, fun _ => 1, fun _ => 1, false, false, false, none, 0⟩
  outside := ⟨fun _ _ _ => 0, fun _ => false, fun _ => false⟩
  memory := ⟨fun _ => ⟨false, 0, 0, 0, false, 0, false⟩, fun _ => false, none⟩
  fontAlreadySet := false
  outcome := ⟨false, false⟩
  handles := ⟨false, false⟩

def disabledCaption : Change :=
  ⟨⟨⟨some "channelName".toList, 0, []⟩, fun _ => 0, fun _ => 0, none, .null, 0⟩, 0, false⟩

/-- A thread that has changed it keeps the mutex for good. -/
theorem caption_blocks :
    ¬ (runOf (.bmpChange noEntries disabledCaption)).Releases ∧
      ∃ state, calls.Reachable System.anyStep state ∧ state.alive = true ∧
        ¬ state.NeverBlocked runOf := by
  have isRun : runOf (.bmpChange noEntries disabledCaption) = ⟨[.lock .osd], .returns⟩ := by
    decide
  refine ⟨fun releases => ?_, ⟨true, [⟨[.osd], none⟩]⟩, ?_, rfl, ?_⟩
  · rw [isRun] at releases
    cases releases rfl
  · have first : calls.Reachable System.anyStep ⟨true, [⟨[], none⟩]⟩ :=
      .start ⟨rfl, List.forall_mem_singleton.mpr rfl⟩
    have called : calls.step ⟨true, [⟨[], none⟩]⟩
        (.call 0 (.bmpChange noEntries disabledCaption)) =
          some ⟨true, [⟨[], some ⟨[.lock .osd], .returns⟩⟩]⟩ := by
      rw [← isRun]
      rfl
    have locked : calls.step ⟨true, [⟨[], some ⟨[.lock .osd], .returns⟩⟩]⟩ (.advance 0) =
        some ⟨true, [⟨[.osd], some ⟨[], .returns⟩⟩]⟩ := rfl
    have returned : calls.step ⟨true, [⟨[.osd], some ⟨[], .returns⟩⟩]⟩ (.advance 0) =
        some ⟨true, [⟨[.osd], none⟩]⟩ := rfl
    exact ((first.step trivial called).step trivial locked).step trivial returned
  · rintro ⟨after, reaches, ends⟩
    have stays : ∀ before label next, before = ⟨true, [⟨[.osd], none⟩]⟩ → goesOn before label →
        calls.step before label = some next → next = ⟨true, [⟨[.osd], none⟩]⟩ := by
      rintro before label next rfl going stepped
      cases label with
      | call thread call => exact going.elim
      | advance thread => cases thread <;> cases stepped
    rw [reaches.invariant stays rfl] at ends
    exact ends.elim nofun fun idle => nomatch idle _ (List.mem_singleton_self _)

end Examples

end Rkipc.Osd.HeldMutexes
