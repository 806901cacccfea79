import Mathlib.Data.Nat.Find
import Rkipc.Param.Copies

namespace Rkipc.Param.Copies

open Ini Libc

/-! The strings of the configuration for which no array overflows. -/

/-- The string is there, and so is the stored value that it is compared with. -/
def IspAlive (d : Dictionary) (camId : Nat) (setting : String × String) : Prop :=
  ispValue d camId setting ≠ none ∧
    (setting.1 = ".enhancement:distortion_correction" →
      getString d (entryKey "isp" camId setting.1) none ≠ none)

def OsdText.Alive (text : OsdText) : Prop := text ≠ .fault ∧ text ≠ .text none

/-- No string that the call needs is missing. -/
def Call.Alive (d : Dictionary) : Call → Prop
  | .rkOsdInit _ => ∀ i < 8, (osdText d i).Alive
  | .osdTimeServer => getString d "osd.common:font_color".toList none ≠ none
  | .saveAencThread => True
  | .rkStorageMuxerInitById id =>
      h264Profile d id ≠ none ∧ mountPath d ≠ none ∧ folderName d id ≠ none
  | .rkRtmpInit id => h264Profile d id ≠ none
  | .rkIspSetFromIni ready camId =>
      ready = true → ∀ setting ∈ ispStrings, IspAlive d camId setting

def AtMost (found : Option Text) (bound : Nat) : Prop :=
  ∀ text, found = some text → text.length ≤ bound

/-- The lengths of the strings that a call reads before it meets a string that is
missing. -/
def Call.Bounded (muxer : MuxerParam) (d : Dictionary) : Call → Prop
  | .rkOsdInit outside =>
      ((∃ i < 8, (∀ j < i, (osdText d j).Alive) ∧ (osdText d i).loadsFont = true) →
        outside.fontAlreadySet = false → outside.faceOpens = true →
          AtMost (fontPath d) 512) ∧
        ∀ i < 8, (∀ j < i, (osdText d j).Alive) → outside.opened i = true →
          ∀ displayText, osdText d i = .text (some displayText) → displayText.length ≤ 127
  | .osdTimeServer =>
      getString d "osd.common:font_color".toList none ≠ none →
        ∀ style, dateStyle d = some style →
          (timeFormat d).flatten.length + (weekFormat d).flatten.length + style.length ≤ 127
  | .saveAencThread => AtMost (getString d "audio.0:encode_type".toList none) 16
  | .rkStorageMuxerInitById id =>
      AtMost (getString d (entryKey "video" id ":output_data_type") none)
          muxer.videoCodec ∧
        (h264Profile d id ≠ none →
          AtMost (getString d "audio.0:format".toList none) muxer.audioFormat ∧
          AtMost (getString d "audio.0:encode_type".toList none) muxer.audioCodec ∧
          ∀ mount, mountPath d = some mount →
            mount.length + ((folderName d id).getD []).length ≤ 254)
  | .rkRtmpInit id =>
      AtMost (getString d (entryKey "video" id ":output_data_type")
        (some "H.264".toList)) muxer.videoCodec
  | .rkIspSetFromIni ready camId =>
      ready = true → ∀ (i : Nat) (setting : String × String), ispStrings[i]? = some setting →
        (∀ j < i, ∀ other, ispStrings[j]? = some other → IspAlive d camId other) →
        AtMost (ispValue d camId setting) 127

/-- The calls of a sequence read bounded strings, until the process ends. -/
def Bounded (muxer : MuxerParam) (d : Dictionary) : List Event → Prop
  | [] => True
  | .set entry value :: rest => Bounded muxer (iniparserSet d entry (some value)) rest
  | .call call :: rest =>
      call.Bounded muxer d ∧ (call.Alive d → Bounded muxer d rest)

variable {d : Dictionary} {muxer : MuxerParam} {buffer : Buffer} {found : Option Text}
  {copies : Text → Actions}

section Strings

theorem faults_withString : Action.faults (withString found copies) = false ↔
    ∃ text, found = some text ∧ Action.faults (copies text) = false := by
  cases found with
  | none => exact ⟨Bool.noConfusion, fun ⟨_, isSome, _⟩ => (Option.some_ne_none _ isSome.symm).elim⟩
  | some text =>
      constructor
      · intro alive
        exact ⟨text, rfl, alive⟩
      · rintro ⟨_, same, alive⟩
        cases same
        exact alive

theorem fits_withString {size : Buffer → Nat} :
    Action.Fits size (withString found copies) ↔
      ∀ text, found = some text → Action.Fits size (copies text) := by
  cases found with
  | none =>
      constructor
      · intro _ text isSome
        cases isSome
      · intro _
        trivial
  | some text =>
      constructor
      · intro fits _ same
        cases same
        exact fits
      · intro all
        exact all text rfl

theorem faults_memcpyIfAny : Action.faults (memcpyIfAny buffer found) = false := by
  cases found <;> rfl

theorem fits_memcpyIfAny : Action.Fits (Buffer.size muxer) (memcpyIfAny buffer found) ↔
    AtMost found (buffer.size muxer) := by
  cases found with
  | none =>
      constructor
      · intro _ text isSome
        cases isSome
      · intro _
        trivial
  | some text =>
      constructor
      · intro fits _ same
        cases same
        exact fits.1
      · intro bounded
        exact ⟨bounded text rfl, trivial⟩

end Strings

section Osd

theorem faults_iconv {opened : Bool} {input : Text} :
    Action.faults (iconvUtf8ToWchar opened input) = false := by
  cases opened <;> rfl

theorem fits_iconv {opened : Bool} {input : Text} :
    Action.Fits (Buffer.size muxer) (iconvUtf8ToWchar opened input) ↔
      (opened = true → input.length ≤ 127) := by
  cases opened with
  | false => exact ⟨fun _ => Bool.noConfusion, fun _ => trivial⟩
  | true =>
      constructor
      · rintro ⟨_, terminated, _⟩ _
        exact Nat.le_of_succ_le_succ terminated
      · intro bounded
        have bound := bounded rfl
        exact ⟨Nat.le_succ_of_le bound, Nat.succ_le_succ bound, trivial⟩

theorem faults_osdInitText {opened : Bool} {displayText : Text} :
    Action.faults (osdInitText d opened displayText) = false := by
  unfold osdInitText
  split
  next =>
    rw [List.cons_append, Action.faults, Action.faults_append, faults_strcats, faults_iconv]
    rfl
  next => exact faults_iconv

theorem fits_osdInitText {opened : Bool} {displayText : Text} :
    Action.Fits (Buffer.size muxer) (osdInitText d opened displayText) ↔
      (opened = true → displayText.length ≤ 127) := by
  have short : (ispSource d).length ≤ 4 := by
    unfold ispSource
    split <;> decide
  have isEleven : ispConfig.length = 11 := rfl
  unfold osdInitText
  split
  next isConfig =>
    subst isConfig
    rw [List.cons_append, Action.Fits, Action.fits_append,
      fits_strcats (List.cons_ne_nil _ _), fits_iconv, List.flatten_singleton,
      List.length_append]
    simp only [Buffer.size]
    omega
  next => exact fits_iconv

variable {outside : OsdOutside} {i : Nat}

theorem faults_createFont : Action.faults (createFont d outside i) = false := by
  unfold createFont
  split
  next => exact faults_memcpyIfAny
  next => rfl

theorem fits_createFont :
    Action.Fits (Buffer.size muxer) (createFont d outside i) ↔
      (fontSetBefore d outside i = false ∧ outside.faceOpens = true → AtMost (fontPath d) 512) := by
  unfold createFont
  split
  next loads => exact fits_memcpyIfAny.trans ⟨fun short _ => short, fun short => short loads⟩
  next keeps => exact iff_of_true trivial fun loads => absurd loads keeps

theorem faults_osdInitEntry :
    Action.faults (osdInitEntry d outside i) = false ↔ (osdText d i).Alive := by
  unfold osdInitEntry OsdText.Alive
  cases osdText d i with
  | skip => simp [Action.faults]
  | fault => simp [Action.faults]
  | font => simp [faults_createFont]
  | text displayText =>
      rw [Action.faults_append, faults_createFont, Bool.false_or, faults_withString]
      cases displayText with
      | none => simp
      | some displayText => simp [faults_osdInitText]

theorem fits_osdInitEntry :
    Action.Fits (Buffer.size muxer) (osdInitEntry d outside i) ↔
      ((osdText d i).loadsFont = true → fontSetBefore d outside i = false ∧
          outside.faceOpens = true → AtMost (fontPath d) 512) ∧
        (outside.opened i = true → ∀ displayText, osdText d i = .text (some displayText) →
          displayText.length ≤ 127) := by
  unfold osdInitEntry
  cases osdText d i with
  | skip => simp [OsdText.loadsFont, Action.Fits]
  | fault => simp [OsdText.loadsFont, Action.Fits]
  | font => simp [OsdText.loadsFont, fits_createFont]
  | text displayText =>
      rw [Action.fits_append, faults_createFont, fits_createFont, fits_withString]
      simp only [fits_osdInitText, OsdText.loadsFont, true_implies, OsdText.text.injEq]
      refine and_congr_right fun _ => ?_
      exact ⟨fun short isOpen text same => short text same isOpen,
        fun short text same isOpen => short isOpen text same⟩

theorem fits_rkOsdInit :
    Action.Fits (Buffer.size muxer) (rkOsdInit d outside) ↔
      (Call.rkOsdInit outside).Bounded muxer d := by
  rw [rkOsdInit, Action.fits_flatMap_range]
  simp only [fits_osdInitEntry, faults_osdInitEntry, Call.Bounded]
  constructor
  · intro each
    refine ⟨?_, fun i below reached => (each i below reached).2⟩
    intro someLoads unset opens
    classical
    obtain ⟨below, reached, loads⟩ := Nat.find_spec someLoads
    refine (each _ below reached).1 loads ⟨?_, opens⟩
    rw [fontSetBefore, unset, Bool.false_or, List.any_eq_false]
    intro j isEarlier earlierLoads
    rw [List.mem_range] at isEarlier
    exact Nat.find_min someLoads isEarlier ⟨isEarlier.trans below,
      fun k earlier => reached k (earlier.trans isEarlier), earlierLoads⟩
  · rintro ⟨path, texts⟩ i below reached
    refine ⟨fun loads ⟨unset, opens⟩ => ?_, texts i below reached⟩
    exact path ⟨i, below, reached, loads⟩ (Bool.or_eq_false_iff.mp unset).1 opens

/-- Everything but the style of the date has a length of its own. -/
theorem fits_osdTimeServer : Action.Fits (Buffer.size muxer) (osdTimeServer d) ↔
    Call.osdTimeServer.Bounded muxer d := by
  have timeLength : (timeFormat d).flatten.length ≤ 7 := by
    unfold timeFormat
    split
    next => exact Nat.zero_le 7
    next => split <;> decide
  have weekLength : (weekFormat d).flatten.length ≤ 7 := by
    unfold weekFormat
    split <;> decide
  have formats : Action.Fits (Buffer.size muxer)
      (strcats .format [] (timeFormat d ++ weekFormat d ++ (dateStyle d).toList)) ↔
        ∀ style, dateStyle d = some style → (timeFormat d).flatten.length +
          (weekFormat d).flatten.length + style.length ≤ 127 := by
    by_cases nonempty : timeFormat d ++ weekFormat d ++ (dateStyle d).toList = []
    · rw [nonempty]
      rw [List.append_eq_nil_iff, Option.toList_eq_nil_iff] at nonempty
      refine ⟨fun _ style isSome => ?_, fun _ => trivial⟩
      rw [nonempty.2] at isSome
      cases isSome
    · rw [fits_strcats nonempty]
      simp only [List.length_nil, List.flatten_append, List.length_append, Buffer.size]
      cases dateStyle d with
      | none =>
          rw [Option.toList_none, List.flatten_nil, List.length_nil]
          constructor
          · intro _ style isSome
            cases isSome
          · intro _
            omega
      | some style =>
          rw [Option.toList_some, List.flatten_singleton]
          constructor
          · intro fits _ same
            cases same
            omega
          · intro bounded
            have bound := bounded style rfl
            omega
  rw [osdTimeServer, fits_withString]
  constructor
  · intro fits colored
    obtain ⟨color, isColor⟩ := Option.ne_none_iff_exists'.mp colored
    exact formats.mp (fits color isColor)
  · intro bounded color isColor
    exact formats.mpr (bounded (isColor ▸ Option.some_ne_none color))

end Osd

section Muxer

variable {id : Nat}

theorem ne_none_iff {copies : Text → Actions}
    (alive : ∀ text, Action.faults (copies text) = false) :
    Action.faults (withString found copies) = false ↔ found ≠ none := by
  rw [faults_withString, Option.ne_none_iff_exists']
  exact exists_congr fun text => and_iff_left (alive text)

theorem faults_recordPath : Action.faults (recordPath d id) = false ↔
    mountPath d ≠ none ∧ folderName d id ≠ none := by
  rw [recordPath, faults_withString]
  simp only [Action.faults_append, faults_strcats, Bool.false_or]
  simp only [ne_none_iff fun _ => faults_strcats]
  rw [Option.ne_none_iff_exists' (o := mountPath d), exists_and_right]

theorem fits_recordPath : Action.Fits (Buffer.size muxer) (recordPath d id) ↔
    ∀ mount, mountPath d = some mount →
      mount.length + ((folderName d id).getD []).length ≤ 254 := by
  rw [recordPath, fits_withString]
  refine forall₂_congr fun mount _ => ?_
  rw [Action.fits_append, fits_strcats (List.cons_ne_nil _ _), fits_withString]
  simp only [faults_strcats, true_implies, fits_strcats (List.cons_ne_nil _ _), Buffer.size,
    List.flatten_cons, List.flatten_nil, List.length_append, List.length_nil]
  have slash : "/".toList.length = 1 := rfl
  cases folderName d id with
  | none =>
      rw [Option.getD_none, List.length_nil]
      constructor
      · intro both
        omega
      · intro bound
        refine ⟨by omega, fun _ isSome => ?_⟩
        cases isSome
  | some folder =>
      rw [Option.getD_some]
      constructor
      · intro both
        have last := both.2 folder rfl
        omega
      · intro bound
        refine ⟨by omega, fun _ same => ?_⟩
        cases same
        omega

theorem faults_rkStorageMuxerInitById :
    Action.faults (rkStorageMuxerInitById d id) = false ↔
      (Call.rkStorageMuxerInitById id).Alive d := by
  rw [rkStorageMuxerInitById, Action.faults_append, faults_memcpyIfAny, Bool.false_or,
    faults_withString]
  simp only [Action.faults_append, faults_memcpyIfAny, Bool.false_or]
  rw [exists_and_right, faults_recordPath, Call.Alive]
  simp only [Option.ne_none_iff_exists']

theorem fits_rkStorageMuxerInitById :
    Action.Fits (Buffer.size muxer) (rkStorageMuxerInitById d id) ↔
      (Call.rkStorageMuxerInitById id).Bounded muxer d := by
  rw [rkStorageMuxerInitById, Action.fits_append, fits_memcpyIfAny, fits_withString]
  simp only [Action.fits_append, faults_memcpyIfAny, true_implies, fits_memcpyIfAny,
    fits_recordPath]
  refine and_congr_right fun _ => ?_
  rw [Option.ne_none_iff_exists']
  constructor
  · rintro all ⟨profile, isProfile⟩
    exact all profile isProfile
  · intro all profile isProfile
    exact all ⟨profile, isProfile⟩

theorem faults_rkRtmpInit :
    Action.faults (rkRtmpInit d id) = false ↔ h264Profile d id ≠ none := by
  rw [rkRtmpInit, Action.faults_append, faults_memcpyIfAny, Bool.false_or,
    ne_none_iff fun _ => rfl]

theorem fits_rkRtmpInit : Action.Fits (Buffer.size muxer) (rkRtmpInit d id) ↔
    (Call.rkRtmpInit id).Bounded muxer d := by
  rw [rkRtmpInit, Action.fits_append, fits_memcpyIfAny, fits_withString]
  exact and_iff_left fun _ _ _ => trivial

end Muxer

section Isp

variable {camId : Nat} {setting : String × String} {ready : Bool}

theorem faults_ispCompares : Action.faults (ispCompares d camId setting) = false ↔
    (setting.1 = ".enhancement:distortion_correction" →
      getString d (entryKey "isp" camId setting.1) none ≠ none) := by
  unfold ispCompares
  split
  next both => exact ⟨Bool.noConfusion, fun alive => absurd both.2 (alive both.1)⟩
  next neither => exact ⟨fun _ named missing => neither ⟨named, missing⟩, fun _ => rfl⟩

theorem faults_ispSet :
    Action.faults (ispSet d camId setting) = false ↔ IspAlive d camId setting := by
  rw [ispSet, faults_withString, IspAlive, Option.ne_none_iff_exists', ← faults_ispCompares,
    ← exists_and_right]
  exact Iff.rfl

theorem fits_ispSet : Action.Fits (Buffer.size muxer) (ispSet d camId setting) ↔
    AtMost (ispValue d camId setting) 127 := by
  have compares : Action.Fits (Buffer.size muxer) (ispCompares d camId setting) := by
    unfold ispCompares
    split <;> trivial
  rw [ispSet, fits_withString]
  refine forall₂_congr fun value _ => ?_
  rw [Action.fits_append]
  constructor
  · intro both
    exact Nat.le_of_succ_le_succ both.1.1
  · intro bound
    exact ⟨⟨Nat.succ_le_succ bound, trivial⟩, fun _ => compares⟩

theorem faults_rkIspSetFromIni : Action.faults (rkIspSetFromIni d ready camId) = false ↔
    (Call.rkIspSetFromIni ready camId).Alive d := by
  cases ready with
  | false => exact ⟨fun _ => Bool.noConfusion, fun _ => rfl⟩
  | true =>
      rw [rkIspSetFromIni, if_pos rfl, Action.faults_flatMap]
      simp only [faults_ispSet, Call.Alive, true_implies]

theorem fits_rkIspSetFromIni :
    Action.Fits (Buffer.size muxer) (rkIspSetFromIni d ready camId) ↔
      (Call.rkIspSetFromIni ready camId).Bounded muxer d := by
  cases ready with
  | false => exact ⟨fun _ => Bool.noConfusion, fun _ => trivial⟩
  | true =>
      rw [rkIspSetFromIni, if_pos rfl, Action.fits_flatMap]
      simp only [faults_ispSet, fits_ispSet, Call.Bounded, true_implies]

end Isp

theorem faults_actions (call : Call) :
    Action.faults (call.actions d) = false ↔ call.Alive d := by
  cases call with
  | rkOsdInit outside =>
      rw [Call.actions, rkOsdInit, Action.faults_flatMap]
      simp only [List.mem_range, faults_osdInitEntry, Call.Alive]
  | osdTimeServer => exact ne_none_iff fun _ => faults_strcats
  | saveAencThread =>
      refine ⟨fun _ => trivial, fun _ => ?_⟩
      rw [Call.actions, saveAencThread]
      split <;> rfl
  | rkStorageMuxerInitById id => exact faults_rkStorageMuxerInitById
  | rkRtmpInit id => exact faults_rkRtmpInit
  | rkIspSetFromIni ready camId => exact faults_rkIspSetFromIni

theorem fits_actions (call : Call) :
    Action.Fits (Buffer.size muxer) (call.actions d) ↔ call.Bounded muxer d := by
  cases call with
  | rkOsdInit outside => exact fits_rkOsdInit
  | osdTimeServer => exact fits_osdTimeServer
  | saveAencThread => exact fits_memcpyIfAny
  | rkStorageMuxerInitById id => exact fits_rkStorageMuxerInitById
  | rkRtmpInit id => exact fits_rkRtmpInit
  | rkIspSetFromIni ready camId => exact fits_rkIspSetFromIni

/-- The copies of a sequence of calls stay inside their arrays exactly if the strings
that the calls come to are bounded. -/
theorem copies_fit_iff (muxer : MuxerParam) (d : Dictionary) (events : List Event) :
    Action.Fits (Buffer.size muxer) (actions d events) ↔ Bounded muxer d events := by
  induction events generalizing d with
  | nil => exact Iff.rfl
  | cons event events induction =>
      cases event with
      | set entry value => exact induction _
      | call call =>
          rw [actions, Action.fits_append, fits_actions, faults_actions, induction]
          exact Iff.rfl

section Runs

def oneText : Dictionary :=
  dictionarySetAll (dictionaryNew 0)
    [("osd.0:type".toList, some "channelName".toList),
      ("osd.0:enabled".toList, some "1".toList),
      ("osd.common:font_color".toList, some "fff799".toList)]

/-- A client sets a text of 128 characters. -/
def longText : List Event :=
  [.set "osd.0:display_text".toList (List.replicate 128 'a'),
    .call (.rkOsdInit ⟨false, true, fun _ => true⟩)]

set_option maxRecDepth 4096 in
/-- The NUL of the text is written behind `entry`. -/
theorem text_overflows :
    ¬ ∀ (muxer : MuxerParam) (d : Dictionary) (events : List Event),
      Action.Fits (Buffer.size muxer) (actions d events) := by
  intro general
  have isActions : actions oneText longText = [.write .entry 128, .write .entry 129] := by
    decide
  have fits := general ⟨0, 0, 0⟩ oneText longText
  rw [isActions] at fits
  exact Nat.not_succ_le_self 128 fits.2.1

end Runs

end Rkipc.Param.Copies
