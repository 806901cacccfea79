import Rkipc.Video.RateControl

namespace Rkipc.Video.RateControl

open Ini Param

/-! Whether the attributes of the channel are those that a restart would give it. -/

/-- The same mode, and the same values of the fields that the mode has. -/
def Same (layout : Layout) (attr other : VencChnAttr) : Prop :=
  attr.enRcMode = other.enRcMode ∧ ∀ mode, attr.enRcMode = some mode →
    ∀ setting ∈ pipe0Settings mode,
      other.get layout mode setting.field = attr.get layout mode setting.field

/-- A restart changes nothing. -/
def Follows (layout : Layout) (state : State) : Prop :=
  ∃ attr, rkipcPipe0Init layout state.store = .ok (some attr) ∧
    Same layout attr (state.chnAttr 0)

/-- In the state and after every call. -/
def FollowsAll (layout : Layout) : State → List Call → Prop
  | state, [] => Follows layout state
  | state, call :: calls =>
      Follows layout state ∧ ∀ ret next, call.run layout state = .ok (ret, next) →
        FollowsAll layout next calls

def rate (key : Key) (default : Int) (store : Store) : Except Fault UInt32 :=
  (rkParamGetInt (videoEntry 0 key) default store).map u32

/-- The rates that `rk_video_set_RC_mode` takes or leaves are those of the mode. -/
def RatesFit (layout : Layout) (mode : RcMode) (state : State) : Prop :=
  if mode.isCbr then rate .maxRate (-1) state.store = rate .maxRate 0 state.store
  else
    rate .maxRate (-1) state.store = rate .midRate 0 state.store ∧
      rate .maxRate 0 state.store =
        .ok ((state.chnAttr 0).get layout mode .u32MaxBitRate) ∧
      rate .minRate 0 state.store =
        .ok ((state.chnAttr 0).get layout mode .u32MinBitRate)

def Call.Harmless (layout : Layout) (state : State) : Call → Prop
  | .setRcMode streamId value =>
      streamId = 0 → ∀ outputDataType mode,
        rkParamGetString (videoEntry 0 .outputDataType) none state.store =
          .ok (some outputDataType) →
        rcModeOf outputDataType value = some mode → RatesFit layout mode state
  | _ => True

def HarmlessAll (layout : Layout) : State → List Call → Prop
  | _, [] => True
  | state, call :: calls => ∀ ret next, call.run layout state = .ok (ret, next) →
      call.Harmless layout state ∧ HarmlessAll layout next calls

/-! The stored parameters of the streams. -/

abbrev Params := Key → Option (Option Text)

section Keys

def keys : List Key :=
  [.outputDataType, .rcMode, .gop, .maxRate, .midRate, .minRate, .dstFrameRateDen,
    .dstFrameRateNum, .srcFrameRateDen, .srcFrameRateNum]

theorem mem_keys (key : Key) : key ∈ keys := by
  cases key <;> decide

theorem Key.text_injective {key other : Key} (same : key.text = other.text) :
    key = other := by
  have nodup : (keys.map Key.text).Nodup := by decide
  exact List.inj_on_of_nodup_map nodup (mem_keys key) (mem_keys other) same

theorem videoEntry_eq (streamId : Int32) (key : Key) :
    videoEntry streamId key =
      "video.".toList ++ decimal streamId.toInt ++ ':' :: key.text := by
  obtain ⟨low, high⟩ := int32_bounds streamId
  have number := length_decimal low high
  have text : key.text.length ≤ 18 := by cases key <;> decide
  have video : "video.".toList.length = 6 := rfl
  unfold videoEntry
  apply List.take_of_length_le
  simp only [List.length_append, List.length_cons]
  omega

theorem videoEntry_inj {streamId other : Int32} {key otherKey : Key} :
    videoEntry streamId key = videoEntry other otherKey ↔
      streamId = other ∧ key = otherKey := by
  constructor
  · intro same
    rw [videoEntry_eq, videoEntry_eq, List.append_assoc, List.append_assoc] at same
    have stops : ∀ (key : Key), ∀ char ∈ (':' :: key.text).head?, ¬ char ≠ ':' := by
      rintro key _ ⟨⟩
      exact not_not_intro rfl
    obtain ⟨numbers, texts⟩ := append_inj_of_stops (p := (· ≠ ':'))
      (fun _ => noColon_decimal) (fun _ => noColon_decimal) (stops key) (stops otherKey)
      (List.append_cancel_left same)
    exact ⟨Int32.toInt_inj.mp (decimal_injective numbers),
      Key.text_injective (List.cons.inj texts).2⟩
  · rintro ⟨rfl, rfl⟩
    rfl

theorem strlwc_videoEntry (streamId : Int32) (key : Key) :
    strlwc (videoEntry streamId key) 1025 = videoEntry streamId key := by
  have short : (videoEntry streamId key).length ≤ 126 := List.length_take_le _ _
  apply strlwc_eq_self _ (by omega)
  rw [videoEntry_eq, List.map_append, List.map_append, toLower_decimal]
  cases key <;> rfl

end Keys

section Values

abbrev Values := Int32 → Params

def valuesOf (d : Dictionary) : Values :=
  fun streamId key => dictionaryFind d (videoEntry streamId key)

def Holds (store : Store) (values : Values) : Prop :=
  ∃ d : Dictionary, store.dict = .ok (some d) ∧ d.Sound ∧ valuesOf d = values

def readInt (default : Int) : Option (Option Text) → Except Fault Int
  | none => .ok default
  | some none => .error .null
  | some (some text) => .ok (strtol text)

def Params.put (params : Params) (key : Key) (text : Text) : Params :=
  Function.update params key (some (some text))

def Values.put (values : Values) (streamId : Int32) (key : Key) (text : Text) : Values :=
  Function.update values streamId (Params.put (values streamId) key text)

variable {store next : Store} {values : Values} {streamId : Int32} {key : Key}

theorem getInt_holds (holds : Holds store values) (default : Int) :
    rkParamGetInt (videoEntry streamId key) default store =
      readInt default (values streamId key) := by
  obtain ⟨d, live, _, rfl⟩ := holds
  unfold rkParamGetInt
  rw [live]
  dsimp only [bind, Except.bind]
  unfold iniparserGetnumber valuesOf
  rw [Option.bind_some, strlwc_videoEntry]
  cases dictionaryFind d (videoEntry streamId key) with
  | none => rfl
  | some val => cases val <;> rfl

theorem getString_holds (holds : Holds store values) (default : Option Text) :
    rkParamGetString (videoEntry streamId key) default store =
      .ok ((values streamId key).getD default) := by
  obtain ⟨d, live, _, rfl⟩ := holds
  unfold rkParamGetString
  rw [live]
  dsimp only [bind, Except.bind]
  unfold iniparserGetstring valuesOf dictionaryGet
  rw [strlwc_videoEntry]
  rfl

theorem setString_holds (holds : Holds store values) {text : Text}
    (set : rkParamSetString (videoEntry streamId key) (some text) store = .ok next) :
    Holds next (values.put streamId key text) := by
  obtain ⟨d, live, sound, rfl⟩ := holds
  obtain ⟨after, wrote, isDict⟩ := write_next live
    fun d => iniparserSet d (videoEntry streamId key) (some text)
  obtain rfl : after = next := Except.ok.inj (wrote.symm.trans set)
  refine ⟨_, isDict, (set_spec sound _ _).1, ?_⟩
  unfold iniparserSet valuesOf Values.put Params.put
  rw [strlwc_videoEntry, find_set sound]
  funext other otherKey
  obtain rfl | isOther := eq_or_ne other streamId
  · rw [Function.update_self]
    simp only [Function.update_apply, videoEntry_inj, true_and]
  · rw [Function.update_of_ne isOther, Function.update_of_ne]
    exact fun same => isOther (videoEntry_inj.mp same).1

theorem setInt_holds (holds : Holds store values) {val : Int}
    (set : rkParamSetInt (videoEntry streamId key) val store = .ok next) :
    Holds next (values.put streamId key (decimal val)) ∧ strtol (decimal val) = val := by
  unfold rkParamSetInt at set
  cases wrote : rkParamSetString (videoEntry streamId key) (some (decimal val)) store with
  | error fault =>
      rw [wrote] at set
      cases set
  | ok after =>
      rw [wrote] at set
      dsimp only [bind, Except.bind] at set
      split at set
      next short =>
        cases set
        obtain ⟨low, high⟩ := bounds_of_length short
        exact ⟨setString_holds holds wrote, strtol_decimal low high⟩
      next => cases set

end Values

section Attributes

variable {layout : Layout} {mode : RcMode} {attr after : VencChnAttr} {params : Params}

@[simp] theorem get_set (field other : Field) (val : Int) :
    (attr.set layout mode field val).get layout mode other =
      if other = field then u32 val else attr.get layout mode other := by
  unfold VencChnAttr.set VencChnAttr.get
  dsimp only
  rw [Function.update_apply]
  exact if_congr (layout.distinct mode).eq_iff rfl rfl

@[simp] theorem set_enRcMode (field : Field) (val : Int) :
    (attr.set layout mode field val).enRcMode = attr.enRcMode := rfl

def chosen (params : Params) : Option RcMode :=
  match params .outputDataType, params .rcMode with
  | some (some outputDataType), some (some rcMode) => rcModeOf outputDataType rcMode
  | _, _ => none

/-- The field has what the setting gives it. -/
def Meets (layout : Layout) (mode : RcMode) (params : Params) (attr : VencChnAttr)
    (setting : Setting) : Prop :=
  (readInt setting.default (params setting.key)).map u32 =
    .ok (attr.get layout mode setting.field)

structure Tracks (layout : Layout) (params : Params) (attr : VencChnAttr)
    (mode : RcMode) : Prop where
  chosen : chosen params = some mode
  enRcMode : attr.enRcMode = some mode
  meets : ∀ setting ∈ pipe0Settings mode, Meets layout mode params attr setting

theorem meets_of_read {setting : Setting} {val : Int}
    (read : readInt setting.default (params setting.key) = .ok val)
    (isField : attr.get layout mode setting.field = u32 val) :
    Meets layout mode params attr setting := by
  unfold Meets
  rw [read, isField]
  rfl

theorem fields_nodup (mode : RcMode) : ((pipe0Settings mode).map Setting.field).Nodup := by
  cases mode <;> decide

variable {store : Store} {values : Values} {streamId : Int32}

/-- Every field has what it was given, and the other fields stay. -/
theorem fill_spec (holds : Holds store values) :
    ∀ {settings : List Setting} {attr after : VencChnAttr},
      (settings.map Setting.field).Nodup →
      fill layout mode streamId store settings attr = .ok after →
      after.enRcMode = attr.enRcMode ∧
        (∀ setting ∈ settings, Meets layout mode (values streamId) after setting) ∧
        ∀ field ∉ settings.map Setting.field,
          after.get layout mode field = attr.get layout mode field
  | [], attr, after, _, filled => by
      cases filled
      exact ⟨rfl, nofun, fun _ _ => rfl⟩
  | setting :: settings, attr, after, nodup, filled => by
      obtain ⟨fresh, nodup⟩ := List.nodup_cons.mp nodup
      unfold fill at filled
      rw [getInt_holds holds] at filled
      cases read : readInt setting.default (values streamId setting.key) with
      | error fault =>
          rw [read] at filled
          cases filled
      | ok val =>
          rw [read] at filled
          obtain ⟨mode, meets, others⟩ := fill_spec holds nodup filled
          refine ⟨mode, fun other member => ?_, fun field notMember => ?_⟩
          · obtain rfl | member := List.mem_cons.mp member
            · refine meets_of_read read ?_
              rw [others _ fresh, get_set, if_pos rfl]
            · exact meets other member
          · rw [others field (List.not_mem_of_not_mem_cons notMember), get_set,
              if_neg (List.ne_of_not_mem_cons notMember)]

theorem fill_of_reads (holds : Holds store values) :
    ∀ {settings : List Setting} {attr : VencChnAttr},
      (∀ setting ∈ settings, ∃ val,
        readInt setting.default (values streamId setting.key) = .ok val) →
      ∃ after, fill layout mode streamId store settings attr = .ok after
  | [], attr, _ => ⟨attr, rfl⟩
  | setting :: settings, attr, reads => by
      obtain ⟨⟨val, read⟩, reads⟩ := List.forall_mem_cons.mp reads
      obtain ⟨after, filled⟩ : ∃ after, fill layout mode streamId store settings
          (attr.set layout mode setting.field val) = .ok after := fill_of_reads holds reads
      refine ⟨after, ?_⟩
      unfold fill
      rw [getInt_holds holds, read]
      exact filled

theorem Meets.reads {setting : Setting} (meets : Meets layout mode params attr setting) :
    ∃ val, readInt setting.default (params setting.key) = .ok val ∧
      attr.get layout mode setting.field = u32 val := by
  unfold Meets at meets
  cases read : readInt setting.default (params setting.key) with
  | error fault =>
      rw [read] at meets
      cases meets
  | ok val =>
      rw [read] at meets
      exact ⟨val, rfl, (Except.ok.inj meets).symm⟩

theorem pipe0Init_holds (holds : Holds store values) :
    rkipcPipe0Init layout store = match chosen (values 0) with
      | none => .ok none
      | some mode => (fill layout mode 0 store (pipe0Settings mode)
          { VencChnAttr.zero with enType := some mode.codec, enRcMode := some mode }).map
            some := by
  unfold rkipcPipe0Init chosen
  rw [getString_holds holds, getString_holds holds]
  dsimp only [bind, Except.bind]
  cases values 0 .outputDataType with
  | none => rfl
  | some outputDataType =>
      cases outputDataType with
      | none => rfl
      | some outputDataType =>
          cases values 0 .rcMode with
          | none => rfl
          | some rcMode =>
              cases rcMode with
              | none => rfl
              | some rcMode =>
                  dsimp only [Option.getD_some]
                  cases rcModeOf outputDataType rcMode with
                  | none => rfl
                  | some mode =>
                      dsimp only
                      cases fill layout mode 0 store (pipe0Settings mode) _ <;> rfl

theorem follows_iff_tracks {state : State} (holds : Holds state.store values) :
    Follows layout state ↔ ∃ mode, Tracks layout (values 0) (state.chnAttr 0) mode := by
  unfold Follows
  rw [pipe0Init_holds holds]
  constructor
  · rintro ⟨attr, computed, sameMode, sameFields⟩
    cases isChosen : chosen (values 0) with
    | none =>
        rw [isChosen] at computed
        cases computed
    | some mode =>
        rw [isChosen] at computed
        dsimp only at computed
        cases filled : fill layout mode 0 state.store (pipe0Settings mode)
            { VencChnAttr.zero with
              enType := some mode.codec, enRcMode := some mode } with
        | error fault =>
            rw [filled] at computed
            cases computed
        | ok filledAttr =>
            rw [filled] at computed
            cases computed
            obtain ⟨isMode, meets, _⟩ := fill_spec holds (fields_nodup mode) filled
            refine ⟨mode, isChosen, sameMode.symm.trans isMode, fun setting member => ?_⟩
            unfold Meets
            rw [sameFields mode isMode setting member]
            exact meets setting member
  · rintro ⟨mode, tracks⟩
    obtain ⟨after, filled⟩ : ∃ after,
        fill layout mode 0 state.store (pipe0Settings mode)
          { VencChnAttr.zero with
            enType := some mode.codec, enRcMode := some mode } = .ok after :=
      fill_of_reads holds fun setting member =>
        (tracks.meets setting member).reads.imp fun _ => And.left
    obtain ⟨isMode, meets, _⟩ := fill_spec holds (fields_nodup mode) filled
    refine ⟨after, ?_, isMode.trans tracks.enRcMode.symm, fun other isOther => ?_⟩
    · rw [tracks.chosen]
      dsimp only
      rw [filled]
      rfl
    · obtain rfl : mode = other := Option.some.inj (isMode.symm.trans isOther)
      intro setting member
      exact Except.ok.inj ((tracks.meets setting member).symm.trans (meets setting member))

end Attributes

section Setters

variable {layout : Layout} {mode : RcMode} {attr other : VencChnAttr}
  {params : Params} {values : Values} {streamId : Int32} {state next : State}
  {ret : Int}

def Params.putInts (params : Params) (writes : List (Key × Int)) : Params :=
  writes.foldl (fun params write => Params.put params write.1 (decimal write.2)) params

theorem setInts_holds :
    ∀ {writes : List (Key × Int)} {store after : Store} {values : Values},
      Holds store values → setInts streamId writes store = .ok after →
      Holds after (Function.update values streamId
        (Params.putInts (values streamId) writes)) ∧
        ∀ write ∈ writes, strtol (decimal write.2) = write.2
  | [], store, after, values, holds, set => by
      cases set
      refine ⟨?_, nofun⟩
      rwa [Params.putInts, List.foldl_nil, Function.update_eq_self]
  | (key, val) :: writes, store, after, values, holds, set => by
      unfold setInts at set
      cases first : rkParamSetInt (videoEntry streamId key) val store with
      | error fault =>
          rw [first] at set
          cases set
      | ok middle =>
          rw [first] at set
          obtain ⟨holds, read⟩ := setInt_holds holds first
          obtain ⟨holds, reads⟩ := setInts_holds holds set
          refine ⟨?_, List.forall_mem_cons.mpr ⟨read, reads⟩⟩
          unfold Values.put at holds
          rw [Function.update_idem, Function.update_self] at holds
          exact holds

theorem setAttr_cases {change : RcMode → VencChnAttr → VencChnAttr}
    {writes : List (Key × Int)}
    (ran : setAttr streamId change writes state = .ok (ret, next)) :
    next = state ∨ ∃ mode, currentMode streamId state.store = .ok (some mode) ∧
      next.chnAttr = Function.update state.chnAttr streamId
        (change mode (state.chnAttr streamId)) ∧
      setInts streamId writes state.store = .ok next.store := by
  unfold setAttr at ran
  cases current : currentMode streamId state.store with
  | error fault =>
      rw [current] at ran
      cases ran
  | ok found =>
      rw [current] at ran
      dsimp only [bind, Except.bind] at ran
      cases found with
      | none =>
          cases ran
          exact .inl rfl
      | some mode =>
          dsimp only at ran
          cases wrote : setInts streamId writes state.store with
          | error fault =>
              have wrote : setInts streamId writes
                (state.setChnAttr streamId (change mode (state.chnAttr streamId))).store =
                  .error fault := wrote
              rw [wrote] at ran
              cases ran
          | ok store =>
              have wrote : setInts streamId writes
                (state.setChnAttr streamId (change mode (state.chnAttr streamId))).store =
                  .ok store := wrote
              rw [wrote] at ran
              cases ran
              exact .inr ⟨mode, rfl, rfl, rfl⟩

/-- The setters read the parameters with other defaults than `rkipc_pipe_0_init`. -/
theorem currentMode_of_chosen {store : Store} (holds : Holds store values)
    (isChosen : chosen (values streamId) = some mode) :
    currentMode streamId store = .ok (some mode) := by
  unfold chosen at isChosen
  split at isChosen
  next outputDataType rcMode isType isRcMode =>
    unfold currentMode getText
    rw [getString_holds holds, getString_holds holds, isType, isRcMode]
    exact congrArg Except.ok isChosen
  next => cases isChosen

/-- A setter keeps a field and its parameter, or gives both the same value. -/
def Moves (layout : Layout) (mode : RcMode) (params after : Params)
    (attr next : VencChnAttr) (setting : Setting) : Prop :=
  after setting.key = params setting.key ∧
      next.get layout mode setting.field = attr.get layout mode setting.field ∨
    ∃ val, after setting.key = some (some (decimal val)) ∧ strtol (decimal val) = val ∧
      next.get layout mode setting.field = u32 val

theorem Tracks.move {after : Params} (tracks : Tracks layout params attr mode)
    (isType : after .outputDataType = params .outputDataType)
    (isRcMode : after .rcMode = params .rcMode)
    (isMode : other.enRcMode = attr.enRcMode)
    (moves : ∀ setting ∈ pipe0Settings mode,
      Moves layout mode params after attr other setting) :
    Tracks layout after other mode := by
  refine ⟨?_, isMode.trans tracks.enRcMode, fun setting member => ?_⟩
  · have isChosen := tracks.chosen
    unfold RateControl.chosen at isChosen ⊢
    rw [isType, isRcMode]
    exact isChosen
  · obtain ⟨sameKey, sameField⟩ | ⟨val, isKey, read, isField⟩ := moves setting member
    · have meets := tracks.meets setting member
      unfold Meets at meets ⊢
      rw [sameKey, sameField]
      exact meets
    · have isRead : readInt setting.default (after setting.key) = .ok val := by
        rw [isKey]
        exact congrArg Except.ok read
      exact meets_of_read isRead isField

section Moves

variable {after last : Params} {next last' : VencChnAttr} {setting : Setting} {val : Int}

theorem Moves.write {key : Key} {field : Field}
    (paired : setting.key = key ↔ setting.field = field)
    (read : strtol (decimal val) = val) :
    Moves layout mode params (Params.put params key (decimal val)) attr
      (attr.set layout mode field val) setting := by
  by_cases isKey : setting.key = key
  · refine .inr ⟨val, ?_, read, ?_⟩
    · rw [isKey]
      exact Function.update_self ..
    · rw [get_set, if_pos (paired.mp isKey)]
  · refine .inl ⟨Function.update_of_ne isKey _ _, ?_⟩
    rw [get_set, if_neg (fun isField => isKey (paired.mpr isField))]

theorem Moves.unused {key : Key} {text : Text} (other : setting.key ≠ key) :
    Moves layout mode params (Params.put params key text) attr attr setting :=
  .inl ⟨Function.update_of_ne other _ _, rfl⟩

theorem Moves.trans (first : Moves layout mode params after attr next setting)
    (second : Moves layout mode after last next last' setting) :
    Moves layout mode params last attr last' setting := by
  obtain ⟨sameKey, sameField⟩ | changed := second
  · unfold Moves
    rw [sameKey, sameField]
    exact first
  · exact .inr changed

end Moves

theorem set_comm {field other : Field} (distinct : field ≠ other) (val val' : Int) :
    (attr.set layout mode field val).set layout mode other val' =
      (attr.set layout mode other val').set layout mode field val := by
  unfold VencChnAttr.set
  dsimp only
  rw [Function.update_comm ((layout.distinct mode).ne distinct)]

theorem setMaxRate_moves {value third : Int}
    (reads : ∀ write ∈ [(Key.maxRate, value), (.midRate, third * 2), (.minRate, third)],
      strtol (decimal write.2) = write.2) :
    ∀ setting ∈ pipe0Settings mode, Moves layout mode params
      (Params.putInts params [(.maxRate, value), (.midRate, third * 2), (.minRate, third)])
      attr
      (if mode.isCbr then attr.set layout mode .u32BitRate value
      else ((attr.set layout mode .u32MinBitRate third).set layout mode .u32BitRate
        (third * 2)).set layout mode .u32MaxBitRate value) setting := by
  simp only [List.forall_mem_cons] at reads
  obtain ⟨readMax, readMid, readMin, _⟩ := reads
  intro setting member
  cases isCbr : mode.isCbr with
  | true =>
      have paired : ∀ setting ∈ pipe0Settings mode,
          (setting.key = .maxRate ↔ setting.field = .u32BitRate) ∧
            setting.key ≠ .midRate ∧ setting.key ≠ .minRate := by
        unfold pipe0Settings
        rw [isCbr]
        decide
      obtain ⟨isMax, notMid, notMin⟩ := paired setting member
      exact ((Moves.write isMax readMax).trans (.unused notMid)).trans (.unused notMin)
  | false =>
      have paired : ∀ setting ∈ pipe0Settings mode,
          (setting.key = .maxRate ↔ setting.field = .u32MaxBitRate) ∧
            (setting.key = .midRate ↔ setting.field = .u32BitRate) ∧
              (setting.key = .minRate ↔ setting.field = .u32MinBitRate) := by
        unfold pipe0Settings
        rw [isCbr]
        decide
      obtain ⟨isMax, isMid, isMin⟩ := paired setting member
      have sameAttr : ((attr.set layout mode .u32MinBitRate third).set layout mode .u32BitRate
          (third * 2)).set layout mode .u32MaxBitRate value =
          ((attr.set layout mode .u32MaxBitRate value).set layout mode .u32BitRate
            (third * 2)).set layout mode .u32MinBitRate third := by
        calc
          _ = ((attr.set layout mode .u32BitRate (third * 2)).set layout mode
                .u32MinBitRate third).set layout mode .u32MaxBitRate value :=
              congrArg _ (set_comm (by decide) _ _)
          _ = ((attr.set layout mode .u32BitRate (third * 2)).set layout mode
                .u32MaxBitRate value).set layout mode .u32MinBitRate third :=
              set_comm (by decide) _ _
          _ = _ := congrArg _ (set_comm (by decide) _ _)
      have isFalse : ¬ (false = true) := nofun
      rw [if_neg isFalse, sameAttr]
      exact ((Moves.write isMax readMax).trans (.write isMid readMid)).trans
        (.write isMin readMin)

theorem setGop_moves {value : Int}
    (reads : ∀ write ∈ [(Key.gop, value)], strtol (decimal write.2) = write.2) :
    ∀ setting ∈ pipe0Settings mode, Moves layout mode params
      (Params.putInts params [(.gop, value)]) attr (attr.set layout mode .u32Gop value)
        setting := by
  have paired : ∀ setting ∈ pipe0Settings mode,
      setting.key = .gop ↔ setting.field = .u32Gop := by
    cases mode <;> decide
  have read : strtol (decimal value) = value :=
    reads (.gop, value) (List.mem_singleton_self _)
  exact fun setting member => .write (paired setting member) read

theorem setFrameRate_moves {num den : Int}
    (reads : ∀ write ∈ [(Key.dstFrameRateDen, den), (.dstFrameRateNum, num)],
      strtol (decimal write.2) = write.2) :
    ∀ setting ∈ pipe0Settings mode, Moves layout mode params
      (Params.putInts params [(.dstFrameRateDen, den), (.dstFrameRateNum, num)]) attr
      ((({ attr with enType := some mode.codec }).set layout mode .fr32DstFrameRateDen
        den).set layout mode .fr32DstFrameRateNum num) setting := by
  simp only [List.forall_mem_cons] at reads
  obtain ⟨readDen, readNum, _⟩ := reads
  have paired : ∀ setting ∈ pipe0Settings mode,
      (setting.key = .dstFrameRateDen ↔ setting.field = .fr32DstFrameRateDen) ∧
        (setting.key = .dstFrameRateNum ↔ setting.field = .fr32DstFrameRateNum) := by
    cases mode <;> decide
  intro setting member
  obtain ⟨isDen, isNum⟩ := paired setting member
  have typed : Moves layout mode params params attr
      { attr with enType := some mode.codec } setting := .inl ⟨rfl, rfl⟩
  exact (typed.trans (.write isDen readDen)).trans (.write isNum readNum)

theorem putInts_other {key : Key} {writes : List (Key × Int)}
    (other : key ∉ writes.map Prod.fst) : Params.putInts params writes key = params key := by
  induction writes generalizing params with
  | nil => rfl
  | cons write writes induction =>
      have rest := List.not_mem_of_not_mem_cons other
      refine (induction rest).trans (Function.update_of_ne ?_ _ _)
      exact List.ne_of_not_mem_cons other

/-- The parameters of a store, and the mode that the channel follows them in. -/
def Tracked (layout : Layout) (state : State) (mode : RcMode) : Prop :=
  ∃ values, Holds state.store values ∧ Tracks layout (values 0) (state.chnAttr 0) mode

theorem Tracks.update {store : Store} {attr : VencChnAttr} {after : Params}
    {chnAttr : Int32 → VencChnAttr}
    (tracks : Tracks layout (values 0) (chnAttr 0) mode)
    (holds : Holds store (Function.update values streamId after))
    (own : streamId = 0 → Tracks layout after attr mode) :
    Tracked layout ⟨store, Function.update chnAttr streamId attr⟩ mode := by
  refine ⟨_, holds, ?_⟩
  dsimp only
  obtain rfl | isOther := eq_or_ne streamId 0
  · rw [Function.update_self, Function.update_self]
    exact own rfl
  · rw [Function.update_of_ne isOther.symm, Function.update_of_ne isOther.symm]
    exact tracks

theorem setAttr_tracked {change : RcMode → VencChnAttr → VencChnAttr}
    {writes : List (Key × Int)} (tracked : Tracked layout state mode)
    (ran : setAttr streamId change writes state = .ok (ret, next))
    (isMode : ∀ mode attr, (change mode attr).enRcMode = attr.enRcMode)
    (isType : Key.outputDataType ∉ writes.map Prod.fst)
    (isRcMode : Key.rcMode ∉ writes.map Prod.fst)
    (moves : ∀ params attr, (∀ write ∈ writes, strtol (decimal write.2) = write.2) →
      ∀ setting ∈ pipe0Settings mode, Moves layout mode params
        (Params.putInts params writes) attr (change mode attr) setting) :
    Tracked layout next mode := by
  obtain ⟨values, holds, tracks⟩ := tracked
  obtain rfl | ⟨found, current, isChnAttr, wrote⟩ := setAttr_cases ran
  · exact ⟨values, holds, tracks⟩
  · obtain ⟨holdsNext, reads⟩ := setInts_holds holds wrote
    obtain ⟨store, chnAttr⟩ := next
    obtain rfl : chnAttr = _ := isChnAttr
    refine tracks.update holdsNext ?_
    rintro rfl
    have isFound := current.symm.trans (currentMode_of_chosen holds tracks.chosen)
    obtain rfl : found = mode := Option.some.inj (Except.ok.inj isFound)
    exact tracks.move (putInts_other isType) (putInts_other isRcMode) (isMode ..)
      (moves _ _ reads)

theorem run_tracked {call : Call} (tracked : Tracked layout state mode)
    (notRcMode : ∀ streamId value, call ≠ .setRcMode streamId value)
    (ran : call.run layout state = .ok (ret, next)) : Tracked layout next mode := by
  cases call with
  | setGop streamId value =>
      unfold Call.run rkVideoSetGop at ran
      exact setAttr_tracked tracked ran (fun _ _ => rfl) (by simp) (by simp)
        fun _ _ reads => setGop_moves reads
  | setMaxRate streamId value =>
      unfold Call.run rkVideoSetMaxRate at ran
      refine setAttr_tracked tracked ran (fun mode attr => ?_) (by simp) (by simp)
        fun _ _ reads => setMaxRate_moves reads
      split <;> rfl
  | setRcMode streamId value => exact absurd rfl (notRcMode streamId value)
  | setFrameRate streamId value num den =>
      unfold Call.run rkVideoSetFrameRate at ran
      exact setAttr_tracked tracked ran (fun _ _ => rfl) (by simp) (by simp)
        fun _ _ reads => setFrameRate_moves reads

theorem setRcMode_cases {value : Text}
    (ran : rkVideoSetRcMode layout streamId value state = .ok (ret, next)) :
    ∃ outputDataType, getText (videoEntry streamId .outputDataType) "H.264".toList
        state.store = .ok outputDataType ∧
      (rcModeOf outputDataType value = none ∧ next = state ∨
        ∃ mode attr, rcModeOf outputDataType value = some mode ∧
          fill layout mode streamId state.store setRcModeSettings
            { state.chnAttr streamId with enRcMode := some mode } = .ok attr ∧
          next.chnAttr = Function.update state.chnAttr streamId attr ∧
          rkParamSetString (videoEntry streamId .rcMode) (some value) state.store =
            .ok next.store) := by
  unfold rkVideoSetRcMode at ran
  cases isType : getText (videoEntry streamId .outputDataType) "H.264".toList
      state.store with
  | error fault =>
      rw [isType] at ran
      cases ran
  | ok outputDataType =>
      rw [isType] at ran
      refine ⟨outputDataType, rfl, ?_⟩
      dsimp only [bind, Except.bind] at ran
      cases isMode : rcModeOf outputDataType value with
      | none =>
          rw [isMode] at ran
          cases ran
          exact .inl ⟨rfl, rfl⟩
      | some mode =>
          rw [isMode] at ran
          dsimp only at ran
          cases filled : fill layout mode streamId state.store setRcModeSettings
              { state.chnAttr streamId with enRcMode := some mode } with
          | error fault =>
              rw [filled] at ran
              cases ran
          | ok attr =>
              rw [filled] at ran
              dsimp only at ran
              cases wrote : rkParamSetString (videoEntry streamId .rcMode) (some value)
                  (state.setChnAttr streamId attr).store with
              | error fault =>
                  rw [wrote] at ran
                  cases ran
              | ok store =>
                  rw [wrote] at ran
                  cases ran
                  exact .inr ⟨mode, attr, rfl, filled, rfl, wrote⟩

theorem chosen_type (isChosen : chosen params = some mode) :
    ∃ outputDataType rcMode, params .outputDataType = some (some outputDataType) ∧
      params .rcMode = some (some rcMode) ∧
        rcModeOf outputDataType rcMode = some mode := by
  unfold chosen at isChosen
  split at isChosen
  next outputDataType rcMode isType isRcMode =>
    exact ⟨outputDataType, rcMode, isType, isRcMode, isChosen⟩
  next => cases isChosen

theorem rcModeOf_isSome (outputDataType rcMode value : Text) :
    (rcModeOf outputDataType rcMode).isSome = (rcModeOf outputDataType value).isSome := by
  unfold rcModeOf
  split
  · rfl
  · split <;> rfl

theorem rate_holds (holds : Holds state.store values) (key : Key) (default : Int) :
    rate key default state.store = (readInt default (values 0 key)).map u32 := by
  unfold rate
  rw [getInt_holds holds]

/-- What `rk_video_set_RC_mode` fills is all that the mode has, or the rates fit. -/
theorem meets_iff_ratesFit (holds : Holds state.store values)
    (filled : fill layout mode 0 state.store setRcModeSettings
      { state.chnAttr 0 with enRcMode := some mode } = .ok attr) :
    (∀ setting ∈ pipe0Settings mode, Meets layout mode (values 0) attr setting) ↔
      RatesFit layout mode state := by
  obtain ⟨_, meets, others⟩ := fill_spec holds (by decide) filled
  unfold setRcModeSettings at meets
  simp only [List.forall_mem_cons] at meets
  obtain ⟨gop, bitRate, rates⟩ := meets
  have keptMax : attr.get layout mode .u32MaxBitRate =
      (state.chnAttr 0).get layout mode .u32MaxBitRate := others _ (by decide)
  have keptMin : attr.get layout mode .u32MinBitRate =
      (state.chnAttr 0).get layout mode .u32MinBitRate := others _ (by decide)
  unfold Meets at bitRate
  unfold pipe0Settings RatesFit
  simp only [rate_holds holds]
  split
  · simp only [List.forall_mem_cons, and_iff_right gop, and_iff_left rates]
    unfold Meets
    rw [bitRate]
    exact eq_comm
  · simp only [List.forall_mem_cons, and_iff_right gop, and_iff_left rates]
    unfold Meets
    rw [bitRate, ← keptMax, ← keptMin]
    exact and_congr_left fun _ => eq_comm

theorem setRcMode_follows_iff {value : Text} (holds : Holds state.store values)
    (tracks : Tracks layout (values 0) (state.chnAttr 0) mode)
    (ran : rkVideoSetRcMode layout 0 value state = .ok (ret, next)) :
    (∃ after, Holds next.store after) ∧
      (Follows layout next ↔ (Call.setRcMode 0 value).Harmless layout state) := by
  obtain ⟨outputDataType, rcMode, isType, _, isChosen⟩ := chosen_type tracks.chosen
  obtain ⟨read, isRead, outcome⟩ := setRcMode_cases ran
  have sameType : read = outputDataType := by
    unfold getText at isRead
    rw [getString_holds holds, isType] at isRead
    exact (Except.ok.inj isRead).symm
  rw [sameType] at outcome
  have harmless : (Call.setRcMode 0 value).Harmless layout state ↔
      ∀ mode, rcModeOf outputDataType value = some mode → RatesFit layout mode state := by
    unfold Call.Harmless
    rw [getString_holds holds, isType]
    constructor
    · exact fun all mode => all rfl outputDataType mode rfl
    · rintro all _ _ mode ⟨⟩
      exact all mode
  rw [harmless]
  obtain ⟨unsupported, _⟩ | ⟨found, attr, isMode, filled, isChnAttr, wrote⟩ := outcome
  · have supported := rcModeOf_isSome outputDataType rcMode value
    rw [isChosen, unsupported] at supported
    cases supported
  · have holdsNext := setString_holds holds wrote
    refine ⟨⟨_, holdsNext⟩, ?_⟩
    have isAttr : next.chnAttr 0 = attr := by rw [isChnAttr, Function.update_self]
    have isParams : (values.put 0 .rcMode value) 0 =
        Params.put (values 0) .rcMode value := Function.update_self ..
    have isNext : chosen (Params.put (values 0) .rcMode value) = some found := by
      unfold chosen Params.put
      rw [Function.update_of_ne (by decide), Function.update_self, isType]
      exact isMode
    have unread : ∀ setting ∈ pipe0Settings found,
        (Meets layout found (Params.put (values 0) .rcMode value) attr setting ↔
          Meets layout found (values 0) attr setting) := by
      intro setting member
      have notRcMode : ∀ setting ∈ pipe0Settings found, setting.key ≠ .rcMode := by
        cases found <;> decide
      unfold Meets Params.put
      rw [Function.update_of_ne (notRcMode setting member)]
    rw [follows_iff_tracks holdsNext, isParams, isAttr, isMode]
    have ratesFit := meets_iff_ratesFit holds filled
    constructor
    · rintro ⟨mode, tracksNext⟩ _ ⟨⟩
      obtain rfl : mode = found :=
        Option.some.inj (tracksNext.chosen.symm.trans isNext)
      exact ratesFit.mp fun setting member =>
        (unread setting member).mp (tracksNext.meets setting member)
    · intro fits
      have meets := ratesFit.mpr (fits found rfl)
      obtain ⟨isRcMode, _, _⟩ := fill_spec holds (by decide) filled
      exact ⟨found, isNext, isRcMode, fun setting member =>
        (unread setting member).mpr (meets setting member)⟩

theorem follows_of_tracked (tracked : Tracked layout state mode) :
    Follows layout state := by
  obtain ⟨values, holds, tracks⟩ := tracked
  exact (follows_iff_tracks holds).mpr ⟨mode, tracks⟩

/-- Where a restart would change nothing, a call keeps it so exactly if it is harmless. -/
theorem run_follows_iff {call : Call} (holds : Holds state.store values)
    (follows : Follows layout state) (ran : call.run layout state = .ok (ret, next)) :
    (∃ after, Holds next.store after) ∧
      (Follows layout next ↔ call.Harmless layout state) := by
  obtain ⟨mode, tracks⟩ := (follows_iff_tracks holds).mp follows
  have tracked : Tracked layout state mode := ⟨values, holds, tracks⟩
  have keeps : Tracked layout next mode → call.Harmless layout state →
      (∃ after, Holds next.store after) ∧
        (Follows layout next ↔ call.Harmless layout state) :=
    fun after harmless => ⟨⟨after.choose, after.choose_spec.1⟩,
      iff_of_true (follows_of_tracked after) harmless⟩
  cases call with
  | setGop streamId value | setMaxRate streamId value
  | setFrameRate streamId value num den =>
      exact keeps (run_tracked tracked (by rintro _ _ ⟨⟩) ran) trivial
  | setRcMode streamId value =>
      unfold Call.run at ran
      obtain rfl | isOther := eq_or_ne streamId 0
      · exact setRcMode_follows_iff holds tracks ran
      · refine keeps ?_ fun own => absurd own isOther
        obtain ⟨_, _, ⟨_, rfl⟩ | ⟨_, attr, _, _, isChnAttr, wrote⟩⟩ := setRcMode_cases ran
        · exact tracked
        · obtain ⟨store, chnAttr⟩ := next
          obtain rfl : chnAttr = _ := isChnAttr
          exact tracks.update (setString_holds holds wrote) fun own => absurd own isOther

theorem FollowsAll.follows {calls : List Call} (all : FollowsAll layout state calls) :
    Follows layout state := by
  cases calls with
  | nil => exact all
  | cons call calls => exact all.1

theorem followsAll_iff {calls : List Call} (holds : Holds state.store values)
    (follows : Follows layout state) :
    FollowsAll layout state calls ↔ HarmlessAll layout state calls := by
  induction calls generalizing state values with
  | nil => exact iff_of_true follows trivial
  | cons call calls induction =>
      constructor
      · rintro ⟨_, all⟩ ret next ran
        obtain ⟨⟨after, holdsNext⟩, step⟩ := run_follows_iff holds follows ran
        have followsNext := (all ret next ran).follows
        exact ⟨step.mp followsNext,
          (induction holdsNext followsNext).mp (all ret next ran)⟩
      · refine fun harmless => ⟨follows, fun ret next ran => ?_⟩
        obtain ⟨⟨after, holdsNext⟩, step⟩ := run_follows_iff holds follows ran
        obtain ⟨isHarmless, rest⟩ := harmless ret next ran
        exact (induction holdsNext (step.mpr isHarmless)).mpr rest

end Setters

/-- After `rkipc_pipe_0_init` under a configuration that was loaded, the attributes are
those of a restart all along exactly if every change of the mode is harmless. -/
theorem followsAll_iff_harmlessAll {layout : Layout} {file : Text} {d : Dictionary}
    {store : Store} {attr : VencChnAttr} {chnAttr : Int32 → VencChnAttr} {calls : List Call}
    (isLoaded : iniparserLoad file = some d) (live : store.dict = .ok (some d))
    (created : rkipcPipe0Init layout store = .ok (some attr)) (isChn : chnAttr 0 = attr) :
    FollowsAll layout ⟨store, chnAttr⟩ calls ↔ HarmlessAll layout ⟨store, chnAttr⟩ calls := by
  have holds : Holds store (valuesOf d) := ⟨d, live, sound_of_load isLoaded, rfl⟩
  refine followsAll_iff holds ⟨attr, created, ?_⟩
  dsimp only
  rw [isChn]
  exact ⟨rfl, fun _ _ _ _ => rfl⟩

section Examples

def words : Layout where
  offset _
    | .u32Gop => 0
    | .u32SrcFrameRateNum => 1
    | .u32SrcFrameRateDen => 2
    | .fr32DstFrameRateNum => 3
    | .fr32DstFrameRateDen => 4
    | .u32BitRate => 5
    | .u32MaxBitRate => 6
    | .u32MinBitRate => 7
  distinct _ field other same := by
    cases field <;> cases other <;> first | rfl | cases same

def vbrFile : Text :=
  ("[video.0]\noutput_data_type=H.264\nh264_profile=high\nrc_mode=VBR\n" ++
    "gop_mode=normalP\nsmart=close\nmax_rate=3072\nmid_rate=2048\n" ++
    "min_rate=1024\n").toList

theorem dict_started {file : Text} {d : Dictionary} (isLoaded : iniparserLoad file = some d) :
    ((Store.start (some file) none).load true).dict = .ok (some d) :=
  (Store.dict_load true).trans (congrArg Except.ok isLoaded)

def vbrStore : Store := (Store.start (some vbrFile) none).load true

/-- The start, a call that sets the mode to what it is, and a new start. -/
theorem vbr_runs : ∃ d attr ret next after, iniparserLoad vbrFile = some d ∧
    vbrStore.dict = .ok (some d) ∧ rkipcPipe0Init words vbrStore = .ok (some attr) ∧
      rkVideoSetRcMode words 0 "VBR".toList ⟨vbrStore, fun _ => attr⟩ = .ok (ret, next) ∧
        rkipcPipe0Init words next.store = .ok (some after) ∧
          after.enRcMode = some .h264Vbr ∧ after.get words .h264Vbr .u32BitRate = 2048 ∧
            (next.chnAttr 0).get words .h264Vbr .u32BitRate = 3072 := by
  have evaluated : (do
      let attr ← rkipcPipe0Init words vbrStore
      let (_, next) ← rkVideoSetRcMode words 0 "VBR".toList
        ⟨vbrStore, fun _ => attr.getD .zero⟩
      let after ← rkipcPipe0Init words next.store
      return ((iniparserLoad vbrFile).isSome && attr.isSome,
        after.map fun after => (after.enRcMode, after.get words .h264Vbr .u32BitRate),
        (next.chnAttr 0).get words .h264Vbr .u32BitRate)) =
      (.ok (true, some (some .h264Vbr, 2048), 3072) :
        Except Fault (Bool × Option (Option RcMode × UInt32) × UInt32)) := by
    decide +kernel
  obtain ⟨attr, created, evaluated⟩ := bind_eq_ok evaluated
  obtain ⟨⟨ret, next⟩, ran, evaluated⟩ := bind_eq_ok evaluated
  obtain ⟨after, computed, evaluated⟩ := bind_eq_ok evaluated
  simp only [pure, Except.pure, Except.ok.injEq, Prod.mk.injEq] at evaluated
  obtain ⟨succeeded, isAfter, isNext⟩ := evaluated
  obtain ⟨isLoaded, isCreated⟩ := Bool.and_eq_true_iff.mp succeeded
  obtain ⟨d, isLoaded⟩ := Option.isSome_iff_exists.mp isLoaded
  obtain ⟨attr, rfl⟩ := Option.isSome_iff_exists.mp isCreated
  obtain ⟨after, rfl, isFound⟩ := Option.map_eq_some_iff.mp isAfter
  obtain ⟨isMode, isRate⟩ := Prod.mk.inj isFound
  exact ⟨d, attr, ret, next, after, isLoaded, dict_started isLoaded, created, ran, computed,
    isMode, isRate, isNext⟩

/-- Calls that leave the mode alone. -/
theorem followsAll_iff_harmlessAll_vbr : ∃ attr,
    rkipcPipe0Init words vbrStore = .ok (some attr) ∧
      FollowsAll words ⟨vbrStore, fun _ => attr⟩
        [.setGop 0 50, .setMaxRate 0 4096, .setFrameRate 0 "25/2".toList 0 0] := by
  obtain ⟨d, attr, _, _, _, isLoaded, live, created, _⟩ := vbr_runs
  refine ⟨attr, created, (followsAll_iff_harmlessAll isLoaded live created rfl).mpr ?_⟩
  exact fun _ _ _ => ⟨trivial, fun _ _ _ => ⟨trivial, fun _ _ _ => ⟨trivial, trivial⟩⟩⟩

/-- The mode is set to what it is; the bit rate of the channel becomes the maximum. -/
theorem vbr_set_again : ∃ d attr, iniparserLoad vbrFile = some d ∧
    vbrStore.dict = .ok (some d) ∧ rkipcPipe0Init words vbrStore = .ok (some attr) ∧
      ¬ FollowsAll words ⟨vbrStore, fun _ => attr⟩ [.setRcMode 0 "VBR".toList] := by
  obtain ⟨d, attr, ret, next, after, isLoaded, live, created, ran, computed, isMode, isRate,
    isNext⟩ := vbr_runs
  refine ⟨d, attr, isLoaded, live, created, ?_⟩
  rintro ⟨_, all⟩
  obtain ⟨again, same, _, sameFields⟩ := all ret next ran
  obtain rfl : after = again := Option.some.inj (Except.ok.inj (computed.symm.trans same))
  have same := sameFields .h264Vbr isMode ⟨.u32BitRate, .midRate, 0⟩ (.tail _ (.head _))
  rw [isNext, isRate] at same
  exact absurd same (by decide)

end Examples

end Rkipc.Video.RateControl
