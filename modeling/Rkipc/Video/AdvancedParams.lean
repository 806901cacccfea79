import Rkipc.Libc.Store
import Rkipc.Param.Decimal
import Rkipc.Video.RateControl

namespace Rkipc.Video.AdvancedParams

open Ini Param RateControl

/-! The lists of numbers that the encoder channel gets from the stored parameters.  Of the
structures without a list only the reads of the parameters are here. -/

/-- An element of an array, as its bits. -/
abbrev Word := BitVec 32

inductive ListName
  | thrdI
  | thrdP
  | aqStepI
  | aqStepP
  | qbiasArr
  | aqRngeArr
deriving DecidableEq

namespace ListName

def key : ListName → Text
  | thrdI => "thrd_i".toList
  | thrdP => "thrd_p".toList
  | aqStepI => "aq_step_i".toList
  | aqStepP => "aq_step_p".toList
  | qbiasArr => "qbias_arr".toList
  | aqRngeArr => "aq_rnge_arr".toList

def default : ListName → Text
  | thrdI | thrdP => "0,0,0,0,3,3,5,5,8,8,8,15,15,20,25,25".toList
  | aqStepI | aqStepP => "-8,-7,-6,-5,-4,-3,-2,-1,0,1,2,3,4,7,8,9".toList
  | qbiasArr => "3,6,13,144,144,144,144,3,6,13,144,144,171,144,85,85,85,85".toList
  | aqRngeArr => "8,8,12,12,12,8,8,12,12,12".toList

/-- The number of elements of the array. -/
def size : ListName → Nat
  | thrdI | thrdP | aqStepI | aqStepP => 16
  | qbiasArr => 18
  | aqRngeArr => 10

theorem length_default (name : ListName) : (name.default.splitOn ',').length = name.size := by
  cases name <;> decide

end ListName

/-- The structures that hold the lists. -/
inductive Struct
  | rcParam2
  | qbias2
  | rcParam3
deriving DecidableEq

def Struct.lists : Struct → List ListName
  | rcParam2 => [.thrdI, .thrdP, .aqStepI, .aqStepP]
  | qbias2 => [.qbiasArr]
  | rcParam3 => [.aqRngeArr]

/-- The numbers that are read before the lists of the structure, with their defaults. -/
def Struct.numbers (codec : Codec) : Struct → List (String × Int)
  | rcParam2 =>
      [("frame_min_i_qp", 25), ("frame_min_qp", 26), ("frame_max_i_qp", 45),
        ("frame_max_qp", 48), ("enable_motion_deblur", 1), ("motion_deblur_strength", 5),
        ("enable_motion_static_switch", 0), ("enable_debreath_effect", 0),
        ("debreath_effect_strength", 16), ("scalinglist", 1)]
  | qbias2 =>
      [("qbias_enable", 1), ("qbias_i", 171), ("qbias_p", 85), ("flt_str_i", 0),
          ("flt_str_p", 0)] ++
        (if codec = .hevc then [("cu_dqp", 1)] else []) ++
        [("anti_ring", 3), ("anti_line", 3), ("lambda", if codec = .avc then 6 else 5),
          ("lambda_i", if codec = .avc then 6 else 5), ("atf_str", 2), ("static_frm_num", 0),
          ("madp16_th", 15), ("skip16_wgt", 15), ("skip32_wgt", 15), ("qbias_enable", 1)]
  | rcParam3 => []

/-- The numbers that are read behind the last list. -/
def lastNumbers (codec : Codec) : List (String × Int) :=
  ("lgt_chg_lvl", 0) ::
    (if codec = .hevc then [("tmvp_en", 0), ("sao_str_i", 0), ("sao_str_p", 0)] else []) ++
    [("speed", 1)]

/-- `snprintf(entry, 127, "video.%d:...", venc_chn_id)` -/
def chnEntry (vencChnId : Int32) (key : Text) : Text :=
  ("video.".toList ++ decimal vencChnId.toInt ++ ':' :: key).take 126

def atoi (nptr : Text) : Int :=
  let text := nptr.dropWhile isspace
  let (negative, text) :=
    match text with
    | '-' :: rest => (true, rest)
    | '+' :: rest => (false, rest)
    | text => (false, text)
  let val : Nat := Nat.ofDigitChars 10 (text.takeWhile Char.isDigit) 0
  clampLong (if negative then -val else val)

abbrev Elements := ListName → Nat → Option Word

/-- What is outside of the program: the elements that the driver gives, also when its call
fails, what it says to `RK_MPI_VENC_SetH264Qbias` or `RK_MPI_VENC_SetH265Qbias`, and whether
`strdup` has memory. -/
structure Outside where
  obtained : Elements
  setQbias : Int32
  strdup : ListName → Bool

/-- A structure as it is given to the driver. -/
structure Sent where
  struct : Struct
  elements : Elements

section Run

variable (outside : Outside) (vencChnId : Int32) (store : Store)

/-- The tokens of `strsep(&tmp, ",")`. -/
def tokens (name : ListName) : Except Fault (List Text) := do
  match ← rkParamGetString (chnEntry vencChnId name.key) (some name.default) store with
  | none => return []
  | some strings => return if outside.strdup name then strings.splitOn ',' else []

def number (token : Text) : Word := BitVec.ofInt 32 (atoi token)

def setList (name : ListName) (elements : Elements) : Except Fault Elements := do
  let items := (← tokens outside vencChnId store name).map fun token => some (number token)
  match Libc.fill name.size items 0 (elements name) with
  | none => throw .overflow
  | some list => return Function.update elements name list

def setLists : List ListName → Elements → Except Fault Elements
  | [], elements => .ok elements
  | name :: rest, elements => do
      setLists rest (← setList outside vencChnId store name elements)

def readNumbers : List (String × Int) → Except Fault Unit
  | [] => .ok ()
  | (key, default) :: rest => do
      let _ ← rkParamGetInt (chnEntry vencChnId key.toList) default store
      readNumbers rest

def setStruct (codec : Codec) (struct : Struct) : Except Fault Sent := do
  readNumbers vencChnId store (struct.numbers codec)
  return ⟨struct, ← setLists outside vencChnId store struct.lists outside.obtained⟩

/-- What is sent before the end, and how it ends. -/
def setStructs (codec : Codec) : List Struct → List Sent × Except Fault Int32
  | [] => ([], (readNumbers vencChnId store (lastNumbers codec)).map fun _ => outside.setQbias)
  | struct :: rest =>
      match setStruct outside vencChnId store codec struct with
      | .error fault => ([], .error fault)
      | .ok sent =>
          let (later, ended) := setStructs codec rest
          (sent :: later, ended)

def codecOf (outputDataType : Text) : Option Codec :=
  if outputDataType = "H.264".toList then some .avc
  else if outputDataType = "H.265".toList then some .hevc
  else none

def structs : List Struct := [.rcParam2, .qbias2, .rcParam3]

def outputDataType : Except Fault (Option Text) :=
  rkParamGetString (chnEntry vencChnId "output_data_type".toList) (some "H.265".toList) store

def rkipcSetAdvancedVencParams : List Sent × Except Fault Int32 :=
  match outputDataType vencChnId store with
  | .error fault => ([], .error fault)
  | .ok none => ([], .error .null)
  | .ok (some type) =>
      match codecOf type with
      | none => ([], .ok (-1))
      | some codec => setStructs outside vencChnId store codec structs

/-- The numbers of the list, and behind them what the driver gave. -/
def wanted (items : List Text) (obtained : Nat → Option Word) (i : Nat) : Option Word :=
  (items[i]?.map number).orElse fun _ => obtained i

/-- Every element is of the list or from the driver, and none was never obtained. -/
def Sent.Right (sent : Sent) : Prop :=
  ∀ name ∈ sent.struct.lists, ∃ items, tokens outside vencChnId store name = .ok items ∧
    ∀ i < name.size,
      sent.elements name i = wanted items (outside.obtained name) i ∧
      sent.elements name i ≠ none

/-- Nothing is written outside of the arrays, and what is sent is right. -/
def StaysInside (run : List Sent × Except Fault Int32) : Prop :=
  run.2 ≠ .error .overflow ∧ ∀ sent ∈ run.1, sent.Right outside vencChnId store

/-- The list is not longer than its array, and behind the list the driver gave every
element. -/
def Fills (name : ListName) : Prop :=
  ∃ items, tokens outside vencChnId store name = .ok items ∧ items.length ≤ name.size ∧
    ∀ i < name.size, items.length ≤ i → outside.obtained name i ≠ none

def readable (codec : Codec) (struct : Struct) : Bool :=
  (readNumbers vencChnId store (struct.numbers codec)).isOk

/-- The structures that the call comes to. -/
def reached (codec : Codec) : List Struct := structs.takeWhile (readable vencChnId store codec)

section Proofs

variable {outside : Outside} {vencChnId : Int32} {store : Store}

theorem getInt_ne_overflow (entry : Text) (default : Int) (store : Store) :
    rkParamGetInt entry default store ≠ .error .overflow := by
  unfold rkParamGetInt Store.dict iniparserGetnumber
  dsimp only [bind, Except.bind]
  grind

theorem outputDataType_ne_overflow :
    outputDataType vencChnId store ≠ .error .overflow := by
  unfold outputDataType rkParamGetString Store.dict
  dsimp only [bind, Except.bind, pure, Except.pure]
  grind

theorem readNumbers_ne_overflow {numbers : List (String × Int)} {fault : Fault}
    (died : readNumbers vencChnId store numbers = .error fault) : fault ≠ .overflow := by
  induction numbers with
  | nil => cases died
  | cons number rest induction =>
      obtain ⟨key, default⟩ := number
      have notOverflow := getInt_ne_overflow (chnEntry vencChnId key.toList) default store
      rw [readNumbers] at died
      cases read : rkParamGetInt (chnEntry vencChnId key.toList) default store with
      | error first =>
          rw [read] at died notOverflow
          cases died
          exact fun isOverflow => notOverflow (congrArg Except.error isOverflow)
      | ok val =>
          rw [read] at died
          exact induction died

theorem fills_of_default {name : ListName}
    (isDefault : tokens outside vencChnId store name = .ok (name.default.splitOn ',')) :
    Fills outside vencChnId store name := by
  have full := name.length_default
  exact ⟨_, isDefault, full.le, fun i below isBehind => absurd below (by omega)⟩

theorem tokens_total (outside : Outside) {type : Option Text}
    (isType : outputDataType vencChnId store = .ok type) (name : ListName) :
    ∃ items, tokens outside vencChnId store name = .ok items := by
  unfold outputDataType rkParamGetString at isType
  cases isDict : store.dict with
  | error fault =>
      rw [isDict] at isType
      cases isType
  | ok d =>
      unfold tokens rkParamGetString
      rw [isDict]
      dsimp only [bind, Except.bind, pure, Except.pure]
      split
      next => exact ⟨_, rfl⟩
      next => exact ⟨_, rfl⟩

section Lists

variable {items : ListName → List Text}
  (isItems : ∀ name, tokens outside vencChnId store name = .ok (items name))

include isItems

theorem setList_eq (name : ListName) (elements : Elements) :
    setList outside vencChnId store name elements =
      if (items name).length ≤ name.size then
        .ok (Function.update elements name (wanted (items name) (elements name)))
      else .error .overflow := by
  have isWanted : (fun i => (((items name).map fun token => some (number token))[i]?).getD
      (elements name i)) = wanted (items name) (elements name) := by
    funext i
    unfold wanted
    rw [List.getElem?_map]
    cases (items name)[i]? <;> rfl
  unfold setList
  rw [isItems]
  dsimp only [bind, Except.bind]
  rw [Libc.fill_zero, List.length_map, isWanted]
  by_cases fits : (items name).length ≤ name.size
  · rw [if_pos fits, if_pos fits]
    rfl
  · rw [if_neg fits, if_neg fits]
    rfl

theorem setLists_eq {names : List ListName} (distinct : names.Nodup) (elements : Elements) :
    setLists outside vencChnId store names elements =
      if ∀ name ∈ names, (items name).length ≤ name.size then
        .ok fun name =>
          if name ∈ names then wanted (items name) (elements name) else elements name
      else .error .overflow := by
  induction names generalizing elements with
  | nil => simp [setLists]
  | cons name rest induction =>
      obtain ⟨isNew, distinct⟩ := List.nodup_cons.mp distinct
      unfold setLists
      rw [setList_eq isItems]
      by_cases fits : (items name).length ≤ name.size
      · rw [if_pos fits]
        dsimp only [bind, Except.bind]
        rw [induction distinct]
        refine if_congr (by rw [List.forall_mem_cons, and_iff_right fits])
          (congrArg Except.ok (funext fun other => ?_)) rfl
        by_cases same : other = name
        · subst same
          rw [if_neg isNew, Function.update_self, if_pos List.mem_cons_self]
        · rw [Function.update_of_ne same]
          exact if_congr (List.mem_cons.trans (or_iff_right same)).symm rfl rfl
      · rw [if_neg fits, if_neg fun all => fits (all name List.mem_cons_self)]
        rfl

theorem fills_iff (name : ListName) : Fills outside vencChnId store name ↔
    (items name).length ≤ name.size ∧
      ∀ i < name.size, (items name).length ≤ i → outside.obtained name i ≠ none := by
  unfold Fills
  rw [isItems]
  constructor
  · rintro ⟨_, same, fills⟩
    cases same
    exact fills
  · exact fun fills => ⟨_, rfl, fills⟩

omit isItems in
theorem nodup_lists (struct : Struct) : struct.lists.Nodup := by
  cases struct <;> decide

theorem right_list {name : ListName} (fits : (items name).length ≤ name.size)
    {elements : Nat → Option Word}
    (isElements : elements = wanted (items name) (outside.obtained name)) :
    (∃ others, tokens outside vencChnId store name = .ok others ∧
        ∀ i < name.size, elements i = wanted others (outside.obtained name) i ∧
          elements i ≠ none) ↔
      Fills outside vencChnId store name := by
  have behind (i : Nat) : wanted (items name) (outside.obtained name) i ≠ none ↔
      ((items name).length ≤ i → outside.obtained name i ≠ none) := by
    unfold wanted
    by_cases isIn : i < (items name).length
    · rw [List.getElem?_eq_getElem isIn]
      exact iff_of_true nofun fun isBehind => absurd isBehind (Nat.not_le.mpr isIn)
    · rw [List.getElem?_eq_none (Nat.not_lt.mp isIn), imp_iff_right (Nat.not_lt.mp isIn)]
      rfl
  rw [fills_iff isItems, isItems, isElements, and_iff_right fits]
  constructor
  · rintro ⟨_, same, right⟩ i below
    cases same
    exact (behind i).mp (right i below).2
  · exact fun fills => ⟨_, rfl, fun i below => ⟨rfl, (behind i).mpr (fills i below)⟩⟩

/-- The step: a structure whose numbers can be read. -/
theorem staysInside_cons {codec : Codec} {struct : Struct} {rest : List Struct}
    (isReadable : readable vencChnId store codec struct = true) :
    StaysInside outside vencChnId store
        (setStructs outside vencChnId store codec (struct :: rest)) ↔
      (∀ name ∈ struct.lists, Fills outside vencChnId store name) ∧
        StaysInside outside vencChnId store (setStructs outside vencChnId store codec rest) := by
  have isSet : setStruct outside vencChnId store codec struct =
      (setLists outside vencChnId store struct.lists outside.obtained).map (⟨struct, ·⟩) := by
    unfold readable at isReadable
    unfold setStruct
    cases read : readNumbers vencChnId store (struct.numbers codec) with
    | error fault =>
        rw [read] at isReadable
        cases isReadable
    | ok done =>
        cases setLists outside vencChnId store struct.lists outside.obtained <;> rfl
  rw [setLists_eq isItems (nodup_lists struct)] at isSet
  rw [setStructs, isSet]
  by_cases fits : ∀ name ∈ struct.lists, (items name).length ≤ name.size
  · rw [if_pos fits]
    unfold StaysInside
    dsimp only [Except.map]
    rw [List.forall_mem_cons, and_left_comm]
    refine and_congr (forall₂_congr fun name isIn => ?_) Iff.rfl
    exact right_list isItems (fits name isIn) (if_pos isIn)
  · rw [if_neg fits]
    refine iff_of_false (fun inside => inside.1 rfl) fun both => fits fun name isIn => ?_
    exact ((fills_iff isItems name).mp (both.1 name isIn)).1

theorem staysInside_setStructs (codec : Codec) (structs : List Struct) :
    StaysInside outside vencChnId store (setStructs outside vencChnId store codec structs) ↔
      ∀ struct ∈ structs.takeWhile (readable vencChnId store codec),
        ∀ name ∈ struct.lists, Fills outside vencChnId store name := by
  induction structs with
  | nil =>
      refine iff_of_true ⟨fun isOverflow => ?_, nofun⟩ nofun
      rw [setStructs] at isOverflow
      cases read : readNumbers vencChnId store (lastNumbers codec) with
      | error fault =>
          rw [read] at isOverflow
          exact readNumbers_ne_overflow read (Except.error.inj isOverflow)
      | ok done =>
          rw [read] at isOverflow
          cases isOverflow
  | cons struct rest induction =>
      cases isReadable : readable vencChnId store codec struct with
      | true =>
          rw [staysInside_cons isItems isReadable, induction,
            List.takeWhile_cons_of_pos isReadable, List.forall_mem_cons]
      | false =>
          rw [List.takeWhile_cons_of_neg (by rw [isReadable]; exact Bool.false_ne_true)]
          refine iff_of_true ?_ nofun
          unfold readable at isReadable
          rw [setStructs, setStruct]
          cases read : readNumbers vencChnId store (struct.numbers codec) with
          | error fault =>
              refine ⟨fun isOverflow => ?_, nofun⟩
              exact readNumbers_ne_overflow read (Except.error.inj isOverflow)
          | ok done =>
              rw [read] at isReadable
              cases isReadable

end Lists

end Proofs

/-- The lists stay inside exactly when each one that the call comes to fills its array,
together with what the driver gave. -/
theorem staysInside_iff :
    StaysInside outside vencChnId store (rkipcSetAdvancedVencParams outside vencChnId store) ↔
      ∀ type codec, outputDataType vencChnId store = .ok (some type) →
        codecOf type = some codec →
        ∀ struct ∈ reached vencChnId store codec, ∀ name ∈ struct.lists,
          Fills outside vencChnId store name := by
  unfold rkipcSetAdvancedVencParams
  cases isType : outputDataType vencChnId store with
  | error fault =>
      refine iff_of_true ⟨fun isOverflow => ?_, nofun⟩ nofun
      cases isOverflow
      exact outputDataType_ne_overflow isType
  | ok type? =>
      cases type? with
      | none => exact iff_of_true ⟨nofun, nofun⟩ nofun
      | some type =>
          dsimp only
          cases isCodec : codecOf type with
          | none =>
              refine iff_of_true ⟨nofun, nofun⟩ fun other codec same isOther => ?_
              cases same
              rw [isCodec] at isOther
              cases isOther
          | some codec =>
              choose items isItems using tokens_total outside isType
              refine (staysInside_setStructs isItems codec structs).trans ?_
              constructor
              · intro fills other otherCodec same isOther
                cases same
                rw [isCodec] at isOther
                cases isOther
                exact fills
              · exact fun fills => fills type codec rfl isCodec

end Run

def answering : Outside := ⟨fun _ _ => some 0, 0, fun _ => true⟩

/-- A configuration with a list of 17 numbers. -/
def seventeen : Store :=
  ⟨[some (iniparserSet (dictionaryNew 0) "video.0:thrd_i".toList
    (some "0,0,0,0,3,3,5,5,8,8,8,15,15,20,25,25,30".toList))], some 0, none, none⟩

/-- The last number is written behind the array. -/
theorem seventeen_leaves :
    ¬ StaysInside answering 0 seventeen (rkipcSetAdvancedVencParams answering 0 seventeen) := by
  have fault : (rkipcSetAdvancedVencParams answering 0 seventeen).2 = .error .overflow := by
    decide +kernel
  exact fun inside => inside.1 fault

end Rkipc.Video.AdvancedParams
