import Rkipc.Param.SaveReload

namespace Rkipc.Param

open Ini

/-! Sequences of calls that add and delete users. -/

def rkSystemGetUserLevel (id : Int) (store : Store) : Except Fault Int :=
  rkParamGetInt (userEntry id ":user_level".toList) (-1) store

def rkSystemGetUserName (id : Int) (store : Store) : Except Fault (Option Text) :=
  rkParamGetString (userEntry id ":user_name".toList) none store

def rkSystemGetPassword (id : Int) (store : Store) : Except Fault (Option Text) :=
  rkParamGetString (userEntry id ":password".toList) none store

structure User where
  level : Int
  name : Option Text
  password : Option Text
deriving DecidableEq

def User.nobody : User := ⟨-1, none, none⟩

def userOf (store : Store) (id : Int32) : Except Fault User := do
  return ⟨← rkSystemGetUserLevel id.toInt store,
    ← rkSystemGetUserName id.toInt store, ← rkSystemGetPassword id.toInt store⟩

/-- `opened` is the outcome of the `fopen` in the save at the end of the call. -/
inductive UserCall
  | add (id userLevel : Int32) (userName password : Text) (opened : Bool)
  | del (id : Int32) (opened : Bool)

namespace UserCall

def id : UserCall → Int32
  | .add id _ _ _ _ | .del id _ => id

def opened : UserCall → Bool
  | .add _ _ _ _ opened | .del _ opened => opened

def Adds : UserCall → Prop
  | .add _ _ _ _ _ => True
  | .del _ _ => False

def run (call : UserCall) (store : Store) : Except Fault Store :=
  match call with
  | .add id userLevel userName password opened =>
      (rkSystemAddUser id.toInt userLevel.toInt userName password opened store).map
        Prod.snd
  | .del id opened => (rkSystemDelUser id.toInt opened store).map Prod.snd

def count (call : UserCall) (userNum : Int) : Int :=
  match call with
  | .add _ _ _ _ _ => userNum + 1
  | .del _ _ => userNum - 1

end UserCall

def runUsers : List UserCall → Store → Except Fault Store
  | [], store => .ok store
  | call :: calls, store => do runUsers calls (← call.run store)

/-- Every number that is written has at most seven characters; a save that fails leaves
nothing to write to. -/
def Counts : Int → List UserCall → Prop
  | _, [] => True
  | userNum, call :: calls =>
      (decimal (call.count userNum)).length < 8 ∧
        (call.opened = true → Counts (call.count userNum) calls)

/-! The entries of a user, and what a call does to them. -/

inductive UserField
  | section
  | level
  | name
  | password
deriving DecidableEq

def UserField.text : UserField → Text
  | .section => []
  | .level => ":user_level".toList
  | .name => ":user_name".toList
  | .password => ":password".toList

def UserField.length : UserField → Nat
  | .section => 0
  | .level => 11
  | .name => 10
  | .password => 9

theorem UserField.length_text (field : UserField) : field.text.length = field.length := by
  cases field <;> rfl

theorem UserField.text_injective {field other : UserField}
    (same : field.text = other.text) : field = other := by
  have lengths := congrArg List.length same
  rw [field.length_text, other.length_text] at lengths
  cases field <;> cases other <;> first | rfl | cases lengths

def userKey (id : Int32) (field : UserField) : Text := userEntry id.toInt field.text

abbrev UserFields := Int32 → UserField → Option (Option Text)

def fieldsOf (d : Dictionary) : UserFields :=
  fun id field => dictionaryFind d (userKey id field)

def UserCall.effect (call : UserCall) (fields : UserFields) : UserFields :=
  fun id field =>
    match call with
    | .add added userLevel userName password _ =>
        if id = added then
          match field with
          | .section => some none
          | .level => some (some ((decimal userLevel.toInt).take 1))
          | .name => some (some userName)
          | .password => some (some password)
        else fields id field
    | .del deleted _ =>
        if id = deleted ∧ field = .section then none else fields id field

section Keys

theorem int32_bounds (id : Int32) : -2147483648 ≤ id.toInt ∧ id.toInt ≤ 2147483647 := by
  have low := id.le_toInt
  have high := id.toInt_lt
  omega

theorem userKey_eq (id : Int32) (field : UserField) :
    userKey id field = "user.".toList ++ decimal id.toInt ++ field.text := by
  obtain ⟨low, high⟩ := int32_bounds id
  have number := length_decimal low high
  have text : field.text.length ≤ 11 := by
    rw [field.length_text]
    cases field <;> decide
  have user : "user.".toList.length = 5 := rfl
  unfold userKey userEntry
  apply List.take_of_length_le
  simp only [List.length_append]
  omega

theorem noColon_decimal {val : Int} {char : Char} (member : char ∈ decimal val) :
    char ≠ ':' := by
  have digit : ∀ {n : Nat}, char ∈ Nat.toDigits 10 n → char ≠ ':' :=
    fun inside => (digit_plain (digits_isDigit inside)).1
  unfold decimal at member
  split at member
  · obtain rfl | inside := List.mem_cons.mp member
    · decide
    · exact digit inside
  · exact digit member

theorem userKey_inj {id other : Int32} {field otherField : UserField} :
    userKey id field = userKey other otherField ↔ id = other ∧ field = otherField := by
  constructor
  · intro same
    rw [userKey_eq, userKey_eq, List.append_assoc, List.append_assoc] at same
    have stops : ∀ (field : UserField), ∀ char ∈ field.text.head?, ¬ char ≠ ':' := by
      intro field char isFirst
      cases field <;> cases isFirst <;> exact not_not_intro rfl
    obtain ⟨numbers, texts⟩ := append_inj_of_stops (p := (· ≠ ':'))
      (fun _ => noColon_decimal) (fun _ => noColon_decimal) (stops field) (stops otherField)
      (List.append_cancel_left same)
    exact ⟨Int32.toInt_inj.mp (decimal_injective numbers), UserField.text_injective texts⟩
  · rintro ⟨rfl, rfl⟩
    rfl

theorem userKey_ne_userNum (id : Int32) (field : UserField) :
    userKey id field ≠ userNumEntry := by
  rw [userKey_eq]
  intro same
  have first := congrArg List.head? same
  rw [List.append_assoc, List.head?_append_of_ne_nil _ (by decide)] at first
  exact absurd first (by decide)

theorem toLower_decimal (val : Int) : (decimal val).map Char.toLower = decimal val := by
  have digits : ∀ n, (Nat.toDigits 10 n).map Char.toLower = Nat.toDigits 10 n :=
    fun n => (List.map_congr_left fun char member =>
      (digit_plain (digits_isDigit member)).2.2.2).trans (List.map_id _)
  unfold decimal
  split
  · rw [List.map_cons, digits]
    rfl
  · exact digits _

theorem strlwc_userKey (id : Int32) (field : UserField) :
    strlwc (userKey id field) 1025 = userKey id field := by
  have short : (userKey id field).length ≤ 126 := List.length_take_le _ _
  apply strlwc_eq_self _ (by omega)
  rw [userKey_eq, List.map_append, List.map_append, toLower_decimal]
  cases field <;> rfl

end Keys

theorem number_congr {d e : Dictionary}
    (same : dictionaryFind e userNumEntry = dictionaryFind d userNumEntry) :
    iniparserGetnumber strtol (some e) userNumEntry 1 =
      iniparserGetnumber strtol (some d) userNumEntry 1 := by
  have lowered : strlwc userNumEntry 1025 = userNumEntry := by decide
  unfold iniparserGetnumber
  rw [Option.bind_some, Option.bind_some, lowered, same]

/-- The store has a dictionary with these entries of users and this number. -/
def Holds (store : Store) (fields : UserFields) (userNum : Int) : Prop :=
  ∃ d : Dictionary, store.dict = .ok (some d) ∧ d.Sound ∧ fieldsOf d = fields ∧
    iniparserGetnumber strtol (some d) userNumEntry 1 = .ok userNum

section Writes

variable {d : Dictionary}

theorem set_userKey (sound : d.Sound) (id : Int32) (field : UserField)
    (val : Option Text) :
    (iniparserSet d (userKey id field) val).Sound ∧
      dictionaryFind (iniparserSet d (userKey id field) val) userNumEntry =
        dictionaryFind d userNumEntry ∧
      fieldsOf (iniparserSet d (userKey id field) val) = fun other otherField =>
        if other = id ∧ otherField = field then some val
        else fieldsOf d other otherField := by
  unfold iniparserSet fieldsOf
  rw [strlwc_userKey, find_set sound]
  refine ⟨(set_spec sound _ _).1,
    Function.update_of_ne (userKey_ne_userNum id field).symm _ _, ?_⟩
  funext other otherField
  rw [Function.update_apply]
  exact if_congr userKey_inj rfl rfl

theorem set_user (sound : d.Sound) (id userLevel : Int32) (userName password : Text)
    (opened : Bool) :
    let e := Write.applyAll d
      (Change.addUser id.toInt userLevel.toInt userName password opened).first
    e.Sound ∧ dictionaryFind e userNumEntry = dictionaryFind d userNumEntry ∧
      fieldsOf e =
        (UserCall.add id userLevel userName password opened).effect (fieldsOf d) := by
  obtain ⟨soundUser, numUser, user⟩ := set_userKey sound id .section none
  obtain ⟨soundLevel, numLevel, level⟩ := set_userKey soundUser id .level
    (some ((decimal userLevel.toInt).take 1))
  obtain ⟨soundName, numName, name⟩ := set_userKey soundLevel id .name (some userName)
  obtain ⟨soundAll, numAll, all⟩ := set_userKey soundName id .password (some password)
  refine ⟨soundAll, numAll.trans (numName.trans (numLevel.trans numUser)), ?_⟩
  refine all.trans ?_
  rw [name, level, user]
  funext other field
  unfold UserCall.effect
  dsimp only
  by_cases isUser : other = id
  · cases field <;> simp [isUser]
  · simp [isUser]

theorem unset_user (sound : d.Sound) (id : Int32) (opened : Bool) :
    let e := iniparserUnset d (userKey id .section)
    e.Sound ∧ dictionaryFind e userNumEntry = dictionaryFind d userNumEntry ∧
      fieldsOf e = (UserCall.del id opened).effect (fieldsOf d) := by
  unfold iniparserUnset fieldsOf
  dsimp only
  rw [strlwc_userKey, find_unset sound]
  refine ⟨(unset_spec sound _).1,
    Function.update_of_ne (userKey_ne_userNum id _).symm _ _, ?_⟩
  funext other field
  rw [Function.update_apply]
  exact if_congr userKey_inj rfl rfl

theorem set_userNum (sound : d.Sound) {userNum : Int}
    (short : (decimal userNum).length < 8) :
    let e := iniparserSet d userNumEntry (some (decimal userNum))
    e.Sound ∧ fieldsOf e = fieldsOf d ∧
      iniparserGetnumber strtol (some e) userNumEntry 1 = .ok userNum := by
  have lowered : strlwc userNumEntry 1025 = userNumEntry := by decide
  obtain ⟨low, high⟩ := bounds_of_length short
  unfold iniparserSet iniparserGetnumber fieldsOf
  dsimp only
  rw [lowered, Option.bind_some, find_set sound, Function.update_self]
  refine ⟨(set_spec sound _ _).1, ?_, congrArg Except.ok (strtol_decimal low high)⟩
  funext id field
  exact Function.update_of_ne (userKey_ne_userNum id field) _ _

end Writes

section Runs

variable {store : Store} {d : Dictionary} {fields : UserFields} {userNum : Int}

theorem write_next (live : store.dict = .ok (some d)) (change : Dictionary → Dictionary) :
    ∃ next, store.write change = .ok next ∧ next.dict = .ok (some (change d)) :=
  ⟨_, Store.write_live live change, Store.dict_put live _⟩

/-- What a call leaves: the effect and the number, or no dictionary after a save that
failed. -/
def Leaves (call : UserCall) (fields : UserFields) (userNum : Int) (after : Store) :
    Prop :=
  if call.opened then Holds after (call.effect fields) (call.count userNum)
  else after.dict = .ok none

theorem saveUserNum_spec (call : UserCall) (live : store.dict = .ok (some d))
    (sound : d.Sound)
    (isNum : iniparserGetnumber strtol (some d) userNumEntry 1 = .ok userNum) :
    let result := (do
      let userNum ← rkSystemGetUserNum store
      let store ← rkSystemSetUserNum (call.count userNum) store
      let (_, store) ← rkParamSave call.opened store
      return (0, store) : Except Fault (Int × Store)).map Prod.snd
    ((decimal (call.count userNum)).length < 8 → ∃ after, result = .ok after ∧
      if call.opened then Holds after (fieldsOf d) (call.count userNum)
      else after.dict = .ok none) ∧
    (¬ (decimal (call.count userNum)).length < 8 → result = .error .overflow) := by
  have num : rkSystemGetUserNum store = .ok userNum := by
    unfold rkSystemGetUserNum rkParamGetInt
    rw [live]
    exact isNum
  have written := Store.write_live live fun d =>
    iniparserSet d userNumEntry (some (decimal (call.count userNum)))
  have liveSet := Store.dict_put live
    (some (iniparserSet d userNumEntry (some (decimal (call.count userNum)))))
  dsimp only
  rw [num]
  dsimp only [bind, Except.bind]
  unfold rkSystemSetUserNum rkParamSetInt rkParamSetString
  rw [written]
  dsimp only [bind, Except.bind]
  constructor
  · intro short
    rw [if_pos short]
    dsimp only [pure, Except.pure]
    obtain ⟨soundSet, fieldsSet, numSet⟩ := set_userNum sound short
    cases opened : call.opened with
    | true =>
        rw [save_opened liveSet]
        exact ⟨_, rfl, _, liveSet, soundSet, fieldsSet, numSet⟩
    | false =>
        obtain ⟨after, failed, isNull, _⟩ := save_failed liveSet
        rw [failed]
        exact ⟨after, rfl, isNull⟩
  · intro long
    rw [if_neg long]
    rfl

theorem run_holds (holds : Holds store fields userNum) (call : UserCall) :
    ((decimal (call.count userNum)).length < 8 →
      ∃ after, call.run store = .ok after ∧ Leaves call fields userNum after) ∧
    (¬ (decimal (call.count userNum)).length < 8 →
      call.run store = .error .overflow) := by
  obtain ⟨d, live, sound, rfl, isNum⟩ := holds
  unfold Leaves
  cases call with
  | add id userLevel userName password opened =>
      obtain ⟨soundAll, numAll, fieldsAll⟩ :=
        set_user sound id userLevel userName password opened
      obtain ⟨user, isUser, liveUser⟩ := write_next live fun d =>
        iniparserSet d (userEntry id.toInt []) none
      obtain ⟨level, isLevel, liveLevel⟩ := write_next liveUser fun d =>
        iniparserSet d (userEntry id.toInt ":user_level".toList)
          (some ((decimal userLevel.toInt).take 1))
      obtain ⟨name, isName, liveName⟩ := write_next liveLevel fun d =>
        iniparserSet d (userEntry id.toInt ":user_name".toList) (some userName)
      obtain ⟨all, isAll, liveAll⟩ := write_next liveName fun d =>
        iniparserSet d (userEntry id.toInt ":password".toList) (some password)
      have tail := saveUserNum_spec (.add id userLevel userName password opened)
        liveAll soundAll ((number_congr numAll).trans isNum)
      rw [← fieldsAll]
      unfold UserCall.run rkSystemAddUser
      dsimp only
      rw [isUser]
      dsimp only [bind, Except.bind]
      rw [isLevel]
      dsimp only
      rw [isName]
      dsimp only
      rw [isAll]
      exact tail
  | del id opened =>
      obtain ⟨soundAll, numAll, fieldsAll⟩ := unset_user sound id opened
      obtain ⟨all, isAll, liveAll⟩ := write_next live fun d =>
        iniparserUnset d (userEntry id.toInt [])
      have tail := saveUserNum_spec (.del id opened) liveAll soundAll
        ((number_congr numAll).trans isNum)
      rw [← fieldsAll]
      unfold UserCall.run rkSystemDelUser
      dsimp only
      rw [isAll]
      exact tail

theorem run_null (null : store.dict = .ok none) (call : UserCall) :
    ∃ after, call.run store = .ok after ∧ after.dict = .ok none := by
  have written : ∀ change, store.write change = .ok store := by
    intro change
    unfold Store.write
    rw [null]
    rfl
  have num : rkSystemGetUserNum store = .ok 1 := by
    unfold rkSystemGetUserNum rkParamGetInt
    rw [null]
    rfl
  have set : ∀ val, (decimal val).length < 8 → rkSystemSetUserNum val store = .ok store := by
    intro val short
    unfold rkSystemSetUserNum rkParamSetInt rkParamSetString
    rw [written]
    dsimp only [bind, Except.bind]
    rw [if_pos short]
    rfl
  have saved : ∀ opened, ∃ code after, rkParamSave opened store = .ok (code, after) ∧
      after.dict = .ok none := by
    intro opened
    cases opened with
    | true => exact ⟨_, _, save_opened null, null⟩
    | false =>
        obtain ⟨after, failed, isNull, _⟩ := save_failed null
        exact ⟨-1, after, failed, isNull⟩
  obtain ⟨code, after, isSaved, isNull⟩ := saved call.opened
  refine ⟨after, ?_, isNull⟩
  cases call with
  | add id userLevel userName password opened =>
      have isSaved : rkParamSave opened store = .ok (code, after) := isSaved
      simp only [UserCall.run, rkSystemAddUser, written, num, bind, Except.bind,
        set (1 + 1) (by decide), isSaved, pure, Except.pure, Except.map]
  | del id opened =>
      have isSaved : rkParamSave opened store = .ok (code, after) := isSaved
      simp only [UserCall.run, rkSystemDelUser, written, num, bind, Except.bind,
        set (1 - 1) (by decide), isSaved, pure, Except.pure, Except.map]

theorem runUsers_null (null : store.dict = .ok none) (calls : List UserCall) :
    ∃ after, runUsers calls store = .ok after ∧ after.dict = .ok none := by
  induction calls generalizing store with
  | nil => exact ⟨store, rfl, null⟩
  | cons call calls induction =>
      obtain ⟨next, isNext, isNull⟩ := run_null null call
      obtain ⟨after, isAfter, isDict⟩ := induction isNull
      refine ⟨after, ?_, isDict⟩
      unfold runUsers
      rw [isNext]
      exact isAfter

theorem runUsers_holds (holds : Holds store fields userNum) (calls : List UserCall) :
    (Counts userNum calls → ∃ after, runUsers calls store = .ok after ∧
      ((∀ call ∈ calls, call.opened = true) ∧
          Holds after (calls.foldl (fun fields call => call.effect fields) fields)
            (calls.foldl (fun userNum call => call.count userNum) userNum) ∨
        (∃ call ∈ calls, call.opened = false) ∧ after.dict = .ok none)) ∧
    (¬ Counts userNum calls → ∃ fault, runUsers calls store = .error fault) := by
  induction calls generalizing store fields userNum with
  | nil => exact ⟨fun _ => ⟨store, rfl, .inl ⟨by simp, holds⟩⟩, fun not => absurd trivial not⟩
  | cons call calls induction =>
      obtain ⟨fits, overflows⟩ := run_holds holds call
      by_cases short : (decimal (call.count userNum)).length < 8
      · obtain ⟨next, isNext, leaves⟩ := fits short
        have rest : runUsers (call :: calls) store = runUsers calls next := by
          show (do runUsers calls (← call.run store)) = _
          rw [isNext]
          rfl
        rw [rest]
        unfold Leaves at leaves
        cases opened : call.opened with
        | true =>
            rw [opened, if_pos rfl] at leaves
            obtain ⟨counted, notCounted⟩ := induction leaves
            constructor
            · rintro ⟨_, counts⟩
              obtain ⟨after, isAfter, ended⟩ := counted (counts opened)
              refine ⟨after, isAfter, ended.imp ?_ ?_⟩
              · rintro ⟨all, holdsAfter⟩
                exact ⟨List.forall_mem_cons.mpr ⟨opened, all⟩, holdsAfter⟩
              · rintro ⟨⟨other, member, failed⟩, isNull⟩
                exact ⟨⟨other, List.mem_cons_of_mem _ member, failed⟩, isNull⟩
            · intro not
              exact notCounted fun counts => not ⟨short, fun _ => counts⟩
        | false =>
            rw [opened, if_neg (by decide)] at leaves
            obtain ⟨after, isAfter, isNull⟩ := runUsers_null leaves calls
            constructor
            · rintro _
              exact ⟨after, isAfter, .inr ⟨⟨call, List.mem_cons_self .., opened⟩,
                isNull⟩⟩
            · intro not
              exact absurd ⟨short, fun isOpened => by rw [opened] at isOpened; cases isOpened⟩
                not
      · constructor
        · rintro ⟨fit, _⟩
          exact absurd fit short
        · intro _
          refine ⟨.overflow, ?_⟩
          show (do runUsers calls (← call.run store)) = _
          rw [overflows short]
          rfl

end Runs

end Rkipc.Param
