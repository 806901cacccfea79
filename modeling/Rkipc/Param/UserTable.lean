import Mathlib.Data.FinEnum
import Mathlib.Data.Set.Card
import Rkipc.Param.Users

namespace Rkipc.Param

open Ini

/-! The table of users as a finite map, and the number of users. -/

/-- What the calls are meant to do to the table. -/
def UserCall.expect (call : UserCall) (users : Int32 → User) : Int32 → User :=
  match call with
  | .add id userLevel userName password _ =>
      Function.update users id ⟨userLevel.toInt, some userName, some password⟩
  | .del id _ => Function.update users id .nobody

def expected (users : Int32 → User) (calls : List UserCall) : Int32 → User :=
  calls.foldl (fun users call => call.expect users) users

/-- A store whose dictionary the getters can read. -/
structure UserTable (store : Store) where
  d : Dictionary
  live : store.dict = .ok (some d)
  sound : d.Sound
  users : Int32 → User
  reads : ∀ id, userOf store id = .ok (users id)
  userNum : Int
  readsNum : rkSystemGetUserNum store = .ok userNum

def lastCall (calls : List UserCall) (id : Int32) : Option UserCall :=
  calls.reverse.find? fun call => call.id = id

/-- A level of one digit survives its buffer of two characters; a user who is deleted
must have had no entries. -/
def Right (users : Int32 → User) (calls : List UserCall) (id : Int32) : Prop :=
  match lastCall calls id with
  | none => True
  | some (.add _ userLevel _ _ _) => 0 ≤ userLevel.toInt ∧ userLevel.toInt ≤ 9
  | some (.del _ _) =>
      users id = .nobody ∧ ∀ call ∈ calls, call.id = id → ¬ call.Adds

section Fields

def readLevel : Option (Option Text) → Except Fault Int
  | none => .ok (-1)
  | some none => .error .null
  | some (some text) => .ok (strtol text)

def readUser (fields : UserField → Option (Option Text)) : Except Fault User :=
  (readLevel (fields .level)).map fun level =>
    ⟨level, (fields .name).getD none, (fields .password).getD none⟩

theorem userOf_live {store : Store} {d : Dictionary}
    (live : store.dict = .ok (some d)) (id : Int32) :
    userOf store id = readUser (fieldsOf d id) := by
  have level : rkSystemGetUserLevel id.toInt store =
      readLevel (fieldsOf d id .level) := by
    unfold rkSystemGetUserLevel rkParamGetInt
    rw [live]
    show iniparserGetnumber strtol (some d) (userKey id .level) (-1) = _
    unfold iniparserGetnumber
    rw [Option.bind_some, strlwc_userKey]
    show _ = readLevel (dictionaryFind d (userKey id .level))
    cases dictionaryFind d (userKey id .level) with
    | none => rfl
    | some val => cases val <;> rfl
  have name : rkSystemGetUserName id.toInt store =
      .ok ((fieldsOf d id .name).getD none) := by
    unfold rkSystemGetUserName rkParamGetString
    rw [live]
    show Except.ok (dictionaryGet d (strlwc (userKey id .name) 1025) none) = _
    rw [strlwc_userKey]
    rfl
  have password : rkSystemGetPassword id.toInt store =
      .ok ((fieldsOf d id .password).getD none) := by
    unfold rkSystemGetPassword rkParamGetString
    rw [live]
    show Except.ok (dictionaryGet d (strlwc (userKey id .password) 1025) none) = _
    rw [strlwc_userKey]
    rfl
  unfold userOf readUser
  rw [level, name, password]
  cases readLevel (fieldsOf d id .level) <;> rfl

theorem userOf_null {store : Store} (null : store.dict = .ok none) (id : Int32) :
    userOf store id = .ok .nobody := by
  unfold userOf rkSystemGetUserLevel rkSystemGetUserName rkSystemGetPassword
    rkParamGetInt rkParamGetString
  rw [null]
  rfl

theorem readUser_name {fields : UserField → Option (Option Text)} {user : User}
    (reads : readUser fields = .ok user) : user.name = (fields .name).getD none := by
  unfold readUser at reads
  cases isLevel : readLevel (fields .level) with
  | error fault =>
      rw [isLevel] at reads
      cases reads
  | ok level =>
      rw [isLevel] at reads
      cases reads
      rfl

theorem readUser_congr {fields other : UserField → Option (Option Text)}
    (same : ∀ field, field ≠ .section → fields field = other field) :
    readUser fields = readUser other := by
  unfold readUser
  rw [same .level nofun, same .name nofun, same .password nofun]

variable (calls : List UserCall) (fields : UserFields) (id : Int32)

def fieldsAfter : UserFields :=
  calls.foldl (fun fields call => call.effect fields) fields

variable {calls fields id}

theorem readUser_added (fields : UserFields) (id userLevel : Int32)
    (userName password : Text) (opened : Bool) :
    readUser ((UserCall.add id userLevel userName password opened).effect fields id) =
      .ok ⟨strtol ((decimal userLevel.toInt).take 1), some userName, some password⟩ := by
  simp [readUser, readLevel, UserCall.effect, Except.map]

theorem effect_other {call : UserCall} (other : call.id ≠ id) :
    call.effect fields id = fields id := by
  funext field
  cases call with
  | add added userLevel userName password opened => exact if_neg (Ne.symm other)
  | del deleted opened => exact if_neg fun same => other same.1.symm

variable (id) in
theorem effect_del (fields : UserFields) {call : UserCall} (deletes : ¬ call.Adds)
    {field : UserField} (notSection : field ≠ .section) :
    call.effect fields id field = fields id field := by
  cases call with
  | add added userLevel userName password opened => exact absurd trivial deletes
  | del deleted opened => exact if_neg fun same => notSection same.2

theorem fieldsAfter_of_noAdds (fields : UserFields)
    (noAdds : ∀ call ∈ calls, call.id = id → ¬ call.Adds)
    {field : UserField} (notSection : field ≠ .section) :
    fieldsAfter calls fields id field = fields id field := by
  induction calls generalizing fields with
  | nil => rfl
  | cons call calls induction =>
      obtain ⟨first, rest⟩ := List.forall_mem_cons.mp noAdds
      refine (induction (call.effect fields) rest).trans ?_
      by_cases same : call.id = id
      · exact effect_del _ fields (first same) notSection
      · exact congrFun (effect_other same) field

theorem fieldsAfter_name (fields : UserFields)
    (adds : ∃ call ∈ calls, call.id = id ∧ call.Adds) :
    ∃ text, fieldsAfter calls fields id .name = some (some text) := by
  have keeps : ∀ (rest : List UserCall) (fields : UserFields),
      (∃ text, fields id .name = some (some text)) →
      ∃ text, fieldsAfter rest fields id .name = some (some text) := by
    intro rest
    induction rest with
    | nil => exact fun _ named => named
    | cons call rest induction =>
        rintro fields ⟨text, named⟩
        apply induction
        by_cases same : call.id = id
        · cases call with
          | add added userLevel userName password opened =>
              exact ⟨userName, if_pos same.symm⟩
          | del deleted opened =>
              have deletes : ¬ (UserCall.del deleted opened).Adds := fun adds => adds
              have notSection : UserField.name ≠ .section := nofun
              exact ⟨text, (effect_del _ fields deletes notSection).trans named⟩
        · exact ⟨text, (congrFun (effect_other same) _).trans named⟩
  induction calls generalizing fields with
  | nil =>
      obtain ⟨_, member, _⟩ := adds
      cases member
  | cons call calls induction =>
      obtain ⟨adding, member, isUser, isAdd⟩ := adds
      obtain rfl | member := List.mem_cons.mp member
      · apply keeps calls (adding.effect fields)
        cases adding with
        | add added userLevel userName password opened =>
            exact ⟨userName, if_pos isUser.symm⟩
        | del deleted opened => exact isAdd.elim
      · exact induction (call.effect fields) ⟨adding, member, isUser, isAdd⟩

end Fields

section Lookup

variable {calls : List UserCall} {call : UserCall} {id : Int32} {users : Int32 → User}

theorem lastCall_same (same : call.id = id) :
    lastCall (calls ++ [call]) id = some call := by
  unfold lastCall
  rw [List.reverse_concat]
  exact List.find?_cons_of_pos (decide_eq_true same)

theorem lastCall_other (other : call.id ≠ id) :
    lastCall (calls ++ [call]) id = lastCall calls id := by
  unfold lastCall
  rw [List.reverse_concat, List.find?_cons_of_neg (by simpa using other)]

theorem right_other (other : call.id ≠ id) :
    Right users (calls ++ [call]) id ↔ Right users calls id := by
  unfold Right
  rw [lastCall_other other]
  cases lastCall calls id with
  | none => rfl
  | some last =>
      cases last with
      | add added userLevel userName password opened => rfl
      | del deleted opened =>
          refine and_congr_right fun _ => ?_
          rw [List.forall_mem_append, List.forall_mem_singleton]
          exact and_iff_left fun same => absurd same other

theorem expect_other (other : call.id ≠ id) : call.expect users id = users id := by
  cases call with
  | add added userLevel userName password opened =>
      exact Function.update_of_ne (Ne.symm other) _ _
  | del deleted opened => exact Function.update_of_ne (Ne.symm other) _ _

/-- A user who was deleted is unknown to the getters if there was nothing to delete. -/
theorem readUser_deleted {fields : UserFields}
    (reads : readUser (fields id) = .ok (users id)) :
    readUser (fieldsAfter calls fields id) = .ok .nobody ↔
      users id = .nobody ∧ ∀ call ∈ calls, call.id = id → ¬ call.Adds := by
  constructor
  · intro nobody
    have noAdds : ∀ call ∈ calls, call.id = id → ¬ call.Adds := by
      intro call member isUser adds
      obtain ⟨text, named⟩ :=
        fieldsAfter_name fields ⟨call, member, isUser, adds⟩
      have noName := readUser_name nobody
      rw [named] at noName
      cases noName
    have same := readUser_congr fun field notSection =>
      fieldsAfter_of_noAdds fields noAdds notSection
    rw [same, reads] at nobody
    exact ⟨Except.ok.inj nobody, noAdds⟩
  · rintro ⟨isNobody, noAdds⟩
    have same := readUser_congr fun field notSection =>
      fieldsAfter_of_noAdds fields noAdds notSection
    rw [same, reads, isNobody]

theorem readUser_iff {fields : UserFields}
    (reads : readUser (fields id) = .ok (users id)) :
    readUser (fieldsAfter calls fields id) = .ok (expected users calls id) ↔
      Right users calls id := by
  induction calls using List.reverseRecOn with
  | nil => exact iff_of_true reads trivial
  | append_singleton calls call induction =>
      unfold fieldsAfter expected at induction ⊢
      rw [List.foldl_concat, List.foldl_concat]
      by_cases same : call.id = id
      · unfold Right
        rw [lastCall_same same]
        obtain rfl := same
        cases call with
        | add id userLevel userName password opened =>
            have reading := readUser_added (fieldsAfter calls fields) id userLevel
              userName password opened
            have meant : (UserCall.add id userLevel userName password opened).expect
                (expected users calls) id =
                ⟨userLevel.toInt, some userName, some password⟩ :=
              Function.update_self ..
            refine (Eq.congr reading (congrArg Except.ok meant)).trans ?_
            refine Iff.trans ?_ strtol_take_one
            simp
        | del id opened =>
            have deletes : ¬ (UserCall.del id opened).Adds := fun adds => adds
            have reading := readUser_congr fun field notSection =>
              effect_del id (fieldsAfter calls fields) deletes notSection
            have meant : (UserCall.del id opened).expect (expected users calls) id =
                .nobody := Function.update_self ..
            refine (Eq.congr reading (congrArg Except.ok meant)).trans ?_
            refine (readUser_deleted reads).trans (and_congr_right fun _ => ?_)
            rw [List.forall_mem_append, List.forall_mem_singleton]
            exact (and_iff_left fun _ => deletes).symm
      · rw [effect_other same, expect_other same, right_other same]
        exact induction

end Lookup

section Table

variable {store : Store}

theorem UserTable.readUser (table : UserTable store) (id : Int32) :
    readUser (fieldsOf table.d id) = .ok (table.users id) :=
  (userOf_live table.live id).symm.trans (table.reads id)

theorem UserTable.holds (table : UserTable store) :
    Holds store (fieldsOf table.d) table.userNum := by
  refine ⟨table.d, table.live, table.sound, rfl, ?_⟩
  have reads := table.readsNum
  unfold rkSystemGetUserNum rkParamGetInt at reads
  rw [table.live] at reads
  exact reads

/-- A configuration that was loaded is a table unless a level or the number is a section
without a value. -/
theorem userTable_of_load {file : Text} {d : Dictionary}
    (isLoaded : iniparserLoad file = some d) (live : store.dict = .ok (some d))
    (levels : ∀ id, fieldsOf d id .level ≠ some none)
    (numbers : dictionaryFind d userNumEntry ≠ some none) :
    Nonempty (UserTable store) := by
  have lowered : strlwc userNumEntry 1025 = userNumEntry := by decide
  have reads : ∀ id, ∃ user, userOf store id = .ok user := by
    intro id
    rw [userOf_live live]
    unfold Param.readUser
    cases isLevel : fieldsOf d id .level with
    | none => exact ⟨_, rfl⟩
    | some val =>
        cases val with
        | none => exact absurd isLevel (levels id)
        | some text => exact ⟨_, rfl⟩
  have readsNum : ∃ userNum, rkSystemGetUserNum store = .ok userNum := by
    unfold rkSystemGetUserNum rkParamGetInt
    rw [live]
    show ∃ userNum, iniparserGetnumber strtol (some d) userNumEntry 1 = .ok userNum
    unfold iniparserGetnumber
    rw [Option.bind_some, lowered]
    cases isNum : dictionaryFind d userNumEntry with
    | none => exact ⟨_, rfl⟩
    | some val =>
        cases val with
        | none => exact absurd isNum numbers
        | some text => exact ⟨_, rfl⟩
  obtain ⟨users, isUsers⟩ := Classical.axiom_of_choice reads
  obtain ⟨userNum, isNum⟩ := readsNum
  exact ⟨d, live, sound_of_load isLoaded, users, isUsers, userNum, isNum⟩

theorem exists_ok {α : Type} {a : α} {p : α → Prop} :
    (∃ b, (.ok a : Except Fault α) = .ok b ∧ p b) ↔ p a := by
  simp

/-- The getters give what the calls are meant to leave, exactly under these conditions
on the calls. -/
theorem users_iff (table : UserTable store) (calls : List UserCall) :
    (∃ after, runUsers calls store = .ok after ∧
      ∀ id, userOf after id = .ok (expected table.users calls id)) ↔
    Counts table.userNum calls ∧
      if ∀ call ∈ calls, call.opened = true then ∀ id, Right table.users calls id
      else ∀ id, expected table.users calls id = .nobody := by
  obtain ⟨counted, notCounted⟩ := runUsers_holds table.holds calls
  by_cases counts : Counts table.userNum calls
  · obtain ⟨after, isAfter, ended⟩ := counted counts
    rw [isAfter, exists_ok, and_iff_right counts]
    obtain ⟨all, d, live, _, isFields, _⟩ | ⟨⟨call, member, failed⟩, null⟩ := ended
    · rw [if_pos all]
      refine forall_congr' fun id => ?_
      rw [userOf_live live, isFields]
      exact readUser_iff (table.readUser id)
    · rw [if_neg fun all => by rw [all call member] at failed; cases failed]
      refine forall_congr' fun id => ?_
      rw [userOf_null null]
      exact ⟨fun same => (Except.ok.inj same).symm, fun same => congrArg _ same.symm⟩
  · obtain ⟨fault, isFault⟩ := notCounted counts
    rw [isFault]
    exact iff_of_false (fun ⟨_, isOk, _⟩ => by cases isOk) fun ⟨isCounts, _⟩ =>
      counts isCounts

/-- Deleting a user leaves the password, and a level of two digits is cut. -/
theorem deleted_password_read :
    ∃ loaded deleted cut,
      rkParamInit true true true
        (Store.start (some "[system.device_info]\nuser_num = 0\n".toList) none) =
          .ok (0, loaded) ∧
      userOf loaded 1 = .ok .nobody ∧
      runUsers [.add 1 1 "admin".toList "secret".toList true, .del 1 true] loaded =
        .ok deleted ∧
      userOf deleted 1 = .ok ⟨1, some "admin".toList, some "secret".toList⟩ ∧
      runUsers [.add 1 10 "admin".toList "secret".toList true] loaded = .ok cut ∧
      userOf cut 1 = .ok ⟨1, some "admin".toList, some "secret".toList⟩ := by
  have evaluated : (do
      let start ← rkParamInit true true true
        (Store.start (some "[system.device_info]\nuser_num = 0\n".toList) none)
      let deleted ← runUsers
        [.add 1 1 "admin".toList "secret".toList true, .del 1 true] start.2
      let cut ← runUsers [.add 1 10 "admin".toList "secret".toList true] start.2
      return (start.1, ← userOf start.2 1, ← userOf deleted 1, ← userOf cut 1)) =
      (.ok (0, .nobody, ⟨1, some "admin".toList, some "secret".toList⟩,
        ⟨1, some "admin".toList, some "secret".toList⟩) :
        Except Fault (Int × User × User × User)) := by
    decide +kernel
  obtain ⟨⟨code, loaded⟩, isLoaded, evaluated⟩ := bind_eq_ok evaluated
  obtain ⟨deleted, isDeleted, evaluated⟩ := bind_eq_ok evaluated
  obtain ⟨cut, isCut, evaluated⟩ := bind_eq_ok evaluated
  obtain ⟨atStart, readsStart, evaluated⟩ := bind_eq_ok evaluated
  obtain ⟨atDeleted, readsDeleted, evaluated⟩ := bind_eq_ok evaluated
  obtain ⟨atCut, readsCut, evaluated⟩ := bind_eq_ok evaluated
  cases evaluated
  exact ⟨loaded, deleted, cut, isLoaded, readsStart, isDeleted, readsDeleted, isCut,
    readsCut⟩

end Table

section Count

def hasUser (store : Store) (id : Int32) : Prop :=
  ∃ d, store.dict = .ok (some d) ∧ iniparserFindEntry d (userEntry id.toInt []) = true

noncomputable def userSections (store : Store) : Nat := {id | hasUser store id}.ncard

/-- How far the calls move the number ahead of the sections: an add of a user who is
there, and a delete of one who is not. -/
def surplus (present : Int32 → Bool) : List UserCall → Int
  | [] => 0
  | .add id _ _ _ _ :: calls =>
      (if present id then 1 else 0) + surplus (Function.update present id true) calls
  | .del id _ :: calls =>
      (if present id then 0 else -1) + surplus (Function.update present id false) calls

def presentIn (fields : UserFields) : Int32 → Bool := fun id => (fields id .section).isSome

noncomputable def sectionsIn (present : Int32 → Bool) : Nat := {id | present id = true}.ncard

theorem sectionsIn_add (present : Int32 → Bool) (id : Int32) :
    (sectionsIn (Function.update present id true) : Int) =
      sectionsIn present + 1 - (if present id then 1 else 0) := by
  have inserted : {other | Function.update present id true other = true} =
      insert id {other | present other = true} := by
    ext other
    by_cases same : other = id <;> simp [same]
  unfold sectionsIn
  rw [inserted]
  by_cases isPresent : present id = true
  · have member : id ∈ {other | present other = true} := isPresent
    rw [Set.insert_eq_of_mem member, if_pos isPresent]
    omega
  · have outside : id ∉ {other | present other = true} := isPresent
    rw [Set.ncard_insert_of_notMem outside, if_neg isPresent]
    omega

theorem sectionsIn_del (present : Int32 → Bool) (id : Int32) :
    (sectionsIn (Function.update present id false) : Int) =
      sectionsIn present - 1 - (if present id then 0 else -1) := by
  have removed : {other | Function.update present id false other = true} =
      {other | present other = true} \ {id} := by
    ext other
    by_cases same : other = id <;> simp [same]
  unfold sectionsIn
  rw [removed]
  by_cases isPresent : present id = true
  · have member : id ∈ {other | present other = true} := isPresent
    have counted := Set.ncard_sdiff_singleton_add_one member
    rw [if_pos isPresent]
    omega
  · have outside : id ∉ {other | present other = true} := isPresent
    rw [Set.sdiff_singleton_eq_self outside, if_neg isPresent]
    omega

theorem presentIn_add (fields : UserFields) (id userLevel : Int32)
    (userName password : Text) (opened : Bool) :
    presentIn ((UserCall.add id userLevel userName password opened).effect fields) =
      Function.update (presentIn fields) id true := by
  funext other
  by_cases same : other = id <;> simp [presentIn, UserCall.effect, same]

theorem presentIn_del (fields : UserFields) (id : Int32) (opened : Bool) :
    presentIn ((UserCall.del id opened).effect fields) =
      Function.update (presentIn fields) id false := by
  funext other
  by_cases same : other = id <;> simp [presentIn, UserCall.effect, same]

theorem sectionsIn_after (calls : List UserCall) (fields : UserFields) (userNum : Int) :
    calls.foldl (fun userNum call => call.count userNum) userNum -
        sectionsIn (presentIn (fieldsAfter calls fields)) =
      userNum - sectionsIn (presentIn fields) + surplus (presentIn fields) calls := by
  induction calls generalizing fields userNum with
  | nil => exact (add_zero _).symm
  | cons call calls induction =>
      refine (induction (call.effect fields) (call.count userNum)).trans ?_
      cases call with
      | add id userLevel userName password opened =>
          rw [presentIn_add, sectionsIn_add]
          simp only [UserCall.count, surplus]
          omega
      | del id opened =>
          rw [presentIn_del, sectionsIn_del]
          simp only [UserCall.count, surplus]
          omega

theorem userSections_live {store : Store} {d : Dictionary}
    (live : store.dict = .ok (some d)) :
    userSections store = sectionsIn (presentIn (fieldsOf d)) := by
  unfold userSections sectionsIn
  congr 1
  ext id
  show hasUser store id ↔ (dictionaryFind d (userKey id .section)).isSome = true
  have found : iniparserFindEntry d (userEntry id.toInt []) =
      (dictionaryFind d (userKey id .section)).isSome := by
    show (dictionaryFind d (strlwc (userKey id .section) 1025)).isSome = _
    rw [strlwc_userKey]
  unfold hasUser
  rw [live]
  constructor
  · rintro ⟨e, same, isUser⟩
    cases same
    exact found ▸ isUser
  · exact fun isUser => ⟨d, rfl, found ▸ isUser⟩

theorem userSections_null {store : Store} (null : store.dict = .ok none) :
    userSections store = 0 := by
  unfold userSections hasUser
  rw [null]
  simp

theorem getUserNum_null {store : Store} (null : store.dict = .ok none) :
    rkSystemGetUserNum store = .ok 1 := by
  unfold rkSystemGetUserNum rkParamGetInt
  rw [null]
  rfl

theorem userNum_after {store : Store} (table : UserTable store)
    (calls : List UserCall) (counts : Counts table.userNum calls)
    (all : ∀ call ∈ calls, call.opened = true) :
    ∃ after userNum, runUsers calls store = .ok after ∧
      rkSystemGetUserNum after = .ok userNum ∧
      userNum - userSections after = table.userNum - userSections store +
        surplus (presentIn (fieldsOf table.d)) calls := by
  obtain ⟨after, isAfter, ended⟩ := (runUsers_holds table.holds calls).1 counts
  obtain ⟨_, d, live, _, isFields, isNum⟩ | ⟨⟨call, member, failed⟩, _⟩ := ended
  · refine ⟨after, calls.foldl (fun userNum call => call.count userNum) table.userNum,
      isAfter, ?_, ?_⟩
    · unfold rkSystemGetUserNum rkParamGetInt
      rw [live]
      exact isNum
    · rw [userSections_live live, userSections_live table.live, isFields]
      exact sectionsIn_after calls (fieldsOf table.d) table.userNum
  · rw [all call member] at failed
    cases failed

theorem userNum_lost {store : Store} (table : UserTable store)
    {calls : List UserCall} (counts : Counts table.userNum calls)
    (lost : ¬ ∀ call ∈ calls, call.opened = true) :
    ∃ after, runUsers calls store = .ok after ∧
      rkSystemGetUserNum after = .ok 1 ∧ userSections after = 0 := by
  obtain ⟨after, isAfter, ended⟩ := (runUsers_holds table.holds calls).1 counts
  obtain ⟨all, _⟩ | ⟨_, null⟩ := ended
  · exact absurd all lost
  · exact ⟨after, isAfter, getUserNum_null null, userSections_null null⟩

/-- The number stays right exactly as long as the adds of users who are there and the
deletes of users who are not outweigh each other. -/
theorem userNum_iff {store : Store} (table : UserTable store)
    (right : table.userNum = userSections store) (calls : List UserCall) :
    (∃ after, runUsers calls store = .ok after ∧
      rkSystemGetUserNum after = .ok (userSections after)) ↔
    Counts table.userNum calls ∧ (∀ call ∈ calls, call.opened = true) ∧
      surplus (presentIn (fieldsOf table.d)) calls = 0 := by
  by_cases counts : Counts table.userNum calls
  · rw [and_iff_right counts]
    by_cases all : ∀ call ∈ calls, call.opened = true
    · obtain ⟨after, userNum, isAfter, isNum, moved⟩ := userNum_after table calls counts all
      rw [and_iff_right all, isAfter, exists_ok, isNum, Except.ok.injEq]
      omega
    · obtain ⟨after, isAfter, isNum, none⟩ := userNum_lost table counts all
      rw [isAfter, exists_ok, isNum, none]
      exact iff_of_false (fun same => by cases same) fun both => all both.1
  · obtain ⟨fault, isFault⟩ := (runUsers_holds table.holds calls).2 counts
    rw [isFault]
    exact iff_of_false (fun ⟨_, isOk, _⟩ => by cases isOk) fun both => counts both.1

def noUsers : Store :=
  ⟨[some (iniparserSet (dictionaryNew 0) userNumEntry (some (decimal 0)))], some 0,
    none, none⟩

theorem fieldsOf_noUsers :
    fieldsOf (iniparserSet (dictionaryNew 0) userNumEntry (some (decimal 0))) =
      fun _ _ => none := by
  obtain ⟨_, isFields, _⟩ := set_userNum (sound_new 0) (by decide : (decimal 0).length < 8)
  rw [isFields]
  funext id field
  unfold fieldsOf
  rw [find_new]

def noUsersTable : UserTable noUsers where
  d := iniparserSet (dictionaryNew 0) userNumEntry (some (decimal 0))
  live := rfl
  sound := (set_userNum (sound_new 0) (by decide)).1
  users _ := .nobody
  reads id := by
    rw [userOf_live rfl, fieldsOf_noUsers]
    rfl
  userNum := 0
  readsNum := by decide +kernel

theorem noUsers_right : noUsersTable.userNum = userSections noUsers := by
  rw [userSections_live noUsersTable.live]
  show 0 = (sectionsIn (presentIn (fieldsOf
    (iniparserSet (dictionaryNew 0) userNumEntry (some (decimal 0))))) : Int)
  rw [fieldsOf_noUsers]
  simp [sectionsIn, presentIn]

/-- Two users are added and one of them is deleted. -/
theorem userNum_iff_noUsers :
    ∃ after, runUsers [.add 1 0 "admin".toList "secret".toList true,
      .add 2 1 "guest".toList "guest".toList true, .del 1 true] noUsers = .ok after ∧
        rkSystemGetUserNum after = .ok (userSections after) := by
  refine (userNum_iff noUsersTable noUsers_right _).mpr ⟨?_, by decide, ?_⟩
  · exact ⟨by decide, fun _ => ⟨by decide, fun _ => ⟨by decide, fun _ => trivial⟩⟩⟩
  · show surplus (presentIn (fieldsOf
      (iniparserSet (dictionaryNew 0) userNumEntry (some (decimal 0))))) _ = 0
    rw [fieldsOf_noUsers]
    decide

/-- A user who is added twice counts twice. -/
theorem user_counted_twice :
    ∃ after, runUsers [.add 1 0 "admin".toList "secret".toList true,
      .add 1 0 "admin".toList "changed".toList true] noUsers = .ok after ∧
        rkSystemGetUserNum after ≠ .ok (userSections after) := by
  obtain ⟨after, userNum, isAfter, isNum, moved⟩ := userNum_after noUsersTable
    [.add 1 0 "admin".toList "secret".toList true,
      .add 1 0 "admin".toList "changed".toList true]
    ⟨by decide, fun _ => ⟨by decide, fun _ => trivial⟩⟩ (by decide)
  refine ⟨after, isAfter, ?_⟩
  have twice : surplus (presentIn (fieldsOf noUsersTable.d))
      [.add 1 0 "admin".toList "secret".toList true,
        .add 1 0 "admin".toList "changed".toList true] = 1 := by
    show surplus (presentIn (fieldsOf
      (iniparserSet (dictionaryNew 0) userNumEntry (some (decimal 0))))) _ = 1
    rw [fieldsOf_noUsers]
    decide
  have right := noUsers_right
  rw [isNum, ne_eq, Except.ok.injEq]
  omega

end Count

end Rkipc.Param
