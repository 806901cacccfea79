import Rkipc.Param.Decimal

namespace Rkipc.Param

open Ini

/-! What a save and a reload keep of a sequence of changes. -/

/-- `snprintf(entry, 127, ...)` of `user.%d` and what follows it. -/
def userEntry (id : Int) (key : Text) : Text :=
  ("user.".toList ++ decimal id ++ key).take 126

def userNumEntry : Text := "system.device_info:user_num".toList

def rkSystemGetUserNum (store : Store) : Except Fault Int :=
  rkParamGetInt userNumEntry 1 store

def rkSystemSetUserNum (value : Int) (store : Store) : Except Fault Store :=
  rkParamSetInt userNumEntry value store

/-- One character of the level fits in the two bytes of its buffer. -/
def rkSystemAddUser (id userLevel : Int) (userName password : Text) (opened : Bool)
    (store : Store) : Except Fault (Int × Store) := do
  let store ← store.write fun d => iniparserSet d (userEntry id []) none
  let store ← store.write fun d =>
    iniparserSet d (userEntry id ":user_level".toList)
      (some ((decimal userLevel).take 1))
  let store ← store.write fun d =>
    iniparserSet d (userEntry id ":user_name".toList) (some userName)
  let store ← store.write fun d =>
    iniparserSet d (userEntry id ":password".toList) (some password)
  let userNum ← rkSystemGetUserNum store
  let store ← rkSystemSetUserNum (userNum + 1) store
  let (_, store) ← rkParamSave opened store
  return (0, store)

def rkSystemDelUser (id : Int) (opened : Bool) (store : Store) :
    Except Fault (Int × Store) := do
  let store ← store.write fun d => iniparserUnset d (userEntry id [])
  let userNum ← rkSystemGetUserNum store
  let store ← rkSystemSetUserNum (userNum - 1) store
  let (_, store) ← rkParamSave opened store
  return (0, store)

/-- `opened` is the outcome of the `fopen` in the save that a change of users makes. -/
inductive Change
  | setInt (entry : Text) (val : Int)
  | setString (entry val : Text)
  | addUser (id userLevel : Int) (userName password : Text) (opened : Bool)
  | delUser (id : Int) (opened : Bool)

def Change.run (change : Change) (store : Store) : Except Fault Store :=
  match change with
  | .setInt entry val => rkParamSetInt entry val store
  | .setString entry val => rkParamSetString entry (some val) store
  | .addUser id userLevel userName password opened =>
      (rkSystemAddUser id userLevel userName password opened store).map Prod.snd
  | .delUser id opened => (rkSystemDelUser id opened store).map Prod.snd

def runChanges : List Change → Store → Except Fault Store
  | [], store => .ok store
  | change :: changes, store => do runChanges changes (← change.run store)

/-- Every getter returns the same. -/
structure SameGetters {double : Type} (atof : Text → double)
    (truncate : double → Int) (before after : Store) : Prop where
  getInt : ∀ entry default,
    rkParamGetInt entry default after = rkParamGetInt entry default before
  getDouble : ∀ entry default,
    rkParamGetDouble atof truncate entry default after =
      rkParamGetDouble atof truncate entry default before
  getString : ∀ entry default,
    rkParamGetString entry default after = rkParamGetString entry default before

/-- A save and a reload succeed, and every getter returns what it returned before. -/
def Survives {double : Type} (atof : Text → double) (truncate : double → Int)
    (store : Store) : Prop :=
  ∃ saved reloaded, rkParamSave true store = .ok (0, saved) ∧
    rkParamReload true saved = .ok (0, reloaded) ∧
      SameGetters atof truncate store reloaded

/-! The conditions on a change, one for each entry that it writes. -/

inductive Write
  | user (id : Int)
  | noUser (id : Int)
  | put (entry val : Text)

namespace Write

def apply (d : Dictionary) : Write → Dictionary
  | .user id => iniparserSet d (userEntry id []) none
  | .noUser id => iniparserUnset d (userEntry id [])
  | .put entry val => iniparserSet d entry (some val)

/-- The entry lies in a section that is there and has room, and the reader finds
its key and its value in the written line; a user goes only without keys. -/
def Kept (d : Dictionary) : Write → Prop
  | .user _ => True
  | .noUser id => ∀ k, dictionaryFind d (userEntry id [] ++ ':' :: k) = none
  | .put entry val =>
      ∃ s k, strlwc entry 1025 = s ++ ':' :: k ∧ ':' ∉ s ∧
        dictionaryFind d s = some none ∧ KeyOk k ∧ ValueOk val ∧ LineOk k val ∧
        (dictionaryFind d (s ++ ':' :: k) = none →
          (d.inSection s).length < maxSectionKeys)

def applyAll (d : Dictionary) (writes : List Write) : Dictionary :=
  writes.foldl apply d

def AllKept : Dictionary → List Write → Prop
  | _, [] => True
  | d, write :: writes => write.Kept d ∧ AllKept (write.apply d) writes

end Write

def currentUserNum (d : Dictionary) : Int :=
  match dictionaryFind d userNumEntry with
  | some (some text) => strtol text
  | _ => 1

namespace Change

def first : Change → List Write
  | .setInt _ _ => []
  | .setString entry val => [.put entry val]
  | .addUser id userLevel userName password _ =>
      [.user id, .put (userEntry id ":user_level".toList) ((decimal userLevel).take 1),
        .put (userEntry id ":user_name".toList) userName,
        .put (userEntry id ":password".toList) password]
  | .delUser id _ => [.noUser id]

/-- The `int` that is written, and its entry. -/
def int (change : Change) (d : Dictionary) : Option (Text × Int) :=
  match change with
  | .setInt entry val => some (entry, val)
  | .setString _ _ => none
  | .addUser _ _ _ _ _ => some (userNumEntry, currentUserNum d + 1)
  | .delUser _ _ => some (userNumEntry, currentUserNum d - 1)

def writes (change : Change) (d : Dictionary) : List Write :=
  change.first ++ match change.int (Write.applyAll d change.first) with
    | none => []
    | some (entry, val) => [.put entry (decimal val)]

def Opened : Change → Prop
  | .addUser _ _ _ _ opened | .delUser _ opened => opened = true
  | _ => True

/-- Every write is kept, an `int` has at most seven characters, and the save of a
change of users opens its file. -/
def Fits (d : Dictionary) (change : Change) : Prop :=
  Write.AllKept d (change.writes d) ∧ change.Opened ∧
    ∀ entry val, change.int (Write.applyAll d change.first) = some (entry, val) →
      (decimal val).length < 8

def AllFit : Dictionary → List Change → Prop
  | _, [] => True
  | d, change :: changes =>
      change.Fits d ∧ AllFit (Write.applyAll d (change.writes d)) changes

end Change

/-- A dictionary that a save and a reload keep. -/
structure Stored (d : Dictionary) : Prop where
  storable : Storable d
  sizes : ∀ s, ':' ∉ s → (d.inSection s).length ≤ maxSectionKeys

section Users

theorem userEntry_char {id : Int} {char : Char} (member : char ∈ userEntry id []) :
    char ∈ ['u', 's', 'e', 'r', '.', '-'] ∨ char.isDigit = true := by
  have inText := List.mem_of_mem_take member
  rw [List.append_nil, List.mem_append] at inText
  obtain inUser | inNumber := inText
  · refine .inl (List.mem_of_mem_take (i := 5) ?_)
    exact inUser
  · unfold decimal at inNumber
    split at inNumber
    · obtain rfl | inDigits := List.mem_cons.mp inNumber
      · exact .inl (by decide)
      · exact .inr (digits_isDigit inDigits)
    · exact .inr (digits_isDigit inNumber)

theorem digit_plain {char : Char} (digit : char.isDigit = true) :
    char ≠ ':' ∧ char ≠ ']' ∧ isspace char = false ∧ char.toLower = char :=
  digit_all (p := fun char => char ≠ ':' ∧ char ≠ ']' ∧ isspace char = false ∧
    char.toLower = char) digit (by decide)

theorem userEntry_plain {id : Int} {char : Char} (member : char ∈ userEntry id []) :
    char ≠ ':' ∧ char ≠ ']' ∧ isspace char = false ∧ char.toLower = char := by
  obtain listed | digit := userEntry_char member
  · simp only [List.mem_cons, List.not_mem_nil, or_false] at listed
    obtain rfl | rfl | rfl | rfl | rfl | rfl := listed <;> decide
  · exact digit_plain digit

theorem sectionOk_user (id : Int) :
    ':' ∉ userEntry id [] ∧ SectionOk (userEntry id []) := by
  have plain := fun char (member : char ∈ userEntry id []) => userEntry_plain member
  have nonempty : userEntry id [] ≠ [] := by
    have isCons : userEntry id [] = 'u' :: ("ser.".toList ++ decimal id).take 125 := by
      unfold userEntry
      rw [List.append_nil]
      rfl
    rw [isCons]
    exact List.cons_ne_nil _ _
  refine ⟨fun colon => (plain _ colon).1 rfl, nonempty,
    fun bracket => (plain _ bracket).2.1 rfl, fun newline => ?_, ?_, ?_, ?_⟩
  · have space := (plain _ newline).2.2.1
    exact absurd space (by decide)
  · apply strstrip_eq_self
    · exact fun char isHead => (plain char (List.mem_of_mem_head? isHead)).2.2.1
    · exact fun char isLast => (plain char (List.mem_of_getLast? isLast)).2.2.1
  · exact (List.map_congr_left fun char member => (plain char member).2.2.2).trans
      (List.map_id _)
  · have length : (userEntry id []).length ≤ 126 := List.length_take_le _ _
    omega

theorem strlwc_userEntry (id : Int) :
    strlwc (userEntry id []) 1025 = userEntry id [] := by
  obtain ⟨_, ok⟩ := sectionOk_user id
  have short := ok.short
  exact strlwc_eq_self ok.lower (by omega)

end Users

section Kept

variable {d : Dictionary}

theorem apply_user (id : Int) :
    (Write.user id).apply d = dictionarySet d (userEntry id []) none := by
  show dictionarySet d (strlwc (userEntry id []) 1025) none = _
  rw [strlwc_userEntry]

theorem apply_noUser (id : Int) :
    (Write.noUser id).apply d = dictionaryUnset d (userEntry id []) := by
  show dictionaryUnset d (strlwc (userEntry id []) 1025) = _
  rw [strlwc_userEntry]

theorem apply_put {entry val key : Text} (isEntry : strlwc entry 1025 = key) :
    (Write.put entry val).apply d = dictionarySet d key (some val) := by
  rw [← isEntry]
  rfl

theorem stored_apply (stored : Stored d) (write : Write) (kept : write.Kept d) :
    Stored (write.apply d) := by
  have sound := stored.storable.sound
  cases write with
  | user id =>
      obtain ⟨noColon, ok⟩ := sectionOk_user id
      rw [apply_user]
      refine ⟨storable_set_section stored.storable noColon ok, fun s free => ?_⟩
      refine Nat.le_trans (length_inSection_set sound _ _ s) ?_
      rw [if_neg]
      · exact stored.sizes s free
      · rintro ⟨_, isPrefix⟩
        exact noColon (isPrefix.subset (by simp))
  | noUser id =>
      rw [apply_noUser]
      refine ⟨storable_unset_section stored.storable fun k val => ?_,
        fun s free => Nat.le_trans (length_inSection_unset sound _ s)
          (stored.sizes s free)⟩
      exact (find_eq_none sound).mp (kept k) val
  | put entry val =>
      obtain ⟨s, k, isEntry, noColon, hasSection, keyOk, valueOk, lineOk, room⟩ := kept
      rw [apply_put isEntry]
      refine ⟨storable_set_entry stored.storable noColon
        ((find_eq_some sound).mp hasSection) keyOk valueOk lineOk,
        fun name free => ?_⟩
      refine Nat.le_trans (length_inSection_set sound _ _ name) ?_
      split
      next grows =>
        obtain ⟨absent, rest, isPrefix⟩ := grows
        have same : name = s := (split_unique free noColon
          (by rw [← isPrefix, List.append_assoc]; rfl)).1
        rw [same]
        exact room absent
      next => exact stored.sizes name free

theorem stored_applyAll {writes : List Write} (stored : Stored d)
    (kept : Write.AllKept d writes) : Stored (Write.applyAll d writes) := by
  induction writes generalizing d with
  | nil => exact stored
  | cons write writes induction =>
      exact induction (stored_apply stored write kept.1) kept.2

theorem allKept_append {writes others : List Write}
    (kept : Write.AllKept d (writes ++ others)) : Write.AllKept d writes := by
  induction writes generalizing d with
  | nil => trivial
  | cons write writes induction => exact ⟨kept.1, induction kept.2⟩

theorem getUserNum_stored {store : Store} (stored : Stored d)
    (live : store.dict = .ok (some d)) :
    rkSystemGetUserNum store = .ok (currentUserNum d) := by
  have lowered : strlwc userNumEntry 1025 = userNumEntry := by decide
  unfold rkSystemGetUserNum rkParamGetInt
  rw [live]
  dsimp only [bind, Except.bind]
  unfold iniparserGetnumber currentUserNum
  rw [Option.bind_some, lowered]
  cases found : dictionaryFind d userNumEntry with
  | none => rfl
  | some val =>
      obtain ⟨_, _, _, _, _, _, rfl, _⟩ := stored.storable.entry userNumEntry val
        ((find_eq_some stored.storable.sound).mp found) (by decide)
      rfl

theorem rkParamDump_stored {e : Dictionary} (stored : Stored d) (sound : e.Sound)
    (same : dictionaryFind e = dictionaryFind d) :
    rkParamDump (some e) = .ok () := by
  unfold rkParamDump
  dsimp only
  rw [if_pos]
  intro s member
  obtain ⟨⟨val, has⟩, noColon⟩ := mem_sections.mp member
  have inside := (find_eq_some sound).mpr has
  rw [same] at inside
  obtain ⟨_, ok⟩ := stored.storable.name s val
    ((find_eq_some stored.storable.sound).mp inside) noColon
  have short := ok.short
  unfold iniparserGetsecnkeys
  rw [strlwc_eq_self ok.lower (by omega)]
  split
  · rw [length_inSection_congr sound stored.storable.sound (by simp [same]) s]
    exact stored.sizes s noColon
  · exact Nat.zero_le _

/-- A dictionary like this survives. -/
theorem survives_of_stored {double : Type} (atof : Text → double)
    (truncate : double → Int) {store : Store} (stored : Stored d)
    (live : store.dict = .ok (some d)) : Survives atof truncate store := by
  obtain ⟨address, isPointer, _⟩ := Store.dict_live live
  obtain ⟨e, loaded, sound, same⟩ := load_dump stored.storable
  let saved : Store := { store with file := some (iniparserDumpIni d) }
  have liveSaved : saved.dict = .ok (some d) := live
  let reloaded := (saved.put none).load true
  have liveReloaded : reloaded.dict = .ok (some e) := by
    rw [Store.dict_load, if_pos rfl, Store.put_file]
    exact congrArg Except.ok loaded
  have fits : rkParamDump (some e) = .ok () := rkParamDump_stored stored sound same
  refine ⟨saved, reloaded, save_opened live, ?_, ?_⟩
  · unfold rkParamReload
    rw [if_neg (by simp [saved, isPointer]), Store.freedict_live liveSaved]
    show reloaded.loaded = _
    obtain ⟨newAddress, isNew, _⟩ := Store.dict_live liveReloaded
    unfold Store.loaded
    rw [if_neg (by simp [isNew]), liveReloaded]
    dsimp only [bind, Except.bind]
    rw [fits]
    rfl
  · have number : ∀ {number : Type} (convert : Text → number) entry default,
        iniparserGetnumber convert (some e) entry default =
          iniparserGetnumber convert (some d) entry default := by
      intro number convert entry default
      unfold iniparserGetnumber
      rw [Option.bind_some, Option.bind_some, same]
    constructor
    · intro entry default
      unfold rkParamGetInt
      rw [liveReloaded, live]
      exact number strtol entry default
    · intro entry default
      unfold rkParamGetDouble
      rw [liveReloaded, live]
      dsimp only [bind, Except.bind]
      rw [number atof entry default]
    · intro entry default
      unfold rkParamGetString
      rw [liveReloaded, live]
      dsimp only [bind, Except.bind, iniparserGetstring, dictionaryGet]
      rw [same]

end Kept

section Runs

variable {store : Store} {d : Dictionary}

theorem setInt_fits (live : store.dict = .ok (some d)) (entry : Text) {val : Int}
    (fits : (decimal val).length < 8) :
    ∃ after, rkParamSetInt entry val store = .ok after ∧
      after.dict = .ok (some ((Write.put entry (decimal val)).apply d)) := by
  refine ⟨_, ?_, Store.dict_put live (some (iniparserSet d entry _))⟩
  unfold rkParamSetInt rkParamSetString
  rw [Store.write_live live]
  dsimp only [bind, Except.bind]
  rw [if_pos fits]
  rfl

theorem setUserNum_saved (stored : Stored d) (live : store.dict = .ok (some d))
    (change : Int → Int) (fits : (decimal (change (currentUserNum d))).length < 8) :
    ∃ after, (do
      let userNum ← rkSystemGetUserNum store
      let store ← rkSystemSetUserNum (change userNum) store
      let (_, store) ← rkParamSave true store
      return (0, store) : Except Fault (Int × Store)).map Prod.snd = .ok after ∧
        after.dict = .ok (some ((Write.put userNumEntry
          (decimal (change (currentUserNum d)))).apply d)) := by
  obtain ⟨after, isSet, liveAfter⟩ := setInt_fits live userNumEntry fits
  rw [getUserNum_stored stored live]
  dsimp only [bind, Except.bind]
  unfold rkSystemSetUserNum
  rw [isSet]
  dsimp only
  rw [save_opened liveAfter]
  exact ⟨_, rfl, liveAfter⟩

theorem run_fits {change : Change} (stored : Stored d)
    (live : store.dict = .ok (some d)) (fits : change.Fits d) :
    ∃ after, change.run store = .ok after ∧
      after.dict = .ok (some (Write.applyAll d (change.writes d))) := by
  obtain ⟨kept, opened, short⟩ := fits
  have storedFirst := stored_applyAll stored (allKept_append kept)
  cases change with
  | setInt entry val => exact setInt_fits live entry (short entry val rfl)
  | setString entry val => exact ⟨_, Store.write_live live _, Store.dict_put live _⟩
  | addUser id userLevel userName password opens =>
      cases opened
      let user := iniparserSet d (userEntry id []) none
      let level := iniparserSet user (userEntry id ":user_level".toList)
        (some ((decimal userLevel).take 1))
      let name := iniparserSet level (userEntry id ":user_name".toList) (some userName)
      have liveUser := Store.dict_put live (some user)
      have liveLevel := Store.dict_put liveUser (some level)
      have liveName := Store.dict_put liveLevel (some name)
      have livePassword := Store.dict_put liveName (some
        (iniparserSet name (userEntry id ":password".toList) (some password)))
      obtain ⟨after, isAfter, liveAfter⟩ := setUserNum_saved storedFirst livePassword
        (· + 1) (short _ _ rfl)
      refine ⟨after, ?_, liveAfter⟩
      rw [← isAfter]
      unfold Change.run rkSystemAddUser
      dsimp only
      rw [Store.write_live live]
      dsimp only [bind, Except.bind]
      rw [Store.write_live liveUser]
      dsimp only
      rw [Store.write_live liveLevel]
      dsimp only
      rw [Store.write_live liveName]
  | delUser id opens =>
      cases opened
      have liveFirst := Store.dict_put live (some (iniparserUnset d (userEntry id [])))
      obtain ⟨after, isAfter, liveAfter⟩ := setUserNum_saved storedFirst liveFirst
        (· - 1) (short _ _ rfl)
      refine ⟨after, ?_, liveAfter⟩
      rw [← isAfter]
      unfold Change.run rkSystemDelUser
      dsimp only
      rw [Store.write_live live]
      rfl

end Runs

/-- After every sequence of changes that fit, the configuration survives. -/
theorem survives_of_allFit {double : Type} (atof : Text → double)
    (truncate : double → Int) {store : Store} {d : Dictionary}
    (live : store.dict = .ok (some d)) (stored : Stored d) {changes : List Change}
    (fits : Change.AllFit d changes) :
    ∃ after, runChanges changes store = .ok after ∧
      Survives atof truncate after := by
  induction changes generalizing store d with
  | nil => exact ⟨store, rfl, survives_of_stored atof truncate stored live⟩
  | cons change changes induction =>
      obtain ⟨after, isAfter, liveAfter⟩ := run_fits stored live fits.1
      obtain ⟨last, isLast, survives⟩ := induction liveAfter
        (stored_applyAll stored fits.1.1) fits.2
      refine ⟨last, ?_, survives⟩
      unfold runChanges
      rw [isAfter]
      exact isLast

/-- A user is added to a configuration without users and changes the password. -/
theorem survives_of_allFit_user :
    let d := dictionarySet (dictionaryNew 0) "system.device_info".toList none
    let store : Store := ⟨[some d], some 0, none, none⟩
    ∃ after, runChanges [.addUser 0 1 "admin".toList "secret".toList true,
      .setString "user.0:password".toList "is better".toList,
      .setInt "user.0:user_level".toList 2] store = .ok after ∧
        Survives (fun _ => (0 : Int)) id after := by
  intro d store
  have stored : Stored d := by
    refine ⟨storable_set_section (storable_new 0) (by decide)
      (by decide), fun s free => ?_⟩
    refine Nat.le_trans (length_inSection_set (sound_new 0) _ _ s) ?_
    have none : (dictionaryNew 0).inSection s = [] := by
      simp [Dictionary.inSection, Dictionary.entries, dictionaryNew]
    rw [none]
    split <;> decide
  refine survives_of_allFit (fun _ => (0 : Int)) id (d := d) rfl stored ?_
  have user : ':' ∉ "user.0".toList := by decide
  have device : ':' ∉ "system.device_info".toList := by decide
  refine ⟨⟨⟨trivial, ⟨_, "user_level".toList, ?_, user, ?_⟩,
    ⟨_, "user_name".toList, ?_, user, ?_⟩, ⟨_, "password".toList, ?_, user, ?_⟩,
    ⟨_, "user_num".toList, ?_, device, ?_⟩, trivial⟩, rfl, ?_⟩,
    ⟨⟨⟨_, "password".toList, ?_, user, ?_⟩, trivial⟩, trivial, ?_⟩,
    ⟨⟨⟨_, "user_level".toList, ?_, user, ?_⟩, trivial⟩, trivial, ?_⟩, trivial⟩
  case refine_9 | refine_15 =>
    rintro _ _ ⟨⟩
    decide +kernel
  case refine_12 => rintro _ _ ⟨⟩
  all_goals decide +kernel

theorem bind_eq_ok {α β : Type} {result : Except Fault α}
    {next : α → Except Fault β} {val : β} (run : result >>= next = .ok val) :
    ∃ a, result = .ok a ∧ next a = .ok val := by
  cases result with
  | error fault => cases run
  | ok a => exact ⟨a, rfl, run⟩

/-- A password with a semicolon is shorter after a save and a reload. -/
theorem semicolon_cuts_password :
    ∃ loaded changed,
      rkParamInit true true true
        (Store.start (some "[user.0]\npassword = admin\n".toList) none) =
          .ok (0, loaded) ∧
      runChanges [.setString "user.0:password".toList "a;b".toList] loaded =
        .ok changed ∧
      ¬ Survives (fun _ => (0 : Int)) id changed := by
  have evaluated : (do
      let (code, loaded) ← rkParamInit true true true
        (Store.start (some "[user.0]\npassword = admin\n".toList) none)
      let changed ← runChanges
        [.setString "user.0:password".toList "a;b".toList] loaded
      let (_, saved) ← rkParamSave true changed
      let (_, reloaded) ← rkParamReload true saved
      return (code, ← rkParamGetString "user.0:password".toList none changed,
        ← rkParamGetString "user.0:password".toList none reloaded)) =
      (.ok (0, some "a;b".toList, some "a".toList) :
        Except Fault (Int × Option Text × Option Text)) := by
    decide +kernel
  obtain ⟨⟨code, loaded⟩, isLoaded, evaluated⟩ := bind_eq_ok evaluated
  obtain ⟨changed, isChanged, evaluated⟩ := bind_eq_ok evaluated
  obtain ⟨⟨_, saved⟩, isSaved, evaluated⟩ := bind_eq_ok evaluated
  obtain ⟨⟨_, reloaded⟩, isReloaded, evaluated⟩ := bind_eq_ok evaluated
  obtain ⟨before, isBefore, evaluated⟩ := bind_eq_ok evaluated
  obtain ⟨after, isAfter, evaluated⟩ := bind_eq_ok evaluated
  cases evaluated
  refine ⟨loaded, changed, isLoaded, isChanged, ?_⟩
  rintro ⟨otherSaved, otherReloaded, save, reload, same⟩
  rw [isSaved] at save
  cases save
  rw [isReloaded] at reload
  cases reload
  have contradiction := same.getString "user.0:password".toList none
  rw [isBefore, isAfter] at contradiction
  exact absurd contradiction (by decide)

end Rkipc.Param
