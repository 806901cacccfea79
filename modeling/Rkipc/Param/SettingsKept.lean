import Mathlib.Data.List.Count
import Rkipc.Param.Settings

namespace Rkipc.Param

open Ini

/-! The settings over the running configuration and the file: every getter reads what was set
last, and a restart finds what was saved last. -/

abbrev Values := Setting → Int32 → Value

def Values.set (values : Values) (setting : Setting) (id : Int32) (value : Value) : Values :=
  fun other otherId => if setting.Same other id otherId then value else values other otherId

/-- A process that is killed has not called `rk_param_deinit`. -/
inductive SettingCall
  | get (setting : Setting) (id : Int32)
  | set (setting : Setting) (id : Int32) (value : Value)
  | save
  | reload
  | restart
  | kill

namespace SettingCall

/-- The files can be opened, and what a new process knows is the files. -/
def run (store : Store) : SettingCall → Except Fault (Store × Option Value)
  | get setting id => do
      let value ← setting.get id store
      return (store, some value)
  | set setting id value => do
      let store ← setting.set id value store
      return (store, none)
  | save => do
      let (_, store) ← rkParamSave true store
      return (store, none)
  | reload => do
      let (_, store) ← rkParamReload true store
      return (store, none)
  | restart => do
      let (_, store) ← rkParamDeinit true store
      let (_, store) ← rkParamInit true true true (Store.start store.file store.factory)
      return (store, none)
  | kill => do
      let (_, store) ← rkParamInit true true true (Store.start store.file store.factory)
      return (store, none)

end SettingCall

def runSettings : Store → List SettingCall → Except Fault (Store × List (Option Value))
  | store, [] => .ok (store, [])
  | store, call :: calls => do
      let (store, value) ← call.run store
      let (store, values) ← runSettings store calls
      return (store, value :: values)

/-- What the settings are: those of the process, and those of the file. -/
structure Kept where
  running : Values
  saved : Values

namespace Kept

def step (kept : Kept) : SettingCall → Kept × Option Value
  | .get setting id => (kept, some (kept.running setting id))
  | .set setting id value => ({ kept with running := kept.running.set setting id value }, none)
  | .save | .restart => ({ kept with saved := kept.running }, none)
  | .reload | .kill => ({ kept with running := kept.saved }, none)

def steps : Kept → List SettingCall → Kept × List (Option Value)
  | kept, [] => (kept, [])
  | kept, call :: calls =>
      let rest := (kept.step call).1.steps calls
      (rest.1, (kept.step call).2 :: rest.2)

end Kept

/-- The value is of the kind of the setting, and it can be written and read. -/
def Value.Fits (setting : Setting) (value : Value) : Prop :=
  match setting.row.default, value with
  | .number _, .number val => -999999 ≤ val ∧ val ≤ 9999999
  | .text _, .text (some val) => ValueOk val ∧ LineOk setting.row.key val
  | _, _ => False

/-- A setting is set in a section that the configuration has. -/
def SettingCall.Fits (base : Dictionary) : SettingCall → Prop
  | .set setting id value =>
      value.Fits setting ∧ dictionaryFind base (setting.row.owner.sectionOf id) = some none
  | _ => True

/-- A configuration that a save and a load keep, with room for every setting. -/
structure Roomy (d : Dictionary) : Prop where
  stored : Stored d
  room : ∀ s, ':' ∉ s → (d.inSection s).length + Setting.all.length ≤ maxSectionKeys

def Setting.readIn (setting : Setting) (id : Int32) (d : Dictionary) : Value :=
  match setting.row.default with
  | .number default =>
      .number (((dictionaryFind d (setting.entry id)).join.map strtol).getD default)
  | .text default => .text ((dictionaryFind d (setting.entry id)).getD default)

def valuesOf (d : Dictionary) : Values := fun setting id => setting.readIn id d

/-- The settings that are not in the section. -/
def missing (d : Dictionary) (s : Text) : Nat :=
  Setting.all.countP fun setting => dictionaryFind d (s ++ ':' :: setting.row.key) = none

/-- A dictionary with these values and with the sections of `base`. -/
structure Keeps (base d : Dictionary) (values : Values) : Prop where
  stored : Stored d
  reads : valuesOf d = values
  sections : ∀ s, ':' ∉ s → dictionaryFind d s = dictionaryFind base s
  room : ∀ s, ':' ∉ s → (d.inSection s).length + missing d s ≤ maxSectionKeys

/-- Both the running configuration and the file are like this. -/
def Agrees (base : Dictionary) (store : Store) (kept : Kept) : Prop :=
  ∃ d e, store.dict = .ok (some d) ∧ Keeps base d kept.running ∧
    store.file.bind iniparserLoad = some e ∧ Keeps base e kept.saved

section Dictionaries

variable {base d e : Dictionary} {setting : Setting} {id : Int32} {values : Values}

theorem Stored.congr (stored : Stored d) (sound : e.Sound)
    (same : dictionaryFind e = dictionaryFind d) : Stored e := by
  have has : ∀ key val, e.Has key val ↔ d.Has key val := fun key val => by
    rw [← find_eq_some sound, ← find_eq_some stored.storable.sound, same]
  refine ⟨⟨sound, fun s val isEntry => stored.storable.name s val ((has s val).mp isEntry), ?_⟩,
    fun s noColon => ?_⟩
  · intro key val isEntry colon
    obtain ⟨s, k, v, isKey, noColon, hasSection, rest⟩ :=
      stored.storable.entry key val ((has key val).mp isEntry) colon
    exact ⟨s, k, v, isKey, noColon, (has s none).mpr hasSection, rest⟩
  · rw [length_inSection_congr sound stored.storable.sound (fun key => by rw [same]) s]
    exact stored.sizes s noColon

theorem Keeps.congr (keeps : Keeps base d values) (sound : e.Sound)
    (same : dictionaryFind e = dictionaryFind d) : Keeps base e values := by
  refine ⟨keeps.stored.congr sound same, ?_, fun s noColon => ?_, fun s noColon => ?_⟩
  · rw [← keeps.reads]
    unfold valuesOf Setting.readIn
    rw [same]
  · rw [same]
    exact keeps.sections s noColon
  · have sizes := keeps.room s noColon
    unfold missing at sizes ⊢
    rw [same, length_inSection_congr sound keeps.stored.storable.sound (fun key => by rw [same]) s]
    exact sizes

theorem Roomy.keeps (roomy : Roomy d) : Keeps d d (valuesOf d) where
  stored := roomy.stored
  reads := rfl
  sections _ _ := rfl
  room s noColon :=
    Nat.le_trans (Nat.add_le_add_left List.countP_le_length _) (roomy.room s noColon)

theorem valueOk_decimal {val : Int} : ValueOk (decimal val) := by
  have plain : ∀ char ∈ decimal val, char ∉ ['\n', ';', '#', '\\', '"', '\''] ∧
      isspace char = false := by
    intro char member
    have ofDigit : char.isDigit = true → _ := fun digit =>
      digit_all (p := fun char => char ∉ ['\n', ';', '#', '\\', '"', '\''] ∧
        isspace char = false) digit (by decide)
    unfold decimal at member
    split at member
    · rcases List.mem_cons.mp member with rfl | inDigits
      · decide
      · exact ofDigit (digits_isDigit inDigits)
    · exact ofDigit (digits_isDigit member)
  have absent : ∀ {char : Char}, char ∈ ['\n', ';', '#', '\\', '"', '\''] →
      char ∉ decimal val := fun listed member => (plain _ member).1 listed
  refine ⟨absent (by decide), absent (by decide), absent (by decide), ?_, ?_, ?_⟩
  · refine strstrip_eq_self (fun char isHead => ?_) fun char isLast => ?_
    · exact (plain char (List.mem_of_mem_head? isHead)).2
    · exact (plain char (List.mem_of_getLast? isLast)).2
  · exact fun isLast => absent (by decide) (List.mem_of_getLast? isLast)
  · have listed : ∀ quote ∈ ['"', '\''], quote ∈ ['\n', ';', '#', '\\', '"', '\''] := by decide
    intro quote isQuote isHead
    exact absurd (List.mem_of_mem_head? isHead) (absent (listed quote isQuote))

theorem find_put (sound : d.Sound) (setting : Setting) (id : Int32) (text : Text) :
    dictionaryFind (iniparserSet d (setting.entry id) (some text)) =
      Function.update (dictionaryFind d) (setting.entry id) (some (some text)) := by
  unfold iniparserSet
  rw [setting.strlwc_entry, find_set sound]

theorem valuesOf_put (sound : d.Sound) (setting : Setting) (id : Int32) (text : Text) :
    valuesOf (iniparserSet d (setting.entry id) (some text)) =
      (valuesOf d).set setting id
        (setting.readIn id (iniparserSet d (setting.entry id) (some text))) := by
  funext other otherId
  unfold Values.set
  by_cases same : setting.Same other id otherId
  · rw [if_pos same]
    have entries := Setting.entry_inj.mpr same
    obtain ⟨rfl, _⟩ := same
    unfold valuesOf Setting.readIn
    rw [entries]
  · rw [if_neg same]
    have differs : other.entry otherId ≠ setting.entry id :=
      fun entries => same (Setting.entry_inj.mp entries)
    unfold valuesOf Setting.readIn
    rw [find_put sound, Function.update_of_ne differs]

theorem missing_put (sound : d.Sound) (setting : Setting) (id : Int32) (text : Text) {s : Text}
    (noColon : ':' ∉ s) :
    (if dictionaryFind d (setting.entry id) = none ∧ (s ++ [':']) <+: setting.entry id then 1
      else 0) + missing (iniparserSet d (setting.entry id) (some text)) s ≤ missing d s := by
  have fewer : ∀ other : Setting,
      dictionaryFind (iniparserSet d (setting.entry id) (some text))
        (s ++ ':' :: other.row.key) = none →
      dictionaryFind d (s ++ ':' :: other.row.key) = none := by
    intro other isMissing
    rw [find_put sound, Function.update_apply] at isMissing
    split at isMissing
    · cases isMissing
    · exact isMissing
  split
  next isNew =>
    obtain ⟨absent, rest, isPrefix⟩ := isNew
    rw [setting.entry_eq, List.append_assoc] at isPrefix
    obtain ⟨isSection, _⟩ := split_unique noColon (Owner.noColon_sectionOf _ _) isPrefix
    obtain ⟨front, back, isSplit⟩ := List.append_of_mem setting.mem_all
    unfold missing
    rw [isSplit, List.countP_append, List.countP_append, List.countP_cons_of_neg,
      List.countP_cons_of_pos]
    · have ofFront := List.countP_mono_left (l := front) fun other _ isMissing =>
        decide_eq_true (fewer other (of_decide_eq_true isMissing))
      have ofBack := List.countP_mono_left (l := back) fun other _ isMissing =>
        decide_eq_true (fewer other (of_decide_eq_true isMissing))
      omega
    · rw [isSection, ← setting.entry_eq]
      exact decide_eq_true absent
    · rw [isSection, ← setting.entry_eq, find_put sound, Function.update_self]
      exact Bool.false_ne_true
  next =>
    rw [Nat.zero_add]
    exact List.countP_mono_left fun other _ isMissing =>
      decide_eq_true (fewer other (of_decide_eq_true isMissing))

theorem Keeps.put (keeps : Keeps base d values) (id : Int32) {text : Text}
    (hasSection : dictionaryFind base (setting.row.owner.sectionOf id) = some none)
    (valueOk : ValueOk text) (lineOk : LineOk setting.row.key text) :
    Keeps base (iniparserSet d (setting.entry id) (some text)) (values.set setting id
      (setting.readIn id (iniparserSet d (setting.entry id) (some text)))) := by
  have sound := keeps.stored.storable.sound
  have noColon := setting.row.owner.noColon_sectionOf id
  have colon : ':' ∈ setting.entry id := by
    rw [setting.entry_eq]
    exact List.mem_append_right _ List.mem_cons_self
  refine ⟨?_, ?_, fun s free => ?_, fun s free => ?_⟩
  · refine stored_apply keeps.stored (.put (setting.entry id) text)
      ⟨_, _, (setting.strlwc_entry id).trans (setting.entry_eq id), noColon,
        (keeps.sections _ noColon).trans hasSection, setting.keyOk, valueOk, lineOk, ?_⟩
    intro absent
    have isMissing : 0 < missing d (setting.row.owner.sectionOf id) :=
      List.countP_pos_iff.mpr ⟨setting, setting.mem_all, decide_eq_true absent⟩
    have sizes := keeps.room _ noColon
    omega
  · rw [valuesOf_put sound, keeps.reads]
  · rw [find_put sound, Function.update_of_ne fun (same : s = _) => free (same ▸ colon)]
    exact keeps.sections s free
  · have sizes := keeps.room s free
    have grows := length_inSection_set sound (setting.entry id) (some text) s
    have shrinks := missing_put sound setting id text free
    have isSet : iniparserSet d (setting.entry id) (some text) =
        dictionarySet d (setting.entry id) (some text) := by
      unfold iniparserSet
      rw [setting.strlwc_entry]
    rw [isSet] at shrinks ⊢
    omega

end Dictionaries

section Runs

variable {base d e : Dictionary} {store : Store} {kept : Kept} {setting : Setting}
  {id : Int32} {values : Values}

/-- No entry of a stored configuration is NULL, so that no getter fails. -/
theorem get_stored (live : store.dict = .ok (some d)) (stored : Stored d) (setting : Setting)
    (id : Int32) : setting.get id store = .ok (setting.readIn id d) := by
  have found : dictionaryFind d (setting.entry id) ≠ some none := by
    intro isNull
    have colon : ':' ∈ setting.entry id := by
      rw [setting.entry_eq]
      exact List.mem_append_right _ List.mem_cons_self
    obtain ⟨_, _, _, _, _, _, isVal, _⟩ := stored.storable.entry _ _
      ((find_eq_some stored.storable.sound).mp isNull) colon
    cases isVal
  unfold Setting.get Setting.readIn
  cases setting.row.default with
  | number default =>
      dsimp only
      unfold rkParamGetInt iniparserGetnumber
      rw [live]
      dsimp only [bind, Except.bind, Option.bind_some]
      rw [setting.strlwc_entry]
      cases isFound : dictionaryFind d (setting.entry id) with
      | none => rfl
      | some val =>
          cases val with
          | none => exact absurd isFound found
          | some text => rfl
  | text default =>
      dsimp only
      unfold rkParamGetString
      rw [live]
      dsimp only [bind, Except.bind, iniparserGetstring, dictionaryGet]
      rw [setting.strlwc_entry]
      rfl

theorem set_keeps (live : store.dict = .ok (some d)) (keeps : Keeps base d values)
    (setting : Setting) (id : Int32) {value : Value} (fits : value.Fits setting)
    (hasSection : dictionaryFind base (setting.row.owner.sectionOf id) = some none) :
    ∃ after e, setting.set id value store = .ok after ∧ after.dict = .ok (some e) ∧
      after.file = store.file ∧ Keeps base e (values.set setting id value) := by
  have sound := keeps.stored.storable.sound
  unfold Value.Fits at fits
  cases isDefault : setting.row.default with
  | number default =>
      cases value with
      | text val =>
          rw [isDefault] at fits
          exact fits.elim
      | number val =>
          rw [isDefault] at fits
          have short := length_decimal_lt.mpr fits
          obtain ⟨low, high⟩ := bounds_of_length short
          have lineOk : LineOk setting.row.key (decimal val) := by
            have ofKey := setting.length_key
            have noBracket : setting.row.key.head? ≠ some '[' := by cases setting <;> decide
            exact ⟨by omega, fun isBracket => absurd isBracket noBracket⟩
          have kept := keeps.put id hasSection valueOk_decimal lineOk
          have isValue : setting.readIn id (iniparserSet d (setting.entry id)
              (some (decimal val))) = .number val := by
            unfold Setting.readIn
            rw [isDefault, find_put sound, Function.update_self]
            exact congrArg Value.number (strtol_decimal low high)
          rw [isValue] at kept
          refine ⟨_, _, ?_, Store.dict_put live (some _), Store.put_file _, kept⟩
          change rkParamSetInt (setting.entry id) val store = _
          unfold rkParamSetInt rkParamSetString
          rw [Store.write_live live]
          dsimp only [bind, Except.bind]
          rw [if_pos short]
          rfl
  | text default =>
      cases value with
      | number val =>
          rw [isDefault] at fits
          exact fits.elim
      | text val =>
          rw [isDefault] at fits
          cases val with
          | none => exact fits.elim
          | some text =>
              have kept := keeps.put id hasSection fits.1 fits.2
              have isValue : setting.readIn id (iniparserSet d (setting.entry id)
                  (some text)) = .text (some text) := by
                unfold Setting.readIn
                rw [isDefault, find_put sound, Function.update_self]
                rfl
              rw [isValue] at kept
              exact ⟨_, _, Store.write_live live _, Store.dict_put live (some _), Store.put_file _,
                kept⟩

theorem loaded_keeps (live : store.dict = .ok (some d)) (stored : Stored d) :
    store.loaded = .ok (0, store) := by
  obtain ⟨address, isPointer, _⟩ := Store.dict_live live
  unfold Store.loaded
  rw [if_neg (by simp [isPointer]), live]
  dsimp only [bind, Except.bind]
  rw [rkParamDump_stored stored stored.storable.sound rfl]
  rfl

theorem load_keeps (isFile : store.file.bind iniparserLoad = some e) (stored : Stored e) :
    (store.load true).dict = .ok (some e) ∧
      (store.load true).loaded = .ok (0, store.load true) := by
  have live : (store.load true).dict = .ok (some e) := by
    rw [Store.dict_load, if_pos rfl, isFile]
  exact ⟨live, loaded_keeps live stored⟩

theorem init_keeps {text : Option Text} (factory : Option Text)
    (isFile : text.bind iniparserLoad = some e) (stored : Stored e) :
    ∃ after, rkParamInit true true true (Store.start text factory) = .ok (0, after) ∧
      after.dict = .ok (some e) ∧ after.file = text := by
  have sameFile : (Store.start text factory).file.bind iniparserLoad = some e := isFile
  obtain ⟨live, isLoaded⟩ := load_keeps sameFile stored
  obtain ⟨address, isPointer, _⟩ := Store.dict_live live
  refine ⟨_, ?_, live, Store.load_file true⟩
  unfold rkParamInit
  change Store.loaded (if ((Store.start text factory).load true).gIniD = none then _ else _) = _
  rw [if_neg (by simp [isPointer])]
  exact isLoaded

theorem saved_keeps (keeps : Keeps base d values) :
    ∃ e, (some (iniparserDumpIni d)).bind iniparserLoad = some e ∧ Keeps base e values := by
  obtain ⟨e, isLoaded, sound, same⟩ := load_dump keeps.stored.storable
  exact ⟨e, isLoaded, keeps.congr sound same⟩

theorem call_agrees (agrees : Agrees base store kept) (call : SettingCall)
    (fits : call.Fits base) :
    ∃ after, call.run store = .ok (after, (kept.step call).2) ∧
      Agrees base after (kept.step call).1 := by
  obtain ⟨d, e, live, running, isFile, saved⟩ := agrees
  cases call with
  | get setting id =>
      refine ⟨store, ?_, d, e, live, running, isFile, saved⟩
      have reads : setting.readIn id d = kept.running setting id :=
        congrFun (congrFun running.reads setting) id
      change (do let value ← setting.get id store; _ : Except Fault _) = _
      rw [get_stored live running.stored, reads]
      rfl
  | set setting id value =>
      obtain ⟨after, next, isSet, liveAfter, sameFile, kept⟩ :=
        set_keeps live running setting id fits.1 fits.2
      refine ⟨after, ?_, next, e, liveAfter, kept, sameFile ▸ isFile, saved⟩
      change (do let store ← setting.set id value store; _ : Except Fault _) = _
      rw [isSet]
      rfl
  | save =>
      obtain ⟨next, isNext, kept⟩ := saved_keeps running
      refine ⟨{ store with file := some (iniparserDumpIni d) }, ?_, d, next, live, running,
        isNext, kept⟩
      change (do let result ← rkParamSave true store; _ : Except Fault _) = _
      rw [save_opened live]
      rfl
  | reload =>
      obtain ⟨address, isPointer, _⟩ := Store.dict_live live
      have sameFile : (store.put none).file.bind iniparserLoad = some e :=
        (Store.put_file none).symm ▸ isFile
      obtain ⟨liveAfter, isLoaded⟩ := load_keeps sameFile saved.stored
      refine ⟨(store.put none).load true, ?_, e, e, liveAfter, saved, ?_, saved⟩
      · change (do let result ← rkParamReload true store; _ : Except Fault _) = _
        unfold rkParamReload
        rw [if_neg (by simp [isPointer]), Store.freedict_live live]
        dsimp only [bind, Except.bind]
        rw [isLoaded]
        rfl
      · rw [Store.load_file, Store.put_file]
        exact isFile
  | restart =>
      obtain ⟨address, isPointer, _⟩ := Store.dict_live live
      obtain ⟨next, isNext, kept⟩ := saved_keeps running
      obtain ⟨after, isInit, liveAfter, sameFile⟩ :=
        init_keeps store.factory isNext kept.stored
      refine ⟨after, ?_, next, next, liveAfter, kept, sameFile ▸ isNext, kept⟩
      let written : Store := { store with file := some (iniparserDumpIni d) }
      have liveWritten : written.dict = .ok (some d) := live
      change (do let result ← rkParamDeinit true store; _ : Except Fault _) = _
      unfold rkParamDeinit
      rw [if_neg (by simp [isPointer]), save_opened live]
      dsimp only [bind, Except.bind, Option.map_some, Option.getD_some]
      rw [if_neg (by simp [isPointer]), Store.freedict_live liveWritten]
      dsimp only [pure, Except.pure]
      rw [Store.put_file, Store.put_factory, isInit]
      rfl
  | kill =>
      obtain ⟨after, isInit, liveAfter, sameFile⟩ :=
        init_keeps store.factory isFile saved.stored
      refine ⟨after, ?_, e, e, liveAfter, saved, sameFile ▸ isFile, saved⟩
      change (do let result ← rkParamInit true true true _; _ : Except Fault _) = _
      rw [isInit]
      rfl

theorem calls_agree {calls : List SettingCall} (agrees : Agrees base store kept)
    (fits : ∀ call ∈ calls, call.Fits base) :
    ∃ after, runSettings store calls = .ok (after, (kept.steps calls).2) ∧
      Agrees base after (kept.steps calls).1 := by
  induction calls generalizing store kept with
  | nil => exact ⟨store, rfl, agrees⟩
  | cons call calls induction =>
      obtain ⟨ofCall, ofRest⟩ := List.forall_mem_cons.mp fits
      obtain ⟨after, isRun, agreesAfter⟩ := call_agrees agrees call ofCall
      obtain ⟨last, continues, agreesLast⟩ := induction agreesAfter ofRest
      refine ⟨last, ?_, agreesLast⟩
      unfold runSettings
      rw [isRun]
      dsimp only [bind, Except.bind]
      rw [continues]
      rfl

end Runs

/-- From the first start on, in every order of calls, a getter returns what was set last, or
what the file had, and after a restart what was saved last. -/
theorem settings_follow {text factory : Option Text} {d : Dictionary}
    (isFile : text.bind iniparserLoad = some d) (roomy : Roomy d) {calls : List SettingCall}
    (fits : ∀ call ∈ calls, call.Fits d) :
    ∃ store after, rkParamInit true true true (Store.start text factory) = .ok (0, store) ∧
      runSettings store calls =
        .ok (after, ((Kept.mk (valuesOf d) (valuesOf d)).steps calls).2) ∧
      Agrees d after ((Kept.mk (valuesOf d) (valuesOf d)).steps calls).1 := by
  obtain ⟨store, isInit, live, sameFile⟩ := init_keeps factory isFile roomy.stored
  have agrees : Agrees d store ⟨valuesOf d, valuesOf d⟩ :=
    ⟨d, d, live, roomy.keeps, sameFile ▸ isFile, roomy.keeps⟩
  obtain ⟨after, isRun, agreesAfter⟩ := calls_agree agrees fits
  exact ⟨store, after, isInit, isRun, agreesAfter⟩

/-- The volume before and after a process that is killed, and after a restart. -/
theorem settings_follow_volume :
    let d := dictionarySet (dictionaryNew 0) "audio.0".toList none
    ∃ store after,
      rkParamInit true true true (Store.start (some (iniparserDumpIni d)) none) = .ok (0, store) ∧
        runSettings store [.set .audioVolume 0 (.number 70), .get .audioVolume 0, .kill,
          .get .audioVolume 0, .set .audioVolume 0 (.number 60), .restart, .get .audioVolume 0] =
        .ok (after, [none, some (.number 70), none, some (.number 50), none, none,
          some (.number 60)]) := by
  intro d
  have storable : Storable d :=
    storable_set_section (storable_new 0) (by decide) (by decide)
  have small : ∀ s, (d.inSection s).length ≤ 1 := by
    intro s
    refine Nat.le_trans (length_inSection_set (sound_new 0) _ _ s) ?_
    have none : (dictionaryNew 0).inSection s = [] := by
      simp [Dictionary.inSection, Dictionary.entries, dictionaryNew]
    rw [none]
    split <;> decide
  have stored : Stored d := ⟨storable, fun s _ => Nat.le_trans (small s) (by decide)⟩
  obtain ⟨e, isLoaded, sound, same⟩ := load_dump storable
  have isFile : (some (iniparserDumpIni d)).bind iniparserLoad = some e := by
    rw [Option.bind_some, isLoaded]
  have roomy : Roomy e := by
    refine ⟨stored.congr sound same, fun s _ => ?_⟩
    rw [length_inSection_congr sound storable.sound (fun key => by rw [same]) s]
    have few : Setting.all.length = 55 := rfl
    have sizes := small s
    unfold maxSectionKeys
    omega
  have hasSection : dictionaryFind e (Owner.audio.sectionOf 0) = some none := by
    rw [same]
    decide +kernel
  obtain ⟨store, after, isInit, isRun, _⟩ := @settings_follow _ none e isFile roomy
    [.set .audioVolume 0 (.number 70), .get .audioVolume 0, .kill, .get .audioVolume 0,
      .set .audioVolume 0 (.number 60), .restart, .get .audioVolume 0] (by
        simp only [List.forall_mem_cons, List.not_mem_nil, IsEmpty.forall_iff, implies_true]
        exact ⟨⟨⟨by decide, by decide⟩, hasSection⟩, trivial, trivial, trivial,
          ⟨⟨by decide, by decide⟩, hasSection⟩, trivial, trivial, trivial⟩)
  have values : valuesOf e = valuesOf d := by
    unfold valuesOf Setting.readIn
    rw [same]
  refine ⟨store, after, isInit, ?_⟩
  rw [isRun, values]
  have replies : ((Kept.mk (valuesOf d) (valuesOf d)).steps
      [.set .audioVolume 0 (.number 70), .get .audioVolume 0, .kill, .get .audioVolume 0,
        .set .audioVolume 0 (.number 60), .restart, .get .audioVolume 0]).2 =
      [none, some (.number 70), none, some (.number 50), none, none, some (.number 60)] := by
    decide +kernel
  rw [replies]

end Rkipc.Param
