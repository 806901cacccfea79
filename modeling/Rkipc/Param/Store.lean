import Rkipc.Ini.RoundTrip

namespace Rkipc.Param

open Ini

/-! The configuration store: one dictionary behind a global pointer, and a file. -/

/-- What C leaves undefined. -/
inductive Fault
  | freed
  | overflow
  | null
deriving DecidableEq

/-- A dictionary is at its address until it is freed; `gIniD` is `g_ini_d_`. -/
structure Store where
  dicts : List (Option Dictionary)
  gIniD : Option Nat
  file : Option Text
  factory : Option Text
deriving DecidableEq

namespace Store

def start (file factory : Option Text) : Store := ⟨[], none, file, factory⟩

/-- The dictionary that the pointer leads to, or NULL. -/
def dict (store : Store) : Except Fault (Option Dictionary) :=
  match store.gIniD with
  | none => .ok none
  | some address =>
      match store.dicts[address]? with
      | some (some d) => .ok (some d)
      | _ => .error .freed

/-- What is at the address that the pointer holds. -/
def put (store : Store) (slot : Option Dictionary) : Store :=
  match store.gIniD with
  | none => store
  | some address => { store with dicts := store.dicts.set address slot }

/-- A dictionary that is NULL stays NULL. -/
def write (store : Store) (change : Dictionary → Dictionary) :
    Except Fault Store := do
  match ← store.dict with
  | none => return store
  | some d => return store.put (some (change d))

def iniparserFreedict (store : Store) : Except Fault Store := do
  match ← store.dict with
  | none => return store
  | some _ => return store.put none

/-- `g_ini_d_ = iniparser_load(g_ini_path_)`; `opened` is the outcome of `fopen`. -/
def load (store : Store) (opened : Bool) : Store :=
  match (if opened then store.file.bind iniparserLoad else none) with
  | none => { store with gIniD := none }
  | some d =>
      { store with
        dicts := store.dicts ++ [some d], gIniD := some store.dicts.length }

/-- `cp` of the factory configuration. -/
def copyFactory (store : Store) : Store :=
  { store with file := store.factory.orElse fun _ => store.file }

end Store

/-- `%d` -/
def decimal (val : Int) : Text :=
  if val < 0 then '-' :: Nat.toDigits 10 val.natAbs
  else Nat.toDigits 10 val.natAbs

def digitVal (char : Char) : Nat :=
  if '0' ≤ char ∧ char ≤ '9' then char.toNat - '0'.toNat
  else if 'a' ≤ char ∧ char ≤ 'z' then char.toNat - 'a'.toNat + 10
  else if 'A' ≤ char ∧ char ≤ 'Z' then char.toNat - 'A'.toNat + 10
  else 36

/-- `strtol(nptr, NULL, 0)` with a `long` of 32 bits. -/
def strtol (nptr : Text) : Int :=
  let text := nptr.dropWhile isspace
  let (negative, text) :=
    match text with
    | '-' :: rest => (true, rest)
    | '+' :: rest => (false, rest)
    | text => (false, text)
  let (base, text) :=
    match text with
    | '0' :: mark :: digit :: rest =>
        if (mark = 'x' ∨ mark = 'X') ∧ digitVal digit < 16 then (16, digit :: rest)
        else (8, text)
    | '0' :: _ => (8, text)
    | text => (10, text)
  let val : Nat := (text.takeWhile fun char => digitVal char < base).foldl
    (fun val char => val * base + digitVal char) 0
  let val : Int := if negative then -val else val
  max (-2147483648) (min 2147483647 val)

/-- `iniparser_getint` and `iniparser_getdouble` with their conversions. -/
def iniparserGetnumber {number : Type} (convert : Text → number)
    (d : Option Dictionary) (key : Text) (notfound : number) :
    Except Fault number :=
  match d.bind fun d => dictionaryFind d (strlwc key 1025) with
  | none => .ok notfound
  | some none => .error .null
  | some (some text) => .ok (convert text)

def iniparserGetsecnkeys (d : Dictionary) (s : Text) : Nat :=
  if iniparserFindEntry d s then (d.inSection (strlwc s 1025)).length else 0

def maxSectionKeys : Nat := 1024

/-- Lists the keys of every section in an array of fixed size. -/
def rkParamDump (d : Option Dictionary) : Except Fault Unit :=
  match d with
  | none => .ok ()
  | some d =>
      if ∀ s ∈ d.sections, iniparserGetsecnkeys d s ≤ maxSectionKeys then .ok ()
      else .error .overflow

/-- The end of `rk_param_init` and of `rk_param_reload`. -/
def Store.loaded (store : Store) : Except Fault (Int × Store) :=
  if store.gIniD = none then .ok (-1, store)
  else do
    rkParamDump (← store.dict)
    return (0, store)

def rkParamSave (opened : Bool) (store : Store) : Except Fault (Int × Store) :=
  if opened then do
    let d ← store.dict
    return (0, { store with file := some ((d.map iniparserDumpIni).getD []) })
  else do
    let store ← store.iniparserFreedict
    return (-1, { store with gIniD := none })

def rkParamGetInt (entry : Text) (default : Int) (store : Store) :
    Except Fault Int := do
  iniparserGetnumber strtol (← store.dict) entry default

/-- The `double` is returned as an `int`. -/
def rkParamGetDouble {double : Type} (atof : Text → double)
    (truncate : double → Int) (entry : Text) (default : double) (store : Store) :
    Except Fault Int := do
  let ret ← iniparserGetnumber atof (← store.dict) entry default
  return truncate ret

def rkParamGetString (entry : Text) (default : Option Text) (store : Store) :
    Except Fault (Option Text) := do
  return iniparserGetstring (← store.dict) entry default

def rkParamSetString (entry : Text) (val : Option Text) (store : Store) :
    Except Fault Store :=
  store.write fun d => iniparserSet d entry val

/-- `tmp` has room for seven characters; the call itself goes on behind it. -/
def rkParamSetInt (entry : Text) (val : Int) (store : Store) :
    Except Fault Store := do
  let store ← rkParamSetString entry (some (decimal val)) store
  if (decimal val).length < 8 then return store else .error .overflow

def rkParamInit (opened copied reopened : Bool) (store : Store) :
    Except Fault (Int × Store) :=
  let store := { store with gIniD := none }
  let store := store.load opened
  let store :=
    if store.gIniD = none then
      (if copied then store.copyFactory else store).load reopened
    else store
  store.loaded

def rkParamDeinit (opened : Bool) (store : Store) : Except Fault (Int × Store) :=
  if store.gIniD = none then .ok (0, store)
  else do
    let (_, store) ← rkParamSave opened store
    if store.gIniD = none then return (0, store)
    else
      let store ← store.iniparserFreedict
      return (0, store)

def rkParamReload (opened : Bool) (store : Store) : Except Fault (Int × Store) := do
  let store ← (if store.gIniD = none then .ok store else store.iniparserFreedict)
  (store.load opened).loaded

namespace Store

variable {store : Store}

theorem dict_null : store.dict = .ok none ↔ store.gIniD = none := by
  unfold dict
  cases store.gIniD with
  | none => simp
  | some address =>
      dsimp only
      split <;> simp

theorem dict_live {d : Dictionary} (live : store.dict = .ok (some d)) :
    ∃ address, store.gIniD = some address ∧
      store.dicts[address]? = some (some d) := by
  unfold dict at live
  cases isPointer : store.gIniD with
  | none =>
      rw [isPointer] at live
      cases live
  | some address =>
      rw [isPointer] at live
      dsimp only at live
      split at live
      next found =>
        cases live
        exact ⟨address, rfl, found⟩
      next => cases live

theorem dict_error {fault : Fault} (error : store.dict = .error fault) :
    fault = .freed ∧ store.gIniD ≠ none := by
  unfold dict at error
  split at error
  · cases error
  next address isPointer =>
    split at error
    · cases error
    next =>
      cases error
      exact ⟨rfl, by simp [isPointer]⟩

@[simp] theorem put_gIniD (slot : Option Dictionary) :
    (store.put slot).gIniD = store.gIniD := by
  unfold put
  cases isPointer : store.gIniD <;> simp [isPointer]

@[simp] theorem put_file (slot : Option Dictionary) :
    (store.put slot).file = store.file := by
  unfold put
  cases store.gIniD <;> rfl

@[simp] theorem put_factory (slot : Option Dictionary) :
    (store.put slot).factory = store.factory := by
  unfold put
  cases store.gIniD <;> rfl

theorem dict_put {d : Dictionary} (live : store.dict = .ok (some d))
    (slot : Option Dictionary) :
    (store.put slot).dict = match slot with
      | none => .error .freed
      | some e => .ok (some e) := by
  obtain ⟨address, isPointer, found⟩ := dict_live live
  obtain ⟨bound, _⟩ := List.getElem?_eq_some_iff.mp found
  unfold dict
  rw [put_gIniD, isPointer]
  unfold put
  rw [isPointer]
  dsimp only
  rw [List.getElem?_set_self bound]
  cases slot <;> rfl

theorem write_live {d : Dictionary} (live : store.dict = .ok (some d))
    (change : Dictionary → Dictionary) :
    store.write change = .ok (store.put (some (change d))) := by
  unfold write
  rw [live]
  rfl

theorem freedict_live {d : Dictionary} (live : store.dict = .ok (some d)) :
    store.iniparserFreedict = .ok (store.put none) := by
  unfold iniparserFreedict
  rw [live]
  rfl

theorem dict_load (opened : Bool) :
    (store.load opened).dict =
      .ok (if opened then store.file.bind iniparserLoad else none) := by
  unfold load
  cases (if opened then store.file.bind iniparserLoad else none) with
  | none => rfl
  | some d => simp [dict]

@[simp] theorem load_file (opened : Bool) :
    (store.load opened).file = store.file := by
  unfold load
  split <;> rfl

@[simp] theorem load_factory (opened : Bool) :
    (store.load opened).factory = store.factory := by
  unfold load
  split <;> rfl

end Store

section Steps

variable {store : Store} {d : Option Dictionary}

theorem loaded_cases (known : store.dict = .ok d) :
    (∃ code, store.loaded = .ok (code, store)) ∨ store.loaded = .error .overflow := by
  unfold Store.loaded
  split
  · exact .inl ⟨-1, rfl⟩
  · rw [known]
    have dumped : rkParamDump d = .ok () ∨ rkParamDump d = .error .overflow := by
      unfold rkParamDump
      split
      · exact .inl rfl
      · split
        · exact .inl rfl
        · exact .inr rfl
    cases dumped with
    | inl fits => exact .inl ⟨0, by simp [fits, bind, Except.bind, pure, Except.pure]⟩
    | inr overflow => exact .inr (by simp [overflow, bind, Except.bind])

theorem load_cases (store : Store) (opened : Bool) :
    (∃ code after e, (store.load opened).loaded = .ok (code, after) ∧
      after.dict = .ok e) ∨ (store.load opened).loaded = .error .overflow := by
  have known : (store.load opened).dict = _ := Store.dict_load opened
  obtain ⟨code, isResult⟩ | overflow := loaded_cases known
  · exact .inl ⟨code, _, _, isResult, known⟩
  · exact .inr overflow

theorem init_cases (opened copied reopened : Bool) (store : Store) :
    (∃ code after e, rkParamInit opened copied reopened store = .ok (code, after) ∧
      after.dict = .ok e) ∨
    rkParamInit opened copied reopened store = .error .overflow := by
  unfold rkParamInit
  dsimp only
  split
  · exact load_cases _ reopened
  · exact load_cases _ opened

theorem reload_cases (known : store.dict = .ok d) (opened : Bool) :
    (∃ code after e, rkParamReload opened store = .ok (code, after) ∧
      after.dict = .ok e) ∨
    rkParamReload opened store = .error .overflow := by
  unfold rkParamReload
  cases d with
  | none =>
      rw [if_pos (Store.dict_null.mp known)]
      exact load_cases store opened
  | some d =>
      obtain ⟨address, isPointer, _⟩ := Store.dict_live known
      rw [if_neg (by simp [isPointer]), Store.freedict_live known]
      exact load_cases (store.put none) opened

theorem save_opened (known : store.dict = .ok d) :
    rkParamSave true store =
      .ok (0, { store with file := some ((d.map iniparserDumpIni).getD []) }) := by
  unfold rkParamSave
  rw [if_pos rfl, known]
  rfl

theorem save_failed (known : store.dict = .ok d) :
    ∃ after, rkParamSave false store = .ok (-1, after) ∧
      after.dict = .ok none ∧ after.file = store.file := by
  unfold rkParamSave
  cases d with
  | none =>
      refine ⟨{ store with gIniD := none }, ?_, rfl, rfl⟩
      unfold Store.iniparserFreedict
      rw [if_neg (by decide), known]
      rfl
  | some d =>
      refine ⟨{ store.put none with gIniD := none }, ?_, rfl, Store.put_file _⟩
      rw [if_neg (by decide), Store.freedict_live known]
      rfl

end Steps

end Rkipc.Param
