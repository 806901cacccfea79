import Rkipc.Param.Store

namespace Rkipc.Param

open Ini

/-! Sequences of calls of the configuration store. -/

inductive Call (double : Type)
  | init (opened copied reopened : Bool)
  | getInt (entry : Text) (default : Int)
  | getDouble (entry : Text) (default : double)
  | getString (entry : Text) (default : Option Text)
  | setInt (entry : Text) (val : Int)
  | setString (entry : Text) (val : Option Text)
  | save (opened : Bool)
  | reload (opened : Bool)
  | deinit (opened : Bool)

namespace Call

variable {double : Type}

def run (atof : Text → double) (truncate : double → Int) (call : Call double)
    (store : Store) : Except Fault Store :=
  match call with
  | .init opened copied reopened =>
      (rkParamInit opened copied reopened store).map Prod.snd
  | .getInt entry default => (rkParamGetInt entry default store).map fun _ => store
  | .getDouble entry default =>
      (rkParamGetDouble atof truncate entry default store).map fun _ => store
  | .getString entry default =>
      (rkParamGetString entry default store).map fun _ => store
  | .setInt entry val => rkParamSetInt entry val store
  | .setString entry val => rkParamSetString entry val store
  | .save opened => (rkParamSave opened store).map Prod.snd
  | .reload opened => (rkParamReload opened store).map Prod.snd
  | .deinit opened => (rkParamDeinit opened store).map Prod.snd

def IsInit : Call double → Prop
  | .init _ _ _ => True
  | _ => False

/-- Whether the call runs `rk_param_save`, and what its `fopen` returns. -/
def saves (call : Call double) (store : Store) : Option Bool :=
  match call with
  | .save opened => some opened
  | .deinit opened => if store.gIniD = none then none else some opened
  | _ => none

def Frees (call : Call double) (store : Store) : Prop :=
  match call with
  | .deinit _ => store.gIniD ≠ none
  | _ => False

end Call

/-- A failing save leaves the values in memory and the file as they were. -/
def FailsUnchanged (store : Store) (opened : Bool) : Prop :=
  ∀ after, rkParamSave opened store = .ok (-1, after) →
    after.dict = store.dict ∧ after.file = store.file

section LifeCycle

variable {double : Type} (atof : Text → double) (truncate : double → Int)

/-- No call of the sequence touches a freed dictionary, and no save that fails
changes anything. -/
def Safe : Store → List (Call double) → Prop
  | _, [] => True
  | store, call :: calls =>
      call.run atof truncate store ≠ .error .freed ∧
        (∀ opened, call.saves store = some opened → FailsUnchanged store opened) ∧
        ∀ after, call.run atof truncate store = .ok after → Safe after calls

/-- Nothing but an init follows a deinit that found a dictionary, and `fopen`
fails in a save only where there is no dictionary. -/
def Careful : Store → List (Call double) → Prop
  | _, [] => True
  | store, call :: calls =>
      (call.saves store = some false → store.gIniD = none) ∧
        (call.Frees store → ∀ next ∈ calls.head?, next.IsInit) ∧
        ∀ after, call.run atof truncate store = .ok after → Careful after calls

end LifeCycle

section Steps

variable {store : Store} {d : Option Dictionary}

theorem failsUnchanged_iff (known : store.dict = .ok d) (opened : Bool) :
    FailsUnchanged store opened ↔ (opened = false → store.gIniD = none) := by
  unfold FailsUnchanged
  cases opened with
  | true =>
      rw [save_opened known]
      simp
  | false =>
      obtain ⟨after, failed, isNull, sameFile⟩ := save_failed known
      rw [failed]
      constructor
      · intro unchanged _
        have same := (unchanged after rfl).1
        exact Store.dict_null.mp (same.symm.trans isNull)
      · intro null other isAfter
        cases isAfter
        exact ⟨isNull.trans (Store.dict_null.mpr (null rfl)).symm, sameFile⟩

/-- After a deinit that found a dictionary the pointer leads to a freed one. -/
theorem deinit_opened {e : Dictionary} (live : store.dict = .ok (some e)) :
    ∃ after, rkParamDeinit true store = .ok (0, after) ∧
      after.dict = .error .freed := by
  obtain ⟨address, isPointer, _⟩ := Store.dict_live live
  have saved : ({ store with file := some (iniparserDumpIni e) } : Store).dict =
      .ok (some e) := live
  refine ⟨_, ?_, Store.dict_put saved none⟩
  unfold rkParamDeinit
  rw [if_neg (by simp [isPointer]), save_opened live]
  dsimp only [bind, Except.bind, Option.map_some, Option.getD_some]
  rw [if_neg (by simp [isPointer]), Store.freedict_live saved]
  rfl

theorem deinit_failed {e : Dictionary} (live : store.dict = .ok (some e)) :
    ∃ after, rkParamDeinit false store = .ok (0, after) ∧
      after.dict = .ok none := by
  obtain ⟨address, isPointer, _⟩ := Store.dict_live live
  obtain ⟨after, failed, isNull, _⟩ := save_failed live
  refine ⟨after, ?_, isNull⟩
  unfold rkParamDeinit
  rw [if_neg (by simp [isPointer]), failed]
  dsimp only [bind, Except.bind]
  rw [if_pos (Store.dict_null.mp isNull)]
  rfl

end Steps

section Runs

variable {double : Type} {atof : Text → double} {truncate : double → Int}
  {store : Store} {d : Option Dictionary}

/-- A call on a freed dictionary uses or frees it, unless it is an init. -/
theorem run_freed (freed : store.dict = .error .freed) {call : Call double}
    (notInit : ¬ call.IsInit) : call.run atof truncate store = .error .freed := by
  have isPointer : store.gIniD ≠ none := (Store.dict_error freed).2
  have written : ∀ change, store.write change = .error .freed := by
    intro change
    unfold Store.write
    rw [freed]
    rfl
  have notFreed : store.iniparserFreedict = .error .freed := by
    unfold Store.iniparserFreedict
    rw [freed]
    rfl
  have notSaved : ∀ opened, rkParamSave opened store = .error .freed := by
    intro opened
    unfold rkParamSave
    rw [freed, notFreed]
    cases opened <;> rfl
  cases call with
  | init opened copied reopened => exact absurd trivial notInit
  | getInt entry default =>
      simp [Call.run, rkParamGetInt, freed, bind, Except.bind, Except.map]
  | getDouble entry default =>
      simp [Call.run, rkParamGetDouble, freed, bind, Except.bind, Except.map]
  | getString entry default =>
      simp [Call.run, rkParamGetString, freed, bind, Except.bind, Except.map]
  | setInt entry val =>
      simp [Call.run, rkParamSetInt, rkParamSetString, written, bind, Except.bind]
  | setString entry val => exact written _
  | save opened => simp [Call.run, notSaved, Except.map]
  | reload opened =>
      simp [Call.run, rkParamReload, isPointer, notFreed, bind, Except.bind,
        Except.map]
  | deinit opened =>
      simp [Call.run, rkParamDeinit, isPointer, notSaved, bind, Except.bind,
        Except.map]

theorem getnumber_cases {number : Type} (convert : Text → number)
    (d : Option Dictionary) (entry : Text) (default : number) :
    (∃ val, iniparserGetnumber convert d entry default = .ok val) ∨
      iniparserGetnumber convert d entry default = .error .null := by
  unfold iniparserGetnumber
  split
  · exact .inl ⟨default, rfl⟩
  · exact .inr rfl
  · exact .inl ⟨_, rfl⟩

theorem write_known (known : store.dict = .ok d) (change : Dictionary → Dictionary) :
    ∃ after, store.write change = .ok after ∧ after.dict = .ok (d.map change) := by
  cases d with
  | none =>
      refine ⟨store, ?_, known⟩
      unfold Store.write
      rw [known]
      rfl
  | some d => exact ⟨_, Store.write_live known change, Store.dict_put known _⟩

variable (atof truncate) in
/-- A call on a live dictionary or on NULL leaves such a one or ends with another
fault, unless it is a deinit that saves the dictionary and frees it. -/
theorem run_known (known : store.dict = .ok d) (call : Call double) :
    ((∃ after e, call.run atof truncate store = .ok after ∧ after.dict = .ok e) ∧
        (call.Frees store → call.saves store = some false)) ∨
      ((∃ fault, call.run atof truncate store = .error fault ∧ fault ≠ .freed) ∧
        ¬ call.Frees store) ∨
        (call.Frees store ∧ call.saves store = some true ∧
          ∃ after, call.run atof truncate store = .ok after ∧
            after.dict = .error .freed) := by
  cases call with
  | init opened copied reopened =>
      obtain ⟨code, after, e, isResult, isDict⟩ | overflow :=
        init_cases opened copied reopened store
      · exact .inl ⟨⟨after, e, by simp [Call.run, isResult, Except.map], isDict⟩, nofun⟩
      · exact .inr (.inl ⟨⟨.overflow, by simp [Call.run, overflow, Except.map],
          by decide⟩, id⟩)
  | getInt entry default =>
      obtain ⟨val, isVal⟩ | null := getnumber_cases strtol d entry default
      · exact .inl ⟨⟨store, d, by simp [Call.run, rkParamGetInt, known, isVal, bind,
          Except.bind, Except.map], known⟩, nofun⟩
      · exact .inr (.inl ⟨⟨.null, by simp [Call.run, rkParamGetInt, known, null,
          bind, Except.bind, Except.map], by decide⟩, id⟩)
  | getDouble entry default =>
      obtain ⟨val, isVal⟩ | null := getnumber_cases atof d entry default
      · exact .inl ⟨⟨store, d, by simp [Call.run, rkParamGetDouble, known, isVal,
          bind, Except.bind, Except.map, pure, Except.pure], known⟩, nofun⟩
      · exact .inr (.inl ⟨⟨.null, by simp [Call.run, rkParamGetDouble, known, null,
          bind, Except.bind, Except.map], by decide⟩, id⟩)
  | getString entry default =>
      exact .inl ⟨⟨store, d, by simp [Call.run, rkParamGetString, known, bind,
        Except.bind, Except.map, pure, Except.pure], known⟩, nofun⟩
  | setInt entry val =>
      obtain ⟨after, written, isDict⟩ := write_known known
        fun d => iniparserSet d entry (some (decimal val))
      by_cases fits : (decimal val).length < 8
      · exact .inl ⟨⟨after, _, by simp [Call.run, rkParamSetInt, rkParamSetString,
          written, fits, bind, Except.bind, pure, Except.pure], isDict⟩, nofun⟩
      · exact .inr (.inl ⟨⟨.overflow, by simp [Call.run, rkParamSetInt,
          rkParamSetString, written, fits, bind, Except.bind], by decide⟩, id⟩)
  | setString entry val =>
      obtain ⟨after, written, isDict⟩ := write_known known
        fun d => iniparserSet d entry val
      exact .inl ⟨⟨after, _, written, isDict⟩, nofun⟩
  | save opened =>
      cases opened with
      | true =>
          refine .inl ⟨⟨_, d, by rw [Call.run, save_opened known]; rfl, ?_⟩, nofun⟩
          exact known
      | false =>
          obtain ⟨after, failed, isNull, _⟩ := save_failed known
          exact .inl ⟨⟨after, none, by rw [Call.run, failed]; rfl, isNull⟩, nofun⟩
  | reload opened =>
      obtain ⟨code, after, e, isResult, isDict⟩ | overflow :=
        reload_cases known opened
      · exact .inl ⟨⟨after, e, by simp [Call.run, isResult, Except.map], isDict⟩, nofun⟩
      · exact .inr (.inl ⟨⟨.overflow, by simp [Call.run, overflow, Except.map],
          by decide⟩, id⟩)
  | deinit opened =>
      cases d with
      | none =>
          have null := Store.dict_null.mp known
          refine .inl ⟨⟨store, none, ?_, known⟩, fun frees => absurd null frees⟩
          simp [Call.run, rkParamDeinit, null, Except.map]
      | some d =>
          obtain ⟨address, isPointer, _⟩ := Store.dict_live known
          cases opened with
          | true =>
              obtain ⟨after, isResult, freed⟩ := deinit_opened known
              exact .inr (.inr ⟨by simp [Call.Frees, isPointer],
                by simp [Call.saves, isPointer], after,
                by rw [Call.run, isResult]; rfl, freed⟩)
          | false =>
              obtain ⟨after, isResult, isNull⟩ := deinit_failed known
              exact .inl ⟨⟨after, none, by rw [Call.run, isResult]; rfl, isNull⟩,
                fun _ => by simp [Call.saves, isPointer]⟩

variable (atof truncate) in
theorem run_init (opened copied reopened : Bool) (store : Store) :
    (∃ after e, (Call.init opened copied reopened).run atof truncate store =
        .ok after ∧ after.dict = .ok e) ∨
      (Call.init opened copied reopened).run atof truncate store =
        .error .overflow := by
  obtain ⟨code, after, e, isResult, isDict⟩ | overflow :=
    init_cases opened copied reopened store
  · exact .inl ⟨after, e, by simp [Call.run, isResult, Except.map], isDict⟩
  · exact .inr (by simp [Call.run, overflow, Except.map])

/-- What may come next where the pointer may lead to a freed dictionary. -/
def Ready (store : Store) (calls : List (Call double)) : Prop :=
  store.dict = .error .freed → ∀ next ∈ calls.head?, next.IsInit

theorem ready_known (known : store.dict = .ok d) (calls : List (Call double)) :
    Ready store calls := by
  intro freed
  rw [known] at freed
  cases freed

theorem pointer_of_frees {call : Call double} (frees : call.Frees store) :
    store.gIniD ≠ none := by
  cases call with
  | deinit opened => exact frees
  | _ => exact frees.elim

theorem init_of_safe (freed : store.dict = .error .freed) {calls : List (Call double)}
    (safe : Safe atof truncate store calls) : ∀ next ∈ calls.head?, next.IsInit := by
  intro next isNext
  cases calls with
  | nil => cases isNext
  | cons call calls =>
      cases isNext
      by_contra notInit
      exact safe.1 (run_freed freed notInit)

theorem safe_iff_careful (calls : List (Call double)) (ready : Ready store calls) :
    Safe atof truncate store calls ↔ Careful atof truncate store calls := by
  induction calls generalizing store with
  | nil => exact Iff.rfl
  | cons call calls induction =>
      unfold Safe Careful
      cases known : store.dict with
      | error fault =>
          obtain ⟨rfl, _⟩ := Store.dict_error known
          cases call with
          | init opened copied reopened =>
              obtain ⟨after, e, isAfter, isDict⟩ | overflow :=
                run_init atof truncate opened copied reopened
                  store
              · have rest := induction (ready_known isDict calls)
                simp [isAfter, Call.saves, Call.Frees, rest]
              · simp [overflow, Call.saves, Call.Frees]
          | _ => exact (ready known _ rfl).elim
      | ok d =>
          have unchanged : (∀ opened, call.saves store = some opened →
              FailsUnchanged store opened) ↔
                (call.saves store = some false → store.gIniD = none) := by
            constructor
            · intro all isFalse
              exact (failsUnchanged_iff known false).mp (all false isFalse) rfl
            · intro null opened isOpened
              refine (failsUnchanged_iff known opened).mpr ?_
              rintro rfl
              exact null isOpened
          rw [unchanged]
          obtain ⟨⟨after, e, isAfter, isDict⟩, frees⟩ |
            ⟨⟨fault, isFault, notFreed⟩, notFrees⟩ |
            ⟨frees, saves, after, isAfter, freed⟩ :=
              run_known atof truncate known call
          · have rest := induction (ready_known isDict calls)
            constructor
            · rintro ⟨_, null, safe⟩
              refine ⟨null, fun isFreeing => absurd (null (frees isFreeing))
                (pointer_of_frees isFreeing), fun other isOther => ?_⟩
              rw [isAfter] at isOther
              cases isOther
              exact rest.mp (safe _ isAfter)
            · rintro ⟨null, _, careful⟩
              refine ⟨by simp [isAfter], null, fun other isOther => ?_⟩
              rw [isAfter] at isOther
              cases isOther
              exact rest.mpr (careful _ isAfter)
          · simp [isFault, notFreed, notFrees]
          · constructor
            · rintro ⟨_, null, safe⟩
              have next : ∀ next ∈ calls.head?, next.IsInit :=
                init_of_safe freed (safe _ isAfter)
              refine ⟨null, fun _ => next, fun other isOther => ?_⟩
              rw [isAfter] at isOther
              cases isOther
              exact (induction fun _ => next).mp (safe _ isAfter)
            · rintro ⟨null, next, careful⟩
              refine ⟨by simp [isAfter], null, fun other isOther => ?_⟩
              rw [isAfter] at isOther
              cases isOther
              exact (induction fun _ => next frees).mpr (careful _ isAfter)

end Runs

/-- From the start of the program the calls are safe exactly if they are careful. -/
theorem lifeCycle_iff {double : Type} (atof : Text → double)
    (truncate : double → Int) (file factory : Option Text)
    (calls : List (Call double)) :
    Safe atof truncate (Store.start file factory) calls ↔
      Careful atof truncate (Store.start file factory) calls :=
  safe_iff_careful calls (ready_known (d := none) rfl calls)

theorem map_eq_ok {α β : Type} {f : α → β} {result : Except Fault α} {val : β}
    (mapped : result.map f = .ok val) : ∃ a, result = .ok a ∧ f a = val := by
  cases result with
  | error fault => cases mapped
  | ok a =>
      cases mapped
      exact ⟨a, rfl, rfl⟩

/-- What the two kinds of failing sequences do to a small configuration. -/
theorem values_lost_and_freed_used :
    let file : Text := "[video.0]\nwidth = 2688\n".toList
    let init : Call Int := .init true true true
    ¬ Safe (fun _ => 0) id (Store.start file none) [init, .save false] ∧
      ¬ Safe (fun _ => 0) id (Store.start file none)
        [init, .deinit true, .getInt "video.0:width".toList (-1)] := by
  dsimp only
  have loaded : ∃ store, (Call.init true true true).run (fun _ => (0 : Int)) id
      (Store.start (some "[video.0]\nwidth = 2688\n".toList) none) = .ok store ∧
        store.gIniD = some 0 := by
    have pointer : ((Call.init true true true).run (fun _ => (0 : Int)) id
        (Store.start (some "[video.0]\nwidth = 2688\n".toList) none)).map
          Store.gIniD = .ok (some 0) := by
      decide +kernel
    obtain ⟨store, isLoaded, isPointer⟩ := map_eq_ok pointer
    exact ⟨store, isLoaded, isPointer⟩
  obtain ⟨store, isLoaded, isPointer⟩ := loaded
  rw [safe_iff_careful _ (ready_known (d := none) rfl _),
    safe_iff_careful _ (ready_known (d := none) rfl _)]
  constructor
  · intro careful
    have null := (careful.2.2 store isLoaded).1 rfl
    rw [isPointer] at null
    cases null
  · intro careful
    refine (careful.2.2 store isLoaded).2.1 ?_ _ rfl
    simp [Call.Frees, isPointer]

end Rkipc.Param
