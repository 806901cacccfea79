import Rkipc.Ui.PageStack

namespace Rkipc.Ui

open Transition

/-! The calls of the page manager keep the invariant. -/

variable {Handler : Type} {ui : Manager Handler}

namespace Manager

/-- With two pages on the stack, the upper one is not the main page. -/
theorem Kept.uiPagePopPage_eq (kept : ui.Kept) {cur next : StackItem Handler}
    {rest : List (StackItem Handler)} (isStack : ui.ctx.stack = cur :: next :: rest) :
    ui.uiPagePopPage = (0, ui.uncover cur next rest) := by
  have bottom := kept.layout.bottom
  have addresses := kept.layout.addresses
  rw [isStack] at bottom addresses
  obtain ⟨last, isLast⟩ : ∃ last, (next :: rest).getLast? = some last :=
    ⟨_, List.getLast?_eq_some_getLast (List.cons_ne_nil next rest)⟩
  rw [List.getLast?_cons_cons, isLast, Option.map_some] at bottom
  have notMain : ui.ctx.mainPage ≠ some cur.address := by
    intro isMain
    rw [bottom] at isMain
    have same : last.address = cur.address := Option.some.inj isMain
    refine (List.nodup_cons.mp addresses).1 ?_
    rw [← same]
    exact List.mem_map_of_mem (List.mem_of_getLast? isLast)
  simp [uiPagePopPage, isStack, notMain]

theorem Kept.uiPagePopPage (kept : ui.Kept) : ui.uiPagePopPage.2.Kept := by
  cases isStack : ui.ctx.stack with
  | nil => simpa [Manager.uiPagePopPage, isStack] using kept
  | cons cur below =>
      cases below with
      | nil =>
          have same : ui.uiPagePopPage.2 = ui := by simp [Manager.uiPagePopPage, isStack]
          rw [same]
          exact kept
      | cons next rest =>
          rw [kept.uiPagePopPage_eq isStack]
          exact kept.uncover isStack

theorem Kept.popPages (kept : ui.Kept) (num : Nat) : (popPages num ui).Kept := by
  induction num generalizing ui with
  | zero => exact kept
  | succ num induction => exact induction kept.uiPagePopPage

def handlers (ui : Manager Handler) : List Handler := ui.ctx.stack.map StackItem.handler

theorem Kept.popPages_handlers (kept : ui.Kept) {num : Nat}
    (deep : num < ui.handlers.length) :
    (Manager.popPages num ui).handlers = ui.handlers.drop num := by
  induction num generalizing ui with
  | zero => rfl
  | succ num induction =>
      obtain ⟨cur, next, rest, isStack⟩ :
          ∃ cur next rest, ui.ctx.stack = cur :: next :: rest := by
        cases isStack : ui.ctx.stack with
        | nil => simp [handlers, isStack] at deep
        | cons cur below =>
            cases below with
            | nil => simp [handlers, isStack] at deep
            | cons next rest => exact ⟨cur, next, rest, rfl⟩
      have popped := kept.uiPagePopPage_eq isStack
      have shorter : ui.uiPagePopPage.2.handlers = ui.handlers.tail := by
        rw [popped, handlers, kept.layout.uncover_stack isStack, handlers, isStack]
        rfl
      have stillDeep : num < ui.uiPagePopPage.2.handlers.length := by
        rw [shorter, List.length_tail]
        omega
      rw [Manager.popPages, induction kept.uiPagePopPage stillDeep, shorter, List.drop_tail]

theorem insert_handlers (handler : Handler) (userData address : Nat) :
    (ui.insert handler userData address).handlers.head? = some handler := by
  unfold insert handlers
  split <;> simp [StackItem.uiPageActive]

variable [DecidableEq Handler] {title : Handler → String}

theorem Kept.uiPagePushPage (kept : ui.Kept) (name : Option String) (userData : Nat)
    {address : Nat} (isFree : ui.free address = true) :
    (ui.uiPagePushPage title name userData address).2.Kept := by
  unfold Manager.uiPagePushPage
  split
  next => exact kept
  next name =>
    split_ifs with isEmpty
    · exact kept
    · split
      next => exact kept
      next handler found =>
        split_ifs with isTop
        · exact kept
        · exact kept.insert isTop userData isFree

theorem Kept.uiPageSwitchPage (kept : ui.Kept) (name : Option String) (userData : Nat)
    {address : Nat} (isFree : ui.free address = true) :
    (ui.uiPageSwitchPage title name userData address).2.Kept := by
  unfold Manager.uiPageSwitchPage
  split
  next => exact kept
  next wanted =>
    split_ifs with isEmpty
    · exact kept
    · split
      next num found => exact kept.popPages num
      next => exact kept.uiPagePushPage (some wanted) userData isFree

def Registered (title : Handler → String) (ui : Manager Handler) (name : String) : Prop :=
  ∃ page ∈ ui.ctx.pageLl, title page = name

theorem Kept.switched (kept : ui.Kept) {name : String} {userData address : Nat}
    (registered : Registered title ui name)
    (succeeds : (ui.uiPageSwitchPage title (some name) userData address).1 = 0) :
    (ui.uiPageSwitchPage title (some name) userData address).2.handlers.head?.map title =
      some name := by
  have notEmpty : name ≠ "" := by
    intro isEmpty
    simp [Manager.uiPageSwitchPage, isEmpty] at succeeds
  cases found : ui.ctx.stack.findIdx? fun item => name = title item.handler with
  | some num =>
      obtain ⟨deep, isNamed, _⟩ := List.findIdx?_eq_some_iff_getElem.mp found
      have inside : num < ui.handlers.length := by simpa [handlers] using deep
      have result : (ui.uiPageSwitchPage title (some name) userData address).2 =
          Manager.popPages num ui := by
        simp only [Manager.uiPageSwitchPage, if_neg notEmpty, found]
      rw [result, kept.popPages_handlers inside, List.head?_drop, handlers, List.getElem?_map,
        List.getElem?_eq_getElem deep]
      exact congrArg some (of_decide_eq_true isNamed).symm
  | none =>
      obtain ⟨page, member, pageNamed⟩ := registered
      obtain ⟨first, isFound⟩ : ∃ first, ui.pageFindByName title name = some first :=
        Option.isSome_iff_exists.mp
          (List.find?_isSome.mpr ⟨page, member, decide_eq_true pageNamed⟩)
      have isNamed : title first = name := by
        unfold pageFindByName at isFound
        simpa using List.find?_some isFound
      have notTop : (ui.ctx.stack.head?.map StackItem.handler) ≠ some first := by
        intro isTop
        obtain ⟨item, isHead, same⟩ := Option.map_eq_some_iff.mp isTop
        have others := List.findIdx?_eq_none_iff.mp found item (List.mem_of_head? isHead)
        rw [same] at others
        exact of_decide_eq_false others isNamed.symm
      have result : (ui.uiPageSwitchPage title (some name) userData address).2 =
          ui.insert first userData address := by
        simp only [Manager.uiPageSwitchPage, if_neg notEmpty, found, Manager.uiPagePushPage,
          isFound, if_neg notTop]
      rw [result, insert_handlers]
      exact congrArg some isNamed

end Manager

/-! `small_mem` and the registered pages stay what they are. -/

section Settings

/-- The two memories of the manager that no call writes. -/
def Manager.settings (ui : Manager Handler) : Bool × List Handler :=
  (ui.ctx.smallMem, ui.ctx.pageLl)

theorem settings_insert (handler : Handler) (userData address : Nat) :
    (ui.insert handler userData address).settings = ui.settings := by
  unfold Manager.insert Manager.settings
  split <;> rfl

theorem settings_pop : ui.uiPagePopPage.2.settings = ui.settings := by
  unfold Manager.uiPagePopPage
  split
  next => rfl
  next =>
    split_ifs
    · rfl
    · split <;> rfl

theorem settings_popPages (num : Nat) : (Manager.popPages num ui).settings = ui.settings := by
  induction num generalizing ui with
  | zero => rfl
  | succ num induction => exact induction.trans settings_pop

variable [DecidableEq Handler] {title : Handler → String} (name : Option String)
  (userData address : Nat)

theorem settings_push :
    (ui.uiPagePushPage title name userData address).2.settings = ui.settings := by
  unfold Manager.uiPagePushPage
  split
  next => rfl
  next =>
    split_ifs
    · rfl
    · split
      next => rfl
      next handler found =>
        split_ifs
        · rfl
        · exact settings_insert handler userData address

theorem settings_switch :
    (ui.uiPageSwitchPage title name userData address).2.settings = ui.settings := by
  unfold Manager.uiPageSwitchPage
  split
  next => rfl
  next wanted =>
    split_ifs
    · rfl
    · split
      next num found => exact settings_popPages num
      next => exact settings_push (some wanted) userData address

end Settings

/-! The end of the page manager. -/

theorem deinitItem_calls {item : StackItem Handler} {obj : Nat} :
    callsTo obj (Manager.deinitItem item) =
      if item.obj = obj then item.uiPageRemove.2 else [] := by
  simp [Manager.deinitItem]

/-- Whatever stands on the stack, after the loop over it every page has been told a whole
word. -/
theorem deinit_completes {items : List (StackItem Handler)} {events : List (Event Handler)}
    (objs : (items.map StackItem.obj).Nodup)
    (told : ∀ item ∈ items, callsTo item.obj events ∈ item.state.language)
    (gone : ∀ obj, (∀ item ∈ items, item.obj ≠ obj) → callsTo obj events ∈ lives)
    (obj : Nat) : callsTo obj (events ++ items.flatMap Manager.deinitItem) ∈ lives := by
  induction items generalizing events with
  | nil =>
      rw [List.flatMap_nil, List.append_nil]
      exact gone obj fun _ member => absurd member List.not_mem_nil
  | cons item rest induction =>
      obtain ⟨itemApart, restObjs⟩ := List.nodup_cons.mp objs
      obtain ⟨itemTold, restTold⟩ := List.forall_mem_cons.mp told
      rw [List.flatMap_cons, ← List.append_assoc]
      refine induction restObjs ?_ ?_
      · intro other member
        have notItem : item.obj ≠ other.obj := by
          intro same
          rw [same] at itemApart
          exact itemApart (List.mem_map_of_mem member)
        rw [callsTo_append, deinitItem_calls, if_neg notItem, List.append_nil]
        exact restTold other member
      · intro target absent
        rw [callsTo_append, deinitItem_calls]
        by_cases isItem : item.obj = target
        · rw [if_pos isItem, ← isItem]
          exact uiPageRemove_told itemTold
        · rw [if_neg isItem, List.append_nil]
          exact gone target (List.forall_mem_cons.mpr ⟨isItem, absent⟩)

variable [DecidableEq Handler]

/-- What holds of the stack of pages, and what a switch and `ui_page_deinit` do to it. -/
structure PagesInOrder (title : Handler → String) (smallMem : Bool) (registered : List Handler)
    (ui : Manager Handler) : Prop where
  top : ∀ head rest, ui.ctx.stack = head :: rest →
    head.state = .active ∧ screen ui.events = some head.obj
  others : ∀ item ∈ ui.ctx.stack.tail,
    item.state = if smallMem then PageState.destroyed else .notactive
  mainPage : ui.ctx.mainPage = ui.ctx.stack.getLast?.map StackItem.address
  apart : (ui.ctx.stack.map StackItem.address).Nodup ∧ (ui.ctx.stack.map StackItem.obj).Nodup
  neighbours : ui.ctx.stack.IsChain fun upper lower => upper.handler ≠ lower.handler
  words : ∀ obj, Lived (callsTo obj ui.events)
  switched : ∀ name userData address, (∃ page ∈ registered, title page = name) →
    (ui.uiPageSwitchPage title (some name) userData address).1 = 0 →
    (ui.uiPageSwitchPage title (some name) userData address).2.handlers.head?.map title =
      some name
  deinit : ui.uiPageDeinit.ctx.stack = [] ∧ ui.uiPageDeinit.ctx.mainPage = none ∧
    ∀ obj, callsTo obj ui.uiPageDeinit.events ∈ lives

def KeptWith (settings : Bool × List Handler) (ui : Manager Handler) : Prop :=
  ui.Kept ∧ ui.settings = settings

variable {title : Handler → String}

theorem step_keptWith (settings : Bool × List Handler) (ui : Manager Handler) (label : Label)
    (next : Manager Handler) (kept : KeptWith settings ui)
    (stepped : ui.step title label = some next) : KeptWith settings next := by
  obtain ⟨kept, same⟩ := kept
  cases label with
  | push name userData address =>
      obtain ⟨isFree, isNext⟩ := Option.ite_none_right_eq_some.mp stepped
      cases isNext
      exact ⟨kept.uiPagePushPage name userData isFree,
        (settings_push name userData address).trans same⟩
  | pop =>
      cases stepped
      exact ⟨kept.uiPagePopPage, settings_pop.trans same⟩
  | switch name userData address =>
      obtain ⟨isFree, isNext⟩ := Option.ite_none_right_eq_some.mp stepped
      cases isNext
      exact ⟨kept.uiPageSwitchPage name userData isFree,
        (settings_switch name userData address).trans same⟩

theorem language_lived {state : PageState} {calls : List PageCall}
    (told : calls ∈ state.language) : Lived calls := by
  cases state with
  | idle => exact lives_lived told
  | destroyed => exact lives_lived told
  | created => exact hidden_lived told
  | notactive => exact hidden_lived told
  | active => exact shown_lived told

theorem pagesInOrder {smallMem : Bool} {registered : List Handler} {ui : Manager Handler}
    (reaches : (pages title).Reaches System.anyStep
      (uiPageInit smallMem (registered.foldl uiPageRegister [])) ui) :
    PagesInOrder title smallMem (registered.foldl uiPageRegister []) ui := by
  obtain ⟨kept, settings⟩ : KeptWith (smallMem, registered.foldl uiPageRegister []) ui :=
    reaches.invariant
      (fun state label next holds _ stepped => step_keptWith _ state label next holds stepped)
      ⟨Manager.kept_uiPageInit _ _, rfl⟩
  obtain ⟨sameMem, samePages⟩ := Prod.mk.inj settings
  refine ⟨?_, ?_, kept.layout.bottom, ⟨kept.layout.addresses, kept.words.objs⟩,
    kept.layout.apart, ?_, ?_, rfl, rfl, ?_⟩
  · intro head rest isStack
    exact ⟨kept.layout.top head rest isStack, kept.loaded head rest isStack⟩
  · intro item member
    rw [← sameMem]
    exact kept.layout.covered item member
  · intro obj
    by_cases onStack : ∃ item ∈ ui.ctx.stack, item.obj = obj
    · obtain ⟨item, member, rfl⟩ := onStack
      exact language_lived (kept.words.told item member)
    · push Not at onStack
      exact lives_lived (kept.words.gone obj onStack)
  · intro name userData address isRegistered
    rw [← samePages] at isRegistered
    exact kept.switched isRegistered
  · exact deinit_completes kept.words.objs kept.words.told kept.words.gone

/-- A menu over the main page, left and entered again, with little memory. -/
def menu : List Label :=
  [.push (some "main") 0 100, .push (some "menu") 0 101, .pop, .push (some "menu") 0 101,
    .switch (some "main") 0 102, .switch (some "menu") 0 102]

def menuTitle (page : Bool) : String := if page then "menu" else "main"

theorem pagesInOrder_menu : ∃ ui : Manager Bool, ui.handlers = [true, false] ∧
    PagesInOrder menuTitle true ([false, true].foldl uiPageRegister []) ui := by
  let ran := (pages menuTitle).run (uiPageInit true ([false, true].foldl uiPageRegister [])) menu
  have ends : ran.map Manager.handlers = some [true, false] := by decide
  obtain ⟨ui, reached, isMenu⟩ := Option.map_eq_some_iff.mp ends
  exact ⟨ui, isMenu, pagesInOrder (System.reaches_of_run (fun _ _ => trivial) menu reached)⟩

end Rkipc.Ui
