import Mathlib.Computability.Language
import Rkipc.Transition.System

namespace Rkipc.Ui

section Life

open scoped Computability

/-! What a page is told in the course of its life: it is created, entered and left any number
of times, and destroyed; and then it may be created again. -/

inductive PageCall
  | create
  | enter
  | exit
  | destroy
deriving DecidableEq

def visit : Language PageCall := {[.enter, .exit]}

/-- The page is created and not on the screen. -/
def waiting : Language PageCall := {[.create]} * visit∗

def life : Language PageCall := waiting * {[.destroy]}

def lives : Language PageCall := life∗

def hidden : Language PageCall := lives * waiting

def shown : Language PageCall := hidden * {[.enter]}

variable {calls : List PageCall}

theorem append_kstar {α : Type u} {l : Language α} {left right : List α}
    (inStar : left ∈ l∗) (more : right ∈ l) : left ++ right ∈ l∗ := by
  have closed : l∗ * l ≤ l∗ := kstar_mul_le_kstar
  exact closed (Language.append_mem_mul inStar more)

theorem nil_mem_lives : [] ∈ lives := Language.nil_mem_kstar life

theorem create_mem_waiting : [PageCall.create] ∈ waiting :=
  Language.append_mem_mul (Set.mem_singleton [PageCall.create])
    (Language.nil_mem_kstar visit)

theorem lives_create (complete : calls ∈ lives) : calls ++ [.create] ∈ hidden :=
  Language.append_mem_mul complete create_mem_waiting

theorem hidden_enter (isHidden : calls ∈ hidden) : calls ++ [.enter] ∈ shown :=
  Language.append_mem_mul isHidden (Set.mem_singleton [PageCall.enter])

theorem waiting_visit (isWaiting : calls ∈ waiting) :
    calls ++ [.enter, .exit] ∈ waiting := by
  obtain ⟨created, isCreated, visits, areVisits, rfl⟩ := Language.mem_mul.mp isWaiting
  rw [List.append_assoc]
  exact Language.append_mem_mul isCreated
    (append_kstar areVisits (Set.mem_singleton [PageCall.enter, .exit]))

theorem shown_exit (isShown : calls ∈ shown) : calls ++ [.exit] ∈ hidden := by
  obtain ⟨before, isHidden, entered, isEnter, rfl⟩ := Language.mem_mul.mp isShown
  obtain ⟨complete, areLives, current, isWaiting, rfl⟩ := Language.mem_mul.mp isHidden
  have entry : entered = [PageCall.enter] := isEnter
  rw [entry, List.append_assoc, List.append_assoc]
  exact Language.append_mem_mul areLives (waiting_visit isWaiting)

theorem hidden_destroy (isHidden : calls ∈ hidden) : calls ++ [.destroy] ∈ lives := by
  obtain ⟨complete, areLives, current, isWaiting, rfl⟩ := Language.mem_mul.mp isHidden
  rw [List.append_assoc]
  exact append_kstar areLives
    (Language.append_mem_mul isWaiting (Set.mem_singleton [PageCall.destroy]))

/-- The calls so far can be continued to a word of lives. -/
def Lived (calls : List PageCall) : Prop := ∃ word ∈ lives, calls <+: word

theorem lives_lived (complete : calls ∈ lives) : Lived calls :=
  ⟨calls, complete, List.prefix_rfl⟩

theorem hidden_lived (isHidden : calls ∈ hidden) : Lived calls :=
  ⟨_, hidden_destroy isHidden, List.prefix_append calls _⟩

theorem shown_lived (isShown : calls ∈ shown) : Lived calls :=
  ⟨_, hidden_destroy (shown_exit isShown),
    (List.prefix_append calls _).trans (List.prefix_append _ _)⟩

end Life

open Transition

/-! `ui_page_manager.c`.  A handler is the address of its structure, `title` is the name that
the structure holds. -/

variable {Handler : Type}

inductive PageState
  | idle
  | destroyed
  | created
  | notactive
  | active
deriving DecidableEq

def PageState.number : PageState → Nat
  | .idle => 0
  | .destroyed => 1
  | .created => 2
  | .notactive => 3
  | .active => 4

/-- An entry of the stack at its address.  `obj` numbers the calls of `lv_obj_create`. -/
structure StackItem (Handler : Type) where
  address : Nat
  obj : Nat
  state : PageState
  handler : Handler
deriving DecidableEq

structure PageContext (Handler : Type) where
  smallMem : Bool
  stack : List (StackItem Handler)
  pageLl : List Handler
  mainPage : Option Nat
deriving DecidableEq

/-- What the callbacks and LVGL are asked for. -/
inductive Event (Handler : Type)
  | call (call : PageCall) (handler : Handler) (obj : Nat)
  | setUserData (obj data : Nat)
  | scrLoad (obj : Nat)
  | objDel (obj : Nat)
deriving DecidableEq

structure Manager (Handler : Type) where
  ctx : PageContext Handler
  created : Nat
  events : List (Event Handler)
deriving DecidableEq

namespace StackItem

variable (item : StackItem Handler)

/-! The four functions on an entry, with the calls of its handler that they make. -/

def uiPageActive : StackItem Handler × List PageCall :=
  if item.state = .destroyed then
    ({ item with state := .active }, [.create, .enter])
  else if item.state = .created ∨ item.state = .notactive then
    ({ item with state := .active }, [.enter])
  else (item, [])

def uiPageNoactive : StackItem Handler × List PageCall :=
  if item.state.number > PageState.notactive.number then
    ({ item with state := .notactive }, [.exit])
  else if item.state.number > PageState.destroyed.number then
    ({ item with state := .notactive }, [])
  else (item, [])

def uiPageDestroy : StackItem Handler × List PageCall :=
  if item.state.number > PageState.notactive.number then
    ({ item with state := .destroyed }, [.exit, .destroy])
  else if item.state.number > PageState.destroyed.number then
    ({ item with state := .destroyed }, [.destroy])
  else (item, [])

def uiPageRemove : StackItem Handler × List PageCall :=
  if item.state.number > PageState.notactive.number then
    ({ item with state := .idle }, [.exit, .destroy])
  else if item.state.number > PageState.destroyed.number then
    ({ item with state := .idle }, [.destroy])
  else (item, [])

def told (calls : List PageCall) : List (Event Handler) :=
  calls.map fun call => .call call item.handler item.obj

end StackItem

def uiPageNum : Nat := 16

def uiPageRegister (pageLl : List Handler) (page : Handler) : List Handler :=
  if pageLl.length < uiPageNum then pageLl ++ [page] else pageLl

def uiPageInit (smallMem : Bool) (pageLl : List Handler) : Manager Handler :=
  ⟨⟨smallMem, [], pageLl, none⟩, 0, []⟩

namespace Manager

variable (title : Handler → String) (ui : Manager Handler)

def pageFindByName (name : String) : Option Handler :=
  ui.ctx.pageLl.find? fun page => title page = name

/-- What becomes of the page that another one covers. -/
def cover (top : StackItem Handler) : StackItem Handler × List PageCall :=
  if ui.ctx.smallMem then top.uiPageDestroy else top.uiPageNoactive

/-- The end of `ui_page_push_page`, from `_lv_ll_ins_head` on, which puts the entry at
`address`. -/
def insert (handler : Handler) (userData address : Nat) : Manager Handler :=
  let curPage : StackItem Handler := ⟨address, ui.created, .destroyed, handler⟩
  let (shown, entered) := curPage.uiPageActive
  let made := ui.events ++ [.setUserData curPage.obj userData]
  match ui.ctx.stack with
  | [] =>
      { ctx := { ui.ctx with stack := [shown], mainPage := some address }
        created := ui.created + 1
        events := made ++ curPage.told entered ++ [.scrLoad curPage.obj] }
  | top :: below =>
      let (covered, left) := ui.cover top
      { ctx := { ui.ctx with stack := shown :: covered :: below }
        created := ui.created + 1
        events := made ++ top.told left ++ curPage.told entered ++ [.scrLoad curPage.obj] }

variable [DecidableEq Handler]

def uiPagePushPage (name : Option String) (userData address : Nat) : Int × Manager Handler :=
  match name with
  | none => (-1, ui)
  | some name =>
      if name = "" then (-1, ui)
      else
        match ui.pageFindByName title name with
        | none => (-1, ui)
        | some handler =>
            if (ui.ctx.stack.head?.map StackItem.handler) = some handler then (-1, ui)
            else (0, ui.insert handler userData address)

/-- The end of `ui_page_pop_page`, when there is a page below. -/
def uncover (cur next : StackItem Handler) (rest : List (StackItem Handler)) : Manager Handler :=
  let (_, removed) := cur.uiPageRemove
  let (shown, entered) := next.uiPageActive
  { ui with
    ctx := { ui.ctx with stack := shown :: rest }
    events := ui.events ++ [.scrLoad next.obj] ++ cur.told removed ++ [.objDel cur.obj] ++
      next.told entered }

def uiPagePopPage : Int × Manager Handler :=
  match ui.ctx.stack with
  | [] => (-1, ui)
  | cur :: below =>
      if ui.ctx.mainPage = some cur.address then (-1, ui)
      else
        match below with
        | [] => (-1, ui)
        | next :: rest => (0, ui.uncover cur next rest)

/-- `while (num--) ui_page_pop_page();` -/
def popPages : Nat → Manager Handler → Manager Handler
  | 0, ui => ui
  | num + 1, ui => popPages num ui.uiPagePopPage.2

def uiPageSwitchPage (name : Option String) (userData address : Nat) : Int × Manager Handler :=
  match name with
  | none => (-1, ui)
  | some wanted =>
      if wanted = "" then (-1, ui)
      else
        match ui.ctx.stack.findIdx? fun item => wanted = title item.handler with
        | some num => (0, popPages num ui)
        | none => (0, (ui.uiPagePushPage title name userData address).2)

/-- What `ui_page_deinit` does with one entry. -/
def deinitItem (item : StackItem Handler) : List (Event Handler) :=
  item.told item.uiPageRemove.2 ++ [.objDel item.obj]

def uiPageDeinit : Manager Handler :=
  { ui with
    ctx := { ui.ctx with stack := [], mainPage := none }
    events := ui.events ++ ui.ctx.stack.flatMap deinitItem }

end Manager

/-- The three calls.  `address` is where the memory for an entry is found, if one is made. -/
inductive Label
  | push (name : Option String) (userData address : Nat)
  | pop
  | switch (name : Option String) (userData address : Nat)
deriving DecidableEq

namespace Manager

variable [DecidableEq Handler] (title : Handler → String) (ui : Manager Handler)

/-- No entry of the stack is at the address. -/
def free (address : Nat) : Bool :=
  ui.ctx.stack.all fun item => item.address ≠ address

def step : Label → Option (Manager Handler)
  | .push name userData address =>
      if ui.free address then some (ui.uiPagePushPage title name userData address).2 else none
  | .pop => some ui.uiPagePopPage.2
  | .switch name userData address =>
      if ui.free address then some (ui.uiPageSwitchPage title name userData address).2 else none

end Manager

def pages [DecidableEq Handler] (title : Handler → String) : System (Manager Handler) Label where
  initial ui := ∃ (smallMem : Bool) (registered : List Handler),
    ui = uiPageInit smallMem (registered.foldl uiPageRegister [])
  step := Manager.step title

end Rkipc.Ui
