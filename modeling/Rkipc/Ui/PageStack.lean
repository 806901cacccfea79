import Mathlib.Data.List.Infix
import Mathlib.Data.List.Nodup
import Rkipc.Ui.PageManager

namespace Rkipc.Ui

open Transition

/-! The stack of pages: the page on top is the one that is shown, and every page is told what
the words of a page's life allow. -/

variable {Handler : Type}

def callTo (obj : Nat) : Event Handler → Option PageCall
  | .call call _ target => if target = obj then some call else none
  | _ => none

def callsTo (obj : Nat) (events : List (Event Handler)) : List PageCall :=
  events.filterMap (callTo obj)

def loadOf : Event Handler → Option Nat
  | .scrLoad obj => some obj
  | _ => none

def screen (events : List (Event Handler)) : Option Nat :=
  (events.filterMap loadOf).getLast?

variable {obj : Nat} {first second events : List (Event Handler)} {item : StackItem Handler}

@[simp] theorem callsTo_append :
    callsTo obj (first ++ second) = callsTo obj first ++ callsTo obj second :=
  List.filterMap_append

@[simp] theorem callsTo_told (calls : List PageCall) :
    callsTo obj (item.told calls) = if item.obj = obj then calls else [] := by
  induction calls with
  | nil => simp [callsTo, StackItem.told]
  | cons call rest induction =>
      simp only [callsTo, StackItem.told, List.map_cons, List.filterMap_cons, callTo] at *
      split_ifs with same <;> simp_all

@[simp] theorem callsTo_nil : callsTo obj ([] : List (Event Handler)) = [] := rfl

@[simp] theorem callsTo_scrLoad (loaded : Nat) :
    callsTo obj (.scrLoad loaded :: events) = callsTo obj events := rfl

@[simp] theorem callsTo_objDel (deleted : Nat) :
    callsTo obj (.objDel deleted :: events) = callsTo obj events := rfl

@[simp] theorem callsTo_setUserData (target data : Nat) :
    callsTo obj (.setUserData target data :: events) = callsTo obj events := rfl

theorem filterMap_loadOf_told (calls : List PageCall) :
    (item.told calls).filterMap loadOf = [] := by
  induction calls with
  | nil => rfl
  | cons call rest induction => exact induction

theorem screen_scrLoad (loaded : Nat) :
    screen (events ++ [.scrLoad loaded]) = some loaded := by
  simp [screen, loadOf]

theorem screen_append (quiet : second.filterMap loadOf = []) :
    screen (first ++ second) = screen first := by
  rw [screen, List.filterMap_append, quiet, List.append_nil, screen]

namespace PageState

/-- What a page has been told when its entry is in the state. -/
@[simp] def language : PageState → Language PageCall
  | .idle => lives
  | .destroyed => lives
  | .created => hidden
  | .notactive => hidden
  | .active => shown

end PageState

/-! What each of the four functions does to the words. -/

variable {calls : List PageCall}

theorem uiPageActive_told (told : calls ∈ item.state.language) :
    calls ++ item.uiPageActive.2 ∈ item.uiPageActive.1.state.language := by
  unfold StackItem.uiPageActive
  cases state : item.state with
  | idle => simpa [state] using told
  | destroyed =>
      rw [state] at told
      simpa using hidden_enter (lives_create told)
  | created =>
      rw [state] at told
      simpa using hidden_enter told
  | notactive =>
      rw [state] at told
      simpa using hidden_enter told
  | active => simpa [state] using told

theorem uiPageDestroy_told (told : calls ∈ item.state.language) :
    calls ++ item.uiPageDestroy.2 ∈ lives := by
  unfold StackItem.uiPageDestroy
  cases state : item.state with
  | idle => simpa [state, PageState.number] using told
  | destroyed => simpa [state, PageState.number] using told
  | created =>
      rw [state] at told
      simpa [PageState.number] using hidden_destroy told
  | notactive =>
      rw [state] at told
      simpa [PageState.number] using hidden_destroy told
  | active =>
      rw [state] at told
      simpa [PageState.number] using hidden_destroy (shown_exit told)

theorem uiPageRemove_calls : item.uiPageRemove.2 = item.uiPageDestroy.2 := by
  unfold StackItem.uiPageRemove StackItem.uiPageDestroy
  split_ifs <;> rfl

theorem uiPageRemove_told (told : calls ∈ item.state.language) :
    calls ++ item.uiPageRemove.2 ∈ lives := by
  rw [uiPageRemove_calls]
  exact uiPageDestroy_told told

/-! The invariant of the stack. -/

/-- The state of the pages below the top. -/
def below (smallMem : Bool) : PageState := if smallMem then .destroyed else .notactive

structure Manager.Layout (ui : Manager Handler) : Prop where
  top : ∀ head rest, ui.ctx.stack = head :: rest → head.state = .active
  covered : ∀ item ∈ ui.ctx.stack.tail, item.state = below ui.ctx.smallMem
  bottom : ui.ctx.mainPage = ui.ctx.stack.getLast?.map StackItem.address
  addresses : (ui.ctx.stack.map StackItem.address).Nodup
  apart : ui.ctx.stack.IsChain fun upper lower => upper.handler ≠ lower.handler

structure Manager.Words (ui : Manager Handler) : Prop where
  objs : (ui.ctx.stack.map StackItem.obj).Nodup
  numbered : ∀ item ∈ ui.ctx.stack, item.obj < ui.created
  told : ∀ item ∈ ui.ctx.stack, callsTo item.obj ui.events ∈ item.state.language
  gone : ∀ obj, (∀ item ∈ ui.ctx.stack, item.obj ≠ obj) → callsTo obj ui.events ∈ lives
  unborn : ∀ obj, ui.created ≤ obj → callsTo obj ui.events = []

structure Manager.Kept (ui : Manager Handler) : Prop where
  layout : ui.Layout
  words : ui.Words
  loaded : ∀ head rest, ui.ctx.stack = head :: rest → screen ui.events = some head.obj

namespace Manager

variable {ui : Manager Handler} {title : Handler → String}

theorem kept_uiPageInit (smallMem : Bool) (pageLl : List Handler) :
    (uiPageInit smallMem pageLl).Kept where
  layout := {
    top := fun _ _ stack => by cases stack
    covered := fun _ member => by cases member
    bottom := rfl
    addresses := List.nodup_nil
    apart := List.IsChain.nil }
  words := {
    objs := List.nodup_nil
    numbered := fun _ member => by cases member
    told := fun _ member => by cases member
    gone := fun _ _ => nil_mem_lives
    unborn := fun _ _ => rfl }
  loaded := fun _ _ stack => by cases stack

theorem uiPageActive_fst (notIdle : item.state ≠ .idle) :
    item.uiPageActive.1 = { item with state := .active } := by
  obtain ⟨address, obj, state, handler⟩ := item
  cases state with
  | idle => exact absurd rfl notIdle
  | destroyed => rfl
  | created => rfl
  | notactive => rfl
  | active => rfl

theorem below_ne_idle (smallMem : Bool) : below smallMem ≠ .idle := by
  cases smallMem <;> exact PageState.noConfusion

/-- A page that another one covers is the same page, in the state of the pages below, and it
has been told so. -/
theorem cover_spec (ui : Manager Handler) (isActive : item.state = .active) :
    ∃ left, ui.cover item = ({ item with state := below ui.ctx.smallMem }, left) ∧
      ∀ calls ∈ shown, calls ++ left ∈ (below ui.ctx.smallMem).language := by
  cases small : ui.ctx.smallMem with
  | true =>
      refine ⟨item.uiPageDestroy.2, ?_, ?_⟩
      · simp [cover, small, below, StackItem.uiPageDestroy, isActive, PageState.number]
      · intro calls isShown
        exact uiPageDestroy_told (by simpa [isActive] using isShown)
  | false =>
      refine ⟨item.uiPageNoactive.2, ?_, ?_⟩
      · simp [cover, small, below, StackItem.uiPageNoactive, isActive, PageState.number]
      · intro calls isShown
        simpa [StackItem.uiPageNoactive, isActive, PageState.number, below] using
          shown_exit isShown

theorem new_shown : [] ++ [PageCall.create, .enter] ∈ shown :=
  hidden_enter (lives_create nil_mem_lives)

/-! A page on an empty stack. -/

section Bottom

variable (empty : ui.ctx.stack = []) (handler : Handler) (userData address : Nat)

include empty

theorem insert_bottom_stack : (ui.insert handler userData address).ctx.stack =
    [⟨address, ui.created, .active, handler⟩] := by
  simp [insert, empty, StackItem.uiPageActive]

theorem insert_bottom_calls : callsTo obj (ui.insert handler userData address).events =
    callsTo obj ui.events ++ if ui.created = obj then [.create, .enter] else [] := by
  simp [insert, empty, StackItem.uiPageActive]

theorem Layout.insert_bottom : (ui.insert handler userData address).Layout where
  top head rest isStack := by
    rw [insert_bottom_stack empty] at isStack
    cases isStack
    rfl
  covered := by simp [insert_bottom_stack empty]
  bottom := by simp [insert, empty, StackItem.uiPageActive]
  addresses := by simp [insert_bottom_stack empty]
  apart := by simp [insert_bottom_stack empty]

theorem Words.insert_bottom (words : ui.Words) :
    (ui.insert handler userData address).Words := by
  have created : (ui.insert handler userData address).created = ui.created + 1 := by
    simp [insert, empty]
  refine ⟨by simp [insert_bottom_stack empty], by simp [insert_bottom_stack empty, created],
    ?_, ?_, ?_⟩
  · intro item member
    rw [insert_bottom_stack empty, List.mem_singleton] at member
    subst member
    rw [insert_bottom_calls empty, words.unborn _ le_rfl, if_pos rfl]
    exact new_shown
  · intro obj absent
    rw [insert_bottom_stack empty] at absent
    rw [insert_bottom_calls empty, if_neg (absent _ List.mem_cons_self), List.append_nil]
    exact words.gone obj (by simp [empty])
  · intro obj unborn
    rw [created] at unborn
    rw [insert_bottom_calls empty, words.unborn obj (by omega), if_neg (by omega)]
    rfl

end Bottom

/-! A page above another one. -/

section Above

variable {top : StackItem Handler} {rest : List (StackItem Handler)} (handler : Handler)
  (userData address : Nat)

theorem Layout.insert_stack (layout : ui.Layout) (isStack : ui.ctx.stack = top :: rest) :
    (ui.insert handler userData address).ctx.stack =
      ⟨address, ui.created, .active, handler⟩ ::
        { top with state := below ui.ctx.smallMem } :: rest := by
  obtain ⟨left, covers, _⟩ := cover_spec ui (layout.top top rest isStack)
  simp [insert, isStack, StackItem.uiPageActive, covers]

theorem Layout.insert_calls (layout : ui.Layout) (isStack : ui.ctx.stack = top :: rest) :
    ∃ left, (∀ calls ∈ shown, calls ++ left ∈ (below ui.ctx.smallMem).language) ∧
      ∀ obj, callsTo obj (ui.insert handler userData address).events =
        callsTo obj ui.events ++ (if top.obj = obj then left else []) ++
          if ui.created = obj then [.create, .enter] else [] := by
  obtain ⟨left, covers, leaves⟩ := cover_spec ui (layout.top top rest isStack)
  refine ⟨left, leaves, fun obj => ?_⟩
  simp [insert, isStack, StackItem.uiPageActive, covers]

theorem Layout.insert_above (layout : ui.Layout) (isStack : ui.ctx.stack = top :: rest)
    (other : top.handler ≠ handler) (isFree : ui.free address = true) :
    (ui.insert handler userData address).Layout := by
  have stack := layout.insert_stack handler userData address isStack
  have smallMem : (ui.insert handler userData address).ctx.smallMem = ui.ctx.smallMem := by
    simp [insert, isStack]
  have mainPage : (ui.insert handler userData address).ctx.mainPage = ui.ctx.mainPage := by
    simp [insert, isStack]
  obtain ⟨_, covered, bottom, addresses, apart⟩ := layout
  rw [isStack] at covered bottom addresses apart
  refine ⟨?_, ?_, ?_, ?_, ?_⟩
  · intro head others isHead
    rw [stack] at isHead
    cases isHead
    rfl
  · rw [stack, smallMem]
    exact List.forall_mem_cons.mpr ⟨rfl, covered⟩
  · rw [stack, mainPage, bottom, List.getLast?_cons_cons]
    cases rest with
    | nil => rfl
    | cons next rest => simp only [List.getLast?_cons_cons]
  · rw [stack, List.map_cons, List.nodup_cons]
    refine ⟨?_, addresses⟩
    intro member
    obtain ⟨found, inStack, same⟩ := List.mem_map.mp
      (show address ∈ (top :: rest).map StackItem.address from member)
    rw [← isStack] at inStack
    exact of_decide_eq_true (List.all_eq_true.mp isFree found inStack) same
  · rw [stack]
    refine List.IsChain.cons_cons other.symm ?_
    cases rest with
    | nil => exact List.IsChain.singleton _
    | cons next rest =>
        obtain ⟨first, others⟩ := List.isChain_cons_cons.mp apart
        exact List.IsChain.cons_cons first others

theorem Words.insert_above (layout : ui.Layout) (words : ui.Words)
    (isStack : ui.ctx.stack = top :: rest) :
    (ui.insert handler userData address).Words := by
  have stack := layout.insert_stack handler userData address isStack
  obtain ⟨left, leaves, calls⟩ := layout.insert_calls handler userData address isStack
  have created : (ui.insert handler userData address).created = ui.created + 1 := by
    simp [insert, isStack]
  have isActive := layout.top top rest isStack
  obtain ⟨objs, numbered, told, gone, unborn⟩ := words
  rw [isStack] at objs numbered told gone
  obtain ⟨topOld, restOld⟩ := List.forall_mem_cons.mp numbered
  obtain ⟨topTold, restTold⟩ := List.forall_mem_cons.mp told
  obtain ⟨topApart, restApart⟩ := List.nodup_cons.mp objs
  refine ⟨?_, ?_, ?_, ?_, ?_⟩
  · rw [stack, List.map_cons, List.nodup_cons]
    refine ⟨?_, objs⟩
    intro member
    obtain ⟨found, inStack, same⟩ := List.mem_map.mp
      (show ui.created ∈ (top :: rest).map StackItem.obj from member)
    exact absurd same (numbered found inStack).ne
  · rw [stack, created]
    refine List.forall_mem_cons.mpr ⟨Nat.lt_succ_self _, List.forall_mem_cons.mpr ⟨?_, ?_⟩⟩
    · exact Nat.lt_succ_of_lt topOld
    · exact fun item member => Nat.lt_succ_of_lt (restOld item member)
  · rw [stack]
    refine List.forall_mem_cons.mpr ⟨?_, List.forall_mem_cons.mpr ⟨?_, ?_⟩⟩
    · rw [calls, unborn _ le_rfl, if_neg topOld.ne, if_pos rfl]
      exact new_shown
    · rw [calls, if_pos rfl, if_neg topOld.ne', List.append_nil]
      rw [isActive] at topTold
      exact leaves _ topTold
    · intro item member
      have notTop : top.obj ≠ item.obj := by
        intro same
        rw [same] at topApart
        exact topApart (List.mem_map_of_mem member)
      rw [calls, if_neg notTop, if_neg (restOld item member).ne', List.append_nil,
        List.append_nil]
      exact restTold item member
  · intro obj absent
    rw [stack] at absent
    obtain ⟨notNew, others⟩ := List.forall_mem_cons.mp absent
    obtain ⟨notTop, notRest⟩ := List.forall_mem_cons.mp others
    rw [calls, if_neg notNew, if_neg notTop, List.append_nil, List.append_nil]
    exact gone obj (List.forall_mem_cons.mpr ⟨notTop, notRest⟩)
  · intro obj isUnborn
    rw [created] at isUnborn
    rw [calls, unborn obj (by omega), if_neg (by omega), if_neg (by omega)]
    rfl

end Above

theorem Kept.insert (kept : ui.Kept) {handler : Handler}
    (other : (ui.ctx.stack.head?.map StackItem.handler) ≠ some handler) (userData : Nat)
    {address : Nat} (isFree : ui.free address = true) :
    (ui.insert handler userData address).Kept := by
  cases isStack : ui.ctx.stack with
  | nil =>
      refine ⟨.insert_bottom isStack handler userData address,
        kept.words.insert_bottom isStack handler userData address, ?_⟩
      intro head rest isHead
      rw [insert_bottom_stack isStack] at isHead
      cases isHead
      simp only [Manager.insert, isStack]
      exact screen_scrLoad _
  | cons top rest =>
      have apart : top.handler ≠ handler := by
        intro same
        exact other (by rw [isStack, List.head?_cons, Option.map_some, same])
      refine ⟨kept.layout.insert_above handler userData address isStack apart isFree,
        kept.words.insert_above handler userData address kept.layout isStack, ?_⟩
      intro head others isHead
      rw [kept.layout.insert_stack handler userData address isStack] at isHead
      cases isHead
      simp only [Manager.insert, isStack]
      exact screen_scrLoad _

/-! The page on top goes, and the one below it is shown. -/

section Uncover

variable {cur next : StackItem Handler} {rest : List (StackItem Handler)}

theorem uncover_calls : callsTo obj (ui.uncover cur next rest).events =
    callsTo obj ui.events ++ (if cur.obj = obj then cur.uiPageRemove.2 else []) ++
      if next.obj = obj then next.uiPageActive.2 else [] := by
  simp [uncover]

theorem screen_uncover : screen (ui.uncover cur next rest).events = some next.obj := by
  simp only [uncover]
  rw [screen_append (filterMap_loadOf_told _), screen_append rfl,
    screen_append (filterMap_loadOf_told _), screen_scrLoad]

theorem Layout.uncover_stack (layout : ui.Layout)
    (isStack : ui.ctx.stack = cur :: next :: rest) :
    (ui.uncover cur next rest).ctx.stack = { next with state := .active } :: rest := by
  have covered := layout.covered next (by simp [isStack])
  have notIdle : next.state ≠ .idle := by
    rw [covered]
    exact below_ne_idle _
  exact congrArg (fun head => head :: rest) (uiPageActive_fst notIdle)

theorem Layout.uncover (layout : ui.Layout)
    (isStack : ui.ctx.stack = cur :: next :: rest) :
    (ui.uncover cur next rest).Layout := by
  have stack := layout.uncover_stack isStack
  obtain ⟨_, covered, bottom, addresses, apart⟩ := layout
  rw [isStack] at covered bottom addresses apart
  refine ⟨?_, ?_, ?_, ?_, ?_⟩
  · intro head others isHead
    rw [stack] at isHead
    cases isHead
    rfl
  · rw [stack]
    exact fun item member => covered item (List.mem_cons_of_mem _ member)
  · rw [stack]
    refine bottom.trans ?_
    rw [List.getLast?_cons_cons]
    cases rest with
    | nil => rfl
    | cons first others => simp only [List.getLast?_cons_cons]
  · rw [stack]
    exact (List.nodup_cons.mp addresses).2
  · rw [stack]
    have tail := (List.isChain_cons_cons.mp apart).2
    cases rest with
    | nil => exact List.IsChain.singleton _
    | cons first others =>
        obtain ⟨differ, chain⟩ := List.isChain_cons_cons.mp tail
        exact List.IsChain.cons_cons differ chain

theorem Words.uncover (layout : ui.Layout) (words : ui.Words)
    (isStack : ui.ctx.stack = cur :: next :: rest) :
    (ui.uncover cur next rest).Words := by
  have stack := layout.uncover_stack isStack
  have shows := uiPageActive_fst (show next.state ≠ .idle by
    rw [layout.covered next (by simp [isStack])]
    exact below_ne_idle _)
  obtain ⟨objs, numbered, told, gone, unborn⟩ := words
  rw [isStack] at objs numbered told gone
  obtain ⟨curApart, restObjs⟩ := List.nodup_cons.mp objs
  obtain ⟨curOld, restOld⟩ := List.forall_mem_cons.mp numbered
  obtain ⟨curTold, restTold⟩ := List.forall_mem_cons.mp told
  have notCur : ∀ item ∈ next :: rest, cur.obj ≠ item.obj := by
    intro item member same
    rw [same] at curApart
    exact curApart (List.mem_map_of_mem member)
  refine ⟨?_, ?_, ?_, ?_, ?_⟩
  · rw [stack]
    exact restObjs
  · rw [stack]
    obtain ⟨nextOld, others⟩ := List.forall_mem_cons.mp restOld
    exact List.forall_mem_cons.mpr ⟨nextOld, others⟩
  · rw [stack]
    obtain ⟨nextTold, others⟩ := List.forall_mem_cons.mp restTold
    refine List.forall_mem_cons.mpr ⟨?_, ?_⟩
    · have continued := uiPageActive_told nextTold
      rw [shows] at continued
      rw [uncover_calls, if_neg (notCur next List.mem_cons_self), List.append_nil, if_pos rfl]
      exact continued
    · intro item member
      have notNext : next.obj ≠ item.obj := by
        intro same
        refine (List.nodup_cons.mp restObjs).1 ?_
        rw [same]
        exact List.mem_map_of_mem member
      rw [uncover_calls, if_neg (notCur item (List.mem_cons_of_mem _ member)),
        if_neg notNext, List.append_nil, List.append_nil]
      exact others item member
  · intro obj absent
    rw [stack] at absent
    obtain ⟨notNext, notRest⟩ := List.forall_mem_cons.mp absent
    rw [uncover_calls, if_neg notNext, List.append_nil]
    by_cases isCur : cur.obj = obj
    · rw [if_pos isCur, ← isCur]
      exact uiPageRemove_told curTold
    · rw [if_neg isCur, List.append_nil]
      exact gone obj (List.forall_mem_cons.mpr
        ⟨isCur, List.forall_mem_cons.mpr ⟨notNext, notRest⟩⟩)
  · intro obj isUnborn
    have nextOld := restOld next List.mem_cons_self
    have late : ui.created ≤ obj := isUnborn
    rw [uncover_calls, unborn obj late, if_neg (by omega), if_neg (by omega)]
    rfl

theorem Kept.uncover (kept : ui.Kept) (isStack : ui.ctx.stack = cur :: next :: rest) :
    (ui.uncover cur next rest).Kept := by
  refine ⟨kept.layout.uncover isStack, kept.words.uncover kept.layout isStack, ?_⟩
  intro head others isHead
  rw [kept.layout.uncover_stack isStack] at isHead
  cases isHead
  exact screen_uncover

end Uncover

end Manager

end Rkipc.Ui
