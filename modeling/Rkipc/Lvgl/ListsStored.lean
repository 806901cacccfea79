import Rkipc.Lvgl.MessageLists

namespace Rkipc.Lvgl

open Common

variable {memory after : Memory} {table moved : Table} {block handler fuel : Nat} {elm : Msg}
  {handlers frontHandlers backHandlers : List (Nat × Nat)}
  {queue frontElms backElms : List (Nat × Msg)} {held : List Nat}

namespace Table

theorem step_register (table : Table) (handler block : Nat) :
    table.step (.register (some handler) (some block)) =
      if table.handlers.any fun entry => handler = entry.2 then (table, .pointer none)
      else (table.register handler block, .pointer (some block)) := rfl

theorem step_send (table : Table) (obj : Nat) (handles : Nat → Bool) :
    table.step (.send (some obj) handles) =
      (table, .called ((table.handlers.filter fun entry => entry.1 = obj).map Prod.snd)
        (result (((table.handlers.filter fun entry => entry.1 = obj).map Prod.snd).any handles))) :=
  rfl

theorem step_length (table : Table) (call : Call) :
    (table.step call).1.handlers.length + (table.step call).1.queue.length ≤
      table.handlers.length + table.queue.length + 1 := by
  cases call with
  | register handler block =>
      cases handler with
      | none => exact Nat.le_succ _
      | some handler =>
          cases block with
          | none => exact Nat.le_succ _
          | some block =>
              rw [step_register]
              split
              · exact Nat.le_succ _
              · simp only [register, List.length_append, List.length_singleton]
                omega
  | unregister obj =>
      have shorter := List.length_filter_le (fun entry => obj ≠ some entry.1) table.handlers
      change (table.handlers.filter _).length + table.queue.length ≤ _
      omega
  | post obj elm block =>
      cases obj with
      | none => exact Nat.le_succ _
      | some obj =>
          cases block with
          | none => exact Nat.le_succ _
          | some block =>
              change _ + (table.queue ++ [(block, elm)]).length ≤ _
              rw [List.length_append, List.length_singleton]
              exact Nat.le_refl _
  | get =>
      cases table with
      | mk handlers queue held =>
          cases queue with
          | nil => exact Nat.le_succ _
          | cons entry queue => exact Nat.le_succ_of_le (Nat.le_succ _)
  | release elm => exact Nat.le_succ _
  | send obj handles =>
      cases obj with
      | none => exact Nat.le_succ _
      | some obj => exact Nat.le_succ _
  | clearHandlers =>
      change 0 + table.queue.length ≤ _
      omega
  | clearQueue =>
      change table.handlers.length + 0 ≤ _
      omega

theorem blocks_perm (table : Table) : table.blocks.Perm
    ((gHandlerList :: table.handlers.map Prod.fst) ++
      ((gMsgQueue :: table.queue.map Prod.fst) ++ table.held)) :=
  .cons _ List.perm_middle.symm

theorem take_handler_perm (entry : Nat × Nat) :
    (Table.mk (frontHandlers ++ backHandlers) queue (entry.1 :: held)).blocks.Perm
      (Table.mk (frontHandlers ++ entry :: backHandlers) queue held).blocks := by
  refine .cons _ (.cons _ ?_)
  change ((frontHandlers ++ backHandlers).map Prod.fst ++
      (queue.map Prod.fst ++ entry.1 :: held)).Perm
    ((frontHandlers ++ entry :: backHandlers).map Prod.fst ++ (queue.map Prod.fst ++ held))
  rw [← List.append_assoc, List.map_append, List.map_append, List.map_cons, List.append_assoc,
    List.append_assoc, List.append_assoc]
  refine List.Perm.append_left _ ?_
  rw [← List.append_assoc, List.cons_append, ← List.append_assoc]
  exact List.perm_middle

theorem take_elm_perm (entry : Nat × Msg) :
    (Table.mk handlers (frontElms ++ backElms) (entry.1 :: held)).blocks.Perm
      (Table.mk handlers (frontElms ++ entry :: backElms) held).blocks := by
  refine .cons _ (.cons _ (List.Perm.append_left _ ?_))
  change ((frontElms ++ backElms).map Prod.fst ++ entry.1 :: held).Perm
    ((frontElms ++ entry :: backElms).map Prod.fst ++ held)
  rw [List.map_append, List.map_append, List.map_cons, List.append_assoc, List.append_assoc]
  refine List.Perm.append_left _ ?_
  exact List.perm_middle

theorem hold_perm (table : Table) (block : Nat) :
    { table with held := block :: table.held }.blocks.Perm (block :: table.blocks) := by
  refine .trans (.cons _ (.cons _ ?_)) (.trans (.cons _ (.swap _ _ _)) (.swap _ _ _))
  change (table.handlers.map Prod.fst ++ (table.queue.map Prod.fst ++ block :: table.held)).Perm
    (block :: (table.handlers.map Prod.fst ++ (table.queue.map Prod.fst ++ table.held)))
  rw [← List.append_assoc, ← List.append_assoc]
  exact List.perm_middle

theorem unregister_none {obj : Option Nat}
    (passed : ∀ entry ∈ table.handlers, obj ≠ some entry.1) : table.unregister obj = table :=
  congrArg (fun handlers => Table.mk handlers table.queue table.held)
    (List.filter_eq_self.mpr fun entry member => decide_eq_true (passed entry member))

theorem unregister_middle {entry : Nat × Nat}
    (distinct : ((frontHandlers ++ entry :: backHandlers).map Prod.fst).Nodup) :
    (Table.mk (frontHandlers ++ entry :: backHandlers) queue held).unregister (some entry.1) =
      ⟨frontHandlers ++ backHandlers, queue, held⟩ := by
  rw [List.map_append, List.map_cons, List.nodup_middle, List.nodup_cons, ← List.map_append]
    at distinct
  refine congrArg (fun handlers => Table.mk handlers queue held) ?_
  change List.filter _ (frontHandlers ++ entry :: backHandlers) = _
  rw [List.filter_append, List.filter_cons_of_neg (by simp), ← List.filter_append,
    List.filter_eq_self]
  intro other member
  refine decide_eq_true fun same => distinct.1 ?_
  exact Option.some.inj same ▸ List.mem_map_of_mem member

theorem calledBy_all {handles : Nat → Bool}
    (passed : ∀ entry ∈ table.handlers, handles entry.2 = false) :
    table.calledBy handles = table.handlers.map Prod.snd := by
  refine List.take_of_length_le ?_
  rw [List.findIdx_eq_length_of_false]
  · exact Nat.le_succ _
  · intro handler member
    obtain ⟨entry, isIn, rfl⟩ := List.mem_map.mp member
    exact passed entry isIn

theorem calledBy_first {handles : Nat → Bool} {entry : Nat × Nat}
    (isSplit : table.handlers = frontHandlers ++ entry :: backHandlers)
    (passed : ∀ other ∈ frontHandlers, handles other.2 = false)
    (handled : handles entry.2 = true) :
    table.calledBy handles = frontHandlers.map Prod.snd ++ [entry.2] := by
  have isFirst : (table.handlers.map Prod.snd).findIdx handles =
      (frontHandlers.map Prod.snd).length := by
    rw [isSplit, List.map_append, List.map_cons, List.findIdx_append,
      List.findIdx_eq_length_of_false, if_neg (Nat.lt_irrefl _), List.findIdx_cons, handled]
    · exact Nat.zero_add _
    · intro handler member
      obtain ⟨other, isIn, rfl⟩ := List.mem_map.mp member
      exact passed other isIn
  change List.take (List.findIdx handles (table.handlers.map Prod.snd) + 1)
    (table.handlers.map Prod.snd) = _
  rw [isFirst, isSplit, List.map_append, List.map_cons, ← List.singleton_append,
    ← List.append_assoc]
  exact List.take_left' (List.length_append)

end Table

namespace Stored

theorem apart (stored : Stored memory table) :
    ∀ node ∈ gMsgQueue :: table.queue.map Prod.fst,
      node ∉ gHandlerList :: table.handlers.map Prod.fst := by
  intro node isQueued isHandler
  have distinct := (table.blocks_perm.nodup_iff).mp stored.distinct
  exact (List.nodup_append.mp distinct).2.2 node isHandler node
    (List.mem_append_left _ isQueued) rfl

theorem held_apart (stored : Stored memory table) (isHeld : block ∈ table.held) :
    block ∉ gHandlerList :: table.handlers.map Prod.fst ∧
      block ∉ gMsgQueue :: table.queue.map Prod.fst := by
  have distinct := (table.blocks_perm.nodup_iff).mp stored.distinct
  obtain ⟨_, distinct, apart⟩ := List.nodup_append.mp distinct
  exact ⟨fun isHandler => apart block isHandler block (List.mem_append_right _ isHeld) rfl,
    fun isQueued => (List.nodup_append.mp distinct).2.2 block isQueued block isHeld rfl⟩

theorem move (stored : Stored memory table) (perm : moved.blocks.Perm table.blocks)
    (isAlive : after.heap.alive = memory.heap.alive)
    (handlersHold : after.heap.Holds gHandlerList (moved.handlers.map Prod.fst))
    (queueHolds : after.heap.Holds gMsgQueue (moved.queue.map Prod.fst))
    (handlers : ∀ entry ∈ moved.handlers, after.handlerAt entry.1 = entry.2)
    (elms : ∀ entry ∈ moved.queue, after.elmAt entry.1 = entry.2) : Stored after moved where
  handlersHold := handlersHold
  queueHolds := queueHolds
  distinct := perm.nodup_iff.mpr stored.distinct
  alive block := by rw [isAlive, stored.alive block, perm.mem_iff]
  handlers := handlers
  elms := elms

theorem takeHandler {entry : Nat × Nat}
    (stored : Stored memory ⟨frontHandlers ++ entry :: backHandlers, queue, held⟩) :
    ∃ deleted, memory.delEntry entry.1 = some deleted ∧
      Stored deleted ⟨frontHandlers ++ backHandlers, queue, entry.1 :: held⟩ := by
  have holds := stored.handlersHold
  simp only [List.map_append, List.map_cons] at holds
  obtain ⟨heap, deletes, left, isAlive, agree⟩ := holds.listDel
  refine ⟨{ memory with heap := heap }, ?_, ?_⟩
  · rw [Memory.delEntry, deletes]
    rfl
  · refine stored.move (Table.take_handler_perm entry) isAlive ?_ ?_ ?_ stored.elms
    · rw [List.map_append]
      exact left
    · refine stored.queueHolds.frame agree fun node member => ?_
      have differs := stored.apart node member
      rwa [List.map_append, List.map_cons] at differs
    · intro other member
      refine stored.handlers other ?_
      rcases List.mem_append.mp member with isFront | isBack
      · exact List.mem_append_left _ isFront
      · exact List.mem_append_right _ (List.mem_cons_of_mem _ isBack)

theorem takeElm {entry : Nat × Msg}
    (stored : Stored memory ⟨handlers, frontElms ++ entry :: backElms, held⟩) :
    ∃ deleted, memory.delEntry entry.1 = some deleted ∧
      Stored deleted ⟨handlers, frontElms ++ backElms, entry.1 :: held⟩ := by
  have holds := stored.queueHolds
  simp only [List.map_append, List.map_cons] at holds
  obtain ⟨heap, deletes, left, isAlive, agree⟩ := holds.listDel
  refine ⟨{ memory with heap := heap }, ?_, ?_⟩
  · rw [Memory.delEntry, deletes]
    rfl
  · refine stored.move (Table.take_elm_perm entry) isAlive ?_ ?_ stored.handlers ?_
    · refine stored.handlersHold.frame agree fun node member isQueued => ?_
      refine stored.apart node ?_ member
      rwa [List.map_append, List.map_cons]
    · rw [List.map_append]
      exact left
    · intro other member
      refine stored.elms other ?_
      rcases List.mem_append.mp member with isFront | isBack
      · exact List.mem_append_left _ isFront
      · exact List.mem_append_right _ (List.mem_cons_of_mem _ isBack)

theorem addHandler (stored : Stored memory ⟨handlers, queue, block :: held⟩)
    (isAt : memory.handlerAt block = handler) :
    ∃ added, memory.addEntry block gHandlerList = some added ∧
      Stored added ⟨handlers ++ [(block, handler)], queue, held⟩ := by
  obtain ⟨notHandler, notQueued⟩ := stored.held_apart List.mem_cons_self
  have perm : (Table.mk (handlers ++ []) queue (block :: held)).blocks.Perm
      (Table.mk (handlers ++ [(block, handler)]) queue held).blocks :=
    Table.take_handler_perm (block, handler)
  rw [List.append_nil] at perm
  have isAlive : memory.heap.alive block = true :=
    (stored.alive block).mpr ((Table.hold_perm ⟨handlers, queue, held⟩ block).mem_iff.mpr
      List.mem_cons_self)
  obtain ⟨heap, adds, more, isSame, agree⟩ := stored.handlersHold.listAddTail isAlive notHandler
  refine ⟨{ memory with heap := heap }, ?_, ?_⟩
  · rw [Memory.addEntry, adds]
    rfl
  · refine stored.move perm.symm isSame ?_ ?_ ?_ stored.elms
    · rw [List.map_append]
      exact more
    · refine stored.queueHolds.frame agree fun node member isIn => ?_
      rcases List.mem_cons.mp isIn with same | isHandler
      · exact notQueued (same ▸ member)
      · exact stored.apart node member isHandler
    · intro entry member
      rcases List.mem_append.mp member with isOld | isNew
      · exact stored.handlers entry isOld
      · rw [List.mem_singleton.mp isNew]
        exact isAt

theorem addElm (stored : Stored memory ⟨handlers, queue, block :: held⟩)
    (isAt : memory.elmAt block = elm) :
    ∃ added, memory.addEntry block gMsgQueue = some added ∧
      Stored added ⟨handlers, queue ++ [(block, elm)], held⟩ := by
  obtain ⟨notHandler, notQueued⟩ := stored.held_apart List.mem_cons_self
  have perm : (Table.mk handlers (queue ++ []) (block :: held)).blocks.Perm
      (Table.mk handlers (queue ++ [(block, elm)]) held).blocks :=
    Table.take_elm_perm (block, elm)
  rw [List.append_nil] at perm
  have isAlive : memory.heap.alive block = true :=
    (stored.alive block).mpr ((Table.hold_perm ⟨handlers, queue, held⟩ block).mem_iff.mpr
      List.mem_cons_self)
  obtain ⟨heap, adds, more, isSame, agree⟩ := stored.queueHolds.listAddTail isAlive notQueued
  refine ⟨{ memory with heap := heap }, ?_, ?_⟩
  · rw [Memory.addEntry, adds]
    rfl
  · refine stored.move perm.symm isSame ?_ ?_ stored.handlers ?_
    · refine stored.handlersHold.frame agree fun node member isIn => ?_
      rcases List.mem_cons.mp isIn with same | isQueued
      · exact notHandler (same ▸ member)
      · exact stored.apart node isQueued member
    · rw [List.map_append]
      exact more
    · intro entry member
      rcases List.mem_append.mp member with isOld | isNew
      · exact stored.elms entry isOld
      · rw [List.mem_singleton.mp isNew]
        exact isAt

theorem release (stored : Stored memory table) (isHeld : block ∈ table.held) :
    Stored (memory.freeBlock block) { table with held := table.held.erase block } := by
  obtain ⟨notHandler, notQueued⟩ := stored.held_apart isHeld
  have agree := memory.heap.free_agreeOutside block
  have perm : table.blocks.Perm
      (block :: { table with held := table.held.erase block }.blocks) := by
    refine .trans (.cons _ (.cons _ ?_))
      (Table.hold_perm { table with held := table.held.erase block } block)
    exact ((List.perm_cons_erase isHeld).append_left _).append_left _
  have distinct := perm.nodup_iff.mp stored.distinct
  obtain ⟨notIn, distinct⟩ := List.nodup_cons.mp distinct
  refine ⟨stored.handlersHold.frame agree fun node member isIn => ?_,
    stored.queueHolds.frame agree fun node member isIn => ?_, distinct, fun other => ?_,
    stored.handlers, stored.elms⟩
  · exact notHandler (List.mem_singleton.mp isIn ▸ member)
  · exact notQueued (List.mem_singleton.mp isIn ▸ member)
  · change Function.update memory.heap.alive block false other = true ↔ _
    by_cases same : other = block
    · rw [same, Function.update_self]
      exact iff_of_false Bool.false_ne_true notIn
    · rw [Function.update_of_ne same, stored.alive other, perm.mem_iff, List.mem_cons]
      exact or_iff_right same

theorem grab (stored : Stored memory table) (fresh : block ∉ table.blocks)
    (isHeap : after.heap = memory.heap.calloc block)
    (handlers : ∀ other ≠ block, after.handlerAt other = memory.handlerAt other)
    (elms : ∀ other ≠ block, after.elmAt other = memory.elmAt other) :
    Stored after { table with held := block :: table.held } := by
  have agree := memory.heap.calloc_agreeOutside block
  have perm := Table.hold_perm table block
  have inUse : ∀ node ∈ table.blocks, node ≠ block := fun node member same =>
    fresh (same ▸ member)
  have isHandler : ∀ node ∈ gHandlerList :: table.handlers.map Prod.fst, node ∈ table.blocks :=
    fun node member => table.blocks_perm.mem_iff.mpr (List.mem_append_left _ member)
  have isQueued : ∀ node ∈ gMsgQueue :: table.queue.map Prod.fst, node ∈ table.blocks :=
    fun node member => table.blocks_perm.mem_iff.mpr
      (List.mem_append_right _ (List.mem_append_left _ member))
  refine ⟨?_, ?_, perm.nodup_iff.mpr (List.nodup_cons.mpr ⟨fresh, stored.distinct⟩),
    fun other => ?_, fun entry member => ?_, fun entry member => ?_⟩
  · rw [isHeap]
    exact stored.handlersHold.frame agree fun node member isIn =>
      inUse node (isHandler node member) (List.mem_singleton.mp isIn)
  · rw [isHeap]
    exact stored.queueHolds.frame agree fun node member isIn =>
      inUse node (isQueued node member) (List.mem_singleton.mp isIn)
  · rw [isHeap, perm.mem_iff, List.mem_cons, ← stored.alive other]
    change Function.update memory.heap.alive block true other = true ↔ _
    by_cases same : other = block
    · rw [same, Function.update_self]
      exact iff_of_true rfl (.inl rfl)
    · rw [Function.update_of_ne same]
      exact (or_iff_right same).symm
  · have differs := inUse entry.1
      (isHandler _ (List.mem_cons_of_mem _ (List.mem_map_of_mem member)))
    rw [handlers _ differs, stored.handlers entry member]
  · have differs := inUse entry.1
      (isQueued _ (List.mem_cons_of_mem _ (List.mem_map_of_mem member)))
    rw [elms _ differs, stored.elms entry member]

theorem freeHandler {entry : Nat × Nat}
    (stored : Stored memory ⟨frontHandlers ++ entry :: backHandlers, queue, held⟩) :
    ∃ deleted, memory.delEntry entry.1 = some deleted ∧
      Stored (deleted.freeBlock entry.1) ⟨frontHandlers ++ backHandlers, queue, held⟩ := by
  obtain ⟨deleted, deletes, taken⟩ := stored.takeHandler
  have released := taken.release List.mem_cons_self
  rw [List.erase_cons_head] at released
  exact ⟨deleted, deletes, released⟩

theorem freeElm {entry : Nat × Msg}
    (stored : Stored memory ⟨handlers, frontElms ++ entry :: backElms, held⟩) :
    ∃ deleted, memory.delEntry entry.1 = some deleted ∧
      Stored (deleted.freeBlock entry.1) ⟨handlers, frontElms ++ backElms, held⟩ := by
  obtain ⟨deleted, deletes, taken⟩ := stored.takeElm
  have released := taken.release List.mem_cons_self
  rw [List.erase_cons_head] at released
  exact ⟨deleted, deletes, released⟩

theorem derefHandler (stored : Stored memory table) {entry : Nat × Nat}
    (member : entry ∈ table.handlers) : memory.heap.deref (some entry.1) = some entry.1 :=
  Heap.deref_some (stored.handlersHold.alive _
    (List.mem_cons_of_mem _ (List.mem_map_of_mem member)))

/-! The operations. -/

theorem clearHandlers (stored : Stored memory table) (enough : table.handlers.length < fuel) :
    ∃ after, lvMsgClearHandler fuel memory = some (after, 0) ∧
      Stored after { table with handlers := [] } := by
  have loop : ∃ after,
      Heap.listForEachEntrySafe Memory.heap clearEntry gHandlerList fuel memory = some after ∧
        Stored after ⟨[], table.queue, table.held⟩ := by
    refine Heap.listForEachEntrySafe_rule (fun left todo state => left = [] ∧
      ∃ handlers : List (Nat × Nat), handlers.map Prod.fst = todo ∧
        Stored state ⟨handlers, table.queue, table.held⟩) ?_ ?_ ?_
      ⟨rfl, table.handlers, rfl, stored⟩ (by rwa [List.length_map])
    · rintro _ _ state ⟨rfl, handlers, rfl, kept⟩
      exact kept.handlersHold
    · rintro _ entry todo state ⟨rfl, handlers, isTodo, kept⟩
      cases handlers with
      | nil => contradiction
      | cons first rest =>
          obtain ⟨rfl, rfl⟩ := List.cons.inj isTodo
          have kept : Stored state ⟨[] ++ first :: rest, table.queue, table.held⟩ := kept
          obtain ⟨deleted, deletes, freed⟩ := kept.freeHandler
          refine ⟨deleted.freeBlock first.1, .inr ⟨?_, [], rfl, rest, rfl, freed⟩⟩
          rw [clearEntry, deletes]
          rfl
    · rintro _ state ⟨rfl, handlers, isTodo, kept⟩
      rw [List.map_eq_nil_iff] at isTodo
      exact isTodo ▸ kept
  obtain ⟨after, clears, isDone⟩ := loop
  refine ⟨after, ?_, isDone⟩
  rw [lvMsgClearHandler, clearList, clears]
  change (after.heap.listEmpty gHandlerList).bind _ = _
  rw [isDone.handlersHold.listEmpty_eq]
  rfl

theorem clearQueue (stored : Stored memory table) (enough : table.queue.length < fuel) :
    ∃ after, lvMsgClearQueue fuel memory = some (after, 0) ∧
      Stored after { table with queue := [] } := by
  have loop : ∃ after,
      Heap.listForEachEntrySafe Memory.heap clearEntry gMsgQueue fuel memory = some after ∧
        Stored after ⟨table.handlers, [], table.held⟩ := by
    refine Heap.listForEachEntrySafe_rule (fun left todo state => left = [] ∧
      ∃ queue : List (Nat × Msg), queue.map Prod.fst = todo ∧
        Stored state ⟨table.handlers, queue, table.held⟩) ?_ ?_ ?_
      ⟨rfl, table.queue, rfl, stored⟩ (by rwa [List.length_map])
    · rintro _ _ state ⟨rfl, queue, rfl, kept⟩
      exact kept.queueHolds
    · rintro _ entry todo state ⟨rfl, queue, isTodo, kept⟩
      cases queue with
      | nil => contradiction
      | cons first rest =>
          obtain ⟨rfl, rfl⟩ := List.cons.inj isTodo
          have kept : Stored state ⟨table.handlers, [] ++ first :: rest, table.held⟩ := kept
          obtain ⟨deleted, deletes, freed⟩ := kept.freeElm
          refine ⟨deleted.freeBlock first.1, .inr ⟨?_, [], rfl, rest, rfl, freed⟩⟩
          rw [clearEntry, deletes]
          rfl
    · rintro _ state ⟨rfl, queue, isTodo, kept⟩
      rw [List.map_eq_nil_iff] at isTodo
      exact isTodo ▸ kept
  obtain ⟨after, clears, isDone⟩ := loop
  refine ⟨after, ?_, isDone⟩
  rw [lvMsgClearQueue, clearList, clears]
  change (after.heap.listEmpty gMsgQueue).bind _ = _
  rw [isDone.queueHolds.listEmpty_eq]
  rfl

theorem handlersDistinct (stored : Stored memory table) :
    (table.handlers.map Prod.fst).Nodup :=
  (List.nodup_cons.mp stored.handlersHold.ring.distinct).2

theorem unregister (stored : Stored memory table) (obj : Option Nat)
    (enough : table.handlers.length < fuel) :
    ∃ after, lvMsgUnregisterHandler fuel memory obj = some after ∧
      Stored after (table.unregister obj) := by
  refine Heap.listForEachEntrySafe_rule (fun left todo state => state = memory ∧
    ∃ front back, left = front.map Prod.fst ∧ todo = back.map Prod.fst ∧
      table.handlers = front ++ back ∧ ∀ entry ∈ front, obj ≠ some entry.1) ?_ ?_ ?_
    ⟨rfl, [], table.handlers, rfl, rfl, rfl, nofun⟩ (by rwa [List.length_map])
  · rintro _ _ memory ⟨rfl, front, back, rfl, rfl, isSplit, _⟩
    rw [← List.map_append, ← isSplit]
    exact stored.handlersHold
  · rintro _ pos todo memory ⟨rfl, front, back, rfl, isTodo, isSplit, passed⟩
    cases back with
    | nil => cases isTodo
    | cons entry back =>
        obtain ⟨rfl, rfl⟩ := List.cons.inj isTodo
        unfold unregisterRound
        by_cases isObj : obj = some entry.1
        · have kept : Stored memory ⟨front ++ entry :: back, table.queue, table.held⟩ :=
            isSplit ▸ stored
          obtain ⟨deleted, deletes, freed⟩ := kept.freeHandler
          refine ⟨deleted.freeBlock entry.1, .inl ⟨?_, ?_⟩⟩
          · rw [if_pos isObj, deletes]
            rfl
          · have isLeft : (Table.mk (front ++ entry :: back) table.queue table.held).unregister
                (some entry.1) = ⟨front ++ back, table.queue, table.held⟩ :=
              Table.unregister_middle kept.handlersDistinct
            rw [← isObj, ← isSplit] at isLeft
            exact isLeft ▸ freed
        · refine ⟨memory, .inr ⟨if_neg isObj, (front ++ [entry]).map Prod.fst, rfl,
            front ++ [entry], back, rfl, rfl, ?_, ?_⟩⟩
          · rw [isSplit, List.append_assoc, List.singleton_append]
          · intro other member
            rcases List.mem_append.mp member with isFront | isLast
            · exact passed other isFront
            · exact List.mem_singleton.mp isLast ▸ isObj
  · rintro _ memory ⟨rfl, front, back, rfl, isTodo, isSplit, passed⟩
    rw [eq_comm, List.map_eq_nil_iff] at isTodo
    rw [isTodo, List.append_nil] at isSplit
    rw [Table.unregister_none (isSplit ▸ passed)]
    exact stored

/-- The search of `lv_msg_register_handler`, which has the new block `elm` in its hands. -/
theorem registerSearch (handler : Nat) {fresh : Memory} {elm : Nat}
    (stored : Stored fresh { table with held := elm :: table.held })
    (enough : table.handlers.length < fuel) :
    ∃ after, Heap.listForEachEntrySafe (fun state => state.1.heap) (registerRound handler elm)
        gHandlerList fuel (fresh, false) = some after ∧
      ((after.2 = true ∧ Stored after.1 table ∧ ∃ entry ∈ table.handlers, handler = entry.2) ∨
        (after = (fresh, false) ∧ ∀ entry ∈ table.handlers, handler ≠ entry.2)) := by
  refine Heap.listForEachEntrySafe_rule (fun left todo state => state = (fresh, false) ∧
    ∃ front back, left = front.map Prod.fst ∧ todo = back.map Prod.fst ∧
      table.handlers = front ++ back ∧ ∀ entry ∈ front, handler ≠ entry.2) ?_ ?_ ?_
    ⟨rfl, [], table.handlers, rfl, rfl, rfl, nofun⟩ (by rwa [List.length_map])
  · rintro _ _ _ ⟨rfl, front, back, rfl, rfl, isSplit, _⟩
    rw [← List.map_append, ← isSplit]
    exact stored.handlersHold
  · rintro _ pos todo _ ⟨rfl, front, back, rfl, isTodo, isSplit, passed⟩
    cases back with
    | nil => cases isTodo
    | cons entry back =>
        obtain ⟨rfl, rfl⟩ := List.cons.inj isTodo
        have member : entry ∈ table.handlers :=
          isSplit ▸ List.mem_append_right _ List.mem_cons_self
        have isAt : fresh.handlerAt entry.1 = entry.2 := stored.handlers entry member
        have rounds : registerRound handler elm (fresh, false) entry.1 =
            if handler = entry.2 then some ((fresh.freeBlock elm, true), true)
            else some ((fresh, false), false) := by
          rw [registerRound, stored.derefHandler member, ← isAt]
          rfl
        rw [rounds]
        by_cases same : handler = entry.2
        · refine ⟨(fresh.freeBlock elm, true),
            .inl ⟨if_pos same, .inl ⟨rfl, ?_, entry, member, same⟩⟩⟩
          have released := stored.release List.mem_cons_self
          rw [List.erase_cons_head] at released
          exact released
        · refine ⟨(fresh, false), .inr ⟨if_neg same, (front ++ [entry]).map Prod.fst, rfl,
            front ++ [entry], back, rfl, rfl, ?_, ?_⟩⟩
          · rw [isSplit, List.append_assoc, List.singleton_append]
          · intro other member
            rcases List.mem_append.mp member with isFront | isLast
            · exact passed other isFront
            · exact List.mem_singleton.mp isLast ▸ same
  · rintro _ _ ⟨rfl, front, back, rfl, isTodo, isSplit, passed⟩
    rw [eq_comm, List.map_eq_nil_iff] at isTodo
    rw [isTodo, List.append_nil] at isSplit
    exact .inr ⟨rfl, isSplit ▸ passed⟩

theorem register {elm : Nat} (stored : Stored memory table) (handler : Nat)
    (fresh : elm ∉ table.blocks) (enough : table.handlers.length < fuel) :
    ∃ after obj, lvMsgRegisterHandler fuel memory (some handler) (some elm) = some (after, obj) ∧
      ((obj = none ∧ Stored after table ∧ ∃ entry ∈ table.handlers, handler = entry.2) ∨
        (obj = some elm ∧ Stored after (table.register handler elm) ∧
          ∀ entry ∈ table.handlers, handler ≠ entry.2)) := by
  have grabbed : Stored (memory.callocHandler elm handler)
      { table with held := elm :: table.held } :=
    stored.grab fresh rfl (fun other differs => Function.update_of_ne differs _ _) fun _ _ => rfl
  obtain ⟨⟨after, found⟩, searches, cases⟩ := grabbed.registerSearch handler enough
  unfold lvMsgRegisterHandler
  rcases cases with ⟨isFound, kept, isThere⟩ | ⟨isFresh, notFound⟩
  · cases isFound
    refine ⟨after, none, ?_, .inl ⟨rfl, kept, isThere⟩⟩
    change Option.bind (Heap.listForEachEntrySafe _ _ _ _ _) _ = _
    rw [searches]
    rfl
  · obtain ⟨added, adds, kept⟩ := grabbed.addHandler (Function.update_self _ _ _)
    cases isFresh
    refine ⟨added, some elm, ?_, .inr ⟨rfl, kept, notFound⟩⟩
    change Option.bind (Heap.listForEachEntrySafe _ _ _ _ _) _ = _
    rw [searches]
    change Option.bind (Memory.addEntry _ _ _) _ = _
    rw [adds]
    rfl

theorem post {block : Nat} (stored : Stored memory table) (elm : Msg) {obj : Nat}
    (isRegistered : obj ∈ table.handlers.map Prod.fst) (fresh : block ∉ table.blocks) :
    ∃ after, lvPostMsg memory (some obj) elm (some block) = some (after, 0) ∧
      Stored after (table.post elm block) := by
  have grabbed : Stored (memory.callocElm block elm) { table with held := block :: table.held } :=
    stored.grab fresh rfl (fun _ _ => rfl) fun other differs => Function.update_of_ne differs _ _
  obtain ⟨added, adds, kept⟩ := grabbed.addElm (Function.update_self _ _ _)
  obtain ⟨entry, member, rfl⟩ := List.mem_map.mp isRegistered
  refine ⟨added, ?_, kept⟩
  unfold lvPostMsg
  change Option.bind (memory.heap.deref (some entry.1)) _ = _
  rw [stored.derefHandler member]
  change Option.bind (Memory.addEntry _ _ _) _ = _
  rw [adds]
  rfl

theorem get_empty (stored : Stored memory table) (isEmpty : table.queue = []) :
    lvGetMessage memory = some (memory, none) := by
  unfold lvGetMessage
  rw [stored.queueHolds.listEmpty_eq, isEmpty]
  rfl

theorem get_first {entry : Nat × Msg} (stored : Stored memory ⟨handlers, entry :: queue, held⟩) :
    ∃ after, lvGetMessage memory = some (after, some entry.1) ∧
      Stored after ⟨handlers, queue, entry.1 :: held⟩ := by
  have kept : Stored memory ⟨handlers, [] ++ entry :: queue, held⟩ := stored
  obtain ⟨deleted, deletes, taken⟩ := kept.takeElm
  refine ⟨deleted, ?_, taken⟩
  unfold lvGetMessage
  rw [stored.queueHolds.listEmpty_eq]
  change Option.bind (memory.heap.listFirstEntry gMsgQueue) _ = _
  rw [stored.queueHolds.listFirstEntry_eq]
  change Option.bind (memory.delEntry entry.1) _ = _
  rw [deletes]
  rfl

theorem send_all (stored : Stored memory table) (handles : Nat → Bool)
    (enough : table.handlers.length < fuel) :
    lvDispatchMessage fuel memory none handles = some (table.calledBy handles,
      Table.result (table.handlers.any fun entry => handles entry.2)) := by
  have loop : ∃ after, Heap.listForEachEntrySafe (fun state => state.1.heap)
      (dispatchRound handles) gHandlerList fuel (memory, [], false) = some after ∧
      after.2.1 = table.calledBy handles ∧
        after.2.2 = table.handlers.any fun entry => handles entry.2 := by
    refine Heap.listForEachEntrySafe_rule (fun left todo state => ∃ front back,
      left = front.map Prod.fst ∧ todo = back.map Prod.fst ∧ table.handlers = front ++ back ∧
        state = (memory, front.map Prod.snd, false) ∧
        ∀ entry ∈ front, handles entry.2 = false) ?_ ?_ ?_
      ⟨[], table.handlers, rfl, rfl, rfl, rfl, nofun⟩ (by rwa [List.length_map])
    · rintro _ _ _ ⟨front, back, rfl, rfl, isSplit, rfl, _⟩
      rw [← List.map_append, ← isSplit]
      exact stored.handlersHold
    · rintro _ pos todo _ ⟨front, back, rfl, isTodo, isSplit, rfl, passed⟩
      cases back with
      | nil => cases isTodo
      | cons entry back =>
          obtain ⟨rfl, rfl⟩ := List.cons.inj isTodo
          have member : entry ∈ table.handlers :=
            isSplit ▸ List.mem_append_right _ List.mem_cons_self
          have rounds : dispatchRound handles (memory, front.map Prod.snd, false) entry.1 =
              some ((memory, front.map Prod.snd ++ [entry.2], handles entry.2),
                handles entry.2) := by
            rw [dispatchRound, stored.derefHandler member, ← stored.handlers entry member]
            rfl
          rw [rounds]
          cases handled : handles entry.2 with
          | true =>
              refine ⟨_, .inl ⟨rfl, (Table.calledBy_first isSplit passed handled).symm, ?_⟩⟩
              exact (List.any_eq_true.mpr ⟨entry, member, handled⟩).symm
          | false =>
              refine ⟨_, .inr ⟨rfl, (front ++ [entry]).map Prod.fst, front ++ [entry], back, rfl,
                rfl, ?_, ?_, ?_⟩⟩
              · rw [isSplit, List.append_assoc, List.singleton_append]
              · rw [List.map_append]
                rfl
              · intro other member
                rcases List.mem_append.mp member with isFront | isLast
                · exact passed other isFront
                · exact List.mem_singleton.mp isLast ▸ handled
    · rintro _ _ ⟨front, back, rfl, isTodo, isSplit, rfl, passed⟩
      rw [eq_comm, List.map_eq_nil_iff] at isTodo
      rw [isTodo, List.append_nil] at isSplit
      subst isSplit
      refine ⟨(Table.calledBy_all passed).symm, Eq.symm (List.any_eq_false.mpr ?_)⟩
      exact fun entry member => Bool.eq_false_iff.mp (passed entry member)
  obtain ⟨⟨after, called, handled⟩, calls, rfl, rfl⟩ := loop
  unfold lvDispatchMessage
  change Option.bind (Heap.listForEachEntrySafe _ _ _ _ _) _ = _
  rw [calls]
  rfl

theorem send_one {obj : Nat} (stored : Stored memory table) (fuel : Nat) (handles : Nat → Bool)
    (isRegistered : obj ∈ table.handlers.map Prod.fst) :
    ∃ called, (table.handlers.filter fun entry => entry.1 = obj).map Prod.snd = [called] ∧
      lvDispatchMessage fuel memory (some obj) handles =
        some ([called], Table.result (handles called)) := by
  obtain ⟨entry, member, rfl⟩ := List.mem_map.mp isRegistered
  obtain ⟨front, back, isSplit⟩ := List.append_of_mem member
  have distinct := stored.handlersDistinct
  rw [isSplit, List.map_append, List.map_cons, List.nodup_middle, List.nodup_cons,
    ← List.map_append] at distinct
  have others : ∀ other ∈ front ++ back, ¬decide (other.1 = entry.1) = true := by
    intro other isIn same
    exact distinct.1 (of_decide_eq_true same ▸ List.mem_map_of_mem isIn)
  refine ⟨entry.2, ?_, ?_⟩
  · rw [isSplit, List.filter_append,
      List.filter_eq_nil_iff.mpr fun other isIn => others other (List.mem_append_left _ isIn),
      List.filter_cons_of_pos (by simp),
      List.filter_eq_nil_iff.mpr fun other isIn => others other (List.mem_append_right _ isIn)]
    rfl
  · unfold lvDispatchMessage
    change Option.bind (memory.heap.deref (some entry.1)) _ = _
    rw [stored.derefHandler member, ← stored.handlers entry member]
    rfl

theorem call (stored : Stored memory table) (call : Call) (promised : table.Promised call)
    (enoughHandlers : table.handlers.length < fuel) (enoughElms : table.queue.length < fuel) :
    ∃ after, call.run fuel memory = some (after, (table.step call).2) ∧
      Stored after (table.step call).1 := by
  cases call with
  | register handler block =>
      cases handler with
      | none => exact ⟨memory, rfl, stored⟩
      | some handler =>
          cases block with
          | none => exact ⟨memory, rfl, stored⟩
          | some elm =>
              obtain ⟨after, obj, runs, cases⟩ :=
                stored.register handler (promised elm rfl) enoughHandlers
              refine ⟨after, ?_⟩
              change Option.bind (lvMsgRegisterHandler _ _ _ _) _ = _ ∧ _
              rw [runs, table.step_register]
              rcases cases with ⟨rfl, kept, entry, member, same⟩ | ⟨rfl, kept, notFound⟩
              · rw [if_pos (List.any_eq_true.mpr ⟨entry, member, decide_eq_true same⟩)]
                exact ⟨rfl, kept⟩
              · rw [if_neg]
                · exact ⟨rfl, kept⟩
                · rw [List.any_eq_true]
                  rintro ⟨entry, member, same⟩
                  exact notFound entry member (of_decide_eq_true same)
  | unregister obj =>
      obtain ⟨after, runs, kept⟩ := stored.unregister obj enoughHandlers
      refine ⟨after, ?_, kept⟩
      change Option.bind (lvMsgUnregisterHandler _ _ _) _ = _
      rw [runs]
      rfl
  | post obj elm block =>
      cases obj with
      | none => exact ⟨memory, rfl, stored⟩
      | some obj =>
          cases block with
          | none =>
              obtain ⟨entry, member, rfl⟩ := List.mem_map.mp (promised.1 obj rfl)
              refine ⟨memory, ?_, stored⟩
              change Option.bind (lvPostMsg _ _ _ _) _ = _
              unfold lvPostMsg
              change Option.bind (Option.bind (memory.heap.deref (some entry.1)) _) _ = _
              rw [stored.derefHandler member]
              rfl
          | some block =>
              obtain ⟨after, runs, kept⟩ :=
                stored.post elm (promised.1 obj rfl) (promised.2 block rfl)
              refine ⟨after, ?_, kept⟩
              change Option.bind (lvPostMsg _ _ _ _) _ = _
              rw [runs]
              rfl
  | get =>
      cases table with
      | mk handlers queue held =>
          cases queue with
          | nil =>
              refine ⟨memory, ?_, stored⟩
              change Option.bind (lvGetMessage _) _ = _
              rw [stored.get_empty rfl]
              rfl
          | cons entry queue =>
              obtain ⟨after, runs, kept⟩ := stored.get_first
              refine ⟨after, ?_, kept⟩
              change Option.bind (lvGetMessage _) _ = _
              rw [runs]
              rfl
  | release elm =>
      refine ⟨memory.freeBlock elm, ?_, stored.release promised⟩
      have isAlive : memory.heap.alive elm = true :=
        (stored.alive elm).mpr (table.blocks_perm.mem_iff.mpr
          (List.mem_append_right _ (List.mem_append_right _ promised)))
      change Option.bind (memory.heap.deref (some elm)) _ = _
      rw [Heap.deref_some isAlive]
      rfl
  | send obj handles =>
      refine ⟨memory, ?_, ?_⟩
      · change Option.bind (lvDispatchMessage _ _ _ _) _ = _
        cases obj with
        | none =>
            rw [stored.send_all handles enoughHandlers]
            rfl
        | some obj =>
            obtain ⟨called, isCalled, runs⟩ :=
              stored.send_one fuel handles (promised obj rfl)
            rw [runs, table.step_send, isCalled, List.any_cons, List.any_nil, Bool.or_false]
            rfl
      · cases obj with
        | none => exact stored
        | some obj => exact stored
  | clearHandlers =>
      obtain ⟨after, runs, kept⟩ := stored.clearHandlers enoughHandlers
      refine ⟨after, ?_, kept⟩
      change Option.bind (lvMsgClearHandler _ _) _ = _
      rw [runs]
      rfl
  | clearQueue =>
      obtain ⟨after, runs, kept⟩ := stored.clearQueue enoughElms
      refine ⟨after, ?_, kept⟩
      change Option.bind (lvMsgClearQueue _ _) _ = _
      rw [runs]
      rfl

theorem calls {calls : List Call} (stored : Stored memory table)
    (promised : table.AllPromised calls)
    (enough : table.handlers.length + table.queue.length + calls.length ≤ fuel) :
    ∃ after, runCalls fuel memory calls = some (after, (table.steps calls).2) ∧
      Stored after (table.steps calls).1 := by
  induction calls generalizing memory table with
  | nil => exact ⟨memory, rfl, stored⟩
  | cons call calls induction =>
      rw [List.length_cons] at enough
      have enoughHandlers : table.handlers.length < fuel := by omega
      have enoughElms : table.queue.length < fuel := by omega
      have enoughRest : (table.step call).1.handlers.length + (table.step call).1.queue.length +
          calls.length ≤ fuel := by
        have longer := table.step_length call
        omega
      obtain ⟨after, runs, kept⟩ := stored.call call promised.1 enoughHandlers enoughElms
      obtain ⟨last, continues, isStored⟩ := induction kept promised.2 enoughRest
      refine ⟨last, ?_, isStored⟩
      rw [runCalls, runs]
      change Option.bind (runCalls fuel after calls) _ = _
      rw [continues]
      rfl

theorem init (onlyHeads : ∀ block, memory.heap.alive block = true ↔
    block = gHandlerList ∨ block = gMsgQueue) : Stored memory.lvMsgInit Table.empty := by
  have isQueue : memory.heap.alive gMsgQueue = true := (onlyHeads _).mpr (.inr rfl)
  have isList : (memory.heap.initListHead gMsgQueue).alive gHandlerList = true :=
    (onlyHeads _).mpr (.inl rfl)
  refine ⟨Heap.initListHead_holds isList, ?_, by decide, fun block => ?_, nofun, nofun⟩
  · refine (Heap.initListHead_holds isQueue).frame
      (Heap.initListHead_agreeOutside _ gHandlerList) fun node member isIn => ?_
    rw [List.mem_singleton.mp member] at isIn
    exact absurd (List.mem_singleton.mp isIn) (by decide)
  · refine (onlyHeads block).trans ?_
    change _ ↔ block ∈ [gHandlerList, gMsgQueue]
    rw [List.mem_cons, List.mem_singleton]

end Stored

/-- From `lv_msg_init` on, the lists in memory do what the table says, whatever calls come in
whatever order: no pointer of them is NULL or freed, and no block is lost or freed twice. -/
theorem lists_follow_table (memory : Memory) (calls : List Call)
    (onlyHeads : ∀ block, memory.heap.alive block = true ↔
      block = gHandlerList ∨ block = gMsgQueue)
    (promised : Table.empty.AllPromised calls) :
    ∃ after, runCalls calls.length memory.lvMsgInit calls =
        some (after, (Table.empty.steps calls).2) ∧
      Stored after (Table.empty.steps calls).1 :=
  (Stored.init onlyHeads).calls promised (by simp [Table.empty])

/-- A handler is registered and sent a message, and another one of the same function is
refused. -/
theorem lists_follow_table_registered :
    ∃ after, runCalls 5 (Memory.mk ⟨fun block => block = 0 ∨ block = 1, ⟨fun _ => none,
        fun _ => none⟩⟩ (fun _ => 0) fun _ => ⟨0, 0, 0, 0, 0⟩).lvMsgInit
        [.register (some 7) (some 2), .register (some 7) (some 3),
          .post (some 2) ⟨0, 2, 5, 0, 0⟩ (some 3), .get, .unregister (some 2)] =
      some (after, [.pointer (some 2), .pointer none, .status 0, .pointer (some 3), .nothing]) ∧
      Stored after ⟨[], [], [3]⟩ := by
  refine lists_follow_table _ [.register (some 7) (some 2), .register (some 7) (some 3),
    .post (some 2) ⟨0, 2, 5, 0, 0⟩ (some 3), .get, .unregister (some 2)]
    (fun block => decide_eq_true_iff) ⟨?_, ?_, ⟨?_, ?_⟩, trivial, trivial, trivial⟩
  · rintro _ ⟨⟩
    decide
  · rintro _ ⟨⟩
    decide
  · rintro _ ⟨⟩
    decide
  · rintro _ ⟨⟩
    decide

/-! The table against the state of `Message`: the objects there are the blocks under other
names, which are not used again. -/

namespace Table.Shows

variable {name : Nat → Nat} {state : State}

theorem register (shows : table.Shows name state) (fresh : block ∉ table.blocks) :
    ∃ name', (table.step (.register (some handler) (some block))).1.Shows name'
      (state.register handler) := by
  rw [step_register]
  have sameAny : ((table.handlers.map fun entry => Handler.mk (name entry.1) entry.2).any
      fun entry => entry.handler = handler) =
        table.handlers.any fun entry => handler = entry.2 := by
    rw [List.any_map]
    exact congrArg (List.any table.handlers) (funext fun entry => decide_eq_decide.mpr eq_comm)
  unfold State.register
  rw [shows.handlers]
  dsimp only
  rw [sameAny]
  by_cases isThere : (table.handlers.any fun entry => handler = entry.2) = true
  · rw [if_pos isThere, if_pos isThere]
    exact ⟨name, shows⟩
  · rw [if_neg isThere, if_neg isThere]
    have differs : ∀ entry ∈ table.handlers, entry.1 ≠ block := by
      rintro entry member rfl
      exact fresh (table.blocks_perm.mem_iff.mpr
        (List.mem_append_left _ (List.mem_cons_of_mem _ (List.mem_map_of_mem member))))
    have kept : ∀ entry ∈ table.handlers,
        Function.update name block state.objects entry.1 = name entry.1 :=
      fun entry member => Function.update_of_ne (differs entry member) _ _
    refine ⟨Function.update name block state.objects, ⟨congrArg some ?_, shows.queue, ?_, ?_⟩⟩
    · change _ = (table.handlers ++ [(block, handler)]).map _
      rw [List.map_append, List.map_singleton, Function.update_self]
      refine congrArg (fun front => front ++ _) (List.map_congr_left fun entry member => ?_)
      rw [kept entry member]
    · intro entry member
      rcases List.mem_append.mp member with isOld | isNew
      · rw [kept entry isOld]
        exact Nat.lt_succ_of_lt (shows.named entry isOld)
      · rw [List.mem_singleton.mp isNew, Function.update_self]
        exact Nat.lt_succ_self _
    · change ((table.handlers ++ [(block, handler)]).map _).Nodup
      rw [List.map_append, List.map_singleton, Function.update_self, List.map_congr_left kept]
      refine List.nodup_append.mpr ⟨shows.distinct, List.nodup_singleton _, ?_⟩
      rintro one isOld other isNew rfl
      obtain ⟨entry, member, rfl⟩ := List.mem_map.mp isOld
      have before := shows.named entry member
      rw [List.mem_singleton.mp isNew] at before
      exact absurd before (Nat.lt_irrefl _)

theorem unregister {obj : Nat} (shows : table.Shows name state)
    (isRegistered : obj ∈ table.handlers.map Prod.fst) :
    (table.unregister (some obj)).Shows name (state.unregister (name obj)) := by
  obtain ⟨target, isIn, rfl⟩ := List.mem_map.mp isRegistered
  have sameFilter : ((table.handlers.map fun entry => Handler.mk (name entry.1) entry.2).filter
      fun entry => entry.obj ≠ name target.1) =
        (table.unregister (some target.1)).handlers.map fun entry =>
          ⟨name entry.1, entry.2⟩ := by
    rw [List.filter_map]
    refine congrArg (List.map _) (List.filter_congr fun entry member => ?_)
    refine decide_eq_decide.mpr (not_congr ⟨fun same => ?_, fun same => ?_⟩)
    · have isTarget := List.inj_on_of_nodup_map shows.distinct member isIn same
      rw [isTarget]
    · rw [Option.some.inj same]
  unfold State.unregister
  rw [shows.handlers]
  refine ⟨congrArg some sameFilter, shows.queue, fun entry member => ?_, ?_⟩
  · exact shows.named entry (List.mem_of_mem_filter member)
  · exact shows.distinct.sublist ((List.filter_sublist).map _)

theorem post (shows : table.Shows name state) (index : Nat) (elm : Msg) (block : Nat) :
    (table.post elm block).Shows name (state.enqueue index elm) := by
  unfold State.enqueue
  rw [shows.queue]
  refine ⟨shows.handlers, congrArg some ?_, shows.named, shows.distinct⟩
  change _ = (table.queue ++ [(block, elm)]).map Prod.snd
  rw [List.map_append, List.map_singleton]

theorem get (shows : table.Shows name state) (thread : Nat) (onEmpty : Phase) :
    (table.step .get).1.Shows name (state.get thread onEmpty) := by
  cases table with
  | mk handlers queue held =>
      unfold State.get
      rw [shows.queue]
      cases queue with
      | nil => exact ⟨shows.handlers, shows.queue, shows.named, shows.distinct⟩
      | cons entry queue => exact ⟨shows.handlers, rfl, shows.named, shows.distinct⟩

theorem clearHandlers (shows : table.Shows name state) :
    (table.step .clearHandlers).1.Shows name state.clearHandlers := by
  unfold State.clearHandlers
  rw [shows.handlers]
  exact ⟨rfl, shows.queue, nofun, List.nodup_nil⟩

theorem clearQueue (shows : table.Shows name state) :
    (table.step .clearQueue).1.Shows name state.clearQueue := by
  unfold State.clearQueue
  rw [shows.queue]
  exact ⟨shows.handlers, rfl, shows.named, shows.distinct⟩

end Table.Shows

end Rkipc.Lvgl
