import Rkipc.Linked.Ring

namespace Rkipc.Common

open Linked

/-! `list.h`: the lists of `struct list_head`, in a heap whose blocks come and go. -/

structure Heap (α : Type) where
  alive : α → Bool
  links : Links α

namespace Heap

variable {α : Type} [DecidableEq α]

section Operations

variable (heap : Heap α)

/-- The block that a pointer is to: NULL and a block that was freed have none. -/
def deref (pointer : Option α) : Option α := pointer.filter heap.alive

def calloc (block : α) : Heap α :=
  ⟨Function.update heap.alive block true, heap.links.clear block⟩

def free (block : α) : Heap α := { heap with alive := Function.update heap.alive block false }

def initListHead (list : α) : Heap α := { heap with links := heap.links.close list }

/-- `__list_add` -/
def listAddBetween (new prev next : Option α) : Option (Heap α) := do
  let next ← heap.deref next
  let new ← heap.deref new
  let prev ← heap.deref prev
  return { heap with links := heap.links.insert new prev next }

def listAddTail (new head : α) : Option (Heap α) := do
  let head ← heap.deref (some head)
  heap.listAddBetween (some new) (heap.links.prev head) (some head)

/-- `__list_del` -/
def listDelBetween (prev next : Option α) : Option (Heap α) := do
  let next ← heap.deref next
  let prev ← heap.deref prev
  return { heap with links := heap.links.bridge prev next }

def listDel (entry : α) : Option (Heap α) := do
  let entry ← heap.deref (some entry)
  let deleted ← heap.listDelBetween (heap.links.prev entry) (heap.links.next entry)
  return { deleted with links := deleted.links.clear entry }

def listEmpty (head : α) : Option Bool := do
  let head ← heap.deref (some head)
  return heap.links.next head = some head

def listFirstEntry (head : α) : Option (Option α) := do
  let head ← heap.deref (some head)
  return heap.links.next head

end Operations

/-- The rounds of `list_for_each_entry_safe`: the entry behind the next one is read after the
body, which says whether it breaks out of the loop. -/
def entriesFrom (heapOf : σ → Heap α) (body : σ → α → Option (σ × Bool)) (head : α) :
    Nat → σ → Option α → Option α → Option σ
  | 0, _, _, _ => none
  | fuel + 1, state, pos, n =>
      if pos = some head then some state
      else do
        let entry ← pos
        let (after, breaks) ← body state entry
        if breaks then return after
        let following ← (heapOf after).deref n
        entriesFrom heapOf body head fuel after n ((heapOf after).links.next following)

def listForEachEntrySafe (heapOf : σ → Heap α) (body : σ → α → Option (σ × Bool)) (head : α)
    (fuel : Nat) (state : σ) : Option σ := do
  let pos ← (heapOf state).listFirstEntry head
  let entry ← (heapOf state).deref pos
  entriesFrom heapOf body head fuel state pos ((heapOf state).links.next entry)

/-- The list of the head has these entries, and none of them is freed. -/
structure Holds (heap : Heap α) (head : α) (entries : List α) : Prop where
  ring : heap.links.Ring head entries
  alive : ∀ entry ∈ head :: entries, heap.alive entry = true

/-- The heaps differ in these blocks at most. -/
def AgreeOutside (heap other : Heap α) (blocks : List α) : Prop :=
  ∀ node ∉ blocks, other.alive node = heap.alive node ∧
    other.links.next node = heap.links.next node ∧ other.links.prev node = heap.links.prev node

variable {heap other : Heap α} {head entry : α} {entries front back blocks : List α}

omit [DecidableEq α] in
theorem deref_some (isAlive : heap.alive entry = true) : heap.deref (some entry) = some entry := by
  rw [deref, Option.filter_some, if_pos isAlive]

omit [DecidableEq α] in
theorem AgreeOutside.trans {last : Heap α} (first : heap.AgreeOutside other blocks)
    (second : other.AgreeOutside last blocks) : heap.AgreeOutside last blocks := by
  intro node isOutside
  obtain ⟨alive, next, prev⟩ := first node isOutside
  obtain ⟨alive', next', prev'⟩ := second node isOutside
  exact ⟨alive'.trans alive, next'.trans next, prev'.trans prev⟩

omit [DecidableEq α] in
theorem AgreeOutside.mono {more : List α} (agree : heap.AgreeOutside other blocks)
    (subset : blocks ⊆ more) : heap.AgreeOutside other more :=
  fun node isOutside => agree node fun member => isOutside (subset member)

theorem calloc_agreeOutside (heap : Heap α) (block : α) :
    heap.AgreeOutside (heap.calloc block) [block] := by
  intro node isOutside
  have differs := List.ne_of_not_mem_cons isOutside
  exact ⟨Function.update_of_ne differs _ _, Function.update_of_ne differs _ _,
    Function.update_of_ne differs _ _⟩

theorem free_agreeOutside (heap : Heap α) (block : α) :
    heap.AgreeOutside (heap.free block) [block] := by
  intro node isOutside
  exact ⟨Function.update_of_ne (List.ne_of_not_mem_cons isOutside) _ _, rfl, rfl⟩

theorem initListHead_agreeOutside (heap : Heap α) (head : α) :
    heap.AgreeOutside (heap.initListHead head) [head] := by
  intro node isOutside
  have differs := List.ne_of_not_mem_cons isOutside
  exact ⟨rfl, Function.update_of_ne differs _ _, Function.update_of_ne differs _ _⟩

theorem initListHead_holds (isAlive : heap.alive head = true) :
    (heap.initListHead head).Holds head [] where
  ring := Links.ring_close heap.links head
  alive := List.forall_mem_singleton.mpr isAlive

namespace Holds

omit [DecidableEq α] in
theorem notHead (holds : heap.Holds head entries) : head ∉ entries :=
  (List.nodup_cons.mp holds.ring.distinct).1

omit [DecidableEq α] in
theorem headAlive (holds : heap.Holds head entries) : heap.deref (some head) = some head :=
  deref_some (holds.alive head List.mem_cons_self)

omit [DecidableEq α] in
/-- A list depends on its own entries only. -/
theorem frame (holds : heap.Holds head entries) (agree : heap.AgreeOutside other blocks)
    (apart : ∀ node ∈ head :: entries, node ∉ blocks) : other.Holds head entries where
  ring := holds.ring.congr fun node member => (agree node (apart node member)).2
  alive node member := (agree node (apart node member)).1.trans (holds.alive node member)

theorem listEmpty_eq (holds : heap.Holds head entries) :
    heap.listEmpty head = some (decide (entries = [])) := by
  rw [listEmpty, holds.headAlive]
  exact congrArg some (decide_eq_decide.mpr holds.ring.next_head_iff)

omit [DecidableEq α] in
theorem listFirstEntry_eq (holds : heap.Holds head entries) :
    heap.listFirstEntry head = some (entries ++ [head]).head? := by
  rw [listFirstEntry, holds.headAlive]
  exact congrArg some (holds.ring.next_eq (List.nil_append _).symm)

theorem listAddTail (holds : heap.Holds head entries) (isAlive : heap.alive entry = true)
    (fresh : entry ∉ head :: entries) :
    ∃ after, heap.listAddTail entry head = some after ∧ after.Holds head (entries ++ [entry]) ∧
      after.alive = heap.alive ∧ heap.AgreeOutside after (entry :: head :: entries) := by
  obtain ⟨firsts, before, isBefore⟩ : ∃ firsts before, head :: entries = firsts ++ [before] :=
    ⟨_, _, (List.dropLast_append_getLast (List.cons_ne_nil head entries)).symm⟩
  have isLast : before ∈ head :: entries := isBefore ▸ List.mem_append_right _ List.mem_cons_self
  refine ⟨{ heap with links := heap.links.insert entry before head }, ?_, ⟨?_, ?_⟩, rfl, ?_⟩
  · rw [Heap.listAddTail, holds.headAlive]
    change heap.listAddBetween (some entry) (heap.links.prev head) (some head) = _
    rw [holds.ring.prev_head isBefore, listAddBetween, holds.headAlive, deref_some isAlive,
      deref_some (holds.alive _ isLast)]
    rfl
  · have ring : heap.links.Ring head (entries ++ []) := (List.append_nil entries).symm ▸ holds.ring
    refine ring.insert isBefore rfl ?_
    rwa [List.append_nil]
  · intro node member
    rw [← List.cons_append] at member
    rcases List.mem_append.mp member with isOld | isNew
    · exact holds.alive node isOld
    · exact List.mem_singleton.mp isNew ▸ isAlive
  · intro node isOutside
    obtain ⟨notEntry, notOld⟩ := not_or.mp fun either => isOutside (List.mem_cons.mpr either)
    have notHead : node ≠ head := fun same => notOld (same ▸ List.mem_cons_self)
    have notBefore : node ≠ before := fun same => notOld (same ▸ isLast)
    exact ⟨rfl, (Function.update_of_ne notBefore _ _).trans (Function.update_of_ne notEntry _ _),
      (Function.update_of_ne notEntry _ _).trans (Function.update_of_ne notHead _ _)⟩

theorem listDel (holds : heap.Holds head (front ++ entry :: back)) :
    ∃ after, heap.listDel entry = some after ∧ after.Holds head (front ++ back) ∧
      after.alive = heap.alive ∧
      heap.AgreeOutside after (head :: (front ++ entry :: back)) := by
  obtain ⟨firsts, before, isBefore⟩ : ∃ firsts before, head :: front = firsts ++ [before] :=
    ⟨_, _, (List.dropLast_append_getLast (List.cons_ne_nil head front)).symm⟩
  obtain ⟨behind, lasts, isBehind⟩ : ∃ behind lasts, back ++ [head] = behind :: lasts :=
    List.exists_cons_of_ne_nil (List.append_ne_nil_of_right_ne_nil _ (List.cons_ne_nil _ _))
  have isIn : entry ∈ head :: (front ++ entry :: back) :=
    List.mem_cons_of_mem _ (List.mem_append_right _ List.mem_cons_self)
  have beforeIn : before ∈ head :: (front ++ entry :: back) := by
    rw [← List.cons_append, isBefore]
    exact List.mem_append_left _ (List.mem_append_right _ List.mem_cons_self)
  have behindIn : behind ∈ head :: (front ++ entry :: back) := by
    have member : behind ∈ back ++ [head] := isBehind ▸ List.mem_cons_self
    rcases List.mem_append.mp member with isBack | isHead
    · exact List.mem_cons_of_mem _ (List.mem_append_right _ (List.mem_cons_of_mem _ isBack))
    · exact List.mem_singleton.mp isHead ▸ List.mem_cons_self
  obtain ⟨ring, isPrev, isNext⟩ := holds.ring.remove isBefore isBehind
  refine ⟨{ heap with links := (heap.links.bridge before behind).clear entry }, ?_,
    ⟨ring, fun node member => holds.alive node ?_⟩, rfl, ?_⟩
  · rw [Heap.listDel, deref_some (holds.alive _ isIn)]
    change (heap.listDelBetween (heap.links.prev entry) (heap.links.next entry)).bind _ = _
    rw [isPrev, isNext, listDelBetween, deref_some (holds.alive _ behindIn),
      deref_some (holds.alive _ beforeIn)]
    rfl
  · rcases List.mem_cons.mp member with same | member
    · exact same ▸ List.mem_cons_self
    · refine List.mem_cons_of_mem _ ?_
      rcases List.mem_append.mp member with isFront | isBack
      · exact List.mem_append_left _ isFront
      · exact List.mem_append_right _ (List.mem_cons_of_mem _ isBack)
  · intro node isOutside
    have notEntry : node ≠ entry := fun same => isOutside (same ▸ isIn)
    have notBefore : node ≠ before := fun same => isOutside (same ▸ beforeIn)
    have notBehind : node ≠ behind := fun same => isOutside (same ▸ behindIn)
    exact ⟨rfl, (Function.update_of_ne notEntry _ _).trans (Function.update_of_ne notBefore _ _),
      (Function.update_of_ne notEntry _ _).trans (Function.update_of_ne notBehind _ _)⟩

end Holds

/-! The rule of the safe loop: each round starts with what the loop has left of the list in
front of its entry, and with the entries that it has still to visit. -/

section Loop

variable {σ : Type} {heapOf : σ → Heap α} {body : σ → α → Option (σ × Bool)}
  {Visiting : List α → List α → σ → Prop} {Done : σ → Prop} {state : σ} {left todo : List α}
  {fuel : Nat}

theorem entriesFrom_rule
    (holds : ∀ left todo state, Visiting left todo state →
      (heapOf state).Holds head (left ++ todo))
    (round : ∀ left entry todo state, Visiting left (entry :: todo) state →
      ∃ after, (body state entry = some (after, true) ∧ Done after) ∨
        (body state entry = some (after, false) ∧ ∃ left', Visiting left' todo after))
    (finish : ∀ left state, Visiting left [] state → Done state)
    (start : Visiting left todo state) (enough : todo.length < fuel) {n : Option α}
    (isNext : todo ≠ [] → n = (todo.drop 1 ++ [head]).head?) :
    ∃ after, entriesFrom heapOf body head fuel state (todo ++ [head]).head? n = some after ∧
      Done after := by
  induction fuel generalizing left todo state n with
  | zero => exact absurd enough (Nat.not_lt_zero _)
  | succ fuel induction =>
      cases todo with
      | nil => exact ⟨state, if_pos rfl, finish left state start⟩
      | cons entry todo =>
          have notHead : entry ≠ head := by
            rintro rfl
            exact (holds _ _ _ start).notHead (List.mem_append_right _ List.mem_cons_self)
          have isRound : (entry :: todo ++ [head]).head? ≠ some head :=
            fun same => notHead (Option.some.inj same)
          rw [entriesFrom, if_neg isRound]
          obtain ⟨after, ⟨calls, isDone⟩ | ⟨calls, left', visiting⟩⟩ := round _ _ _ _ start
          · refine ⟨after, ?_, isDone⟩
            change (body state entry).bind _ = _
            rw [calls]
            rfl
          · have kept := holds _ _ _ visiting
            obtain ⟨following, isFollowing, isIn⟩ : ∃ following,
                (todo ++ [head]).head? = some following ∧ following ∈ head :: (left' ++ todo) := by
              cases todo with
              | nil => exact ⟨head, rfl, List.mem_cons_self⟩
              | cons following rest =>
                  exact ⟨following, rfl,
                    List.mem_cons_of_mem _ (List.mem_append_right _ List.mem_cons_self)⟩
            have isNext' : todo ≠ [] →
                (heapOf after).links.next following = (todo.drop 1 ++ [head]).head? := by
              intro isMore
              cases todo with
              | nil => contradiction
              | cons first rest =>
                  cases isFollowing
                  exact kept.ring.next_eq (List.cons_append).symm
            obtain ⟨last, runs, isDone⟩ :=
              induction visiting (Nat.lt_of_succ_lt_succ enough) isNext'
            refine ⟨last, ?_, isDone⟩
            change (body state entry).bind _ = _
            rw [calls, isNext (List.cons_ne_nil _ _)]
            change ((heapOf after).deref (todo ++ [head]).head?).bind _ = _
            rw [isFollowing, deref_some (kept.alive _ isIn)]
            exact runs

/-- With more rounds than entries the loop ends, and no pointer of it is NULL or freed. -/
theorem listForEachEntrySafe_rule {entries : List α} (Visiting : List α → List α → σ → Prop)
    (holds : ∀ left todo state, Visiting left todo state →
      (heapOf state).Holds head (left ++ todo))
    (round : ∀ left entry todo state, Visiting left (entry :: todo) state →
      ∃ after, (body state entry = some (after, true) ∧ Done after) ∨
        (body state entry = some (after, false) ∧ ∃ left', Visiting left' todo after))
    (finish : ∀ left state, Visiting left [] state → Done state)
    (start : Visiting [] entries state) (enough : entries.length < fuel) :
    ∃ after, listForEachEntrySafe heapOf body head fuel state = some after ∧ Done after := by
  have kept : (heapOf state).Holds head entries := holds _ _ _ start
  obtain ⟨first, isFirst, isIn⟩ : ∃ first,
      (entries ++ [head]).head? = some first ∧ first ∈ head :: entries := by
    cases entries with
    | nil => exact ⟨head, rfl, List.mem_cons_self⟩
    | cons first rest => exact ⟨first, rfl, List.mem_cons_of_mem _ List.mem_cons_self⟩
  have isNext : entries ≠ [] →
      (heapOf state).links.next first = (entries.drop 1 ++ [head]).head? := by
    intro isMore
    cases entries with
    | nil => contradiction
    | cons second rest =>
        cases isFirst
        exact kept.ring.next_eq (List.singleton_append).symm
  obtain ⟨after, runs, isDone⟩ := entriesFrom_rule holds round finish start enough isNext
  refine ⟨after, ?_, isDone⟩
  rw [listForEachEntrySafe, kept.listFirstEntry_eq]
  change ((heapOf state).deref (entries ++ [head]).head?).bind _ = _
  rw [isFirst, deref_some (kept.alive _ isIn)]
  rw [isFirst] at runs
  exact runs

end Loop

end Heap

end Rkipc.Common
