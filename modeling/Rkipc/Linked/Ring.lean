import Mathlib.Data.List.Chain
import Mathlib.Data.List.Nodup
import Mathlib.Logic.Function.Basic

namespace Rkipc.Linked

/-! Circular lists.  Every entry has a link to the next one and to the previous one, the ring
is closed by its head, and `none` is the null link. -/

structure Links (α : Type u) where
  next : α → Option α
  prev : α → Option α

namespace Links

variable {α : Type u}

section Changes

variable [DecidableEq α] (links : Links α)

def close (node : α) : Links α where
  next := Function.update links.next node (some node)
  prev := Function.update links.prev node (some node)

def insert (node before after : α) : Links α where
  next := Function.update (Function.update links.next node (some after)) before (some node)
  prev := Function.update (Function.update links.prev after (some node)) node (some before)

/-- Two nodes are linked over what was between them. -/
def bridge (before after : α) : Links α where
  next := Function.update links.next before (some after)
  prev := Function.update links.prev after (some before)

def clear (node : α) : Links α where
  next := Function.update links.next node none
  prev := Function.update links.prev node none

end Changes

def Follows (links : Links α) (before after : α) : Prop :=
  links.next before = some after ∧ links.prev after = some before

def Segment (links : Links α) (nodes : List α) : Prop := List.IsChain links.Follows nodes

variable {links other : Links α} {nodes front back : List α} {node before after : α}

/-- A segment does not depend on the link in front of it and on the one behind it. -/
theorem Segment.congr (segment : links.Segment nodes)
    (sameNext : ∀ node ∈ nodes.dropLast, other.next node = links.next node)
    (samePrev : ∀ node ∈ nodes.tail, other.prev node = links.prev node) :
    other.Segment nodes := by
  induction nodes with
  | nil => exact .nil
  | cons first rest induction =>
      cases rest with
      | nil => exact .singleton first
      | cons second rest =>
          obtain ⟨follows, segment⟩ := List.isChain_cons_cons.mp segment
          obtain ⟨firstNext, sameNext⟩ := List.forall_mem_cons.mp
            (show ∀ node ∈ first :: (second :: rest).dropLast, _ from sameNext)
          obtain ⟨secondPrev, samePrev⟩ := List.forall_mem_cons.mp samePrev
          refine List.isChain_cons_cons.mpr ⟨⟨?_, ?_⟩, induction segment sameNext samePrev⟩
          · rw [firstNext, follows.1]
          · rw [secondPrev, follows.2]

/-- Between two neighbours, where neither is a neighbour in that way elsewhere. -/
structure Between (front : List α) (before after : α) (back : List α) : Prop where
  beforeFront : before ∉ front
  beforeBack : before ∉ (after :: back).dropLast
  afterFront : after ∉ (front ++ [before]).tail
  afterBack : after ∉ back

section Neighbours

variable [DecidableEq α]

theorem Segment.insert (segment : links.Segment (front ++ before :: after :: back))
    (between : Between front before after back)
    (fresh : node ∉ front ++ before :: after :: back) :
    (links.insert node before after).Segment (front ++ before :: node :: after :: back) := by
  obtain ⟨left, _, right⟩ := List.isChain_append_cons_cons.mp segment
  simp only [List.mem_append, List.mem_cons, not_or] at fresh
  obtain ⟨notFront, notBefore, notAfter, notBack⟩ := fresh
  refine List.isChain_append_cons_cons.mpr ⟨?_, ?_, List.isChain_cons_cons.mpr ⟨?_, ?_⟩⟩
  · refine Segment.congr left (fun other member => ?_) fun other member => ?_
    · rw [List.dropLast_concat] at member
      have differs : other ≠ before := fun same => between.beforeFront (same ▸ member)
      have isOld : other ≠ node := fun same => notFront (same ▸ member)
      exact (Function.update_of_ne differs _ _).trans (Function.update_of_ne isOld _ _)
    · have differs : other ≠ after := fun same => between.afterFront (same ▸ member)
      have isOld : other ≠ node := by
        rintro rfl
        rcases List.mem_append.mp (List.mem_of_mem_tail member) with isIn | isIn
        · exact notFront isIn
        · exact notBefore (List.mem_singleton.mp isIn)
      exact (Function.update_of_ne isOld _ _).trans (Function.update_of_ne differs _ _)
  · exact ⟨Function.update_self _ _ _, Function.update_self _ _ _⟩
  · constructor
    · exact (Function.update_of_ne notBefore _ _).trans (Function.update_self _ _ _)
    · exact (Function.update_of_ne (Ne.symm notAfter) _ _).trans (Function.update_self _ _ _)
  · refine Segment.congr right (fun other member => ?_) fun other member => ?_
    · have differs : other ≠ before := fun same => between.beforeBack (same ▸ member)
      have isOld : other ≠ node := by
        rintro rfl
        rcases List.mem_cons.mp (List.dropLast_subset _ member) with same | isIn
        · exact notAfter same
        · exact notBack isIn
      exact (Function.update_of_ne differs _ _).trans (Function.update_of_ne isOld _ _)
    · have differs : other ≠ after := fun same => between.afterBack (same ▸ member)
      have isOld : other ≠ node := fun same => notBack (same ▸ member)
      exact (Function.update_of_ne isOld _ _).trans (Function.update_of_ne differs _ _)

theorem Segment.remove (segment : links.Segment (front ++ before :: node :: after :: back))
    (between : Between front before after back)
    (single : node ∉ front ++ before :: after :: back) :
    ((links.bridge before after).clear node).Segment (front ++ before :: after :: back) := by
  obtain ⟨left, _, right⟩ := List.isChain_append_cons_cons.mp segment
  obtain ⟨_, right⟩ := List.isChain_cons_cons.mp right
  simp only [List.mem_append, List.mem_cons, not_or] at single
  obtain ⟨notFront, notBefore, notAfter, notBack⟩ := single
  refine List.isChain_append_cons_cons.mpr ⟨?_, ?_, ?_⟩
  · refine Segment.congr left (fun other member => ?_) fun other member => ?_
    · rw [List.dropLast_concat] at member
      have differs : other ≠ before := fun same => between.beforeFront (same ▸ member)
      have isOther : other ≠ node := fun same => notFront (same ▸ member)
      exact (Function.update_of_ne isOther _ _).trans (Function.update_of_ne differs _ _)
    · have differs : other ≠ after := fun same => between.afterFront (same ▸ member)
      have isOther : other ≠ node := by
        rintro rfl
        rcases List.mem_append.mp (List.mem_of_mem_tail member) with isIn | isIn
        · exact notFront isIn
        · exact notBefore (List.mem_singleton.mp isIn)
      exact (Function.update_of_ne isOther _ _).trans (Function.update_of_ne differs _ _)
  · constructor
    · exact (Function.update_of_ne (Ne.symm notBefore) _ _).trans (Function.update_self _ _ _)
    · exact (Function.update_of_ne (Ne.symm notAfter) _ _).trans (Function.update_self _ _ _)
  · refine Segment.congr right (fun other member => ?_) fun other member => ?_
    · have differs : other ≠ before := fun same => between.beforeBack (same ▸ member)
      have isOther : other ≠ node := by
        rintro rfl
        rcases List.mem_cons.mp (List.dropLast_subset _ member) with same | isIn
        · exact notAfter same
        · exact notBack isIn
      exact (Function.update_of_ne isOther _ _).trans (Function.update_of_ne differs _ _)
    · have differs : other ≠ after := fun same => between.afterBack (same ▸ member)
      have isOther : other ≠ node := fun same => notBack (same ▸ member)
      exact (Function.update_of_ne isOther _ _).trans (Function.update_of_ne differs _ _)

end Neighbours

/-- The entries behind the head, in the order of their `next` links. -/
structure Ring (links : Links α) (head : α) (nodes : List α) : Prop where
  linked : links.Segment (head :: (nodes ++ [head]))
  distinct : (head :: nodes).Nodup

variable {head : α}

theorem Ring.congr (ring : links.Ring head nodes)
    (same : ∀ node ∈ head :: nodes,
      other.next node = links.next node ∧ other.prev node = links.prev node) :
    other.Ring head nodes := by
  refine ⟨ring.linked.congr (fun node member => (same node ?_).1)
    fun node member => (same node ?_).2, ring.distinct⟩
  · rwa [← List.cons_append, List.dropLast_concat] at member
  · rw [List.tail_cons, List.mem_append, List.mem_singleton] at member
    exact List.mem_cons.mpr member.symm

theorem between_of_nodup (distinct : (head :: (front ++ back)).Nodup) {firsts lasts : List α}
    (isBefore : head :: front = firsts ++ [before]) (isAfter : back ++ [head] = after :: lasts) :
    Between firsts before after lasts := by
  rw [← List.cons_append, List.nodup_append] at distinct
  obtain ⟨ofFront, ofBack, apart⟩ := distinct
  have inFront : before ∈ head :: front := isBefore ▸ List.mem_append_right _ List.mem_cons_self
  have inBack : after ∈ back ++ [head] := isAfter ▸ List.mem_cons_self
  have notHead : head ∉ back := fun member => apart head List.mem_cons_self head member rfl
  refine ⟨?_, ?_, ?_, ?_⟩
  · intro member
    rw [isBefore, List.nodup_append] at ofFront
    exact ofFront.2.2 before member before (List.mem_singleton_self _) rfl
  · rw [← isAfter, List.dropLast_concat]
    exact fun member => apart before inFront before member rfl
  · rw [← isBefore, List.tail_cons]
    intro member
    rcases List.mem_append.mp inBack with isIn | isIn
    · exact apart after (List.mem_cons_of_mem _ member) after isIn rfl
    · rw [List.mem_singleton.mp isIn] at member
      exact (List.nodup_cons.mp ofFront).1 member
  · have all : (back ++ [head]).Nodup := by
      refine List.nodup_append.mpr
        ⟨ofBack, List.nodup_singleton head, fun one isIn other isLast => ?_⟩
      rw [List.mem_singleton.mp isLast]
      exact fun same => notHead (same ▸ isIn)
    rw [isAfter] at all
    exact (List.nodup_cons.mp all).1

theorem ring_circle {firsts lasts : List α} (isBefore : head :: front = firsts ++ [before])
    (isAfter : back ++ [head] = after :: lasts) (middle : List α) :
    head :: (front ++ middle ++ back ++ [head]) =
      firsts ++ before :: (middle ++ after :: lasts) := by
  rw [List.append_assoc, isAfter, List.append_assoc, ← List.cons_append, isBefore,
    List.append_assoc, List.singleton_append]

/-- The first link leads to the entry behind, and from the last one to the head. -/
theorem Ring.next_eq (ring : links.Ring head nodes) {firsts : List α}
    (split : head :: nodes = firsts ++ node :: back) :
    links.next node = (back ++ [head]).head? := by
  have linked := ring.linked
  rw [← List.cons_append, split, List.append_assoc, List.cons_append] at linked
  cases back with
  | nil => exact (List.isChain_append_cons_cons.mp linked).2.1.1
  | cons after back => exact (List.isChain_append_cons_cons.mp linked).2.1.1

theorem Ring.prev_head (ring : links.Ring head nodes) {firsts : List α}
    (split : head :: nodes = firsts ++ [before]) : links.prev head = some before := by
  have linked := ring.linked
  rw [← List.cons_append, split, List.append_assoc, List.singleton_append] at linked
  exact (List.isChain_append_cons_cons.mp linked).2.1.2

theorem Ring.next_head_iff (ring : links.Ring head nodes) :
    links.next head = some head ↔ nodes = [] := by
  rw [show links.next head = (nodes ++ [head]).head? from ring.next_eq (List.nil_append _).symm]
  cases nodes with
  | nil => exact iff_of_true rfl rfl
  | cons first rest =>
      refine iff_of_false (fun same => ?_) (List.cons_ne_nil _ _)
      have isHead : first = head := Option.some.inj same
      exact (List.nodup_cons.mp ring.distinct).1 (isHead ▸ List.mem_cons_self)

section Entries

variable [DecidableEq α] {firsts lasts : List α}

theorem ring_close (links : Links α) (head : α) : (links.close head).Ring head [] where
  linked := List.isChain_cons_cons.mpr
    ⟨⟨Function.update_self _ _ _, Function.update_self _ _ _⟩, .singleton head⟩
  distinct := List.nodup_singleton head

theorem Ring.insert (ring : links.Ring head (front ++ back))
    (isBefore : head :: front = firsts ++ [before]) (isAfter : back ++ [head] = after :: lasts)
    (fresh : node ∉ head :: (front ++ back)) :
    (links.insert node before after).Ring head (front ++ node :: back) := by
  have linked := ring.linked
  have circle := ring_circle isBefore isAfter
  constructor
  · have old := circle []
    rw [List.append_nil, List.nil_append] at old
    have new := circle [node]
    rw [List.append_assoc front, List.singleton_append, List.singleton_append] at new
    rw [new]
    rw [old] at linked
    refine linked.insert (between_of_nodup ring.distinct isBefore isAfter) fun member => fresh ?_
    rw [← old] at member
    rcases List.mem_cons.mp member with same | member
    · exact List.mem_cons.mpr (.inl same)
    · rcases List.mem_append.mp member with isIn | isHead
      · exact List.mem_cons_of_mem _ isIn
      · exact List.mem_cons.mpr (.inl (List.mem_singleton.mp isHead))
  · rw [← List.cons_append, List.nodup_middle, List.cons_append]
    exact List.nodup_cons.mpr ⟨fresh, ring.distinct⟩

theorem Ring.remove (ring : links.Ring head (front ++ node :: back))
    (isBefore : head :: front = firsts ++ [before]) (isAfter : back ++ [head] = after :: lasts) :
    ((links.bridge before after).clear node).Ring head (front ++ back) ∧
      links.prev node = some before ∧ links.next node = some after := by
  have linked := ring.linked
  have circle := ring_circle isBefore isAfter
  have old := circle [node]
  rw [List.append_assoc front, List.singleton_append, List.singleton_append] at old
  have new := circle []
  rw [List.append_nil, List.nil_append] at new
  rw [old] at linked
  have distinct := ring.distinct
  rw [← List.cons_append, List.nodup_middle, List.cons_append, List.nodup_cons] at distinct
  obtain ⟨single, distinct⟩ := distinct
  obtain ⟨_, isPrev, right⟩ := List.isChain_append_cons_cons.mp linked
  obtain ⟨isNext, _⟩ := List.isChain_cons_cons.mp right
  refine ⟨⟨?_, distinct⟩, isPrev.2, isNext.1⟩
  rw [new]
  refine linked.remove (between_of_nodup distinct isBefore isAfter) fun member => single ?_
  rw [← new] at member
  rcases List.mem_cons.mp member with same | member
  · exact List.mem_cons.mpr (.inl same)
  · rcases List.mem_append.mp member with isIn | isHead
    · exact List.mem_cons_of_mem _ isIn
    · exact List.mem_cons.mpr (.inl (List.mem_singleton.mp isHead))

end Entries

end Links

end Rkipc.Linked
