import Mathlib.Data.Fintype.Defs
import Mathlib.Data.List.Infix
import Rkipc.Linked.Chain
import Rkipc.Transition.Lock

namespace Rkipc.Storage

open Linked Transition

/-! The hotplug message buffer.  Elements are addresses and `next` holds their
links; `handed`, `put` and `taken` are history that no code reads. -/

/-- The address of an `rkipc_tmsg_element`. -/
abbrev Element := Nat

structure MessageBuffer (τ : Type) where
  first : Option Element
  last : Option Element
  num : Nat
  next : Element → Option Element
  handed : τ → Option Element
  put : List Element
  taken : List Element

namespace MessageBuffer

inductive Control
  | idle
  | putReset (elm : Element)
  | putLock (elm : Element)
  | putFirst (elm : Element)
  | putWalk (elm tmp : Element)
  | putCount (elm : Element)
  | putUnlock
  | getLock
  | getCheck
  | getWait
  | getBlocked
  | getTake
  | getUnlock (elm : Option Element)
  | getReturn (elm : Option Element)
deriving DecidableEq

inductive Call
  | put (elm : Element)
  | get
deriving DecidableEq

variable {τ : Type} [DecidableEq τ]

def empty : MessageBuffer τ where
  first := none
  last := none
  num := 0
  next := fun _ => none
  handed := fun _ => none
  put := []
  taken := []

def beginCall (thread : τ) (buf : MessageBuffer τ) :
    Call → MessageBuffer τ × Control
  | .put elm =>
      ({ buf with handed := Function.update buf.handed thread (some elm) },
        .putReset elm)
  | .get => (buf, .getLock)

/-- The element is linked by its putting thread, which hands it over. -/
def link (thread : τ) (elm : Element) (buf : MessageBuffer τ) :
    MessageBuffer τ :=
  { buf with
    handed := Function.update buf.handed thread none
    put := buf.put ++ [elm] }

/-- The branch of `num > 0` reads `buf->first->next` unless `num` is one. -/
def take (buf : MessageBuffer τ) :
    Option (MessageBuffer τ × Option Element) :=
  if 0 < buf.num then
    let taken := buf.taken ++ buf.first.toList
    if buf.num = 1 then
      some ({ buf with
        first := none, last := none, num := 0, taken := taken }, buf.first)
    else
      buf.first.map fun elm =>
        ({ buf with
          first := buf.next elm, num := buf.num - 1, taken := taken },
          some elm)
  else some (buf, none)

/-- `rkipc_storage_msg_put_msg_to_buffer` and
`rkipc_storage_msg_get_msg_from_buffer_timeout`.  The condition wait of a get
gives the mutex back and takes it again after a signal, a time-out or a
spurious wake-up, so `getBlocked` may proceed at any time. -/
def code (thread : τ) :
    Control → Instruction (MessageBuffer τ) Control Call
  | .idle => .act fun buf call => some (beginCall thread buf call)
  | .putReset elm => .act fun buf _ =>
      some ({ buf with next := Function.update buf.next elm none },
        .putLock elm)
  | .putLock elm => .lock (.putFirst elm)
  | .putFirst elm => .act fun buf _ =>
      match buf.first with
      | some tmp => some (buf, .putWalk elm tmp)
      | none =>
          some ({ link thread elm buf with first := some elm }, .putCount elm)
  | .putWalk elm tmp => .act fun buf _ =>
      match buf.next tmp with
      | some tmp => some (buf, .putWalk elm tmp)
      | none =>
          some ({ link thread elm buf with
            next := Function.update buf.next tmp (some elm) }, .putCount elm)
  | .putCount _ => .act fun buf _ =>
      some ({ buf with num := buf.num + 1 }, .putUnlock)
  | .putUnlock => .unlock .idle
  | .getLock => .lock .getCheck
  | .getCheck => .act fun buf _ =>
      some (buf, if buf.num = 0 then .getWait else .getTake)
  | .getWait => .unlock .getBlocked
  | .getBlocked => .lock .getTake
  | .getTake => .act fun buf _ =>
      (take buf).map fun (buf, elm) => (buf, .getUnlock elm)
  | .getUnlock elm => .unlock (.getReturn elm)
  | .getReturn _ => .act fun buf _ => some (buf, .idle)

def Control.holds : Control → Bool
  | .putFirst _ | .putWalk _ _ | .putCount _ | .putUnlock | .getCheck
  | .getWait | .getTake | .getUnlock _ => true
  | _ => false

def program (τ : Type) [DecidableEq τ] :
    Program τ (MessageBuffer τ) Control Call where
  initial buf := buf = empty
  entry _ := .idle
  code := code
  holds := Control.holds
  entry_holds _ := rfl
  lock_holds {_ point _} locks := by
    cases point <;> simp_all [code, Control.holds]
    all_goals subst locks; rfl
  unlock_holds {_ point _} unlocks := by
    cases point <;> simp_all [code, Control.holds]
    all_goals subst unlocks; rfl
  act_holds {thread point effect before call after next} acts effected := by
    cases point <;> simp only [code, reduceCtorEq, Instruction.act.injEq] at acts
    all_goals subst acts
    case idle => cases call <;> cases effected <;> rfl
    case putFirst | putWalk =>
      simp only at effected
      split at effected <;> cases effected <;> rfl
    case getCheck =>
      cases effected
      by_cases isEmpty : before.num = 0 <;> simp [isEmpty, Control.holds]
    case getTake =>
      obtain ⟨_, _, same⟩ := Option.map_eq_some_iff.mp effected
      cases same
      rfl
    all_goals cases effected; rfl

/-- `contents` is the list from `first`; no element that a put still has in its
hands is linked in it. -/
structure Contents (buf : MessageBuffer τ) (contents : List Element) : Prop where
  chain : Chain buf.next buf.first contents
  distinct : contents.Nodup
  history : buf.put = buf.taken ++ contents
  separate : ∀ {thread elm}, buf.handed thread = some elm → elm ∉ contents
  single : ∀ {left right elm}, buf.handed left = some elm →
    buf.handed right = some elm → left = right

def Idle (buf : MessageBuffer τ) : Prop :=
  ∃ contents, Contents buf contents ∧ buf.num = contents.length

def Ready (thread : τ) (point : Control) (buf : MessageBuffer τ) : Prop :=
  match point with
  | .putReset elm => buf.handed thread = some elm
  | .putLock elm => buf.handed thread = some elm ∧ buf.next elm = none
  | _ => True

def Busy (thread : τ) (point : Control) (buf : MessageBuffer τ) : Prop :=
  match point with
  | .putFirst elm =>
      Idle buf ∧ buf.handed thread = some elm ∧ buf.next elm = none
  | .putWalk elm tmp =>
      (∃ contents, Contents buf contents ∧ buf.num = contents.length ∧
        tmp ∈ contents) ∧
      buf.handed thread = some elm ∧ buf.next elm = none
  | .putCount _ =>
      ∃ contents, Contents buf contents ∧ buf.num + 1 = contents.length
  | .getUnlock none => Idle buf ∧ buf.first = none
  | .getUnlock (some elm) => Idle buf ∧ buf.taken.getLast? = some elm
  | _ => Idle buf

/-- An element may be handed to a put when no put has it and it is not in the
buffer; an element that a get has returned may come back. -/
def Fresh (buf : MessageBuffer τ) (elm : Element) : Prop :=
  (∀ thread, buf.handed thread ≠ some elm) ∧
    elm ∉ buf.put.drop buf.taken.length

def freshPut (config : Config τ (MessageBuffer τ) Control) :
    τ × Call → Prop
  | (thread, .put elm) =>
      config.control thread = .idle → Fresh config.shared elm
  | (_, .get) => True

instance [Fintype τ] (buf : MessageBuffer τ) (elm : Element) :
    Decidable (Fresh buf elm) :=
  inferInstanceAs (Decidable (_ ∧ _))

instance [Fintype τ] (config : Config τ (MessageBuffer τ) Control)
    (label : τ × Call) : Decidable (freshPut config label) :=
  match label with
  | (_, .put _) => inferInstanceAs (Decidable (_ → _))
  | (_, .get) => isTrue trivial

omit [DecidableEq τ] in
theorem Contents.fresh {buf : MessageBuffer τ} {contents : List Element}
    (linked : Contents buf contents) {elm : Element} (fresh : Fresh buf elm) :
    elm ∉ contents := by
  have outside := fresh.2
  rwa [linked.history, List.drop_left] at outside

theorem Contents.beginPut {buf : MessageBuffer τ} {contents : List Element}
    (linked : Contents buf contents) {thread : τ} {elm : Element}
    (fresh : Fresh buf elm) :
    Contents (beginCall thread buf (.put elm)).1 contents where
  chain := linked.chain
  distinct := linked.distinct
  history := linked.history
  separate {other given} handed := by
    simp only [beginCall] at handed
    by_cases same : other = thread
    · subst same
      rw [Function.update_self] at handed
      cases handed
      exact linked.fresh fresh
    · rw [Function.update_of_ne same] at handed
      exact linked.separate handed
  single {left right given} leftHanded rightHanded := by
    simp only [beginCall] at leftHanded rightHanded
    by_cases leftSame : left = thread <;> by_cases rightSame : right = thread
    · rw [leftSame, rightSame]
    · subst leftSame
      rw [Function.update_self] at leftHanded
      rw [Function.update_of_ne rightSame, ← leftHanded] at rightHanded
      exact (fresh.1 right rightHanded).elim
    · subst rightSame
      rw [Function.update_self] at rightHanded
      rw [Function.update_of_ne leftSame, ← rightHanded] at leftHanded
      exact (fresh.1 left leftHanded).elim
    · rw [Function.update_of_ne leftSame] at leftHanded
      rw [Function.update_of_ne rightSame] at rightHanded
      exact linked.single leftHanded rightHanded

omit [DecidableEq τ] in
theorem Contents.reset {buf : MessageBuffer τ} {contents : List Element}
    (linked : Contents buf contents) {thread : τ} {elm : Element}
    (handed : buf.handed thread = some elm) :
    Contents { buf with next := Function.update buf.next elm none }
      contents where
  chain := linked.chain.update_of_notMem (linked.separate handed)
  distinct := linked.distinct
  history := linked.history
  separate := linked.separate
  single := linked.single

theorem Contents.link {buf : MessageBuffer τ} {contents : List Element}
    (linked : Contents buf contents) {thread : τ} {elm : Element}
    (handed : buf.handed thread = some elm)
    {first : Option Element} {next : Element → Option Element}
    (chain : Chain next first (contents ++ [elm])) :
    Contents { MessageBuffer.link thread elm buf with
      first := first, next := next } (contents ++ [elm]) where
  chain := chain
  distinct := by
    have outside := linked.separate handed
    rw [List.nodup_append]
    refine ⟨linked.distinct, by simp, ?_⟩
    intro left member right isElm
    rw [List.mem_singleton] at isElm
    rintro rfl
    exact outside (isElm ▸ member)
  history := by simp [MessageBuffer.link, linked.history]
  separate {other given} otherHanded := by
    have distinct : other ≠ thread := by
      rintro rfl
      simp [MessageBuffer.link] at otherHanded
    simp only [MessageBuffer.link, Function.update_of_ne distinct] at otherHanded
    have outside := linked.separate otherHanded
    have differs : given ≠ elm := by
      rintro rfl
      exact distinct (linked.single otherHanded handed)
    simp [outside, differs]
  single {left right given} leftHanded rightHanded := by
    have leftDistinct : left ≠ thread := by
      rintro rfl
      simp [MessageBuffer.link] at leftHanded
    have rightDistinct : right ≠ thread := by
      rintro rfl
      simp [MessageBuffer.link] at rightHanded
    simp only [MessageBuffer.link, Function.update_of_ne leftDistinct]
      at leftHanded
    simp only [MessageBuffer.link, Function.update_of_ne rightDistinct]
      at rightHanded
    exact linked.single leftHanded rightHanded

omit [DecidableEq τ] in
theorem Contents.take {buf : MessageBuffer τ} {elm : Element}
    {rest : List Element} (linked : Contents buf (elm :: rest))
    (last : Option Element) (num : Nat) :
    Contents { buf with
      first := buf.next elm, last := last, num := num,
      taken := buf.taken ++ [elm] } rest where
  chain := (Chain.cons_iff.mp linked.chain).2
  distinct := (List.nodup_cons.mp linked.distinct).2
  history := by simp [linked.history]
  separate handed member :=
    linked.separate handed (List.mem_cons_of_mem _ member)
  single := linked.single

omit [DecidableEq τ] in
theorem take_spec {buf after : MessageBuffer τ} {elm : Option Element}
    (idle : Idle buf) (took : take buf = some (after, elm)) :
    Idle after ∧ (elm = none → after.first = none) ∧
      (∀ given, elm = some given → after.taken.getLast? = some given) ∧
      after.next = buf.next ∧ after.handed = buf.handed := by
  obtain ⟨contents, linked, counted⟩ := idle
  cases contents with
  | nil =>
      have isEmpty : buf.num = 0 := counted
      simp only [take, isEmpty, Nat.lt_irrefl, if_false] at took
      cases took
      exact ⟨⟨[], linked, counted⟩,
        fun _ => Chain.nil_iff.mp linked.chain, by simp, rfl, rfl⟩
  | cons head rest =>
      have isFirst := (Chain.cons_iff.mp linked.chain).1
      have positive : 0 < buf.num := by simp [counted]
      simp only [take, positive, if_true, isFirst, Option.toList_some,
        Option.map_some] at took
      split at took
      next isOne =>
        have noRest : rest = [] := by simpa [counted] using isOne
        subst noRest
        cases took
        have ends : buf.next head = none :=
          Chain.nil_iff.mp (Chain.cons_iff.mp linked.chain).2
        refine ⟨⟨[], ?_, rfl⟩, by simp, by simp, rfl, rfl⟩
        have taken := linked.take none 0
        rwa [ends] at taken
      next =>
        cases took
        exact ⟨⟨rest, linked.take _ _, by simp [counted]⟩, by simp, by simp, rfl,
          rfl⟩

private theorem inside_act {thread : τ} {point next : Control}
    {buf after : MessageBuffer τ} {call : Call}
    {effect : MessageBuffer τ → Call → Option (MessageBuffer τ × Control)}
    (acts : code thread point = .act effect)
    (effected : effect buf call = some (after, next))
    (inside : point.holds = true) (busy : Busy thread point buf) :
    Busy thread next after := by
  cases point <;>
    simp only [code, reduceCtorEq, Instruction.act.injEq] at acts
  all_goals subst acts
  case putFirst elm =>
    obtain ⟨⟨contents, linked, counted⟩, handed, unlinked⟩ := busy
    simp only at effected
    split at effected
    next tmp isFirst =>
      cases effected
      refine ⟨⟨contents, linked, counted, ?_⟩, handed, unlinked⟩
      cases contents with
      | nil =>
          rw [Chain.nil_iff.mp linked.chain] at isFirst
          contradiction
      | cons head rest =>
          rw [(Chain.cons_iff.mp linked.chain).1] at isFirst
          cases isFirst
          exact List.mem_cons_self
    next isNull =>
      cases effected
      have noContents : contents = [] := by
        have chain := linked.chain
        rw [isNull] at chain
        cases chain
        rfl
      subst noContents
      refine ⟨[elm], linked.link handed ?_, by simp [counted, link]⟩
      refine .cons ?_
      change Chain buf.next (buf.next elm) []
      rw [unlinked]
      exact .nil
  case putWalk elm tmp =>
    obtain ⟨⟨contents, linked, counted, member⟩, handed, unlinked⟩ := busy
    simp only at effected
    split at effected
    next successor linkedTo =>
      cases effected
      exact ⟨⟨contents, linked, counted,
        linked.chain.next_mem member linkedTo⟩, handed, unlinked⟩
    next ends =>
      cases effected
      obtain ⟨front, rfl⟩ := linked.chain.eq_append_of_next_none member ends
      refine ⟨front ++ [tmp] ++ [elm], linked.link handed ?_,
        by simp [counted, link]⟩
      have appended := linked.chain.append linked.distinct
        (linked.separate handed) unlinked
      simpa [link] using appended
  case putCount elm =>
    cases effected
    obtain ⟨contents, linked, counted⟩ := busy
    exact ⟨contents, ⟨linked.chain, linked.distinct, linked.history,
      linked.separate, linked.single⟩, counted⟩
  case getCheck =>
    cases effected
    by_cases isEmpty : buf.num = 0 <;> simpa [isEmpty, Busy] using busy
  case getTake =>
    obtain ⟨⟨taken, elm⟩, took, same⟩ := Option.map_eq_some_iff.mp effected
    cases same
    obtain ⟨idle, isNull, isLast, _, _⟩ := take_spec busy took
    cases elm with
    | none => exact ⟨idle, isNull rfl⟩
    | some elm => exact ⟨idle, isLast elm rfl⟩
  all_goals contradiction

private theorem Contents.outside_act {thread : τ} {point next : Control}
    {buf after : MessageBuffer τ} {call : Call}
    {effect : MessageBuffer τ → Call → Option (MessageBuffer τ × Control)}
    (acts : code thread point = .act effect)
    (effected : effect buf call = some (after, next))
    (outside : point.holds = false) (ready : Ready thread point buf)
    (fresh : ∀ elm, point = .idle → call = .put elm → Fresh buf elm)
    {contents : List Element} (linked : Contents buf contents) :
    Contents after contents ∧ after.num = buf.num := by
  cases point <;>
    simp only [code, reduceCtorEq, Instruction.act.injEq] at acts
  all_goals subst acts
  case idle =>
    cases call with
    | put elm =>
        cases effected
        exact ⟨linked.beginPut (fresh elm rfl rfl), rfl⟩
    | get =>
        cases effected
        exact ⟨linked, rfl⟩
  case putReset elm =>
    cases effected
    exact ⟨linked.reset ready, rfl⟩
  case getReturn =>
    cases effected
    exact ⟨linked, rfl⟩
  all_goals contradiction

structure Frame (thread : τ) (buf after : MessageBuffer τ) : Prop where
  handed : ∀ other, other ≠ thread → after.handed other = buf.handed other
  next : ∀ other elm, other ≠ thread → buf.handed other = some elm →
    buf.next elm = none → after.next elm = none

omit [DecidableEq τ] in
theorem Frame.refl (thread : τ) (buf : MessageBuffer τ) :
    Frame thread buf buf :=
  ⟨fun _ _ => rfl, fun _ _ _ _ unlinked => unlinked⟩

private theorem frame_of_act {thread : τ} {point next : Control}
    {buf after : MessageBuffer τ} {call : Call}
    {effect : MessageBuffer τ → Call → Option (MessageBuffer τ × Control)}
    (acts : code thread point = .act effect)
    (effected : effect buf call = some (after, next))
    (busy : point.holds = true → Busy thread point buf) :
    Frame thread buf after := by
  cases point <;>
    simp only [code, reduceCtorEq, Instruction.act.injEq] at acts
  all_goals subst acts
  case idle =>
    cases call with
    | put elm =>
        cases effected
        exact ⟨fun other distinct => Function.update_of_ne distinct _ _,
          fun _ _ _ _ unlinked => unlinked⟩
    | get =>
        cases effected
        exact .refl _ _
  case putReset elm =>
    cases effected
    refine ⟨fun _ _ => rfl, fun other given _ _ unlinked => ?_⟩
    by_cases same : given = elm
    · simp [same]
    · simpa [Function.update_of_ne same] using unlinked
  case putFirst elm =>
    simp only at effected
    split at effected
    next =>
      cases effected
      exact .refl _ _
    next =>
      cases effected
      exact ⟨fun other distinct => Function.update_of_ne distinct _ _,
        fun _ _ _ _ unlinked => unlinked⟩
  case putWalk elm tmp =>
    obtain ⟨⟨contents, linked, _, member⟩, _, _⟩ := busy rfl
    simp only at effected
    split at effected
    next =>
      cases effected
      exact .refl _ _
    next =>
      cases effected
      refine ⟨fun other distinct => Function.update_of_ne distinct _ _, ?_⟩
      intro other given _ otherHanded unlinked
      have differs : given ≠ tmp := by
        rintro rfl
        exact linked.separate otherHanded member
      simpa [Function.update_of_ne differs] using unlinked
  case getTake =>
    obtain ⟨⟨taken, elm⟩, took, same⟩ := Option.map_eq_some_iff.mp effected
    cases same
    obtain ⟨_, _, _, sameNext, sameHanded⟩ := take_spec (busy rfl) took
    exact ⟨fun _ _ => by rw [sameHanded],
      fun _ _ _ _ unlinked => by rw [sameNext, unlinked]⟩
  case putCount | getCheck | getReturn =>
    cases effected
    exact ⟨fun _ _ => rfl, fun _ _ _ _ unlinked => unlinked⟩

omit [DecidableEq τ] in
theorem Ready.frame {thread other : τ} {point : Control}
    {buf after : MessageBuffer τ} (frame : Frame thread buf after)
    (distinct : other ≠ thread) (ready : Ready other point buf) :
    Ready other point after := by
  cases point with
  | putReset elm => exact (frame.handed other distinct).trans ready
  | putLock elm =>
      exact ⟨(frame.handed other distinct).trans ready.1,
        frame.next other elm distinct ready.1 ready.2⟩
  | _ => trivial

omit [DecidableEq τ] in
theorem Busy.frame {thread other : τ} {point : Control}
    {buf after : MessageBuffer τ} (frame : Frame thread buf after)
    (distinct : other ≠ thread)
    (kept : after.first = buf.first ∧ after.taken = buf.taken)
    (keeps : ∀ contents, Contents buf contents →
      Contents after contents ∧ after.num = buf.num)
    (busy : Busy other point buf) : Busy other point after := by
  have keepsIdle : Idle buf → Idle after := by
    intro both
    obtain ⟨contents, linked, counted⟩ := both
    obtain ⟨linked, sameNum⟩ := keeps contents linked
    exact ⟨contents, linked, sameNum.trans counted⟩
  cases point with
  | putFirst elm =>
      obtain ⟨idle, handed, unlinked⟩ := busy
      exact ⟨keepsIdle idle, (frame.handed other distinct).trans handed,
        frame.next other elm distinct handed unlinked⟩
  | putWalk elm tmp =>
      obtain ⟨⟨contents, linked, counted, member⟩, handed, unlinked⟩ := busy
      obtain ⟨linked, sameNum⟩ := keeps contents linked
      exact ⟨⟨contents, linked, sameNum.trans counted, member⟩,
        (frame.handed other distinct).trans handed,
        frame.next other elm distinct handed unlinked⟩
  | putCount elm =>
      obtain ⟨contents, linked, counted⟩ := busy
      obtain ⟨linked, sameNum⟩ := keeps contents linked
      exact ⟨contents, linked, by rw [sameNum, counted]⟩
  | getUnlock elm =>
      cases elm with
      | none => exact ⟨keepsIdle busy.1, kept.1.trans busy.2⟩
      | some elm => exact ⟨keepsIdle busy.1, by rw [kept.2, busy.2]⟩
  | _ => exact keepsIdle busy

private theorem ready_of_outside_act {thread : τ} {point next : Control}
    {buf after : MessageBuffer τ} {call : Call}
    {effect : MessageBuffer τ → Call → Option (MessageBuffer τ × Control)}
    (acts : code thread point = .act effect)
    (effected : effect buf call = some (after, next))
    (outside : point.holds = false) (ready : Ready thread point buf) :
    Ready thread next after ∧
      after.first = buf.first ∧ after.taken = buf.taken := by
  cases point <;>
    simp only [code, reduceCtorEq, Instruction.act.injEq] at acts
  all_goals subst acts
  case idle =>
    cases call <;> cases effected
    · exact ⟨Function.update_self _ _ _, rfl, rfl⟩
    · exact ⟨trivial, rfl, rfl⟩
  case putReset elm =>
    cases effected
    exact ⟨⟨ready, Function.update_self _ _ _⟩, rfl, rfl⟩
  case getReturn =>
    cases effected
    exact ⟨trivial, rfl, rfl⟩
  all_goals contradiction

theorem outline : (program τ).Outline freshPut Idle Busy Ready where
  start shared isInitial := by
    subst isInitial
    exact ⟨⟨[], ⟨.nil, .nil, rfl, by simp [empty], by simp [empty]⟩, rfl⟩,
      fun _ => trivial⟩
  acquire thread point next shared locks idle ready := by
    cases point <;>
      simp only [program, code, reduceCtorEq, Instruction.lock.injEq] at locks
    all_goals subst locks
    case putLock elm => exact ⟨idle, ready⟩
    all_goals exact idle
  release thread point next shared unlocks busy := by
    cases point <;>
      simp only [program, code, reduceCtorEq, Instruction.unlock.injEq]
        at unlocks
    all_goals subst unlocks
    case getUnlock elm =>
      cases elm with
      | none => exact ⟨busy.1, trivial⟩
      | some elm => exact ⟨busy.1, trivial⟩
    all_goals exact ⟨busy, trivial⟩
  inside config thread call effect shared next inside _ acts effected busy :=
    inside_act acts effected inside busy
  outside config thread call effect shared next outside allowed acts effected
      ready := by
    obtain ⟨isReady, kept⟩ :=
      ready_of_outside_act acts effected outside ready
    have keeps : ∀ contents, Contents config.shared contents →
        Contents shared contents ∧ shared.num = config.shared.num :=
      fun contents linked =>
        linked.outside_act acts effected outside ready (by
          rintro elm atIdle rfl
          exact allowed atIdle)
    refine ⟨isReady, ?_, ?_⟩
    · intro both
      obtain ⟨contents, linked, counted⟩ := both
      obtain ⟨linked, sameNum⟩ := keeps contents linked
      exact ⟨contents, linked, sameNum.trans counted⟩
    · intro owner point distinct _ busy
      refine busy.frame (frame_of_act acts effected ?_) distinct kept keeps
      intro inside
      exact (Bool.eq_false_iff.mp outside inside).elim
  undisturbed config thread call effect shared next other point _ acts effected
      distinct _ busy ready :=
    ready.frame (frame_of_act acts effected busy) distinct

omit [DecidableEq τ] in
theorem Busy.contents {thread : τ} {point : Control} {buf : MessageBuffer τ}
    (busy : Busy thread point buf) :
    ∃ contents, Contents buf contents ∧
      (buf.num = contents.length ∨ ∃ elm, point = .putCount elm) := by
  have ofIdle : Idle buf → ∃ contents, Contents buf contents ∧
      (buf.num = contents.length ∨ ∃ elm, point = .putCount elm) :=
    fun ⟨contents, linked, counted⟩ => ⟨contents, linked, .inl counted⟩
  cases point with
  | putFirst elm => exact ofIdle busy.1
  | putWalk elm tmp =>
      obtain ⟨⟨contents, linked, counted, _⟩, _⟩ := busy
      exact ⟨contents, linked, .inl counted⟩
  | putCount elm =>
      obtain ⟨contents, linked, _⟩ := busy
      exact ⟨contents, linked, .inr ⟨elm, rfl⟩⟩
  | getUnlock elm => cases elm <;> exact ofIdle busy.1
  | _ => exact ofIdle busy

/-- The buffer is an exact FIFO in every interleaving of puts and gets. -/
theorem exact_fifo {config : Config τ (MessageBuffer τ) Control}
    (reachable : (program τ).system.Reachable freshPut config) :
    ∃ contents, Chain config.shared.next config.shared.first contents ∧
      ((∀ thread elm, config.control thread ≠ .putCount elm) →
        config.shared.num = contents.length) ∧
      config.shared.put = config.shared.taken ++ contents ∧
      (∀ thread, config.control thread = .getUnlock none → contents = []) ∧
      ∀ thread elm, config.control thread = .getUnlock (some elm) →
        config.shared.taken.getLast? = some elm := by
  have described := outline.described reachable
  have exclusive := Program.ownerHolds_of_reachable reachable
  have busyAt : ∀ thread, (config.control thread).holds = true →
      Busy thread (config.control thread) config.shared :=
    fun thread inside => described.owned thread ((exclusive thread).mp inside)
  obtain ⟨contents, linked, counted⟩ : ∃ contents,
      Contents config.shared contents ∧
        ((∀ thread elm, config.control thread ≠ .putCount elm) →
          config.shared.num = contents.length) := by
    cases owner : config.owner with
    | none =>
        obtain ⟨contents, linked, counted⟩ := described.free owner
        exact ⟨contents, linked, fun _ => counted⟩
    | some holder =>
        obtain ⟨contents, linked, counted⟩ :=
          (described.owned holder owner).contents
        refine ⟨contents, linked, fun elsewhere => counted.resolve_right ?_⟩
        intro both
        obtain ⟨elm, counting⟩ := both
        exact elsewhere holder elm counting
  refine ⟨contents, linked.chain, counted, linked.history, ?_, ?_⟩
  · intro thread unlocking
    have busy := busyAt thread (by rw [unlocking]; rfl)
    rw [unlocking] at busy
    have chain := linked.chain
    rw [busy.2] at chain
    cases chain
    rfl
  · intro thread elm unlocking
    have busy := busyAt thread (by rw [unlocking]; rfl)
    rw [unlocking] at busy
    exact busy.2

def twoPutsOneGet : List (Bool × Call) :=
  (List.replicate 6 (true, .put 7)) ++ (List.replicate 7 (true, .put 8)) ++
    List.replicate 5 (false, .get)

theorem exact_fifo_two_puts :
    ∃ config, (program Bool).system.Reachable freshPut config ∧
      config.shared.taken = [7] ∧ config.shared.put = [7, 8] ∧
      ∃ contents, Chain config.shared.next config.shared.first contents ∧
        config.shared.put = config.shared.taken ++ contents := by
  let ran := (program Bool).system.guardedRun
    (fun config label => decide (freshPut config label))
    ((program Bool).start empty) twoPutsOneGet
  have isSome : ran.isSome := rfl
  have reachable :
      (program Bool).system.Reachable freshPut (ran.get isSome) :=
    ⟨_, ⟨empty, rfl, rfl⟩, System.reaches_of_guardedRun
      (fun _ _ allowed => of_decide_eq_true allowed) twoPutsOneGet
      (Option.some_get isSome).symm⟩
  obtain ⟨contents, chain, _, history, _⟩ := exact_fifo reachable
  exact ⟨_, reachable, rfl, rfl, contents, chain, history⟩

end MessageBuffer

end Rkipc.Storage
