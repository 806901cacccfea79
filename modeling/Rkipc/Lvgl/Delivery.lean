import Mathlib.Data.List.Infix
import Rkipc.Lvgl.Message

namespace Rkipc.Lvgl

open Transition

/-! When the messages are delivered. -/

/-- The list of handlers is initialized, and not cleared yet. -/
def Stage.handlersUp : Stage → Bool
  | .up => true
  | .stopping => true
  | .joined => true
  | .queueCleared => true
  | _ => false

/-- Elements may be in the queue. -/
def Stage.queueUp : Stage → Bool
  | .up => true
  | .stopping => true
  | .joined => true
  | _ => false

/-- Nothing was dropped from the queue since its initialization. -/
def Stage.whole : Stage → Bool
  | .queueSet => true
  | .threadMade => true
  | .up => true
  | .stopping => true
  | .joined => true
  | _ => false

/-- The receive thread may be running. -/
def Stage.threadUp : Stage → Bool
  | .threadMade => true
  | .up => true
  | .stopping => true
  | _ => false

/-- The object is referred to by an element that is not dispatched yet or by a walk over the
list. -/
def State.Busy (state : State) (obj : Nat) : Prop :=
  (∃ elm ∈ state.posting, elm.obj = obj) ∨ (∃ elm ∈ state.queue.getD [], elm.obj = obj) ∨
    (∃ elm, Phase.holding elm ∈ state.threads ∧ elm.obj = obj) ∨
      ∃ cursor ∈ state.cursors, cursor.pos = some obj ∨ cursor.next = some obj

/-- The calls come between the end of `lv_msg_init` and the part of `lv_msg_deinit` that clears
what they use, with objects that are registered; a handler is not unregistered while it is
referred to; and the receive thread is not cancelled in the middle of a dispatch. -/
def Careful (state : State) : Label → Prop
  | .initQueue => state.stage = .down ∨ state.stage = .failed
  | .deinit => state.stage = .up
  | .clearHandlers => state.posting = [] ∧ state.cursors = []
  | .register _ => state.stage.handlersUp = true
  | .unregister obj => state.stage.handlersUp = true ∧ ¬ state.Busy obj
  | .post obj _ _ _ => state.registered obj = true
  | .enqueue _ => state.stage.queueUp = true
  | .send obj => state.registered obj = true
  | .broadcast => state.stage.handlersUp = true
  | .cancelled thread => state.threads[thread]? = some .waiting
  | _ => True

def Phase.waitingFor : Phase → List Msg
  | .holding elm => [elm]
  | _ => []

def Phase.held : Phase → List Msg
  | .holding elm => [elm]
  | .handling elm => [elm]
  | _ => []

namespace State

def current (state : State) : Phase :=
  (state.tid.bind fun thread => state.threads[thread]?).getD .ended

def elements (state : State) : List Msg := state.queue.getD []

/-- How often the element is in flight, queued, held or released. -/
def places (state : State) (id : Nat) : Nat :=
  (state.posting.map Msg.id).count id + (state.elements.map Msg.id).count id +
    (state.current.held.map Msg.id).count id + state.freed.count id

structure Sound (state : State) : Prop where
  alone : ∀ thread phase, state.threads[thread]? = some phase → phase ≠ .ended →
    state.tid = some thread
  running : state.current ≠ .ended → state.stage.threadUp = true
  queueSet : state.queue = none → state.stage = .down
  queueEmpty : state.stage.queueUp = false → state.elements = []
  handlersSet : state.stage.handlersUp = true → state.handlers ≠ none
  noHandlers : state.stage.handlersUp = false → state.handlers.getD [] = []
  refers : ∀ elm ∈ state.posting ++ state.elements ++ state.current.waitingFor,
    state.registered elm.obj = true
  walks : ∀ cursor ∈ state.cursors, ∀ obj, cursor.pos = some obj ∨ cursor.next = some obj →
    state.registered obj = true
  order : ∃ dropped, state.dispatched.map Prod.fst ++ state.current.waitingFor ++
    state.elements ++ dropped = state.posted ∧ (state.stage.whole = true → dropped = [])
  once : ∀ id, state.places id = if id < state.made then 1 else 0
  asRegistered : ∀ entry ∈ state.dispatched, entry.2 = true
  noneGone : state.usedGone = false
  noCrash : state.crashed = false
  handlersKept : state.lostHandlers = false

variable {state next : State}

theorem current_mem (notEnded : state.current ≠ .ended) : state.current ∈ state.threads := by
  unfold current at notEnded ⊢
  cases thread : state.tid.bind fun thread => state.threads[thread]? with
  | none =>
      rw [thread] at notEnded
      exact absurd rfl notEnded
  | some phase =>
      obtain ⟨index, _, isAt⟩ := Option.bind_eq_some_iff.mp thread
      exact List.mem_of_getElem? isAt

theorem Sound.isDelivered (sound : state.Sound) : state.Delivered where
  order := by
    obtain ⟨dropped, same, _⟩ := sound.order
    rw [← same, List.append_assoc, List.append_assoc]
    exact List.prefix_append _ _
  registered := sound.asRegistered
  noneGone := sound.noneGone
  noCrash := sound.noCrash
  handlersKept := sound.handlersKept
  freedOnce id := by
    have once := sound.once id
    unfold places at once
    split_ifs at once <;> omega
  accounted id isMade := by
    have once := sound.once id
    rw [if_pos isMade] at once
    unfold places at once
    by_cases isFreed : id ∈ state.freed
    · exact .inl isFreed
    · rw [List.count_eq_zero.mpr isFreed] at once
      right
      by_cases inFlight : id ∈ state.posting.map Msg.id
      · obtain ⟨elm, member, same⟩ := List.mem_map.mp inFlight
        exact .inl ⟨elm, member, same⟩
      · by_cases queued : id ∈ state.elements.map Msg.id
        · obtain ⟨elm, member, same⟩ := List.mem_map.mp queued
          exact .inr (.inl ⟨elm, member, same⟩)
        · rw [List.count_eq_zero.mpr inFlight, List.count_eq_zero.mpr queued] at once
          have held : id ∈ state.current.held.map Msg.id :=
            List.count_pos_iff.mp (by omega)
          obtain ⟨elm, member, same⟩ := List.mem_map.mp held
          refine .inr (.inr ⟨elm, ?_, same⟩)
          cases phase : state.current with
          | holding found =>
              rw [phase] at member
              rw [List.mem_singleton.mp member, ← phase]
              exact .inl (current_mem (by rw [phase]; exact Phase.noConfusion))
          | handling found =>
              rw [phase] at member
              rw [List.mem_singleton.mp member, ← phase]
              exact .inr (current_mem (by rw [phase]; exact Phase.noConfusion))
          | top => rw [phase] at member; cases member
          | getting => rw [phase] at member; cases member
          | waiting => rw [phase] at member; cases member
          | ended => rw [phase] at member; cases member

theorem sound_start : start.Sound where
  alone thread phase isAt := by simp [start] at isAt
  running := by simp [current, start]
  queueSet _ := rfl
  queueEmpty _ := rfl
  handlersSet up := by cases up
  noHandlers _ := rfl
  refers elm member := by simp [start, elements, current, Phase.waitingFor] at member
  walks cursor member := by cases member
  order := ⟨[], rfl, fun _ => rfl⟩
  once id := rfl
  asRegistered entry member := by cases member
  noneGone := rfl
  noCrash := rfl
  handlersKept := rfl

/-! What follows from the invariant at each stage. -/

theorem registered_none (none : state.handlers.getD [] = []) (obj : Nat) :
    state.registered obj = false := by
  simp [registered, none]

theorem Sound.not_posting (sound : state.Sound) (down : state.stage.handlersUp = false) :
    state.posting = [] := by
  refine List.eq_nil_iff_forall_not_mem.mpr fun elm member => ?_
  have isRegistered := sound.refers elm (List.mem_append_left _ (List.mem_append_left _ member))
  rw [registered_none (sound.noHandlers down)] at isRegistered
  cases isRegistered

theorem Sound.ended (sound : state.Sound) (down : state.stage.threadUp = false) :
    state.current = .ended := by
  by_contra notEnded
  rw [sound.running notEnded] at down
  cases down

/-- A thread that has not ended is the one that was started last. -/
theorem Sound.current_eq (sound : state.Sound) {thread : Nat} {phase : Phase}
    (isAt : state.threads[thread]? = some phase) (notEnded : phase ≠ .ended) :
    state.tid = some thread ∧ state.current = phase := by
  have isTid := sound.alone thread phase isAt notEnded
  exact ⟨isTid, by rw [current, isTid, Option.bind_some, isAt, Option.getD_some]⟩

/-! The steps of the receive thread. -/

theorem getElem?_setPhase {thread : Nat} {phase : Phase}
    (isAt : state.threads[thread]? = some phase) (next : Phase) (other : Nat) :
    (state.threads.set thread next)[other]? =
      if thread = other then some next else state.threads[other]? := by
  have inside : thread < state.threads.length := (List.getElem?_eq_some_iff.mp isAt).1
  rw [List.getElem?_set]
  split_ifs with same
  · rfl
  · rfl

/-- A step of the thread that takes elements from the queue, dispatches and releases them. -/
theorem Sound.moved (sound : state.Sound) {thread : Nat} {phase : Phase}
    (isAt : state.threads[thread]? = some phase) (notEnded : phase ≠ .ended) (next : Phase)
    (queueLocked : Bool) {queue : Option (List Msg)} {dispatched : List (Msg × Bool)}
    {freed : List Nat} (queueSet : queue = none → state.queue = none)
    (fewer : queue.getD [] ⊆ state.elements)
    (refers : ∀ elm ∈ next.waitingFor, state.registered elm.obj = true)
    (order : dispatched.map Prod.fst ++ next.waitingFor ++ queue.getD [] =
      state.dispatched.map Prod.fst ++ phase.waitingFor ++ state.elements)
    (once : ∀ id, ((queue.getD []).map Msg.id).count id + (next.held.map Msg.id).count id +
      freed.count id = (state.elements.map Msg.id).count id +
        (phase.held.map Msg.id).count id + state.freed.count id)
    (asRegistered : ∀ entry ∈ dispatched, entry.2 = true) :
    ({ state.setPhase thread next with queue, queueLocked, dispatched, freed } : State).Sound := by
  obtain ⟨isTid, isCurrent⟩ := sound.current_eq isAt notEnded
  have up : state.stage.threadUp = true := sound.running (by rw [isCurrent]; exact notEnded)
  have current : ({ state.setPhase thread next with
      queue, queueLocked, dispatched, freed } : State).current = next := by
    simp only [State.current, setPhase, isTid, Option.bind_some, getElem?_setPhase isAt, if_true,
      Option.getD_some]
  refine ⟨?_, fun _ => up, fun isNone => sound.queueSet (queueSet isNone), ?_, sound.handlersSet,
    sound.noHandlers, ?_, sound.walks, ?_, ?_, asRegistered, sound.noneGone, sound.noCrash,
    sound.handlersKept⟩
  · intro other found isFound foundRuns
    simp only [setPhase, getElem?_setPhase isAt] at isFound
    split_ifs at isFound with same
    · rw [← same]
      exact isTid
    · exact sound.alone other found isFound foundRuns
  · intro notUp
    have empty := sound.queueEmpty notUp
    rw [empty] at fewer
    exact List.subset_nil.mp fewer
  · intro elm member
    rw [current] at member
    rcases List.mem_append.mp member with member | waits
    · rcases List.mem_append.mp member with inFlight | queued
      · exact sound.refers elm (List.mem_append_left _ (List.mem_append_left _ inFlight))
      · exact sound.refers elm
          (List.mem_append_left _ (List.mem_append_right _ (fewer queued)))
    · exact refers elm waits
  · obtain ⟨dropped, same, none⟩ := sound.order
    rw [isCurrent, ← order] at same
    refine ⟨dropped, ?_, none⟩
    rw [current]
    exact same
  · intro id
    have before := sound.once id
    unfold places at before ⊢
    rw [isCurrent] at before
    rw [current]
    have moved := once id
    have elements : ({ state.setPhase thread next with
      queue, queueLocked, dispatched, freed } : State).elements = queue.getD [] := rfl
    rw [elements]
    change (state.posting.map Msg.id).count id + ((queue.getD []).map Msg.id).count id +
      (next.held.map Msg.id).count id + freed.count id = if id < state.made then 1 else 0
    omega

theorem Sound.setPhase (sound : state.Sound) {thread : Nat} {phase : Phase}
    (isAt : state.threads[thread]? = some phase) (notEnded : phase ≠ .ended) (next : Phase)
    (waits : next.waitingFor = phase.waitingFor) (held : next.held = phase.held)
    (queueLocked : Bool) : ({ state.setPhase thread next with queueLocked } : State).Sound := by
  have isCurrent := (sound.current_eq isAt notEnded).2
  refine sound.moved isAt notEnded next queueLocked id (List.Subset.refl _) ?_ ?_ ?_
    sound.asRegistered
  · intro elm member
    rw [waits, ← isCurrent] at member
    exact sound.refers elm (List.mem_append_right _ member)
  · rw [waits]
    rfl
  · intro id
    rw [held]
    rfl

theorem Sound.look (sound : state.Sound) {thread : Nat}
    (isAt : state.threads[thread]? = some .top) : (state.look thread).Sound := by
  unfold State.look
  split_ifs
  · exact sound.setPhase isAt Phase.noConfusion .ended rfl rfl state.queueLocked
  · exact sound.setPhase isAt Phase.noConfusion .getting rfl rfl state.queueLocked

theorem Sound.get (sound : state.Sound) {thread : Nat} {phase onEmpty : Phase}
    (isAt : state.threads[thread]? = some phase) (notEnded : phase ≠ .ended)
    (noElement : phase.held = [] ∧ phase.waitingFor = [])
    (stillNone : onEmpty.held = [] ∧ onEmpty.waitingFor = []) :
    (state.get thread onEmpty).Sound := by
  have isCurrent := (sound.current_eq isAt notEnded).2
  cases queue : state.queue with
  | none =>
      -- The thread runs only while the queue is initialized.
      have down := sound.queueSet queue
      have up := sound.running (by rw [isCurrent]; exact notEnded)
      rw [down] at up
      cases up
  | some elements =>
      have isElements : state.elements = elements := by simp [State.elements, queue]
      cases elements with
      | nil =>
          simp only [State.get, queue]
          have kept := sound.setPhase isAt notEnded onEmpty (stillNone.2.trans noElement.2.symm)
            (stillNone.1.trans noElement.1.symm) state.queueLocked
          exact kept
      | cons elm rest =>
          simp only [State.get, queue]
          refine sound.moved isAt notEnded (.holding elm) state.queueLocked
            (fun isNone => absurd isNone (Option.some_ne_none rest)) ?_ ?_ ?_ ?_
            sound.asRegistered
          · rw [isElements]
            exact List.subset_cons_self elm rest
          · intro found member
            rw [List.mem_singleton.mp member]
            refine sound.refers elm (List.mem_append_left _ (List.mem_append_right _ ?_))
            rw [isElements]
            exact List.mem_cons_self
          · rw [noElement.2, isElements]
            simp [Phase.waitingFor, State.setPhase]
          · intro id
            rw [noElement.1, isElements]
            simp only [State.setPhase, Option.getD_some, Phase.held, List.map_cons, List.map_nil,
              List.count_cons, List.count_nil]
            omega

theorem Sound.dispatch (sound : state.Sound) {thread : Nat} {elm : Msg}
    (isAt : state.threads[thread]? = some (.holding elm)) : (state.dispatch thread elm).Sound := by
  have isCurrent := (sound.current_eq isAt Phase.noConfusion).2
  have isRegistered : state.registered elm.obj = true := by
    refine sound.refers elm (List.mem_append_right _ ?_)
    rw [isCurrent]
    exact List.mem_singleton_self elm
  have same : state.use elm.obj = state := by simp [use, isRegistered]
  simp only [State.dispatch, same]
  refine sound.moved isAt Phase.noConfusion (.handling elm) state.queueLocked id
    (List.Subset.refl _) (fun _ member => absurd member List.not_mem_nil) ?_ ?_ ?_
  · simp [Phase.waitingFor]
    rfl
  · intro id
    rfl
  · intro entry member
    rcases List.mem_append.mp member with before | isNew
    · exact sound.asRegistered entry before
    · rw [List.mem_singleton.mp isNew]
      exact isRegistered

theorem Sound.finish (sound : state.Sound) {thread : Nat} {elm : Msg}
    (isAt : state.threads[thread]? = some (.handling elm)) : (state.finish thread elm).Sound := by
  refine sound.moved isAt Phase.noConfusion .top state.queueLocked id (List.Subset.refl _)
    (fun _ member => absurd member List.not_mem_nil) rfl ?_ sound.asRegistered
  intro id
  simp only [State.setPhase, State.elements, Phase.held, List.map_cons, List.map_nil,
    List.count_append, List.count_nil]
  omega

/-! The steps of `lv_msg_init` and `lv_msg_deinit`. -/

theorem Sound.initQueue (sound : state.Sound)
    (isDown : state.stage = .down ∨ state.stage = .failed) : state.initQueue.Sound := by
  have noThread : state.stage.threadUp = false := by rcases isDown with is | is <;> rw [is] <;> rfl
  have noHandlers : state.stage.handlersUp = false := by
    rcases isDown with is | is <;> rw [is] <;> rfl
  have noQueue : state.stage.queueUp = false := by rcases isDown with is | is <;> rw [is] <;> rfl
  have ended : state.initQueue.current = .ended := sound.ended noThread
  exact { sound with
    running := fun notEnded => absurd ended notEnded
    queueSet := fun isNone => absurd isNone (Option.some_ne_none _)
    queueEmpty := fun _ => rfl
    handlersSet := fun up => by cases up
    noHandlers := fun _ => sound.noHandlers noHandlers
    refers := by
      intro elm member
      have posting : state.initQueue.posting = [] := sound.not_posting noHandlers
      rw [ended, posting] at member
      exact absurd member List.not_mem_nil
    order := by
      refine ⟨[], ?_, fun _ => rfl⟩
      rw [ended]
      rfl
    once := by
      intro id
      have before := sound.once id
      unfold places at before
      rw [sound.queueEmpty noQueue] at before
      exact before
    asRegistered := fun _ member => absurd member List.not_mem_nil }

theorem Sound.queue_ne_none (sound : state.Sound) (notDown : state.stage ≠ .down) :
    state.queue ≠ none := fun isNone => notDown (sound.queueSet isNone)

theorem Sound.createThread (sound : state.Sound) (isSet : state.stage = .queueSet)
    (works : Bool) : (state.createThread works).Sound := by
  have noHandlers : state.stage.handlersUp = false := by rw [isSet]; rfl
  have noQueue : state.stage.queueUp = false := by rw [isSet]; rfl
  have ended := sound.ended (by rw [isSet]; rfl)
  have hasQueue := sound.queue_ne_none (by rw [isSet]; exact Stage.noConfusion)
  obtain ⟨dropped, same, whole⟩ := sound.order
  cases works with
  | false =>
      exact { sound with
        running := fun notEnded => absurd ended notEnded
        queueSet := fun isNone => absurd isNone hasQueue
        queueEmpty := fun _ => sound.queueEmpty noQueue
        handlersSet := fun up => by cases up
        noHandlers := fun _ => sound.noHandlers noHandlers
        order := ⟨dropped, same, fun up => by cases up⟩ }
  | true =>
      have current : (state.createThread true).current = .top := by
        simp [State.createThread, State.current]
      exact { sound with
        alone := by
          intro thread phase isAt notEnded
          have isAt : (state.threads ++ [Phase.top])[thread]? = some phase := isAt
          have inside := (List.getElem?_eq_some_iff.mp isAt).1
          rw [List.length_append, List.length_singleton] at inside
          by_cases old : thread < state.threads.length
          · rw [List.getElem?_append_left old] at isAt
            have isCurrent := (sound.current_eq isAt notEnded).2
            rw [ended] at isCurrent
            exact absurd isCurrent.symm notEnded
          · have isLast : thread = state.threads.length := by omega
            rw [isLast]
            rfl
        running := fun _ => rfl
        queueSet := fun isNone => absurd isNone hasQueue
        queueEmpty := fun _ => sound.queueEmpty noQueue
        handlersSet := fun up => by cases up
        noHandlers := fun _ => sound.noHandlers noHandlers
        refers := by
          have refers := sound.refers
          rw [ended] at refers
          rw [current]
          exact refers
        order := by
          rw [ended] at same
          rw [current]
          exact ⟨dropped, same, fun _ => whole (by rw [isSet]; rfl)⟩
        once := by
          intro id
          have before := sound.once id
          unfold places at before ⊢
          rw [ended] at before
          rw [current]
          exact before }

theorem Sound.initHandlers (sound : state.Sound) (isMade : state.stage = .threadMade) :
    state.initHandlers.Sound := by
  have noHandlers := sound.noHandlers (by rw [isMade]; rfl)
  have registered : state.initHandlers.registered = state.registered := by
    funext obj
    rw [registered_none noHandlers]
    rfl
  have hasQueue := sound.queue_ne_none (by rw [isMade]; exact Stage.noConfusion)
  obtain ⟨dropped, same, whole⟩ := sound.order
  exact { sound with
    running := fun _ => rfl
    queueSet := fun isNone => absurd isNone hasQueue
    queueEmpty := fun notUp => by cases notUp
    handlersSet := fun _ => Option.some_ne_none _
    noHandlers := fun notUp => by cases notUp
    refers := by
      rw [registered]
      exact sound.refers
    walks := by
      rw [registered]
      exact sound.walks
    order := ⟨dropped, same, fun _ => whole (by rw [isMade]; rfl)⟩
    handlersKept := by
      simp [State.initHandlers, noHandlers, sound.handlersKept] }

theorem Sound.deinit (sound : state.Sound) (isUp : state.stage = .up) : state.deinit.Sound := by
  obtain ⟨dropped, same, none⟩ := sound.order
  have hasQueue := sound.queue_ne_none (by rw [isUp]; exact Stage.noConfusion)
  exact { sound with
    running := fun _ => rfl
    queueSet := fun isNone => absurd isNone hasQueue
    queueEmpty := fun notUp => by cases notUp
    handlersSet := fun _ => sound.handlersSet (by rw [isUp]; rfl)
    noHandlers := fun notUp => by cases notUp
    order := ⟨dropped, same, fun _ => none (by rw [isUp]; rfl)⟩ }

theorem current_joinable (isJoinable : state.joinable = true) : state.current = .ended := by
  unfold joinable at isJoinable
  unfold current
  cases tid : state.tid with
  | none => rfl
  | some thread =>
      rw [tid] at isJoinable
      rw [Option.bind_some, of_decide_eq_true isJoinable, Option.getD_some]

theorem Sound.join (sound : state.Sound) (isStopping : state.stage = .stopping)
    (isJoinable : state.joinable = true) :
    ({ state with stage := .joined, tid := none } : State).Sound := by
  obtain ⟨dropped, same, none⟩ := sound.order
  have ended := current_joinable isJoinable
  have hasQueue := sound.queue_ne_none (by rw [isStopping]; exact Stage.noConfusion)
  exact { sound with
    alone := by
      intro thread phase isAt notEnded
      have isCurrent := (sound.current_eq isAt notEnded).2
      rw [ended] at isCurrent
      exact absurd isCurrent.symm notEnded
    running := fun notEnded => absurd rfl notEnded
    queueSet := fun isNone => absurd isNone hasQueue
    queueEmpty := fun notUp => by cases notUp
    handlersSet := fun _ => sound.handlersSet (by rw [isStopping]; rfl)
    noHandlers := fun notUp => by cases notUp
    refers := by
      have refers := sound.refers
      rw [ended] at refers
      exact refers
    order := by
      rw [ended] at same
      exact ⟨dropped, same, fun _ => none (by rw [isStopping]; rfl)⟩
    once := by
      have once := sound.once
      unfold places at once
      rw [ended] at once
      exact once }

theorem Sound.clearQueue (sound : state.Sound) (isJoined : state.stage = .joined) :
    state.clearQueue.Sound := by
  have hasQueue := sound.queue_ne_none (by rw [isJoined]; exact Stage.noConfusion)
  cases queue : state.queue with
  | none => exact absurd queue hasQueue
  | some elements =>
      have isElements : state.elements = elements := by simp [State.elements, queue]
      obtain ⟨dropped, same, none⟩ := sound.order
      have ended := sound.ended (by rw [isJoined]; rfl)
      rw [none (by rw [isJoined]; rfl), List.append_nil, isElements] at same
      simp only [State.clearQueue, queue]
      exact { sound with
        running := fun notEnded => absurd ended notEnded
        queueSet := fun isNone => absurd isNone (Option.some_ne_none _)
        queueEmpty := fun _ => rfl
        handlersSet := fun _ => sound.handlersSet (by rw [isJoined]; rfl)
        noHandlers := fun notUp => by cases notUp
        refers := by
          intro elm member
          refine sound.refers elm ?_
          rcases List.mem_append.mp member with member | waits
          · rcases List.mem_append.mp member with inFlight | queued
            · exact List.mem_append_left _ (List.mem_append_left _ inFlight)
            · exact absurd queued List.not_mem_nil
          · exact List.mem_append_right _ waits
        order := by
          refine ⟨elements, ?_, fun up => by cases up⟩
          rw [← same]
          exact congrArg (· ++ elements) (List.append_nil _)
        once := by
          intro id
          have before := sound.once id
          unfold places at before ⊢
          rw [isElements] at before
          simp only [State.elements, Option.getD_some, List.map_nil, List.count_nil,
            List.count_append]
          simp only [State.current] at before ⊢
          omega }

theorem Sound.clearHandlers (sound : state.Sound) (isCleared : state.stage = .queueCleared)
    (noPost : state.posting = []) (noWalk : state.cursors = []) : state.clearHandlers.Sound := by
  cases handlers : state.handlers with
  | none => exact absurd handlers (sound.handlersSet (by rw [isCleared]; rfl))
  | some entries =>
      have ended := sound.ended (by rw [isCleared]; rfl)
      have empty := sound.queueEmpty (by rw [isCleared]; rfl)
      obtain ⟨dropped, same, _⟩ := sound.order
      simp only [State.clearHandlers, handlers]
      exact { sound with
        running := fun notEnded => absurd ended notEnded
        queueSet := fun _ => rfl
        queueEmpty := fun _ => empty
        handlersSet := fun up => by cases up
        noHandlers := fun _ => rfl
        refers := by
          intro elm member
          have refers : state.posting ++ state.elements ++ state.current.waitingFor = [] := by
            rw [noPost, empty, ended]
            rfl
          exact absurd (refers ▸ member) List.not_mem_nil
        walks := fun cursor member => absurd (noWalk ▸ member) List.not_mem_nil
        order := ⟨dropped, same, fun up => by cases up⟩ }

/-! The calls of others. -/

theorem use_registered {obj : Nat} (isRegistered : state.registered obj = true) :
    state.use obj = state := by
  simp [use, isRegistered]

/-- A change of the list of handlers that keeps what is referred to. -/
theorem Sound.withHandlers (sound : state.Sound) (up : state.stage.handlersUp = true)
    (entries : List Handler) (objects : Nat)
    (keeps : ∀ obj, state.Busy obj → state.registered obj = true →
      (entries.any fun entry => entry.obj = obj) = true) :
    ({ state with handlers := some entries, objects } : State).Sound :=
  { sound with
    handlersSet := fun _ => Option.some_ne_none _
    noHandlers := fun notUp => by rw [up] at notUp; cases notUp
    refers := by
      intro elm member
      refine keeps elm.obj ?_ (sound.refers elm member)
      rcases List.mem_append.mp member with member | waits
      · rcases List.mem_append.mp member with inFlight | queued
        · exact .inl ⟨elm, inFlight, rfl⟩
        · exact .inr (.inl ⟨elm, queued, rfl⟩)
      · refine .inr (.inr (.inl ⟨elm, ?_, rfl⟩))
        have waits : elm ∈ state.current.waitingFor := waits
        cases phase : state.current with
        | holding found =>
            rw [phase] at waits
            rw [List.mem_singleton.mp waits, ← phase]
            exact current_mem (by rw [phase]; exact Phase.noConfusion)
        | top => rw [phase] at waits; cases waits
        | getting => rw [phase] at waits; cases waits
        | waiting => rw [phase] at waits; cases waits
        | handling found => rw [phase] at waits; cases waits
        | ended => rw [phase] at waits; cases waits
    walks := by
      intro cursor member obj stands
      exact keeps obj (.inr (.inr (.inr ⟨cursor, member, stands⟩)))
        (sound.walks cursor member obj stands) }

theorem Sound.register (sound : state.Sound) (up : state.stage.handlersUp = true)
    (handler : Nat) : (state.register handler).Sound := by
  cases handlers : state.handlers with
  | none => exact absurd handlers (sound.handlersSet up)
  | some entries =>
      simp only [State.register, handlers]
      split_ifs
      · exact sound
      · refine sound.withHandlers up _ _ ?_
        intro obj _ isRegistered
        simp only [registered, handlers, Option.getD_some] at isRegistered
        rw [List.any_append, isRegistered]
        rfl

theorem Sound.unregister (sound : state.Sound) (up : state.stage.handlersUp = true) {obj : Nat}
    (notBusy : ¬ state.Busy obj) : (state.unregister obj).Sound := by
  cases handlers : state.handlers with
  | none => exact absurd handlers (sound.handlersSet up)
  | some entries =>
      simp only [State.unregister, handlers]
      refine sound.withHandlers up _ _ ?_
      intro other busy isRegistered
      simp only [registered, handlers, Option.getD_some] at isRegistered
      obtain ⟨entry, member, isOther⟩ := List.any_eq_true.mp isRegistered
      have isOther : entry.obj = other := of_decide_eq_true isOther
      refine List.any_eq_true.mpr ⟨entry, ?_, decide_eq_true isOther⟩
      refine List.mem_filter.mpr ⟨member, decide_eq_true ?_⟩
      intro same
      rw [isOther] at same
      rw [same] at busy
      exact notBusy busy

theorem Sound.post (sound : state.Sound) {obj : Nat} (isRegistered : state.registered obj = true)
    (msg : Int) (wparam lparam : Nat) : (state.post obj msg wparam lparam).Sound := by
  simp only [State.post, use_registered isRegistered]
  exact { sound with
    refers := by
      intro elm member
      rcases List.mem_append.mp member with member | waits
      · rcases List.mem_append.mp member with inFlight | queued
        · rcases List.mem_append.mp inFlight with before | isNew
          · exact sound.refers elm (List.mem_append_left _ (List.mem_append_left _ before))
          · rw [List.mem_singleton.mp isNew]
            exact isRegistered
        · exact sound.refers elm (List.mem_append_left _ (List.mem_append_right _ queued))
      · exact sound.refers elm (List.mem_append_right _ waits)
    once := by
      intro id
      have before := sound.once id
      unfold places at before ⊢
      simp only [State.elements, State.current, List.map_append, List.count_append,
        List.map_cons, List.map_nil, List.count_cons, List.count_nil, beq_iff_eq] at before ⊢
      by_cases isNew : state.made = id
      · rw [if_neg (by omega)] at before
        rw [if_pos isNew, if_pos (by omega)]
        omega
      · rw [if_neg isNew]
        by_cases old : id < state.made
        · rw [if_pos old] at before
          rw [if_pos (by omega)]
          omega
        · rw [if_neg old] at before
          rw [if_neg (by omega)]
          omega }

theorem count_eraseIdx {elements : List Msg} {index : Nat} {elm : Msg}
    (isAt : elements[index]? = some elm) (id : Nat) :
    (elements.map Msg.id).count id = ((elements.eraseIdx index).map Msg.id).count id +
      if elm.id = id then 1 else 0 := by
  induction elements generalizing index with
  | nil => simp at isAt
  | cons first rest induction =>
      cases index with
      | zero =>
          cases isAt
          simp only [List.eraseIdx_cons_zero, List.map_cons, List.count_cons, beq_iff_eq]
      | succ index =>
          have shorter := @induction index isAt
          simp only [List.eraseIdx_cons_succ, List.map_cons, List.count_cons, shorter]
          omega

theorem Sound.enqueue (sound : state.Sound) (up : state.stage.queueUp = true) {index : Nat}
    {elm : Msg} (isAt : state.posting[index]? = some elm) : (state.enqueue index elm).Sound := by
  have whole : state.stage.whole = true := by
    cases stage : state.stage <;> rw [stage] at up <;> first | rfl | cases up
  cases queue : state.queue with
  | none =>
      rw [sound.queueSet queue] at up
      cases up
  | some elements =>
      have isElements : state.elements = elements := by simp [State.elements, queue]
      obtain ⟨dropped, same, none⟩ := sound.order
      rw [none whole, List.append_nil, isElements] at same
      simp only [State.enqueue, queue]
      exact { sound with
        queueSet := fun isNone => absurd isNone (Option.some_ne_none _)
        queueEmpty := fun notUp => by rw [up] at notUp; cases notUp
        refers := by
          intro found member
          refine sound.refers found ?_
          rw [isElements]
          rcases List.mem_append.mp member with member | waits
          · refine List.mem_append_left _ ?_
            rcases List.mem_append.mp member with inFlight | queued
            · exact List.mem_append_left _ (List.mem_of_mem_eraseIdx inFlight)
            · rcases List.mem_append.mp queued with before | isNew
              · exact List.mem_append_right _ before
              · rw [List.mem_singleton.mp isNew]
                exact List.mem_append_left _ (List.mem_of_getElem? isAt)
          · exact List.mem_append_right _ waits
        order := by
          refine ⟨[], ?_, fun _ => rfl⟩
          rw [← same, List.append_nil]
          exact (List.append_assoc _ _ _).symm
        once := by
          intro id
          have before := sound.once id
          have moved := count_eraseIdx isAt id
          unfold places at before ⊢
          rw [isElements] at before
          simp only [State.elements, State.current, Option.getD_some, List.map_append,
            List.count_append, List.map_cons, List.map_nil, List.count_cons, List.count_nil,
            beq_iff_eq] at before ⊢
          omega }

theorem registered_getElem (index : Nat) {obj : Nat}
    (isAt : (state.handlers.getD [])[index]?.map Handler.obj = some obj) :
    state.registered obj = true := by
  obtain ⟨entry, isEntry, isObj⟩ := Option.map_eq_some_iff.mp isAt
  exact List.any_eq_true.mpr ⟨entry, List.mem_of_getElem? isEntry, decide_eq_true isObj⟩

theorem registered_after {obj next : Nat} (isNext : state.after obj = some next) :
    state.registered next = true := by
  obtain ⟨entry, isEntry, isObj⟩ := Option.map_eq_some_iff.mp isNext
  have member := (List.dropWhile_sublist _).subset (List.mem_of_getElem? isEntry)
  exact List.any_eq_true.mpr ⟨entry, member, decide_eq_true isObj⟩

/-- What stands behind the walks over the list is registered. -/
def Standing (state : State) (cursor : Cursor) : Prop :=
  ∀ obj, cursor.pos = some obj ∨ cursor.next = some obj → state.registered obj = true

theorem Sound.withCursors (sound : state.Sound) (cursors : List Cursor)
    (standing : ∀ cursor ∈ cursors, cursor ∈ state.cursors ∨ state.Standing cursor) :
    ({ state with cursors } : State).Sound :=
  { sound with
    walks := by
      intro cursor member
      rcases standing cursor member with before | stands
      · exact sound.walks cursor before
      · exact stands }

theorem Sound.broadcast (sound : state.Sound) (up : state.stage.handlersUp = true) :
    state.broadcast.Sound := by
  cases handlers : state.handlers with
  | none => exact absurd handlers (sound.handlersSet up)
  | some entries =>
      have result : state.broadcast =
          { state with
            cursors := state.cursors ++
              [⟨entries.head?.map Handler.obj, entries[1]?.map Handler.obj⟩] } := by
        simp [State.broadcast, handlers]
      rw [result]
      refine sound.withCursors _ ?_
      intro cursor member
      rcases List.mem_append.mp member with before | isNew
      · exact .inl before
      · right
        rw [List.mem_singleton.mp isNew]
        rintro obj (isFirst | isSecond)
        · refine registered_getElem 0 ?_
          rw [handlers, Option.getD_some, ← List.head?_eq_getElem?]
          exact isFirst
        · refine registered_getElem 1 ?_
          rw [handlers, Option.getD_some]
          exact isSecond

theorem Sound.visit (sound : state.Sound) {index : Nat} {cursor : Cursor}
    (isAt : state.cursors[index]? = some cursor) (handled : Bool) :
    (state.visit index cursor handled).Sound := by
  have stands := sound.walks cursor (List.mem_of_getElem? isAt)
  have removed : ({ state with cursors := state.cursors.eraseIdx index } : State).Sound :=
    sound.withCursors _ fun other member => .inl (List.mem_of_mem_eraseIdx member)
  have replaced : ∀ other, state.Standing other →
      ({ state with cursors := state.cursors.set index other } : State).Sound := by
    intro other otherStands
    refine sound.withCursors _ fun found member => ?_
    rcases List.mem_or_eq_of_mem_set member with before | isNew
    · exact .inl before
    · right
      rw [isNew]
      exact otherStands
  cases pos : cursor.pos with
  | none =>
      simp only [State.visit, pos]
      exact removed
  | some obj =>
      simp only [State.visit, pos, use_registered (stands obj (.inl pos))]
      cases handled with
      | true => exact removed
      | false =>
          cases isNext : cursor.next with
          | none =>
              refine replaced ⟨none, none⟩ ?_
              rintro other (isNone | isNone) <;> cases isNone
          | some next =>
              have isRegistered := stands next (.inr isNext)
              simp only [use_registered isRegistered]
              refine replaced ⟨some next, state.after next⟩ ?_
              rintro other (isPos | isAfter)
              · cases isPos
                exact isRegistered
              · exact registered_after isAfter

end State

theorem sound_step (state : State) (label : Label) (next : State) (sound : state.Sound)
    (careful : Careful state label) (stepped : state.step label = some next) : next.Sound := by
  cases label with
  | initQueue =>
      cases stepped
      exact sound.initQueue careful
  | createThread works =>
      obtain ⟨isSet, isNext⟩ := Option.ite_none_right_eq_some.mp stepped
      cases isNext
      exact sound.createThread isSet works
  | initHandlers =>
      obtain ⟨isMade, isNext⟩ := Option.ite_none_right_eq_some.mp stepped
      cases isNext
      exact sound.initHandlers isMade
  | deinit =>
      cases stepped
      exact sound.deinit careful
  | join =>
      obtain ⟨⟨isStopping, isJoinable⟩, isNext⟩ := Option.ite_none_right_eq_some.mp stepped
      cases isNext
      exact sound.join isStopping isJoinable
  | clearQueue =>
      obtain ⟨isJoined, isNext⟩ := Option.ite_none_right_eq_some.mp stepped
      cases isNext
      exact sound.clearQueue isJoined
  | clearHandlers =>
      obtain ⟨isCleared, isNext⟩ := Option.ite_none_right_eq_some.mp stepped
      cases isNext
      exact sound.clearHandlers isCleared careful.1 careful.2
  | register handler =>
      cases stepped
      exact sound.register careful handler
  | unregister obj =>
      cases stepped
      exact sound.unregister careful.1 careful.2
  | post obj msg wparam lparam =>
      cases stepped
      exact sound.post careful msg wparam lparam
  | enqueue index =>
      simp only [State.step] at stepped
      split_ifs at stepped
      obtain ⟨elm, isAt, isNext⟩ := Option.map_eq_some_iff.mp stepped
      rw [← isNext]
      exact sound.enqueue careful isAt
  | send obj =>
      cases stepped
      rw [State.use_registered careful]
      exact sound
  | broadcast =>
      cases stepped
      exact sound.broadcast careful
  | visit index handled =>
      obtain ⟨cursor, isAt, isNext⟩ := Option.map_eq_some_iff.mp stepped
      rw [← isNext]
      exact sound.visit isAt handled
  | look thread =>
      obtain ⟨isAt, isNext⟩ := Option.ite_none_right_eq_some.mp stepped
      cases isNext
      exact sound.look isAt
  | get thread =>
      obtain ⟨⟨isAt, _⟩, isNext⟩ := Option.ite_none_right_eq_some.mp stepped
      cases isNext
      exact sound.get isAt Phase.noConfusion ⟨rfl, rfl⟩ ⟨rfl, rfl⟩
  | wake thread =>
      obtain ⟨⟨isAt, _⟩, isNext⟩ := Option.ite_none_right_eq_some.mp stepped
      cases isNext
      exact sound.get isAt Phase.noConfusion ⟨rfl, rfl⟩ ⟨rfl, rfl⟩
  | dispatch thread =>
      simp only [State.step] at stepped
      split at stepped
      next elm isAt =>
        cases stepped
        exact sound.dispatch isAt
      next => cases stepped
  | finish thread =>
      simp only [State.step] at stepped
      split at stepped
      next elm isAt =>
        cases stepped
        exact sound.finish isAt
      next => cases stepped
  | cancelled thread =>
      have isAt : state.threads[thread]? = some .waiting := careful
      simp only [State.step, isAt] at stepped
      split_ifs at stepped
      cases stepped
      exact sound.setPhase isAt Phase.noConfusion .ended rfl rfl true

theorem delivered {state : State} (reachable : messages.Reachable Careful state) :
    state.Delivered := by
  refine (System.Reachable.invariant ?_ sound_step reachable).isDelivered
  rintro first rfl
  exact State.sound_start

/-- `Careful`, with an `unregister` only when nothing is referred to at all. -/
def careful (state : State) : Label → Bool
  | .initQueue => state.stage = .down || state.stage = .failed
  | .deinit => state.stage = .up
  | .clearHandlers => state.posting = [] && state.cursors = []
  | .register _ => state.stage.handlersUp
  | .unregister _ =>
      state.stage.handlersUp && state.posting = [] && state.queue.getD [] = [] &&
        state.cursors = [] && state.threads.all fun phase => phase.waitingFor = []
  | .post obj _ _ _ => state.registered obj
  | .enqueue _ => state.stage.queueUp
  | .send obj => state.registered obj
  | .broadcast => state.stage.handlersUp
  | .cancelled thread => state.threads[thread]? = some .waiting
  | _ => true

theorem careful_Careful (state : State) (label : Label) (checked : careful state label = true) :
    Careful state label := by
  cases label with
  | initQueue =>
      simp only [careful, Bool.or_eq_true, decide_eq_true_eq] at checked
      exact checked
  | deinit =>
      have isUp : state.stage = .up := of_decide_eq_true checked
      exact isUp
  | clearHandlers =>
      simp only [careful, Bool.and_eq_true, decide_eq_true_eq] at checked
      exact checked
  | unregister obj =>
      simp only [careful, Bool.and_eq_true, decide_eq_true_eq] at checked
      obtain ⟨⟨⟨⟨up, noPost⟩, noElement⟩, noWalk⟩, noneHeld⟩ := checked
      refine ⟨up, ?_⟩
      rintro (⟨elm, member, _⟩ | ⟨elm, member, _⟩ | ⟨elm, member, _⟩ | ⟨cursor, member, _⟩)
      · rw [noPost] at member
        cases member
      · rw [noElement] at member
        cases member
      · have held := of_decide_eq_true (List.all_eq_true.mp noneHeld _ member)
        cases held
      · rw [noWalk] at member
        cases member
  | cancelled thread =>
      have isWaiting : state.threads[thread]? = some .waiting := of_decide_eq_true checked
      exact isWaiting
  | register handler => exact checked
  | post obj msg wparam lparam => exact checked
  | enqueue index => exact checked
  | send obj => exact checked
  | broadcast => exact checked
  | _ => exact trivial

def initialized : List Label := [.initQueue, .createThread true, .initHandlers]

/-- Two messages, one of which is dispatched before the end of the queue. -/
theorem delivered_twoMessages : ∃ state : State, state.Delivered ∧
    state.dispatched.map (fun entry => entry.1.id) = [0] ∧ state.freed = [0, 1] := by
  let ran := messages.guardedRun careful start (initialized ++
    [Label.register 7, .post 0 1 2 3, .enqueue 0, .look 0, .get 0, .post 0 4 5 6, .dispatch 0,
      .enqueue 0, .deinit, .finish 0, .look 0, .join, .clearQueue, .clearHandlers])
  have ends : ran.map (fun state =>
      (state.dispatched.map (fun entry => entry.1.id), state.freed)) =
      some ([0], [0, 1]) := by decide
  obtain ⟨state, reached, isEnd⟩ := Option.map_eq_some_iff.mp ends
  obtain ⟨dispatched, freed⟩ := Prod.mk.inj isEnd
  exact ⟨state, delivered ⟨start, rfl, System.reaches_of_guardedRun careful_Careful _ reached⟩,
    dispatched, freed⟩

/-- A handler is unregistered while a message for it is in the queue. -/
theorem dispatched_gone : ∃ state, messages.Reachable System.anyStep state ∧
    ¬ state.Delivered := by
  let ran := messages.run start (initialized ++
    [Label.register 7, .post 0 1 2 3, .enqueue 0, .unregister 0, .look 0, .get 0, .dispatch 0])
  have ends : ran.map State.usedGone = some true := by decide
  obtain ⟨state, reached, used⟩ := Option.map_eq_some_iff.mp ends
  refine ⟨state, System.reachable_of_run rfl reached, fun delivered => ?_⟩
  rw [delivered.noneGone] at used
  cases used

end Rkipc.Lvgl
