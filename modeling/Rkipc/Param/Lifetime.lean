import Rkipc.Param.Memory
import Rkipc.Param.SaveReload
import Rkipc.Transition.Lock

namespace Rkipc.Param

open Ini Transition

/-! Connections that read, write and drop configuration strings at the same time.  The
mutex covers the lookup of a getter and the writes of the setters, but neither the use of
the string nor what `rk_system_add_user`, `rk_system_del_user` and `rk_param_save` do. -/

/-- What a getter returns: NULL, a default in the program, or a string of the
dictionary; `wild` comes out of a dictionary that was freed. -/
inductive Pointer
  | null
  | literal (text : Text)
  | heap (address : Nat)
  | wild
deriving DecidableEq

/-- The variables of a handler that sends a string; `found` is what the entry had when
it was looked up. -/
structure Getter where
  value : Pointer
  found : Option Text
  measured : Bool
  len : Nat
  sent : Text
deriving DecidableEq

def Getter.start : Getter := ⟨.null, none, false, 0, []⟩

/-- `write` and `replace` take two steps: what is there is freed, and then the new value
or dictionary comes. -/
inductive Act
  | lookup (key : Text) (default : Option Text)
  | write (key : Text) (val : Option (Option Text))
  | replace (loaded : Option Dictionary)
deriving DecidableEq

inductive Segment
  | locked (acts : List Act)
  | act (act : Act)
  | reply
deriving DecidableEq

/-- `inside` is what is left to do under the mutex, `half` is set behind the first step of
an act. -/
structure Point where
  inside : Option (List Act)
  rest : List Segment
  half : Bool
  getter : Getter
deriving DecidableEq

/-- The requests, with what they read from files or from the number of users. -/
inductive Request
  | getString (entry : Text) (default : Option Text)
  | setString (entry : Text) (val : Option Text)
  | addUser (id userLevel : Int) (userName password userNum : Text) (opened : Bool)
  | delUser (id : Int) (userNum : Text) (opened : Bool)
  | save (opened : Bool)
  | reload (loaded : Option Dictionary)
deriving DecidableEq

def iniSet (entry : Text) (val : Option Text) : Act := .write (strlwc entry 1025) (some val)

def iniUnset (entry : Text) : Act := .write (strlwc entry 1025) none

/-- A save that cannot open the file drops the dictionary. -/
def saveSegments (opened : Bool) : List Segment :=
  if opened then [] else [.act (.replace none)]

def Request.segments : Request → List Segment
  | .getString entry default =>
      [.locked [.lookup (strlwc entry 1025) default], .reply]
  | .setString entry val => [.locked [iniSet entry val]]
  | .addUser id userLevel userName password userNum opened =>
      [.act (iniSet (userEntry id []) none),
        .act (iniSet (userEntry id ":user_level".toList)
          (some ((decimal userLevel).take 1))),
        .act (iniSet (userEntry id ":user_name".toList) (some userName)),
        .act (iniSet (userEntry id ":password".toList) (some password)),
        .locked [], .locked [iniSet userNumEntry (some userNum)]] ++ saveSegments opened
  | .delUser id userNum opened =>
      [.act (iniUnset (userEntry id [])), .locked [],
        .locked [iniSet userNumEntry (some userNum)]] ++ saveSegments opened
  | .save opened => saveSegments opened
  | .reload loaded => [.locked [.replace loaded]]

/-- A new request, the byte that is found in memory that was freed (`none` is the end of a
string), or the end of the connection. -/
inductive Choice
  | request (request : Request)
  | byte (junk : Option Char)
  | closed
deriving DecidableEq

/-- `delivered` has what an entry had when it was looked up, and what was sent. -/
structure Shared where
  memory : Memory
  delivered : List (Option Text × Text)
deriving DecidableEq

def Memory.read (memory : Memory) (value : Pointer) (offset : Nat) (junk : Option Char) :
    Option Char :=
  match value with
  | .literal text => text[offset]?
  | .heap address =>
      match memory.string address with
      | some text => text[offset]?
      | none => junk
  | .null | .wild => junk

def Memory.getstring (memory : Memory) (key : Text) (default : Option Text) :
    Pointer × Option Text :=
  match memory.gIniD, memory.slot key with
  | .freed, _ => (.wild, none)
  | _, none => ((default.map Pointer.literal).getD .null, default)
  | _, some none => (.null, none)
  | _, some (some address) => (.heap address, memory.string address)

namespace Point

def start : Point := ⟨none, [], false, .start⟩

def next (point : Point) : Option Act :=
  match point.inside, point.rest with
  | some acts, _ => acts.head?
  | none, .act act :: _ => some act
  | none, _ => none

def advance (point : Point) : Point :=
  match point.inside with
  | some acts => { point with inside := some acts.tail, half := false }
  | none => { point with rest := point.rest.tail, half := false }

end Point

/-- `strlen`, and then `sock_write` of so many bytes, one byte in a step. -/
def reply (shared : Shared) (point : Point) (junk : Option Char) : Shared × Point :=
  let getter := point.getter
  if getter.measured = false then
    match shared.memory.read getter.value getter.len junk with
    | none => (shared, { point with getter := { getter with measured := true } })
    | some _ => (shared, { point with getter := { getter with len := getter.len + 1 } })
  else if getter.sent.length < getter.len then
    let byte := shared.memory.read getter.value getter.sent.length junk
    (shared, { point with
      getter := { getter with sent := getter.sent ++ [byte.getD (Char.ofNat 0)] } })
  else
    ({ shared with delivered := (getter.found, getter.sent) :: shared.delivered },
      point.advance)

def perform (point : Point) (shared : Shared) : Act → Shared × Point
  | .lookup key default =>
      let (value, found) := shared.memory.getstring key default
      (shared, { point with getter := ⟨value, found, false, 0, []⟩ }.advance)
  | .write key val =>
      if point.half then
        ({ shared with memory := shared.memory.assign key val }, point.advance)
      else ({ shared with memory := shared.memory.release key },
        { point with half := true })
  | .replace loaded =>
      if point.half then
        ({ shared with memory := shared.memory.load loaded }, point.advance)
      else ({ shared with memory := shared.memory.freedict },
        { point with half := true })

/-- What a connection does at a point; an idle connection takes a request. -/
def Point.code (point : Point) : Instruction Shared Point Choice :=
  match point.inside, point.rest with
  | some [], _ => .unlock { point with inside := none, half := false }
  | some (act :: _), _ => .act fun shared _ => some (perform point shared act)
  | none, .locked acts :: rest => .lock ⟨some acts, rest, false, point.getter⟩
  | none, .act act :: _ => .act fun shared _ => some (perform point shared act)
  -- `strlen` of NULL ends the process
  | none, .reply :: _ => .act fun shared choice =>
      match choice with
      | .request _ => none
      | .closed => some (shared, { point with rest := [], half := false })
      | .byte junk =>
          if point.getter.value = .null then none
          else some (reply shared point junk)
  | none, [] => .act fun shared choice =>
      match choice with
      | .request request => some (shared, ⟨none, request.segments, false, .start⟩)
      | .byte _ | .closed => none

section Holds

variable {point after : Point} {shared later : Shared} {choice : Choice} {act : Act}

theorem Point.advance_inside : point.advance.inside.isSome = point.inside.isSome := by
  unfold advance
  cases point.inside <;> rfl

theorem reply_inside (junk : Option Char) :
    (reply shared point junk).2.inside.isSome = point.inside.isSome := by
  unfold reply
  dsimp only
  split
  · split <;> rfl
  · split
    · rfl
    · exact Point.advance_inside

theorem perform_inside (act : Act) :
    (perform point shared act).2.inside.isSome = point.inside.isSome := by
  unfold perform
  cases act with
  | lookup key default => exact Point.advance_inside
  | write key val =>
      dsimp only
      split
      · exact Point.advance_inside
      · rfl
  | replace loaded =>
      dsimp only
      split
      · exact Point.advance_inside
      · rfl

theorem Point.code_lock {next : Point} (code : point.code = .lock next) :
    point.inside = none ∧ ∃ acts rest, point.rest = .locked acts :: rest ∧
      next = ⟨some acts, rest, false, point.getter⟩ := by
  unfold Point.code at code
  split at code <;> cases code
  next inside rest => exact ⟨inside, _, _, rest, rfl⟩

theorem Point.code_unlock {next : Point} (code : point.code = .unlock next) :
    point.inside = some [] ∧ next = { point with inside := none, half := false } := by
  unfold Point.code at code
  split at code <;> cases code
  next inside => exact ⟨inside, rfl⟩

/-- A step beside the mutex takes a request, performs the next act or goes on with an
answer. -/
inductive Point.Goes (point : Point) (shared : Shared) : Shared → Point → Prop
  | request (inside : point.inside = none) (none : point.next = none)
      (request : Request) :
      Goes point shared shared ⟨.none, request.segments, false, .start⟩
  | perform {act : Act} {later : Shared} {after : Point}
      (isNext : point.next = some act)
      (performed : perform point shared act = (later, after)) :
      Goes point shared later after
  | closed (inside : point.inside = none) (none : point.next = none) :
      Goes point shared shared { point with rest := [], half := false }
  | reply (inside : point.inside = none) (none : point.next = none)
      {later : Shared} {after : Point} (replies : .reply ∈ point.rest)
      (given : point.getter.value ≠ .null) (junk : Option Char)
      (replied : reply shared point junk = (later, after)) :
      Goes point shared later after

theorem Point.goes_of_code {effect : Shared → Choice → Option (Shared × Point)}
    (code : point.code = .act effect)
    (effected : effect shared choice = some (later, after)) :
    point.Goes shared later after := by
  unfold Point.code at code
  split at code <;> cases code
  next act acts inside =>
    exact .perform (by rw [Point.next, inside]; rfl) (Option.some.inj effected)
  next act rest inside isRest =>
    exact .perform (by rw [Point.next, inside, isRest]) (Option.some.inj effected)
  next rest inside isRest =>
    have none : point.next = none := by rw [Point.next, inside, isRest]
    cases choice with
    | request request => cases effected
    | closed =>
        cases effected
        exact .closed inside none
    | byte junk =>
        dsimp only at effected
        by_cases given : point.getter.value = .null
        · rw [if_pos given] at effected
          cases effected
        · rw [if_neg given] at effected
          exact .reply inside none (isRest ▸ List.mem_cons_self ..) given junk
            (Option.some.inj effected)
  next inside isRest =>
    cases choice with
    | request request =>
        cases effected
        exact .request inside (by rw [Point.next, inside, isRest]) request
    | byte junk => cases effected
    | closed => cases effected

theorem Point.Goes.inside (goes : point.Goes shared later after) :
    after.inside.isSome = point.inside.isSome := by
  cases goes with
  | request inside _ request => rw [inside]
  | perform isNext performed =>
      have isAfter : (Param.perform point shared _).2 = after :=
        congrArg Prod.snd performed
      exact isAfter ▸ perform_inside _
  | closed inside _ => rfl
  | reply inside _ replies given junk replied =>
      have isAfter : (Param.reply shared point junk).2 = after :=
        congrArg Prod.snd replied
      exact isAfter ▸ reply_inside junk

end Holds

/-- Any number of connections on a configuration that was loaded. -/
def connections (τ : Type) : Program τ Shared Point Choice where
  initial shared := shared.memory.Sane ∧ shared.delivered = []
  entry _ := .start
  code _ := Point.code
  holds point := point.inside.isSome
  entry_holds _ := rfl
  lock_holds code := by
    obtain ⟨inside, _, _, _, rfl⟩ := Point.code_lock code
    exact ⟨by rw [inside]; rfl, rfl⟩
  unlock_holds code := by
    obtain ⟨inside, rfl⟩ := Point.code_unlock code
    exact ⟨by rw [inside]; rfl, rfl⟩
  act_holds code effected := (Point.goes_of_code code effected).inside

/-- A handler that still reads the string at the address. -/
def Point.Uses (point : Point) (address : Nat) : Prop :=
  point.getter.value = .heap address ∧ .reply ∈ point.rest

/-- Between the two steps of a write. -/
def Point.Writing (point : Point) : Prop := point.half = true

/-- The first step of an act that looks at the dictionary or changes it. -/
def Point.Begins (point : Point) : Prop :=
  point.half = false ∧ point.next ≠ none

/-- The addresses that the next step frees. -/
def Point.Frees (point : Point) (memory : Memory) (address : Nat) : Prop :=
  point.half = false ∧
    ((∃ key val, point.next = some (.write key val) ∧
        memory.slot key = some (some address)) ∨
      ∃ loaded key, point.next = some (.replace loaded) ∧
        (key, some address) ∈ memory.entries)

variable {τ : Type}

/-- A string that a handler still reads is what it was at the lookup, and what was sent is
what the entry had then. -/
structure Alive (config : Config τ Shared Point) : Prop where
  used : ∀ thread, .reply ∈ (config.control thread).rest →
    (config.control thread).getter.value ≠ .wild ∧
    ∀ address, (config.control thread).getter.value = .heap address →
      config.shared.memory.string address ≠ none ∧
      config.shared.memory.string address = (config.control thread).getter.found
  delivered : ∀ found sent, (found, sent) ∈ config.shared.delivered → found = some sent

/-- Nothing is freed that another handler still reads, and a write without the mutex does
not meet a lookup or another write. -/
structure Undisturbed (config : Config τ Shared Point) (label : τ × Choice) : Prop where
  unused : ∀ address, (config.control label.1).Frees config.shared.memory address →
    ∀ other, ¬ (config.control other).Uses address
  alone : (config.control label.1).Begins → ∀ other, other ≠ label.1 →
    (config.control other).Writing →
    (config.control label.1).inside.isSome = true ∧
      (config.control other).inside.isSome = true

def Memory.Reads (memory : Memory) (value : Pointer) (text : Text) : Prop :=
  match value with
  | .literal literal => literal = text
  | .heap address => memory.string address = some text
  | .null | .wild => False

/-- How far a handler is with its string. -/
inductive Fine (memory : Memory) : Getter → Prop
  | null {found : Option Text} {len : Nat} {sent : Text} :
      Fine memory ⟨.null, found, false, len, sent⟩
  | measuring {value : Pointer} {text : Text} {len : Nat}
      (reads : memory.Reads value text) (within : len ≤ text.length) :
      Fine memory ⟨value, some text, false, len, []⟩
  | sending {value : Pointer} {text : Text} {count : Nat}
      (reads : memory.Reads value text) (within : count ≤ text.length) :
      Fine memory ⟨value, some text, true, text.length, text.take count⟩

section Fine

variable {memory later : Memory} {getter : Getter}

theorem Memory.Reads.mono {value : Pointer} {text : Text}
    (reads : memory.Reads value text)
    (keeps : ∀ address text, value = .heap address →
      memory.string address = some text → later.string address = some text) :
    later.Reads value text := by
  cases value with
  | null => exact reads
  | literal literal => exact reads
  | heap address => exact keeps address text rfl reads
  | wild => exact reads

theorem Fine.mono (fine : Fine memory getter)
    (keeps : ∀ address text, getter.value = .heap address →
      memory.string address = some text → later.string address = some text) :
    Fine later getter := by
  cases fine with
  | null => exact .null
  | measuring reads within => exact .measuring (reads.mono keeps) within
  | sending reads within => exact .sending (reads.mono keeps) within

theorem read_of_reads {value : Pointer} {text : Text} (reads : memory.Reads value text)
    (offset : Nat) (junk : Option Char) : memory.read value offset junk = text[offset]? := by
  cases value with
  | null => exact reads.elim
  | literal literal =>
      cases reads
      rfl
  | heap address =>
      unfold Memory.read
      have reads : memory.string address = some text := reads
      simp only [reads]
  | wild => exact reads.elim

/-- A step of the answer is right as long as the string is there. -/
theorem reply_fine {shared : Shared} {point : Point}
    (fine : Fine shared.memory point.getter) (given : point.getter.value ≠ .null)
    (junk : Option Char) :
    (∃ getter, reply shared point junk = (shared, { point with getter := getter }) ∧
      Fine shared.memory getter) ∨
    ∃ text, reply shared point junk =
      ({ shared with delivered := (some text, text) :: shared.delivered },
        point.advance) := by
  obtain ⟨inside, rest, half, getter⟩ := point
  unfold reply
  dsimp only at fine given ⊢
  cases fine with
  | null => exact absurd rfl given
  | measuring reads within =>
      rename_i value text len
      dsimp only
      rw [if_pos rfl, read_of_reads reads]
      cases found : text[len]? with
      | none =>
          have ended := List.getElem?_eq_none_iff.mp found
          obtain rfl : len = text.length := Nat.le_antisymm within ended
          exact .inl ⟨_, rfl, Fine.sending reads (Nat.zero_le text.length)⟩
      | some char =>
          obtain ⟨bound, _⟩ := List.getElem?_eq_some_iff.mp found
          exact .inl ⟨_, rfl, .measuring reads bound⟩
  | sending reads within =>
      rename_i value text count
      dsimp only
      rw [if_neg (by decide), List.length_take_of_le within]
      by_cases more : count < text.length
      · rw [if_pos more, read_of_reads reads, List.getElem?_eq_getElem more]
        refine .inl ⟨_, rfl, ?_⟩
        have taken : text.take count ++ [text[count]] = text.take (count + 1) :=
          List.take_append_getElem more
        show Fine _ ⟨value, some text, true, text.length, text.take count ++ [text[count]]⟩
        rw [taken]
        exact .sending reads more
      · rw [if_neg more]
        have all : text.take count = text := List.take_of_length_le (by omega)
        rw [all]
        exact .inr ⟨text, rfl⟩

end Fine

/-- What every reachable state has: one connection writes at a time, and only its entry is
without a string. -/
structure Intact (config : Config τ Shared Point) : Prop where
  halves : ∀ thread, (config.control thread).Writing →
    (∃ key val, (config.control thread).next = some (.write key val)) ∨
      ∃ loaded, (config.control thread).next = some (.replace loaded)
  one : ∀ thread other, (config.control thread).Writing →
    (config.control other).Writing → thread = other
  valued : ∀ key address, (key, some address) ∈ config.shared.memory.entries →
    config.shared.memory.string address ≠ none ∨
      ∃ thread val, (config.control thread).Writing ∧
        (config.control thread).next = some (.write key val)
  distinct : ∀ key other address, (key, some address) ∈ config.shared.memory.entries →
    (other, some address) ∈ config.shared.memory.entries → key = other
  unfreed : config.shared.memory.gIniD = .freed →
    ∃ thread loaded, (config.control thread).Writing ∧
      (config.control thread).next = some (.replace loaded)
  fine : ∀ thread, .reply ∈ (config.control thread).rest →
    Fine config.shared.memory (config.control thread).getter
  delivered : ∀ found sent, (found, sent) ∈ config.shared.delivered → found = some sent

/-- What a step of a write has to give. -/
structure Solo (config : Config τ Shared Point) (thread : τ) (memory : Memory)
    (next : Point) : Prop where
  halves : next.Writing → (∃ key val, next.next = some (.write key val)) ∨
    ∃ loaded, next.next = some (.replace loaded)
  valued : ∀ key address, (key, some address) ∈ memory.entries →
    memory.string address ≠ none ∨ next.Writing ∧ ∃ val, next.next = some (.write key val)
  distinct : ∀ key other address, (key, some address) ∈ memory.entries →
    (other, some address) ∈ memory.entries → key = other
  unfreed : memory.gIniD = .freed →
    next.Writing ∧ ∃ loaded, next.next = some (.replace loaded)
  keeps : ∀ other address text, (config.control other).Uses address →
    config.shared.memory.string address = some text → memory.string address = some text
  getter : next.getter = (config.control thread).getter
  rest : .reply ∈ next.rest → .reply ∈ (config.control thread).rest

section Write

variable {config : Config τ Shared Point} {thread : τ} {key : Text}
  {val : Option (Option Text)} {loaded : Option Dictionary}

theorem Point.advance_rest {point : Point} {segment : Segment}
    (member : segment ∈ point.advance.rest) : segment ∈ point.rest := by
  unfold Point.advance at member
  split at member
  · exact member
  · exact List.mem_of_mem_tail member

theorem Point.advance_getter (point : Point) : point.advance.getter = point.getter := by
  unfold Point.advance
  split <;> rfl

theorem Point.advance_half (point : Point) : ¬ point.advance.Writing := by
  unfold Point.Writing Point.advance
  split <;> nofun

theorem Intact.sane (intact : Intact config)
    (free : ∀ other, ¬ (config.control other).Writing) : config.shared.memory.Sane where
  valued key address isEntry :=
    (intact.valued key address isEntry).resolve_right fun ⟨other, _, writing, _⟩ =>
      free other writing
  distinct := intact.distinct
  unfreed freed :=
    have ⟨other, _, writing, _⟩ := intact.unfreed freed
    free other writing

theorem solo_release (sane : config.shared.memory.Sane)
    (isNext : (config.control thread).next = some (.write key val))
    (half : (config.control thread).half = false)
    (unused : ∀ address, (config.control thread).Frees config.shared.memory address →
      ∀ other, ¬ (config.control other).Uses address) :
    Solo config thread (config.shared.memory.release key)
      { config.control thread with half := true } where
  halves _ := .inl ⟨key, val, isNext⟩
  valued other address isEntry := by
    by_cases same : config.shared.memory.slot key = some (some address)
    · obtain rfl := sane.distinct other key address isEntry (Memory.mem_of_slot same)
      exact .inr ⟨rfl, val, isNext⟩
    · obtain ⟨text, isString⟩ :=
        Option.ne_none_iff_exists'.mp (sane.valued other address isEntry)
      exact .inl (by rw [Memory.string_release isString same]; nofun)
  distinct := sane.distinct
  unfreed freed := absurd freed sane.unfreed
  keeps other address text uses isString := by
    refine Memory.string_release isString fun same => ?_
    exact unused address ⟨half, .inl ⟨key, val, isNext, same⟩⟩ other uses
  getter := rfl
  rest member := member

theorem solo_freedict
    (isNext : (config.control thread).next = some (.replace loaded))
    (half : (config.control thread).half = false)
    (unused : ∀ address, (config.control thread).Frees config.shared.memory address →
      ∀ other, ¬ (config.control other).Uses address) :
    Solo config thread config.shared.memory.freedict
      { config.control thread with half := true } where
  halves _ := .inr ⟨loaded, isNext⟩
  valued other address isEntry := by
    rw [Memory.freedict_entries] at isEntry
    cases isEntry
  distinct other another address isEntry := by
    rw [Memory.freedict_entries] at isEntry
    cases isEntry
  unfreed _ := ⟨rfl, loaded, isNext⟩
  keeps other address text uses isString := by
    refine Memory.string_freedict isString fun key isEntry => ?_
    exact unused address ⟨half, .inr ⟨loaded, key, isNext, isEntry⟩⟩ other uses
  getter := rfl
  rest member := member

theorem solo_assign (intact : Intact config)
    (writing : (config.control thread).Writing)
    (isNext : (config.control thread).next = some (.write key val)) :
    Solo config thread (config.shared.memory.assign key val)
      (config.control thread).advance := by
  have valued : ∀ other address, other ≠ key →
      (other, some address) ∈ config.shared.memory.entries →
      config.shared.memory.string address ≠ none := by
    intro other address isOther isEntry
    refine (intact.valued other address isEntry).resolve_right ?_
    rintro ⟨writer, otherVal, otherWriting, otherNext⟩
    obtain rfl := intact.one writer thread otherWriting writing
    rw [isNext] at otherNext
    cases otherNext
    exact isOther rfl
  constructor
  case halves => exact fun writing => absurd writing (Point.advance_half _)
  case valued =>
    intro other address isEntry
    obtain ⟨_, _, isString⟩ | ⟨isOther, isEntry⟩ := Memory.mem_assign isEntry
    · exact .inl isString
    · obtain ⟨text, isString⟩ :=
        Option.ne_none_iff_exists'.mp (valued other address isOther isEntry)
      exact .inl (by rw [Memory.string_assign isString]; nofun)
  case distinct =>
    intro one other address isOne isOther
    obtain ⟨rfl, atEnd, _⟩ | ⟨oneOther, _⟩ := Memory.mem_assign isOne
    · obtain ⟨rfl, _, _⟩ | ⟨otherOther, oldOther⟩ := Memory.mem_assign isOther
      · rfl
      · have bound := Memory.lt_of_string (valued other address otherOther oldOther)
        omega
    · rename_i oldOne
      obtain ⟨rfl, atEnd, _⟩ | ⟨_, oldOther⟩ := Memory.mem_assign isOther
      · have bound := Memory.lt_of_string (valued one address oneOther oldOne)
        omega
      · exact intact.distinct one other address oldOne oldOther
  case unfreed =>
    intro freed
    obtain ⟨writer, loaded, otherWriting, otherNext⟩ :=
      intact.unfreed (Memory.assign_freed freed)
    obtain rfl := intact.one writer thread otherWriting writing
    rw [isNext] at otherNext
    cases otherNext
  case keeps => exact fun _ _ _ _ isString => Memory.string_assign isString val
  case getter => exact Point.advance_getter _
  case rest => exact Point.advance_rest

theorem solo_load :
    Solo config thread (config.shared.memory.load loaded)
      (config.control thread).advance where
  halves writing := absurd writing (Point.advance_half _)
  valued key address isEntry := .inl (Memory.sane_load loaded |>.valued key address isEntry)
  distinct := (Memory.sane_load loaded).distinct
  unfreed freed := absurd freed (Memory.sane_load loaded).unfreed
  keeps _ _ _ _ isString := Memory.string_load isString loaded
  getter := Point.advance_getter _
  rest := Point.advance_rest

theorem Intact.unwritten (intact : Intact config)
    (none : (config.control thread).next = none) : ¬ (config.control thread).Writing := by
  intro writing
  obtain ⟨_, _, isWrite⟩ | ⟨_, isReplace⟩ := intact.halves thread writing
  · rw [none] at isWrite
    cases isWrite
  · rw [none] at isReplace
    cases isReplace

theorem fine_lookup {memory : Memory} (sane : memory.Sane) (key : Text)
    (default : Option Text) :
    Fine memory ⟨(memory.getstring key default).1, (memory.getstring key default).2,
      false, 0, []⟩ := by
  unfold Memory.getstring
  split
  next freed => exact absurd freed sane.unfreed
  · cases default with
    | none => exact .null
    | some text => exact .measuring rfl (Nat.zero_le _)
  · exact .null
  next address found _ =>
    have valued := sane.valued key address (Memory.mem_of_slot found)
    obtain ⟨text, isString⟩ := Option.ne_none_iff_exists'.mp valued
    rw [isString]
    exact .measuring isString (Nat.zero_le _)

/-- The mutex and the guard keep a lookup or a write away from other writes. -/
theorem Intact.alone {label : τ × Choice} (exclusive : (connections τ).OwnerHolds config)
    (undisturbed : Undisturbed config label)
    (begins : (config.control label.1).Begins) :
    ∀ other, other ≠ label.1 → ¬ (config.control other).Writing := by
  intro other isOther writing
  obtain ⟨inside, otherInside⟩ := undisturbed.alone begins other isOther writing
  have owner := (exclusive label.1).mp inside
  rw [(exclusive other).mp otherInside] at owner
  cases owner
  exact isOther rfl

end Write

section Steps

variable [DecidableEq τ] {config : Config τ Shared Point} {thread : τ}
  {shared : Shared} {next : Point}

/-- A thread goes to a point, and the owner of the mutex may change. -/
def Moved (config : Config τ Shared Point) (thread : τ) (owner : Option τ)
    (shared : Shared) (next : Point) : Config τ Shared Point where
  shared := shared
  owner := owner
  control := Function.update config.control thread next

/-- A step that leaves the memory as it is and is no part of a write. -/
theorem Intact.quiet (intact : Intact config) {owner : Option τ}
    (same : shared.memory = config.shared.memory)
    (before : ¬ (config.control thread).Writing) (after : ¬ next.Writing)
    (fine : .reply ∈ next.rest → Fine config.shared.memory next.getter)
    (delivered : ∀ found sent, (found, sent) ∈ shared.delivered → found = some sent) :
    Intact (Moved config thread owner shared next) := by
  have writes : ∀ other, (Function.update config.control thread next other).Writing ↔
      (config.control other).Writing := by
    intro other
    by_cases isThread : other = thread
    · obtain rfl := isThread
      rw [Function.update_self]
      exact iff_of_false after before
    · rw [Function.update_of_ne isThread]
  have others : ∀ other, (config.control other).Writing →
      Function.update config.control thread next other = config.control other := by
    intro other writing
    refine Function.update_of_ne ?_ _ _
    rintro rfl
    exact before writing
  constructor
  case halves =>
    intro other writing
    have writing := (writes other).mp writing
    show (∃ key val, (Function.update config.control thread next other).next = _) ∨ _
    simp only [Moved, others other writing]
    exact intact.halves other writing
  case one =>
    intro one other oneWriting otherWriting
    exact intact.one one other ((writes one).mp oneWriting) ((writes other).mp otherWriting)
  case valued =>
    intro key address isEntry
    simp only [Moved, same] at isEntry ⊢
    refine (intact.valued key address isEntry).imp_right ?_
    rintro ⟨other, val, writing, isNext⟩
    exact ⟨other, val, (writes other).mpr writing, by rw [others other writing, isNext]⟩
  case distinct =>
    simp only [Moved, same]
    exact intact.distinct
  case unfreed =>
    intro freed
    simp only [Moved, same] at freed ⊢
    obtain ⟨other, loaded, writing, isNext⟩ := intact.unfreed freed
    exact ⟨other, loaded, (writes other).mpr writing, by rw [others other writing, isNext]⟩
  case fine =>
    intro other replies
    simp only [Moved, same] at replies ⊢
    by_cases isThread : other = thread
    · obtain rfl := isThread
      rw [Function.update_self] at replies ⊢
      exact fine replies
    · rw [Function.update_of_ne isThread] at replies ⊢
      exact intact.fine other replies
  case delivered => exact delivered

theorem Intact.solo (intact : Intact config) {memory : Memory}
    (alone : ∀ other, other ≠ thread → ¬ (config.control other).Writing)
    (solo : Solo config thread memory next) :
    Intact (Moved config thread config.owner { config.shared with memory := memory }
      next) := by
  have only : ∀ other, (Function.update config.control thread next other).Writing →
      other = thread := by
    intro other writing
    by_contra isOther
    rw [Function.update_of_ne isOther] at writing
    exact alone other isOther writing
  have self : Function.update config.control thread next thread = next :=
    Function.update_self ..
  constructor
  case halves =>
    intro other writing
    obtain rfl := only other writing
    simp only [Moved, self] at writing ⊢
    exact solo.halves writing
  case one =>
    intro one other oneWriting otherWriting
    exact (only one oneWriting).trans (only other otherWriting).symm
  case valued =>
    intro key address isEntry
    refine (solo.valued key address isEntry).imp_right ?_
    rintro ⟨writing, val, isNext⟩
    exact ⟨thread, val, by simpa only [Moved, self] using writing,
      by simpa only [Moved, self] using isNext⟩
  case distinct => exact solo.distinct
  case unfreed =>
    intro freed
    obtain ⟨writing, loaded, isNext⟩ := solo.unfreed freed
    exact ⟨thread, loaded, by simpa only [Moved, self] using writing,
      by simpa only [Moved, self] using isNext⟩
  case fine =>
    intro other replies
    have kept : ∀ reader, .reply ∈ (config.control reader).rest →
        Fine memory (config.control reader).getter := fun reader replies =>
      (intact.fine reader replies).mono fun address text isHeap isString =>
        solo.keeps reader address text ⟨isHeap, replies⟩ isString
    simp only [Moved] at replies ⊢
    by_cases isThread : other = thread
    · obtain rfl := isThread
      rw [self] at replies ⊢
      rw [solo.getter]
      exact kept other (solo.rest replies)
    · rw [Function.update_of_ne isThread] at replies ⊢
      exact kept other replies
  case delivered => exact intact.delivered

theorem Intact.perform (intact : Intact config)
    (exclusive : (connections τ).OwnerHolds config) {choice : Choice}
    (undisturbed : Undisturbed config (thread, choice)) {act : Act}
    (isNext : (config.control thread).next = some act)
    (performed : perform (config.control thread) config.shared act = (shared, next)) :
    Intact (Moved config thread config.owner shared next) := by
  have free : ¬ (config.control thread).Writing →
      ∀ other, ¬ (config.control other).Writing := by
    intro notWriting other
    by_cases isThread : other = thread
    · exact isThread ▸ notWriting
    · exact Intact.alone exclusive undisturbed
        ⟨Bool.eq_false_iff.mpr notWriting, by rw [isNext]; nofun⟩ other isThread
  have others : (config.control thread).Writing →
      ∀ other, other ≠ thread → ¬ (config.control other).Writing :=
    fun half other isOther writing => isOther (intact.one other thread writing half)
  unfold Param.perform at performed
  cases act with
  | lookup key default =>
      cases performed
      have notWriting : ¬ (config.control thread).Writing := by
        intro writing
        obtain ⟨_, _, isWrite⟩ | ⟨_, isReplace⟩ := intact.halves thread writing
        · rw [isNext] at isWrite
          cases isWrite
        · rw [isNext] at isReplace
          cases isReplace
      refine intact.quiet rfl notWriting (Point.advance_half _) (fun _ => ?_)
        intact.delivered
      rw [Point.advance_getter]
      exact fine_lookup (intact.sane (free notWriting)) key default
  | write key val =>
      dsimp only at performed
      by_cases half : (config.control thread).half = true
      · rw [if_pos half] at performed
        cases performed
        exact intact.solo (others half) (solo_assign intact half isNext)
      · rw [if_neg half] at performed
        cases performed
        exact intact.solo (fun other _ => free half other)
          (solo_release (intact.sane (free half)) isNext (Bool.eq_false_iff.mpr half)
            undisturbed.unused)
  | replace loaded =>
      dsimp only at performed
      by_cases half : (config.control thread).half = true
      · rw [if_pos half] at performed
        cases performed
        exact intact.solo (others half) solo_load
      · rw [if_neg half] at performed
        cases performed
        exact intact.solo (fun other _ => free half other)
          (solo_freedict isNext (Bool.eq_false_iff.mpr half) undisturbed.unused)

theorem Intact.reply (intact : Intact config)
    (none : (config.control thread).next = none)
    (replies : .reply ∈ (config.control thread).rest)
    (given : (config.control thread).getter.value ≠ .null) (junk : Option Char)
    (replied : reply config.shared (config.control thread) junk = (shared, next)) :
    Intact (Moved config thread config.owner shared next) := by
  have notWriting := intact.unwritten none
  obtain ⟨getter, isReply, fine⟩ | ⟨text, isReply⟩ :=
    reply_fine (intact.fine thread replies) given junk
  · rw [isReply] at replied
    cases replied
    exact intact.quiet rfl notWriting notWriting (fun _ => fine) intact.delivered
  · rw [isReply] at replied
    cases replied
    refine intact.quiet rfl notWriting (Point.advance_half _) (fun member => ?_) ?_
    · rw [Point.advance_getter]
      exact intact.fine thread (Point.advance_rest member)
    · intro found sent member
      obtain isNew | old := List.mem_cons.mp member
      · cases isNew
        rfl
      · exact intact.delivered found sent old

/-- The step lemma. -/
theorem Intact.step (intact : Intact config)
    (exclusive : (connections τ).OwnerHolds config) {choice : Choice}
    (undisturbed : Undisturbed config (thread, choice)) {after : Config τ Shared Point}
    (moves : (connections τ).Moves thread choice config after) : Intact after := by
  cases moves with
  | acquire code free =>
      obtain ⟨inside, acts, rest, isRest, rfl⟩ := Point.code_lock code
      have none : (config.control thread).next = none := by
        rw [Point.next, inside, isRest]
      refine intact.quiet rfl (intact.unwritten none) nofun (fun member => ?_)
        intact.delivered
      exact intact.fine thread (isRest ▸ List.mem_cons_of_mem _ member)
  | release code owned =>
      obtain ⟨inside, rfl⟩ := Point.code_unlock code
      have none : (config.control thread).next = none := by
        rw [Point.next, inside]
        rfl
      exact intact.quiet rfl (intact.unwritten none) nofun (intact.fine thread)
        intact.delivered
  | act code effected =>
      cases Point.goes_of_code code effected with
      | request inside none request =>
          exact intact.quiet rfl (intact.unwritten none) nofun (fun _ => .null)
            intact.delivered
      | perform isNext performed =>
          exact intact.perform exclusive undisturbed isNext performed
      | closed inside none =>
          exact intact.quiet rfl (intact.unwritten none) nofun (fun member => by cases member)
            intact.delivered
      | reply inside none replies given junk replied =>
          exact intact.reply none replies given junk replied

end Steps

/-- In every run that is not disturbed, the strings that handlers use are alive, and they
send what the entry had. -/
theorem alive_of_undisturbed [DecidableEq τ] {config : Config τ Shared Point}
    (reachable : (connections τ).system.Reachable Undisturbed config) : Alive config := by
  have intact : Intact config := by
    refine reachable.strengthen ?_ ?_
    · rintro _ ⟨shared, ⟨sane, none⟩, rfl⟩
      have idle : ∀ thread, ¬ (((connections τ).start shared).control thread).Writing :=
        fun _ => nofun
      refine ⟨fun thread writing => absurd writing (idle thread),
        fun thread _ writing => absurd writing (idle thread), fun key address isEntry =>
        .inl (sane.valued key address isEntry), sane.distinct,
        fun freed => absurd freed sane.unfreed, fun _ member => (by cases member), ?_⟩
      intro found sent member
      have member : (found, sent) ∈ shared.delivered := member
      rw [none] at member
      cases member
    · rintro before ⟨thread, choice⟩ after reachable intact undisturbed stepped
      exact intact.step (Program.ownerHolds_of_reachable reachable) undisturbed
        (Program.moves_of_step stepped)
  refine ⟨fun thread replies => ?_, intact.delivered⟩
  have fine := intact.fine thread replies
  generalize (config.control thread).getter = getter at fine
  cases fine with
  | null => exact ⟨nofun, nofun⟩
  | measuring reads within | sending reads within =>
      refine ⟨?_, ?_⟩
      · rintro rfl
        exact reads
      · rintro address rfl
        have isString : config.shared.memory.string address = some _ := reads
        exact ⟨by rw [isString]; nofun, isString⟩

section Runs

def passwordEntry : Text := "user.0:password".toList

def onePassword : Memory := ⟨[some "old".toList], .live [(passwordEntry, some 0)]⟩

theorem sane_onePassword : onePassword.Sane where
  valued key address isEntry := by
    obtain ⟨_, same⟩ := Prod.mk.inj (List.mem_singleton.mp isEntry)
    cases same
    nofun
  distinct key other address isEntry isOther := by
    obtain ⟨rfl, _⟩ := Prod.mk.inj (List.mem_singleton.mp isEntry)
    obtain ⟨rfl, _⟩ := Prod.mk.inj (List.mem_singleton.mp isOther)
    rfl
  unfreed := nofun

def calm (config : Config Bool Shared Point) (label : Bool × Choice) : Bool :=
  !(config.control !label.1).half &&
    match (config.control label.1).next with
    | none | some (.lookup _ _) => true
    | some (.write _ _) | some (.replace _) =>
        !(config.control true).rest.contains .reply &&
          !(config.control false).rest.contains .reply

theorem undisturbed_of_calm {config : Config Bool Shared Point} {label : Bool × Choice}
    (isCalm : calm config label = true) : Undisturbed config label := by
  obtain ⟨notWriting, isCalm⟩ := Bool.and_eq_true_iff.mp isCalm
  constructor
  · rintro address ⟨_, frees⟩ other ⟨_, replies⟩
    have none : ∀ other, .reply ∉ (config.control other).rest := by
      obtain ⟨key, val, isNext, _⟩ | ⟨loaded, key, isNext, _⟩ := frees
      all_goals
        rw [isNext] at isCalm
        rintro (_ | _) <;> simp_all
    exact none other replies
  · intro _ other isOther writing
    have isThat : other = !label.1 := by
      obtain ⟨thread, choice⟩ := label
      cases other <;> cases thread <;> simp_all
    rw [← isThat, show (config.control other).half = true from writing] at notWriting
    cases notWriting

/-- A password is set, and then it is sent. -/
theorem alive_of_undisturbed_password :
    ∃ config, (connections Bool).system.Reachable Undisturbed config ∧
      config.shared.delivered = [(some "n".toList, "n".toList)] ∧ Alive config := by
  let labels : List (Bool × Choice) :=
    [(true, Choice.request (.setString passwordEntry (some "n".toList)))] ++
      List.replicate 4 (true, Choice.closed) ++
      [(false, Choice.request (.getString passwordEntry none))] ++
      List.replicate 3 (false, Choice.closed) ++ List.replicate 4 (false, Choice.byte none)
  have ran : ((connections Bool).system.guardedRun calm
      ((connections Bool).start ⟨onePassword, []⟩) labels).map
        (fun config => config.shared.delivered) = some [(some "n".toList, "n".toList)] := by
    decide
  obtain ⟨config, ran, delivered⟩ := Option.map_eq_some_iff.mp ran
  have reachable : (connections Bool).system.Reachable Undisturbed config :=
    ⟨_, ⟨_, ⟨sane_onePassword, rfl⟩, rfl⟩,
      System.reaches_of_guardedRun (fun _ _ => undisturbed_of_calm) labels ran⟩
  exact ⟨config, reachable, delivered, alive_of_undisturbed reachable⟩

/-- The password is replaced between the lookup and the answer; what is sent was never
its value. -/
theorem freed_password_sent :
    ∃ config, (connections Bool).system.Reachable System.anyStep config ∧
      config.shared.delivered = [(some "old".toList, "x".toList)] ∧ ¬ Alive config := by
  let labels : List (Bool × Choice) :=
    [(false, Choice.request (.getString passwordEntry none))] ++
      List.replicate 3 (false, Choice.closed) ++
      [(true, Choice.request (.setString passwordEntry (some "new".toList)))] ++
      List.replicate 4 (true, Choice.closed) ++
      [(false, Choice.byte (some 'x')), (false, .byte none), (false, .byte (some 'x')),
        (false, .byte none)]
  have ran : ((connections Bool).system.run
      ((connections Bool).start ⟨onePassword, []⟩) labels).map
        (fun config => config.shared.delivered) = some [(some "old".toList, "x".toList)] := by
    decide
  obtain ⟨config, ran, delivered⟩ := Option.map_eq_some_iff.mp ran
  refine ⟨config, System.reachable_of_run ⟨_, ⟨sane_onePassword, rfl⟩, rfl⟩ ran,
    delivered, fun alive => ?_⟩
  have same := alive.delivered (some "old".toList) "x".toList (by
    rw [delivered]
    exact List.mem_singleton_self _)
  exact absurd same (by decide)

end Runs

end Rkipc.Param
