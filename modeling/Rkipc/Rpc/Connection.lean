import Rkipc.Rpc.RecThread

namespace Rkipc.Rpc

open Interaction

/-! The questions of a handler in a run. -/

section Steps

variable {σ α : Type} {world : (ask : Ask) → σ → Option (ask.Answer × σ)}
  {state after : σ}

theorem run_malloc {length : Word} {mapped : Bool} (nonneg : 0 ≤ length.toInt)
    (answered : world (.inside (.malloc length)) state = some (mapped, after))
    (next : Bool → Server α) :
    (malloc length next).run world state =
      ((next mapped).run world after).prepend
        ⟨.inside (.malloc length), mapped⟩ := by
  unfold malloc
  rw [Prog.run_answered _ answered, decide_eq_true nonneg, Bool.and_true]

end Steps

/-! A client that sends its bytes and closes its end when it has sent them
all. -/

structure Connection (σ : Type) where
  input : List UInt8
  state : σ

/-- The answers of the allocator, the memory and the modules behind the handlers,
and how the writes to the client end. -/
structure Environment (σ : Type) where
  inside : (question : Local) → σ → question.Answer × σ
  sent : List UInt8 → σ → Sent × σ

/-- A read into a buffer at NULL finds the end of the stream or fails with
`EFAULT`. -/
def Environment.world {σ : Type} (environment : Environment σ) :
    (ask : Ask) → Connection σ → Option (ask.Answer × Connection σ)
  | .recv count true, connection =>
      if count ≤ connection.input.length then
        some (.all (connection.input.take count),
          { connection with input := connection.input.drop count })
      else some (.closed, { connection with input := [] })
  | .recv _ false, connection =>
      if connection.input = [] then some (.closed, connection)
      else some (.failed [], connection)
  | .send bytes, connection =>
      let (sent, after) := environment.sent bytes connection.state
      some (sent, { connection with state := after })
  | .crash, _ => none
  | .inside question, connection =>
      let (answer, after) := environment.inside question connection.state
      some (answer, { connection with state := after })

section Steps

variable {σ : Type} {environment : Environment σ} {state after : σ}
  {input : List UInt8}

theorem world_recv {count : Nat} (enough : count ≤ input.length) :
    environment.world (.recv count true) ⟨input, state⟩ =
      some (.all (input.take count), ⟨input.drop count, state⟩) := by
  simp [Environment.world, enough]

theorem world_recv_append {bytes : List UInt8} {count : Nat}
    (length : bytes.length = count) (rest : List UInt8) :
    environment.world (.recv count true) ⟨bytes ++ rest, state⟩ =
      some (.all bytes, ⟨rest, state⟩) := by
  subst length
  rw [world_recv (by simp), List.take_left, List.drop_left]

theorem world_recv_short {count : Nat} (short : ¬ count ≤ input.length) :
    environment.world (.recv count true) ⟨input, state⟩ =
      some (.closed, ⟨[], state⟩) := by
  simp [Environment.world, short]

theorem world_recv_unmapped (nonempty : input ≠ []) (count : Nat) :
    environment.world (.recv count false) ⟨input, state⟩ =
      some (.failed [], ⟨input, state⟩) := by
  simp [Environment.world, nonempty]

theorem world_recv_nothing (count : Nat) :
    environment.world (.recv count false) ⟨[], state⟩ =
      some (.closed, ⟨[], state⟩) := rfl

theorem world_inside {question : Local} {answer : question.Answer}
    (answered : environment.inside question state = (answer, after)) :
    environment.world (.inside question) ⟨input, state⟩ =
      some (answer, ⟨input, after⟩) := by
  simp [Environment.world, answered]

end Steps

/-- A question of a handler that is still taking its arguments. -/
inductive Quiet : Ask → Prop
  | recv (count : Nat) (mapped : Bool) : Quiet (.recv count mapped)
  | malloc (size : Word) : Quiet (.inside (.malloc size))
  | unset : Quiet (.inside .unset)
  | stale : Quiet (.inside .stale)

/-- The program comes to another one and has put no questions but those of
reads. -/
def Reaches {σ α : Type} (environment : Environment σ) (program : Server α)
    (connection : Connection σ) (next : Server α) (after : Connection σ) : Prop :=
  ∃ before : Trace, (∀ event ∈ before, Quiet event.1) ∧
    program.run environment.world connection =
      before.foldr Outcome.prepend (next.run environment.world after)

namespace Reaches

variable {σ α : Type} {environment : Environment σ}
  {start middle after : Connection σ}

theorem refl (program : Server α) (connection : Connection σ) :
    Reaches environment program connection program connection :=
  ⟨[], by simp, rfl⟩

theorem trans {first second third : Server α}
    (left : Reaches environment first start second middle)
    (right : Reaches environment second middle third after) :
    Reaches environment first start third after := by
  obtain ⟨before, quietBefore, runBefore⟩ := left
  obtain ⟨between, quietBetween, runBetween⟩ := right
  refine ⟨before ++ between,
    List.forall_mem_append.mpr ⟨quietBefore, quietBetween⟩, ?_⟩
  rw [runBefore, runBetween, List.foldr_append]

theorem step {question : Ask} {answer : question.Answer}
    {next : question.Answer → Server α}
    (answered : environment.world question start = some (answer, after))
    (quiet : Quiet question) :
    Reaches environment (.ask question next) start (next answer) after :=
  ⟨[⟨question, answer⟩], by simpa using quiet, Prog.run_answered _ answered⟩

theorem bind {β : Type} {program next : Server α} {more : α → Server β}
    (reaches : Reaches environment program start next after) :
    Reaches environment (program.bind more) start (next.bind more) after := by
  obtain ⟨before, quiet, run⟩ := reaches
  refine ⟨before, quiet, ?_⟩
  rw [Prog.run_bind, run, Outcome.andThen_foldr, Prog.run_bind]

end Reaches

end Rkipc.Rpc
