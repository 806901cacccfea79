import Rkipc.Rpc.RecThread

namespace Rkipc.Rpc

open Interaction

/-! What becomes of a session when its connection breaks. -/

/-- The answer is not that of a `sock_read` that has failed. -/
def Unfailed : (question : Ask) → question.Answer → Prop
  | .recv _ _, answer => ∀ bytes, answer ≠ .failed bytes
  | .send _, _ | .crash, _ | .inside _, _ => True

/-- The program goes on after `SOCKERR_IO` only when a `sock_read` has failed. -/
def Fresh {α : Type} : Server α → Prop
  | .done _ => True
  | .ask question next => question ≠ .inside .stale ∧
      ∀ answer, Unfailed question answer → Fresh (next answer)

section Fresh

variable {α β : Type}

theorem Fresh.bind {program : Server α} {next : α → Server β}
    (first : Fresh program) (rest : ∀ value, Fresh (next value)) :
    Fresh (program.bind next) := by
  induction program with
  | done value => exact rest value
  | ask question following induction =>
      exact ⟨first.1, fun answer unfailed =>
        induction answer (first.2 answer unfailed)⟩

theorem fresh_recv {count : Nat} {mapped : Bool} {next : Received → Server α}
    (closed : Fresh (next .closed)) (all : ∀ bytes, Fresh (next (.all bytes))) :
    Fresh (.ask (.recv count mapped) next) := by
  refine ⟨nofun, fun answer unfailed => ?_⟩
  cases answer with
  | closed => exact closed
  | all bytes => exact all bytes
  | failed bytes => exact absurd rfl (unfailed bytes)

theorem fresh_send {bytes : List UInt8} {next : Sent → Server α}
    (rest : ∀ sent, Fresh (next sent)) : Fresh (.ask (.send bytes) next) :=
  ⟨nofun, fun sent _ => rest sent⟩

theorem Built.fresh {handler : Handler} (built : Built handler) :
    Fresh handler := by
  induction built with
  | done value => trivial
  | readWordOr value _ induction =>
      exact fresh_recv trivial fun bytes => induction _
  | readBuffer length _ induction =>
      refine ⟨nofun, fun mapped _ => ?_⟩
      split
      · exact induction _
      · exact fresh_recv trivial fun bytes => induction _
  | writeOr value bytes _ induction =>
      refine fresh_send fun sent => ?_
      cases sent with
      | closed => trivial
      | all | failed => exact induction
  | crash next => exact ⟨nofun, nofun⟩
  | call backend arguments _ induction =>
      exact ⟨nofun, fun reply _ => induction reply⟩
  | debug strings _ induction => exact ⟨nofun, fun _ _ => induction⟩

theorem fresh_strcmp {name received : List UInt8} {next : Bool → Server α}
    (rest : ∀ equal, Fresh (next equal)) :
    Fresh (strcmp name received next) := by
  unfold strcmp
  split
  · exact rest _
  · exact ⟨nofun, fun memory _ => rest _⟩

theorem fresh_dispatch {entries : List FunMap} (received : List UInt8)
    (subset : ∀ entry ∈ entries, entry ∈ map) (ret : Word) :
    Fresh (dispatch received entries ret) := by
  induction entries generalizing ret with
  | nil => trivial
  | cons entry entries induction =>
      obtain ⟨member, subset⟩ := List.forall_mem_cons.mp subset
      refine fresh_strcmp fun equal => ?_
      split
      · refine ⟨nofun, fun _ _ => ?_⟩
        exact (built_of_mem member).fresh.bind fun ret => induction subset ret
      · exact induction subset ret

theorem fresh_readName (len : Word) : Fresh (readName len) := by
  unfold readName
  split
  · trivial
  · refine ⟨nofun, fun succeeds _ => ?_⟩
    refine fresh_recv trivial fun received => ?_
    change Fresh (if _ then _ else _)
    split
    · exact (fresh_dispatch received (fun _ member => member) 0).bind fun _ =>
        trivial
    · exact ⟨nofun, nofun⟩

theorem fresh_again (len : Word) : Fresh (again len) :=
  fresh_recv trivial fun _ => fresh_readName _

theorem fresh_proceed (len : Word) : Fresh (proceed len) :=
  fresh_send fun _ => fresh_again len

theorem fresh_greet : Fresh greet := by
  refine ⟨nofun, fun memory _ => fresh_send fun sent => ?_⟩
  cases sent with
  | closed => trivial
  | all | failed => exact fresh_again _

end Fresh

section Steps

variable {σ : Type} {kernel : Kernel σ}

def Thread.Fresh : Thread → Prop
  | .serving program _ => Rpc.Fresh program
  | .crashed | .closed => True

theorem fresh_sockRead {count : Nat} {mapped : Bool}
    {next : Received → Server (Word × Word)}
    (fresh : Rpc.Fresh (.ask (.recv count mapped) next)) (moved : List UInt8)
    {result : Read} (unfailed : result ≠ .failed) :
    (sockRead count mapped next moved result).Fresh := by
  cases result with
  | bytes first rest =>
      simp only [sockRead]
      split
      · exact fresh
      · exact fresh.2 (.all _) nofun
  | ended => exact fresh.2 .closed nofun
  | interrupted => exact fresh
  | failed => exact absurd rfl unfailed

theorem fresh_sockWrite {bytes : List UInt8}
    {next : Sent → Server (Word × Word)}
    (fresh : Rpc.Fresh (.ask (.send bytes) next)) (moved : List UInt8)
    (result : Write) : (sockWrite bytes next moved result).Fresh := by
  cases result with
  | bytes more =>
      simp only [sockWrite]
      split
      · exact fresh
      · exact fresh.2 .all trivial
  | closed => exact fresh.2 .closed trivial
  | interrupted => exact fresh
  | failed => exact fresh.2 .failed trivial

theorem fresh_step {thread : Thread} {state : σ} (fresh : thread.Fresh)
    (unfailed : kernel.reads (thread, state) ≠ some .failed) :
    (kernel.step (thread, state)).1.Fresh := by
  cases thread with
  | crashed | closed => trivial
  | serving program moved =>
      cases program with
      | done value =>
          obtain ⟨ret, len⟩ := value
          rw [Kernel.step_done]
          split
          · exact fresh_proceed len
          · trivial
      | ask question next =>
          cases question with
          | crash => trivial
          | inside question => exact fresh.2 _ trivial
          | recv count mapped =>
              exact fresh_sockRead fresh moved fun isFailed =>
                unfailed (congrArg some isFailed)
          | send bytes => exact fresh_sockWrite fresh moved _

theorem fresh_run {state : σ}
    (unfailed : ∀ count, kernel.reads (kernel.run state count) ≠ some .failed)
    (count : Nat) : (kernel.run state count).1.Fresh := by
  induction count with
  | zero => exact fresh_greet
  | succ count induction =>
      rw [Kernel.run_succ]
      exact fresh_step induction (unfailed count)

end Steps

section Ends

variable {σ : Type} {kernel : Kernel σ} {state : σ}

/-- The thread is about to go on after `SOCKERR_IO`. -/
def Thread.Stale : Thread → Prop
  | .serving (.ask (.inside .stale) _) _ => True
  | _ => False

theorem Thread.Fresh.not_stale {thread : Thread} (fresh : thread.Fresh) :
    ¬ thread.Stale := by
  unfold Thread.Stale
  split
  · exact fun _ => fresh.1 rfl
  · exact id

/-- The end of the stream is there to stay. -/
def Kernel.EndsForGood (kernel : Kernel σ) (state : σ) : Prop :=
  ∀ count later, count ≤ later →
    kernel.reads (kernel.run state count) = some .ended →
    ∀ result, kernel.reads (kernel.run state later) = some result →
      result = .ended

/-- The call of this moment is interrupted. -/
def Kernel.Interrupted (kernel : Kernel σ) (now : Thread × σ) : Prop :=
  kernel.reads now = some .interrupted ∨ kernel.writes now = some .interrupted

/-- What holds of the value when every read finds the end of the stream. -/
def AtEnd {α : Type} (holds : α → Prop) : Server α → Prop
  | .done value => holds value
  | .ask (.recv _ _) next => AtEnd holds (next .closed)
  | .ask (.send _) next => ∀ sent, AtEnd holds (next sent)
  | .ask .crash _ => True
  | .ask (.inside _) next => ∀ answer, AtEnd holds (next answer)

theorem atEnd_true {α : Type} (program : Server α) :
    AtEnd (fun _ => True) program := by
  induction program with
  | done value => trivial
  | ask question next induction =>
      cases question with
      | recv count mapped => exact induction .closed
      | send bytes => exact induction
      | crash => trivial
      | inside question => exact induction

theorem atEnd_proceed (len : Word) :
    AtEnd (fun value : Word × Word => value.1 = -1) (proceed len) :=
  fun _ => rfl

theorem closed_stays {count later : Nat} (le : count ≤ later)
    (closed : (kernel.run state count).1 = .closed) :
    (kernel.run state later).1 = .closed := by
  induction le with
  | refl => exact closed
  | step _ induction =>
      rw [Kernel.run_succ, ← Prod.eta (kernel.run state _), induction]
      rfl

theorem waits {bytes moved : List UInt8} {next : Sent → Server (Word × Word)}
    (distance : Nat) {count : Nat} {after : σ}
    (resumes : ¬ kernel.Interrupted (kernel.run state (count + distance)))
    (now : kernel.run state count =
      (.serving (.ask (.send bytes) next) moved, after)) :
    ∃ later last, count ≤ later ∧
      kernel.run state later =
        (.serving (.ask (.send bytes) next) moved, last) ∧
      (kernel.write (bytes.drop moved.length) last).1 ≠ .interrupted := by
  induction distance generalizing count after with
  | zero =>
      refine ⟨count, after, Nat.le_refl count, now, fun interrupted => resumes (.inr ?_)⟩
      rw [Nat.add_zero, now]
      exact congrArg some interrupted
  | succ distance induction =>
      by_cases interrupted :
          (kernel.write (bytes.drop moved.length) after).1 = .interrupted
      · have again : kernel.run state (count + 1) =
            (.serving (.ask (.send bytes) next) moved,
              (kernel.write (bytes.drop moved.length) after).2) := by
          rw [Kernel.run_succ, now, Kernel.step_send, interrupted]
          rfl
        have resumes : ¬ kernel.Interrupted
            (kernel.run state (count + 1 + distance)) := by
          rwa [Nat.add_right_comm]
        obtain ⟨later, last, le, same, done⟩ := induction resumes again
        exact ⟨later, last, by omega, same, done⟩
      · exact ⟨count, after, Nat.le_refl count, now, interrupted⟩

section Ended

variable {first : Nat}
  (resumes : ∀ count, first ≤ count → ∃ later, count ≤ later ∧
    ¬ kernel.Interrupted (kernel.run state later))
  (survives : ∀ count, first ≤ count →
    (kernel.run state count).1 ≠ .crashed)

include resumes in
/-- A `sock_write` ends. -/
theorem write_ends {bytes : List UInt8} {next : Sent → Server (Word × Word)}
    {moved : List UInt8} {count : Nat} {after : σ} (leFirst : first ≤ count)
    (now : kernel.run state count =
      (.serving (.ask (.send bytes) next) moved, after)) :
    ∃ later last sent, count ≤ later ∧
      kernel.run state later = (.serving (next sent) [], last) := by
  induction remaining : bytes.length - moved.length using Nat.strongRecOn
    generalizing moved count after with
  | ind remaining induction =>
      obtain ⟨later, le, notInterrupted⟩ := resumes count leFirst
      obtain ⟨distance, rfl⟩ := Nat.exists_eq_add_of_le le
      obtain ⟨last, state', leLast, same, done⟩ := waits distance notInterrupted now
      have step := Kernel.run_succ kernel state last
      rw [same, Kernel.step_send] at step
      generalize kernel.write (bytes.drop moved.length) state' = result at step done
      obtain ⟨result, final⟩ := result
      cases result with
      | bytes more =>
          simp only [sockWrite] at step
          split at step
          next short =>
            have unsent : 0 < (bytes.drop moved.length).length := by
              rw [List.length_append, List.length_take] at short
              rw [List.length_drop]
              omega
            obtain ⟨later, last', sent, le, ends⟩ := induction _ (by
              rw [List.length_append, List.length_take]
              rw [List.length_drop] at unsent ⊢
              omega) (by omega) step rfl
            exact ⟨later, last', sent, by omega, ends⟩
          next => exact ⟨last + 1, final, .all, by omega, step⟩
      | closed => exact ⟨last + 1, final, .closed, by omega, step⟩
      | interrupted => exact absurd rfl done
      | failed => exact ⟨last + 1, final, .failed, by omega, step⟩

include resumes survives in
/-- After the end of the stream every program comes to its value. -/
theorem program_ends (persists : kernel.EndsForGood state)
    (ended : kernel.reads (kernel.run state first) = some .ended)
    {holds : Word × Word → Prop} {program : Server (Word × Word)}
    (atEnd : AtEnd holds program) {moved : List UInt8} {count : Nat} {after : σ}
    (le : first ≤ count)
    (now : kernel.run state count = (.serving program moved, after)) :
    ∃ later value moved last, count ≤ later ∧ holds value ∧
      kernel.run state later = (.serving (.done value) moved, last) := by
  induction program generalizing moved count after with
  | done value => exact ⟨count, value, moved, after, Nat.le_refl _, atEnd, now⟩
  | ask question next induction =>
      have step := Kernel.run_succ kernel state count
      rw [now] at step
      cases question with
      | recv size mapped =>
          have result := persists first count le ended _ (congrArg kernel.reads now)
          rw [Kernel.step_recv, result] at step
          obtain ⟨later, value, moved, last, leLater, rest⟩ :=
            induction .closed atEnd (Nat.le_succ_of_le le) step
          exact ⟨later, value, moved, last, by omega, rest⟩
      | send bytes =>
          obtain ⟨done, middle, sent, leDone, sentNow⟩ := write_ends resumes le now
          obtain ⟨later, value, moved, last, leLater, rest⟩ :=
            induction sent (atEnd sent) (by omega) sentNow
          exact ⟨later, value, moved, last, by omega, rest⟩
      | crash =>
          rw [Kernel.step_crash] at step
          exact absurd (congrArg Prod.fst step)
            (survives _ (Nat.le_succ_of_le le))
      | inside question =>
          rw [Kernel.step_inside] at step
          obtain ⟨later, value, moved, last, leLater, rest⟩ :=
            induction _ (atEnd _) (Nat.le_succ_of_le le) step
          exact ⟨later, value, moved, last, by omega, rest⟩

theorem closed_of_done {ret len : Word} {moved : List UInt8} {count : Nat}
    {after : σ} (nonzero : ret ≠ 0)
    (now : kernel.run state count = (.serving (.done (ret, len)) moved, after)) :
    (kernel.run state (count + 1)).1 = .closed := by
  rw [Kernel.run_succ, now, Kernel.step_done, if_neg nonzero]

include resumes survives in
/-- The end of the stream closes the connection. -/
theorem closes_after_end (persists : kernel.EndsForGood state)
    (ended : kernel.reads (kernel.run state first) = some .ended) :
    ∃ later, first ≤ later ∧ (kernel.run state later).1 = .closed := by
  cases now : kernel.run state first with
  | mk thread start =>
      cases thread with
      | crashed | closed =>
          rw [now] at ended
          cases ended
      | serving program moved =>
          obtain ⟨done, ⟨ret, len⟩, moved, last, le, _, atDone⟩ :=
            program_ends resumes survives persists ended (atEnd_true program)
              (Nat.le_refl first) now
          by_cases zero : ret = 0
          · have goesOn := Kernel.run_succ kernel state done
            rw [atDone, Kernel.step_done, if_pos zero] at goesOn
            obtain ⟨later, ⟨ret, len⟩, moved, last, leLater, isClosed, atOut⟩ :=
              program_ends resumes survives persists ended (atEnd_proceed len)
                (by omega) goesOn
            have nonzero : ret ≠ 0 := by
              rw [show ret = -1 from isClosed]
              decide
            exact ⟨later + 1, by omega, closed_of_done nonzero atOut⟩
          · exact ⟨done + 1, by omega, closed_of_done zero atDone⟩

end Ended

/-- The write of this moment is one whose caller ends the loop on
`SOCKERR_CLOSED`. -/
def Thread.Tests : Thread → Prop
  | .serving (.ask (.send _) next) _ =>
      ∃ ret len, next .closed = .done (ret, len) ∧ ret ≠ 0
  | _ => False

theorem closes_after_tested {count : Nat}
    (tests : (kernel.run state count).1.Tests)
    (closed : kernel.writes (kernel.run state count) = some .closed) :
    (kernel.run state (count + 2)).1 = .closed := by
  cases now : kernel.run state count with
  | mk thread after =>
      rw [now] at tests closed
      unfold Thread.Tests at tests
      split at tests
      next bytes next moved same =>
        obtain ⟨ret, len, returns, nonzero⟩ := tests
        cases same
        have step := Kernel.run_succ kernel state count
        have result : (kernel.write (bytes.drop moved.length) after).1 = .closed :=
          Option.some.inj closed
        rw [now, Kernel.step_send, result] at step
        simp only [sockWrite, returns] at step
        exact closed_of_done nonzero step
      next => exact tests.elim

/-- The stream ends, or a call fails with anything but `EINTR`. -/
def Kernel.Broken (kernel : Kernel σ) (now : Thread × σ) : Prop :=
  kernel.reads now = some .ended ∨ kernel.reads now = some .failed ∨
    kernel.writes now = some .closed ∨ kernel.writes now = some .failed

/-- A run in which nothing fails that its caller does not test: no `read` but with
`EINTR`, no `write` but with `EPIPE` where the caller ends the loop, unless the
stream ends anyway; and then no call is interrupted for ever and no string is
missing. -/
structure Kernel.Tested (kernel : Kernel σ) (state : σ) : Prop where
  reads : ∀ count, kernel.reads (kernel.run state count) ≠ some .failed
  writes : ∀ count,
    kernel.writes (kernel.run state count) = some .closed ∨
      kernel.writes (kernel.run state count) = some .failed →
    (kernel.writes (kernel.run state count) = some .closed ∧
      (kernel.run state count).1.Tests) ∨
    ∃ later, kernel.reads (kernel.run state later) = some .ended
  resumes : ∀ first, kernel.reads (kernel.run state first) = some .ended →
    ∀ count, first ≤ count → ∃ later, count ≤ later ∧
      ¬ kernel.Interrupted (kernel.run state later)
  survives : ∀ first, kernel.reads (kernel.run state first) = some .ended →
    ∀ count, first ≤ count → (kernel.run state count).1 ≠ .crashed

/-- No value is used that has not arrived, and a break of the connection closes
the descriptor. -/
def Kernel.EndsSession (kernel : Kernel σ) (state : σ) : Prop :=
  (∀ count, ¬ (kernel.run state count).1.Stale) ∧
    ∀ count, kernel.Broken (kernel.run state count) →
      ∃ later, count ≤ later ∧ (kernel.run state later).1 = .closed

/-- A session ends with its connection in every run in which the callers test for
what fails. -/
theorem session_ends (persists : kernel.EndsForGood state)
    (tested : kernel.Tested state) : kernel.EndsSession state := by
  refine ⟨fun count => (fresh_run tested.reads count).not_stale, ?_⟩
  have afterEnd : ∀ count first,
      kernel.reads (kernel.run state first) = some .ended →
      ∃ later, count ≤ later ∧ (kernel.run state later).1 = .closed := by
    intro count first ended
    obtain ⟨later, _, closed⟩ :=
      closes_after_end (tested.resumes first ended) (tested.survives first ended)
        persists ended
    exact ⟨max count later, Nat.le_max_left _ _,
      closed_stays (Nat.le_max_right _ _) closed⟩
  have afterWrite : ∀ count,
      kernel.writes (kernel.run state count) = some .closed ∨
        kernel.writes (kernel.run state count) = some .failed →
      ∃ later, count ≤ later ∧ (kernel.run state later).1 = .closed := by
    intro count fails
    rcases tested.writes count fails with ⟨closed, tests⟩ | ⟨first, ended⟩
    · exact ⟨count + 2, by omega, closes_after_tested tests closed⟩
    · exact afterEnd count first ended
  intro count broken
  rcases broken with ended | failed | closed | failed
  · exact afterEnd count count ended
  · exact absurd failed (tested.reads count)
  · exact afterWrite count (.inl closed)
  · exact afterWrite count (.inr failed)

end Ends

/-- Every `read` gives this, every `write` four bytes. -/
def constant (result : Read) : Kernel Unit where
  read _ _ _ := (result, ())
  write _ _ := (.bytes 3, ())
  inside
    | .malloc _, _ => (true, ())
    | .unset, _ => (fun _ => 0, ())
    | .beyond, _ => (fun _ => 0, ())
    | .stale, _ => ((), ())
    | .invoke _, _ => ((), ())
    | .debug _, _ => (false, ())
    | .call _ _, _ => (⟨0, fun _ => 0, fun _ => some []⟩, ())

theorem reads_constant {result read : Read} {now : Thread × Unit}
    (reads : (constant result).reads now = some read) : read = result := by
  unfold Kernel.reads at reads
  split at reads
  · exact (Option.some.inj reads).symm
  · cases reads

theorem writes_constant {result : Read} {write : Write} {now : Thread × Unit}
    (writes : (constant result).writes now = some write) :
    write = .bytes 3 := by
  unfold Kernel.writes at writes
  split at writes
  · exact (Option.some.inj writes).symm
  · cases writes

theorem persists_constant (result : Read) :
    (constant result).EndsForGood () := by
  intro count later _ ended read reads
  rw [reads_constant reads, ← reads_constant ended]

theorem closed_constant : ((constant .ended).run () 4).1 = .closed := rfl

theorem tested_constant : (constant .ended).Tested () where
  reads count failed := nomatch reads_constant failed
  writes count fails := by
    rcases fails with closed | failed
    · exact nomatch writes_constant closed
    · exact nomatch writes_constant failed
  resumes first _ count _ := by
    refine ⟨count, Nat.le_refl count, fun interrupted => ?_⟩
    rcases interrupted with reads | writes
    · exact nomatch reads_constant reads
    · exact nomatch writes_constant writes
  survives first _ count _ := by
    rcases Nat.lt_or_ge count 4 with early | late
    · match count, early with
      | 0, _ | 1, _ | 2, _ | 3, _ => exact nofun
    · rw [closed_stays late closed_constant]
      exact nofun

theorem session_ends_hungUp : (constant .ended).EndsSession () :=
  session_ends (persists_constant .ended) tested_constant

/-- After a `read` that fails, the thread uses a length that has not arrived. -/
theorem failed_read_used :
    ¬ ∀ (σ : Type) (kernel : Kernel σ) (state : σ),
      kernel.EndsForGood state → kernel.EndsSession state := by
  intro general
  have ends := general Unit (constant .failed) () (persists_constant .failed)
  exact ends.1 3 trivial

end Rkipc.Rpc
