import DocumentStore.Transaction

/-!
# Conversations with a driver

A runner of transactions sees nothing of a store but its answers. Here it talks to a driver that
gives whatever answers it likes, any number of times and in any order, and that is bound by one
rule only: a start that succeeds opens the transaction of the session, a commit or an abort that
succeeds closes it, and so does a discard, which cannot fail.

Everything that is asked is recorded, and the record of a run is a history of attempts: each of
them is made because the one before it ended in a transient error, after a wait.
-/
namespace DocumentStore.Transaction

variable {σ α β : Type}

/-! ## Drivers -/

/-- What a runner asks for, with the answer. -/
inductive Exchange (α : Type) where
  | supported (answer : Result Bool)
  | start (answer : Result Unit)
  | body (answer : Result α)
  | commit (answer : Result Unit)
  | abort (answer : Result Unit)
  | discard
  | sleep (ms : Nat)

/-- A driver, and a body of work, that answer out of a state nobody sees. -/
structure Driver (σ α : Type) where
  supported : σ → Result Bool × σ
  start : σ → Result Unit × σ
  body : σ → Result α × σ
  commit : σ → Result Unit × σ
  abort : σ → Result Unit × σ
  discard : σ → σ
  sleep : Nat → σ → σ

/-- A session with a driver, and what was asked on it so far. -/
structure Conversation (σ α : Type) where
  hidden : σ
  /-- Whether the session is in a transaction. -/
  isOpen : Bool := false
  record : List (Exchange α) := []

/-- Whether a session is in a transaction after a start was answered. -/
def opened (isOpen : Bool) : Result Unit → Bool
  | .ok () => true
  | .error _ => isOpen

/-- Whether a session is in a transaction after a commit or an abort was answered. -/
def closed (isOpen : Bool) : Result Unit → Bool
  | .ok () => false
  | .error _ => isOpen

namespace Driver

/-- Asks for an answer and records it. -/
def ask (answer : σ → β × σ) (exchange : β → Exchange α) (after : Bool → β → Bool) :
    StateM (Conversation σ α) β := fun c =>
  ((answer c.hidden).1, {
    hidden := (answer c.hidden).2
    isOpen := after c.isOpen (answer c.hidden).1
    record := c.record ++ [exchange (answer c.hidden).1] })

/-- Asks for an answer that has nothing to do with whether the session is in a transaction. -/
def askOnly (answer : σ → β × σ) (exchange : β → Exchange α) : StateM (Conversation σ α) β :=
  ask answer exchange fun isOpen _ => isOpen

variable (driver : Driver σ α)

/-- The session as a runner sees it. -/
def control : Control (StateM (Conversation σ α)) where
  inTransaction := do return (← get).isOpen
  supported := askOnly driver.supported .supported
  start := ask driver.start .start opened
  commit := ask driver.commit .commit closed
  abort := ask driver.abort .abort closed
  discard := ask (fun hidden => ((), driver.discard hidden)) (fun _ => .discard) fun _ _ => false
  sleep ms := askOnly (fun hidden => ((), driver.sleep ms hidden)) fun _ => .sleep ms

/-- The work to be done in the transaction. -/
def work : StateM (Conversation σ α) (Result α) := askOnly driver.body .body

/-- Runs the work in a transaction. -/
def run (policy : RetryPolicy) (c : Conversation σ α) : Result α × Conversation σ α :=
  (Transaction.run driver.control policy driver.work).run c

end Driver

/-! ## Outcomes -/

/-- How an attempt went. -/
inductive Outcome (α : Type) where
  /-- The start failed. -/
  | unstarted (error : ServiceError)
  /-- The body failed. -/
  | refused (error : ServiceError)
  /-- The commit failed. -/
  | uncommitted (value : α) (error : ServiceError)
  | committed (value : α)

namespace Outcome

/-- What is asked in an attempt. -/
def exchanges : Outcome α → List (Exchange α)
  | .unstarted e => [.start (.error e)]
  | .refused e => [.start (.ok ()), .body (.error e)]
  | .uncommitted value e => [.start (.ok ()), .body (.ok value), .commit (.error e)]
  | .committed value => [.start (.ok ()), .body (.ok value), .commit (.ok ())]

/-- The error that an attempt ended in. -/
def error? : Outcome α → Option ServiceError
  | .unstarted e | .refused e | .uncommitted _ e => some e
  | .committed _ => none

def isTransient (outcome : Outcome α) : Bool := outcome.error?.any ServiceError.isTransient

/-- The answer of a run whose last attempt, of a number, went like this. -/
def result (number : Nat) : Outcome α → Result α
  | .committed value => .ok value
  | .refused e => .error (if e.isTransient then .transactionAborted number e else e)
  | .unstarted e | .uncommitted _ e => .error (.transactionAborted number e)

/-- What a runner sees of an attempt. -/
def made : Outcome α → Attempt α
  | .committed value => .committed value
  | .refused e => .refused e
  | .unstarted e | .uncommitted _ e => .broken e

/-- Whether a session is in a transaction after an attempt. -/
def leavesOpen (isOpen : Bool) : Outcome α → Bool
  | .unstarted _ => isOpen
  | .refused _ | .uncommitted _ _ => true
  | .committed _ => false

theorem verdict_made_of_final {outcome : Outcome α} (h : outcome.isTransient = false)
    (number : Nat) : outcome.made.verdict number = .ok (outcome.result number) := by
  cases outcome with
  | committed value => rfl
  | unstarted e | refused e | uncommitted _ e =>
    have he : e.isTransient = false := h
    simp [made, Attempt.verdict, result, he]

theorem verdict_made_of_transient {outcome : Outcome α} (h : outcome.isTransient = true)
    (number : Nat) :
    ∃ e, outcome.made.verdict number = .error e ∧
      outcome.result number = .error (.transactionAborted number e) := by
  cases outcome with
  | committed value => cases h
  | unstarted e | refused e | uncommitted _ e =>
    have he : e.isTransient = true := h
    exact ⟨e, by simp [made, Attempt.verdict, he], by simp [result, he]⟩

end Outcome

/-! ## One attempt -/

section Attempts

variable (driver : Driver σ α) (c : Conversation σ α)

theorem run_bind_of_run {γ : Type} {x : StateM (Conversation σ α) β}
    {c c' : Conversation σ α} {b : β} (h : x.run c = (b, c'))
    (next : β → StateM (Conversation σ α) γ) : (x >>= next).run c = (next b).run c' := by
  change (next (x.run c).1).run (x.run c).2 = (next b).run c'
  rw [h]

/-- A step that asks is followed by what is done with the answer. -/
theorem run_ask_bind (answer : σ → β × σ) (exchange : β → Exchange α) (after : Bool → β → Bool)
    {γ : Type} (next : β → StateM (Conversation σ α) γ) :
    (Driver.ask answer exchange after >>= next).run c
      = (next (answer c.hidden).1).run {
          hidden := (answer c.hidden).2
          isOpen := after c.isOpen (answer c.hidden).1
          record := c.record ++ [exchange (answer c.hidden).1] } := rfl

theorem run_inTransaction_bind {γ : Type} (next : Bool → StateM (Conversation σ α) γ) :
    (driver.control.inTransaction >>= next).run c = (next c.isOpen).run c := rfl

/-- An attempt has one of the outcomes, with nothing asked besides. -/
theorem attempt_outcome :
    ∃ (outcome : Outcome α) (hidden : σ),
      (attempt driver.control driver.work).run c
        = (outcome.made, ⟨hidden, outcome.leavesOpen c.isOpen, c.record ++ outcome.exchanges⟩) := by
  -- the outcome is read off the first answer that is an error
  unfold attempt Driver.control Driver.work Driver.askOnly
  rw [run_ask_bind]
  cases hstart : (driver.start c.hidden).1 with
  | error e => exact ⟨.unstarted e, (driver.start c.hidden).2, rfl⟩
  | ok _ =>
    simp only
    rw [run_ask_bind]
    simp only
    generalize (driver.start c.hidden).2 = hidden
    cases hbody : (driver.body hidden).1 with
    | error e =>
      refine ⟨.refused e, (driver.body hidden).2, ?_⟩
      simp only [List.append_assoc]
      rfl
    | ok value =>
      simp only
      rw [run_ask_bind]
      simp only
      generalize (driver.body hidden).2 = hidden
      cases hcommit : (driver.commit hidden).1 with
      | error e =>
        refine ⟨.uncommitted value e, (driver.commit hidden).2, ?_⟩
        simp only [List.append_assoc]
        rfl
      | ok _ =>
        refine ⟨.committed value, (driver.commit hidden).2, ?_⟩
        simp only [List.append_assoc]
        rfl

/-- What is asked to undo an attempt. -/
def undoing (aborts : List (Result Unit)) : List (Exchange α) := aborts.map .abort

/-- An attempt that was committed is left alone. After any other, an abort is tried if the
session is in a transaction. -/
theorem settle_outcome (outcome : Outcome α) :
    ∃ (aborts : List (Result Unit)) (c' : Conversation σ α),
      (outcome.made.settle driver.control).run c = ((), c') ∧
      c'.record = c.record ++ undoing aborts ∧
      ∀ value, outcome = .committed value → aborts = [] ∧ c' = c := by
  have hrollback : ∃ (aborts : List (Result Unit)) (c' : Conversation σ α),
      (rollback driver.control).run c = ((), c') ∧ c'.record = c.record ++ undoing aborts := by
    unfold rollback
    rw [run_inTransaction_bind]
    cases c.isOpen with
    | false => exact ⟨[], c, rfl, by simp [undoing]⟩
    | true => exact ⟨[(driver.abort c.hidden).1], (driver.control.abort.run c).2, rfl, rfl⟩
  obtain ⟨aborts, c', hrun, hrecord⟩ := hrollback
  cases outcome with
  | committed value => exact ⟨[], c, rfl, by simp [undoing], fun _ _ => ⟨rfl, rfl⟩⟩
  | unstarted e | refused e | uncommitted _ e =>
    exact ⟨aborts, c', hrun, hrecord, fun _ h => by cases h⟩

/-! ## Histories of attempts -/

/-- The attempts of a run: what was asked, how those that were made again went and how the last
one went. The first of them has the given number, and at most so many retries follow. -/
inductive History (policy : RetryPolicy) :
    Nat → Nat → List (Exchange α) → List (Outcome α) → Outcome α → Prop where
  /-- The last attempt: its error is transient only if no retry is left. -/
  | last {number retries : Nat} (outcome : Outcome α) (aborts : List (Result Unit)) :
    (∀ value, outcome = .committed value → aborts = []) →
    (outcome.isTransient → retries = 0) →
    History policy number retries (outcome.exchanges ++ undoing aborts) [] outcome
  /-- An attempt after which everything is run again. -/
  | again {number retries : Nat} {calls : List (Exchange α)} {earlier : List (Outcome α)}
      {last : Outcome α} (outcome : Outcome α) (aborts : List (Result Unit)) :
    outcome.isTransient →
    History policy (number + 1) retries calls earlier last →
    History policy number (retries + 1)
      (outcome.exchanges ++ undoing aborts ++ .sleep (policy.waitBefore number) :: calls)
      (outcome :: earlier) last

/-- The conversation after a wait. -/
def slept (ms : Nat) : Conversation σ α := ((driver.control.sleep ms).run c).2

/-- Attempts begin with one. It is the last unless its error is transient and a retry is left, in
which case they go on after a wait. -/
theorem attempts_outcome (policy : RetryPolicy) (number retries : Nat) :
    ∃ (outcome : Outcome α) (aborts : List (Result Unit)) (c' : Conversation σ α),
      c'.record = c.record ++ (outcome.exchanges ++ undoing aborts) ∧
      (∀ value, outcome = .committed value → aborts = [] ∧ c'.isOpen = false) ∧
      ((outcome.isTransient → retries = 0) ∧
          (attempts driver.control policy driver.work number retries).run c
            = (outcome.result number, c') ∨
        ∃ left, retries = left + 1 ∧ outcome.isTransient ∧
          (attempts driver.control policy driver.work number retries).run c
            = (attempts driver.control policy driver.work (number + 1) left).run
                (slept driver c' (policy.waitBefore number))) := by
  obtain ⟨outcome, hidden, hattempt⟩ := attempt_outcome driver c
  obtain ⟨aborts, c', hsettle, hrecord, hcommitted⟩ := settle_outcome driver
    ⟨hidden, outcome.leavesOpen c.isOpen, c.record ++ outcome.exchanges⟩ outcome
  refine ⟨outcome, aborts, c', by rw [hrecord, List.append_assoc], ?_, ?_⟩
  · intro value hvalue
    obtain ⟨hnone, rfl⟩ := hcommitted value hvalue
    subst hvalue
    exact ⟨hnone, rfl⟩
  -- whether there is another attempt depends on the error and on the retries that are left
  · rw [attempts, run_bind_of_run hattempt, run_bind_of_run hsettle]
    cases htransient : outcome.isTransient with
    | false =>
      rw [outcome.verdict_made_of_final htransient]
      exact .inl ⟨by simp, rfl⟩
    | true =>
      obtain ⟨e, hverdict, hresult⟩ := outcome.verdict_made_of_transient htransient number
      rw [hverdict]
      cases retries with
      | zero => exact .inl ⟨fun _ => rfl, by rw [hresult]; rfl⟩
      | succ left => exact .inr ⟨left, rfl, rfl, rfl⟩

/-- The attempts of a run make up a history, and the last one is answered. -/
theorem attempts_history (policy : RetryPolicy) (number retries : Nat) :
    ∃ calls earlier last c',
      History policy number retries calls earlier last ∧
      (attempts driver.control policy driver.work number retries).run c
        = (last.result (number + earlier.length), c') ∧
      c'.record = c.record ++ calls ∧
      ∀ value, last = .committed value → c'.isOpen = false := by
  -- by induction on the retries that are left
  induction retries using Nat.strongRecOn generalizing number c with
  | ind retries ih =>
    obtain ⟨outcome, aborts, c', hrecord, hcommitted, hnext⟩ :=
      attempts_outcome driver c policy number retries
    obtain ⟨hlast, hrun⟩ | ⟨left, rfl, htransient, hrun⟩ := hnext
    · refine ⟨_, [], outcome, c', .last outcome aborts ?_ hlast, hrun, hrecord, ?_⟩
      · intro value hvalue
        exact (hcommitted value hvalue).1
      · intro value hvalue
        exact (hcommitted value hvalue).2
    · -- the wait is all that lies between this attempt and the next
      have hwaited : (slept driver c' (policy.waitBefore number)).record
          = c'.record ++ [.sleep (policy.waitBefore number)] := rfl
      obtain ⟨calls, earlier, last, c'', history, hrest, hmore, hclosed⟩ :=
        ih left (Nat.lt_succ_self left) (slept driver c' (policy.waitBefore number)) (number + 1)
      refine ⟨_, outcome :: earlier, last, c'', .again outcome aborts htransient history, ?_, ?_,
        hclosed⟩
      · rw [hrun, hrest, List.length_cons, Nat.add_right_comm, Nat.add_assoc]
      · rw [hmore, hwaited, hrecord]
        simp only [List.append_assoc, List.singleton_append]

/-! ## Whole runs -/

theorem run_tryFinally {x : StateM (Conversation σ α) β} {c c' : Conversation σ α} {b : β}
    (h : x.run c = (b, c')) (finalizer : StateM (Conversation σ α) Unit) :
    (tryFinally x finalizer).run c = (b, (finalizer.run c').2) := by
  change ((x.run c).1, (finalizer.run (x.run c).2).2) = _
  rw [h]

/-- A transaction that is open is discarded in the end. -/
theorem close_outcome :
    ∃ closing, ((close driver.control).run c).2.record = c.record ++ closing ∧
      (closing = [] ∨ closing = [.discard] ∧ c.isOpen = true) ∧
      ((close driver.control).run c).2.isOpen = false := by
  unfold close
  rw [run_inTransaction_bind]
  cases hopen : c.isOpen with
  | false => exact ⟨[], (List.append_nil c.record).symm, .inl rfl, hopen⟩
  | true => exact ⟨[.discard], rfl, .inr ⟨rfl, rfl⟩, rfl⟩

/-- A session without a transaction is closed again after a run, whatever was answered. -/
theorem run_of_closed (policy : RetryPolicy) (hclosed : c.isOpen = false)
    (hsupported : (driver.supported c.hidden).1 = .ok true) :
    ∃ calls earlier last closing,
      History policy 1 policy.maxRetries.toNat calls earlier last ∧
      (driver.run policy c).1 = last.result (1 + earlier.length) ∧
      (driver.run policy c).2.record
        = c.record ++ (.supported (.ok true) :: calls ++ closing) ∧
      (closing = [] ∨ closing = [.discard] ∧ ∀ value, last ≠ .committed value) ∧
      (driver.run policy c).2.isOpen = false := by
  let asked : Conversation σ α := (driver.control.supported.run c).2
  have hasked : driver.control.supported.run c = (.ok true, asked) := by
    rw [← hsupported]
    rfl
  have hrecorded : asked.record = c.record ++ [.supported (.ok true)] := by
    rw [← hsupported]
    rfl
  obtain ⟨calls, earlier, last, c', history, hattempts, hrecord, hcommitted⟩ :=
    attempts_history driver asked policy 1 policy.maxRetries.toNat
  have hrun : driver.run policy c
      = (last.result (1 + earlier.length), ((close driver.control).run c').2) := by
    unfold Driver.run Transaction.run
    rw [run_inTransaction_bind, hclosed]
    simp only [Bool.false_eq_true, ↓reduceIte]
    rw [run_bind_of_run hasked]
    exact run_tryFinally hattempts (close driver.control)
  -- a transaction is left to be discarded only if the last attempt has not committed
  obtain ⟨closing, hclosing, hdiscards, hshut⟩ := close_outcome driver c'
  refine ⟨calls, earlier, last, closing, history, by rw [hrun], ?_, ?_, by rw [hrun]; exact hshut⟩
  · rw [hrun]
    simp only [hclosing, hrecord, hrecorded, List.append_assoc, List.cons_append, List.nil_append]
  · obtain hnone | ⟨hdiscard, hopen⟩ := hdiscards
    · exact .inl hnone
    · refine .inr ⟨hdiscard, ?_⟩
      intro value hvalue
      rw [hcommitted value hvalue] at hopen
      cases hopen

/-- In a transaction that is open already there is nothing to run but the work. -/
theorem run_of_open (policy : RetryPolicy) (hopen : c.isOpen = true) :
    driver.run policy c = driver.work.run c := by
  unfold Driver.run Transaction.run
  rw [run_inTransaction_bind, hopen]
  rfl

end Attempts

end DocumentStore.Transaction
