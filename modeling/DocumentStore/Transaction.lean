import DocumentStore.Config
import DocumentStore.Error

/-!
# Transactions with retries

A body of work is run inside of a transaction. If starting it, the body or committing fails with
a transient error, the transaction is rolled back and everything is run again after a wait, as
often as the retry policy allows. Errors of the body that are not transient are answered as they
are; all other failures are answered as an aborted transaction.

The session is seen through a `Control`, so the same runner works on a store and on a script of
answers. Whatever happens, even when the work is cut off in the middle, a transaction that was
opened here does not stay open.
-/
namespace DocumentStore

/-- What a runner of transactions asks of a session. -/
structure Control (m : Type → Type) where
  inTransaction : m Bool
  /-- Whether transactions are supported at all. -/
  supported : m (Result Bool)
  start : m (Result Unit)
  commit : m (Result Unit)
  abort : m (Result Unit)
  /-- Closes the transaction without asking anyone. -/
  discard : m Unit
  /-- Waits for a number of milliseconds. -/
  sleep : Nat → m Unit

/-- The control seen from a monad that contains the control's own. -/
def Control.lift {m n : Type → Type} [MonadLiftT m n] (control : Control m) : Control n where
  inTransaction := liftM control.inTransaction
  supported := liftM control.supported
  start := liftM control.start
  commit := liftM control.commit
  abort := liftM control.abort
  discard := liftM control.discard
  sleep ms := liftM (control.sleep ms)

namespace Transaction

variable {m : Type → Type} [Monad m] {α : Type}

/-- How an attempt ended. -/
inductive Attempt (α : Type) where
  | committed (value : α)
  /-- The body failed. -/
  | refused (error : ServiceError)
  /-- Starting or committing failed. -/
  | broken (error : ServiceError)

/-- Starts a transaction, runs the body and commits. -/
def attempt (control : Control m) (body : m (Result α)) : m (Attempt α) := do
  match ← control.start with
  | .error e => return .broken e
  | .ok () =>
    match ← body with
    | .error e => return .refused e
    | .ok value =>
      match ← control.commit with
      | .error e => return .broken e
      | .ok () => return .committed value

/-- Aborts the transaction if one is open. A failing abort is passed over. -/
def rollback (control : Control m) : m Unit := do
  if ← control.inTransaction then
    let _ ← control.abort

/-- What a finished attempt of a number has decided, or the transient error for which to run
everything again. -/
def Attempt.verdict (number : Nat) : Attempt α → Except ServiceError (Result α)
  | .committed value => .ok (.ok value)
  | .refused e => if e.isTransient then .error e else .ok (.error e)
  | .broken e => if e.isTransient then .error e else .ok (.error (.transactionAborted number e))

/-- Rolls back an attempt that was not committed. -/
def Attempt.settle (control : Control m) : Attempt α → m Unit
  | .committed _ => return ()
  | _ => rollback control

/-- Makes attempts until one is decided or no retry is left. The first of them has the given
number. -/
def attempts (control : Control m) (policy : RetryPolicy) (body : m (Result α)) (number : Nat)
    (retries : Nat) : m (Result α) := do
  let made ← attempt control body
  made.settle control
  match made.verdict number with
  | .ok result => return result
  | .error e =>
    match retries with
    | 0 => return .error (.transactionAborted number e)
    | retries + 1 => do
      control.sleep (policy.waitBefore number)
      attempts control policy body (number + 1) retries

/-- Discards the transaction if one is still open. -/
def close (control : Control m) : m Unit := do
  if ← control.inTransaction then control.discard

/-- Runs a body in a transaction. One that is open already is joined, and where transactions are
not supported the body runs without one. -/
def run [MonadFinally m] (control : Control m) (policy : RetryPolicy) (body : m (Result α)) :
    m (Result α) := do
  if ← control.inTransaction then body
  else
    match ← control.supported with
    | .error e => return .error e
    | .ok false => body
    | .ok true =>
      tryFinally (attempts control policy body 1 policy.maxRetries.toNat) (close control)

end Transaction

end DocumentStore
