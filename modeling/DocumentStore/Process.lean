import DocumentStore.Journal
import DocumentStore.Store.Call
import DocumentStore.Transaction

/-!
# Processes

A process works on a store under a clock. Only sleeping takes time. A process may have a
deadline: a sleep that would pass it ends the process there and then, and what was opened on the
way is closed as the process is left.
-/
namespace DocumentStore

/-- Why a process ended without a result. -/
inductive Stop where
  /-- The deadline passed. -/
  | deadline
  /-- Rules called rules more deeply than is allowed. -/
  | nesting
  deriving DecidableEq, Repr

/-- What a process works on. -/
structure Process.State where
  store : Store := {}
  /-- Milliseconds since the beginning. -/
  clock : Nat := 0
  deadline : Option Nat := none
  journal : List Entry := []
  /-- How often each counter was advanced. -/
  counters : List (String × Nat) := []
  /-- How many identifiers were made up. -/
  generated : Nat := 0

/-- A computation on a store under a clock. -/
abbrev Process := ExceptT Stop (StateM Process.State)

/-- A process that answers or fails. -/
abbrev Action := ExceptT ServiceError Process

namespace Process

/-! ## Clock and journal -/

/-- Waits for a number of milliseconds. -/
def sleep (ms : Nat) : Process Unit := do
  let state ← get
  match state.deadline with
  | some deadline =>
    if deadline < state.clock + ms then
      set { state with clock := max state.clock deadline }
      throw .deadline
    else set { state with clock := state.clock + ms }
  | none => set { state with clock := state.clock + ms }

/-- Runs a process for a number of milliseconds at most. The answer is `none` if it did not end
by then. -/
def within {α : Type} (ms : Nat) (process : Process α) : Process (Option α) := do
  let outer := (← get).deadline
  let own := (← get).clock + ms
  modify ({ · with deadline := some (min own (outer.getD own)) })
  let ended : Except Stop α ← tryCatch (.ok <$> process) fun stop => return .error stop
  modify ({ · with deadline := outer })
  match ended with
  | .ok answer => return some answer
  | .error .deadline => if own ≤ (← get).clock then return none else throw .deadline
  | .error stop => throw stop

/-- Adds an entry to the journal. -/
def record (entry : Entry) : Process Unit :=
  modify fun state => { state with journal := state.journal ++ [entry] }

/-- Advances a counter, which answers how often this was done. -/
def tick (name : String) : Process Nat := do
  let state ← get
  let count := (state.counters.lookup name).getD 0 + 1
  set { state with counters := (name, count) :: state.counters.filter (·.1 != name) }
  return count

def ofResult {α : Type} (result : Result α) : Action α := ExceptT.mk (pure result)

/-! ## Store -/

def onStore {α : Type} (change : Store → α × Store) : Process α := do
  let state ← get
  let (answer, store) := change state.store
  set { state with store }
  return answer

/-- Makes a call to the store, with fresh identifiers. -/
def ask (session : Option SessionId) (call : Store.Call) : Action call.Answer := ExceptT.mk do
  let state ← get
  let fresh i := ObjectId.generated (state.generated + i)
  let (answer, store) := state.store.answer session fresh call
  set { state with store, generated := state.generated + call.inserted }
  return answer

def inTransaction (session : SessionId) : Process Bool := do
  return (← get).store.inTransaction session

/-! ## Sessions and transactions -/

/-- The session of a store, as a runner of transactions sees it. -/
def control (session : SessionId) : Control Process where
  inTransaction := inTransaction session
  supported := do return .ok (← get).store.transactional
  start := onStore (·.start session)
  commit := onStore (·.commit session)
  abort := onStore fun store => (.ok (), store.abort session)
  discard := onStore fun store => ((), store.abort session)
  sleep := sleep

/-- Runs a body in a transaction on a session. The body may remember something from one attempt
to the next. -/
def runTransaction {σ α : Type} (policy : RetryPolicy) (session : SessionId)
    (body : StateT σ Process (Result α)) : StateT σ Process (Result α) :=
  Transaction.run (control session).lift policy body

def transact {α : Type} (policy : RetryPolicy) (session : SessionId) (body : Action α) :
    Action α :=
  let body : StateT Unit Process (Result α) := StateT.lift body.run
  ExceptT.mk ((runTransaction policy session body).run' ())

/-- Runs a process on a session of its own, which is dropped in any event. -/
def withSession {α : Type} (process : SessionId → Process α) : Process α := do
  let session ← onStore Store.openSession
  tryFinally (process session) (onStore fun store => ((), store.dropSession session))

/-- Runs a process on the session that is given, or else on one of its own. -/
def usingSession {α : Type} (session : Option SessionId) (process : SessionId → Process α) :
    Process α :=
  match session with
  | some session => process session
  | none => withSession process

/-- Runs a body in a transaction, on the session that is given or else on one of its own. -/
def transaction {σ α : Type} (policy : RetryPolicy) (session : Option SessionId)
    (body : SessionId → StateT σ Process (Result α)) : StateT σ Process (Result α) :=
  fun remembered => usingSession session fun id =>
    (runTransaction policy id (body id)).run remembered

def wrapping {α : Type} (wrap : ServiceError → ServiceError) (action : Action α) : Action α :=
  ExceptT.adapt wrap action

end Process

end DocumentStore
