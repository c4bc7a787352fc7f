import DocumentStore.Scenario.Rule

/-!
# Steps of a scenario

A step asks a store or a service for something, on a named session or without one. A step may be
a transaction whose body is a list of steps again; they run on the session of the transaction,
as often as its runner asks for it.
-/
namespace DocumentStore.Scenario

/-! ## Steps and reports -/

mutual

/-- What a step does. -/
inductive Task where
  | startSession
  | dropSession
  | describeSession
  | start
  | commit
  | abort
  | discard
  | store (call : Result Store.Call)
  | service (name : String) (call : Result Service.Call)
  | supportsTransactions
  | failStarts (count : Nat)
  | failCommits (count : Nat)
  | sleep (ms : Nat)
  | fail (error : ServiceError)
  /-- A transaction. After its body it fails with an error, if one is given, as long as the body
  was not entered more often than a limit. -/
  | transaction (policy : RetryPolicy) (body : List Step) (failure : Option ServiceError)
      (limit : Option Nat)

/-- A task with the session that it is done on. -/
inductive Step where
  /-- `catches` makes the error of a step in the body of a transaction the result of the step. -/
  | mk (task : Task) (session : Option String) (timeout : Option Nat) (catches : Bool)

end

/-- What a step answers. -/
inductive Report where
  | done
  /-- The time for the step ran out. -/
  | timedOut
  | started (id : SessionId)
  | session (id : SessionId) (inTransaction : Bool)
  | flag (on : Bool)
  | store (call : Store.Call) (answer : call.Answer)
  | service (call : Service.Call) (answer : call.Answer)
  /-- The error of a step that catches. -/
  | failed (error : ServiceError)
  /-- How often the body was entered, and what its steps answered the last time. -/
  | transaction (attempts : Nat) (body : List Report)

/-! ## Running -/

def onSession (session : Option SessionId) (change : SessionId → Store → Result Unit × Store) :
    Action Report := do
  match session with
  | some id =>
    ExceptT.mk (Process.onStore (change id))
    return .done
  | none => return .done

/-- Runs an action with a limit of time. -/
def timed (timeout : Option Nat) (action : Action Report) : Action Report :=
  match timeout with
  | none => action
  | some ms => ExceptT.mk do
    match ← Process.within ms action.run with
    | some result => return result
    | none => return .ok .timedOut

/-- Makes an error a report. -/
def catching (catches : Bool) (action : Action Report) : Action Report :=
  if catches then tryCatch action fun e => return .failed e else action

/-- Enters the body of a transaction once more. The state counts the entries. -/
def enter (session : SessionId) (body : Action (List Report)) (failure : Option ServiceError)
    (limit : Option Nat) : StateT Nat Process (Result Report) := do
  modify (· + 1)
  let number ← get
  Process.record (.attempt number (← Process.inTransaction session))
  match ← body.run with
  | .error e => return .error e
  | .ok reports =>
    match failure with
    | some e =>
      if limit.all (number ≤ ·) then return .error e
      else return .ok (.transaction number reports)
    | none => return .ok (.transaction number reports)

/-- Runs a transaction, on a session or on one of its own. -/
def transact (policy : RetryPolicy) (failure : Option ServiceError) (limit : Option Nat)
    (body : SessionId → Action (List Report)) (session : Option SessionId) : Action Report :=
  let entered (session : SessionId) := enter session (body session) failure limit
  ExceptT.mk ((Process.transaction policy session entered).run' 0)

mutual

def Task.run (family : Family) (session : Option SessionId) : Task → Action Report
  | .startSession => do return .started (← ExceptT.lift (Process.onStore Store.openSession))
  | .dropSession => onSession session fun id store => (.ok (), store.dropSession id)
  | .describeSession => do
    match session with
    | some id => return .session id (← Process.inTransaction id)
    | none => return .done
  | .start => onSession session fun id store => store.start id
  | .commit => onSession session fun id store => store.commit id
  | .abort => onSession session fun id store => (.ok (), store.abort id)
  | .discard => onSession session fun id store => (.ok (), store.abort id)
  | .store call => do
    let call ← call
    return .store call (← Process.ask session call)
  | .service name call => do
    let call ← call
    return .service call (← family.perform session name call)
  | .supportsTransactions => do
    return .flag (← getThe Process.State).store.transactional
  | .failStarts count => do
    ExceptT.lift (Process.onStore fun store => ((), store.failStarts count))
    return .done
  | .failCommits count => do
    ExceptT.lift (Process.onStore fun store => ((), store.failCommits count))
    return .done
  | .sleep ms => do
    Process.sleep ms
    return .done
  | .fail e => throw e
  | .transaction policy body failure limit =>
    transact policy failure limit (fun session => runBody family session body) session
termination_by structural task => task

/-- Does a step in the body of a transaction. -/
def Step.runInBody (family : Family) (session : SessionId) : Step → Action Report
  | .mk task name timeout catches =>
    let session := if name = some "none" then none else some session
    catching catches (timed timeout (task.run family session))
termination_by structural step => step

/-- Does the steps of the body of a transaction. -/
def runBody (family : Family) (session : SessionId) : List Step → Action (List Report)
  | [] => return []
  | step :: rest => do
    let report ← step.runInBody family session
    return report :: (← runBody family session rest)
termination_by structural steps => steps

end

end DocumentStore.Scenario
