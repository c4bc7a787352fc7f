import DocumentStore.Transaction

/-!
# Scripted sessions

A session whose answers are laid down in advance, one queue for each kind of call. A queue that
is used up answers with success. The session records the calls made on it and the time slept, so
it shows what a runner of transactions does under any behaviour of a store.
-/
namespace DocumentStore

/-- The calls that a scripted session is asked for. -/
inductive SessionCall where
  | session | supports | start | body | commit | abort | discard
  deriving DecidableEq, Repr

/-- The name of a call in a record. -/
def SessionCall.text : SessionCall → String
  | .session => "session"
  | .supports => "supports"
  | .start => "start"
  | .body => "body"
  | .commit => "commit"
  | .abort => "abort"
  | .discard => "discard"

/-- The answers to come, and what happened so far. -/
structure Script where
  /-- Whether transactions are supported. -/
  transactional : Bool := true
  /-- The answers still to be given by each kind of call, `none` standing for success. -/
  queue : SessionCall → List (Option ServiceError) := fun _ => []
  /-- Whether the session is in a transaction. -/
  isOpen : Bool := false
  /-- The calls made, in order. -/
  record : List SessionCall := []
  /-- The milliseconds slept. -/
  slept : Nat := 0

namespace Script

def recorded (script : Script) (call : SessionCall) : Script :=
  { script with record := script.record ++ [call] }

/-- Takes the next answer of a call. -/
def take (call : SessionCall) : StateM Script (Result Unit) := fun script =>
  let script := script.recorded call
  match script.queue call with
  | [] => (.ok (), script)
  | answer :: rest =>
    let script := { script with
      queue := fun other => if other = call then rest else script.queue other }
    match answer with
    | none => (.ok (), script)
    | some e => (.error e, script)

/-- Takes the next answer of a call that opens or closes the transaction if it succeeds. -/
def takeThen (call : SessionCall) (isOpen : Bool) : StateM Script (Result Unit) := do
  match ← take call with
  | .ok () => do
    modify ({ · with isOpen })
    return .ok ()
  | .error e => return .error e

/-- The scripted session. -/
def control : Control (StateM Script) where
  inTransaction := do return (← get).isOpen
  supported := do
    match ← take .supports with
    | .ok () => return .ok (← get).transactional
    | .error e => return .error e
  start := takeThen .start true
  commit := takeThen .commit false
  abort := takeThen .abort false
  discard := modify fun script => { script.recorded .discard with isOpen := false }
  sleep ms := modify fun script => { script with slept := script.slept + ms }

/-- Runs the scripted body on the session that is given, or else on one that is opened. -/
def run (policy : RetryPolicy) (given : Bool) : StateM Script (Result Unit) := do
  if given then Transaction.run control policy (take .body)
  else
    match ← take .session with
    | .ok () => Transaction.run control policy (take .body)
    | .error e => return .error e

end Script

end DocumentStore
