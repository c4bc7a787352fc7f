import DocumentStore.Journal
import DocumentStore.Store.Call

/-!
# Programs of rules

What a rule does, as data: a result, or a request and what to do with its answer. A rule reaches
documents through services, which it names, or calls the store itself. Either acts on the session
that the rule was handed, unless it asks to act outside of it.
-/
namespace DocumentStore

/-! ## Requests -/

/-- What a rule can ask for. -/
inductive Request where
  /-- A call to a service. -/
  | call (service : String) (outside : Bool) (call : Service.Call)
  /-- A call to the store. -/
  | store (outside : Bool) (call : Store.Call)
  | sleep (ms : Nat)
  /-- An entry for the journal. -/
  | record (entry : Entry)
  /-- The number of times that a counter was advanced, this time included. -/
  | tick (counter : String)

@[reducible] def Request.Answer : Request → Type
  | .call _ _ c => c.Answer
  | .store _ c => c.Answer
  | .sleep _ => Unit
  | .record _ => Unit
  | .tick _ => Nat

/-! ## Programs -/

/-- A computation that makes requests one after the other. -/
inductive Program (α : Type) where
  | done (result : Result α)
  | ask (request : Request) (next : Result request.Answer → Program α)

namespace Program

variable {α β : Type}

/-- Goes on with the value of a program. An error ends it. -/
def bind : Program α → (α → Program β) → Program β
  | .done (.ok value), f => f value
  | .done (.error e), _ => .done (.error e)
  | .ask request next, f => .ask request fun answer => (next answer).bind f

instance : Monad Program where
  pure value := .done (.ok value)
  bind := Program.bind

def fail (e : ServiceError) : Program α := .done (.error e)

/-- The program of a result. -/
instance : MonadLift (Except ServiceError) Program := ⟨.done⟩

/-- Makes a request. -/
def request (request : Request) : Program request.Answer := .ask request .done

/-- Calls a service on the session of the rule. -/
def call (service : String) (c : Service.Call) : Program c.Answer :=
  request (.call service false c)

/-- Adds an entry to the journal. -/
def record (entry : Entry) : Program Unit := request (.record entry)

def run {m : Type → Type} [Monad m] (answer : (request : Request) → m (Result request.Answer)) :
    Program α → m (Result α)
  | .done result => return result
  | .ask request next => do (next (← answer request)).run answer

end Program

/-! ## Hooks -/

/-- The data of a write. -/
inductive Payload where
  | insert (data : Document)
  | update (changes : Document)

namespace Payload

def document : Payload → Document
  | .insert data => data
  | .update changes => changes

/-- The kind of write that a payload belongs to. -/
def kind : Payload → ValidatorKind
  | .insert _ => .insert
  | .update _ => .update

end Payload

/-- What a validator is told. -/
structure Validation where
  payload : Payload
  /-- The filter of an update. -/
  filter : Option Document
  /-- How many delete rules the service was handed down through. -/
  depth : Nat
  /-- Whether the session is in a transaction, if there is a session. -/
  inTransaction : Option Bool

/-- What a delete rule is told. -/
structure Deletion where
  ids : List Key
  /-- How many delete rules the service was handed down through, this one included. -/
  depth : Nat
  inTransaction : Bool

/-- The rules of a service with what they do. -/
abbrev Rules := RuleSet (Validation → Program Unit) (Deletion → Program Unit)

end DocumentStore
