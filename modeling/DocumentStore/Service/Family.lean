import DocumentStore.Service.Operation

/-!
# Families of services

Rules call services by name, whose rules may call services again. Every such call goes one level
deeper, and the number of levels is bounded. The bound is beyond what any machine can nest; it
is there so that a family whose rules call each other in circles still has a meaning.
-/
namespace DocumentStore

/-- Answers the requests of rules, given how the services that they name are called. -/
def Answerer.of (perform : (depth : Nat) → Option SessionId → (service : String) →
    (call : Service.Call) → Action call.Answer) : Answerer
  | depth, session, .call service outside call =>
    perform depth (if outside then none else session) service call
  | _, session, .store outside call => Process.ask (if outside then none else session) call
  | _, _, .sleep ms => ExceptT.lift (Process.sleep ms)
  | _, _, .record entry => ExceptT.lift (Process.record entry)
  | _, _, .tick counter => ExceptT.lift (Process.tick counter)

namespace Family

/-- Calls a service of the family, handed down through a number of delete rules, with a bound on
the levels of calls. -/
def performWithin (family : Family) :
    (levels : Nat) → (depth : Nat) → Option SessionId → (service : String) →
      (call : Service.Call) → Action call.Answer
  | 0, _, _, _, _ => ExceptT.lift (throw Stop.nesting)
  | levels + 1, depth, session, service, call =>
    let answerer := Answerer.of (performWithin family levels)
    Handle.answer ⟨family service, depth⟩ answerer session call

/-- The bound on the levels of calls. -/
def levels : Nat := 0x10000000000000000

def perform (family : Family) (session : Option SessionId) (service : String)
    (call : Service.Call) : Action call.Answer :=
  family.performWithin levels 0 session service call

end Family

end DocumentStore
