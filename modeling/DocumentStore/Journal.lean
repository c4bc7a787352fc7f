import DocumentStore.Service.Call

/-!
# Journal

What a process writes down about the rules that it calls and the transactions that it attempts.
-/
namespace DocumentStore

/-- An entry of the journal. -/
inductive Entry where
  /-- A validator was called, on an update with its filter. -/
  | validation (service rule : String) (kind : ValidatorKind) (filter : Option Document)
      (depth : Nat) (inTransaction : Option Bool)
  /-- A delete rule was called. -/
  | deletion (service rule : String) (ids : List Key) (depth : Nat) (inTransaction : Bool)
  /-- The body of a transaction was entered. -/
  | attempt (number : Nat) (inTransaction : Bool)
  /-- A rule made a call and got an answer. -/
  | answered (call : Service.Call) (answer : call.Answer)

end DocumentStore
