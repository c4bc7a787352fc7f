import DocumentStore.Value.Text

/-!
# Errors

Every operation that can fail does so with a `ServiceError`. An error names its cause; the
wording is `ServiceError.text`. Errors raised inside a rule are wrapped in the rule's name,
and the wrappers are transparent for telling whether a retry may help.
-/
namespace DocumentStore

/-! ## Causes -/

/-- What is wrong with a filter, an update, a pipeline or another request. -/
inductive QueryFault where
  /-- An operator that takes a list was built with something else. -/
  | sequenceRequired (operator path : String) (found : ValueType)
  | negativeSize (path : String) (size : Int)
  | documentsRequired (operator : String)
  | documentRequired (operator : String)
  | arrayRequired (operator : String)
  | integerRequired (operator : String)
  | stringRequired (operator : String)
  | literalRequired
  | typeRequired
  | operatorsRequired
  | unknownJunction (operator : String)
  | unknownOperator (operator : String)
  | pattern (reason : String)
  | emptyUpdate
  | unknownUpdate (operator : String)
  | fieldsRequired (operator : String)
  | immutableId
  | notADocument (field rest : String)
  | notANumber (path : String)
  | oneOperatorPerStage
  | fieldNamesRequired
  | fieldNameOrListRequired
  | fieldNameRequired
  | unknownStage (operator : String)
  | unknownVariable (reference : String)
  | unknownExpression (operator : String)
  | accumulatorRequired (field : String)
  | unknownAccumulator (operator : String)
  | groupKeyRequired
  | ambiguousDelete (count : Nat) (collection : String)
  | emptyIndex
  | custom (text : String)
  deriving DecidableEq, Repr

/-- What is wrong with a document. -/
inductive DocumentFault where
  | notAKey (expected : String) (found : ValueType)
  | noId
  | notADocument (found : ValueType)
  /-- The document does not fit the type it is read into. -/
  | malformed (reason : String)
  | custom (text : String)
  deriving DecidableEq, Repr

/-- What went wrong in the store itself. -/
inductive BackendFault where
  | transactionOpen (session : Nat)
  | noTransaction (session : Nat)
  | transactionsUnsupported
  | unknownIndex (name collection : String)
  | custom (text : String)
  deriving DecidableEq, Repr

/-- Why a transaction may succeed when it is run again. -/
inductive TransientFault where
  | injectedStart
  | injectedCommit
  | conflict (base current : Nat)
  | custom (text : String)
  deriving DecidableEq, Repr

/-- The causes for which an operation fails. -/
inductive ServiceError where
  | serialization (text : String)
  | initialization (text : String)
  | invalidDocument (fault : DocumentFault)
  | documentAlreadyExists (id collection : String)
  | typeMismatch (field expected found : String)
  | invalidQuery (fault : QueryFault)
  | rejected (reason : String)
  | validationFailed (rule : String) (source : ServiceError)
  | deleteDenied (rule : String) (source : ServiceError)
  | deleteRuleFailed (rule : String) (source : ServiceError)
  | cascadeTooDeep (collection : String) (depth : Nat)
  | notFound (collection filter : String)
  | transactionAborted (attempts : Nat) (source : ServiceError)
  | transientTransaction (fault : TransientFault)
  | backend (fault : BackendFault)
  deriving DecidableEq, Repr

/-- The result of an operation. -/
abbrev Result (α : Type) := Except ServiceError α

/-- What is done in two steps succeeds only if both of them do. -/
theorem Result.bind_eq_ok {α β : Type} {x : Result α} {f : α → Result β} {value : β}
    (h : x >>= f = .ok value) : ∃ a, x = .ok a ∧ f a = .ok value := by
  cases x with
  | error e => cases h
  | ok a => exact ⟨a, rfl, h⟩

/-- What follows a check is done if the check succeeds. -/
theorem Result.check_eq_ok {α : Type} {check : Result Unit} {next : Unit → Result α} {value : α} :
    check >>= next = .ok value ↔ check = .ok () ∧ next () = .ok value := by
  cases check with
  | error e => exact ⟨nofun, fun ⟨h, _⟩ => (by cases h)⟩
  | ok _ => exact ⟨fun h => ⟨rfl, h⟩, fun ⟨_, h⟩ => h⟩

/-! ## Wording -/

/-- The wording of a fault in a request. -/
def QueryFault.text : QueryFault → String
  | .sequenceRequired operator path found =>
    operator ++ " on '" ++ path ++ "' requires a sequence, got " ++ found.text
  | .negativeSize path size =>
    "$size on '" ++ path ++ "' requires a non-negative length, got " ++ toString size
  | .documentsRequired operator => operator ++ " requires an array of documents"
  | .documentRequired operator => operator ++ " requires a document"
  | .arrayRequired operator => operator ++ " requires an array"
  | .integerRequired operator => operator ++ " requires an integer"
  | .stringRequired operator => operator ++ " requires a string"
  | .literalRequired => "only boolean literals are supported in $expr"
  | .typeRequired => "$type requires a type alias or code"
  | .operatorsRequired => "$not requires an operator document or a regex"
  | .unknownJunction operator => "unsupported top-level operator " ++ operator
  | .unknownOperator operator => "unsupported operator " ++ operator
  | .pattern reason => "invalid regular expression: " ++ reason
  | .emptyUpdate => "update document must not be empty"
  | .unknownUpdate operator => "unsupported update operator " ++ operator
  | .fieldsRequired operator => operator ++ " requires a document of fields"
  | .immutableId => "the _id field is immutable"
  | .notADocument field rest =>
    "cannot create field '" ++ rest ++ "' in non-document field '" ++ field ++ "'"
  | .notANumber path =>
    "cannot apply $inc to non-numeric or overflowing field '" ++ path ++ "'"
  | .oneOperatorPerStage => "an aggregation stage must have exactly one operator"
  | .fieldNamesRequired => "$unset requires field names"
  | .fieldNameOrListRequired => "$unset requires a field name or a list of them"
  | .fieldNameRequired => "$count requires a field name"
  | .unknownStage operator =>
    "aggregation stage " ++ operator ++ " is not supported by the in-memory driver"
  | .unknownVariable reference =>
    "variable " ++ reference ++ " is not supported by the in-memory driver"
  | .unknownExpression operator =>
    "expression operator " ++ operator ++ " is not supported by the in-memory driver"
  | .accumulatorRequired field => "$group field '" ++ field ++ "' must be a single accumulator"
  | .unknownAccumulator operator =>
    "accumulator " ++ operator ++ " is not supported by the in-memory driver"
  | .groupKeyRequired => "$group requires an _id expression"
  | .ambiguousDelete count collection =>
    "delete_one filter matched " ++ toString count ++ " documents in " ++ collection
  | .emptyIndex => "an index needs at least one key"
  | .custom text => text

def DocumentFault.text : DocumentFault → String
  | .notAKey expected found => "expected " ++ expected ++ " primary key, found " ++ found.text
  | .noId => "document has no _id field"
  | .notADocument found => "expected a document, found " ++ found.text
  | .malformed reason => "BSON error: " ++ reason
  | .custom text => text

/-- The wording of a fault of the store. -/
def BackendFault.text : BackendFault → String
  | .transactionOpen session =>
    "session " ++ toString session ++ " already has a transaction in progress"
  | .noTransaction session =>
    "session " ++ toString session ++ " has no transaction in progress"
  | .transactionsUnsupported => "transactions are not supported"
  | .unknownIndex name collection =>
    "index not found with name [" ++ name ++ "] in collection " ++ collection
  | .custom text => text

def TransientFault.text : TransientFault → String
  | .injectedStart => "injected start failure"
  | .injectedCommit => "injected commit failure"
  | .conflict base current =>
    "write conflict: store moved from version " ++ toString base ++ " to " ++ toString current
  | .custom text => text

namespace ServiceError

/-- The message of an error. -/
def text : ServiceError → String
  | .serialization text => "Serialization error: " ++ text
  | .initialization text => "Initialization error: " ++ text
  | .invalidDocument fault => "Invalid document: " ++ fault.text
  | .documentAlreadyExists id collection =>
    "Document " ++ id ++ " already exists in collection " ++ collection
  | .typeMismatch field expected found =>
    "Type mismatch on field '" ++ field ++ "': expected " ++ expected ++ ", found " ++ found
  | .invalidQuery fault => "Invalid query: " ++ fault.text
  | .rejected reason => reason
  | .validationFailed rule source => "Validation failed in " ++ rule ++ ": " ++ source.text
  | .deleteDenied rule source => "Delete denied by " ++ rule ++ ": " ++ source.text
  | .deleteRuleFailed rule source => "Delete rule " ++ rule ++ " failed: " ++ source.text
  | .cascadeTooDeep collection depth =>
    "Cascading delete in collection " ++ collection ++ " exceeded depth " ++ toString depth
  | .notFound collection filter =>
    "No document matched " ++ filter ++ " in collection " ++ collection
  | .transactionAborted attempts source =>
    "Transaction aborted after " ++ toString attempts ++ " attempt(s): " ++ source.text
  | .transientTransaction fault => "Transient transaction error: " ++ fault.text
  | .backend fault => "Backend error: " ++ fault.text

/-- The name of the kind of an error. -/
def kind : ServiceError → String
  | .serialization _ => "Serialization"
  | .initialization _ => "Initialization"
  | .invalidDocument _ => "InvalidDocument"
  | .documentAlreadyExists _ _ => "DocumentAlreadyExists"
  | .typeMismatch _ _ _ => "TypeMismatch"
  | .invalidQuery _ => "InvalidQuery"
  | .rejected _ => "Rejected"
  | .validationFailed _ _ => "ValidationFailed"
  | .deleteDenied _ _ => "DeleteDenied"
  | .deleteRuleFailed _ _ => "DeleteRuleFailed"
  | .cascadeTooDeep _ _ => "CascadeTooDeep"
  | .notFound _ _ => "NotFound"
  | .transactionAborted _ _ => "TransactionAborted"
  | .transientTransaction _ => "TransientTransaction"
  | .backend _ => "Backend"

/-! ## Classification -/

/-- Whether the operation may succeed when it is run again. Rule wrappers are looked through,
an aborted transaction is not: its retries are over. -/
def isTransient : ServiceError → Bool
  | .transientTransaction _ => true
  | .validationFailed _ source => source.isTransient
  | .deleteDenied _ source => source.isTransient
  | .deleteRuleFailed _ source => source.isTransient
  | _ => false

/-- The error inside of all wrappers. -/
def rootCause : ServiceError → ServiceError
  | .validationFailed _ source => source.rootCause
  | .deleteDenied _ source => source.rootCause
  | .deleteRuleFailed _ source => source.rootCause
  | .transactionAborted _ source => source.rootCause
  | error => error

end ServiceError

end DocumentStore
