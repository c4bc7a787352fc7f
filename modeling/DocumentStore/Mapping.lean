import DocumentStore.Error
import DocumentStore.Value.Reading

/-!
# Stored mappings

What is written to a collection is a document. Other values are refused, and so are numbers that
no stored integer can hold. Tagged documents become what they stand for, both when a document is
written and when it is read.
-/
namespace DocumentStore.Mapping

def ofValue (value : Value) : Result Document :=
  match value.stored with
  | .document fields => .ok fields
  | value => .error (.invalidDocument (.notADocument value.type))

def ofDocument (d : Document) : Result Document := ofValue (.document d)

/-- The document with a natural number as its only field. -/
def ofNat (name : String) (n : Nat) : Result Document :=
  if fitsInt64 n then .ok (Document.single name (.int64 (.ofInt n)))
  else .error (.serialization "BSON error: the number is too large")

/-- A stored document as it is read. It must still be one. -/
def read (d : Document) : Result Document :=
  match (Value.document d).read? with
  | some (.document fields) => .ok fields
  | some value => .error (.invalidDocument (.malformed ("unexpected " ++ value.type.text)))
  | none => .error (.invalidDocument (.malformed "malformed tag"))

end DocumentStore.Mapping
