import DocumentStore.Error
import DocumentStore.Value.Reading

/-!
# Records

A record has named fields of fixed shapes. Reading a document as a record ignores the fields
that the record does not name, takes the defaults of those that are missing, and brings the
rest into the order and the types of the record.
-/
namespace DocumentStore

/-- The shape of a field. -/
inductive Shape where
  | objectId
  | string
  | int32
  | list (item : Shape)
  | optional (inner : Shape)
  deriving Repr

namespace Shape

/-- The error for a value of another shape. -/
def mismatch (value : Value) : ServiceError :=
  .invalidDocument (.malformed ("unexpected " ++ value.type.text))

/-- The identifier that a value is or stands for. -/
def idOf? : Value → Option ObjectId
  | .objectId id => some id
  | .document fields =>
    match (Value.document fields).read? with
    | some (.objectId id) => some id
    | _ => none
  | value => value.idOfBody?

/-- Reads a value in a shape. Identifiers may be written as text, as bytes or with a tag, text may
be bytes that encode it, and integers may be wide if their number is not. -/
def read : Shape → Value → Result Value
  | .objectId, value =>
    match idOf? value with
    | some id => .ok (.objectId id)
    | none => .error (mismatch value)
  | .string, value =>
    match value.asText? with
    | some text => .ok (.string text)
    | none => .error (mismatch value)
  | .int32, .int32 n => .ok (.int32 n)
  | .int32, .int64 n =>
    if fitsInt32 n.toInt then .ok (.int32 (.ofInt n.toInt)) else .error (mismatch (.int64 n))
  | .list item, .array items => do return .array (← items.mapM (read item))
  | .optional _, .null => .ok .null
  | .optional inner, value => read inner value
  | _, value => .error (mismatch value)

end Shape

structure RecordField where
  name : String
  shape : Shape
  /-- The value of a field that is missing. -/
  default : Option Value := none
  /-- Whether the field is left out when it is null. -/
  leftOut : Bool := false

abbrev Record := List RecordField

namespace RecordField

/-- A field that must be there. -/
def required (name : String) (shape : Shape) : RecordField := { name, shape }

/-- A field that is null when it is missing. -/
def nullable (name : String) (shape : Shape) : RecordField :=
  { name, shape := .optional shape, default := some .null }

def read (field : RecordField) (d : Document) : Result Value :=
  match Document.get? d field.name, field.default with
  | some value, _ => field.shape.read value
  | none, some default => .ok default
  | none, none => .error (.invalidDocument (.malformed ("missing " ++ field.name)))

end RecordField

namespace Record

def read : Record → Document → Result Document
  | [], _ => .ok []
  | field :: rest, d => do
    let value ← field.read d
    let others ← read rest d
    return if field.leftOut && value.isNull then others else (field.name, value) :: others

end Record

end DocumentStore
