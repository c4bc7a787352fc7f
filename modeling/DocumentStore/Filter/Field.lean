import DocumentStore.Error

/-!
# Fields

A field is declared with its path and the kind of its values. The kind decides which operands
its comparisons accept, so that a filter built from fields is known to be sensible before it
meets a document.
-/
namespace DocumentStore

/-- The kind of a field's values. -/
inductive FieldKind where
  | any | bool | number | string | objectId | uuid | date | array | object
  deriving DecidableEq, Repr

namespace FieldKind

/-- The name of a kind. -/
def text : FieldKind → String
  | .any => "any"
  | .bool => "bool"
  | .number => "number"
  | .string => "string"
  | .objectId => "objectId"
  | .uuid => "uuid"
  | .date => "date"
  | .array => "array"
  | .object => "object"

/-- Every kind, in order of declaration. -/
def all : List FieldKind :=
  [.any, .bool, .number, .string, .objectId, .uuid, .date, .array, .object]

/-- Whether a value is of a kind. Identifiers of sixteen bytes have binary subtype four. -/
def admits : FieldKind → Value → Bool
  | .any, _ => true
  | .bool, .boolean _ => true
  | .number, .int32 _ => true
  | .number, .int64 _ => true
  | .number, .double _ => true
  | .number, .decimal _ => true
  | .string, .string _ => true
  | .objectId, .objectId _ => true
  | .uuid, .binary subtype _ => subtype == 4
  | .date, .dateTime _ => true
  | .array, .array _ => true
  | .object, .document _ => true
  | _, _ => false

end FieldKind

/-- A declared field. -/
structure Field where
  path : String
  kind : FieldKind
  nullable : Bool := false
  deriving DecidableEq, Repr

namespace Field

/-- The field that identifies a document. -/
def id : Field := ⟨idField, .any, false⟩

def nested (outer inner : Field) : Field :=
  ⟨outer.path ++ "." ++ inner.path, inner.kind, outer.nullable || inner.nullable⟩

/-- The error for an operand of the wrong kind. -/
def mismatch (field : Field) (value : Value) : ServiceError :=
  .typeMismatch field.path
    (if field.nullable then field.kind.text ++ " or null" else field.kind.text) value.type.text

/-- Whether a comparison accepts an operand. The operand of an array field may be an element
of any kind. -/
def accepts (field : Field) (allowNull : Bool) : Value → Bool
  | .null => allowNull && (field.nullable || field.kind == .any)
  | value => field.kind == .array || field.kind.admits value

/-- Checks the operand of a comparison. -/
def check (field : Field) (allowNull : Bool) (value : Value) : Result Unit :=
  if field.accepts allowNull value then .ok () else .error (field.mismatch value)

/-- Checks that an operator suits a field. -/
def require (field : Field) (kind : FieldKind) (operator : String) : Result Unit :=
  if field.kind == .any || field.kind == kind then .ok ()
  else .error (.typeMismatch field.path kind.text
    (field.kind.text ++ " field used with " ++ operator))

end Field

end DocumentStore
