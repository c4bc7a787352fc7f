import DocumentStore.Error

/-!
# Primary keys

A service reads the identifiers of its documents as keys of one kind. A key has one stored
form; only integers are also read from a narrower one.
-/
namespace DocumentStore

/-! ## Keys -/

inductive KeyKind where
  | objectId
  | string
  | integer
  | uuid
  deriving DecidableEq, Repr

def KeyKind.text : KeyKind → String
  | .objectId => "an ObjectId"
  | .string => "a string"
  | .integer => "an integer"
  | .uuid => "a UUID"

/-- A universally unique identifier. -/
structure Uuid where
  bytes : List UInt8
  length_bytes : bytes.length = 16
  deriving DecidableEq, Repr

/-- The subtype of binary values that holds universally unique identifiers. -/
def Uuid.subtype : UInt8 := 4

/-- A primary key. -/
inductive Key where
  | objectId (id : ObjectId)
  | string (text : String)
  | integer (n : Int64)
  | uuid (id : Uuid)
  deriving DecidableEq, Repr

namespace Key

/-- The kind of a key. -/
def kind : Key → KeyKind
  | .objectId _ => .objectId
  | .string _ => .string
  | .integer _ => .integer
  | .uuid _ => .uuid

/-- The stored form of a key. -/
def toValue : Key → Value
  | .objectId id => .objectId id
  | .string text => .string text
  | .integer n => .int64 n
  | .uuid id => .binary Uuid.subtype id.bytes

/-- Reads a key of a kind from its stored form. -/
def ofValue (kind : KeyKind) (value : Value) : Result Key :=
  match kind, value with
  | .objectId, .objectId id => .ok (.objectId id)
  | .string, .string text => .ok (.string text)
  | .integer, .int64 n => .ok (.integer n)
  | .integer, .int32 n => .ok (.integer n.toInt64)
  | .uuid, .binary subtype bytes =>
    if h : bytes.length = 16 then
      if subtype = Uuid.subtype then .ok (.uuid ⟨bytes, h⟩)
      else .error (.invalidDocument (.malformed "unexpected binary subtype"))
    else .error (.invalidDocument (.malformed "unexpected number of bytes"))
  | kind, value => .error (.invalidDocument (.notAKey kind.text value.type))

def ofDocument (kind : KeyKind) (d : Document) : Result Key :=
  match Document.get? d idField with
  | some value => ofValue kind value
  | none => .error (.invalidDocument .noId)

def filter (key : Key) : Document := Document.single idField key.toValue

/-- The stored forms of some keys. -/
def toValues (keys : List Key) : Value := .array (keys.map toValue)

def filterIn (field : String) (keys : List Key) : Document :=
  Document.single field (.document (Document.single "$in" (toValues keys)))

def filterAll (keys : List Key) : Document := filterIn idField keys

end Key

end DocumentStore
