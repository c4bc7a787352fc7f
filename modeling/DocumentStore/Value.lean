import DocumentStore.Double

/-!
# Values and documents

A collection holds documents. A document is a list of named values in a fixed order, and a
value is a scalar, an array or again a document. Reading a field finds its first occurrence;
writing one keeps the position of a field that is there and appends one that is not, so the
names of a document that was built by writing are distinct.
-/
namespace DocumentStore

/-! ## Object identifiers -/

/-- A twelve-byte identifier, ordered as a big-endian number. -/
structure ObjectId where
  number : BitVec 96
  deriving DecidableEq, Repr

/-- The digit of a number below sixteen. -/
def hexDigit (n : Nat) : Char :=
  if n < 10 then Char.ofNat (48 + n) else Char.ofNat (87 + n)

/-- The lowest `width` hexadecimal digits of a number, most significant first. -/
def hexDigits (n : Nat) : Nat → List Char
  | 0 => []
  | width + 1 => hexDigits (n / 16) width ++ [hexDigit (n % 16)]

/-- Twenty-four lower-case hexadecimal digits. -/
def ObjectId.text (id : ObjectId) : String := String.ofList (hexDigits id.number.toNat 24)

/-- The value of a hexadecimal digit of either case. -/
def hexValue? (c : Char) : Option Nat :=
  if '0' ≤ c && c ≤ '9' then some (c.toNat - 48)
  else if 'a' ≤ c && c ≤ 'f' then some (c.toNat - 87)
  else if 'A' ≤ c && c ≤ 'F' then some (c.toNat - 55)
  else none

/-- The number that a string of hexadecimal digits denotes. -/
def hexNumber? (digits : List Char) : Option Nat :=
  digits.foldl (fun n? c => do return (← n?) * 16 + (← hexValue? c)) (some 0)

/-- Reads twenty-four hexadecimal digits. -/
def ObjectId.ofText? (text : String) : Option ObjectId :=
  if text.toList.length = 24 then (hexNumber? text.toList).map (⟨BitVec.ofNat 96 ·⟩) else none

/-! ## Values -/

/-- A value of a document. -/
inductive Value where
  | null
  | boolean (flag : Bool)
  | int32 (n : Int32)
  | int64 (n : Int64)
  | double (x : Double)
  | string (text : String)
  | array (items : List Value)
  | document (fields : List (String × Value))
  | objectId (id : ObjectId)
  /-- Milliseconds since the beginning of 1970. -/
  | dateTime (millis : Int64)
  | binary (subtype : UInt8) (bytes : List UInt8)
  | decimal (bytes : List UInt8)
  | regex (pattern options : String)
  | timestamp (time increment : UInt32)
  | symbol (text : String)
  | javaScript (code : String)
  | javaScriptWithScope (code : String) (scope : List (String × Value))
  | pointer (collection : String) (id : ObjectId)
  | undefined
  | minKey
  | maxKey
  deriving BEq, Repr, Inhabited

def Value.isNull : Value → Bool
  | .null => true
  | _ => false

/-- Named values in order. -/
abbrev Document := List (String × Value)

/-! ## Fields of a document -/

namespace Document

/-- The value of the first field of that name. -/
def get? : Document → String → Option Value
  | [], _ => none
  | (name, value) :: rest, key => if name = key then some value else get? rest key

def contains (d : Document) (key : String) : Bool := (get? d key).isSome

def keys (d : Document) : List String := d.map (·.1)

/-- Replaces the field of that name in place, or appends a new one. -/
def insert : Document → String → Value → Document
  | [], key, value => [(key, value)]
  | (name, old) :: rest, key, value =>
    if name = key then (key, value) :: rest else (name, old) :: insert rest key value

/-- Removes the fields of that name and keeps the order of the others. -/
def erase (d : Document) (key : String) : Document := d.filter (fun field => field.1 != key)

/-- Writes the fields one after the other, so that a repeated name keeps its first position
and its last value. -/
def ofFields (fields : List (String × Value)) : Document :=
  fields.foldl (fun d field => insert d field.1 field.2) []

def single (key : String) (value : Value) : Document := [(key, value)]

end Document

/-- The name of the field that identifies a document within its collection. -/
def idField : String := "_id"

/-! ## Types of values -/

inductive ValueType where
  | double | string | document | array | binary | undefined | objectId | boolean | dateTime
  | null | regex | pointer | javaScript | symbol | javaScriptWithScope | int32 | timestamp
  | int64 | decimal | maxKey | minKey
  deriving DecidableEq, Repr

namespace ValueType

/-- The name of a type in messages. -/
def text : ValueType → String
  | .double => "Double"
  | .string => "String"
  | .document => "EmbeddedDocument"
  | .array => "Array"
  | .binary => "Binary"
  | .undefined => "Undefined"
  | .objectId => "ObjectId"
  | .boolean => "Boolean"
  | .dateTime => "DateTime"
  | .null => "Null"
  | .regex => "RegularExpression"
  | .pointer => "DbPointer"
  | .javaScript => "JavaScriptCode"
  | .symbol => "Symbol"
  | .javaScriptWithScope => "JavaScriptCodeWithScope"
  | .int32 => "Int32"
  | .timestamp => "Timestamp"
  | .int64 => "Int64"
  | .decimal => "Decimal128"
  | .maxKey => "MaxKey"
  | .minKey => "MinKey"

/-- The name of a type in filters. -/
def label : ValueType → String
  | .double => "double"
  | .string => "string"
  | .document => "object"
  | .array => "array"
  | .binary => "binData"
  | .undefined => "undefined"
  | .objectId => "objectId"
  | .boolean => "bool"
  | .dateTime => "date"
  | .null => "null"
  | .regex => "regex"
  | .pointer => "dbPointer"
  | .javaScript => "javascript"
  | .symbol => "symbol"
  | .javaScriptWithScope => "javascriptWithScope"
  | .int32 => "int"
  | .timestamp => "timestamp"
  | .int64 => "long"
  | .decimal => "decimal"
  | .maxKey => "maxKey"
  | .minKey => "minKey"

/-- The number of a type in filters and in the binary format. -/
def code : ValueType → Nat
  | .double => 1
  | .string => 2
  | .document => 3
  | .array => 4
  | .binary => 5
  | .undefined => 6
  | .objectId => 7
  | .boolean => 8
  | .dateTime => 9
  | .null => 10
  | .regex => 11
  | .pointer => 12
  | .javaScript => 13
  | .symbol => 14
  | .javaScriptWithScope => 15
  | .int32 => 16
  | .timestamp => 17
  | .int64 => 18
  | .decimal => 19
  | .maxKey => 127
  | .minKey => 255

def isNumber : ValueType → Bool
  | .double | .int32 | .int64 | .decimal => true
  | _ => false

end ValueType

def Value.type : Value → ValueType
  | .null => .null
  | .boolean _ => .boolean
  | .int32 _ => .int32
  | .int64 _ => .int64
  | .double _ => .double
  | .string _ => .string
  | .array _ => .array
  | .document _ => .document
  | .objectId _ => .objectId
  | .dateTime _ => .dateTime
  | .binary _ _ => .binary
  | .decimal _ => .decimal
  | .regex _ _ => .regex
  | .timestamp _ _ => .timestamp
  | .symbol _ => .symbol
  | .javaScript _ => .javaScript
  | .javaScriptWithScope _ _ => .javaScriptWithScope
  | .pointer _ _ => .pointer
  | .undefined => .undefined
  | .minKey => .minKey
  | .maxKey => .maxKey

/-! ## Integers -/

/-- Whether an integer is one of thirty-two bits. -/
def fitsInt32 (n : Int) : Bool := Int32.minValue.toInt ≤ n && n ≤ Int32.maxValue.toInt

/-- Whether an integer is one of sixty-four bits. -/
def fitsInt64 (n : Int) : Bool := Int64.minValue.toInt ≤ n && n ≤ Int64.maxValue.toInt

/-- The nearest integer of sixty-four bits. -/
def clampInt64 (n : Int) : Int :=
  if n < Int64.minValue.toInt then Int64.minValue.toInt
  else if Int64.maxValue.toInt < n then Int64.maxValue.toInt
  else n

/-- An integer of sixty-four bits in the narrowest type that holds it. -/
def Value.ofInt (n : Int) : Value :=
  if fitsInt32 n then .int32 (.ofInt n) else .int64 (.ofInt n)

namespace Value

/-! ## Value equality -/

mutual

/-- Equality of type and value. Fields of documents are compared by name and not by position;
NaN differs from itself and the two zeros are equal. -/
def same : Value → Value → Bool
  | .null, .null => true
  | .boolean a, .boolean b => a == b
  | .int32 a, .int32 b => a == b
  | .int64 a, .int64 b => a == b
  | .double a, .double b => a.equals b
  | .string a, .string b => a == b
  | .array a, .array b => sameItems a b
  | .document a, .document b => a.length == b.length && sameFields a b
  | .objectId a, .objectId b => a == b
  | .dateTime a, .dateTime b => a == b
  | .binary s a, .binary t b => s == t && a == b
  | .decimal a, .decimal b => a == b
  | .regex p o, .regex q r => p == q && o == r
  | .timestamp s i, .timestamp t j => s == t && i == j
  | .symbol a, .symbol b => a == b
  | .javaScript a, .javaScript b => a == b
  | .javaScriptWithScope a s, .javaScriptWithScope b t =>
    a == b && s.length == t.length && sameFields s t
  | .pointer c a, .pointer d b => c == d && a == b
  | .undefined, .undefined => true
  | .minKey, .minKey => true
  | .maxKey, .maxKey => true
  | _, _ => false

/-- Equality position by position. -/
def sameItems : List Value → List Value → Bool
  | [], [] => true
  | a :: as, b :: bs => same a b && sameItems as bs
  | _, _ => false

/-- Whether every field is present in the document with the same value. -/
def sameFields : List (String × Value) → Document → Bool
  | [], _ => true
  | (name, value) :: rest, d =>
    (match Document.get? d name with
      | some other => same value other
      | none => false) && sameFields rest d

end

end Value

/-- Equality of documents as maps from names to values. -/
def Document.same (a b : Document) : Bool := Value.same (.document a) (.document b)

/-- Equality of possibly missing values. -/
def Value.sameOption : Option Value → Option Value → Bool
  | none, none => true
  | some a, some b => a.same b
  | _, _ => false

end DocumentStore
