import DocumentStore.Base64
import DocumentStore.Calendar
import DocumentStore.Decimal128
import DocumentStore.Double.Decimal
import DocumentStore.Value

/-!
# Text of values

How a value is written in a message: scalars in their usual notation, strings in quotes with
nothing escaped, bytes in base 64, containers with their parts in order.
-/
namespace DocumentStore

mutual

def Value.text : Value → String
  | .null => "null"
  | .boolean flag => if flag then "true" else "false"
  | .int32 n => toString n.toInt
  | .int64 n => toString n.toInt
  | .double x => x.text
  | .string text => "\"" ++ text ++ "\""
  | .array items => "[" ++ ", ".intercalate (itemTexts items) ++ "]"
  | .document fields => if fields.isEmpty then "\x7b\x7d" else
    "\x7b " ++ ", ".intercalate (fieldTexts fields) ++ " \x7d"
  | .objectId id => "ObjectId(\"" ++ id.text ++ "\")"
  | .dateTime millis => "DateTime(\"" ++ Calendar.text millis.toInt ++ "\")"
  | .binary subtype bytes =>
    "Binary(0x" ++ String.ofList (Nat.toDigits 16 subtype.toNat) ++ ", "
      ++ String.ofList (Base64.encode bytes) ++ ")"
  | .decimal bytes => (Decimal128.ofBytes bytes).text
  | .regex pattern options => "/" ++ pattern ++ "/" ++ options
  | .timestamp time increment =>
    "Timestamp(" ++ toString time.toNat ++ ", " ++ toString increment.toNat ++ ")"
  | .symbol text => "Symbol(\"" ++ text ++ "\")"
  | .javaScript code => code
  | .javaScriptWithScope code _ => code
  | .pointer collection id => "DbPointer(" ++ collection ++ ", " ++ id.text ++ ")"
  | .undefined => "undefined"
  | .minKey => "MinKey"
  | .maxKey => "MaxKey"

def itemTexts : List Value → List String
  | [] => []
  | item :: rest => item.text :: itemTexts rest

def fieldTexts : List (String × Value) → List String
  | [] => []
  | (name, value) :: rest => ("\"" ++ name ++ "\": " ++ value.text) :: fieldTexts rest

end

def Document.text (d : Document) : String := (Value.document d).text

end DocumentStore
