import DocumentStore.Base64
import DocumentStore.Calendar
import DocumentStore.Decimal128
import DocumentStore.Double.Nearest
import DocumentStore.Value

/-!
# Tagged values

A format without the types of a document writes a value as a document of its own whose only
field is a tag, a name that begins with a dollar sign: `$oid` for an identifier, `$date` for a
point in time. Storing a value replaces such documents by what they stand for, from the inside
out. A document with a tag whose body does not fit stays a document.
-/
namespace DocumentStore

/-! ## Text -/

/-- The letters of the options of a regular expression in order. -/
def sortedOptions (options : String) : String :=
  String.ofList (options.toList.mergeSort fun a b => a.toNat ≤ b.toNat)

/-- A regular expression. Neither part may have a character of code zero. -/
def Value.regex? (pattern options : String) : Option Value :=
  if pattern.toList.contains '\x00' || options.toList.contains '\x00' then none
  else some (.regex pattern (sortedOptions options))

/-- An integer of thirty-two bits in decimal digits. -/
def Value.int32OfText? (text : String) : Option Value := do
  let n ← Numeral.integer? text.toList
  if fitsInt32 n then some (.int32 (.ofInt n)) else none

/-- An integer of sixty-four bits in decimal digits. -/
def Value.int64OfText? (text : String) : Option Value := do
  let n ← Numeral.integer? text.toList
  if fitsInt64 n then some (.int64 (.ofInt n)) else none

/-- A point in time with its date and its distance to universal time. -/
def Value.dateTimeOfText? (text : String) : Option Value := do
  return .dateTime (.ofInt (← Calendar.read? text.toList))

/-- Bytes in base 64 with their subtype in two hexadecimal digits. -/
def Value.binaryOfText? (bytes subtype : String) : Option Value := do
  let bytes ← Base64.decode? bytes.toList
  let n ← hexNumber? subtype.toList
  if subtype.toList.length = 2 then some (.binary (.ofNat n) bytes) else none

/-- The value that a text stands for behind a tag. -/
def Value.ofTaggedText? (tag text : String) : Option Value :=
  match tag with
  | "$oid" => do return .objectId (← ObjectId.ofText? text)
  | "$symbol" => some (.symbol text)
  | "$numberInt" => int32OfText? text
  | "$numberLong" => int64OfText? text
  | "$numberDouble" => do return .double (← Double.ofText? text.toList)
  | "$numberDecimal" => do return .decimal (← Decimal128.ofText? text.toList).bytes
  | "$code" => some (.javaScript text)
  | "$date" => dateTimeOfText? text
  | _ => none

/-! ## Bodies -/

/-- Sixteen bytes of a decimal number. -/
def Value.decimalOfBytes? (bytes : List UInt8) : Option Value :=
  if bytes.length = 16 then some (.decimal bytes) else none

/-- Bytes with a subtype: both as text, or the bytes as they are and the subtype as a number. -/
def Value.binaryOfFields? (fields : Document) : Option Value :=
  match Document.get? fields "base64", Document.get? fields "subType" with
  | some (.string bytes), some (.string subtype) => binaryOfText? bytes subtype
  | some (.string _), _ => none
  | _, some (.int32 n) =>
    match Document.get? fields "bytes" with
    | some (.binary subtype bytes) =>
      if subtype = 0 && 0 ≤ n.toInt && n.toInt < 256 then
        some (.binary (.ofNat n.toInt.toNat) bytes)
      else none
    | _ => none
  | _, _ => none

/-- A time and an increment. Numbers of thirty-two bits count without a sign, those of
sixty-four bits must be in range. -/
def Value.timestampOfFields? (fields : Document) : Option Value :=
  let isWord (n : Int64) : Bool := 0 ≤ n.toInt && n.toInt < 0x100000000
  match Document.get? fields "t", Document.get? fields "i" with
  | some (.int32 time), some (.int32 increment) =>
    some (.timestamp time.toUInt32 increment.toUInt32)
  | some (.int64 time), some (.int64 increment) =>
    if isWord time && isWord increment then
      some (.timestamp (.ofNat time.toInt.toNat) (.ofNat increment.toInt.toNat))
    else none
  | _, _ => none

/-- A pattern and its options. -/
def Value.regexOfFields? (fields : Document) : Option Value :=
  match Document.get? fields "pattern", Document.get? fields "options" with
  | some (.string pattern), some (.string options) => regex? pattern options
  | _, _ => none

/-- A collection and an identifier in it. -/
def Value.pointerOfFields? (fields : Document) : Option Value :=
  match Document.get? fields "$ref", Document.get? fields "$id" with
  | some (.string collection), some (.objectId id) => some (.pointer collection id)
  | _, _ => none

/-- Whether a value is the flag that is set. -/
def Value.isTrue : Value → Bool
  | .boolean flag => flag
  | _ => false

/-- Whether a value is the integer one. -/
def Value.isOne : Value → Bool
  | .int32 n => n == 1
  | .int64 n => n == 1
  | _ => false

/-- The value that a body stands for behind a tag. -/
def Value.ofTag? (tag : String) : Value → Option Value
  | .string text => ofTaggedText? tag text
  | .document fields =>
    match tag with
    | "$binary" => binaryOfFields? fields
    | "$timestamp" => timestampOfFields? fields
    | "$regularExpression" => regexOfFields? fields
    | "$dbPointer" => pointerOfFields? fields
    | _ => none
  | body =>
    match tag, body with
    | "$numberDecimalBytes", .binary subtype bytes =>
      if subtype = 0 then decimalOfBytes? bytes else none
    | "$date", .int64 millis => some (.dateTime millis)
    | "$minKey", body => if body.isOne then some .minKey else none
    | "$maxKey", body => if body.isOne then some .maxKey else none
    | "$undefined", .boolean true => some .undefined
    | _, _ => none

/-- The value that a document stands for: that of its tag, or the document itself. A code with
its scope has two tags, in any order. -/
def Value.ofFields (fields : Document) : Value :=
  match fields with
  | [(tag, body)] => (ofTag? tag body).getD (.document fields)
  | [_, _] =>
    match Document.get? fields "$code", Document.get? fields "$scope" with
    | some (.string code), some (.document scope) => .javaScriptWithScope code scope
    | _, _ => .document fields
  | _ => .document fields

/-! ## Storing -/

mutual

/-- A value as it is stored. The options of a regular expression are put in order, and a decimal
is written in the one way that there is for its number. A scope that stands for another value
leaves its code a document. -/
def Value.stored : Value → Value
  | .array items => .array (storedItems items)
  | .document fields => ofFields (storedFields fields)
  | .regex pattern options => .regex pattern (sortedOptions options)
  | .decimal bytes => .decimal (Decimal128.ofBytes bytes).bytes
  | .javaScriptWithScope code scope =>
    match ofFields (storedFields scope) with
    | .document scope => .javaScriptWithScope code scope
    | scope => .document [("$code", .string code), ("$scope", scope)]
  | value => value

def Value.storedItems : List Value → List Value
  | [] => []
  | item :: rest => item.stored :: storedItems rest

def Value.storedFields : List (String × Value) → Document
  | [] => []
  | (name, value) :: rest => (name, value.stored) :: storedFields rest

end

end DocumentStore
