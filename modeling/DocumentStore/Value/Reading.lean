import DocumentStore.Value.Tagged

/-!
# Reading stored values

Reading a stored value replaces tagged documents too, but more strictly than storing does. A tag
counts at any position among the fields of a document: the fields before it are dropped, the
fields after it are not looked at, and a body that does not fit is an error. Bodies may be
written in more ways; text may be bytes that encode it, and named parts may be a list.
-/
namespace DocumentStore

/-! ## Parts of bodies -/

/-- Text, or bytes of no subtype that encode one. -/
def Value.asText? : Value → Option String
  | .string text => some text
  | .binary subtype bytes =>
    if subtype = 0 then String.fromUTF8? ⟨bytes.toArray⟩ else none
  | _ => none

/-- A natural number of thirty-two bits. -/
def Value.word? (value : Value) : Option UInt32 := do
  let n ← match value with
    | .int32 n => some n.toInt
    | .int64 n => some n.toInt
    | _ => none
  if 0 ≤ n && n < 0x100000000 then some (.ofNat n.toNat) else none

/-- A byte as a number. -/
def Value.byte? (value : Value) : Option UInt8 := do
  let n ← value.word?
  if n < 256 then some n.toUInt8 else none

def Value.part? (name : String) : Value → Option Value
  | .array (part :: _) => some part
  | .document [(key, part)] => if key = name then some part else none
  | _ => none

/-- The parts of a body with two parts. -/
def Value.parts? (first second : String) : Value → Option (Value × Value)
  | .array (a :: b :: _) => some (a, b)
  | .document fields => do
    if fields.length = 2 then
      return (← Document.get? fields first, ← Document.get? fields second)
    else none
  | _ => none

/-! ## Tags -/

/-- An identifier as text or as its twelve bytes. -/
def Value.idOfBody? : Value → Option ObjectId
  | .string text => ObjectId.ofText? text
  | .binary subtype bytes =>
    if subtype = 0 && bytes.length = 12 then
      some ⟨.ofNat 96 (bytes.foldl (fun n b => n * 256 + b.toNat) 0)⟩
    else none
  | _ => none

/-- An identifier within a pointer. -/
def Value.idOfPointer? : Value → Option ObjectId
  | .objectId id => some id
  | body => do ObjectId.ofText? (← (← body.part? "$oid").asText?)

/-- A point in time: a number of milliseconds, such a number in digits, or a date. -/
def Value.dateTimeOfBody? (body : Value) : Option Value :=
  match body with
  | .int32 n => some (.dateTime (.ofInt n.toInt))
  | .int64 n => some (.dateTime n)
  | .array [part] | .document [("$numberLong", part)] => do
    match int64OfText? (← part.asText?) with
    | some (.int64 millis) => return .dateTime millis
    | _ => none
  | body => do dateTimeOfText? (← body.asText?)

/-- Sixteen bytes of a decimal number, as bytes, as text or as a list of numbers. -/
def Value.decimalOfBody? : Value → Option Value
  | .binary subtype bytes => if subtype = 0 then decimalOfBytes? bytes else none
  | .string text => decimalOfBytes? text.toUTF8.toList
  | .array items => do decimalOfBytes? (← items.mapM byte?)
  | _ => none

/-- The sixteen bytes of a universally unique identifier: thirty-two digits, or five groups of
them with hyphens, which may stand in braces or behind the name of their kind. -/
def uuidBytes? (text : String) : Option (List UInt8) := do
  let digits ←
    if text.toList.length = 32 then some text.toList
    else
      let grouped ← match text.toList with
        | '\x7b' :: rest => if rest.getLast? = some '\x7d' then some rest.dropLast else none
        | text => if "urn:uuid:".toList.isPrefixOf text then some (text.drop 9) else some text
      let isHyphen (i : Nat) : Bool := i == 8 || i == 13 || i == 18 || i == 23
      if grouped.length = 36 && grouped.zipIdx.all (fun c => (c.1 == '-') == isHyphen c.2) then
        some (grouped.filter (· != '-'))
      else none
  return (Decimal128.bytesOf (← hexNumber? digits) 16).reverse

/-- What a tag makes of its body. A name that is no tag makes nothing of it. -/
def Value.readTag (tag : String) (body : Value) : Option (Option Value) :=
  match tag with
  | "$oid" => some do return .objectId (← body.idOfBody?)
  | "$symbol" | "$numberInt" | "$numberLong" | "$numberDouble" | "$numberDecimal" =>
    some do ofTaggedText? tag (← body.asText?)
  | "$numberDecimalBytes" => some body.decimalOfBody?
  | "$date" => some body.dateTimeOfBody?
  | "$uuid" => some do return .binary 4 (← uuidBytes? (← body.asText?))
  | "$binary" => some do
    let (bytes, subtype) ← body.parts? "base64" "subType"
    binaryOfText? (← bytes.asText?) (← subtype.asText?)
  | "$timestamp" => some do
    let (time, increment) ← body.parts? "t" "i"
    return .timestamp (← time.word?) (← increment.word?)
  | "$regularExpression" => some do
    let (pattern, options) ← body.parts? "pattern" "options"
    regex? (← pattern.asText?) (← options.asText?)
  | "$dbPointer" => some do
    let (collection, id) ← body.parts? "$ref" "$id"
    return .pointer (← collection.asText?) (← id.idOfPointer?)
  | "$minKey" => some (if body.isOne then some .minKey else none)
  | "$maxKey" => some (if body.isOne then some .maxKey else none)
  | "$undefined" => some (if body.isTrue then some .undefined else none)
  | _ => none

/-! ## Values -/

/-- A field with its value as it is stored and as it is read. -/
structure ReadField where
  name : String
  stored : Value
  value : Option Value

def Value.scoped? (code scope : ReadField) : Option Value := do
  match code.name, scope.name, scope.value with
  | "$code", "$scope", some (.document fields) =>
    return .javaScriptWithScope (← code.stored.asText?) fields
  | _, _, _ => none

/-- The value of the fields that are left, after those of a document. -/
def Value.readFields (before : Document) : List ReadField → Option Value
  | [] => some (.document before)
  | field :: rest =>
    match field.name, rest with
    | "$code", [] => do return .javaScript (← field.stored.asText?)
    | "$code", scope :: _ => scoped? field scope
    | "$scope", code :: _ => scoped? code field
    | "$scope", [] => none
    | name, rest =>
      match readTag name field.stored with
      | some value => value
      | none => do readFields (Document.insert before name (← field.value)) rest

mutual

def Value.read? : Value → Option Value
  | .array items => do return .array (← readItems items)
  | .document fields => readFields [] (readEach fields)
  | .javaScriptWithScope code scope =>
    match readFields [] (readEach scope) with
    | some (.document scope) => some (.javaScriptWithScope code scope)
    | _ => none
  | .regex pattern options => some (.regex pattern (sortedOptions options))
  | value => some value

/-- The items of a stored array as they are read. -/
def Value.readItems : List Value → Option (List Value)
  | [] => some []
  | item :: rest => do return (← item.read?) :: (← readItems rest)

/-- The fields of a stored document, each read by itself. -/
def Value.readEach : List (String × Value) → List ReadField
  | [] => []
  | (name, value) :: rest => ⟨name, value, value.read?⟩ :: readEach rest

end

end DocumentStore
