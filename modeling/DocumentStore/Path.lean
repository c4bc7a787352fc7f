import DocumentStore.Error

/-!
# Paths

A path names a value inside of a document by the names of nested fields, written with dots
between them. Reading may also go through arrays, by position; writing and removing go through
documents only. Writing creates the documents on its way and fails at a value that is neither
missing nor a document.
-/
namespace DocumentStore.Path

/-! ## Segments -/

/-- The parts of a text between dots. There is always at least one. -/
def segmentsOf : List Char → List Char × List (List Char)
  | [] => ([], [])
  | c :: rest =>
    let (first, others) := segmentsOf rest
    if c = '.' then ([], first :: others) else (c :: first, others)

/-- The first segment of a path and the others. -/
def segments (path : String) : String × List String :=
  let (first, others) := segmentsOf path.toList
  (String.ofList first, others.map String.ofList)

/-- The path of nested segments. -/
def text (segments : List String) : String := ".".intercalate segments

/-- The position that a segment denotes in an array: decimal digits, of at most sixty-four
bits, after an optional plus sign. -/
def position? (segment : String) : Option Nat :=
  let digits := match segment.toList with
    | '+' :: rest => rest
    | all => all
  if digits.isEmpty || !digits.all Char.isDigit then none
  else
    let n := digits.foldl (fun n c => n * 10 + (c.toNat - 48)) 0
    if n < 0x10000000000000000 then some n else none

/-! ## Reading -/

/-- The value at nested segments inside of a value. -/
def lookupIn : Value → List String → Option Value
  | value, [] => some value
  | .document fields, segment :: rest =>
    match Document.get? fields segment with
    | some inner => lookupIn inner rest
    | none => none
  | .array items, segment :: rest =>
    match (position? segment).bind (items[·]?) with
    | some inner => lookupIn inner rest
    | none => none
  | _, _ :: _ => none

/-- The value at a path, through documents and arrays. -/
def lookup (d : Document) (path : String) : Option Value :=
  let (first, rest) := segments path
  match Document.get? d first with
  | some value => lookupIn value rest
  | none => none

/-- The value at nested segments, through documents only. -/
def fieldAt : Document → String → List String → Option Value
  | d, name, [] => Document.get? d name
  | d, name, next :: rest =>
    match Document.get? d name with
    | some (.document inner) => fieldAt inner next rest
    | _ => none

/-- The value at a path, through documents only. -/
def field (d : Document) (path : String) : Option Value :=
  let (first, rest) := segments path
  fieldAt d first rest

/-! ## Writing -/

/-- Writes a value at nested segments. -/
def setAt (value : Value) : Document → String → List String → Result Document
  | d, name, [] => .ok (Document.insert d name value)
  | d, name, next :: rest =>
    match Document.get? d name with
    | none => do return Document.insert d name (.document (← setAt value [] next rest))
    | some (.document inner) => do
      return Document.insert d name (.document (← setAt value inner next rest))
    | some _ => .error (.invalidQuery (.notADocument name (text (next :: rest))))

/-- Writes a value at a path. -/
def set (d : Document) (path : String) (value : Value) : Result Document :=
  let (first, rest) := segments path
  setAt value d first rest

/-- Removes the field at nested segments, if it is there. -/
def unsetAt : Document → String → List String → Document
  | d, name, [] => Document.erase d name
  | d, name, next :: rest =>
    match Document.get? d name with
    | some (.document inner) => Document.insert d name (.document (unsetAt inner next rest))
    | _ => d

/-- Removes the field at a path, if it is there. -/
def unset (d : Document) (path : String) : Document :=
  let (first, rest) := segments path
  unsetAt d first rest

end DocumentStore.Path
