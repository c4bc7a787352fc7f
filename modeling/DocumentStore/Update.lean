import DocumentStore.Path
import DocumentStore.Value.Number

/-!
# Updates

An update document names its operators, each with a document of paths and operands. It is
checked before it meets any document. Operators are applied in order, path by path; the first
failure leaves nothing of the update behind.
-/
namespace DocumentStore.Update

/-! ## Operators -/

/-- What an update does at a path. -/
inductive Operator where
  | set
  | unset
  | increment
  deriving DecidableEq, Repr

def Operator.ofName? (name : String) : Option Operator :=
  if name = "$set" then some .set
  else if name = "$unset" then some .unset
  else if name = "$inc" then some .increment
  else none

/-- Checks that every field of an update is an operator with a document. -/
def checkFields : List (String × Value) → Result Unit
  | [] => .ok ()
  | (name, value) :: rest =>
    match Operator.ofName? name, value with
    | none, _ => .error (.invalidQuery (.unknownUpdate name))
    | some _, .document _ => checkFields rest
    | some _, _ => .error (.invalidQuery (.fieldsRequired name))

def check (update : Document) : Result Unit :=
  if update.isEmpty then .error (.invalidQuery .emptyUpdate) else checkFields update

/-! ## Increments -/

/-- A sum of thirty-two-bit integers, if it is one. -/
def sum32 (a b : Int) : Option Value :=
  if fitsInt32 (a + b) then some (.int32 (.ofInt (a + b))) else none

/-- A sum of sixty-four-bit integers, if it is one. -/
def sum64 (a b : Int) : Option Value :=
  if fitsInt64 (a + b) then some (.int64 (.ofInt (a + b))) else none

/-- The sum of two numbers in the wider of their types. Integers do not wrap around. -/
def sum? : Value → Value → Option Value
  | .int32 a, .int32 b => sum32 a.toInt b.toInt
  | .int32 a, .int64 b => sum64 a.toInt b.toInt
  | .int64 a, .int32 b => sum64 a.toInt b.toInt
  | .int64 a, .int64 b => sum64 a.toInt b.toInt
  | .double a, .double b => some (.double (a.add b))
  | .double a, .int32 b => some (.double (a.add (.ofInt b.toInt)))
  | .double a, .int64 b => some (.double (a.add (.ofInt b.toInt)))
  | .int32 a, .double b => some (.double (Double.add (.ofInt a.toInt) b))
  | .int64 a, .double b => some (.double (Double.add (.ofInt a.toInt) b))
  | _, _ => none

/-- Adds to the number at a path. A missing number is zero. -/
def increment (d : Document) (path : String) (amount : Value) : Result Document :=
  match sum? ((Path.field d path).getD (.int32 0)) amount with
  | some value => Path.set d path value
  | none => .error (.invalidQuery (.notANumber path))

/-! ## Application -/

def applyAt (op : Operator) (d : Document) (path : String) (operand : Value) :
    Result Document :=
  if path = idField && !Value.sameOption (Document.get? d idField) (some operand) then
    .error (.invalidQuery .immutableId)
  else
    match op with
    | .set => Path.set d path operand
    | .unset => .ok (Path.unset d path)
    | .increment => increment d path operand

def applyFields (op : Operator) : Document → List (String × Value) → Result Document
  | d, [] => .ok d
  | d, (path, operand) :: rest => do applyFields op (← applyAt op d path operand) rest

/-- Applies an update that has been checked. -/
def apply : Document → List (String × Value) → Result Document
  | d, [] => .ok d
  | d, (name, fields) :: rest =>
    match Operator.ofName? name, fields with
    | some op, .document fields => do apply (← applyFields op d fields) rest
    | _, _ => apply d rest

/-- How many documents an update met and how many of them it changed. -/
structure Outcome where
  matched : Nat := 0
  modified : Nat := 0
  deriving DecidableEq, Repr

end DocumentStore.Update
