import DocumentStore.Value

/-!
# How filters and sorts compare values

Filters have an equality of their own: numbers of every width are compared as doubles, bytes
without their subtype, and types that have no order, such as regular expressions or
timestamps, equal nothing. `compare?` orders values of one class; `sortCompare` extends it to
all values by ranking the classes first.
-/
namespace DocumentStore.Value

/-- The double that a number of any width is compared as. -/
def number? : Value → Option Double
  | .int32 n => some (.ofInt n.toInt)
  | .int64 n => some (.ofInt n.toInt)
  | .double x => some x
  | _ => none

/-! ## Equality in filters -/

/-- Equality in filters of values that are neither arrays nor documents. -/
def alikeScalar : Value → Value → Bool
  | .null, .null => true
  | .boolean a, .boolean b => a == b
  | .dateTime a, .dateTime b => a == b
  | .string a, .string b => a == b
  | .objectId a, .objectId b => a == b
  | .binary _ a, .binary _ b => a == b
  | a, b => match number? a, number? b with
    | some x, some y => x.equals y
    | _, _ => false

mutual

/-- Equality in filters. -/
def alike : Value → Value → Bool
  | .array a, .array b => alikeItems a b
  | .document a, .document b => a.length == b.length && alikeFields a b
  | a, b => alikeScalar a b

/-- Equality in filters, position by position. -/
def alikeItems : List Value → List Value → Bool
  | [], [] => true
  | a :: as, b :: bs => alike a b && alikeItems as bs
  | _, _ => false

/-- Whether every field is present in the document with an equal value. -/
def alikeFields : List (String × Value) → Document → Bool
  | [], _ => true
  | (name, value) :: rest, d =>
    (match Document.get? d name with
      | some other => alike value other
      | none => false) && alikeFields rest d

end

/-! ## Order -/

/-- The order of two values of one ordered class. Arrays and documents have none. -/
def compare? : Value → Value → Option Ordering
  | .boolean a, .boolean b => some (compare a b)
  | .dateTime a, .dateTime b => some (compare a.toInt b.toInt)
  | .string a, .string b => some (compare a b)
  | .objectId a, .objectId b => some (compare a.number.toNat b.number.toNat)
  | .binary _ a, .binary _ b => some (compare a b)
  | a, b => match number? a, number? b with
    | some x, some y => x.compare? y
    | _, _ => none

/-- The place of a value's class in a sort. -/
def rank : Value → Nat
  | .null => 1
  | .int32 _ | .int64 _ | .double _ => 2
  | .string _ => 3
  | .document _ => 4
  | .array _ => 5
  | .binary _ _ => 6
  | .objectId _ => 7
  | .boolean _ => 8
  | .dateTime _ => 9
  | _ => 10

/-- The order of sorts: by class, then by value where the class is ordered. -/
def sortCompare (a b : Value) : Ordering :=
  (compare a.rank b.rank).then ((a.compare? b).getD .eq)

end DocumentStore.Value
