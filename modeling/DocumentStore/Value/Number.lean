import DocumentStore.Error
import DocumentStore.Value.Order

/-!
# Values read as flags and integers
-/
namespace DocumentStore.Value

/-- Whether a value counts as yes: false, null and the zeros do not. -/
def truthy : Value → Bool
  | .boolean flag => flag
  | .int32 n => n != 0
  | .int64 n => n != 0
  | .double x => x.isNaN || !x.isZero
  | .null => false
  | _ => true

/-- Whether a value is a number below zero. -/
def isNegative : Value → Bool
  | .int32 n => n.toInt < 0
  | .int64 n => n.toInt < 0
  | .double x => !x.isNaN && x.key < 0
  | _ => false

/-- The integer that an operator takes as its operand. A double must have no fractional part
and is cut to sixty-four bits. -/
def integer (operator : String) : Value → Result Int
  | .int32 n => .ok n.toInt
  | .int64 n => .ok n.toInt
  | .double x => match x.toInt? with
    | some n => .ok (clampInt64 n)
    | none => .error (.invalidQuery (.integerRequired operator))
  | _ => .error (.invalidQuery (.integerRequired operator))

end DocumentStore.Value
