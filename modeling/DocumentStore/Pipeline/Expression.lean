import DocumentStore.Filter.Evaluation

/-!
# Expressions of stages

An expression is a literal, a reference to a path of the document, or a container of
expressions. A missing value is left out of a document and is null in an array.
-/
namespace DocumentStore.Expression

/-- The path that a reference names, if a text is one. -/
def reference? (text : String) : Option String :=
  match text.toList with
  | '$' :: path => some (String.ofList path)
  | _ => none

def isVariable (text : String) : Bool := "$$".toList.isPrefixOf text.toList

/-- The literal of a document that quotes one. -/
def literal? : Document → Option Value
  | [(name, value)] => if name = "$literal" then some value else none
  | _ => none

mutual

/-- The value of an expression for a document, if it is not missing. -/
def evaluate (d : Document) : Value → Result (Option Value)
  | .string text =>
    if isVariable text then .error (.invalidQuery (.unknownVariable text))
    else match reference? text with
      | some path => .ok (Path.lookup d path)
      | none => .ok (some (.string text))
  | .document fields =>
    match literal? fields with
    | some value => .ok (some value)
    | none => do return some (.document (← evaluateFields d [] fields))
  | .array items => do return some (.array (← evaluateItems d items))
  | value => .ok (some value)
termination_by structural expression => expression

/-- Writes the values of the fields of an expression to a document. -/
def evaluateFields (d : Document) (written : Document) :
    List (String × Value) → Result Document
  | [] => .ok written
  | (name, expression) :: rest =>
    if Filter.isOperatorName name then .error (.invalidQuery (.unknownExpression name))
    else do
      match ← evaluate d expression with
      | some value => evaluateFields d (Document.insert written name value) rest
      | none => evaluateFields d written rest
termination_by structural fields => fields

def evaluateItems (d : Document) : List Value → Result (List Value)
  | [] => .ok []
  | expression :: rest => do
    let value? ← evaluate d expression
    return value?.getD .null :: (← evaluateItems d rest)
termination_by structural items => items

end

end DocumentStore.Expression
