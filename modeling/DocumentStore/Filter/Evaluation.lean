import DocumentStore.Path
import DocumentStore.Pattern.Engine
import DocumentStore.Value.Number

/-!
# Evaluation of filters

A filter document is a list of conditions that must all hold, each a junction of filters or a
condition on the value at a path. Conditions are tried in order and the first that does not
hold settles the answer, so a malformed condition behind it goes unnoticed. A condition that is
a document whose first name begins with a dollar sign is a list of operators; any other value
is matched as a whole.
-/
namespace DocumentStore.Filter

/-! ## Names with a meaning of their own -/

/-- Whether a name begins with a dollar sign. -/
def isOperatorName (name : String) : Bool := name.toList.head? == some '$'

/-- Whether the first field of a document has an operator's name. -/
def isOperatorDocument : Document → Bool
  | [] => false
  | (name, _) :: _ => isOperatorName name

/-- What a name at the top of a filter stands for. -/
inductive Head where
  | and | or | nor | literal | comment | unknown
  | path
  deriving DecidableEq, Repr

/-- Reads a name at the top of a filter. -/
def Head.ofName (name : String) : Head :=
  if name = "$and" then .and
  else if name = "$or" then .or
  else if name = "$nor" then .nor
  else if name = "$expr" then .literal
  else if name = "$comment" then .comment
  else if isOperatorName name then .unknown
  else .path

/-- The operators of a condition on a value. -/
inductive Operator where
  | eq | ne | gt | gte | lt | lte | isIn | notIn | present | regex | options | all | size | type
  | elemMatch | not
  deriving DecidableEq, Repr

def Operator.ofName? (name : String) : Option Operator :=
  if name = "$eq" then some .eq
  else if name = "$ne" then some .ne
  else if name = "$gt" then some .gt
  else if name = "$gte" then some .gte
  else if name = "$lt" then some .lt
  else if name = "$lte" then some .lte
  else if name = "$in" then some .isIn
  else if name = "$nin" then some .notIn
  else if name = "$exists" then some .present
  else if name = "$regex" then some .regex
  else if name = "$options" then some .options
  else if name = "$all" then some .all
  else if name = "$size" then some .size
  else if name = "$type" then some .type
  else if name = "$elemMatch" then some .elemMatch
  else if name = "$not" then some .not
  else none

/-! ## Conditions without filters inside -/

/-- Whether the value at a path equals a target. A missing value equals null; an array equals
what it contains, besides itself. -/
def equals (value? : Option Value) (target : Value) : Bool :=
  match value? with
  | none => match target with
    | .null => true
    | _ => false
  | some value => value.alike target || match value with
    | .array items => items.any (·.alike target)
    | _ => false

/-- Whether a value, or an element of an array, meets a condition. -/
def anyValue (value? : Option Value) (condition : Value → Bool) : Bool :=
  match value? with
  | some (.array items) => items.any condition
  | some value => condition value
  | none => false

/-- Whether a value, or an element of an array, is in an accepted order to a target. -/
def compares (value? : Option Value) (target : Value) (accept : Ordering → Bool) : Bool :=
  anyValue value? fun value => match value.compare? target with
    | some order => accept order
    | none => false

variable [Pattern.Engine]

/-- Reads a regular expression. -/
def readPattern (pattern options : String) : Result Pattern.Engine.Compiled :=
  match Pattern.Engine.compile pattern options with
  | .ok compiled => .ok compiled
  | .error reason => .error (.invalidQuery (.pattern reason))

/-- Whether a value is a string that a pattern matches. -/
def isMatch (compiled : Pattern.Engine.Compiled) : Value → Bool
  | .string text => Pattern.Engine.isMatch compiled text
  | _ => false

/-- Whether a value, or an element of an array, is matched by a regular expression. -/
def matchesPattern (value? : Option Value) (pattern options : String) : Result Bool := do
  let compiled ← readPattern pattern options
  return anyValue value? (isMatch compiled)

/-- Whether a value equals one of the targets or is matched by one that is a regular
expression. -/
def isMember (value? : Option Value) : List Value → Result Bool
  | [] => .ok false
  | target :: rest => do
    let matched ← match target with
      | .regex pattern options => matchesPattern value? pattern options
      | target => .ok (equals value? target)
    if matched then return true else isMember value? rest

def list (operator : String) : Value → Result (List Value)
  | .array items => .ok items
  | _ => .error (.invalidQuery (.arrayRequired operator))

/-- Whether a value has the type that a label or a number stands for. -/
def hasType (value : Value) : Value → Result Bool
  | .string label => .ok (if label = "number" then value.type.isNumber
    else value.type.label == label)
  | .int32 n => .ok (n.toInt == value.type.code)
  | .int64 n => .ok (n.toInt == value.type.code)
  | .double x => do return (← Value.integer "$type" (.double x)) == (value.type.code : Int)
  | _ => .error (.invalidQuery .typeRequired)

def hasAnyType (value : Value) : List Value → Result Bool
  | [] => .ok false
  | label :: rest => do if ← hasType value label then return true else hasAnyType value rest

/-- The pattern and the options of a regular expression operator. Options beside it win over
those of the pattern itself. -/
def patternOf (argument : Value) (siblings : Document) : Result (String × String) :=
  match argument with
  | .string pattern => .ok (pattern, optionsOr "")
  | .regex pattern options => .ok (pattern, optionsOr options)
  | _ => .error (.invalidQuery (.stringRequired "$regex"))
where
  optionsOr (default : String) : String :=
    match Document.get? siblings "$options" with
    | some (.string options) => options
    | _ => default

/-- A condition by an operator that takes no filter. The names of the operator and the fields
beside it are given for messages and for regular expressions. -/
def holds (value? : Option Value) (name : String) (op : Operator) (argument : Value)
    (siblings : Document) : Result Bool :=
  match op with
  | .eq => .ok (equals value? argument)
  | .ne => .ok (!equals value? argument)
  | .gt => .ok (compares value? argument (· == .gt))
  | .gte => .ok (compares value? argument (· != .lt))
  | .lt => .ok (compares value? argument (· == .lt))
  | .lte => .ok (compares value? argument (· != .gt))
  | .isIn => do isMember value? (← list name argument)
  | .notIn => do return !(← isMember value? (← list name argument))
  | .present => .ok (argument.truthy == value?.isSome)
  | .regex => do
    let (pattern, options) ← patternOf argument siblings
    matchesPattern value? pattern options
  | .options => if Document.contains siblings "$regex" then .ok true
    else .error (.invalidQuery (.unknownOperator name))
  | .all => do
    let targets ← list name argument
    return !targets.isEmpty && targets.all (equals value? ·)
  | .size => do
    let size ← argument.integer name
    return match value? with
      | some (.array items) => (items.length : Int) == size
      | _ => false
  | .type =>
    match value? with
    | some value => match argument with
      | .array aliases => hasAnyType value aliases
      | label => hasType value label
    | none => .ok false
  | .elemMatch => .error (.invalidQuery (.documentRequired name))
  | .not => .error (.invalidQuery .operatorsRequired)

def areDocuments (items : List Value) : Bool :=
  items.all fun
    | .document _ => true
    | _ => false

/-! ## Evaluation -/

mutual

/-- Whether a document meets a filter. -/
def evaluate (d : Document) : List (String × Value) → Result Bool
  | [] => .ok true
  | (name, condition) :: rest => do
    let matched ← match Head.ofName name, condition with
      | .and, .array items =>
        if areDocuments items then evaluateAll d items
        else .error (.invalidQuery (.documentsRequired name))
      | .or, .array items =>
        if areDocuments items then evaluateAny d items
        else .error (.invalidQuery (.documentsRequired name))
      | .nor, .array items =>
        if areDocuments items then (!·) <$> evaluateAny d items
        else .error (.invalidQuery (.documentsRequired name))
      | .and, _ | .or, _ | .nor, _ => .error (.invalidQuery (.documentsRequired name))
      | .literal, .boolean flag => .ok flag
      | .literal, _ => .error (.invalidQuery .literalRequired)
      | .comment, _ => .ok true
      | .unknown, _ => .error (.invalidQuery (.unknownJunction name))
      | .path, condition => meets (Path.lookup d name) condition
    if matched then evaluate d rest else return false
termination_by structural filter => filter

/-- Whether a document meets every filter of a list. -/
def evaluateAll (d : Document) : List Value → Result Bool
  | [] => .ok true
  | .document filter :: rest => do
    if ← evaluate d filter then evaluateAll d rest else return false
  | _ :: rest => evaluateAll d rest
termination_by structural filters => filters

/-- Whether a document meets some filter of a list. -/
def evaluateAny (d : Document) : List Value → Result Bool
  | [] => .ok false
  | .document filter :: rest => do
    if ← evaluate d filter then return true else evaluateAny d rest
  | _ :: rest => evaluateAny d rest
termination_by structural filters => filters

/-- Whether the value at a path meets a condition. -/
def meets (value? : Option Value) : Value → Result Bool
  | .document fields =>
    if isOperatorDocument fields then meetsAll value? fields fields
    else .ok (equals value? (.document fields))
  | .regex pattern options => matchesPattern value? pattern options
  | target => .ok (equals value? target)
termination_by structural condition => condition

/-- Whether the value at a path meets every operator of a list. -/
def meetsAll (value? : Option Value) (siblings : Document) :
    List (String × Value) → Result Bool
  | [] => .ok true
  | (name, argument) :: rest => do
    let matched ← match Operator.ofName? name, argument with
      | none, _ => .error (.invalidQuery (.unknownOperator name))
      | some .elemMatch, .document filter =>
        match value? with
        | some (.array items) =>
          if isOperatorDocument filter then
            items.anyM fun item => meetsAll (some item) filter filter
          else
            items.anyM fun
              | .document inner => evaluate inner filter
              | _ => .ok false
        | _ => .ok false
      | some .not, .document fields =>
        if isOperatorDocument fields then (!·) <$> meetsAll value? fields fields
        else .ok (!equals value? (.document fields))
      | some .not, .regex pattern options => (!·) <$> matchesPattern value? pattern options
      | some op, argument => holds value? name op argument siblings
    if matched then meetsAll value? siblings rest else return false
termination_by structural operators => operators

end

/-! ## Positions -/

/-- The positions of the documents that meet a filter, counted from a start. The first error
wins. -/
def positionsFrom (filter : Document) (start : Nat) : List Document → Result (List Nat)
  | [] => .ok []
  | d :: rest => do
    let matched ← evaluate d filter
    let others ← positionsFrom filter (start + 1) rest
    return if matched then start :: others else others

def positions (filter : Document) (ds : List Document) : Result (List Nat) :=
  positionsFrom filter 0 ds

end DocumentStore.Filter
