import DocumentStore.Filter.Field

/-!
# Clauses

A clause is a condition on a document, built from comparisons of fields. It compiles to a
filter document, the form in which a store takes conditions. An empty conjunction compiles to
the filter that matches everything, an empty disjunction to one that matches nothing, and a
negation to the denial of a single filter, which is allowed for filters of any shape.
-/
namespace DocumentStore

/-- The operators of comparisons. -/
inductive Comparison where
  | eq | ne | gt | gte | lt | lte | isIn | notIn | present | regex | all | size | type | elemMatch
  deriving DecidableEq, Repr

namespace Comparison

/-- The name of an operator in a filter. -/
def operator : Comparison → String
  | .eq => "$eq"
  | .ne => "$ne"
  | .gt => "$gt"
  | .gte => "$gte"
  | .lt => "$lt"
  | .lte => "$lte"
  | .isIn => "$in"
  | .notIn => "$nin"
  | .present => "$exists"
  | .regex => "$regex"
  | .all => "$all"
  | .size => "$size"
  | .type => "$type"
  | .elemMatch => "$elemMatch"

/-- The declared name of an operator. -/
def name : Comparison → String
  | .eq => "Eq"
  | .ne => "Ne"
  | .gt => "Gt"
  | .gte => "Gte"
  | .lt => "Lt"
  | .lte => "Lte"
  | .isIn => "In"
  | .notIn => "Nin"
  | .present => "Exists"
  | .regex => "Regex"
  | .all => "All"
  | .size => "Size"
  | .type => "Type"
  | .elemMatch => "ElemMatch"

/-- Every operator, in order of declaration. -/
def list : List Comparison :=
  [.eq, .ne, .gt, .gte, .lt, .lte, .isIn, .notIn, .present, .regex, .all, .size, .type,
    .elemMatch]

end Comparison

/-- A condition on a document. -/
inductive Clause where
  | comparison (path : String) (op : Comparison) (value : Value)
  | and (clauses : List Clause)
  | or (clauses : List Clause)
  | nor (clauses : List Clause)
  | not (clause : Clause)
  /-- A filter document as it is. -/
  | raw (filter : Document)

namespace Clause

/-! ## Combination -/

/-- The clause that every document meets. -/
def everything : Clause := .and []

/-- Both clauses. A conjunction on the left is extended. -/
def andThen : Clause → Clause → Clause
  | .and clauses, other => .and (clauses ++ [other])
  | clause, other => .and [clause, other]

/-- Either clause. A disjunction on the left is extended. -/
def orElse : Clause → Clause → Clause
  | .or clauses, other => .or (clauses ++ [other])
  | clause, other => .or [clause, other]

/-! ## Compilation -/

/-- The condition on a field. Only an equality with a scalar is written as the bare value. -/
def condition : Comparison → Value → Value
  | .eq, .array items => .document (Document.single "$eq" (.array items))
  | .eq, .document fields => .document (Document.single "$eq" (.document fields))
  | .eq, value => value
  | op, value => .document (Document.single op.operator value)

mutual

/-- The filter document of a clause. -/
def compile : Clause → Document
  | .and clauses => match clauses with
    | [] => []
    | [clause] => compile clause
    | clauses => Document.single "$and" (.array (compileAll clauses))
  | .or clauses => match clauses with
    | [] => Document.single "$expr" (.boolean false)
    | [clause] => compile clause
    | clauses => Document.single "$or" (.array (compileAll clauses))
  | .nor clauses => match clauses with
    | [] => []
    | clauses => Document.single "$nor" (.array (compileAll clauses))
  | .not clause => Document.single "$nor" (.array [.document (compile clause)])
  | .raw filter => filter
  | .comparison path op value => Document.single path (condition op value)

/-- The filter documents of the parts of a junction. -/
def compileAll : List Clause → List Value
  | [] => []
  | clause :: rest => .document (compile clause) :: compileAll rest

end

end Clause

/-! ## Comparisons of a field -/

namespace Field

/-- A comparison with a checked operand. -/
def compare (field : Field) (op : Comparison) (allowNull : Bool) (value : Value) :
    Result Clause := do
  field.check allowNull value
  return .comparison field.path op value

/-- The field equals a value. Null also stands for a missing field. -/
def eq (field : Field) (value : Value) : Result Clause := field.compare .eq true value

def ne (field : Field) (value : Value) : Result Clause := field.compare .ne true value

def gt (field : Field) (value : Value) : Result Clause := field.compare .gt false value

def gte (field : Field) (value : Value) : Result Clause := field.compare .gte false value

def lt (field : Field) (value : Value) : Result Clause := field.compare .lt false value

def lte (field : Field) (value : Value) : Result Clause := field.compare .lte false value

/-- A comparison with a list, every element of which is checked. -/
def compareList (field : Field) (op : Comparison) (allowNull : Bool) (value : Value) :
    Result Clause :=
  match value with
  | .array items => do
    items.forM (field.check allowNull)
    return .comparison field.path op value
  | value => .error (.invalidQuery (.sequenceRequired op.operator field.path value.type))

/-- The field equals an element of a list. -/
def isIn (field : Field) (values : Value) : Result Clause := field.compareList .isIn true values

/-- The field equals no element of a list. -/
def notIn (field : Field) (values : Value) : Result Clause := field.compareList .notIn true values

/-- The field is there, or is not. -/
def isPresent (field : Field) (present : Bool) : Clause :=
  .comparison field.path .present (.boolean present)

/-- The field is a string that a regular expression matches. -/
def regex (field : Field) (pattern : String) : Result Clause := do
  field.require .string "$regex"
  return .comparison field.path .regex (.string pattern)

/-- The field is an array that contains every element of a list. -/
def all (field : Field) (values : Value) : Result Clause := do
  field.require .array "$all"
  field.compareList .all false values

def size (field : Field) (length : Int64) : Result Clause := do
  field.require .array "$size"
  if length < 0 then .error (.invalidQuery (.negativeSize field.path length.toInt))
  else return .comparison field.path .size (.int64 length)

def hasType (field : Field) (label : String) : Clause :=
  .comparison field.path .type (.string label)

def elemMatch (field : Field) (filter : Document) : Result Clause := do
  field.require .array "$elemMatch"
  return .comparison field.path .elemMatch (.document filter)

/-! ## What is built -/

variable {field : Field} {op : Comparison} {allowNull : Bool} {clause : Clause}

theorem check_eq_ok {value : Value} :
    field.check allowNull value = .ok () ↔ field.accepts allowNull value := by
  unfold check
  split <;> simp_all

/-- A comparison is built if its operand is accepted. -/
theorem compare_eq_ok {value : Value} :
    field.compare op allowNull value = .ok clause ↔
      field.accepts allowNull value ∧ clause = .comparison field.path op value := by
  unfold compare
  rw [Result.check_eq_ok, check_eq_ok]
  exact and_congr_right fun _ => ⟨fun h => (Except.ok.inj h).symm, fun h => congrArg _ h.symm⟩

theorem forM_check_eq_ok {items : List Value} :
    items.forM (field.check allowNull) = .ok () ↔ ∀ item ∈ items, field.accepts allowNull item := by
  induction items with
  | nil => exact ⟨fun _ => nofun, fun _ => rfl⟩
  | cons item rest ih =>
    change (field.check allowNull item >>= fun _ => rest.forM (field.check allowNull)) = _ ↔ _
    rw [Result.check_eq_ok, check_eq_ok, ih, List.forall_mem_cons]

/-- A comparison with a list is built if every element of it is accepted. -/
theorem compareList_eq_ok {items : List Value} :
    field.compareList op allowNull (.array items) = .ok clause ↔
      (∀ item ∈ items, field.accepts allowNull item) ∧
        clause = .comparison field.path op (.array items) := by
  change (items.forM (field.check allowNull) >>= fun _ => pure _) = _ ↔ _
  rw [Result.check_eq_ok, forM_check_eq_ok]
  exact and_congr_right fun _ => ⟨fun h => (Except.ok.inj h).symm, fun h => congrArg _ h.symm⟩

end Field

end DocumentStore
