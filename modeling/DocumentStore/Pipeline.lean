import DocumentStore.Pipeline.Group
import DocumentStore.Query.Projection
import DocumentStore.Query.Sort

/-!
# Pipelines

A pipeline turns a list of documents into another, stage by stage. Stages that are not known
are refused.
-/
namespace DocumentStore.Pipeline

/-! ## Stages -/

/-- The stages that can be run. -/
inductive Operator where
  | match | sort | skip | limit | project | set | unset | count | group | sortByCount
  deriving DecidableEq, Repr

/-- Reads the name of a stage. -/
def Operator.ofName? (name : String) : Option Operator :=
  if name = "$match" then some .match
  else if name = "$sort" then some .sort
  else if name = "$skip" then some .skip
  else if name = "$limit" then some .limit
  else if name = "$project" then some .project
  else if name = "$set" then some .set
  else if name = "$addFields" then some .set
  else if name = "$unset" then some .unset
  else if name = "$count" then some .count
  else if name = "$group" then some .group
  else if name = "$sortByCount" then some .sortByCount
  else none

/-- The document that a stage takes as its operand. -/
def document (operator : String) : Value → Result Document
  | .document fields => .ok fields
  | _ => .error (.invalidQuery (.documentRequired operator))

/-- The number of documents that a stage takes as its operand. A negative one is zero. -/
def count (operator : String) (operand : Value) : Result Nat := do
  return (← operand.integer operator).toNat

/-- Writes the values of expressions to a document, one after the other. -/
def setFields : Document → List (String × Value) → Result Document
  | d, [] => .ok d
  | d, (path, expression) :: rest => do
    match ← Expression.evaluate d expression with
    | some value => setFields (← Path.set d path value) rest
    | none => setFields d rest

/-- The paths that a stage removes. -/
def unsetPaths : Value → Result (List String)
  | .string path => .ok [path]
  | .array items => items.mapM fun
    | .string path => .ok path
    | _ => .error (.invalidQuery .fieldNamesRequired)
  | _ => .error (.invalidQuery .fieldNameOrListRequired)

/-- The name of the field that a count is written to. -/
def countField : Value → Result String
  | .string name =>
    if name.isEmpty || Filter.isOperatorName name then .error (.invalidQuery .fieldNameRequired)
    else .ok name
  | _ => .error (.invalidQuery .fieldNameRequired)

/-- The groups of a key with their sizes. -/
def countByKey (key : Value) : Document :=
  [(idField, key), ("count", .document (Document.single "$sum" (.int32 1)))]

variable [Pattern.Engine]

/-- Keeps the documents that meet a filter, in order. The first error wins. -/
def keepMatching (filter : Document) : List Document → Result (List Document)
  | [] => .ok []
  | d :: rest => do
    if ← Filter.evaluate d filter then return d :: (← keepMatching filter rest)
    else keepMatching filter rest

def runStage (op : Operator) (name : String) (operand : Value) (ds : List Document) :
    Result (List Document) :=
  match op with
  | .match => do keepMatching (← document name operand) ds
  | .sort => do return Sort.documents (← document name operand) ds
  | .skip => do return ds.drop (← count name operand)
  | .limit => do return ds.take (← count name operand)
  | .project => do return ds.map (Projection.apply (← document name operand))
  | .set => do
    let fields ← document name operand
    ds.mapM (setFields · fields)
  | .unset => do
    let paths ← unsetPaths operand
    return ds.map fun d => paths.foldl Path.unset d
  | .count => do
    let field ← countField operand
    return if ds.isEmpty then [] else [Document.single field (.ofInt ds.length)]
  | .group => do Group.run (← document name operand) ds
  | .sortByCount => do
    let grouped ← Group.run (countByKey operand) ds
    return Sort.documents (Document.single "count" (.int32 (-1))) grouped

/-- Runs the stages of a pipeline in order. -/
def run : List Document → List Document → Result (List Document)
  | [], ds => .ok ds
  | [(name, operand)] :: rest, ds =>
    match Operator.ofName? name with
    | some op => do run rest (← runStage op name operand ds)
    | none => .error (.invalidQuery (.unknownStage name))
  | _ :: _, _ => .error (.invalidQuery .oneOperatorPerStage)

end DocumentStore.Pipeline
