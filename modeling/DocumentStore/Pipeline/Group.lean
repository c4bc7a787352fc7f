import DocumentStore.Pipeline.Expression

/-!
# Groups

Documents are grouped by the value of a key expression, under the equality of values, in the
order in which the keys first appear. Each accumulator sees the values of its expression in the
order of the documents.
-/
namespace DocumentStore.Group

/-! ## Accumulators -/

/-- How the values of a group are combined. -/
inductive Accumulator where
  | sum | average | least | greatest | first | last | push | addToSet | count
  deriving DecidableEq, Repr

def Accumulator.ofName? (name : String) : Option Accumulator :=
  if name = "$sum" then some .sum
  else if name = "$avg" then some .average
  else if name = "$min" then some .least
  else if name = "$max" then some .greatest
  else if name = "$first" then some .first
  else if name = "$last" then some .last
  else if name = "$push" then some .push
  else if name = "$addToSet" then some .addToSet
  else if name = "$count" then some .count
  else none

/-- A running total. Integers are added with saturation, doubles apart from them. -/
structure Total where
  integers : Int := 0
  doubles : Double := .ofInt 0
  hasDouble : Bool := false
  count : Nat := 0

/-- Adds a value to a total, if it is a number. -/
def Total.add (t : Total) : Value → Total
  | .int32 n => { t with integers := clampInt64 (t.integers + n.toInt), count := t.count + 1 }
  | .int64 n => { t with integers := clampInt64 (t.integers + n.toInt), count := t.count + 1 }
  | .double x =>
    { t with doubles := t.doubles.add x, hasDouble := true, count := t.count + 1 }
  | _ => t

def Total.toDouble (t : Total) : Double := (Double.ofInt t.integers).add t.doubles

/-- The sum: an integer unless a double was added. -/
def Total.sum (t : Total) : Value :=
  if t.hasDouble then .double t.toDouble else .ofInt t.integers

/-- The average of what was added, if anything was. -/
def Total.average (t : Total) : Value :=
  if t.count = 0 then .null else .double (t.toDouble.divide (.ofInt t.count))

/-- The values that are there and are not null. -/
def present (values : List (Option Value)) : List Value :=
  values.filterMap fun value? => value?.filter (!·.isNull)

/-- The value that sorts in the wanted way against every other one, the first of several. -/
def extreme (wanted : Ordering) (values : List Value) : Value :=
  (values.foldl (fun best? value =>
    match best? with
    | some best => if value.sortCompare best == wanted then some value else some best
    | none => some value) none).getD .null

/-- Adds a value to a list unless an equal one is there. -/
def insertNew (values : List Value) (value : Value) : List Value :=
  if values.any (·.same value) then values else values ++ [value]

def Accumulator.result (values : List (Option Value)) : Accumulator → Value
  | .sum => ((present values).foldl Total.add {}).sum
  | .average => ((present values).foldl Total.add {}).average
  | .least => extreme .lt (present values)
  | .greatest => extreme .gt (present values)
  | .first => (values.head?.bind id).getD .null
  | .last => (values.getLast?.bind id).getD .null
  | .push => .array (values.filterMap id)
  | .addToSet => .array ((values.filterMap id).foldl insertNew [])
  | .count => .ofInt values.length

/-! ## Grouping -/

/-- A field of the groups: its name, its accumulator and the expression it accumulates. -/
structure Output where
  name : String
  accumulator : Accumulator
  expression : Value

/-- Reads a field of the groups. -/
def Output.read (name : String) : Value → Result Output
  | .document [(operator, expression)] =>
    match Accumulator.ofName? operator with
    | some accumulator => .ok ⟨name, accumulator, expression⟩
    | none => .error (.invalidQuery (.unknownAccumulator operator))
  | _ => .error (.invalidQuery (.accumulatorRequired name))

/-- Reads the fields of the groups beside the key. -/
def readOutputs : List (String × Value) → Result (List Output)
  | [] => .ok []
  | (name, value) :: rest =>
    if name = idField then readOutputs rest
    else do
      let output ← Output.read name value
      return output :: (← readOutputs rest)

/-- A group: its key and, for each output, the values so far. -/
structure Bin where
  key : Value
  collected : List (List (Option Value))

def addTo (key : Value) (values : List (Option Value)) : List Bin → List Bin
  | [] => [⟨key, values.map ([·])⟩]
  | bin :: rest =>
    if bin.key.same key then
      { bin with collected := List.zipWith (fun old value => old ++ [value]) bin.collected values }
        :: rest
    else bin :: addTo key values rest

/-- Collects documents in groups. -/
def collect (keyExpression : Value) (outputs : List Output) :
    List Bin → List Document → Result (List Bin)
  | bins, [] => .ok bins
  | bins, d :: rest => do
    let key := (← Expression.evaluate d keyExpression).getD .null
    let values ← outputs.mapM fun output => Expression.evaluate d output.expression
    collect keyExpression outputs (addTo key values bins) rest

/-- The document of a group. -/
def Bin.document (outputs : List Output) (bin : Bin) : Document :=
  (outputs.zip bin.collected).foldl
    (fun d (output, values) =>
      Document.insert d output.name (output.accumulator.result values))
    (Document.single idField bin.key)

/-- Groups documents as a specification says. -/
def run (spec : Document) (ds : List Document) : Result (List Document) :=
  match Document.get? spec idField with
  | none => .error (.invalidQuery .groupKeyRequired)
  | some keyExpression => do
    let outputs ← readOutputs spec
    let bins ← collect keyExpression outputs [] ds
    return bins.map (·.document outputs)

end DocumentStore.Group
