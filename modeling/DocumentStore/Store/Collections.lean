import DocumentStore.Filter.Evaluation
import DocumentStore.Pipeline
import DocumentStore.Query
import DocumentStore.Update

/-!
# Collections

A store keeps its documents in named collections, in order of insertion. The operations here
are those of one view of the documents, whether committed or private to a transaction. An
operation that fails leaves every document as it is.

A collection comes into being with the first attempt to insert into it. A filter is also
checked against a collection that is not there, by evaluating it on the empty document.
-/
namespace DocumentStore

abbrev Collections := List (String × List Document)

namespace Collections

/-! ## Access -/

def get? : Collections → String → Option (List Document)
  | [], _ => none
  | (other, ds) :: rest, name => if other = name then some ds else get? rest name

/-- The documents of a collection. One that is not there has none. -/
def documents (cs : Collections) (name : String) : List Document := (cs.get? name).getD []

def put : Collections → String → List Document → Collections
  | [], name, ds => [(name, ds)]
  | (other, old) :: rest, name, ds =>
    if other = name then (name, ds) :: rest else (other, old) :: put rest name ds

def edit (cs : Collections) (name : String) (change : List Document → List Document) :
    Collections :=
  match cs.get? name with
  | some ds => cs.put name (change ds)
  | none => cs

/-! ## Reading -/

variable [Pattern.Engine]

/-- The positions of the documents of a collection that meet a filter, in order. -/
def matching (cs : Collections) (name : String) (filter : Document) : Result (List Nat) :=
  match cs.get? name with
  | some ds => Filter.positions filter ds
  | none => do
    -- there is no document to try the filter on, but one that is malformed is refused
    let _ ← Filter.evaluate [] filter
    return []

def select (cs : Collections) (name : String) (filter : Document) : Result (List Document) := do
  let positions ← cs.matching name filter
  return match cs.get? name with
    | some ds => positions.filterMap (ds[·]?)
    | none => []

/-- The first documents of a list. Zero stands for no limit, and the sign does not matter. -/
def takeLimit (limit : Option Int) (ds : List Document) : List Document :=
  match limit with
  | some n => if n = 0 then ds else ds.take n.natAbs
  | none => ds

/-- Applies the options of a search to the documents found. -/
def arrange (options : FindOptions) (ds : List Document) : List Document :=
  let sorted := match options.sort with
    | some sort => Sort.documents sort ds
    | none => ds
  let limited := takeLimit options.limit (sorted.drop (options.skip.getD 0))
  match options.projection with
  | some projection => limited.map (Projection.apply projection)
  | none => limited

def find (cs : Collections) (name : String) (filter : Document) (options : FindOptions) :
    Result (List Document) := do
  return arrange options (← cs.select name filter)

def findOne (cs : Collections) (name : String) (filter : Document) : Result (Option Document) := do
  return (← cs.find name filter { limit := some 1 }).head?

def count (cs : Collections) (name : String) (filter : Document) : Result Nat := do
  return (← cs.matching name filter).length

/-- Runs a pipeline on a collection. -/
def aggregate (cs : Collections) (name : String) (stages : List Document) :
    Result (List Document) :=
  Pipeline.run stages (cs.documents name)

/-! ## Inserting -/

/-- The identifier of a document. -/
def idOf (d : Document) : Value := (Document.get? d idField).getD .null

def hasId (ds : List Document) (id : Value) : Bool :=
  ds.any fun d => match Document.get? d idField with
    | some other => other.same id
    | none => false

/-- Checks that documents bring identifiers that neither a list of documents nor an earlier one
of them has. -/
def checkNew (name : String) (taken : List Document) : List Document → Result Unit
  | [] => .ok ()
  | d :: rest =>
    if hasId taken (idOf d) then .error (.documentAlreadyExists (idOf d).text name)
    else checkNew name (taken ++ [d]) rest

/-- Inserts documents that have identifiers, all of them or none. -/
def insert (cs : Collections) (name : String) (ds : List Document) :
    Result Unit × Collections :=
  let existing := cs.documents name
  match checkNew name existing ds with
  | .ok () => (.ok (), cs.put name (existing ++ ds))
  | .error e => (.error e, cs.put name existing)

/-! ## Writing to live collections -/

/-- Work on live collections. What it has written by the time that it fails stays written. -/
abbrev Writing (α : Type) := ExceptT ServiceError (StateM Collections) α

/-- Does the work on some collections, to its answer and the collections as it leaves them. -/
def Writing.runOn {α : Type} (work : Writing α) (cs : Collections) : Result α × Collections :=
  (ExceptT.run work).run cs

/-- All of the positions, or the first alone. -/
def chosen (many : Bool) (positions : List Nat) : List Nat :=
  if many then positions else positions.take 1

/-! ### Updating -/

/-- Applies an update to copies of the documents at some positions. Answers the copies with their
positions, and how many of them are no longer what they were. -/
def stage (update : Document) (ds : List Document) :
    List Nat → Result (List (Nat × Document) × Nat)
  | [] => .ok ([], 0)
  | position :: rest => do
    let d := ds.getD position []
    let changed ← Update.apply d update
    let (staged, modified) ← stage update ds rest
    return ((position, changed) :: staged,
      if Document.same d changed then modified else modified + 1)

/-- Updates the documents that meet a filter, all of them or the first, and answers how many
were met and how many of them changed. -/
def update (name : String) (filter update : Document) (many : Bool) :
    Writing Update.Outcome := do
  let positions := chosen many (← (← get).matching name filter)
  let some ds := (← get).get? name | return {}
  -- no copy takes the place of its document before the update was applied to all of them
  let (staged, modified) ← stage update ds positions
  staged.forM fun (position, changed) => modify (·.edit name (·.set position changed))
  return ⟨positions.length, modified⟩

/-! ### Deleting -/

/-- Deletes the documents that meet a filter, all of them or the first, and answers how many. -/
def delete (name : String) (filter : Document) (many : Bool) : Writing Nat := do
  let positions := chosen many (← (← get).matching name filter)
  let some _ := (← get).get? name | return 0
  -- from the back, since a removal shifts the documents behind it
  positions.reverse.forM fun position => modify (·.edit name (·.eraseIdx position))
  return positions.length

end Collections

end DocumentStore
