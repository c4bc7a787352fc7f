import DocumentStore.Filter.Clause

/-!
# Queries

What to find, in which order, how much of it, and which of its fields.
-/
namespace DocumentStore

/-- The direction of a sort key. -/
inductive Direction where
  | ascending
  | descending
  deriving DecidableEq, Repr

/-- The number of a direction in a sort document. -/
def Direction.value : Direction → Value
  | .ascending => .int32 1
  | .descending => .int32 (-1)

/-- A path to sort by. -/
structure SortKey where
  path : String
  direction : Direction
  deriving DecidableEq, Repr

/-- A request for documents. -/
structure Query where
  filter : Option Clause := none
  limit : Option Int := none
  offset : Option Nat := none
  /-- The first key decides first. -/
  sort : List SortKey := []
  projection : Option Document := none

namespace Query

/-- The filter document of a query. Without a filter, every document matches. -/
def filterDocument (q : Query) : Document :=
  match q.filter with
  | some clause => clause.compile
  | none => []

def sortDocument? (q : Query) : Option Document :=
  if q.sort.isEmpty then none
  else some (q.sort.foldl (fun d key => Document.insert d key.path key.direction.value) [])

end Query

/-- What a store is asked for beside a filter. -/
structure FindOptions where
  sort : Option Document := none
  skip : Option Nat := none
  limit : Option Int := none
  projection : Option Document := none

def Query.options (q : Query) : FindOptions :=
  ⟨q.sortDocument?, q.offset, q.limit, q.projection⟩

end DocumentStore
