import DocumentStore.Error
import DocumentStore.Index

/-!
# Index registry

The declared indexes of each collection, under names in order of first creation. Creating an
index under a name that is taken replaces the declaration in place. The index on the
identifier is always listed first and is not a declared one.
-/
namespace DocumentStore

/-- The declared indexes of a collection by name. -/
abbrev IndexTable := List (String × Index)

/-- The declared indexes of each collection. -/
abbrev Registry := List (String × IndexTable)

namespace IndexTable

def declare : IndexTable → String → Index → IndexTable
  | [], name, index => [(name, index)]
  | (other, old) :: rest, name, index =>
    if other = name then (name, index) :: rest else (other, old) :: declare rest name index

/-- Removes the declaration under a name. -/
def drop (table : IndexTable) (name : String) : IndexTable := table.filter (·.1 != name)

end IndexTable

namespace Registry

/-- The name of the index on the identifier. -/
def idIndex : String := "_id_"

def table (registry : Registry) (collection : String) : IndexTable :=
  (registry.lookup collection).getD []

/-- Replaces the declared indexes of a collection. -/
def put : Registry → String → IndexTable → Registry
  | [], collection, table => [(collection, table)]
  | (other, old) :: rest, collection, table =>
    if other = collection then (collection, table) :: rest
    else (other, old) :: put rest collection table

def names (registry : Registry) (collection : String) : List String :=
  idIndex :: (registry.table collection).map (·.1)

/-- Creates an index, under its default name if it is given none, and answers the name. -/
def create (registry : Registry) (collection name : String) (index : Index) :
    Result (String × Registry) :=
  if index.keys.isEmpty then .error (.invalidQuery .emptyIndex)
  else
    let name := if name.isEmpty then index.defaultName else name
    .ok (name, registry.put collection ((registry.table collection).declare name index))

/-- Drops the index under a name. -/
def drop (registry : Registry) (collection name : String) : Result Registry :=
  let table := registry.table collection
  if (table.drop name).length = table.length then
    .error (.backend (.unknownIndex name collection))
  else .ok (registry.put collection (table.drop name))

/-- Drops all declared indexes of a collection. -/
def dropAll (registry : Registry) (collection : String) : Registry :=
  registry.put collection []

end Registry

end DocumentStore
