import DocumentStore.Query

/-!
# Indexes

The declaration of an index: its keys with their directions and the options that are set.
Declarations are recorded by a store but neither used nor enforced.
-/
namespace DocumentStore

/-- The declaration of an index. -/
structure Index where
  keys : Document
  unique : Bool := false
  sparse : Bool := false
  background : Bool := false
  collation : Option Document := none
  /-- Options beyond the named ones. They win over them. -/
  extra : Document := []

namespace Index

def on (field : Field) (direction : Direction) : Index :=
  { keys := Document.single field.path direction.value }

/-- Adds an option. -/
def withOption (index : Index) (key : String) (value : Value) : Index :=
  { index with extra := Document.insert index.extra key value }

/-- The document of a flag that is written only when it is set. -/
def flagField (name : String) (on : Bool) : Document :=
  if on then Document.single name (.boolean true) else []

def options (index : Index) (name : String) : Document :=
  let named : Document := ("name", .string name) :: flagField "unique" index.unique
    ++ flagField "sparse" index.sparse ++ flagField "background" index.background
    ++ (match index.collation with
      | some collation => Document.single "collation" (.document collation)
      | none => [])
  index.extra.foldl (fun d field => Document.insert d field.1 field.2) named

/-- The name of an index that is created without one: its keys and directions. -/
def defaultName (index : Index) : String :=
  "_".intercalate (index.keys.map fun key => key.1 ++ "_" ++ key.2.text)

end Index

end DocumentStore
