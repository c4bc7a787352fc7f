import DocumentStore.Mapping
import DocumentStore.Service.Program

/-!
# Services

A service joins a collection with the type of its keys, the shapes of its documents, the rules
that guard its writes and its settings. A family gives each name a service; rules name the
services of the family that they belong to.
-/
namespace DocumentStore

/-- Leaves out the fields that are null. -/
def Document.withoutNulls (d : Document) : Document := d.filter (!·.2.isNull)

/-- The declaration of a service. -/
structure Service where
  /-- The name under which errors report its rules. -/
  name : String
  collection : String
  key : KeyKind
  /-- Reads the data of an insert. -/
  readInsert : Document → Result Document := .ok
  /-- Reads the changes of an update. -/
  readUpdate : Document → Result Document := .ok
  /-- Reads a stored document. -/
  readModel : Document → Result Document := Mapping.read
  /-- The document that data or changes are stored as. -/
  mapping : Document → Result Document := Mapping.ofDocument
  /-- The document to store for the data of an insert. -/
  prepareInsert : ServiceConfig → Document → Result Document := fun config data => do
    let d ← mapping data
    return if config.excludeNullOnInsert then d.withoutNulls else d
  /-- The update document for some changes. -/
  prepareUpdate : Document → Result Document := fun changes => do
    return Document.single "$set" (.document (← mapping changes).withoutNulls)
  /-- The declared indexes by name. -/
  indexes : List (String × Index) := []
  rules : Rules := {}
  config : ServiceConfig := {}

/-- The services that rules can name. -/
abbrev Family := String → Service

/-- A service in the hands of a caller. -/
structure Handle where
  service : Service
  /-- How many delete rules the service was handed down through. -/
  depth : Nat := 0

namespace Handle

/-- The handle that the delete rules of a service are handed. -/
def deeper (h : Handle) : Handle := { h with depth := h.depth + 1 }

/-- What the service tells about itself. -/
def info (h : Handle) : ServiceInfo :=
  ⟨h.service.collection, h.service.rules.outline, h.service.config, h.depth⟩

def ruleName (h : Handle) (rule : String) : String := h.service.name ++ "." ++ rule

end Handle

end DocumentStore
