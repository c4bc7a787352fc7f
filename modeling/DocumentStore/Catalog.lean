import DocumentStore.Catalog.People
import DocumentStore.Catalog.Plain
import DocumentStore.Catalog.Tree
import DocumentStore.Service.Family

/-!
# Catalog

The services that come with the library, as a family.
-/
namespace DocumentStore.Catalog

/-- The services of the catalog. -/
def services : List Service :=
  [alpha, beta, gamma, delta, omega, raw, Tree.nodes, Tree.fragile, People.people,
    People.strict, People.archived]

/-- The records that the models of the catalog are read as, by name. -/
def models : List (String × Record) :=
  [("Person", People.person), ("TreeNode", Tree.node), ("Archive", People.entry)]

/-- The family of the catalog. Any other name stands for a plain service on a collection of that
name. -/
def family : Family := fun name =>
  (services.find? (·.name == name)).getD (plain name name .objectId)

end DocumentStore.Catalog
