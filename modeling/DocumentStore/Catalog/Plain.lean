import DocumentStore.Service

/-!
# Plain services

Services whose data, changes and models are documents as they are. One of them takes both
preparations into its own hands: it refuses marked data, stamps what it stores with a setting
and takes changes as update documents.
-/
namespace DocumentStore.Catalog

/-- A service without rules whose documents have any shape. -/
def plain (name collection : String) (key : KeyKind) : Service := { name, collection, key }

def alpha : Service := plain "Alpha" "alphas" .integer

def beta : Service := plain "Beta" "betas" .string

def gamma : Service := plain "Gamma" "gammas" .objectId

def delta : Service := plain "Delta" "deltas" .uuid

def omega : Service := plain "Omega" "omegas" .uuid

/-! ## Preparations of its own -/

def unlessMarked (d : Document) : Result Unit :=
  if Document.contains d "refuse" then .error (.invalidDocument (.custom "refused")) else .ok ()

/-- The integer of thirty-two bits that a word is cut to. -/
def stampOf (config : ServiceConfig) : Value := .int32 (.ofInt config.maxCascadeDepth.toNat)

def raw : Service :=
  { plain "Raw" "raws" .integer with
    prepareInsert := fun config data => do
      unlessMarked data
      return Document.insert data "stamp" (stampOf config)
    prepareUpdate := fun changes => do
      unlessMarked changes
      return changes }

end DocumentStore.Catalog
