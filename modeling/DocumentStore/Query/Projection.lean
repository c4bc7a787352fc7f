import DocumentStore.Value.Number

/-!
# Projection

A projection keeps some fields at the top of a document. If any of its values counts as yes it
lists the fields to keep, otherwise those to leave out. The identifier is kept unless the
projection says no to it.
-/
namespace DocumentStore.Projection

def keeps (projection : Document) (name : String) : Bool :=
  match Document.get? projection name with
  | some value => value.truthy
  | none => name == idField || !projection.any (·.2.truthy)

/-- The part of a document that a projection keeps. -/
def apply (projection d : Document) : Document :=
  d.filter fun field => keeps projection field.1

end DocumentStore.Projection
