import DocumentStore.Store

/-!
# Calls to a store

The requests that a store answers, as data: what can be asked of one collection, each with the
type of its answer. A call is made on a session or without one, and may be given identifiers
for the documents that it inserts without any.
-/
namespace DocumentStore

/-! ## Generated identifiers -/

/-- The identifiers that a store makes up, in order. -/
def ObjectId.generated (n : Nat) : ObjectId :=
  ⟨BitVec.ofNat 96 (0x6a0000000000000000000000 + n)⟩

/-- Puts an identifier in front of a document that has none. -/
def Document.identify (id : ObjectId) (d : Document) : Document :=
  if Document.contains d idField then d else (idField, .objectId id) :: d

namespace Store

/-- The documents with identifiers, those that lack one taking the one for their position. -/
def identifyAll (fresh : Nat → ObjectId) (ds : List Document) : List Document :=
  ds.mapIdx fun i d => Document.identify (fresh i) d

/-! ## Calls -/

/-- A request about one collection. -/
inductive Call where
  | find (collection : String) (filter : Document) (options : FindOptions)
  | findOne (collection : String) (filter : Document)
  | count (collection : String) (filter : Document)
  | insert (collection : String) (document : Document)
  | insertMany (collection : String) (documents : List Document)
  | update (collection : String) (filter update : Document) (many : Bool)
  | delete (collection : String) (filter : Document) (many : Bool)
  | aggregate (collection : String) (stages : List Document)
  | createIndex (collection name : String) (index : Index)
  | dropIndex (collection name : String)
  | dropIndexes (collection : String)
  | listIndexes (collection : String)

/-- How many documents a call inserts. -/
def Call.inserted : Call → Nat
  | .insert _ _ => 1
  | .insertMany _ ds => ds.length
  | _ => 0

@[reducible] def Call.Answer : Call → Type
  | .find .. => List Document
  | .findOne .. => Option Document
  | .count .. => Nat
  | .insert .. => Value
  | .insertMany .. => List Value
  | .update .. => Update.Outcome
  | .delete .. => Nat
  | .aggregate .. => List Document
  | .createIndex .. => String
  | .dropIndex .. => Unit
  | .dropIndexes .. => Unit
  | .listIndexes .. => List String

/-- Writes the declared indexes. Neither sessions nor the version of the store matter to them. -/
def writeIndexes {α : Type} (s : Store) (f : Registry → Result (α × Registry)) :
    Result α × Store :=
  match f s.indexes with
  | .ok (value, indexes) => (.ok value, { s with indexes })
  | .error e => (.error e, s)

/-- Inserts documents and answers their identifiers. -/
def insertAll (s : Store) (session : Option SessionId) (collection : String)
    (ds : List Document) : Result (List Value) × Store :=
  s.write session fun cs =>
    let (result, written) := cs.insert collection ds
    (result.map fun _ => ds.map Collections.idOf, written)

/-- Answers a call on a session, with identifiers for the documents that lack one. -/
def answer [Pattern.Engine] (s : Store) (session : Option SessionId) (fresh : Nat → ObjectId) :
    (call : Call) → Result call.Answer × Store
  | .find collection filter options => ((s.view session).find collection filter options, s)
  | .findOne collection filter => ((s.view session).findOne collection filter, s)
  | .count collection filter => ((s.view session).count collection filter, s)
  | .insert collection d =>
    let d := Document.identify (fresh 0) d
    let (result, written) := s.insertAll session collection [d]
    (result.map fun _ => Collections.idOf d, written)
  | .insertMany collection ds => s.insertAll session collection (identifyAll fresh ds)
  | .update collection filter update many =>
    match Update.check update with
    | .ok () => s.write session (Collections.update collection filter update many).runOn
    | .error e => (.error e, s)
  | .delete collection filter many =>
    s.write session (Collections.delete collection filter many).runOn
  | .aggregate collection stages => ((s.view session).aggregate collection stages, s)
  | .createIndex collection name index =>
    s.writeIndexes fun registry => registry.create collection name index
  | .dropIndex collection name =>
    s.writeIndexes fun registry => do return ((), ← registry.drop collection name)
  | .dropIndexes collection =>
    s.writeIndexes fun registry => .ok ((), registry.dropAll collection)
  | .listIndexes collection => (.ok (s.indexes.names collection), s)

end Store

end DocumentStore
