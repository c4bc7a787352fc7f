import DocumentStore.Filter.Clause
import DocumentStore.Service

/-!
# Trees

Nodes with a parent each, or none. A parent must exist, no node may become its own parent, a
root cannot be deleted, and deleting a node deletes the nodes below it.
-/
namespace DocumentStore.Catalog.Tree

/-! ## Records -/

/-- The field for the node above. -/
def parent : Field := ⟨"parent", .objectId, true⟩

def nodeName : Field := ⟨"name", .string, false⟩

/-- A stored node. -/
def node : Record :=
  [.required idField .objectId, .required "name" .string, .nullable "parent" .objectId]

def newNode : Record :=
  [{ RecordField.nullable idField .objectId with leftOut := true }, .required "name" .string,
    .nullable "parent" .objectId]

def nodeChanges : Record := [.nullable "name" .string, .nullable "parent" .objectId]

/-! ## Rules -/

/-- The filter for the children of some nodes. -/
def childrenOf (keys : List Key) : Result Document := do
  return (← parent.isIn (Key.toValues keys)).compile

/-- The filter for those of some nodes that meet a clause. -/
def among (keys : List Key) (clause : Result Clause) : Result Document := do
  return (Clause.and [← Field.id.isIn (Key.toValues keys), ← clause]).compile

/-- The parent in the data or the changes of a node. -/
def parentOf (payload : Payload) : Option ObjectId :=
  match Document.get? payload.document "parent" with
  | some (.objectId id) => some id
  | _ => none

def parentExists (self : String) (v : Validation) : Program Unit := do
  match parentOf v.payload with
  | none => return ()
  | some id =>
    if ← Program.call self (.contains (.objectId id)) then return ()
    else Program.fail (.rejected ("parent " ++ id.text ++ " does not exist"))

/-- No node may become its own parent. -/
def notOwnParent (self : String) (v : Validation) : Program Unit := do
  match v.filter, parentOf v.payload with
  | some filter, some id =>
    let keys ← Program.call self (.findIds filter)
    if keys.contains (.objectId id) then
      Program.fail (.rejected "a node cannot be its own parent")
    else return ()
  | _, _ => return ()

def denyRoot (self : String) (d : Deletion) : Program Unit := do
  let roots ← among d.ids (parent.eq .null)
  if (← Program.call self (.count roots)) > 0 then
    Program.fail (.rejected "root nodes cannot be deleted")
  else return ()

/-- Deletes the nodes below. -/
def deleteChildren (self : String) (d : Deletion) : Program Unit := do
  let children ← childrenOf d.ids
  let _ ← Program.call self (.deleteMany children)

/-- The rules of a service of trees. -/
def rules (self : String) : Rules :=
  (((({} : Rules)
    |>.validator "parent_exists" .insertUpdate (parentExists self))
    |>.validator "not_own_parent" .update (notOwnParent self))
    |>.deleteRule "deny_root" .deny (denyRoot self))
    |>.deleteRule "delete_children" .pre (deleteChildren self)

/-! ## Late failures -/

/-- Marked nodes are refused after the nodes below them are gone. -/
def refuseMarked (self : String) (d : Deletion) : Program Unit := do
  let marked ← among d.ids (nodeName.eq (.string "marked"))
  if (← Program.call self (.count marked)) = 0 then return ()
  let children ← childrenOf d.ids
  let left ← Program.call self (.count children)
  Program.fail (.rejected
    ("marked node refused with " ++ toString left ++ " children left"))

/-- There must be a sealed node after every deletion. -/
def keepSealed (self : String) (_ : Deletion) : Program Unit := do
  let sealed ← nodeName.eq (.string "sealed")
  if (← Program.call self (.count sealed.compile)) = 0 then
    Program.fail (.rejected "sealed nodes must survive")
  else return ()

/-! ## Services -/

/-- A service of trees. -/
def service (name : String) (rules : Rules) : Service where
  name
  collection := "tree_nodes"
  key := .objectId
  readInsert := newNode.read
  readUpdate := nodeChanges.read
  readModel := node.read
  mapping := .ok
  rules

def nodes : Service := service "TreeNodeService" (rules "TreeNodeService")

/-- The service of trees with rules that fail late. -/
def fragile : Service :=
  let self := "FragileTreeService"
  service self (((rules self).deleteRule "refuse_marked" .pre (refuseMarked self)).deleteRule
    "keep_sealed" .post (keepSealed self))

end DocumentStore.Catalog.Tree
