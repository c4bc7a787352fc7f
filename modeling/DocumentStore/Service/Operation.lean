import DocumentStore.Process
import DocumentStore.Service

/-!
# Operations of a service

Inserts and updates run their validators first; one that fails ends the operation before
anything is written. A delete on a service with delete rules finds the keys to delete, runs the
rules that may deny it, and then, in one transaction, the rules before, the deletion and the
rules after. Deletes that the rules issue are nested in it and counted by the depth of the
handle, beyond whose limit the innermost fails.

All operations take a way to answer the requests of rules.
-/
namespace DocumentStore

/-- Answers a request of a rule that was handed services of a depth, on a session. -/
abbrev Answerer :=
  (depth : Nat) → Option SessionId → (request : Request) → Action request.Answer

namespace Handle

/-! ## Reading -/

def findDocuments (h : Handle) (session : Option SessionId) (query : Query) :
    Action (List Document) :=
  Process.ask session (.find h.service.collection query.filterDocument query.options)

/-- Finds documents and reads them. -/
def find (h : Handle) (session : Option SessionId) (query : Query) :
    Action (List Document) := do
  let found ← h.findDocuments session query
  Process.ofResult (found.mapM h.service.readModel)

/-- Finds and reads the first document that meets a filter. -/
def findOne (h : Handle) (session : Option SessionId) (filter : Document) :
    Action (Option Document) := do
  match ← Process.ask session (.findOne h.service.collection filter) with
  | some d => return some (← h.service.readModel d)
  | none => return none

/-- Finds and reads the document of a key. -/
def get (h : Handle) (session : Option SessionId) (key : Key) : Action (Option Document) :=
  h.findOne session key.filter

def findIds (h : Handle) (session : Option SessionId) (filter : Document) :
    Action (List Key) := do
  let options := { projection := some (Document.single idField (.int32 1)) }
  let found ← Process.ask session (.find h.service.collection filter options)
  Process.ofResult (found.mapM (Key.ofDocument h.service.key))

def count (h : Handle) (session : Option SessionId) (filter : Document) : Action Nat :=
  Process.ask session (.count h.service.collection filter)

/-- Whether there is a document of a key. -/
def contains (h : Handle) (session : Option SessionId) (key : Key) : Action Bool := do
  return (← h.count session key.filter) > 0

/-- Runs a pipeline. -/
def aggregate (h : Handle) (session : Option SessionId) (stages : List Document) :
    Action (List Document) :=
  Process.ask session (.aggregate h.service.collection stages)

/-! ## Validation -/

/-- Runs the validators for a payload in order, up to the first that fails. -/
def validate (h : Handle) (answer : Answerer) (session : Option SessionId) (payload : Payload)
    (filter : Option Document) : Action Unit :=
  (h.service.rules.validatorsFor payload.kind).forM fun rule => do
    let inTransaction ← session.mapM (Process.inTransaction ·)
    let program := rule.hook ⟨payload, filter, h.depth, inTransaction⟩
    Process.wrapping (.validationFailed (h.ruleName rule.name))
      (program.run (answer h.depth session))

/-! ## Inserting -/

def insertOne (h : Handle) (answer : Answerer) (session : Option SessionId) (data : Document) :
    Action Key := do
  h.validate answer session (.insert data) none
  let d ← h.service.prepareInsert h.service.config data
  let id ← Process.ask session (.insert h.service.collection d)
  Key.ofValue h.service.key id

/-- Inserts data items, none of them before all are validated, and answers their keys. -/
def insertMany (h : Handle) (answer : Answerer) (session : Option SessionId)
    (data : List Document) : Action (List Key) := do
  data.forM fun item => h.validate answer session (.insert item) none
  if data.isEmpty then return []
  else
    let ds ← Process.ofResult (data.mapM (h.service.prepareInsert h.service.config))
    let ids ← Process.ask session (.insertMany h.service.collection ds)
    Process.ofResult (ids.mapM (Key.ofValue h.service.key))

/-- The error for a key without a document. -/
def notFound (h : Handle) (key : Key) : ServiceError :=
  .notFound h.service.collection (Document.text key.filter)

/-- The document of a key, which must be there. -/
def getStored (h : Handle) (session : Option SessionId) (key : Key) : Action Document := do
  match ← h.get session key with
  | some d => return d
  | none => throw (h.notFound key)

def create (h : Handle) (answer : Answerer) (session : Option SessionId) (data : Document) :
    Action Document := do
  h.getStored session (← h.insertOne answer session data)

/-! ## Updating -/

/-- Whether an update writes nothing. -/
def isEmptyUpdate (update : Document) : Bool :=
  update.all fun
    | (_, .document fields) => fields.isEmpty
    | _ => false

/-- Applies changes to the documents that meet a filter. If the changes are empty, the documents
are counted instead. -/
def applyUpdate (h : Handle) (answer : Answerer) (session : Option SessionId)
    (filter changes : Document) (many : Bool) : Action Update.Outcome := do
  h.validate answer session (.update changes) (some filter)
  let update ← h.service.prepareUpdate changes
  if isEmptyUpdate update then
    let matched ← h.count session filter
    return ⟨if many then matched else min matched 1, 0⟩
  else Process.ask session (.update h.service.collection filter update many)

/-- Applies changes to the document of a key. -/
def updateByKey (h : Handle) (answer : Answerer) (session : Option SessionId) (key : Key)
    (changes : Document) : Action Update.Outcome :=
  h.applyUpdate answer session key.filter changes false

/-- Applies changes to the document of a key, which must be there, and answers it. -/
def update (h : Handle) (answer : Answerer) (session : Option SessionId) (key : Key)
    (changes : Document) : Action Document := do
  let outcome ← h.updateByKey answer session key changes
  if outcome.matched = 0 then throw (h.notFound key) else h.getStored session key

/-! ## Deleting -/

/-- Runs the delete rules of a phase in order, up to the first that fails. -/
def runDeleteRules (h : Handle) (answer : Answerer) (session : SessionId) (keys : List Key)
    (phase : DeletePhase) (wrap : String → ServiceError → ServiceError) : Action Unit :=
  (h.service.rules.deleteRulesIn phase).forM fun rule => do
    let inTransaction ← Process.inTransaction session
    let program := rule.hook ⟨keys, h.depth, inTransaction⟩
    Process.wrapping (wrap (h.ruleName rule.name)) (program.run (answer h.depth (some session)))

/-- Deletes the documents of some keys between the rules before and after. -/
def deleteKeys (h : Handle) (answer : Answerer) (session : SessionId) (keys : List Key) :
    Action Nat := do
  h.runDeleteRules answer session keys .pre .deleteRuleFailed
  let deleted ← Process.ask (some session)
    (.delete h.service.collection (Key.filterAll keys) true)
  h.runDeleteRules answer session keys .post .deleteRuleFailed
  return deleted

/-- Deletes the documents that meet a filter under the rules of the service. -/
def deleteOnSession (h : Handle) (answer : Answerer) (session : SessionId) (filter : Document)
    (single : Bool) : Action Nat := do
  let keys ← h.findIds (some session) filter
  if keys.isEmpty then return 0
  else if single && keys.length > 1 then
    throw (.invalidQuery (.ambiguousDelete keys.length h.service.collection))
  else if h.service.config.maxCascadeDepth.toNat ≤ h.depth then
    throw (.cascadeTooDeep h.service.collection h.service.config.maxCascadeDepth.toNat)
  else
    h.deeper.runDeleteRules answer session keys .deny .deleteDenied
    Process.transact h.service.config.retry session (h.deeper.deleteKeys answer session keys)

/-- Deletes the documents that meet a filter. `single` says that there must not be more than
one; without delete rules it asks for the first only. -/
def deleteMatching (h : Handle) (answer : Answerer) (session : Option SessionId)
    (filter : Document) (single : Bool) : Action Nat :=
  if h.service.rules.hasDeleteRules then
    ExceptT.mk (Process.usingSession session fun session =>
      (h.deleteOnSession answer session filter single).run)
  else Process.ask session (.delete h.service.collection filter (!single))

/-! ## Indexes -/

def createIndex (h : Handle) (session : Option SessionId) (name : String) (index : Index) :
    Action String :=
  Process.ask session (.createIndex h.service.collection name index)

/-! ## Calls -/

/-- Answers a call. -/
def answer (h : Handle) (answerer : Answerer) (session : Option SessionId) :
    (call : Service.Call) → Action call.Answer
  | .find query => h.find session query
  | .findDocuments query => h.findDocuments session query
  | .findOne filter => h.findOne session filter
  | .get id => do h.get session (← Key.ofValue h.service.key id)
  | .findIds filter => h.findIds session filter
  | .count filter => h.count session filter
  | .contains id => do h.contains session (← Key.ofValue h.service.key id)
  | .insert data => do h.insertOne answerer session (← h.service.readInsert data)
  | .insertMany data => do
    h.insertMany answerer session (← Process.ofResult (data.mapM h.service.readInsert))
  | .create data => do h.create answerer session (← h.service.readInsert data)
  | .updateMany filter changes => do
    h.applyUpdate answerer session filter (← h.service.readUpdate changes) true
  | .updateOne filter changes => do
    h.applyUpdate answerer session filter (← h.service.readUpdate changes) false
  | .updateById id changes => do
    let key ← Key.ofValue h.service.key id
    h.updateByKey answerer session key (← h.service.readUpdate changes)
  | .update id changes => do
    let key ← Key.ofValue h.service.key id
    h.update answerer session key (← h.service.readUpdate changes)
  | .deleteMany filter => h.deleteMatching answerer session filter false
  | .deleteOne filter => h.deleteMatching answerer session filter true
  | .delete id => do
    h.deleteMatching answerer session (← Key.ofValue h.service.key id).filter true
  | .aggregate stages => h.aggregate session stages
  | .aggregateAs record stages => do
    let found ← h.aggregate session stages
    Process.ofResult (found.mapM record.read)
  | .createIndexes => h.service.indexes.mapM fun entry => h.createIndex session entry.1 entry.2
  | .createIndex name index => h.createIndex session name index
  | .dropIndex name => Process.ask session (.dropIndex h.service.collection name)
  | .dropIndexes => Process.ask session (.dropIndexes h.service.collection)
  | .listIndexes => Process.ask none (.listIndexes h.service.collection)
  | .supportsTransactions => do return (← getThe Process.State).store.transactional
  | .rules => return h.info
  | .info => return h.info

end Handle

end DocumentStore
