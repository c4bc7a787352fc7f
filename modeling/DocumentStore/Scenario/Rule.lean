import DocumentStore.Catalog

/-!
# Rules of a scenario

A scenario may give a service rules that are lists of acts. Such a rule first writes down that
it was called and with what, and then runs its acts in order up to the first that fails.
-/
namespace DocumentStore.Scenario

/-- What a rule does. -/
inductive Act where
  | fail (error : ServiceError)
  /-- Fails on the first calls of the rule. -/
  | failTimes (times : Nat) (error : ServiceError)
  | reject (reason : String)
  /-- The payload must have a field that is not null. -/
  | require (field reason : String)
  /-- If the payload has a field that is not null, it must be the key of a document. -/
  | refer (field reason : String)
  /-- An update must not meet more documents. -/
  | affects (most : Nat) (reason : String)
  /-- The collection must not have more documents that meet a filter. -/
  | limit (filter : Result Document) (most : Nat) (reason : String)
  /-- None of the documents to delete may meet a filter. -/
  | denyIf (filter : Result Document) (reason : String)
  /-- Deletes the documents of a service that refer to the deleted ones in a field. -/
  | cascade (service field : String)
  /-- Inserts a document that names the key in a field for each deleted one. -/
  | archive (service field : String)
  /-- Calls a service and writes down the answer. -/
  | call (service : String) (call : Result Service.Call) (outside : Bool)
  | sleep (ms : Nat)

/-- What a rule is called on. -/
structure Occasion where
  /-- The name of the service and of the rule. -/
  service : String
  rule : String
  payload : Option Document := none
  /-- The filter of an update. -/
  updated : Option Document := none
  keys : List Key := []

/-- The value of a field of the payload, unless it is missing or null. -/
def Occasion.given (o : Occasion) (field : String) : Option Value :=
  match o.payload.bind (Document.get? · field) with
  | some .null => none
  | value => value

/-- Rejects unless a condition holds. -/
def demand (condition : Bool) (reason : String) : Program Unit :=
  if condition then return () else Program.fail (.rejected reason)

def Act.run (o : Occasion) : Act → Program Unit
  | .fail e => Program.fail e
  | .failTimes times e => do
    let count ← Program.request (.tick (o.service ++ "." ++ o.rule))
    if count ≤ times then Program.fail e else return ()
  | .reject reason => demand false reason
  | .require field reason => demand (o.given field).isSome reason
  | .refer field reason =>
    match o.given field with
    | some id => do demand (← Program.call o.service (.contains id)) reason
    | none => return ()
  | .affects most reason =>
    match o.updated with
    | some filter => do demand ((← Program.call o.service (.count filter)) ≤ most) reason
    | none => return ()
  | .limit filter most reason => do
    let filter ← filter
    demand ((← Program.call o.service (.count filter)) ≤ most) reason
  | .denyIf filter reason => do
    let filter ← filter
    let both := Document.single "$and"
      (.array [.document (Key.filterAll o.keys), .document filter])
    demand ((← Program.call o.service (.count both)) = 0) reason
  | .cascade service field => do
    let _ ← Program.call service (.deleteMany (Key.filterIn field o.keys))
  | .archive service field =>
    o.keys.forM fun key => do
      let _ ← Program.call service (.insert (Document.single field key.toValue))
  | .call service c outside => do
    let c ← c
    let answer ← Program.request (.call service outside c)
    Program.record (.answered c answer)
  | .sleep ms => Program.request (.sleep ms)

def runActs (o : Occasion) (acts : List Act) : Program Unit := acts.forM (Act.run o)

inductive RuleChange where
  | validator (name : String) (kind : ValidatorKind) (acts : List Act)
  | deleteRule (name : String) (phase : DeletePhase) (acts : List Act)
  | remove (name : String)

/-- Changes the rules of a service. A validator looks at its payload as it is stored. -/
def RuleChange.apply (service : Service) (rules : Rules) : RuleChange → Rules
  | .validator name kind acts =>
    rules.validator name kind fun v => do
      let payload ← service.mapping v.payload.document
      Program.record
        (.validation service.name name v.payload.kind v.filter v.depth v.inTransaction)
      runActs ⟨service.name, name, some payload, v.filter, []⟩ acts
  | .deleteRule name phase acts =>
    rules.deleteRule name phase fun d => do
      Program.record (.deletion service.name name d.ids d.depth d.inTransaction)
      runActs ⟨service.name, name, none, none, d.ids⟩ acts
  | .remove name => rules.remove name

/-- What a scenario changes about a service. -/
structure Override where
  /-- The rules in place of those of the service. -/
  rules : Option (List RuleChange) := none
  /-- The settings in place of those of the service. -/
  config : Option ServiceConfig := none

/-- Changes a service. -/
def Override.apply (o : Override) (service : Service) : Service :=
  { service with
    rules := match o.rules with
      | some changes => changes.foldl (RuleChange.apply service) {}
      | none => service.rules
    config := o.config.getD service.config }

/-- The family of the catalog with the changes of a scenario. -/
def family (overrides : List (String × Override)) : Family := fun name =>
  match overrides.lookup name with
  | some o => o.apply (Catalog.family name)
  | none => Catalog.family name

end DocumentStore.Scenario
