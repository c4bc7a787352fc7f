import DocumentStore.Scenario.Step

/-!
# Scenarios

A scenario runs steps one after the other on a store that begins with some documents. For each
step it reports the answer and what the step did: the journal, the collections whose committed
documents changed, the transactions that ended, and the time that passed.
-/
namespace DocumentStore.Scenario

/-- What a step answered and did. -/
structure StepReport where
  result : Except Stop (Result Report)
  trace : List Entry
  /-- The committed documents of the collections that changed, by name. -/
  changed : List (String × List Document)
  /-- The transactions committed and aborted so far, if the step changed their numbers. -/
  transactions : Option (Nat × Nat)
  /-- The milliseconds that the step took. -/
  elapsed : Nat

/-- A scenario. -/
structure Plan where
  /-- Whether transactions are supported. -/
  transactional : Bool := true
  seed : List (String × List Document) := []
  overrides : List (String × Override) := []
  steps : List Step

/-! ## Changes -/

/-- The names of the collections of either view, sorted and each once. -/
def collectionNames (before after : Collections) : List String :=
  ((before ++ after).map (·.1)).eraseDups.mergeSort (· ≤ ·)

/-- The collections that have other documents in a view than in an earlier one. -/
def changes (before after : Collections) : List (String × List Document) :=
  ((collectionNames before after).filter fun name =>
    before.documents name != after.documents name).map fun name =>
      (name, after.documents name)

/-! ## Running -/

abbrev Names := List (String × SessionId)

/-- Does a step and answers the sessions after it. Starting a session under a name that is taken
drops the earlier one. -/
def runNamed (family : Family) (names : Names) : Step → Process (Result Report × Names)
  | .mk task name timeout catches => do
    let session := name.bind (List.lookup · names)
    let result ← (catching catches (timed timeout (task.run family session))).run
    match task, name, result with
    | .startSession, some name, .ok (.started id) =>
      if let some earlier := List.lookup name names then
        Process.onStore fun store => ((), store.dropSession earlier)
      return (result, (name, id) :: names.filter (·.1 != name))
    | .dropSession, some name, .ok _ => return (result, names.filter (·.1 != name))
    | _, _, _ => return (result, names)

def report (family : Family) (names : Names) (step : Step) (state : Process.State) :
    (StepReport × Names) × Process.State :=
  let before := { state with journal := [] }
  let (ended, after) := (runNamed family names step).run before
  let counts (store : Store) := (store.committed, store.aborted)
  let (result, names) : Except Stop (Result Report) × Names := match ended with
    | .ok (result, names) => (.ok result, names)
    | .error stop => (.error stop, names)
  let report : StepReport := {
    result
    trace := after.journal
    changed := changes before.store.collections after.store.collections
    transactions :=
      if counts before.store = counts after.store then none else some (counts after.store)
    elapsed := after.clock - before.clock }
  ((report, names), after)

def runSteps (family : Family) : Names → List Step → Process.State → List StepReport
  | _, [], _ => []
  | names, step :: rest, state =>
    let ((report, names), after) := report family names step state
    report :: runSteps family names rest after

/-- Gives identifiers to the documents of a seed that have none, beginning with a number. -/
def identifySeed : Nat → List (String × List Document) → List (String × List Document)
  | _, [] => []
  | n, (name, ds) :: rest =>
    (name, Store.identifyAll (fun i => ObjectId.generated (n + i)) ds)
      :: identifySeed (n + ds.length) rest

/-- Runs a scenario. It fails if its seed has two documents of one identifier. -/
def run (plan : Plan) : Result (List StepReport) := do
  let store ← Store.build plan.transactional (identifySeed 0 plan.seed)
  let generated := plan.seed.foldl (fun count entry => count + entry.2.length) 0
  return runSteps (family plan.overrides) [] plan.steps { store, generated }

end DocumentStore.Scenario
