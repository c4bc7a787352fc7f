import DocumentStore.Proofs.Process.Ending
import DocumentStore.Proofs.Service.Deletion

/-!
# Services and their rules

What a service does depends on its rules in two places only: writes run the validators, and
deletions on a handle above the limit run the delete rules. Where these are the same, or come to
an end, so is or does the whole call.
-/
namespace DocumentStore

open Process

variable {α : Type}

/-! ## Kinds of calls -/

/-- Whether a call is validated before it writes. -/
def Service.Call.Validates : Service.Call → Prop
  | .insert _ | .insertMany _ | .create _ | .updateMany _ _ | .updateOne _ _ | .updateById _ _
  | .update _ _ => True
  | _ => False

/-! ## Programs -/

namespace Program

variable {kind : Request → Prop} {program : Program α}
  {answer answer' : (request : Request) → Action request.Answer}

/-- Every program asks for something. -/
theorem asks_anything (program : Program α) : program.Asks fun _ => True := by
  induction program with
  | done result => trivial
  | ask request next ih => exact ⟨trivial, ih⟩

/-- A program runs the same where its requests are answered the same. -/
theorem Asks.run_congr (h : program.Asks kind)
    (hanswer : ∀ request, kind request → answer' request = answer request) :
    (program.run answer' : Process (Result α)) = program.run answer := by
  induction program with
  | done result => rfl
  | ask request next ih =>
    unfold Program.run
    rw [hanswer request h.1]
    exact bind_congr fun answered => ih answered (h.2 answered)

theorem Asks.settles {answer : Nat → (request : Request) → Action request.Answer}
    (h : program.Asks kind)
    (hanswer : ∀ request, kind request → Settles fun levels => (answer levels request).run) :
    Settles fun levels => (program.run (answer levels) : Process (Result α)) := by
  induction program with
  | done result => exact .pure result
  | ask request next ih =>
    exact (hanswer request h.1).bind fun answered => ih answered (h.2 answered)

end Program

namespace Handle

/-- The service with other rules. -/
def withRules (h : Handle) (rules : Rules) : Handle :=
  { h with service := { h.service with rules } }

/-! ## Calls on services with other rules -/

section

variable (h : Handle) (rules : Rules) (session : Option SessionId)

theorem withRules_findOne (filter : Document) :
    (h.withRules rules).findOne session filter = h.findOne session filter := by
  unfold findOne
  refine bind_congr fun found => ?_
  cases found with
  | none => rfl
  | some d => rfl

theorem withRules_getStored (key : Key) :
    (h.withRules rules).getStored session key = h.getStored session key := by
  unfold getStored get
  rw [withRules_findOne]
  rfl

end

section

variable {h : Handle} {rules : Rules} {answerer answerer' : Answerer}
  {session : Option SessionId}

section

variable (hvalidate : ∀ payload filter,
  (h.withRules rules).validate answerer' session payload filter
    = h.validate answerer session payload filter)

include hvalidate

theorem insertOne_congr (data : Document) :
    (h.withRules rules).insertOne answerer' session data = h.insertOne answerer session data := by
  unfold insertOne
  rw [hvalidate]
  rfl

theorem insertMany_congr (data : List Document) :
    (h.withRules rules).insertMany answerer' session data
      = h.insertMany answerer session data := by
  unfold insertMany
  simp only [hvalidate]
  rfl

theorem applyUpdate_congr (filter changes : Document) (many : Bool) :
    (h.withRules rules).applyUpdate answerer' session filter changes many
      = h.applyUpdate answerer session filter changes many := by
  unfold applyUpdate
  rw [hvalidate]
  rfl

end

theorem deleteOnSession_congr
    (hrules : h.depth < h.service.config.maxCascadeDepth.toNat → ∀ id keys phase wrap,
      (h.withRules rules).deeper.runDeleteRules answerer' id keys phase wrap
        = h.deeper.runDeleteRules answerer id keys phase wrap)
    (id : SessionId) (filter : Document) (single : Bool) :
    (h.withRules rules).deleteOnSession answerer' id filter single
      = h.deleteOnSession answerer id filter single := by
  unfold deleteOnSession
  refine bind_congr fun keys => ?_
  by_cases hdeep : h.service.config.maxCascadeDepth.toNat ≤ h.depth
  -- on a handle that is too deep no rule is run
  · have hdeep' : (h.withRules rules).service.config.maxCascadeDepth.toNat
        ≤ (h.withRules rules).depth := hdeep
    rw [if_pos hdeep, if_pos hdeep']
    rfl
  · unfold deleteKeys
    simp only [hrules (Nat.lt_of_not_le hdeep)]
    rfl

/-- A call is the same on a service with other rules that are run the same. -/
theorem answer_congr {call : Service.Call} (houtline : rules.outline = h.service.rules.outline)
    (hvalidate : call.Validates → ∀ payload filter,
      (h.withRules rules).validate answerer' session payload filter
        = h.validate answerer session payload filter)
    (hrules : call.Deletes → h.depth < h.service.config.maxCascadeDepth.toNat →
      ∀ id keys phase wrap,
        (h.withRules rules).deeper.runDeleteRules answerer' id keys phase wrap
          = h.deeper.runDeleteRules answerer id keys phase wrap) :
    (h.withRules rules).answer answerer' session call = h.answer answerer session call := by
  have hinfo : (h.withRules rules).info = h.info := by simp [info, withRules, houtline]
  have hhas : (h.withRules rules).service.rules.hasDeleteRules
      = h.service.rules.hasDeleteRules := by
    have houtlines := congrArg RuleSet.deleteRules houtline
    have hempty : rules.deleteRules.isEmpty = h.service.rules.deleteRules.isEmpty := by
      simpa [RuleSet.outline] using congrArg List.isEmpty houtlines
    exact congrArg (!·) hempty
  have hmatching (hdeletes : call.Deletes) (filter : Document) (single : Bool) :
      (h.withRules rules).deleteMatching answerer' session filter single
        = h.deleteMatching answerer session filter single := by
    unfold deleteMatching
    rw [hhas]
    simp only [deleteOnSession_congr (hrules hdeletes)]
    rfl
  cases call with
  | find | findDocuments | findIds | count | contains | aggregate | aggregateAs => rfl
  | createIndexes | createIndex | dropIndex | dropIndexes | listIndexes => rfl
  | supportsTransactions => rfl
  | findOne filter => exact h.withRules_findOne rules session filter
  | get id => exact bind_congr fun key => h.withRules_findOne rules session key.filter
  | insert data => exact bind_congr fun item => insertOne_congr (hvalidate trivial) item
  | insertMany data => exact bind_congr fun items => insertMany_congr (hvalidate trivial) items
  | create data =>
    refine bind_congr fun item => ?_
    unfold create
    rw [insertOne_congr (hvalidate trivial)]
    exact bind_congr fun key => h.withRules_getStored rules session key
  | updateMany filter changes =>
    exact bind_congr fun changes => applyUpdate_congr (hvalidate trivial) filter changes true
  | updateOne filter changes =>
    exact bind_congr fun changes => applyUpdate_congr (hvalidate trivial) filter changes false
  | updateById id changes =>
    exact bind_congr fun key => bind_congr fun changes =>
      applyUpdate_congr (hvalidate trivial) key.filter changes false
  | update id changes =>
    refine bind_congr fun key => bind_congr fun changes => ?_
    unfold update updateByKey
    rw [applyUpdate_congr (hvalidate trivial)]
    simp only [withRules_getStored]
    rfl
  | deleteMany filter => exact hmatching trivial filter false
  | deleteOne filter => exact hmatching trivial filter true
  | delete id => exact bind_congr fun key => hmatching trivial key.filter true
  | rules | info => exact congrArg pure hinfo

end

/-! ## Calls that come to an end -/

section

variable {h : Handle} {session : Option SessionId}

theorem settles_findOne (filter : Document) :
    Settles fun _ => (h.findOne session filter).run := by
  unfold findOne
  refine .action (.ask session _) fun found => ?_
  cases found with
  | none => exact .pure _
  | some d => exact .action (.ofResult _) fun model => .pure _

theorem settles_getStored (key : Key) : Settles fun _ => (h.getStored session key).run := by
  unfold getStored
  refine .action (settles_findOne key.filter) fun found => ?_
  cases found with
  | none => exact .throw _
  | some d => exact .pure _

theorem settles_findIds (filter : Document) :
    Settles fun _ => (h.findIds session filter).run := by
  unfold findIds
  exact .action (.ask session _) fun found => .ofResult _

variable {answerer : Nat → Answerer}

section

variable (hvalidate : ∀ payload filter,
  Settles fun levels => (h.validate (answerer levels) session payload filter).run)

include hvalidate

theorem settles_insertOne (data : Document) :
    Settles fun levels => (h.insertOne (answerer levels) session data).run := by
  unfold insertOne
  refine .action (hvalidate _ _) fun _ => .action (.ofResult _) fun d => ?_
  exact .action (.ask session _) fun id => .ofResult _

theorem settles_insertMany (data : List Document) :
    Settles fun levels => (h.insertMany (answerer levels) session data).run := by
  unfold insertMany
  refine .action (.forM fun item _ => hvalidate _ _) fun _ => ?_
  split
  · exact .pure _
  · refine .action (.ofResult _) fun ds => ?_
    exact .action (.ask session _) fun ids => .ofResult _

theorem settles_applyUpdate (filter changes : Document) (many : Bool) :
    Settles fun levels =>
      (h.applyUpdate (answerer levels) session filter changes many).run := by
  unfold applyUpdate
  refine .action (hvalidate _ _) fun _ => .action (.ofResult _) fun update => ?_
  split
  · exact .action (.ask session _) fun matched => .pure _
  · exact .ask session _

theorem settles_update (key : Key) (changes : Document) :
    Settles fun levels => (h.update (answerer levels) session key changes).run := by
  unfold update
  refine .action (settles_applyUpdate hvalidate _ _ _) fun outcome => ?_
  split
  · exact .throw _
  · exact settles_getStored key

end

theorem settles_deleteMatching
    (hrules : h.depth < h.service.config.maxCascadeDepth.toNat → ∀ id keys phase wrap,
      Settles fun levels =>
        (h.deeper.runDeleteRules (answerer levels) id keys phase wrap).run)
    (filter : Document) (single : Bool) :
    Settles fun levels => (h.deleteMatching (answerer levels) session filter single).run := by
  have hsession (id : SessionId) :
      Settles fun levels => (h.deleteOnSession (answerer levels) id filter single).run := by
    unfold deleteOnSession
    refine .action (settles_findIds filter) fun keys => ?_
    split
    · exact .pure _
    · split
      · exact .throw _
      · split
        · exact .throw _
        · rename_i hdepth
          have hrun := hrules (Nat.lt_of_not_le hdepth) id keys
          refine .action (hrun _ _) fun _ => .transact _ id ?_
          refine .action (hrun _ _) fun _ => .action (.ask (some id) _) fun deleted => ?_
          exact .action (hrun _ _) fun _ => .pure _
  unfold deleteMatching
  split
  · exact .usingSession hsession session
  · exact .ask session _

/-- A call comes to an end if the rules that it runs do. -/
theorem settles_answer {call : Service.Call}
    (hvalidate : call.Validates → ∀ payload filter,
      Settles fun levels => (h.validate (answerer levels) session payload filter).run)
    (hrules : call.Deletes → h.depth < h.service.config.maxCascadeDepth.toNat →
      ∀ id keys phase wrap, Settles fun levels =>
        (h.deeper.runDeleteRules (answerer levels) id keys phase wrap).run) :
    Settles fun levels => (h.answer (answerer levels) session call).run := by
  cases call with
  | find query => exact .action (.ask session _) fun found => .ofResult _
  | findDocuments | count | aggregate | createIndex | dropIndex | dropIndexes =>
    exact .ask session _
  | listIndexes => exact .ask none _
  | findOne filter => exact settles_findOne filter
  | get id => exact .action (.ofResult _) fun key => settles_findOne key.filter
  | findIds filter => exact settles_findIds filter
  | contains id =>
    exact .action (.ofResult _) fun key => .action (.ask session _) fun found => .pure _
  | aggregateAs record stages => exact .action (.ask session _) fun found => .ofResult _
  | createIndexes => exact .mapM fun entry => .ask session _
  | supportsTransactions => exact .of_ends fun s => ⟨_, rfl⟩
  | rules | info => exact .pure _
  -- writes end if the validators do, and deletions if the delete rules do
  | insert data =>
    exact .action (.ofResult _) fun item => settles_insertOne (hvalidate trivial) item
  | insertMany data =>
    exact .action (.ofResult _) fun items => settles_insertMany (hvalidate trivial) items
  | create data =>
    exact .action (.ofResult _) fun item =>
      .action (settles_insertOne (hvalidate trivial) item) fun key => settles_getStored key
  | updateMany filter changes | updateOne filter changes =>
    exact .action (.ofResult _) fun changes => settles_applyUpdate (hvalidate trivial) filter _ _
  | updateById id changes =>
    exact .action (.ofResult _) fun key => .action (.ofResult _) fun changes =>
      settles_applyUpdate (hvalidate trivial) key.filter changes false
  | update id changes =>
    exact .action (.ofResult _) fun key => .action (.ofResult _) fun changes =>
      settles_update (hvalidate trivial) key changes
  | deleteMany filter | deleteOne filter =>
    exact settles_deleteMatching (hrules trivial) filter _
  | delete id =>
    exact .action (.ofResult _) fun key => settles_deleteMatching (hrules trivial) key.filter true

end

end Handle

end DocumentStore
