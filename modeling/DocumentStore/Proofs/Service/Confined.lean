import DocumentStore.Proofs.Process.Confined
import DocumentStore.Service.Family

/-!
# Confined rules

A service whose rules act only on the session that they are handed keeps to that session itself.
Since the rules may call services again, this is shown for all services of a family at once, one
level of calls after the other.
-/
namespace DocumentStore

variable {α : Type}

/-! ## Kinds of requests -/

def Service.Call.Reads : Service.Call → Prop
  | .find _ | .findDocuments _ | .findOne _ | .get _ | .findIds _ | .count _ | .contains _
  | .aggregate _ | .aggregateAs _ _ | .listIndexes | .supportsTransactions | .rules | .info =>
    True
  | _ => False

namespace Request

/-- Whether a request touches documents only on the session of the rule. -/
def Inside : Request → Prop
  | .call _ outside _ => outside = false
  | .store outside _ => outside = false
  | .sleep _ | .record _ | .tick _ => True

/-- Whether a request only reads documents. -/
def Reads : Request → Prop
  | .call _ _ c => c.Reads
  | .store _ c => c.Reads
  | .sleep _ | .record _ | .tick _ => True

end Request

/-! ## Programs -/

namespace Program

/-- Whether all requests of a program are of a kind, whatever it is answered. -/
def Asks (kind : Request → Prop) : Program α → Prop
  | .done _ => True
  | .ask request next => kind request ∧ ∀ answer, (next answer).Asks kind

theorem asks_request {kind : Request → Prop} {request : Request} (h : kind request) :
    (Program.request request).Asks kind := ⟨h, fun _ => trivial⟩

theorem Asks.bind {β : Type} {kind : Request → Prop} {program : Program α}
    {next : α → Program β} (h : program.Asks kind) (hnext : ∀ a, (next a).Asks kind) :
    (program >>= next).Asks kind := by
  change (program.bind next).Asks kind
  induction program with
  | done result =>
    cases result with
    | ok value => exact hnext value
    | error e => trivial
  | ask request answered ih => exact ⟨h.1, fun answer => ih answer (h.2 answer)⟩

/-- A program keeps to a session if the answers to its requests do. -/
theorem Asks.confined {session : Option SessionId} {kind : Request → Prop}
    {answer : (request : Request) → Action request.Answer}
    (hanswer : ∀ request, kind request → Process.Confined session (answer request).run)
    {program : Program α} (h : program.Asks kind) :
    Process.Confined session (program.run answer : Process (Result α)) := by
  induction program with
  | done result => exact .pure result
  | ask request next ih =>
    exact (hanswer request h.1).bind fun answered => ih answered (h.2 answered)

end Program

/-! ## Rules -/

theorem Rule.mem_register {Tag Hook : Type} {rules : List (Rule Tag Hook)}
    {rule other : Rule Tag Hook} (h : other ∈ register rules rule) :
    other ∈ rules ∨ other = rule := by
  induction rules with
  | nil => exact .inr (by simpa [register] using h)
  | cons first rest ih =>
    unfold register at h
    split at h
    -- a rule of the same name gives up its place
    · rcases List.mem_cons.mp h with rfl | h
      · exact .inr rfl
      · exact .inl (List.mem_cons_of_mem _ h)
    · rcases List.mem_cons.mp h with rfl | h
      · exact .inl List.mem_cons_self
      · exact (ih h).imp_left (List.mem_cons_of_mem _)

/-- Whether rules act only on the session that they are handed, and those that may deny a deletion
only read. -/
structure Rules.Confined (rules : Rules) : Prop where
  validators : ∀ rule ∈ rules.validators, ∀ v, (rule.hook v).Asks Request.Inside
  deleteRules : ∀ rule ∈ rules.deleteRules, ∀ d, (rule.hook d).Asks Request.Inside
  denyRules : ∀ rule ∈ rules.deleteRules, rule.tag = .deny →
    ∀ d, (rule.hook d).Asks Request.Reads

namespace Rules.Confined

theorem empty : Confined {} := ⟨by simp, by simp, by simp⟩

theorem validator {rules : Rules} (h : rules.Confined) (name : String) (kind : ValidatorKind)
    {hook : Validation → Program Unit} (hhook : ∀ v, (hook v).Asks Request.Inside) :
    Confined (rules.validator name kind hook) := by
  refine ⟨fun rule hrule => ?_, h.deleteRules, h.denyRules⟩
  obtain hrule | rfl := Rule.mem_register hrule
  · exact h.validators rule hrule
  · exact hhook

theorem deleteRule {rules : Rules} (h : rules.Confined) (name : String) (phase : DeletePhase)
    {hook : Deletion → Program Unit} (hhook : ∀ d, (hook d).Asks Request.Inside)
    (hdeny : phase = .deny → ∀ d, (hook d).Asks Request.Reads) :
    Confined (rules.deleteRule name phase hook) := by
  refine ⟨h.validators, fun rule hrule => ?_, fun rule hrule => ?_⟩
  · obtain hrule | rfl := Rule.mem_register hrule
    · exact h.deleteRules rule hrule
    · exact hhook
  · obtain hrule | rfl := Rule.mem_register hrule
    · exact h.denyRules rule hrule
    · exact hdeny

end Rules.Confined

/-- Whether requests that keep to a session are answered by processes that do. -/
def Answerer.Confined (answerer : Answerer) (id : SessionId) : Prop :=
  ∀ depth request, request.Inside →
    Process.Confined (some id) (answerer depth (some id) request).run

namespace Handle

open Process

variable {id : SessionId} {answerer : Answerer}

/-! ## Operations that read -/

section Reading

variable (h : Handle) (reader session : Option SessionId)

theorem confined_findDocuments (query : Query) :
    Confined session (h.findDocuments reader query).run := by
  unfold findDocuments
  exact .read (by trivial) reader

theorem confined_findOne (filter : Document) :
    Confined session (h.findOne reader filter).run := by
  unfold findOne
  refine .action (.read (by trivial) reader) fun found => ?_
  cases found with
  | none => exact .pure _
  | some d => exact .action (.ofResult _) fun model => .pure _

theorem confined_get (key : Key) : Confined session (h.get reader key).run :=
  h.confined_findOne reader session key.filter

theorem confined_findIds (filter : Document) :
    Confined session (h.findIds reader filter).run := by
  unfold findIds
  exact .action (.read (by trivial) reader) fun found => .ofResult _

theorem confined_count (filter : Document) : Confined session (h.count reader filter).run := by
  unfold count
  exact .read (by trivial) reader

theorem confined_aggregate (stages : List Document) :
    Confined session (h.aggregate reader stages).run := by
  unfold aggregate
  exact .read (by trivial) reader

theorem confined_getStored (key : Key) : Confined session (h.getStored reader key).run := by
  unfold getStored
  refine .action (h.confined_get reader session key) fun found => ?_
  cases found with
  | none => exact .throw _
  | some d => exact .pure _

/-- A call that only reads is confined to any session, whoever makes it. -/
theorem confined_answer_of_reads (answerer : Answerer) {call : Service.Call} (hreads : call.Reads) :
    Confined session (h.answer answerer reader call).run := by
  cases call with
  | find query =>
    exact .action (h.confined_findDocuments reader session query) fun found => .ofResult _
  | findDocuments query => exact h.confined_findDocuments reader session query
  | findOne filter => exact h.confined_findOne reader session filter
  | get id => exact .action (.ofResult _) fun key => h.confined_get reader session key
  | findIds filter => exact h.confined_findIds reader session filter
  | count filter => exact h.confined_count reader session filter
  | contains id =>
    exact .action (.ofResult _) fun key =>
      .action (h.confined_count reader session key.filter) fun found => .pure _
  | aggregate stages => exact h.confined_aggregate reader session stages
  | aggregateAs record stages =>
    exact .action (h.confined_aggregate reader session stages) fun found => .ofResult _
  | listIndexes =>
    unfold answer
    exact .read (by trivial) none
  | supportsTransactions => exact .still fun s => rfl
  | rules => exact .pure _
  | info => exact .pure _
  | _ => exact hreads.elim

end Reading

/-! ## Operations under rules -/

section Writing

variable {h : Handle} {answerer : Answerer} {id : SessionId}
  (hservice : h.service.rules.Confined) (hanswerer : answerer.Confined id)

include hservice hanswerer

theorem confined_validate (payload : Payload) (filter : Option Document) :
    Confined (some id) (h.validate answerer (some id) payload filter).run := by
  unfold validate
  refine .forM fun rule hrule => ?_
  have hrule : rule ∈ h.service.rules.validators := (List.mem_filter.mp hrule).1
  refine .action ?_ fun inTransaction => ?_
  · exact .action (.lift (.still (.inTransaction id))) fun inside => .pure _
  · exact .wrapping _ ((hservice.validators rule hrule _).confined (hanswerer h.depth))

theorem confined_runDeleteRules (keys : List Key) (phase : DeletePhase)
    (wrap : String → ServiceError → ServiceError) :
    Confined (some id) (h.runDeleteRules answerer id keys phase wrap).run := by
  unfold runDeleteRules
  refine .forM fun rule hrule => ?_
  have hrule : rule ∈ h.service.rules.deleteRules := (List.mem_filter.mp hrule).1
  refine .action ?_ fun inTransaction => ?_
  · exact .lift (.still (.inTransaction id))
  · exact .wrapping _ ((hservice.deleteRules rule hrule _).confined (hanswerer h.depth))

theorem confined_insertOne (data : Document) :
    Confined (some id) (h.insertOne answerer (some id) data).run := by
  unfold insertOne
  refine .action (confined_validate hservice hanswerer _ _) fun _ => ?_
  refine .action (.ofResult _) fun d => ?_
  exact .action (.ask id rfl _) fun key => .ofResult _

theorem confined_insertMany (data : List Document) :
    Confined (some id) (h.insertMany answerer (some id) data).run := by
  unfold insertMany
  refine .action (.forM fun item _ => confined_validate hservice hanswerer _ _) fun _ => ?_
  split
  · exact .pure _
  · refine .action (.ofResult _) fun ds => ?_
    exact .action (.ask id rfl _) fun ids => .ofResult _

theorem confined_applyUpdate (filter changes : Document) (many : Bool) :
    Confined (some id) (h.applyUpdate answerer (some id) filter changes many).run := by
  unfold applyUpdate
  refine .action (confined_validate hservice hanswerer _ _) fun _ => ?_
  refine .action (.ofResult _) fun update => ?_
  split
  · exact .action (h.confined_count (some id) (some id) filter) fun matched => .pure _
  · exact .ask id rfl _

theorem confined_update (key : Key) (changes : Document) :
    Confined (some id) (h.update answerer (some id) key changes).run := by
  unfold update
  refine .action (confined_applyUpdate hservice hanswerer _ _ _) fun outcome => ?_
  split
  · exact .throw _
  · exact h.confined_getStored (some id) (some id) key

theorem confined_deleteKeys (keys : List Key) :
    Confined (some id) (h.deleteKeys answerer id keys).run := by
  unfold deleteKeys
  refine .action (confined_runDeleteRules hservice hanswerer _ _ _) fun _ => ?_
  refine .action (.ask id rfl _) fun deleted => ?_
  exact .action (confined_runDeleteRules hservice hanswerer _ _ _) fun _ => .pure _

/-- A deletion in a transaction joins it. -/
theorem confined_deleteOnSession (filter : Document) (single : Bool) :
    Confined (some id) (h.deleteOnSession answerer id filter single).run := by
  have hdeeper : h.deeper.service.rules.Confined := hservice
  unfold deleteOnSession
  refine .action (h.confined_findIds (some id) (some id) filter) fun keys => ?_
  split
  · exact .pure _
  · split
    · exact .throw _
    · split
      · exact .throw _
      · refine .action (confined_runDeleteRules hdeeper hanswerer _ _ _) fun _ => ?_
        exact .transact _ id rfl (confined_deleteKeys hdeeper hanswerer keys)

theorem confined_deleteMatching (filter : Document) (single : Bool) :
    Confined (some id) (h.deleteMatching answerer (some id) filter single).run := by
  unfold deleteMatching
  split
  · exact confined_deleteOnSession hservice hanswerer filter single
  · exact .ask id rfl _

/-- Every call on a session keeps to it. -/
theorem confined_answer (call : Service.Call) :
    Confined (some id) (h.answer answerer (some id) call).run := by
  cases call with
  | insert data =>
    exact .action (.ofResult _) fun d => confined_insertOne hservice hanswerer d
  | insertMany data =>
    exact .action (.ofResult _) fun ds => confined_insertMany hservice hanswerer ds
  | create data =>
    refine .action (.ofResult _) fun d => ?_
    exact .action (confined_insertOne hservice hanswerer d) fun key =>
      h.confined_getStored (some id) (some id) key
  | updateMany filter changes =>
    exact .action (.ofResult _) fun d => confined_applyUpdate hservice hanswerer filter d true
  | updateOne filter changes =>
    exact .action (.ofResult _) fun d => confined_applyUpdate hservice hanswerer filter d false
  | updateById key changes =>
    exact .action (.ofResult _) fun key => .action (.ofResult _) fun d =>
      confined_applyUpdate hservice hanswerer key.filter d false
  | update key changes =>
    exact .action (.ofResult _) fun key => .action (.ofResult _) fun d =>
      confined_update hservice hanswerer key d
  | deleteMany filter => exact confined_deleteMatching hservice hanswerer filter false
  | deleteOne filter => exact confined_deleteMatching hservice hanswerer filter true
  | delete key =>
    exact .action (.ofResult _) fun key =>
      confined_deleteMatching hservice hanswerer key.filter true
  | createIndexes => exact .mapM fun entry => .ask id rfl _
  | createIndex name index => exact .ask id rfl _
  | dropIndex name => exact .ask id rfl _
  | dropIndexes => exact .ask id rfl _
  | _ => exact h.confined_answer_of_reads (some id) (some id) answerer trivial

end Writing

end Handle

/-! ## Families -/

/-- Requests are answered within a session if calls to services are. -/
theorem Answerer.confined_of {id : SessionId}
    {perform : (depth : Nat) → Option SessionId → (service : String) →
      (call : Service.Call) → Action call.Answer}
    (hperform : ∀ depth service call,
      Process.Confined (some id) (perform depth (some id) service call).run) :
    (Answerer.of perform).Confined id := by
  intro depth request hinside
  cases request with
  | call service outside call =>
    have hinside : outside = false := hinside
    subst hinside
    exact hperform depth service call
  | store outside call =>
    have hinside : outside = false := hinside
    subst hinside
    exact .ask id rfl call
  | sleep ms => exact .lift (.still (.sleep ms))
  | record entry => exact .lift (.still (.record entry))
  | tick counter => exact .lift (.still (.tick counter))

namespace Family

variable {family : Family}

/-- Services whose rules keep to the session that they are handed do so themselves, however
deeply the rules call each other. -/
theorem confined_performWithin (hfamily : ∀ name, (family name).rules.Confined) (id : SessionId)
    (levels depth : Nat) (service : String) (call : Service.Call) :
    Process.Confined (some id) (family.performWithin levels depth (some id) service call).run := by
  induction levels generalizing depth service call with
  | zero => exact .lift (.still fun s => rfl)
  | succ levels ih =>
    have hanswerer : (Answerer.of (performWithin family levels)).Confined id :=
      Answerer.confined_of fun depth service call => ih depth service call
    exact Handle.confined_answer (hfamily service) hanswerer call

/-- A call that only reads keeps to any session, whatever the rules do. -/
theorem confined_performWithin_of_reads {call : Service.Call} (hreads : call.Reads)
    (session : Option SessionId) (levels depth : Nat) (reader : Option SessionId)
    (service : String) :
    Process.Confined session (family.performWithin levels depth reader service call).run := by
  cases levels with
  | zero => exact .lift (.still fun s => rfl)
  | succ levels => exact Handle.confined_answer_of_reads _ reader session _ hreads

end Family

end DocumentStore
