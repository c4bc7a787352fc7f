import DocumentStore.Proofs.Process.Transactions
import DocumentStore.Proofs.Service.Confined

/-!
# Deletions that fail

A deletion under rules may fail at many points: while it finds its keys, in a rule of any phase,
in the deletions that its rules issue, and in the transaction around all of these. Wherever it
fails, it leaves the committed documents as they were and no transaction behind.
-/
namespace DocumentStore

open Process

variable {α β : Type}

/-! ## Ends that leave no trace -/

/-- Whether an end leaves no transaction on a session, and no trace in the documents unless it
comes with a value. -/
structure Traceless (session : Option SessionId) (s : State)
    (ended : Except Stop (Result α) × State) : Prop where
  closed : ∀ id ∈ session, ended.2.store.inTransaction id = false
  kept : (∀ value, ended.1 ≠ .ok (.ok value)) → ended.2.store.collections = s.store.collections

namespace Traceless

variable {session : Option SessionId} {s : State}

theorem of_store_eq {ended : Except Stop (Result α) × State} (hfree : s.store.Free session)
    (h : ended.2.store = s.store) : Traceless session s ended :=
  ⟨fun id hid => h ▸ (hfree id hid).2, fun _ => by rw [h]⟩

/-- What only reads may come first. -/
theorem after_still {a : Action α} {f : α → Action β} (ha : Still a.run)
    (hfree : s.store.Free session)
    (hf : ∀ value s', s'.store = s.store → Traceless session s' (ends (f value).run s')) :
    Traceless session s (ends (a >>= f).run s) := by
  rw [ends_run_action]
  have hstill := ha s
  cases hends : ends a.run s with
  | mk result s' =>
    rw [hends] at hstill
    match result with
    | .error stop => exact of_store_eq hfree hstill
    | .ok (.error e) => exact of_store_eq hfree hstill
    | .ok (.ok value) =>
      obtain ⟨hclosed, hkept⟩ := hf value s' hstill
      exact ⟨hclosed, fun hfailed => (hkept hfailed).trans (by rw [hstill])⟩

/-- A transaction of a confined action counts once or not at all, so it leaves no trace. -/
theorem transact {id : SessionId} {body : Action α} (hbody : Confined (some id) body.run)
    (policy : RetryPolicy) (hsupported : s.store.transactional = true)
    (hfree : s.store.Free (some id)) :
    Traceless (some id) s (ends (Process.transact policy id body).run s) := by
  obtain ⟨hopen, hnone⟩ := hfree id rfl
  have hcarried (own : Unit) : Confined (some id)
      ((StateT.lift body.run : StateT Unit Process (Result α)).run own) := hbody.run_lift own
  obtain ⟨honce, hclosed, -⟩ := runTransaction_once hcarried policy () hsupported hopen hnone
  rw [ends_transact]
  refine ⟨by simpa using hclosed, fun hfailed => honce.kept fun value own heq => ?_⟩
  exact hfailed value (by simp [heq, Except.map])

/-- A deletion outside of transactions that fails keeps all documents. -/
theorem ask_delete (hfree : s.store.Free session) (collection : String) (filter : Document)
    (many : Bool) :
    Traceless session s (ends (Process.ask session (.delete collection filter many)).run s) := by
  rw [ends_ask]
  simp only [Store.answer, Store.write_outside hfree.bind_transaction?]
  refine ⟨fun id hid => (hfree id hid).2, fun hfailed => ?_⟩
  cases hresult : ((Collections.delete collection filter many).runOn s.store.collections).1 with
  | ok deleted => exact absurd (by rw [hresult]) (hfailed deleted)
  | error e => exact Collections.allOrNothing_delete _ _ _ _ e hresult

end Traceless

/-! ## Deletions under rules -/

/-- Whether requests that only read are answered by processes that only read. -/
def Answerer.Reads (answerer : Answerer) : Prop :=
  ∀ depth session request, request.Reads →
    Process.Confined none (answerer depth session request).run

namespace Handle

variable {h : Handle} {answerer : Answerer}

/-- Rules that may deny a deletion leave the store as it is. -/
theorem still_runDenyRules (hservice : h.service.rules.Confined) (hreads : answerer.Reads)
    (session : SessionId) (keys : List Key) (wrap : String → ServiceError → ServiceError) :
    Still (h.runDeleteRules answerer session keys .deny wrap).run := by
  refine Confined.isStill ?_
  unfold runDeleteRules
  refine .forM fun rule hrule => ?_
  obtain ⟨hrule, htag⟩ := List.mem_filter.mp hrule
  have htag : rule.tag = .deny := by simpa using htag
  refine .action (.lift (.still (.inTransaction session))) fun inside => ?_
  exact .wrapping _
    ((hservice.denyRules rule hrule htag _).confined (hreads h.depth (some session)))

/-- However a deletion on a session fails, it leaves no trace. -/
theorem traceless_deleteOnSession {id : SessionId} (hservice : h.service.rules.Confined)
    (hanswerer : answerer.Confined id) (hreads : answerer.Reads) (filter : Document)
    (single : Bool) {s : State} (hsupported : s.store.transactional = true)
    (hfree : s.store.Free (some id)) :
    Traceless (some id) s (ends (h.deleteOnSession answerer id filter single).run s) := by
  have hdeeper : h.deeper.service.rules.Confined := hservice
  unfold deleteOnSession
  refine .after_still (h.confined_findIds (some id) none filter).isStill hfree
    fun keys s' hfound => ?_
  rw [← hfound] at hsupported hfree
  split
  · exact .of_store_eq hfree rfl
  · split
    · exact .of_store_eq hfree rfl
    · split
      · exact .of_store_eq hfree rfl
      · -- nothing was written yet, and from here on all is written in a transaction
        refine .after_still (still_runDenyRules hdeeper hreads id keys _) hfree
          fun _ s'' hallowed => ?_
        rw [← hallowed] at hsupported hfree
        exact .transact (confined_deleteKeys hdeeper hanswerer keys) _ hsupported hfree

theorem traceless_deleteMatching {session : Option SessionId} (hservice : h.service.rules.Confined)
    (hanswerer : ∀ id, answerer.Confined id) (hreads : answerer.Reads) (filter : Document)
    (single : Bool) {s : State} (hsupported : s.store.transactional = true)
    (hfree : s.store.Free session) :
    Traceless session s (ends (h.deleteMatching answerer session filter single).run s) := by
  unfold deleteMatching
  split
  · cases session with
    | some id =>
      exact traceless_deleteOnSession hservice (hanswerer id) hreads filter single hsupported hfree
    | none =>
      let id := s.store.openSession.1
      let opened : State := { s with store := s.store.openSession.2 }
      have htraceless := traceless_deleteOnSession hservice (hanswerer id) hreads filter single
        (s := opened) hsupported s.store.free_openSession
      rw [ExceptT.run_mk, usingSession_none, ends_withSession]
      refine ⟨by simp, fun hfailed => ?_⟩
      simp only
      rw [Store.dropSession_collections]
      exact htraceless.kept hfailed
  -- without rules there is a single call, which counts or fails as a whole
  · exact .ask_delete hfree _ filter _

end Handle

/-! ## Families -/

def Service.Call.Deletes : Service.Call → Prop
  | .deleteMany _ | .deleteOne _ | .delete _ => True
  | _ => False

theorem Answerer.reads_of (family : Family) (levels : Nat) :
    (Answerer.of (family.performWithin levels)).Reads := by
  intro depth session request hreads
  cases request with
  | call service outside call =>
    exact family.confined_performWithin_of_reads hreads none levels depth _ service
  | store outside call => exact .read hreads _
  | sleep ms => exact .lift (.still (.sleep ms))
  | record entry => exact .lift (.still (.record entry))
  | tick counter => exact .lift (.still (.tick counter))

/-- A deletion that fails leaves all documents as they were and no transaction on the session. -/
theorem Family.delete_leaves_no_trace {family : Family}
    (hfamily : ∀ name, (family name).rules.Confined) (levels depth : Nat)
    {session : Option SessionId} (service : String) {call : Service.Call} (hcall : call.Deletes)
    {s : State} (hsupported : s.store.transactional = true) (hfree : s.store.Free session) :
    Traceless session s (ends (family.performWithin levels depth session service call).run s) := by
  cases levels with
  -- without a level left nothing is called
  | zero => exact .of_store_eq hfree rfl
  | succ levels =>
    have hanswerer (id : SessionId) : (Answerer.of (family.performWithin levels)).Confined id :=
      Answerer.confined_of fun depth service call =>
        Family.confined_performWithin hfamily id levels depth service call
    have hmatching (filter : Document) (single : Bool) (s' : State)
        (hsame : s'.store = s.store) : Traceless session s' (ends (Handle.deleteMatching
          ⟨family service, depth⟩ (Answerer.of (family.performWithin levels)) session filter
          single).run s') := by
      rw [← hsame] at hsupported hfree
      exact Handle.traceless_deleteMatching (hfamily service) hanswerer
        (Answerer.reads_of family levels) filter single hsupported hfree
    cases call with
    | deleteMany filter => exact hmatching filter false s rfl
    | deleteOne filter => exact hmatching filter true s rfl
    | delete id =>
      exact .after_still (Still.pure _) hfree fun key s' hsame =>
        hmatching key.filter true s' hsame
    | _ => exact hcall.elim

/-- A service with a rule that empties the collection before a deletion and one that fails
after it. -/
def emptying : Service where
  name := "Emptying"
  collection := "c"
  key := .integer
  rules := (({} : Rules)
    |>.deleteRule "empty" .pre fun _ => do
      let _ ← Program.request (.store false (.delete "c" [] true)))
    |>.deleteRule "refuse" .post fun _ => Program.fail (.rejected "refused")

theorem confined_emptying : emptying.rules.Confined := by
  refine .deleteRule (.deleteRule .empty _ _ (fun _ => ?_) (by simp)) _ _ (fun _ => trivial)
    (by simp)
  exact .bind (Program.asks_request rfl) fun _ => trivial

/-- A store with two documents. -/
def twoDocuments : State where
  store := { collections := [("c", [[(idField, .int32 1)], [(idField, .int32 2)]])] }

theorem Family.delete_leaves_no_trace_emptying :
    let family : Family := fun _ => emptying
    let deletion :=
      ends (family.performWithin 1 0 none "Emptying" (.deleteMany [])).run twoDocuments
    (∀ name, (family name).rules.Confined) ∧
    (Service.Call.deleteMany []).Deletes ∧
    twoDocuments.store.transactional = true ∧
    twoDocuments.store.Free none ∧
    deletion.1.toOption.bind (·.toOption) = none ∧
    Traceless none twoDocuments deletion :=
  ⟨fun _ => confined_emptying, trivial, rfl, Store.free_none _, by decide +kernel,
    delete_leaves_no_trace (fun _ => confined_emptying) 1 0 "Emptying" (by trivial) rfl
      (Store.free_none _)⟩

end DocumentStore
