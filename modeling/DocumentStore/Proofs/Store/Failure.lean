import DocumentStore.Proofs.Store.LeftOver
import DocumentStore.Proofs.Store.Unmoved

/-!
# Failed calls

A call that fails outside of transactions writes no documents and does not move the version on.
Nearly always the store is what it was. But an insertion brings its collection into being before
it looks at the identifiers, so one of several documents into a collection that is not there leaves
an empty collection when two of them have the same identifier.

Whether such a call was made can be told from later answers only by a filter that fails on the
empty document: the two runs, with the call and without it, go through stores that differ in
left-over collections at most.
-/
namespace DocumentStore

/-! ## Stores with a left-over collection -/

namespace Snapshot

/-- Whether two sessions hold no transaction both, or transactions that started from the same
version and differ in a left-over collection at most. -/
inductive LeftOver (name : String) : Option Snapshot → Option Snapshot → Prop
  | closed : LeftOver name none none
  | opened {snapshot snapshot' : Snapshot} (base : snapshot'.base = snapshot.base)
      (collections : Collections.LeftOver name snapshot.collections snapshot'.collections) :
      LeftOver name (some snapshot) (some snapshot')

namespace LeftOver

variable {name : String} {snapshot : Snapshot} {t t' : Option Snapshot}

theorem refl (t : Option Snapshot) : LeftOver name t t := by
  cases t with
  | none => exact .closed
  | some snapshot => exact .opened rfl (.refl name _)

theorem isSome (h : LeftOver name t t') : t'.isSome = t.isSome := by
  cases h <;> rfl

theorem eq_none (h : LeftOver name none t) : t = none := by
  cases h
  rfl

theorem eq_some (h : LeftOver name (some snapshot) t) :
    ∃ snapshot', t = some snapshot' ∧ snapshot'.base = snapshot.base ∧
      Collections.LeftOver name snapshot.collections snapshot'.collections := by
  cases h with
  | opened hbase hcollections => exact ⟨_, rfl, hbase, hcollections⟩

end LeftOver

end Snapshot

namespace Store

open Collections

variable {s s' : Store} {session : Option SessionId} {name : String} {cs : Collections}

/-- Whether a store differs from another in left-over collections of one name at most, committed or
private to a transaction. -/
structure Residue (name : String) (s s' : Store) : Prop where
  collections : LeftOver name s.collections s'.collections
  indexes : s'.indexes = s.indexes
  version : s'.version = s.version
  transactional : s'.transactional = s.transactional
  failingStarts : s'.failingStarts = s.failingStarts
  failingCommits : s'.failingCommits = s.failingCommits
  opened : s'.opened = s.opened
  isOpen : ∀ id, s'.IsOpen id ↔ s.IsOpen id
  transactions : ∀ id, Snapshot.LeftOver name (s.transaction? id) (s'.transaction? id)

namespace Residue

theorem inTransaction (h : Residue name s s') (id : SessionId) :
    s'.inTransaction id = s.inTransaction id := (h.transactions id).isSome

theorem bind_transaction? (h : Residue name s s') (session : Option SessionId) :
    Snapshot.LeftOver name (session.bind s.transaction?) (session.bind s'.transaction?) := by
  cases session with
  | none => exact .closed
  | some id => exact h.transactions id

theorem view (h : Residue name s s') (session : Option SessionId) :
    LeftOver name (s.view session) (s'.view session) := by
  have hsnapshots := h.bind_transaction? session
  unfold Store.view
  generalize session.bind s.transaction? = t, session.bind s'.transaction? = t' at hsnapshots
  cases hsnapshots with
  | closed => exact h.collections
  | opened _ hcollections => exact hcollections

theorem setTransaction (h : Residue name s s') (id : SessionId) {t t' : Option Snapshot}
    (ht : Snapshot.LeftOver name t t') :
    Residue name (s.setTransaction id t) (s'.setTransaction id t') := by
  refine { h with isOpen := fun other => ?_, transactions := fun other => ?_ }
  · rw [setTransaction_isOpen, setTransaction_isOpen, h.isOpen]
  · by_cases hother : other = id
    · subst hother
      by_cases hopen : s.IsOpen other
      · rw [transaction?_setTransaction_self hopen,
          transaction?_setTransaction_self ((h.isOpen other).mpr hopen)]
        exact ht
      · -- on a session that is not open nothing can be put
        have hclosed : ¬ s'.IsOpen other := fun hopen' => hopen ((h.isOpen other).mp hopen')
        rw [transaction?_of_not_isOpen (by simpa using hopen),
          transaction?_of_not_isOpen (by simpa using hclosed)]
        exact .closed
    · rw [transaction?_setTransaction_ne hother, transaction?_setTransaction_ne hother]
      exact h.transactions other

theorem abort (h : Residue name s s') (id : SessionId) :
    Residue name (s.abort id) (s'.abort id) := by
  unfold Store.abort
  rw [h.inTransaction id]
  split
  · exact { h.setTransaction id .closed with }
  · exact h

theorem openSession (h : Residue name s s') : Residue name s.openSession.2 s'.openSession.2 := by
  refine { h with opened := congrArg (· + 1) h.opened, isOpen := fun id => ?_,
                  transactions := fun id => ?_ }
  · rw [isOpen_openSession_iff, isOpen_openSession_iff, h.isOpen, h.opened]
  · rw [transaction?_openSession, transaction?_openSession]
    exact h.transactions id

theorem dropSession (h : Residue name s s') (id : SessionId) :
    Residue name (s.dropSession id) (s'.dropSession id) := by
  refine { h.abort id with isOpen := fun other => ?_, transactions := fun other => ?_ }
  · rw [isOpen_dropSession, isOpen_dropSession, h.isOpen]
  · rw [transaction?_dropSession, transaction?_dropSession]
    split
    · exact .closed
    · exact h.transactions other

theorem start (h : Residue name s s') (id : SessionId) :
    (s'.start id).1 = (s.start id).1 ∧ Residue name (s.start id).2 (s'.start id).2 := by
  unfold Store.start
  rw [h.inTransaction id, h.transactional, h.failingStarts, h.version]
  split
  · exact ⟨rfl, h⟩
  · split
    · exact ⟨rfl, h⟩
    · split
      · exact ⟨rfl, { h with version := rfl, transactional := rfl, failingStarts := rfl }⟩
      · exact ⟨rfl, h.setTransaction id (.opened rfl h.collections)⟩

theorem commit (h : Residue name s s') (id : SessionId) :
    (s'.commit id).1 = (s.commit id).1 ∧ Residue name (s.commit id).2 (s'.commit id).2 := by
  have hsnapshots := h.transactions id
  unfold Store.commit
  cases ht : s.transaction? id with
  | none =>
    rw [ht] at hsnapshots
    rw [hsnapshots.eq_none]
    exact ⟨rfl, h⟩
  | some snapshot =>
    rw [ht] at hsnapshots
    obtain ⟨snapshot', ht', hbase, hcollections⟩ := hsnapshots.eq_some
    simp only [ht', h.failingCommits, h.version, hbase]
    split
    · exact ⟨rfl, { h.abort id with failingCommits := rfl }⟩
    · split
      · exact ⟨rfl, h.abort id⟩
      · exact ⟨rfl, { h.setTransaction id .closed with
          collections := hcollections, version := rfl }⟩

/-- A call that does not probe is answered the same, and leaves the stores as close as they were. -/
theorem answer (h : Residue name s s') {session : Option SessionId} {call : Call}
    (hprobe : ¬ call.Probes name (s.view session)) (fresh : Nat → ObjectId) :
    (s'.answer session fresh call).1 = (s.answer session fresh call).1 ∧
      Residue name (s.answer session fresh call).2 (s'.answer session fresh call).2 := by
  have hanswer := answer_fst_of_leftOver (h.view session) h.indexes hprobe fresh
  have hindexes := indexes_answer_congr h.indexes session fresh call
  refine ⟨hanswer, ?_⟩
  have hsnapshots := h.bind_transaction? session
  cases ht : session.bind s.transaction? with
  | none =>
    rw [ht] at hsnapshots
    have ht' := hsnapshots.eq_none
    -- the versions move on together, since the answers are the same
    have hversion : (s'.answer session fresh call).2.version
        = (s.answer session fresh call).2.version := by
      rw [version_answer_of_none ht, version_answer_of_none ht', h.version, hanswer]
    obtain ⟨⟨indexes, version, heq⟩, -⟩ := answer_outside ht fresh call
    obtain ⟨⟨indexes', version', heq'⟩, -⟩ := answer_outside ht' fresh call
    rw [heq, heq'] at hindexes hversion ⊢
    exact { h with
      collections := call.perform_leftOver h.collections fresh
      indexes := hindexes
      version := hversion }
  | some snapshot =>
    rw [ht] at hsnapshots
    obtain ⟨snapshot', ht', hbase, hcollections⟩ := hsnapshots.eq_some
    obtain ⟨id, rfl, ht⟩ := Option.bind_eq_some_iff.mp ht
    obtain ⟨indexes, heq⟩ := answer_inside ht fresh call
    obtain ⟨indexes', heq'⟩ := answer_inside ht' fresh call
    rw [heq, heq'] at hindexes ⊢
    have hperformed : Snapshot.LeftOver name
        (some { snapshot with collections := call.perform fresh snapshot.collections })
        (some { snapshot' with collections := call.perform fresh snapshot'.collections }) :=
      .opened hbase (call.perform_leftOver hcollections fresh)
    exact { h.setTransaction id hperformed with indexes := hindexes }

end Residue

/-! ## The answers of a run -/

@[reducible] def Event.Answer : Event → Type
  | .openSession => SessionId
  | .start _ | .commit _ => Result Unit
  | .dropSession _ | .abort _ | .failStarts _ | .failCommits _ => Unit
  | .call _ issued => Result issued.call.Answer

def Event.answer (s : Store) : (event : Event) → event.Answer
  | .openSession => s.openSession.1
  | .start id => (s.start id).1
  | .commit id => (s.commit id).1
  | .dropSession _ | .abort _ | .failStarts _ | .failCommits _ => ()
  | .call session issued => (s.answer session issued.fresh issued.call).1

def answers : Store → List Event → List ((event : Event) × event.Answer)
  | _, [] => []
  | s, event :: rest => ⟨event, event.answer s⟩ :: answers (s.step event) rest

/-- Whether an event asks a collection that its session does not see with a filter that fails on
the empty document. -/
def Event.Probes (name : String) (s : Store) : Event → Prop
  | .call session issued => issued.call.Probes name (s.view session)
  | _ => False

/-- Whether a collection is not asked in this way in a run. -/
def Unprobed (name : String) : Store → List Event → Prop
  | _, [] => True
  | s, event :: rest => ¬ event.Probes name s ∧ Unprobed name (s.step event) rest

namespace Residue

theorem step (h : Residue name s s') {event : Event} (hprobe : ¬ event.Probes name s) :
    event.answer s' = event.answer s ∧ Residue name (s.step event) (s'.step event) := by
  cases event with
  | openSession => exact ⟨congrArg (· + 1) h.opened, h.openSession⟩
  | dropSession id => exact ⟨rfl, h.dropSession id⟩
  | start id => exact h.start id
  | commit id => exact h.commit id
  | abort id => exact ⟨rfl, h.abort id⟩
  | failStarts count => exact ⟨rfl, { h with failingStarts := rfl }⟩
  | failCommits count => exact ⟨rfl, { h with failingCommits := rfl }⟩
  | call session issued => exact h.answer hprobe issued.fresh

theorem answers (h : Residue name s s') {events : List Event} (hprobe : Unprobed name s events) :
    s'.answers events = s.answers events := by
  induction events generalizing s s' with
  | nil => rfl
  | cons event rest ih =>
    obtain ⟨hanswer, hstep⟩ := h.step hprobe.1
    simp only [Store.answers, hanswer, ih hstep hprobe.2]

end Residue

/-! ## Failed calls -/

/-- An insertion that fails leaves the view as it is, or an empty collection. -/
theorem insert_of_error {new : List Document} {e : ServiceError}
    (h : (cs.insert name new).1 = .error e) :
    (cs.insert name new).2 = cs ∨ cs.get? name = none ∧ checkNew name [] new ≠ .ok () ∧
      (cs.insert name new).2 = cs.put name [] := by
  obtain ⟨hrefused, hput⟩ : checkNew name (cs.documents name) new ≠ .ok () ∧
      (cs.insert name new).2 = cs.put name (cs.documents name) := by
    unfold Collections.insert at h ⊢
    cases hcheck : checkNew name (cs.documents name) new with
    | ok _ => simp [hcheck] at h
    | error e' => simp [hcheck]
  rw [hput]
  cases hget : cs.get? name with
  | some ds => exact .inl (put_of_get? (by rw [documents_of_get? hget, hget]))
  | none =>
    rw [documents_of_missing hget] at hrefused ⊢
    exact .inr ⟨rfl, hrefused, rfl⟩

theorem writeIndexes_of_error {α : Type} {f : Registry → Result (α × Registry)}
    {e : ServiceError} (h : (s.writeIndexes f).1 = .error e) : (s.writeIndexes f).2 = s := by
  unfold writeIndexes at h ⊢
  cases hf : f s.indexes with
  | ok done => simp [hf] at h
  | error e' => rfl

section Failed

variable {fresh : Nat → ObjectId} {call : Call} {e : ServiceError}

theorem map_eq_error {α β : Type} {f : α → β} {result : Result α} (h : result.map f = .error e) :
    result = .error e := by
  cases result with
  | ok value => cases h
  | error e' =>
    cases h
    rfl

/-- A write that fails outside of transactions writes what it leaves, at the same version. -/
theorem write_of_error {α : Type} (hout : session.bind s.transaction? = none)
    {f : Collections → Result α × Collections} (h : (s.write session f).1 = .error e) :
    (f s.collections).1 = .error e ∧
      (s.write session f).2 = { s with collections := (f s.collections).2 } := by
  rw [write_outside hout] at h ⊢
  exact ⟨h, by rw [h]; rfl⟩

theorem insertAll_of_error (hout : session.bind s.transaction? = none) {new : List Document}
    (h : (s.insertAll session name new).1 = .error e) :
    (s.insertAll session name new).2 = s ∨
      s.collections.get? name = none ∧ checkNew name [] new ≠ .ok () ∧
        (s.insertAll session name new).2
          = { s with collections := s.collections.put name [] } := by
  obtain ⟨herror, hleft⟩ := write_of_error hout h
  rw [insertAll, hleft]
  obtain hsame | ⟨hmissing, hrefused, hput⟩ := insert_of_error (map_eq_error herror)
  · exact .inl (by rw [hsame])
  · exact .inr ⟨hmissing, hrefused, by rw [hput]⟩

/-- A call that fails outside of transactions leaves the store as it is, unless it is an insertion
of several documents into a collection that is not there. That leaves an empty collection. -/
theorem answer_of_error (hout : session.bind s.transaction? = none)
    (hfailed : (s.answer session fresh call).1 = .error e) :
    (s.answer session fresh call).2 = s ∨
      ∃ name new, call = .insertMany name new ∧ s.collections.get? name = none ∧
        (s.answer session fresh call).2
          = { s with collections := s.collections.put name [] } := by
  cases call with
  | find | findOne | count | aggregate | listIndexes => exact .inl rfl
  | createIndex | dropIndex | dropIndexes => exact .inl (writeIndexes_of_error hfailed)
  | insert name d =>
    obtain hsame | ⟨-, hrefused, -⟩ := insertAll_of_error hout (map_eq_error hfailed)
    · exact .inl hsame
    · -- a single document is not refused by a collection that is not there
      exact absurd rfl hrefused
  | insertMany name new =>
    obtain hsame | ⟨hmissing, -, hput⟩ := insertAll_of_error hout hfailed
    · exact .inl hsame
    · exact .inr ⟨name, new, rfl, hmissing, hput⟩
  | update name filter changes many =>
    cases hcheck : Update.check changes with
    | ok _ =>
      simp only [answer, hcheck] at hfailed ⊢
      exact .inl (write_of_allOrNothing_of_error (allOrNothing_update _ _ _ _) hfailed)
    | error e => exact .inl (by simp only [answer, hcheck])
  | delete => exact .inl (write_of_allOrNothing_of_error (allOrNothing_delete _ _ _) hfailed)

/-- After a call that failed outside of transactions everything is answered as if it had not been
made. Where it was an insertion of several documents into a collection that is not there, this is
so for runs in which no filter that fails on the empty document is asked of that collection as
long as it is missing. -/
theorem answers_after_failure (hout : session.bind s.transaction? = none)
    (hfailed : (s.answer session fresh call).1 = .error e) (events : List Event)
    (hprobe : ∀ name new, call = .insertMany name new → s.collections.get? name = none →
      Unprobed name s events) :
    (s.answer session fresh call).2.answers events = s.answers events := by
  obtain hsame | ⟨name, new, hcall, hmissing, hput⟩ := answer_of_error hout hfailed
  · rw [hsame]
  · have hresidue : Residue name s { s with collections := s.collections.put name [] } :=
      { collections := .put hmissing, indexes := rfl, version := rfl, transactional := rfl,
        failingStarts := rfl, failingCommits := rfl, opened := rfl, isOpen := fun _ => .rfl,
        transactions := fun id => .refl _ }
    rw [hput]
    exact hresidue.answers (hprobe name new hcall hmissing)

end Failed

/-- Two documents with the same identifier. -/
def twins : List Document := [[(idField, .int32 1)], [(idField, .int32 1)]]

/-- Two of a kind are refused by a collection that is not there. When it has come into being in
another way, no filter tells that they were tried. -/
theorem answers_after_failure_twins :
    let s : Store := {}
    let call : Call := .insertMany "c" twins
    let events : List Event :=
      [.call none ⟨ObjectId.generated, .insert "c" [(idField, .int32 1)]⟩,
       .call none ⟨ObjectId.generated, .count "c" [("$foo", .int32 1)]⟩]
    none.bind s.transaction? = none ∧
      (s.answer none ObjectId.generated call).1
        = .error (.documentAlreadyExists "1" "c") ∧
      s.collections.get? "c" = none ∧ Unprobed "c" s events ∧
      (s.answer none ObjectId.generated call).2.answers events = s.answers events := by
  have hprobe : Unprobed "c" {}
      [.call none ⟨ObjectId.generated, .insert "c" [(idField, .int32 1)]⟩,
       .call none ⟨ObjectId.generated, .count "c" [("$foo", .int32 1)]⟩] := by
    refine ⟨?_, ?_, trivial⟩
    · rintro ⟨-, -, filter, hfilter, -⟩
      cases hfilter
    · rintro ⟨-, hmissing, -⟩
      cases hmissing
  refine ⟨rfl, rfl, rfl, hprobe, answers_after_failure rfl rfl _ ?_⟩
  intro name new hcall _
  cases hcall
  exact hprobe

/-- As long as it has not, a filter that no document can be asked with tells it. -/
theorem failure_told :
    let s : Store := {}
    let failed := s.answer none ObjectId.generated (.insertMany "c" twins)
    let probe : List Event := [.call none ⟨ObjectId.generated, .count "c" [("$foo", .int32 1)]⟩]
    failed.1 = .error (.documentAlreadyExists "1" "c") ∧
      failed.2.answers probe ≠ s.answers probe := by
  refine ⟨rfl, fun h => ?_⟩
  have hanswer := eq_of_heq (Sigma.mk.inj (List.cons.inj h).1).2
  cases hanswer

end Store

end DocumentStore
