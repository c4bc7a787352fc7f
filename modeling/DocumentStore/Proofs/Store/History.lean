import DocumentStore.Proofs.Store.Views

/-!
# The course of a run

What an event does to the transaction of a session, and what it does to the version of the store.
A transaction is touched by the events of its own session only: it lasts until one of them ends it,
and up to then it remembers the version that it started from. The version moves on with the
writes outside of transactions and the commits that succeed, and with nothing else.
-/
namespace DocumentStore.Store

variable {s s' : Store} {id other : SessionId} {session : Option SessionId} {event : Event}

/-! ## Whose step an event is -/

def Event.session? : Event → Option SessionId
  | .dropSession id | .start id | .commit id | .abort id => some id
  | .call session _ => session
  | .openSession | .failStarts _ | .failCommits _ => none

/-- Whether an event ends the transaction that is open on a session. -/
def Event.ends (id : SessionId) : Event → Bool
  | .dropSession other | .commit other | .abort other => other == id
  | .openSession | .start _ | .failStarts _ | .failCommits _ | .call _ _ => false

theorem Event.ends_eq_true :
    event.ends id = true ↔ event = .dropSession id ∨ event = .commit id ∨ event = .abort id := by
  cases event with
  | openSession | start other | failStarts count | failCommits count | call session issued =>
    simp [Event.ends]
  | dropSession other | commit other | abort other => simp [Event.ends]

/-- A step of a session is a start, a call, or the end of a transaction. -/
theorem Event.cases_of_session? (h : event.session? = some id) :
    event = .start id ∨ (∃ issued, event = .call (some id) issued) ∨ event.ends id = true := by
  cases event with
  | start other => exact .inl (congrArg Event.start (Option.some.inj h))
  | call session issued => exact .inr (.inl ⟨issued, congrArg (Event.call · issued) h⟩)
  | dropSession other => exact .inr (.inr (by simpa [Event.ends] using Option.some.inj h))
  | commit other => exact .inr (.inr (by simpa [Event.ends] using Option.some.inj h))
  | abort other => exact .inr (.inr (by simpa [Event.ends] using Option.some.inj h))
  | openSession | failStarts count | failCommits count => cases h

/-! ## Transactions after a start, a commit or a call -/

theorem transaction?_start_ne (h : other ≠ id) :
    (s.start id).2.transaction? other = s.transaction? other := by
  obtain ⟨e, failingStarts, heq⟩ | ⟨-, -, heq⟩ := s.start_cases id
  · rw [heq]
    rfl
  · rw [heq]
    exact transaction?_setTransaction_ne h _

/-- A second start leaves the transaction as it is. -/
theorem transaction?_start_of_open {snapshot : Snapshot} (h : s.transaction? id = some snapshot) :
    (s.start id).2.transaction? id = some snapshot := by
  obtain ⟨e, failingStarts, heq⟩ | ⟨hnone, -, -⟩ := s.start_cases id
  · rw [heq]
    exact h
  · rw [h] at hnone
    cases hnone

/-- However a commit ends, its session holds no transaction after it. -/
@[simp] theorem transaction?_commit (s : Store) (id other : SessionId) :
    (s.commit id).2.transaction? other
      = if other = id then none else s.transaction? other := by
  obtain ⟨e, hnone, heq⟩ | ⟨e, failingCommits, heq⟩ | ⟨snapshot, -, -, heq⟩ := s.commit_cases id
  · rw [heq]
    split
    · rename_i hid
      rw [hid, hnone]
    · rfl
  · rw [heq]
    exact transaction?_abort s id other
  · rw [heq]
    exact transaction?_setTransaction_none s id other

section Calls

variable [Pattern.Engine] (fresh : Nat → ObjectId) (call : Call)

theorem transaction?_answer_of_none (h : session.bind s.transaction? = none) :
    (s.answer session fresh call).2.transaction? id = s.transaction? id := by
  obtain ⟨⟨indexes, version, heq⟩, -⟩ := answer_outside h fresh call
  rw [heq]
  rfl

theorem transaction?_answer_self {snapshot : Snapshot} (h : s.transaction? id = some snapshot) :
    (s.answer (some id) fresh call).2.transaction? id
      = some { snapshot with collections := call.perform fresh snapshot.collections } := by
  obtain ⟨indexes, heq⟩ := answer_inside h fresh call
  rw [heq]
  exact transaction?_setTransaction_self (isOpen_of_transaction? h) _

theorem transaction?_answer_ne (h : session ≠ some id) :
    (s.answer session fresh call).2.transaction? id = s.transaction? id := by
  obtain ⟨other, snapshot, rfl, ht, -⟩ | ⟨hnone, -⟩ := s.view_cases session
  · obtain ⟨indexes, heq⟩ := answer_inside ht fresh call
    rw [heq]
    exact transaction?_setTransaction_ne (fun hid => h (congrArg some hid.symm)) _
  · exact transaction?_answer_of_none fresh call hnone

end Calls

/-! ## Transactions after an event -/

/-- A transaction is touched by the events of its own session only. -/
theorem transaction?_step_of_other (h : event.session? ≠ some id) :
    (s.step event).transaction? id = s.transaction? id := by
  cases event with
  | openSession => exact transaction?_openSession s id
  | dropSession other =>
    have hne : id ≠ other := fun hid => h (congrArg some hid.symm)
    exact (transaction?_dropSession s other id).trans (if_neg hne)
  | start other => exact transaction?_start_ne fun hid => h (congrArg some hid.symm)
  | commit other =>
    have hne : id ≠ other := fun hid => h (congrArg some hid.symm)
    exact (transaction?_commit s other id).trans (if_neg hne)
  | abort other =>
    have hne : id ≠ other := fun hid => h (congrArg some hid.symm)
    exact (transaction?_abort s other id).trans (if_neg hne)
  | failStarts count => rfl
  | failCommits count => rfl
  | call session issued => exact transaction?_answer_ne issued.fresh issued.call h

theorem transaction?_step_of_ends (h : event.ends id = true) :
    (s.step event).transaction? id = none := by
  obtain rfl | rfl | rfl := Event.ends_eq_true.mp h
  · exact (transaction?_dropSession s id id).trans (if_pos rfl)
  · exact (transaction?_commit s id id).trans (if_pos rfl)
  · exact (transaction?_abort s id id).trans (if_pos rfl)

/-- What an event of its own session makes of a transaction depends on nothing else. -/
theorem transaction?_step_congr (hopen : s.inTransaction id = true)
    (hsame : s'.transaction? id = s.transaction? id) (h : event.session? = some id) :
    (s'.step event).transaction? id = (s.step event).transaction? id := by
  obtain ⟨snapshot, ht⟩ := inTransaction_eq_true.mp hopen
  have ht' : s'.transaction? id = some snapshot := hsame.trans ht
  obtain rfl | ⟨issued, rfl⟩ | hends := Event.cases_of_session? h
  · exact (transaction?_start_of_open ht').trans (transaction?_start_of_open ht).symm
  · exact (transaction?_answer_self issued.fresh issued.call ht').trans
      (transaction?_answer_self issued.fresh issued.call ht).symm
  · rw [transaction?_step_of_ends hends, transaction?_step_of_ends hends]

/-- A transaction that an event does not end still knows the version that it started from. -/
theorem transaction?_step_of_lasts {snapshot : Snapshot}
    (ht : s.transaction? id = some snapshot) (h : event.ends id = false) :
    ∃ collections, (s.step event).transaction? id = some { snapshot with collections } := by
  by_cases hown : event.session? = some id
  · obtain rfl | ⟨issued, rfl⟩ | hends := Event.cases_of_session? hown
    · exact ⟨snapshot.collections, transaction?_start_of_open ht⟩
    · exact ⟨_, transaction?_answer_self issued.fresh issued.call ht⟩
    · rw [h] at hends
      cases hends
  · exact ⟨snapshot.collections, (transaction?_step_of_other hown).trans ht⟩

/-- A start that succeeds puts a copy of the committed documents on its session. -/
theorem transaction?_start_of_ok (hopen : s.IsOpen id) (h : (s.start id).1 = .ok ()) :
    (s.start id).2.transaction? id = some ⟨s.version, s.collections⟩ := by
  obtain ⟨e, failingStarts, heq⟩ | ⟨-, -, heq⟩ := s.start_cases id
  · rw [heq] at h
    cases h
  · rw [heq]
    exact transaction?_setTransaction_self hopen _

/-- A transaction comes into being by a start of its session and in no other way. -/
theorem start_of_inTransaction_step (hnone : s.inTransaction id = false)
    (hin : (s.step event).inTransaction id = true) :
    event = .start id ∧ s.IsOpen id ∧ (s.start id).1 = .ok () := by
  have hnone := inTransaction_eq_false.mp hnone
  obtain ⟨snapshot, ht⟩ := inTransaction_eq_true.mp hin
  by_cases hown : event.session? = some id
  · obtain rfl | ⟨issued, rfl⟩ | hends := Event.cases_of_session? hown
    · have hopen : s.IsOpen id := (start_isOpen s id id).mp (isOpen_of_transaction? ht)
      obtain ⟨e, failingStarts, heq⟩ | ⟨-, -, heq⟩ := s.start_cases id
      · -- a refused start leaves no transaction behind
        have hstill : s.transaction? id = some snapshot := by
          rw [← ht]
          simp only [step, heq]
          rfl
        rw [hnone] at hstill
        cases hstill
      · exact ⟨rfl, hopen, by rw [heq]⟩
    · have hstill : (s.answer (some id) issued.fresh issued.call).2.transaction? id
          = s.transaction? id := transaction?_answer_of_none issued.fresh issued.call hnone
      rw [hnone] at hstill
      cases hstill.symm.trans ht
    · rw [transaction?_step_of_ends hends] at ht
      cases ht
  · rw [transaction?_step_of_other hown, hnone] at ht
    cases ht

/-! ## Answers and the view they depend on -/

/-- Whether a call reads or writes documents, and not indexes. -/
def Call.isOnDocuments : Call → Bool
  | .createIndex .. | .dropIndex .. | .dropIndexes .. | .listIndexes .. => false
  | _ => true

def Call.isWrite : Call → Bool
  | .insert .. | .insertMany .. | .update .. | .delete .. => true
  | _ => false

theorem write_fst {α : Type} (s : Store) (session : Option SessionId)
    (f : Collections → Result α × Collections) :
    (s.write session f).1 = (f (s.view session)).1 := by
  obtain ⟨id, snapshot, rfl, ht, hview⟩ | ⟨hnone, hview⟩ := s.view_cases session
  · rw [write_inside ht, hview]
  · rw [write_outside hnone, hview]

/-- What a call on documents is answered depends on the view of its session alone. -/
theorem answer_fst_congr {session' : Option SessionId} {call : Call}
    (hcall : call.isOnDocuments = true) (hview : s'.view session' = s.view session)
    (fresh : Nat → ObjectId) :
    (s'.answer session' fresh call).1 = (s.answer session fresh call).1 := by
  cases call with
  | find | findOne | count | aggregate => simp only [answer, hview]
  | insert | insertMany => simp only [answer, insertAll, write_fst, hview]
  | update collection filter changes many =>
    cases hcheck : Update.check changes with
    | ok _ => simp only [answer, hcheck, write_fst, hview]
    | error e => simp only [answer, hcheck]
  | delete => simp only [answer, write_fst, hview]
  | createIndex | dropIndex | dropIndexes | listIndexes => cases hcall

/-! ## The version -/

theorem isOk_map {α β : Type} (f : α → β) (result : Result α) :
    (result.map f).isOk = result.isOk := by
  cases result <;> rfl

/-- A call outside of transactions moves the version on exactly if it is a write that succeeds. -/
theorem version_answer_of_none (h : session.bind s.transaction? = none)
    (fresh : Nat → ObjectId) (call : Call) :
    (s.answer session fresh call).2.version
      = if call.isWrite && (s.answer session fresh call).1.isOk then s.version + 1
        else s.version := by
  have hindexes {α : Type} (f : Registry → Result (α × Registry)) :
      (s.writeIndexes f).2.version = s.version := by
    obtain ⟨indexes, heq⟩ := writeIndexes_eq s f
    rw [heq]
  cases call with
  | insert | insertMany =>
    simp only [answer, insertAll, write_outside h, Call.isWrite, isOk_map, Bool.true_and]
  | update collection filter changes many =>
    cases hcheck : Update.check changes with
    | ok _ => simp only [answer, hcheck, write_outside h, Call.isWrite, Bool.true_and]
    | error e => simp only [answer, hcheck, Call.isWrite]; rfl
  | delete => simp only [answer, write_outside h, Call.isWrite, Bool.true_and]
  | createIndex | dropIndex | dropIndexes => exact hindexes _
  | find | findOne | count | aggregate | listIndexes => rfl

theorem version_answer_of_transaction? {snapshot : Snapshot}
    (h : s.transaction? id = some snapshot) (fresh : Nat → ObjectId) (call : Call) :
    (s.answer (some id) fresh call).2.version = s.version := by
  obtain ⟨indexes, heq⟩ := answer_inside h fresh call
  rw [heq]
  rfl

/-- Whether an event is a write outside of transactions, or a commit, and succeeds. -/
def Event.publishes (s : Store) : Event → Bool
  | .call session issued =>
    (session.bind s.transaction?).isNone && issued.call.isWrite &&
      (s.answer session issued.fresh issued.call).1.isOk
  | .commit id => (s.commit id).1.isOk
  | .openSession | .dropSession _ | .start _ | .abort _ | .failStarts _ | .failCommits _ => false

/-- The version counts the events that publish something. -/
theorem version_step (s : Store) (event : Event) :
    (s.step event).version = if event.publishes s then s.version + 1 else s.version := by
  cases event with
  | openSession | failStarts count | failCommits count => rfl
  | dropSession id => exact dropSession_version s id
  | abort id => exact abort_version s id
  | start id =>
    obtain ⟨e, failingStarts, heq⟩ | ⟨-, -, heq⟩ := s.start_cases id
    · simp only [step, heq]
      rfl
    · simp only [step, heq]
      rfl
  | commit id =>
    obtain ⟨e, -, heq⟩ | ⟨e, failingCommits, heq⟩ | ⟨snapshot, -, -, heq⟩ := s.commit_cases id
    · simp only [step, Event.publishes, heq]
      rfl
    · simp only [step, Event.publishes, heq]
      exact abort_version s id
    · simp only [step, Event.publishes, heq]
      rfl
  | call session issued =>
    obtain ⟨id, snapshot, rfl, ht, -⟩ | ⟨hnone, -⟩ := s.view_cases session
    · simp only [step, Event.publishes, version_answer_of_transaction? ht, Option.bind_some, ht,
        Option.isNone_some, Bool.false_and, Bool.false_eq_true, if_false]
    · simp only [step, Event.publishes, version_answer_of_none hnone, hnone, Option.isNone_none,
        Bool.true_and]

/-! ## Runs -/

theorem run_append (s : Store) (events later : List Event) :
    s.run (events ++ later) = (s.run events).run later :=
  List.foldl_append ..

theorem version_le_run (s : Store) (events : List Event) : s.version ≤ (s.run events).version := by
  induction events generalizing s with
  | nil => exact Nat.le_refl _
  | cons event rest ih =>
    refine Nat.le_trans ?_ (ih (s.step event))
    rw [version_step]
    split
    · exact Nat.le_succ _
    · exact Nat.le_refl _

/-- As long as no event ends it, a transaction knows the version that it started from. -/
theorem transaction?_run_of_lasts {snapshot : Snapshot} {events : List Event}
    (ht : s.transaction? id = some snapshot) (h : ∀ event ∈ events, event.ends id = false) :
    ∃ collections, (s.run events).transaction? id = some { snapshot with collections } := by
  induction events generalizing s snapshot with
  | nil => exact ⟨snapshot.collections, ht⟩
  | cons event rest ih =>
    obtain ⟨collections, ht⟩ := transaction?_step_of_lasts ht (h event List.mem_cons_self)
    obtain ⟨last, hlast⟩ := ih ht fun later hlater => h later (List.mem_cons_of_mem _ hlater)
    exact ⟨last, hlast⟩

end DocumentStore.Store
