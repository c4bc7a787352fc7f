import DocumentStore.Proofs.Store.History

/-!
# Transactions that are accounted for

A store counts the transactions that were committed and those that were aborted, however they came
to be: by an abort, by a commit that failed, or with their session. Together with the transactions
that are still open these are all that were ever started. Each event keeps the balance, since a
transaction that leaves its session is counted once, and one that is put there was just started.
-/
namespace DocumentStore.Store

variable {s : Store} {id : SessionId}

/-! ## The balance -/

/-- How many sessions hold a transaction. -/
def holding (s : Store) : Nat := s.sessions.countP (·.transaction.isSome)

/-- How many transactions are accounted for, as committed, as aborted or as open. -/
def accounted (s : Store) : Nat := s.committed + s.aborted + s.holding

/-- Whether an event starts a transaction. Only a session that is there can be asked to. -/
def Event.starts (s : Store) : Event → Bool
  | .start id => s.IsOpen id && (s.start id).1.isOk
  | .openSession | .dropSession _ | .commit _ | .abort _ | .failStarts _ | .failCommits _
  | .call _ _ => false

/-- How many transactions are started in a run. -/
def started : Store → List Event → Nat
  | _, [] => 0
  | s, event :: rest => (event.starts s).toNat + started (s.step event) rest

/-! ## Putting transactions on sessions -/

/-- A session that is open stands between sessions of other numbers. -/
theorem IsOpen.exists_sessions_eq (h : s.IsOpen id) :
    ∃ before session after, s.sessions = before ++ session :: after ∧ session.id = id ∧
      (∀ other ∈ before, other.id ≠ id) ∧ ∀ other ∈ after, other.id ≠ id := by
  obtain ⟨session, hmem, rfl⟩ := List.mem_map.mp h
  obtain ⟨before, after, hsplit⟩ := List.append_of_mem hmem
  have hnodup := s.nodup_sessions
  rw [hsplit, List.map_append, List.map_cons] at hnodup
  obtain ⟨-, hafter, hbefore⟩ := List.nodup_append.mp hnodup
  refine ⟨before, session, after, hsplit, rfl, fun other hother => ?_, fun other hother heq => ?_⟩
  · exact hbefore _ (List.mem_map_of_mem hother) _ List.mem_cons_self
  · exact (List.nodup_cons.mp hafter).1 (heq ▸ List.mem_map_of_mem hother)

/-- A session of another number holds what it held. -/
theorem map_withTransaction_of_ne {sessions : List Session} (t : Option Snapshot)
    (h : ∀ other ∈ sessions, other.id ≠ id) :
    sessions.map (withTransaction id t) = sessions := by
  have hsame : ∀ other ∈ sessions, withTransaction id t other = other :=
    fun other hother => if_neg (h other hother)
  exact (List.map_congr_left hsame).trans (List.map_id sessions)

/-- One transaction takes the place of another. -/
theorem holding_setTransaction (h : s.IsOpen id) (t : Option Snapshot) :
    (s.setTransaction id t).holding + (s.transaction? id).isSome.toNat
      = s.holding + t.isSome.toNat := by
  obtain ⟨before, session, after, hsplit, rfl, hbefore, hafter⟩ := h.exists_sessions_eq
  have hheld : s.transaction? session.id = session.transaction :=
    transaction?_of_mem (by simp [hsplit])
  have hset : (s.setTransaction session.id t).sessions
      = before ++ { session with transaction := t } :: after := by
    simp only [setTransaction, hsplit, List.map_append, List.map_cons,
      map_withTransaction_of_ne t hbefore, map_withTransaction_of_ne t hafter]
    simp [withTransaction]
  simp only [holding, hheld, hset, hsplit, List.countP_append, List.countP_cons]
  cases session.transaction <;> cases t <;> simp <;> omega

theorem holding_setTransaction_none {snapshot : Snapshot} (h : s.transaction? id = some snapshot) :
    (s.setTransaction id none).holding + 1 = s.holding := by
  have hmoved := holding_setTransaction (isOpen_of_transaction? h) none
  simpa [h] using hmoved

/-- Nothing can be put on a session that is not open. -/
theorem setTransaction_of_not_isOpen (h : ¬ s.IsOpen id) (t : Option Snapshot) :
    s.setTransaction id t = s := by
  have hne : ∀ session ∈ s.sessions, session.id ≠ id :=
    fun session hmem heq => h (heq ▸ List.mem_map_of_mem hmem)
  simp only [setTransaction, map_withTransaction_of_ne t hne]

/-! ## Events -/

@[simp] theorem accounted_abort (s : Store) (id : SessionId) :
    (s.abort id).accounted = s.accounted := by
  unfold abort
  split
  · rename_i hin
    obtain ⟨snapshot, ht⟩ := inTransaction_eq_true.mp hin
    have hclosed := holding_setTransaction_none ht
    change s.committed + (s.aborted + 1) + (s.setTransaction id none).holding = s.accounted
    unfold accounted
    omega
  · rfl

theorem accounted_openSession (s : Store) : s.openSession.2.accounted = s.accounted := by
  simp [accounted, holding, openSession]

/-- A session is dropped when it holds nothing any more. -/
theorem accounted_dropSession (s : Store) (id : SessionId) :
    (s.dropSession id).accounted = s.accounted := by
  rw [← accounted_abort s id]
  have hkept : (s.dropSession id).holding = (s.abort id).holding := by
    simp only [holding, dropSession, List.countP_filter]
    refine List.countP_congr fun session hmem => ?_
    have hheld := transaction?_of_mem hmem
    rw [transaction?_abort] at hheld
    by_cases hid : session.id = id
    · simp [← hheld, hid]
    · simp [hid]
  unfold accounted
  rw [hkept]
  rfl

theorem accounted_start (s : Store) (id : SessionId) :
    (s.start id).2.accounted = s.accounted + ((Event.start id).starts s).toNat := by
  obtain ⟨e, failingStarts, heq⟩ | ⟨hnone, -, heq⟩ := s.start_cases id
  · simp only [Event.starts, heq]
    simp [accounted, holding, Except.isOk, Except.toBool]
  · simp only [Event.starts, heq]
    by_cases hopen : s.IsOpen id
    · have hmoved := holding_setTransaction hopen (some ⟨s.version, s.collections⟩)
      simp only [hnone, Option.isSome_none, Option.isSome_some, Bool.toNat_false, Bool.toNat_true,
        Nat.add_zero] at hmoved
      change s.committed + s.aborted + (s.setTransaction id _).holding = _
      simp [hmoved, accounted, hopen, Except.isOk, Except.toBool, Nat.add_assoc]
    · rw [setTransaction_of_not_isOpen hopen]
      simp [hopen]

/-- A commit counts the transaction as committed, or as aborted if it fails. -/
theorem accounted_commit (s : Store) (id : SessionId) :
    (s.commit id).2.accounted = s.accounted := by
  obtain ⟨e, -, heq⟩ | ⟨e, failingCommits, heq⟩ | ⟨snapshot, ht, -, heq⟩ := s.commit_cases id
  · rw [heq]
  · rw [heq]
    exact accounted_abort s id
  · rw [heq]
    have hclosed := holding_setTransaction_none ht
    change s.committed + 1 + s.aborted + (s.setTransaction id none).holding = s.accounted
    unfold accounted
    omega

theorem accounted_answer (s : Store) (session : Option SessionId) (fresh : Nat → ObjectId)
    (call : Call) : (s.answer session fresh call).2.accounted = s.accounted := by
  obtain ⟨id, snapshot, rfl, ht, -⟩ | ⟨hnone, -⟩ := s.view_cases session
  · obtain ⟨indexes, heq⟩ := answer_inside ht fresh call
    have hmoved := holding_setTransaction (isOpen_of_transaction? ht)
      (some { snapshot with collections := call.perform fresh snapshot.collections })
    simp only [ht, Option.isSome_some, Bool.toNat_true, Nat.add_right_cancel_iff] at hmoved
    rw [heq]
    exact congrArg (s.committed + s.aborted + ·) hmoved
  · obtain ⟨⟨indexes, version, heq⟩, -⟩ := answer_outside hnone fresh call
    rw [heq]
    rfl

/-- Whatever happens, exactly the transactions that are started are accounted for in addition. -/
theorem accounted_step (s : Store) (event : Event) :
    (s.step event).accounted = s.accounted + (event.starts s).toNat := by
  cases event with
  | openSession => exact accounted_openSession s
  | dropSession id => exact accounted_dropSession s id
  | start id => exact accounted_start s id
  | commit id => exact accounted_commit s id
  | abort id => exact accounted_abort s id
  | failStarts count => rfl
  | failCommits count => rfl
  | call session issued => exact accounted_answer s session issued.fresh issued.call

/-! ## Runs -/

theorem accounted_run (s : Store) (events : List Event) :
    (s.run events).accounted = s.accounted + s.started events := by
  induction events generalizing s with
  | nil => rfl
  | cons event rest ih =>
    have hrun : s.run (event :: rest) = (s.step event).run rest := rfl
    rw [hrun, ih, accounted_step, started, Nat.add_assoc]

/-- A store is built without transactions. -/
theorem accounted_of_build {transactional : Bool} {seed : List (String × List Document)}
    (h : build transactional seed = .ok s) : s.accounted = 0 := by
  obtain ⟨⟨⟩, -, h⟩ := Result.bind_eq_ok h
  cases h
  rfl

/-- No transaction is lost: through every run of a store that was built, the transactions that were
started are those that were committed, those that were aborted and those that are open on the
sessions that are left. -/
theorem started_accounted {transactional : Bool} {seed : List (String × List Document)}
    (h : build transactional seed = .ok s) (events : List Event) :
    s.started events
      = (s.run events).committed + (s.run events).aborted
        + (s.run events).sessions.countP (·.transaction.isSome) := by
  have hrun := accounted_run s events
  rw [accounted_of_build h, Nat.zero_add] at hrun
  exact hrun.symm

/-- Transactions that end in each of the ways there are: of four that start together the first is
committed, the second conflicts with it, the third is aborted twice and the fourth goes with its
session. A commit is made to fail after that, and a start, and one transaction stays open. -/
def endings : List Event :=
  [.openSession, .openSession, .openSession, .openSession,
    .start 1, .start 1, .start 2, .start 3, .start 4,
    .call (some 1) ⟨.generated, .insert "c" [(idField, .int32 1)]⟩,
    .commit 1, .commit 2, .abort 2, .abort 3, .abort 3, .dropSession 4, .start 4,
    .failCommits 1, .start 1, .commit 1, .commit 1, .failStarts 1, .start 2, .start 2]

theorem started_accounted_endings :
    ∃ s, build true [] = .ok s ∧
      s.started endings
        = (s.run endings).committed + (s.run endings).aborted
          + (s.run endings).sessions.countP (·.transaction.isSome) ∧
      (s.run endings).committed = 1 ∧ (s.run endings).aborted = 4 ∧ s.started endings = 6 :=
  have hbuild : build true [] = .ok _ := rfl
  ⟨_, hbuild, started_accounted hbuild endings, rfl, rfl, rfl⟩

end DocumentStore.Store
