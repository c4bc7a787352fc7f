import DocumentStore.Proofs.Store.Run
import Mathlib.Logic.Function.Basic

/-!
# Serializability

Whatever is interleaved on a store, its committed documents are those of a serial run: calls
outside of transactions are made where they stand, and the calls of a transaction are made in one
go where its commit succeeded. All other transactions leave nothing behind.

The invariant says what the private documents of an open transaction are worth. As long as the
version has not moved on since the transaction started, they are what the calls of the
transaction make of the committed documents. A commit succeeds under that condition only.
-/
namespace DocumentStore.Store

/-! ## The serial order -/

/-- The calls that were made on the transaction of each session so far. -/
abbrev Pending := SessionId → List IssuedCall

/-- The calls that take their place in the serial order with an event, and those that are pending
after it. -/
def Event.schedule (s : Store) (pending : Pending) : Event → List IssuedCall × Pending
  | .call none issued => ([issued], pending)
  | .call (some id) issued =>
    if s.inTransaction id then ([], Function.update pending id (pending id ++ [issued]))
    else ([issued], pending)
  | .start id =>
    match (s.start id).1 with
    | .ok () => ([], Function.update pending id [])
    | .error _ => ([], pending)
  | .commit id =>
    match (s.commit id).1 with
    | .ok () => (pending id, Function.update pending id [])
    | .error _ => ([], Function.update pending id [])
  | .abort id | .dropSession id => ([], Function.update pending id [])
  | .openSession | .failStarts _ | .failCommits _ => ([], pending)

/-- The serial order of the events that are still to come. -/
def serialFrom (s : Store) (pending : Pending) : List Event → List IssuedCall
  | [] => []
  | event :: rest =>
    let (placed, pending) := event.schedule s pending
    placed ++ serialFrom (s.step event) pending rest

/-- The calls of a serial run: those outside of transactions where they stand, and those of a
transaction together where its commit succeeded. -/
def serial (s : Store) (events : List Event) : List IssuedCall :=
  serialFrom s (fun _ => []) events

/-- Calls made one after the other without any session. -/
def inSeries (calls : List IssuedCall) : List Event := calls.map (.call none)

/-! ## Replaying calls -/

/-- The view that calls leave of one that they work on one after the other. -/
def replay (calls : List IssuedCall) (cs : Collections) : Collections :=
  calls.foldl (fun cs issued => issued.call.perform issued.fresh cs) cs

@[simp] theorem replay_nil (cs : Collections) : replay [] cs = cs := rfl

theorem replay_append (calls later : List IssuedCall) (cs : Collections) :
    replay (calls ++ later) cs = replay later (replay calls cs) :=
  List.foldl_append ..

theorem replay_agree (calls : List IssuedCall) {cs cs' : Collections} (h : cs.Agree cs') :
    (replay calls cs).Agree (replay calls cs') := by
  induction calls generalizing cs cs' with
  | nil => exact h
  | cons issued rest ih => exact ih (Call.perform_agree issued.fresh issued.call h)

/-- A serial run replays its calls on the committed documents. -/
theorem run_inSeries (s : Store) (calls : List IssuedCall) :
    (s.run (inSeries calls)).collections = replay calls s.collections := by
  induction calls generalizing s with
  | nil => rfl
  | cons issued rest ih =>
    have hfree : (none : Option SessionId).bind s.transaction? = none := rfl
    obtain ⟨indexes, version, heq⟩ := (answer_outside hfree issued.fresh issued.call).writes
    have hstep : (s.step (.call none issued)).collections
        = issued.call.perform issued.fresh s.collections := by
      simp only [step]; rw [heq]
    exact (ih _).trans (by rw [hstep]; rfl)

/-! ## The invariant -/

/-- As long as the version has not moved on since a transaction started, its private documents
are what its pending calls make of the committed ones. -/
def Faithful (s : Store) (pending : Pending) : Prop :=
  ∀ id snapshot, s.transaction? id = some snapshot →
    snapshot.base ≤ s.version ∧
      (snapshot.base = s.version →
        snapshot.collections.Agree (replay (pending id) s.collections))

/-- Ending the transaction of a session keeps the others faithful. -/
theorem Faithful.ended {s s' : Store} {pending : Pending} (h : Faithful s pending)
    {id : SessionId} (hversion : s'.version = s.version)
    (hcollections : s'.collections = s.collections)
    (htransaction : ∀ other,
      s'.transaction? other = if other = id then none else s.transaction? other) :
    Faithful s' (Function.update pending id []) := by
  intro other snapshot hother
  rw [htransaction] at hother
  by_cases heq : other = id
  · simp [heq] at hother
  · rw [if_neg heq] at hother
    rw [hversion, hcollections, Function.update_of_ne heq]
    exact h other snapshot hother

/-- Where nothing changes but what transactions do not depend on, they stay faithful. -/
theorem Faithful.untouched {s s' : Store} {pending : Pending} (h : Faithful s pending)
    (hversion : s'.version = s.version) (hcollections : s'.collections = s.collections)
    (htransaction : ∀ id, s'.transaction? id = s.transaction? id) : Faithful s' pending := by
  intro id snapshot hid
  rw [hversion, hcollections]
  exact h id snapshot (htransaction id ▸ hid)

theorem schedule_call_inside {s : Store} {id : SessionId} {snapshot : Snapshot}
    (h : s.transaction? id = some snapshot) (pending : Pending) (issued : IssuedCall) :
    (Event.call (some id) issued).schedule s pending
      = ([], Function.update pending id (pending id ++ [issued])) := by
  simp [Event.schedule, inTransaction, h]

theorem schedule_call_outside {s : Store} {session : Option SessionId}
    (h : session.bind s.transaction? = none) (pending : Pending) (issued : IssuedCall) :
    (Event.call session issued).schedule s pending = ([issued], pending) := by
  cases session with
  | none => rfl
  | some id =>
    have hnone : s.transaction? id = none := h
    simp [Event.schedule, hnone]

/-- A call outside of transactions is replayed on the committed documents at once, and either
moves the version past every open transaction or changes no documents. -/
theorem faithful_call_outside {s : Store} {pending : Pending} (h : Faithful s pending)
    {session : Option SessionId} (hout : session.bind s.transaction? = none)
    (issued : IssuedCall) : Faithful (s.step (.call session issued)) pending := by
  obtain ⟨⟨indexes, version, heq⟩, hmoves⟩ := answer_outside hout issued.fresh issued.call
  have hstep : s.step (.call session issued) = _ := heq
  rw [heq] at hmoves
  rw [hstep]
  intro id snapshot hid
  obtain ⟨hle, hagree⟩ := h id snapshot hid
  rcases hmoves with hmoved | ⟨hstayed, hsame⟩
  · change version = s.version + 1 at hmoved
    subst hmoved
    -- no open transaction has started from the version made here
    refine ⟨Nat.le_succ_of_le hle, fun hbase => ?_⟩
    exact absurd hbase (Nat.ne_of_lt (Nat.lt_succ_of_le hle))
  · change version = s.version at hstayed
    subst hstayed
    -- the call has failed, so what is promised of the documents still holds
    exact ⟨hle, fun hbase => (hagree hbase).trans (replay_agree _ hsame.symm)⟩

/-- A call on a transaction joins its pending calls. -/
theorem faithful_call_inside {s : Store} {pending : Pending} (h : Faithful s pending)
    {id : SessionId} {snapshot : Snapshot} (hin : s.transaction? id = some snapshot)
    (issued : IssuedCall) :
    Faithful (s.step (.call (some id) issued))
      (Function.update pending id (pending id ++ [issued])) := by
  obtain ⟨indexes, heq⟩ := answer_inside hin issued.fresh issued.call
  have hstep : s.step (.call (some id) issued) = _ := heq
  have hopen := isOpen_of_transaction? hin
  rw [hstep]
  intro other snapshot' hother
  -- only the transaction of this session sees the call
  by_cases hid : other = id
  · subst hid
    have hset : some _ = some snapshot' :=
      (transaction?_setTransaction_self hopen _).symm.trans hother
    obtain rfl := Option.some.inj hset
    obtain ⟨hle, hagree⟩ := h other snapshot hin
    refine ⟨hle, fun hbase => ?_⟩
    rw [Function.update_self, replay_append]
    exact Call.perform_agree issued.fresh issued.call (hagree hbase)
  · have hkept : s.transaction? other = some snapshot' :=
      (transaction?_setTransaction_ne hid _).symm.trans hother
    rw [Function.update_of_ne hid]
    exact h other snapshot' hkept

/-- A transaction that starts has no pending calls and the committed documents. -/
theorem faithful_start {s : Store} {pending : Pending} (h : Faithful s pending)
    (id : SessionId) :
    Faithful (s.step (.start id)) ((Event.start id).schedule s pending).2 := by
  rcases start_cases s id with ⟨e, failingStarts, heq⟩ | ⟨-, -, heq⟩
  · simp only [step, Event.schedule, heq]
    exact h.untouched rfl rfl fun _ => rfl
  · simp only [step, Event.schedule, heq]
    intro other snapshot hother
    by_cases hid : other = id
    · subst hid
      have hopen : s.IsOpen other := by simpa using isOpen_of_transaction? hother
      rw [transaction?_setTransaction_self hopen] at hother
      -- its documents are a copy, and nothing is pending
      obtain rfl := Option.some.inj hother
      exact ⟨Nat.le_refl _, fun _ => by simpa using Collections.Agree.refl s.collections⟩
    · rw [transaction?_setTransaction_ne hid] at hother
      rw [Function.update_of_ne hid]
      exact h other snapshot hother

/-- A commit that succeeds publishes what the pending calls make of the committed documents. -/
theorem faithful_commit {s : Store} {pending : Pending} (h : Faithful s pending)
    (id : SessionId) :
    Faithful (s.step (.commit id)) ((Event.commit id).schedule s pending).2 ∧
      (s.step (.commit id)).collections.Agree
        (replay ((Event.commit id).schedule s pending).1 s.collections) := by
  rcases commit_cases s id with
    ⟨e, hnone, heq⟩ | ⟨e, failingCommits, heq⟩ | ⟨snapshot, hin, hversion, heq⟩
  · simp only [step, Event.schedule, heq]
    refine ⟨h.ended rfl rfl fun other => ?_, .refl _⟩
    split
    · rename_i hid; rw [hid, hnone]
    · rfl
  · simp only [step, Event.schedule, heq]
    exact ⟨h.ended (abort_version s id) (abort_collections s id) (transaction?_abort s id),
      by simpa using Collections.Agree.refl s.collections⟩
  · simp only [step, Event.schedule, heq]
    refine ⟨fun other snapshot' hother => ?_, (h id snapshot hin).2 hversion.symm⟩
    -- every other transaction started from an earlier version than the one made here
    have hkept := (transaction?_setTransaction_none s id other).symm.trans hother
    by_cases hid : other = id
    · simp [hid] at hkept
    · rw [if_neg hid] at hkept
      have hle := (h other snapshot' hkept).1
      exact ⟨Nat.le_succ_of_le hle,
        fun hbase => absurd hbase (Nat.ne_of_lt (Nat.lt_succ_of_le hle))⟩

/-! ## Steps and runs -/

/-- What one event does to the committed documents is what the calls that it places in the serial
order do to them. -/
theorem step_faithful {s : Store} {pending : Pending} (h : Faithful s pending) (event : Event) :
    Faithful (s.step event) (event.schedule s pending).2 ∧
      (s.step event).collections.Agree (replay (event.schedule s pending).1 s.collections) := by
  cases event with
  | openSession => exact ⟨h.untouched rfl rfl (transaction?_openSession s), .refl _⟩
  | dropSession id =>
    exact ⟨h.ended (dropSession_version s id) (dropSession_collections s id)
      (transaction?_dropSession s id), by simpa [step, Event.schedule] using .refl _⟩
  | start id =>
    refine ⟨faithful_start h id, ?_⟩
    rcases start_cases s id with ⟨e, failingStarts, heq⟩ | ⟨-, -, heq⟩
    · simpa [step, Event.schedule, heq] using .refl _
    · simpa [step, Event.schedule, heq] using .refl _
  | commit id => exact faithful_commit h id
  | abort id =>
    exact ⟨h.ended (abort_version s id) (abort_collections s id) (transaction?_abort s id),
      by simpa [step, Event.schedule] using .refl _⟩
  | failStarts count => exact ⟨h.untouched rfl rfl fun _ => rfl, .refl _⟩
  | failCommits count => exact ⟨h.untouched rfl rfl fun _ => rfl, .refl _⟩
  | call session issued =>
    -- a call outside of a transaction takes its place at once, one inside waits for the commit
    cases hsession : session.bind s.transaction? with
    | none =>
      rw [schedule_call_outside hsession]
      refine ⟨faithful_call_outside h hsession issued, ?_⟩
      obtain ⟨⟨indexes, version, heq⟩, -⟩ := answer_outside hsession issued.fresh issued.call
      simp only [step]
      rw [heq]
      exact .refl _
    | some snapshot =>
      obtain ⟨id, rfl, hin⟩ := Option.bind_eq_some_iff.mp hsession
      rw [schedule_call_inside hin]
      refine ⟨faithful_call_inside h hin issued, ?_⟩
      obtain ⟨indexes, heq⟩ := answer_inside hin issued.fresh issued.call
      simp only [step]
      rw [heq]
      exact .refl _

theorem run_agree_replay {s : Store} {pending : Pending} (h : Faithful s pending)
    (events : List Event) :
    (s.run events).collections.Agree (replay (s.serialFrom pending events) s.collections) := by
  induction events generalizing s pending with
  | nil => exact .refl _
  | cons event rest ih =>
    obtain ⟨hfaithful, hstep⟩ := step_faithful h event
    have hrest := ih hfaithful
    simp only [serialFrom, replay_append]
    exact hrest.trans (replay_agree _ hstep)

/-- The committed documents after any run of a store that starts without open transactions are
those after its serial run. -/
theorem run_serializable {s : Store} (h : ∀ id, s.inTransaction id = false)
    (events : List Event) (name : String) :
    (s.run events).collections.documents name
      = (s.run (inSeries (s.serial events))).collections.documents name := by
  have hfaithful : Faithful s fun _ => [] := by
    intro id snapshot hid
    simp [inTransaction_eq_false.mp (h id)] at hid
  rw [run_inSeries]
  exact run_agree_replay hfaithful events name

/-- Two transactions and a call outside of them, which the first transaction meets. -/
def meetingRun : List Event :=
  let insert (n : Int32) : IssuedCall := ⟨.generated, .insert "c" [(idField, .int32 n)]⟩
  [.openSession, .openSession, .start 1, .call (some 1) (insert 1), .call none (insert 2),
    .commit 1, .start 2, .call (some 2) (insert 3), .commit 2, .start 1,
    .call (some 1) (insert 4), .dropSession 1]

theorem run_serializable_meetingRun :
    (∀ id, ({} : Store).inTransaction id = false) ∧
      (serial {} meetingRun).map (·.call)
        = [.insert "c" [(idField, .int32 2)], .insert "c" [(idField, .int32 3)]] ∧
      (run {} meetingRun).collections.documents "c"
        = (run {} (inSeries (serial {} meetingRun))).collections.documents "c" :=
  ⟨fun _ => rfl, rfl, run_serializable (fun _ => rfl) meetingRun "c"⟩

end DocumentStore.Store
