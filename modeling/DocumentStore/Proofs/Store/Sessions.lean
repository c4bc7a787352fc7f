import DocumentStore.Store.Call

/-!
# Sessions of a store

Which sessions are open, and what starting, committing, aborting and dropping do to the
transactions of all sessions. A session keeps the number that it was opened under, so the
transaction found under a number is the one of its only bearer.
-/
namespace DocumentStore.Store

/-! ## Open sessions -/

/-- Whether a session was opened and not dropped. -/
def IsOpen (s : Store) (id : SessionId) : Prop := id ∈ s.sessions.map (·.id)

instance (s : Store) (id : SessionId) : Decidable (s.IsOpen id) :=
  inferInstanceAs (Decidable (id ∈ _))

/-- A session that is open is the only one of its number. -/
theorem nodup_sessions (s : Store) : (s.sessions.map (·.id)).Nodup :=
  ((List.pairwise_append.mp s.numbered).1).imp Nat.ne_of_lt

theorem IsOpen.le_opened {s : Store} {id : SessionId} (h : s.IsOpen id) : id ≤ s.opened := by
  have hlt := (List.pairwise_append.mp s.numbered).2.2 id h (s.opened + 1) (by simp)
  exact Nat.le_of_lt_succ hlt

/-- The number of a session that is opened next is not taken. -/
theorem not_isOpen_openSession (s : Store) : ¬ s.IsOpen s.openSession.1 := by
  intro h
  exact Nat.not_succ_le_self _ h.le_opened

theorem transaction?_of_mem {s : Store} {session : Session} (h : session ∈ s.sessions) :
    s.transaction? session.id = session.transaction := by
  have hfound : s.sessions.find? (·.id == session.id) = some session := by
    obtain ⟨before, after, hsplit⟩ := List.append_of_mem h
    have hnodup := s.nodup_sessions
    rw [hsplit, List.map_append, List.map_cons] at hnodup
    -- no session that comes before has the same number
    have hbefore : ∀ other ∈ before, other.id ≠ session.id := by
      intro other hother heq
      exact (List.nodup_append.mp hnodup).2.2 other.id (List.mem_map_of_mem hother) session.id
        (by simp) heq
    rw [hsplit, List.find?_append, List.find?_eq_none.mpr (by simpa using hbefore)]
    simp
  simp [transaction?, hfound]

theorem isOpen_of_transaction? {s : Store} {id : SessionId} {snapshot : Snapshot}
    (h : s.transaction? id = some snapshot) : s.IsOpen id := by
  obtain ⟨session, hfound, -⟩ := Option.bind_eq_some_iff.mp h
  have hid : session.id = id := by simpa using List.find?_some hfound
  exact hid ▸ List.mem_map_of_mem (List.mem_of_find?_eq_some hfound)

theorem transaction?_of_not_isOpen {s : Store} {id : SessionId} (h : ¬ s.IsOpen id) :
    s.transaction? id = none := by
  cases ht : s.transaction? id with
  | none => rfl
  | some snapshot => exact absurd (isOpen_of_transaction? ht) h

theorem inTransaction_eq_true {s : Store} {id : SessionId} :
    s.inTransaction id = true ↔ ∃ snapshot, s.transaction? id = some snapshot := by
  simp [inTransaction, Option.isSome_iff_exists]

@[simp] theorem inTransaction_eq_false {s : Store} {id : SessionId} :
    s.inTransaction id = false ↔ s.transaction? id = none := by
  simp [inTransaction]

/-! ## Putting a transaction on a session -/

@[simp] theorem setTransaction_collections (s : Store) (id : SessionId) (t : Option Snapshot) :
    (s.setTransaction id t).collections = s.collections := rfl

@[simp] theorem setTransaction_isOpen (s : Store) (id other : SessionId) (t : Option Snapshot) :
    (s.setTransaction id t).IsOpen other ↔ s.IsOpen other := by
  simp [IsOpen, setTransaction]

theorem transaction?_setTransaction_ne {s : Store} {id other : SessionId} (h : other ≠ id)
    (t : Option Snapshot) : (s.setTransaction id t).transaction? other = s.transaction? other := by
  have hsame : (fun session : Session => session.id == other) ∘ withTransaction id t
      = fun session => session.id == other := by
    funext session; simp
  rw [transaction?, transaction?, setTransaction, List.find?_map, hsame]
  cases hfound : s.sessions.find? (·.id == other) with
  | none => rfl
  | some session =>
    have hid : session.id ≠ id := by
      rw [show session.id = other by simpa using List.find?_some hfound]; exact h
    simp [withTransaction, hid]

theorem transaction?_setTransaction_self {s : Store} {id : SessionId} (h : s.IsOpen id)
    (t : Option Snapshot) : (s.setTransaction id t).transaction? id = t := by
  obtain ⟨session, hmem, hid⟩ := List.mem_map.mp h
  have hset : withTransaction id t session ∈ (s.setTransaction id t).sessions :=
    List.mem_map_of_mem hmem
  have hfound := transaction?_of_mem hset
  simpa [withTransaction, hid] using hfound

@[simp] theorem transaction?_setTransaction_none (s : Store) (id other : SessionId) :
    (s.setTransaction id none).transaction? other
      = if other = id then none else s.transaction? other := by
  split
  · rename_i heq
    subst heq
    by_cases hopen : s.IsOpen other
    · exact transaction?_setTransaction_self hopen none
    · exact transaction?_of_not_isOpen (by simpa using hopen)
  · rename_i hne
    exact transaction?_setTransaction_ne hne none

/-- Putting on a session what it has already changes nothing. -/
theorem setTransaction_transaction? (s : Store) (id : SessionId) :
    s.setTransaction id (s.transaction? id) = s := by
  have hsame : s.sessions.map (withTransaction id (s.transaction? id)) = s.sessions := by
    conv => rhs; rw [← List.map_id s.sessions]
    apply List.map_congr_left
    intro session hmem
    unfold withTransaction
    split
    · rename_i hid
      rw [← hid, transaction?_of_mem hmem]; rfl
    · rfl
  simp [setTransaction, hsame]

/-- The last transaction that is put on a session is the one that stays. -/
@[simp] theorem setTransaction_setTransaction (s : Store) (id : SessionId)
    (t t' : Option Snapshot) :
    (s.setTransaction id t).setTransaction id t' = s.setTransaction id t' := by
  have hlast : withTransaction id t' ∘ withTransaction id t = withTransaction id t' := by
    funext session
    by_cases hid : session.id = id
    · simp [withTransaction, hid]
    · simp [withTransaction, hid]
  simp [setTransaction, hlast]

/-! ## Opening and dropping -/

@[simp] theorem transaction?_openSession (s : Store) (id : SessionId) :
    s.openSession.2.transaction? id = s.transaction? id := by
  simp only [transaction?, openSession, List.find?_append]
  cases hfound : s.sessions.find? (·.id == id) with
  | some session => simp
  | none =>
    by_cases hnew : s.opened + 1 = id
    · simp [hnew]
    · simp [hnew]

theorem isOpen_openSession (s : Store) : s.openSession.2.IsOpen s.openSession.1 := by
  simp [IsOpen, openSession]

theorem isOpen_openSession_iff (s : Store) (id : SessionId) :
    s.openSession.2.IsOpen id ↔ s.IsOpen id ∨ id = s.opened + 1 := by
  simp [IsOpen, openSession]

theorem transaction?_openSession_self (s : Store) :
    s.openSession.2.transaction? s.openSession.1 = none := by
  rw [transaction?_openSession]
  exact transaction?_of_not_isOpen s.not_isOpen_openSession

/-- Whether a session is open and holds no transaction, if one is given. -/
def Free (s : Store) (session : Option SessionId) : Prop :=
  ∀ id ∈ session, s.IsOpen id ∧ s.inTransaction id = false

theorem free_none (s : Store) : s.Free none := by simp [Free]

theorem Free.bind_transaction? {s : Store} {session : Option SessionId} (h : s.Free session) :
    session.bind s.transaction? = none := by
  cases session with
  | none => rfl
  | some id => simpa using (h id rfl).2

/-- A session that was just opened holds no transaction. -/
theorem free_openSession (s : Store) : s.openSession.2.Free (some s.openSession.1) := by
  intro id hid
  obtain rfl := Option.some.inj hid
  exact ⟨s.isOpen_openSession, by simpa using s.transaction?_openSession_self⟩

/-! ## Ending a transaction -/

/-- Without a transaction there is nothing to abort. -/
theorem abort_of_free {s : Store} {id : SessionId} (h : s.transaction? id = none) :
    s.abort id = s := by
  unfold abort
  rw [inTransaction_eq_false.mpr h]
  rfl

@[simp] theorem abort_collections (s : Store) (id : SessionId) :
    (s.abort id).collections = s.collections := by
  unfold abort; split <;> rfl

@[simp] theorem abort_version (s : Store) (id : SessionId) :
    (s.abort id).version = s.version := by
  unfold abort; split <;> rfl

@[simp] theorem abort_transactional (s : Store) (id : SessionId) :
    (s.abort id).transactional = s.transactional := by
  unfold abort; split <;> rfl

@[simp] theorem abort_isOpen (s : Store) (id other : SessionId) :
    (s.abort id).IsOpen other ↔ s.IsOpen other := by
  unfold abort
  split
  · exact setTransaction_isOpen s id other none
  · rfl

@[simp] theorem transaction?_abort (s : Store) (id other : SessionId) :
    (s.abort id).transaction? other = if other = id then none else s.transaction? other := by
  unfold abort
  split
  · exact transaction?_setTransaction_none s id other
  · rename_i hnot
    -- there is nothing to abort
    have hnone : s.transaction? id = none := by simpa using hnot
    split
    · rename_i heq; rw [heq, hnone]
    · rfl

@[simp] theorem dropSession_collections (s : Store) (id : SessionId) :
    (s.dropSession id).collections = s.collections := abort_collections s id

@[simp] theorem dropSession_version (s : Store) (id : SessionId) :
    (s.dropSession id).version = s.version := abort_version s id

@[simp] theorem transaction?_dropSession (s : Store) (id other : SessionId) :
    (s.dropSession id).transaction? other
      = if other = id then none else s.transaction? other := by
  have hkept : (s.dropSession id).transaction? other
      = ((s.abort id).sessions.find? fun session => session.id != id && session.id == other).bind
        (·.transaction) := by
    simp only [transaction?, dropSession, List.find?_filter, Bool.decide_and, Bool.decide_eq_true]
  rw [hkept]
  split
  · rename_i heq
    rw [List.find?_eq_none.mpr fun session _ => by simp [heq]]
    rfl
  · rename_i hne
    -- a session that is asked for by another number was not dropped
    have hsame : (fun session : Session => session.id != id && session.id == other)
        = fun session => session.id == other := by
      funext session
      by_cases hid : session.id = other
      · simp [hid, hne]
      · simp [hid]
    rw [hsame]
    exact (transaction?_abort s id other).trans (if_neg hne)

theorem isOpen_dropSession (s : Store) (id other : SessionId) :
    (s.dropSession id).IsOpen other ↔ s.IsOpen other ∧ other ≠ id := by
  rw [← abort_isOpen s id other]
  simp only [IsOpen, dropSession, List.mem_map, List.mem_filter]
  grind

/-! ## Outcomes of starts and commits -/

/-- A start is refused, which changes no more than the number of failures to come, or puts a copy
of the committed documents on the session. -/
theorem start_cases (s : Store) (id : SessionId) :
    (∃ e failingStarts, s.start id = (.error e, { s with failingStarts })) ∨
    s.transaction? id = none ∧ s.transactional = true ∧
      s.start id = (.ok (), s.setTransaction id (some ⟨s.version, s.collections⟩)) := by
  unfold start
  split
  · exact .inl ⟨_, s.failingStarts, rfl⟩
  · rename_i hin
    split
    · exact .inl ⟨_, s.failingStarts, rfl⟩
    · rename_i hsupported
      split
      · exact .inl ⟨_, _, rfl⟩
      · exact .inr ⟨by simpa using hin, by simpa using hsupported, rfl⟩

/-- A commit finds no transaction, closes it without publishing it, or publishes documents that
were copied from the present version. -/
theorem commit_cases (s : Store) (id : SessionId) :
    (∃ e, s.transaction? id = none ∧ s.commit id = (.error e, s)) ∨
    (∃ e failingCommits, s.commit id = (.error e, { s.abort id with failingCommits })) ∨
    (∃ snapshot, s.transaction? id = some snapshot ∧ s.version = snapshot.base ∧
      s.commit id = (.ok (), { s.setTransaction id none with
        collections := snapshot.collections
        version := s.version + 1
        committed := s.committed + 1 })) := by
  unfold commit
  cases ht : s.transaction? id with
  | none => exact .inl ⟨_, rfl, rfl⟩
  | some snapshot =>
    simp only
    split
    · exact .inr (.inl ⟨_, _, rfl⟩)
    · split
      · exact .inr (.inl ⟨_, (s.abort id).failingCommits, rfl⟩)
      -- the version is the one that the transaction started from
      · rename_i hversion
        exact .inr (.inr ⟨snapshot, rfl, by simpa using hversion, rfl⟩)

/-- No session is opened or dropped by a start or a commit. -/
@[simp] theorem start_isOpen (s : Store) (id other : SessionId) :
    (s.start id).2.IsOpen other ↔ s.IsOpen other := by
  obtain ⟨e, failingStarts, heq⟩ | ⟨-, -, heq⟩ := start_cases s id
  · rw [heq]
    rfl
  · rw [heq]
    exact setTransaction_isOpen s id other _

@[simp] theorem commit_isOpen (s : Store) (id other : SessionId) :
    (s.commit id).2.IsOpen other ↔ s.IsOpen other := by
  obtain ⟨e, -, heq⟩ | ⟨e, failingCommits, heq⟩ | ⟨snapshot, -, -, heq⟩ := commit_cases s id
  · rw [heq]
  · rw [heq]
    exact abort_isOpen s id other
  · rw [heq]
    exact setTransaction_isOpen s id other none

/-- A commit that succeeds publishes what a call on the session would see. -/
theorem commit_of_ok {s : Store} {id : SessionId} (h : (s.commit id).1 = .ok ()) :
    (s.commit id).2.collections = s.view (some id) := by
  obtain ⟨e, -, heq⟩ | ⟨e, failingCommits, heq⟩ | ⟨snapshot, ht, -, heq⟩ := commit_cases s id
  · rw [heq] at h
    cases h
  · rw [heq] at h
    cases h
  · rw [heq]
    simp [view, ht]

/-- Nothing but injected failures keeps a session without a transaction from starting one. -/
theorem start_of_free {s : Store} {id : SessionId} (hsupported : s.transactional = true)
    (hfree : s.inTransaction id = false) (hstarts : s.failingStarts = 0) :
    s.start id = (.ok (), s.setTransaction id (some ⟨s.version, s.collections⟩)) := by
  unfold start
  rw [hfree, hsupported, hstarts]
  rfl

theorem commit_of_current {s : Store} {id : SessionId} {snapshot : Snapshot}
    (ht : s.transaction? id = some snapshot) (hcommits : s.failingCommits = 0)
    (hversion : s.version = snapshot.base) : (s.commit id).1 = .ok () := by
  unfold commit
  rw [ht]
  simp [hcommits, hversion]

theorem view_of_transaction? {s : Store} {id : SessionId} {snapshot : Snapshot}
    (h : s.transaction? id = some snapshot) : s.view (some id) = snapshot.collections := by
  simp [view, h]

theorem view_of_free {s : Store} {session : Option SessionId} (h : s.Free session) :
    s.view session = s.collections := by
  simp [view, h.bind_transaction?]

/-! ## Where writes go -/

theorem write_inside {α : Type} {s : Store} {id : SessionId} {snapshot : Snapshot}
    (h : s.transaction? id = some snapshot) (f : Collections → Result α × Collections) :
    s.write (some id) f = ((f snapshot.collections).1,
      s.setTransaction id (some { snapshot with collections := (f snapshot.collections).2 })) := by
  simp [write, h]

theorem write_outside {α : Type} {s : Store} {session : Option SessionId}
    (h : session.bind s.transaction? = none) (f : Collections → Result α × Collections) :
    s.write session f = ((f s.collections).1, { s with
      collections := (f s.collections).2
      version := if (f s.collections).1.isOk then s.version + 1 else s.version }) := by
  have hnone : (session.bind fun id => (s.transaction? id).map (id, ·)) = none := by
    cases session with
    | none => rfl
    | some id => simpa using h
  unfold write
  rw [hnone]
  obtain ⟨result, cs⟩ := f s.collections
  cases result <;> rfl

/-- A write of indexes touches nothing else. -/
theorem writeIndexes_eq {α : Type} (s : Store) (f : Registry → Result (α × Registry)) :
    ∃ indexes, (s.writeIndexes f).2 = { s with indexes } := by
  unfold writeIndexes
  cases f s.indexes with
  | ok done => exact ⟨done.2, rfl⟩
  | error e => exact ⟨s.indexes, rfl⟩

end DocumentStore.Store
