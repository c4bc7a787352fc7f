import DocumentStore.Proofs.Store.Run

/-!
# Views of a store

What a call on a session works on is its view: the private documents of its transaction, or the
committed ones. A call changes the view that it works on and no other. Everything else that can
happen to a store moves views about, from one session to another or to the committed documents,
but brings no new one into being.
-/
namespace DocumentStore.Store

variable {s s' : Store} {session : Option SessionId}

/-- A view is private if there is a transaction, and otherwise that of the committed documents. -/
theorem view_cases (s : Store) (session : Option SessionId) :
    (∃ id snapshot, session = some id ∧ s.transaction? id = some snapshot ∧
      s.view session = snapshot.collections) ∨
    session.bind s.transaction? = none ∧ s.view session = s.collections := by
  cases hbind : session.bind s.transaction? with
  | none => exact .inr ⟨rfl, by simp [view, hbind]⟩
  | some snapshot =>
    obtain ⟨id, rfl, ht⟩ := Option.bind_eq_some_iff.mp hbind
    exact .inl ⟨id, snapshot, rfl, ht, view_of_transaction? ht⟩

/-- A session sees the same as long as its transaction and the committed documents stay. -/
theorem view_congr (ht : session.bind s'.transaction? = session.bind s.transaction?)
    (hcollections : s'.collections = s.collections) : s'.view session = s.view session := by
  unfold view
  rw [ht, hcollections]

theorem view_of_none (h : session.bind s.transaction? = none) : s.view session = s.collections := by
  unfold view
  rw [h]

/-! ## Calls -/

section Calls

variable [Pattern.Engine] (fresh : Nat → ObjectId) (call : Call)

/-- A call leaves to its session what it makes of its view. -/
theorem view_answer_self :
    (s.answer session fresh call).2.view session = call.perform fresh (s.view session) := by
  obtain ⟨id, snapshot, rfl, ht, hview⟩ | ⟨hnone, hview⟩ := s.view_cases session
  · obtain ⟨indexes, heq⟩ := answer_inside ht fresh call
    have hself := transaction?_setTransaction_self (isOpen_of_transaction? ht)
      (some { snapshot with collections := call.perform fresh snapshot.collections })
    rw [heq, hview]
    exact view_of_transaction? hself
  · obtain ⟨⟨indexes, version, heq⟩, -⟩ := answer_outside hnone fresh call
    rw [heq, hview]
    exact view_of_none hnone

/-- It is seen by the sessions that see the same as its own, and by no other. -/
theorem view_answer_cases (other : Option SessionId) :
    (s.answer session fresh call).2.view other = call.perform fresh (s.view session) ∧
        s.view other = s.view session ∨
      (s.answer session fresh call).2.view other = s.view other := by
  obtain ⟨id, snapshot, rfl, ht, -⟩ | ⟨hnone, hview⟩ := s.view_cases session
  · by_cases hother : other = some id
    · subst hother
      exact .inl ⟨view_answer_self fresh call, rfl⟩
    · obtain ⟨indexes, heq⟩ := answer_inside ht fresh call
      rw [heq]
      refine .inr (view_congr ?_ rfl)
      cases other with
      | none => rfl
      | some other =>
        exact transaction?_setTransaction_ne (fun hid => hother (congrArg some hid)) _
  · obtain ⟨⟨indexes, version, heq⟩, -⟩ := answer_outside hnone fresh call
    rw [heq, hview]
    -- transactions are left alone, so only who sees the committed documents sees others now
    obtain ⟨id, snapshot, rfl, ht, hprivate⟩ | ⟨hnone', hview'⟩ := s.view_cases other
    · rw [hprivate]
      exact .inr (view_of_transaction? ht)
    · exact .inl ⟨view_of_none hnone', hview'⟩

/-- Any other session sees the same as that one, or nothing has changed for it. -/
theorem view_answer_other (other : Option SessionId) :
    (s.answer session fresh call).2.view other = call.perform fresh (s.view session) ∨
      (s.answer session fresh call).2.view other = s.view other :=
  (view_answer_cases fresh call other).imp_left And.left

/-- No session is opened or dropped by a call. -/
theorem isOpen_answer (id : SessionId) :
    (s.answer session fresh call).2.IsOpen id ↔ s.IsOpen id := by
  obtain ⟨other, snapshot, rfl, ht, -⟩ | ⟨hnone, -⟩ := s.view_cases session
  · obtain ⟨indexes, heq⟩ := answer_inside ht fresh call
    rw [heq]
    exact setTransaction_isOpen s other id _
  · obtain ⟨⟨indexes, version, heq⟩, -⟩ := answer_outside hnone fresh call
    rw [heq]
    rfl

/-- Nor does a call start or end a transaction. -/
theorem inTransaction_answer (id : SessionId) :
    (s.answer session fresh call).2.inTransaction id = s.inTransaction id := by
  obtain ⟨other, snapshot, rfl, ht, -⟩ | ⟨hnone, -⟩ := s.view_cases session
  · obtain ⟨indexes, heq⟩ := answer_inside ht fresh call
    rw [heq]
    unfold inTransaction
    by_cases hid : id = other
    · subst hid
      have hself := transaction?_setTransaction_self (isOpen_of_transaction? ht)
        (some { snapshot with collections := call.perform fresh snapshot.collections })
      exact (congrArg Option.isSome hself).trans (congrArg Option.isSome ht).symm
    · exact congrArg Option.isSome (transaction?_setTransaction_ne hid _)
  · obtain ⟨⟨indexes, version, heq⟩, -⟩ := answer_outside hnone fresh call
    rw [heq]
    rfl

theorem transactional_answer :
    (s.answer session fresh call).2.transactional = s.transactional := by
  obtain ⟨other, snapshot, rfl, ht, -⟩ | ⟨hnone, -⟩ := s.view_cases session
  · obtain ⟨indexes, heq⟩ := answer_inside ht fresh call
    rw [heq]
    rfl
  · obtain ⟨⟨indexes, version, heq⟩, -⟩ := answer_outside hnone fresh call
    rw [heq]

end Calls

/-! ## Everything else -/

/-- Whether all that can be seen of a store could be seen of another. -/
def Shows (s s' : Store) : Prop := ∀ session, ∃ other, s'.view session = s.view other

namespace Shows

/-- Where the committed documents and those of every transaction could be seen, all could. -/
theorem of_transactions (hcommitted : ∃ other, s'.collections = s.view other)
    (hprivate : ∀ id snapshot, s'.transaction? id = some snapshot →
      ∃ other, snapshot.collections = s.view other) : Shows s s' := by
  intro session
  obtain ⟨id, snapshot, -, ht, hview⟩ | ⟨-, hview⟩ := s'.view_cases session
  · rw [hview]
    exact hprivate id snapshot ht
  · rw [hview]
    exact hcommitted

/-- A transaction that is still there shows what it has shown. -/
theorem of_kept {id : SessionId} {snapshot : Snapshot} (h : s.transaction? id = some snapshot) :
    ∃ other, snapshot.collections = s.view other :=
  ⟨some id, (view_of_transaction? h).symm⟩

theorem refl (s : Store) : Shows s s := fun session => ⟨session, rfl⟩

theorem abort (s : Store) (id : SessionId) : Shows s (s.abort id) := by
  refine .of_transactions ⟨none, abort_collections s id⟩ ?_
  intro other snapshot ht
  rw [transaction?_abort] at ht
  split at ht
  · cases ht
  · exact of_kept ht

theorem openSession (s : Store) : Shows s s.openSession.2 := by
  refine .of_transactions ⟨none, rfl⟩ ?_
  intro other snapshot ht
  rw [transaction?_openSession] at ht
  exact of_kept ht

theorem dropSession (s : Store) (id : SessionId) : Shows s (s.dropSession id) := by
  refine .of_transactions ⟨none, dropSession_collections s id⟩ ?_
  intro other snapshot ht
  rw [transaction?_dropSession] at ht
  split at ht
  · cases ht
  · exact of_kept ht

/-- A transaction starts with the committed documents. -/
theorem start (s : Store) (id : SessionId) : Shows s (s.start id).2 := by
  obtain ⟨e, failingStarts, heq⟩ | ⟨-, -, heq⟩ := s.start_cases id
  · rw [heq]
    exact .refl s
  · rw [heq]
    refine .of_transactions ⟨none, rfl⟩ ?_
    intro other snapshot ht
    by_cases hother : other = id
    · subst hother
      have hopen := (setTransaction_isOpen s other other _).mp (isOpen_of_transaction? ht)
      rw [transaction?_setTransaction_self hopen] at ht
      cases ht
      exact ⟨none, rfl⟩
    · rw [transaction?_setTransaction_ne hother] at ht
      exact of_kept ht

/-- A commit publishes what its session has seen, or nothing. -/
theorem commit (s : Store) (id : SessionId) : Shows s (s.commit id).2 := by
  obtain ⟨e, -, heq⟩ | ⟨e, failingCommits, heq⟩ | ⟨snapshot, ht, -, heq⟩ := s.commit_cases id
  · rw [heq]
    exact .refl s
  · rw [heq]
    exact abort s id
  · rw [heq]
    refine .of_transactions (of_kept ht) ?_
    intro other snapshot ht
    have hleft : (s.setTransaction id none).transaction? other = some snapshot := ht
    rw [transaction?_setTransaction_none] at hleft
    split at hleft
    · cases hleft
    · exact of_kept hleft

/-- No event but a call brings a new view into being. -/
theorem step (s : Store) {event : Event} (h : ∀ session issued, event ≠ .call session issued) :
    Shows s (s.step event) := by
  cases event with
  | openSession => exact openSession s
  | dropSession id => exact dropSession s id
  | start id => exact start s id
  | commit id => exact commit s id
  | abort id => exact abort s id
  | failStarts count => exact .refl s
  | failCommits count => exact .refl s
  | call session issued => exact absurd rfl (h session issued)

end Shows

/-! ## Runs -/

/-- What holds of all views of a store holds of them after an event if a call keeps it. -/
theorem holds_of_step {P : Collections → Prop} {event : Event} (h : ∀ session, P (s.view session))
    (hcall : ∀ session issued, event = .call session issued →
      ∀ cs, P cs → P (issued.call.perform issued.fresh cs))
    (session : Option SessionId) : P ((s.step event).view session) := by
  by_cases hevent : ∃ own issued, event = .call own issued
  · obtain ⟨own, issued, rfl⟩ := hevent
    obtain hperformed | hkept := view_answer_other issued.fresh issued.call session
    · exact hperformed ▸ hcall own issued rfl _ (h own)
    · exact hkept ▸ h session
  · obtain ⟨other, hother⟩ :=
      Shows.step s (fun own issued hown => hevent ⟨own, issued, hown⟩) session
    exact hother ▸ h other

/-- It holds of them after a run if all calls of the run keep it. -/
theorem holds_of_run {P : Collections → Prop} {events : List Event}
    (h : ∀ session, P (s.view session))
    (hcalls : ∀ session issued, .call session issued ∈ events →
      ∀ cs, P cs → P (issued.call.perform issued.fresh cs)) :
    ∀ session, P ((s.run events).view session) := by
  induction events generalizing s with
  | nil => exact h
  | cons event rest ih =>
    have hstep := holds_of_step h fun own issued hown =>
      hcalls own issued (hown ▸ List.mem_cons_self)
    exact ih hstep fun own issued hlater => hcalls own issued (List.mem_cons_of_mem _ hlater)

end DocumentStore.Store
