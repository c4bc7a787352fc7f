import DocumentStore.Proofs.Store.Views

/-!
# Stores that show the same

What sessions see of a store are the committed documents and the private ones of transactions. Work
that only looks leaves these as they are, and with them all that decides whether a transaction can
be started and committed. Replacing the documents of a view has the same effect before such work and
after it, and in a transaction that is committed the same effect as without one.
-/
namespace DocumentStore.Store

variable {s s' s'' : Store} {id : SessionId} {session session' : Option SessionId}

/-! ## The same views -/

/-- Whether two stores have the same committed documents and the same transactions. -/
structure SameViews (s s' : Store) : Prop where
  collections : s'.collections = s.collections
  transactions : ∀ id, s'.transaction? id = s.transaction? id

namespace SameViews

theorem refl (s : Store) : SameViews s s := ⟨rfl, fun _ => rfl⟩

theorem trans (h : SameViews s s') (h' : SameViews s' s'') : SameViews s s'' :=
  ⟨h'.collections.trans h.collections,
    fun id => (h'.transactions id).trans (h.transactions id)⟩

theorem symm (h : SameViews s s') : SameViews s' s :=
  ⟨h.collections.symm, fun id => (h.transactions id).symm⟩

theorem bind_transaction? (h : SameViews s s') (session : Option SessionId) :
    session.bind s'.transaction? = session.bind s.transaction? := by
  cases session with
  | none => rfl
  | some id => exact h.transactions id

/-- Every session sees the same. -/
theorem view (h : SameViews s s') (session : Option SessionId) :
    s'.view session = s.view session :=
  view_congr (h.bind_transaction? session) h.collections

/-- A session without a transaction can be dropped again. -/
theorem dropSession (h : SameViews s s') (hfree : s.transaction? id = none) :
    SameViews s (s'.dropSession id) := by
  refine ⟨(dropSession_collections s' id).trans h.collections, fun other => ?_⟩
  rw [transaction?_dropSession, h.transactions]
  split
  · rename_i hother
    rw [hother, hfree]
  · rfl

end SameViews

/-- Whether a store was left, beside indexes and counters, as another is: with the same views, at
the same version, and with the same failures to come. Sessions may have been opened. -/
structure Unmoved (s s' : Store) : Prop extends SameViews s s' where
  version : s'.version = s.version
  transactional : s'.transactional = s.transactional
  failingStarts : s'.failingStarts = s.failingStarts
  failingCommits : s'.failingCommits = s.failingCommits
  isOpen : ∀ id, s.IsOpen id → s'.IsOpen id

namespace Unmoved

theorem refl (s : Store) : Unmoved s s := ⟨.refl s, rfl, rfl, rfl, rfl, fun _ => id⟩

theorem trans (h : Unmoved s s') (h' : Unmoved s' s'') : Unmoved s s'' :=
  ⟨h.toSameViews.trans h'.toSameViews, h'.version.trans h.version,
    h'.transactional.trans h.transactional, h'.failingStarts.trans h.failingStarts,
    h'.failingCommits.trans h.failingCommits, fun id hid => h'.isOpen id (h.isOpen id hid)⟩

theorem openSession (s : Store) : Unmoved s s.openSession.2 :=
  ⟨⟨rfl, transaction?_openSession s⟩, rfl, rfl, rfl, rfl,
    fun id hid => (isOpen_openSession_iff s id).mpr (.inl hid)⟩

theorem setTransaction (h : Unmoved s s') (hopen : s.IsOpen id) (t : Option Snapshot) :
    Unmoved (s.setTransaction id t) (s'.setTransaction id t) := by
  refine { h with transactions := fun other => ?_, isOpen := fun other hother => ?_ }
  · by_cases hother : other = id
    · subst hother
      rw [transaction?_setTransaction_self hopen,
        transaction?_setTransaction_self (h.isOpen other hopen)]
    · rw [transaction?_setTransaction_ne hother, transaction?_setTransaction_ne hother]
      exact h.transactions other
  · exact (setTransaction_isOpen s' id other t).mpr
      (h.isOpen other ((setTransaction_isOpen s id other t).mp hother))

end Unmoved

/-! ## Views that are replaced -/

/-- The store with other documents in the view of a session. -/
def rewritten (s : Store) (session : Option SessionId) (written : Collections) : Store :=
  (s.write session fun _ => (.ok (), written)).2

theorem rewritten_inside {snapshot : Snapshot} (h : s.transaction? id = some snapshot)
    (written : Collections) :
    s.rewritten (some id) written
      = s.setTransaction id (some { snapshot with collections := written }) := by
  unfold rewritten
  rw [write_inside h]

theorem rewritten_outside (h : session.bind s.transaction? = none) (written : Collections) :
    s.rewritten session written
      = { s with collections := written, version := s.version + 1 } := by
  unfold rewritten
  rw [write_outside h]
  rfl

/-- The session sees the documents that were put there. -/
theorem view_rewritten (s : Store) (session : Option SessionId) (written : Collections) :
    (s.rewritten session written).view session = written := by
  obtain ⟨id, snapshot, rfl, ht, -⟩ | ⟨hnone, -⟩ := s.view_cases session
  · rw [rewritten_inside ht]
    exact view_of_transaction? (transaction?_setTransaction_self (isOpen_of_transaction? ht) _)
  · rw [rewritten_outside hnone]
    exact view_of_none hnone

/-- A write that succeeds replaces the view that it works on. -/
theorem write_of_ok {α : Type} {f : Collections → Result α × Collections} {value : α}
    {written : Collections} (h : f (s.view session) = (.ok value, written)) :
    s.write session f = (.ok value, s.rewritten session written) := by
  obtain ⟨id, snapshot, rfl, ht, hview⟩ | ⟨hnone, hview⟩ := s.view_cases session
  · rw [write_inside ht, rewritten_inside ht, ← hview, h]
  · rw [write_outside hnone, rewritten_outside hnone, ← hview, h]
    rfl

/-! ### Writes that leave everything as it is when they fail -/

section AllOrNothing

variable {α : Type} {work : Collections → Result α × Collections}
  (hwork : Collections.AllOrNothing work)
include hwork

/-- Such a write replaces the view that it works on, or fails without a trace. -/
theorem write_of_allOrNothing (s : Store) (session : Option SessionId) :
    s.write session work = match work (s.view session) with
      | (.ok value, written) => (.ok value, s.rewritten session written)
      | (.error e, _) => (.error e, s) := by
  cases hdone : work (s.view session) with
  | mk result written =>
    cases result with
    | ok value => exact write_of_ok hdone
    | error e =>
      have hkept : written = s.view session := by
        have hleft := hwork (s.view session) e (by rw [hdone])
        rwa [hdone] at hleft
      obtain ⟨id, snapshot, rfl, ht, hview⟩ | ⟨hnone, hview⟩ := s.view_cases session
      · have hsame : s.setTransaction id (some snapshot) = s := by
          rw [← ht, setTransaction_transaction?]
        rw [write_inside ht, ← hview, hdone, hkept, hview, hsame]
      · rw [write_outside hnone, ← hview, hdone, hkept, hview]
        rfl

theorem write_of_allOrNothing_of_error {e : ServiceError}
    (h : (s.write session work).1 = .error e) : (s.write session work).2 = s := by
  rw [write_of_allOrNothing hwork] at h ⊢
  cases hdone : work (s.view session) with
  | mk result written =>
    cases result with
    | error e' => rfl
    | ok value => simp [hdone] at h

theorem write_of_allOrNothing_of_ok {value : α} (h : (s.write session work).1 = .ok value) :
    work (s.view session) = (.ok value, (s.write session work).2.view session) := by
  rw [write_of_allOrNothing hwork] at h ⊢
  cases hdone : work (s.view session) with
  | mk result written =>
    cases result with
    | error e => simp [hdone] at h
    | ok value' =>
      have hvalue : value' = value := by simpa [hdone] using h
      rw [view_rewritten, ← hvalue]

end AllOrNothing

/-- Replacing a view by itself shows the same. -/
theorem SameViews.rewritten (s : Store) (session : Option SessionId) :
    SameViews s (s.rewritten session (s.view session)) := by
  obtain ⟨id, snapshot, rfl, ht, hview⟩ | ⟨hnone, hview⟩ := s.view_cases session
  · rw [rewritten_inside ht, hview, ← ht, setTransaction_transaction?]
    exact .refl s
  · rw [rewritten_outside hnone, hview]
    exact ⟨rfl, fun _ => rfl⟩

/-- Of two replacements one after the other the last one shows. -/
theorem SameViews.rewritten_rewritten (s : Store) (session : Option SessionId)
    (before written : Collections) :
    SameViews (s.rewritten session written)
      ((s.rewritten session before).rewritten session written) := by
  obtain ⟨id, snapshot, rfl, ht, -⟩ | ⟨hnone, -⟩ := s.view_cases session
  · have ht' := transaction?_setTransaction_self (isOpen_of_transaction? ht)
      (some { snapshot with collections := before })
    rw [rewritten_inside ht, rewritten_inside ht, rewritten_inside ht',
      setTransaction_setTransaction]
    exact .refl _
  · rw [Store.rewritten_outside hnone, Store.rewritten_outside hnone,
      Store.rewritten_outside (by exact hnone)]
    exact ⟨rfl, fun _ => rfl⟩

/-- Outside of transactions it does not matter on which session the documents are replaced. -/
theorem Unmoved.rewritten_outside (h : Unmoved s s') (hnone : session.bind s.transaction? = none)
    (hnone' : session'.bind s'.transaction? = none) (written : Collections) :
    Unmoved (s.rewritten session written) (s'.rewritten session' written) := by
  rw [Store.rewritten_outside hnone, Store.rewritten_outside hnone']
  exact ⟨⟨rfl, h.transactions⟩, congrArg (· + 1) h.version, h.transactional, h.failingStarts,
    h.failingCommits, h.isOpen⟩

theorem Unmoved.rewritten (h : Unmoved s s') (session : Option SessionId) (written : Collections) :
    Unmoved (s.rewritten session written) (s'.rewritten session written) := by
  obtain ⟨id, snapshot, rfl, ht, -⟩ | ⟨hnone, -⟩ := s.view_cases session
  · rw [rewritten_inside ht, rewritten_inside ((h.transactions id).trans ht)]
    exact h.setTransaction (isOpen_of_transaction? ht) _
  · exact h.rewritten_outside hnone ((h.bind_transaction? session).trans hnone) written

/-- A write on a session of its own, which is dropped afterwards, is a write without one. -/
theorem write_openSession {α : Type} {work : Collections → Result α × Collections}
    (hwork : Collections.AllOrNothing work) (s : Store) :
    let (id, opened) := s.openSession
    (opened.write (some id) work).1 = (s.write none work).1 ∧
    ∀ s', SameViews (opened.write (some id) work).2 s' →
      SameViews (s.write none work).2 (s'.dropSession id) := by
  have hopened := Unmoved.openSession s
  have hfree := s.free_openSession.bind_transaction?
  have hview : s.openSession.2.view (some s.openSession.1) = s.view none := view_of_none hfree
  have hnone : s.transaction? s.openSession.1 = none :=
    transaction?_of_not_isOpen s.not_isOpen_openSession
  simp only [write_of_allOrNothing hwork, hview]
  cases work (s.view none) with
  | mk result written =>
    cases result with
    | error e => exact ⟨rfl, fun s' h => (hopened.toSameViews.trans h).dropSession hnone⟩
    | ok value =>
      refine ⟨rfl, fun s' h => ?_⟩
      have hsame : SameViews (s.rewritten none written)
          (s.openSession.2.rewritten (some s.openSession.1) written) :=
        (hopened.rewritten_outside rfl hfree written).toSameViews
      refine (hsame.trans h).dropSession ?_
      rw [rewritten_outside rfl]
      exact hnone

/-- Replacing the documents in a transaction of their own and committing it is replacing them. -/
theorem commit_of_rewritten (hfree : s.Free (some id)) (hcommits : s.failingCommits = 0)
    {written : Collections}
    (h : Unmoved ((s.setTransaction id (some ⟨s.version, s.collections⟩)).rewritten (some id)
      written) s') :
    (s'.commit id).1 = .ok () ∧ Unmoved (s.rewritten (some id) written) (s'.commit id).2 := by
  obtain ⟨hopen, hnone⟩ := hfree id rfl
  have hstarted := transaction?_setTransaction_self hopen (some ⟨s.version, s.collections⟩)
  rw [rewritten_inside hstarted, setTransaction_setTransaction] at h
  have ht : s'.transaction? id = some ⟨s.version, written⟩ :=
    (h.transactions id).trans (transaction?_setTransaction_self hopen _)
  have hversion : s'.version = s.version := h.version
  have hcommits' : s'.failingCommits = 0 := h.failingCommits.trans hcommits
  -- nothing was committed since the start, so the snapshot is current
  have hcommit : s'.commit id = (.ok (), { s'.setTransaction id none with
      collections := written
      version := s'.version + 1
      committed := s'.committed + 1 }) := by
    simp [commit, ht, hcommits', hversion]
  rw [hcommit, Store.rewritten_outside hfree.bind_transaction?]
  refine ⟨rfl, ⟨⟨rfl, fun other => ?_⟩, congrArg (· + 1) hversion, h.transactional, h.failingStarts,
    h.failingCommits, fun other hother => ?_⟩⟩
  · change (s'.setTransaction id none).transaction? other = s.transaction? other
    rw [transaction?_setTransaction_none]
    split
    · rename_i hother
      rw [hother, inTransaction_eq_false.mp hnone]
    · rename_i hother
      rw [h.transactions, transaction?_setTransaction_ne hother]
  · exact (setTransaction_isOpen s' id other none).mpr
      (h.isOpen other ((setTransaction_isOpen s id other _).mpr hother))

end DocumentStore.Store
