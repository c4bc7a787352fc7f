import DocumentStore.Proofs.Store.History

/-!
# Isolation

A transaction does not see what is done outside of it, and is not seen there until it is
committed. Both are statements about two runs: answers to calls on documents stay what they are
when steps of others, or the calls of the transaction, are removed from the run.

Inside, an answer depends on the private documents, and these on the steps of the session alone.
Outside, the two runs go through stores that differ in the private documents of the transaction
and in the indexes, which no answer to a call on documents shows.
-/
namespace DocumentStore.Store

variable {s s' s'' : Store} {id other : SessionId} {session : Option SessionId} {event : Event}

/-! ## Replies -/

abbrev Reply := (call : Call) × Result call.Answer

/-- The reply that an event gets, if it is a call on documents of a session that is asked about. -/
def Event.replies (asked : Option SessionId → Bool) (s : Store) : Event → List Reply
  | .call session issued =>
    if asked session && issued.call.isOnDocuments then
      [⟨issued.call, (s.answer session issued.fresh issued.call).1⟩]
    else []
  | _ => []

/-- The replies to the calls on documents in a run. -/
def replies (asked : Option SessionId → Bool) : Store → List Event → List Reply
  | _, [] => []
  | s, event :: rest => event.replies asked s ++ replies asked (s.step event) rest

theorem Event.replies_congr {asked : Option SessionId → Bool}
    (hview : ∀ session, asked session = true → s'.view session = s.view session) :
    event.replies asked s' = event.replies asked s := by
  cases event with
  | call session issued =>
    simp only [Event.replies]
    split
    · rename_i hasked
      obtain ⟨hasked, hcall⟩ := Bool.and_eq_true_iff.mp hasked
      rw [answer_fst_congr hcall (hview session hasked)]
    · rfl
  | _ => rfl

/-! ## Parts of a run -/

/-- The events of a run until the transaction that is open on a session ends. -/
def whileOpen (id : SessionId) (events : List Event) : List Event :=
  events.takeWhile fun event => !event.ends id

/-- The events of a run until the transaction that is open on a session is committed. One that
ends without being committed leaves the run as it is. -/
def untilCommit (id : SessionId) : Store → List Event → List Event
  | _, [] => []
  | s, event :: rest =>
    if event.ends id then if event.publishes s then [] else event :: rest
    else event :: untilCommit id (s.step event) rest

/-- Whether an event is a call on a session, and one of those to be removed. -/
def Event.isCallOf (id : SessionId) (removed : Call → Bool) : Event → Bool
  | .call session issued => session == some id && removed issued.call
  | _ => false

theorem Event.eq_call_of_isCallOf {removed : Call → Bool}
    (h : event.isCallOf id removed = true) : ∃ issued, event = .call (some id) issued := by
  cases event with
  | call session issued =>
    obtain ⟨hsession, -⟩ := Bool.and_eq_true_iff.mp h
    exact ⟨issued, congrArg (Event.call · issued) (by simpa using hsession)⟩
  | _ => cases h

/-- A run without some of the calls that are made on the transaction that is open on a session. -/
def withoutCalls (id : SessionId) (removed : Call → Bool) : List Event → List Event
  | [] => []
  | event :: rest =>
    if event.ends id then event :: rest
    else if event.isCallOf id removed then withoutCalls id removed rest
    else event :: withoutCalls id removed rest

/-! ## Inside of a transaction -/

theorem view_congr_inside (hopen : s.inTransaction id = true)
    (hsame : s'.transaction? id = s.transaction? id) : s'.view (some id) = s.view (some id) := by
  obtain ⟨snapshot, ht⟩ := inTransaction_eq_true.mp hopen
  rw [view_of_transaction? ht, view_of_transaction? (hsame.trans ht)]

theorem Event.session?_of_ends (h : event.ends id = true) : event.session? = some id := by
  obtain rfl | rfl | rfl := Event.ends_eq_true.mp h <;> rfl

/-- An event of others gets no reply on a session. -/
theorem Event.replies_of_other (h : event.session? ≠ some id) :
    event.replies (· == some id) s = [] := by
  cases event with
  | call session issued =>
    have hne : (session == some id) = false := by simpa [Event.session?] using h
    simp [Event.replies, hne]
  | _ => rfl

/-- In runs with the same steps of a session its transaction gets the same replies. The steps of
others are kept or removed as one likes. -/
theorem replies_inside (hopen : s.inTransaction id = true)
    (hsame : s'.transaction? id = s.transaction? id) {kept : Event → Bool}
    (hkept : ∀ event, event.session? = some id → kept event = true) (events : List Event) :
    replies (· == some id) s' (whileOpen id (events.filter kept))
      = replies (· == some id) s (whileOpen id events) := by
  induction events generalizing s s' with
  | nil => rfl
  | cons event rest ih =>
    by_cases hown : event.session? = some id
    · rw [List.filter_cons_of_pos (hkept event hown)]
      cases hends : event.ends id with
      | true => simp [whileOpen, hends, replies]
      | false =>
        obtain ⟨snapshot, ht⟩ := inTransaction_eq_true.mp hopen
        obtain ⟨collections, hafter⟩ := transaction?_step_of_lasts ht hends
        have hrest := ih (inTransaction_eq_true.mpr ⟨_, hafter⟩)
          (transaction?_step_congr hopen hsame hown)
        have hreply : event.replies (· == some id) s' = event.replies (· == some id) s := by
          refine Event.replies_congr fun session hsession => ?_
          rw [show session = some id by simpa using hsession]
          exact view_congr_inside hopen hsame
        simp only [whileOpen] at hrest
        simp only [whileOpen, List.takeWhile_cons, hends, Bool.not_false, if_true, replies,
          hreply, hrest]
    · -- a step of others neither ends the transaction nor changes what it sees
      have hends : event.ends id = false := by
        cases hends : event.ends id with
        | false => rfl
        | true => exact absurd (Event.session?_of_ends hends) hown
      have hstep := transaction?_step_of_other (s := s) hown
      have hopen' : (s.step event).inTransaction id = true := by
        simpa [inTransaction, hstep] using hopen
      have hfull : replies (· == some id) s (whileOpen id (event :: rest))
          = replies (· == some id) (s.step event) (whileOpen id rest) := by
        simp [whileOpen, hends, replies, Event.replies_of_other hown]
      rw [hfull]
      cases hevent : kept event with
      | false =>
        rw [List.filter_cons_of_neg (by simp [hevent])]
        exact ih hopen' (hsame.trans hstep.symm)
      | true =>
        have hstep' := transaction?_step_of_other (s := s') hown
        have hrest := ih hopen' (hstep'.trans (hsame.trans hstep.symm))
        rw [List.filter_cons_of_pos hevent, ← hrest]
        simp [whileOpen, hends, replies, Event.replies_of_other hown]

/-! ## Stores that look alike -/

/-- Whether two stores look alike from the sessions that are seen: they may differ in the indexes
and in the private documents of the other sessions. -/
structure Alike (seen : SessionId → Prop) (s s' : Store) : Prop where
  collections : s'.collections = s.collections
  version : s'.version = s.version
  transactional : s'.transactional = s.transactional
  failingStarts : s'.failingStarts = s.failingStarts
  failingCommits : s'.failingCommits = s.failingCommits
  opened : s'.opened = s.opened
  isOpen : ∀ id, s'.IsOpen id ↔ s.IsOpen id
  transactions : ∀ id, seen id → s'.transaction? id = s.transaction? id
  bases : ∀ id, (s'.transaction? id).map (·.base) = (s.transaction? id).map (·.base)

namespace Alike

variable {seen : SessionId → Prop}

theorem refl (s : Store) : Alike seen s s :=
  ⟨rfl, rfl, rfl, rfl, rfl, rfl, fun _ => .rfl, fun _ _ => rfl, fun _ => rfl⟩

theorem symm (h : Alike seen s s') : Alike seen s' s :=
  ⟨h.collections.symm, h.version.symm, h.transactional.symm, h.failingStarts.symm,
    h.failingCommits.symm, h.opened.symm, fun id => (h.isOpen id).symm,
    fun id hid => (h.transactions id hid).symm, fun id => (h.bases id).symm⟩

theorem trans (h : Alike seen s s') (h' : Alike seen s' s'') : Alike seen s s'' :=
  ⟨h'.collections.trans h.collections, h'.version.trans h.version,
    h'.transactional.trans h.transactional, h'.failingStarts.trans h.failingStarts,
    h'.failingCommits.trans h.failingCommits, h'.opened.trans h.opened,
    fun id => (h'.isOpen id).trans (h.isOpen id),
    fun id hid => (h'.transactions id hid).trans (h.transactions id hid),
    fun id => (h'.bases id).trans (h.bases id)⟩

theorem inTransaction (h : Alike seen s s') (id : SessionId) :
    s'.inTransaction id = s.inTransaction id := by
  have hsome := congrArg Option.isSome (h.bases id)
  simpa [Store.inTransaction] using hsome

theorem transaction?_eq_none (h : Alike seen s s') (hnone : s.transaction? id = none) :
    s'.transaction? id = none := by
  have hin := h.inTransaction id
  rw [inTransaction_eq_false.mpr hnone] at hin
  exact inTransaction_eq_false.mp hin

theorem bind_transaction? (h : Alike seen s s') (hnone : session.bind s.transaction? = none) :
    session.bind s'.transaction? = none := by
  cases session with
  | none => rfl
  | some id => exact h.transaction?_eq_none hnone

/-- Sessions that are seen, and calls without a session, see the same documents. -/
theorem view (h : Alike seen s s') (hseen : ∀ id ∈ session, seen id) :
    s'.view session = s.view session := by
  refine view_congr ?_ h.collections
  cases session with
  | none => rfl
  | some id => exact h.transactions id (hseen id rfl)

/-- Where a hidden session holds no transaction there is nothing to hide. -/
theorem of_closed (h : Alike (· ≠ id) s s') (hnone : s.transaction? id = none) :
    Alike (fun _ => True) s s' := by
  refine { h with transactions := fun other _ => ?_ }
  by_cases hother : other = id
  · subst hother
    rw [hnone, h.transaction?_eq_none hnone]
  · exact h.transactions other hother

/-! ## Events that keep stores alike -/

theorem setTransaction (h : Alike seen s s') (id : SessionId) (t t' : Option Snapshot)
    (hbase : t'.map (·.base) = t.map (·.base)) (hseen : seen id → t' = t) :
    Alike seen (s.setTransaction id t) (s'.setTransaction id t') := by
  have hself (hopen : s.IsOpen id) := transaction?_setTransaction_self hopen t
  have hself' (hopen : s.IsOpen id) :=
    transaction?_setTransaction_self ((h.isOpen id).mpr hopen) t'
  -- on a session that is not open nothing can be put
  have hclosed (hopen : ¬ s.IsOpen id) : (s.setTransaction id t).transaction? id = none :=
    transaction?_of_not_isOpen (by simpa using hopen)
  have hclosed' (hopen : ¬ s.IsOpen id) : (s'.setTransaction id t').transaction? id = none :=
    transaction?_of_not_isOpen (by simpa [h.isOpen] using hopen)
  refine { h with isOpen := fun other => ?_, transactions := fun other hother => ?_,
                  bases := fun other => ?_ }
  · rw [setTransaction_isOpen, setTransaction_isOpen, h.isOpen]
  · by_cases hid : other = id
    · subst hid
      by_cases hopen : s.IsOpen other
      · rw [hself hopen, hself' hopen, hseen hother]
      · rw [hclosed hopen, hclosed' hopen]
    · rw [transaction?_setTransaction_ne hid, transaction?_setTransaction_ne hid,
        h.transactions other hother]
  · by_cases hid : other = id
    · subst hid
      by_cases hopen : s.IsOpen other
      · rw [hself hopen, hself' hopen, hbase]
      · rw [hclosed hopen, hclosed' hopen]
    · rw [transaction?_setTransaction_ne hid, transaction?_setTransaction_ne hid, h.bases other]

theorem abort (h : Alike seen s s') (id : SessionId) : Alike seen (s.abort id) (s'.abort id) := by
  unfold Store.abort
  rw [h.inTransaction id]
  split
  · exact { h.setTransaction id none none rfl fun _ => rfl with }
  · exact h

theorem openSession (h : Alike seen s s') : Alike seen s.openSession.2 s'.openSession.2 := by
  refine { h with opened := congrArg (· + 1) h.opened, isOpen := fun id => ?_,
                  transactions := fun id hid => ?_, bases := fun id => ?_ }
  · have hopen := h.isOpen id
    simp only [IsOpen, Store.openSession, List.map_append, List.mem_append, h.opened] at hopen ⊢
    rw [hopen]
  · rw [transaction?_openSession, transaction?_openSession, h.transactions id hid]
  · rw [transaction?_openSession, transaction?_openSession, h.bases id]

theorem dropSession (h : Alike seen s s') (id : SessionId) :
    Alike seen (s.dropSession id) (s'.dropSession id) := by
  refine { h.abort id with isOpen := fun other => ?_, transactions := fun other hother => ?_,
                           bases := fun other => ?_ }
  · have hopen := (h.abort id).isOpen other
    have hkept (s : Store) : (s.dropSession id).IsOpen other
        ↔ (s.abort id).IsOpen other ∧ other ≠ id := by
      simp only [IsOpen, Store.dropSession, List.mem_map, List.mem_filter]
      grind
    rw [hkept, hkept, hopen]
  · rw [transaction?_dropSession, transaction?_dropSession, h.transactions other hother]
  · rw [transaction?_dropSession, transaction?_dropSession]
    split
    · rfl
    · exact h.bases other

theorem start (h : Alike seen s s') (id : SessionId) :
    Alike seen (s.start id).2 (s'.start id).2 := by
  unfold Store.start
  rw [h.inTransaction id, h.transactional, h.failingStarts, h.version, h.collections]
  split
  · exact h
  · split
    · exact h
    · split
      · exact { h with collections := rfl, version := rfl, transactional := rfl,
                       failingStarts := rfl }
      · exact h.setTransaction id _ _ rfl fun _ => rfl

/-- A commit needs the private documents only if it succeeds. -/
theorem commit (h : Alike seen s s') (hid : seen id ∨ (s.commit id).1 ≠ .ok ()) :
    Alike seen (s.commit id).2 (s'.commit id).2 := by
  cases ht : s.transaction? id with
  | none =>
    have ht' := h.transaction?_eq_none ht
    simpa [Store.commit, ht, ht'] using h
  | some snapshot =>
    have hbase := h.bases id
    rw [ht] at hbase
    obtain ⟨snapshot', ht', hbase⟩ := Option.map_eq_some_iff.mp hbase
    unfold Store.commit at hid ⊢
    simp only [ht, ht', h.failingCommits, h.version, hbase] at hid ⊢
    split
    · exact { h.abort id with failingCommits := rfl }
    · rename_i hpending
      split
      · exact h.abort id
      · rename_i hversion
        have hseen : seen id := by
          rcases hid with hid | hid
          · exact hid
          · simp [hpending, hversion] at hid
        have hsnapshot : snapshot' = snapshot :=
          Option.some.inj (ht'.symm.trans ((h.transactions id hseen).trans ht))
        subst hsnapshot
        exact { h.setTransaction id none none rfl fun _ => rfl with
          collections := rfl, version := rfl }

/-- A call on a hidden transaction is not seen. -/
theorem answer_hidden (hid : ¬ seen id) (hopen : s.inTransaction id = true)
    (fresh : Nat → ObjectId) (call : Call) : Alike seen s (s.answer (some id) fresh call).2 := by
  obtain ⟨snapshot, ht⟩ := inTransaction_eq_true.mp hopen
  obtain ⟨indexes, heq⟩ := answer_inside ht fresh call
  have hset := (refl s : Alike seen s s).setTransaction id (some snapshot)
    (some { snapshot with collections := call.perform fresh snapshot.collections }) rfl
    fun hseen => absurd hseen hid
  rw [← ht, setTransaction_transaction?] at hset
  rw [heq]
  exact { hset with }

theorem answer (h : Alike seen s s') (session : Option SessionId) (fresh : Nat → ObjectId)
    (call : Call) :
    Alike seen (s.answer session fresh call).2 (s'.answer session fresh call).2 := by
  cases hbind : session.bind s.transaction? with
  | none =>
    have hbind' := h.bind_transaction? hbind
    have hview : s'.view session = s.view session := by
      rw [view_of_none hbind, view_of_none hbind', h.collections]
    -- the versions move on together, since the answers are the same
    have hversion : (s'.answer session fresh call).2.version
        = (s.answer session fresh call).2.version := by
      rw [version_answer_of_none hbind, version_answer_of_none hbind', h.version]
      cases hcall : call.isOnDocuments with
      | true => rw [answer_fst_congr hcall hview]
      | false =>
        have hwrite : call.isWrite = false := by
          cases call <;> first | rfl | cases hcall
        simp [hwrite]
    obtain ⟨⟨indexes, version, heq⟩, -⟩ := answer_outside hbind fresh call
    obtain ⟨⟨indexes', version', heq'⟩, -⟩ := answer_outside hbind' fresh call
    rw [heq, heq'] at hversion ⊢
    exact { h with collections := by rw [h.collections], version := hversion }
  | some snapshot =>
    obtain ⟨id, rfl, ht⟩ := Option.bind_eq_some_iff.mp hbind
    by_cases hid : seen id
    · have ht' := (h.transactions id hid).trans ht
      obtain ⟨indexes, heq⟩ := answer_inside ht fresh call
      obtain ⟨indexes', heq'⟩ := answer_inside ht' fresh call
      rw [heq, heq']
      exact { h.setTransaction id _ _ rfl fun _ => rfl with }
    · have hopen := inTransaction_eq_true.mpr ⟨snapshot, ht⟩
      have hopen' := (h.inTransaction id).trans hopen
      exact ((answer_hidden hid hopen fresh call).symm.trans h).trans
        (answer_hidden hid hopen' fresh call)

/-- Events keep stores alike, unless a hidden transaction is committed. -/
theorem step (h : Alike seen s s') (event : Event)
    (hevent : ∀ id, event = .commit id → seen id ∨ event.publishes s = false) :
    Alike seen (s.step event) (s'.step event) := by
  cases event with
  | openSession => exact h.openSession
  | dropSession id => exact h.dropSession id
  | start id => exact h.start id
  | commit id =>
    refine h.commit ((hevent id rfl).imp_right fun hpublishes hok => ?_)
    simp [Event.publishes, hok, Except.isOk, Except.toBool] at hpublishes
  | abort id => exact h.abort id
  | failStarts count => exact { h with failingStarts := rfl }
  | failCommits count => exact { h with failingCommits := rfl }
  | call session issued => exact h.answer session issued.fresh issued.call

end Alike

/-! ## Outside of a transaction -/

/-- Stores between which nothing is hidden give the same replies. -/
theorem replies_alike (h : Alike (fun _ => True) s s') (asked : Option SessionId → Bool)
    (events : List Event) : replies asked s' events = replies asked s events := by
  induction events generalizing s s' with
  | nil => rfl
  | cons event rest ih =>
    have hreply : event.replies asked s' = event.replies asked s :=
      Event.replies_congr fun session _ => h.view fun _ _ => trivial
    have hrest := ih (h.step event fun _ _ => .inl trivial)
    simp only [replies, hreply, hrest]

/-- Until it is committed, others get the same replies whether the calls on a transaction are made
or not. -/
theorem replies_outside (hopen : s.inTransaction id = true) (h : Alike (· ≠ id) s s')
    (removed : Call → Bool) (events : List Event) :
    replies (· != some id) s' (withoutCalls id removed (untilCommit id s events))
      = replies (· != some id) s (untilCommit id s events) := by
  induction events generalizing s s' with
  | nil => rfl
  | cons event rest ih =>
    have hreply : event.replies (· != some id) s' = event.replies (· != some id) s := by
      refine Event.replies_congr fun session hsession => h.view ?_
      rintro other rfl rfl
      simp at hsession
    cases hends : event.ends id with
    | true =>
      cases hpublishes : event.publishes s with
      | true => simp [untilCommit, hends, hpublishes, withoutCalls, replies]
      | false =>
        -- the transaction is gone from both stores, and with it all that they differed in
        have hstep := h.step event fun _ _ => .inr hpublishes
        have hrest := replies_alike (hstep.of_closed (transaction?_step_of_ends hends))
          (· != some id) rest
        simp [untilCommit, hends, hpublishes, withoutCalls, replies, hreply, hrest]
    | false =>
      obtain ⟨snapshot, ht⟩ := inTransaction_eq_true.mp hopen
      obtain ⟨collections, hafter⟩ := transaction?_step_of_lasts ht hends
      have hopen' : (s.step event).inTransaction id = true :=
        inTransaction_eq_true.mpr ⟨_, hafter⟩
      cases hremoved : event.isCallOf id removed with
      | true =>
        -- only the one store sees the call, and others are not asked about it
        obtain ⟨issued, rfl⟩ := Event.eq_call_of_isCallOf hremoved
        have hstep : Alike (· ≠ id) (s.step (.call (some id) issued)) s' :=
          (Alike.answer_hidden (by simp) hopen issued.fresh issued.call).symm.trans h
        have hrest := ih hopen' hstep
        simp [untilCommit, hends, withoutCalls, hremoved, replies, Event.replies, hrest]
      | false =>
        have hstep := h.step event fun other hcommit => .inl fun hother => by
          subst hcommit hother
          simp [Event.ends] at hends
        have hrest := ih hopen' hstep
        simp [untilCommit, hends, withoutCalls, hremoved, replies, hreply, hrest]

/-! ## Snapshot isolation -/

/-- A transaction that is open on a session neither sees what others do nor is seen by them.
The calls on documents that are made on it are answered the same whatever steps of others are
removed from the run. Those of others are answered the same, until it is committed, whatever calls
made on it are removed. -/
theorem snapshot_isolation (hopen : s.inTransaction id = true) (events : List Event) :
    (∀ kept : Event → Bool, (∀ event, event.session? = some id → kept event = true) →
      replies (· == some id) s (whileOpen id (events.filter kept))
        = replies (· == some id) s (whileOpen id events)) ∧
    ∀ removed : Call → Bool,
      replies (· != some id) s (withoutCalls id removed (untilCommit id s events))
        = replies (· != some id) s (untilCommit id s events) :=
  ⟨fun _ hkept => replies_inside hopen rfl hkept events,
    fun removed => replies_outside hopen (.refl s) removed events⟩

/-- A transaction that meets a call of others, and is met by one. -/
def crossing : List Event :=
  let insert (n : Int32) : IssuedCall := ⟨.generated, .insert "c" [(idField, .int32 n)]⟩
  let count : IssuedCall := ⟨.generated, .count "c" []⟩
  [.call none (insert 2), .call (some 1) (insert 1), .call (some 1) count, .call none count,
    .commit 1, .call none count]

theorem snapshot_isolation_crossing :
    let s := run {} [.openSession, .start 1]
    s.inTransaction 1 = true ∧
      (replies (· == some 1) s (whileOpen 1 crossing)).length = 2 ∧
      replies (· == some 1) s (whileOpen 1 (crossing.filter (·.session? == some 1)))
        = replies (· == some 1) s (whileOpen 1 crossing) ∧
      (replies (· != some 1) s (untilCommit 1 s crossing)).length = 3 ∧
      replies (· != some 1) s (withoutCalls 1 Call.isOnDocuments (untilCommit 1 s crossing))
        = replies (· != some 1) s (untilCommit 1 s crossing) := by
  have hopen : (run {} [.openSession, .start 1]).inTransaction 1 = true := rfl
  obtain ⟨hinside, houtside⟩ := snapshot_isolation hopen crossing
  exact ⟨rfl, rfl, hinside _ fun event hevent => by simp [hevent], rfl,
    houtside Call.isOnDocuments⟩

end DocumentStore.Store
