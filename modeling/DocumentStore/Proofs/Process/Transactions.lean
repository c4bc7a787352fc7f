import DocumentStore.Proofs.Process.Confined

/-!
# Transactions count once or not at all

A body that is confined to its session may be started any number of times. Every attempt begins
with a copy of the documents that there were before the first, an attempt that is given up
publishes nothing, and the one that is committed publishes what the body made of that copy.
-/
namespace DocumentStore.Process

open Transaction

variable {α β σ : Type}

/-! ## What a session does when asked -/

/-- The session of a store, for a runner that carries something along. -/
abbrev carried (σ : Type) (id : SessionId) : Control (StateT σ Process) := (control id).lift

section Control

variable (id : SessionId) (own : σ) (s : State)

@[simp] theorem ends_inTransaction_carried :
    ends ((carried σ id).inTransaction.run own) s
      = (.ok (s.store.inTransaction id, own), s) := rfl

@[simp] theorem ends_supported_carried :
    ends ((carried σ id).supported.run own) s
      = (.ok (.ok s.store.transactional, own), s) := rfl

@[simp] theorem ends_start_carried :
    ends ((carried σ id).start.run own) s
      = (.ok ((s.store.start id).1, own), { s with store := (s.store.start id).2 }) := rfl

@[simp] theorem ends_commit_carried :
    ends ((carried σ id).commit.run own) s
      = (.ok ((s.store.commit id).1, own), { s with store := (s.store.commit id).2 }) := rfl

@[simp] theorem ends_abort_carried :
    ends ((carried σ id).abort.run own) s
      = (.ok (.ok (), own), { s with store := s.store.abort id }) := rfl

theorem ends_sleep_carried (ms : Nat) :
    ends (((carried σ id).sleep ms).run own) s
      = ((ends (sleep ms) s).1.map (·, own), (ends (sleep ms) s).2) := by
  simp [carried, Control.lift, control]

end Control

/-! ## Counting once -/

/-- Whether some execution of a body, in a transaction that begins with some documents, answers a
value, remembers something and leaves other documents. -/
def Executes (id : SessionId) (body : StateT σ Process (Result α)) (documents : Collections)
    (value : α) (own : σ) (left : Collections) : Prop :=
  ∃ remembered begun base ended,
    begun.store.transaction? id = some ⟨base, documents⟩ ∧
    ends (body.run remembered) begun = (.ok (.ok value, own), ended) ∧
    ended.store.view (some id) = left

/-- Whether a body has counted once or not at all. With a value, the documents that are left are
those that an execution of the body on the documents before leaves; without, they are the
documents before. -/
def Once (id : SessionId) (body : StateT σ Process (Result α)) (documents left : Collections) :
    Except Stop (Result α × σ) → Prop
  | .ok (.ok value, own) => Executes id body documents value own left
  | _ => left = documents

theorem Once.kept {id : SessionId} {body : StateT σ Process (Result α)}
    {documents left : Collections} {result : Except Stop (Result α × σ)}
    (h : Once id body documents left result)
    (hfailed : ∀ value own, result ≠ .ok (.ok value, own)) : left = documents := by
  unfold Once at h
  split at h
  · rename_i value own
    exact absurd rfl (hfailed value own)
  · exact h

/-! ## Attempts -/

variable {id : SessionId} {body : StateT σ Process (Result α)}

/-- The state in which a transaction was just started on a session. -/
def begun (id : SessionId) (s : State) : State :=
  { s with store := s.store.setTransaction id (some ⟨s.store.version, s.store.collections⟩) }

theorem transaction?_begun {s : State} (hopen : s.store.IsOpen id) :
    (begun id s).store.transaction? id = some ⟨s.store.version, s.store.collections⟩ :=
  Store.transaction?_setTransaction_self hopen _

/-- Once its transaction is started, an attempt runs its body and commits. -/
theorem ends_attempt_of_start {s : State} (hstart : s.store.start id = (.ok (), (begun id s).store))
    (own : σ) :
    ends ((attempt (carried σ id) body).run own) s
      = match ends (body.run own) (begun id s) with
        | (.ok (.ok value, own'), ended) =>
          match (ended.store.commit id).1 with
          | .ok _ =>
            (.ok (.committed value, own'), { ended with store := (ended.store.commit id).2 })
          | .error e =>
            (.ok (.broken e, own'), { ended with store := (ended.store.commit id).2 })
        | (.ok (.error e, own'), ended) => (.ok (.refused e, own'), ended)
        | (.error stop, ended) => (.error stop, ended) := by
  unfold attempt
  rw [ends_run_bind, ends_start_carried, hstart]
  simp only
  have hbegun : { s with store := (begun id s).store } = begun id s := rfl
  rw [ends_run_bind, hbegun]
  cases ends (body.run own) (begun id s) with
  | mk result ended =>
    match result with
    | .error stop => rfl
    | .ok (.error e, own') => rfl
    | .ok (.ok value, own') =>
      simp only
      rw [ends_run_bind, ends_commit_carried]
      cases (ended.store.commit id).1 <;> rfl

/-- An attempt either commits what the body made of the documents or publishes nothing. -/
theorem attempt_cases (hbody : ∀ own, Confined (some id) (body.run own)) (own : σ) {s : State}
    (hopen : s.store.IsOpen id) :
    match ends ((attempt (carried σ id) body).run own) s with
    | (.ok (.committed value, own'), s') =>
      Executes id body s.store.collections value own' s'.store.collections
    | (_, s') => s.store.Unpublished id s'.store := by
  have hstarted := Store.Unpublished.start id s.store
  obtain ⟨e, failingStarts, hstart⟩ | ⟨-, -, hstart⟩ := s.store.start_cases id
  -- the start is refused and the body is not run
  · unfold attempt
    rw [ends_run_bind, ends_start_carried, hstart]
    rw [hstart] at hstarted
    exact hstarted
  · rw [hstart] at hstarted
    -- whatever the body does stays in the transaction until it is committed
    have htransaction := transaction?_begun hopen
    have hwithin := (hbody own).within (begun id s)
    have hworked : s.store.Unpublished id (ends (body.run own) (begun id s)).2.store :=
      hstarted.trans (.of_within hwithin (Store.inTransaction_eq_true.mpr ⟨_, htransaction⟩))
    rw [ends_attempt_of_start hstart]
    cases hrun : ends (body.run own) (begun id s) with
    | mk result ended =>
      rw [hrun] at hworked
      match result with
      | .error stop => exact hworked
      | .ok (.error e, own') => exact hworked
      | .ok (.ok value, own') =>
        simp only
        cases hcommit : (ended.store.commit id).1 with
        | error e => exact hworked.trans (.commit hcommit)
        | ok _ =>
          have hpublished := Store.commit_of_ok hcommit
          exact ⟨own, begun id s, _, ended, htransaction, hrun, hpublished.symm⟩

@[simp] theorem ends_rollback_carried (id : SessionId) (own : σ) (s : State) :
    ends ((rollback (carried σ id)).run own) s
      = (.ok ((), own), { s with store := s.store.abort id }) := by
  unfold rollback
  rw [ends_run_bind, ends_inTransaction_carried]
  simp only
  split
  · rw [ends_run_bind, ends_abort_carried]
    rfl
  · rename_i hnot
    simp [Store.abort, hnot]

/-- An attempt that was not committed decides for an error or asks to be made again. -/
theorem verdict_cases {made : Attempt α} (h : ∀ value, made ≠ .committed value) (number : Nat) :
    ∃ e, made.verdict number = .error e ∨ made.verdict number = .ok (.error e) := by
  cases made with
  | committed value => exact absurd rfl (h value)
  | refused e =>
    by_cases he : e.isTransient
    · exact ⟨e, .inl (by simp [Attempt.verdict, he])⟩
    · exact ⟨e, .inr (by simp [Attempt.verdict, he])⟩
  | broken e =>
    by_cases he : e.isTransient
    · exact ⟨e, .inl (by simp [Attempt.verdict, he])⟩
    · exact ⟨.transactionAborted number e, .inr (by simp [Attempt.verdict, he])⟩

/-- A body counts once or not at all in an attempt, if it does so in what is done after an attempt
that was given up. -/
theorem attempt_once (hbody : ∀ own, Confined (some id) (body.run own)) (number : Nat)
    (own : σ) {s : State} (hopen : s.store.IsOpen id)
    {again : ServiceError → StateT σ Process (Result α)}
    (hagain : ∀ e own s', s.store.Unpublished id s'.store →
      let r := ends ((again e).run own) s'
      Once id body s.store.collections r.2.store.collections r.1) :
    let r := ends (StateT.run (do
      let made ← attempt (carried σ id) body
      made.settle (carried σ id)
      match made.verdict number with
      | .ok result => return result
      | .error e => again e) own) s
    Once id body s.store.collections r.2.store.collections r.1 := by
  have hcases := attempt_cases hbody own hopen
  rw [ends_run_bind]
  cases hmade : ends ((attempt (carried σ id) body).run own) s with
  | mk result s' =>
    rw [hmade] at hcases
    -- an attempt that was given up is rolled back before anything else is decided
    have hgiven (made : Attempt α) (own' : σ) (hmade : ∀ value, made ≠ .committed value)
        (hunpublished : s.store.Unpublished id s'.store)
        (hsettle : made.settle (carried σ id) = rollback (carried σ id)) :
        let r := ends (StateT.run (do
          made.settle (carried σ id)
          match made.verdict number with
          | .ok result => return result
          | .error e => again e) own') s'
        Once id body s.store.collections r.2.store.collections r.1 := by
      have hrolled := hunpublished.trans (.abort id s'.store)
      rw [hsettle, ends_run_bind, ends_rollback_carried]
      obtain ⟨e, hverdict | hverdict⟩ := verdict_cases hmade number
      · rw [hverdict]
        exact hagain e own' _ hrolled
      · rw [hverdict]
        exact hrolled.collections
    match result with
    | .error stop => exact hcases.collections
    | .ok (.committed value, own') => exact hcases
    | .ok (.refused e, own') => exact hgiven _ own' (by simp) hcases rfl
    | .ok (.broken e, own') => exact hgiven _ own' (by simp) hcases rfl

/-- So it does in attempts that are made until one is decided. -/
theorem attempts_once (hbody : ∀ own, Confined (some id) (body.run own))
    (policy : RetryPolicy) (number retries : Nat) (own : σ) {s : State}
    (hopen : s.store.IsOpen id) :
    let r := ends ((attempts (carried σ id) policy body number retries).run own) s
    Once id body s.store.collections r.2.store.collections r.1 := by
  induction retries generalizing number own s with
  | zero =>
    rw [attempts]
    exact attempt_once hbody number own hopen fun e own' s' hunpublished =>
      hunpublished.collections
  | succ retries ih =>
    rw [attempts]
    refine attempt_once hbody number own hopen fun e own' s' hunpublished => ?_
    simp only
    rw [ends_run_bind, ends_sleep_carried]
    have hstill := Still.sleep (policy.waitBefore number) s'
    cases hslept : ends (sleep (policy.waitBefore number)) s' with
    | mk result s'' =>
      rw [hslept] at hstill
      have hwaited := hunpublished.trans (.of_eq hstill)
      cases result with
      | error stop => exact hwaited.collections
      -- the next attempt begins with the documents before the first
      | ok _ =>
        have hnext := ih (number + 1) own' (hwaited.isOpen.mpr hopen)
        rwa [hwaited.collections] at hnext

/-! ## Whole runs -/

@[simp] theorem ends_close_carried (id : SessionId) (own : σ) (s : State) :
    ends ((close (carried σ id)).run own) s
      = (.ok ((), own), { s with store := s.store.abort id }) := by
  unfold close
  rw [ends_run_bind, ends_inTransaction_carried]
  simp only
  split
  · simp [carried, Control.lift, control, Except.map]
  · rename_i hnot
    simp [Store.abort, hnot]

/-- A run on a session without a transaction is a number of attempts, after which the session
has none in any event. -/
theorem ends_runTransaction {s : State} (hsupported : s.store.transactional = true)
    (hfree : s.store.inTransaction id = false) (policy : RetryPolicy) (own : σ) :
    ends ((runTransaction policy id body).run own) s =
      let r := ends ((attempts (carried σ id) policy body 1 policy.maxRetries.toNat).run own) s
      (r.1, { r.2 with store := r.2.store.abort id }) := by
  unfold runTransaction Transaction.run
  rw [ends_run_bind, ends_inTransaction_carried, hfree]
  simp only [Bool.false_eq_true, if_false]
  rw [ends_run_bind, ends_supported_carried, hsupported]
  exact ends_run_tryFinally (fun own s' => ends_close_carried id own s') own s

/-! ## Runs without injected failures -/

/-- Settling an attempt changes no documents. -/
theorem ends_settle_carried (id : SessionId) (made : Attempt α) (own : σ) (s : State) :
    ∃ s', ends ((made.settle (carried σ id)).run own) s = (.ok ((), own), s') ∧
      s'.store.collections = s.store.collections := by
  cases made with
  | committed value => exact ⟨s, rfl, rfl⟩
  | refused e => exact ⟨_, ends_rollback_carried id own s, Store.abort_collections _ id⟩
  | broken e => exact ⟨_, ends_rollback_carried id own s, Store.abort_collections _ id⟩

/-- A decided attempt is the last one, and what is left is what it leaves when it is settled. -/
theorem attempts_of_decided {made : Attempt α} {own own' : σ} {s s' s'' : State} {number : Nat}
    {result : Result α}
    (hmade : ends ((attempt (carried σ id) body).run own) s = (.ok (made, own'), s'))
    (hsettled : ends ((made.settle (carried σ id)).run own') s' = (.ok ((), own'), s''))
    (hverdict : made.verdict number = .ok result) (policy : RetryPolicy) (retries : Nat) :
    ends ((attempts (carried σ id) policy body number retries).run own) s
      = (.ok (result, own'), s'') := by
  cases retries <;>
    rw [attempts, ends_run_bind_of_ok hmade, ends_run_bind_of_ok hsettled, hverdict] <;> rfl

/-- An action whose work can be committed is executed once. -/
theorem ends_transact_of_commit {action : Action α} {s ended : State} {value : α}
    (hsupported : s.store.transactional = true) (hfree : s.store.inTransaction id = false)
    (hstarts : s.store.failingStarts = 0)
    (hends : ends action.run (begun id s) = (.ok (.ok value), ended))
    (hcommit : (ended.store.commit id).1 = .ok ()) (policy : RetryPolicy) :
    ends (transact policy id action).run s = (.ok (.ok value),
      { ended with store := (ended.store.commit id).2.abort id }) := by
  have hmade : ends ((attempt (carried Unit id) (StateT.lift action.run)).run ()) s
      = (.ok (.committed value, ()), { ended with store := (ended.store.commit id).2 }) := by
    rw [ends_attempt_of_start (Store.start_of_free hsupported hfree hstarts), ends_run_lift, hends]
    simp only [Except.map, hcommit]
  rw [ends_transact, ends_runTransaction hsupported hfree, attempts_of_decided hmade rfl rfl]
  rfl

/-- Without injected failures an action is executed once: what it has made of the documents is
published if it succeeds, and an error that is not transient is answered as it is. -/
theorem ends_transact_of_body {action : Action α} {s ended : State} {result : Result α}
    (hsupported : s.store.transactional = true) (hfree : s.store.Free (some id))
    (hstarts : s.store.failingStarts = 0) (hcommits : s.store.failingCommits = 0)
    (hends : ends action.run (begun id s) = (.ok result, ended))
    (hwithin : (begun id s).store.Within id ended.store)
    (hfinal : ∀ e, result = .error e → e.isTransient = false) (policy : RetryPolicy) :
    ∃ after, ends (transact policy id action).run s = (.ok result, after) ∧
      after.store.collections = match result with
        | .ok _ => ended.store.view (some id)
        | .error _ => s.store.collections := by
  obtain ⟨hopen, hnone⟩ := hfree id rfl
  obtain ⟨collections, indexes, hstore⟩ := hwithin _ (transaction?_begun hopen)
  cases result with
  | error e =>
    have hmade : ends ((attempt (carried Unit id) (StateT.lift action.run)).run ()) s
        = (.ok (.refused e, ()), ended) := by
      rw [ends_attempt_of_start (Store.start_of_free hsupported hnone hstarts), ends_run_lift,
        hends]
      rfl
    have hverdict : (Attempt.refused e : Attempt α).verdict 1 = .ok (.error e) := by
      simp [Attempt.verdict, hfinal e rfl]
    obtain ⟨s'', hsettled, hsame⟩ := ends_settle_carried id (.refused e : Attempt α) () ended
    rw [ends_transact, ends_runTransaction hsupported hnone,
      attempts_of_decided hmade hsettled hverdict]
    refine ⟨_, rfl, (Store.abort_collections _ id).trans (hsame.trans ?_)⟩
    rw [hstore]
    rfl
  | ok value =>
    -- nothing was committed since the start, so the commit finds the version it started from
    have hended : ended.store.transaction? id = some ⟨s.store.version, collections⟩ := by
      rw [hstore]
      exact Store.transaction?_setTransaction_self ((Store.setTransaction_isOpen ..).mpr hopen) _
    have hcommit : (ended.store.commit id).1 = .ok () :=
      Store.commit_of_current hended (by rw [hstore]; exact hcommits) (by rw [hstore]; rfl)
    exact ⟨_, ends_transact_of_commit hsupported hnone hstarts hends hcommit policy,
      (Store.abort_collections _ id).trans (Store.commit_of_ok hcommit)⟩

/-! ## Runs that come to an end -/

namespace Returns

/-- A process that carries something along comes to an end if its steps do. -/
theorem run_bind {p : StateT σ Process α} {f : α → StateT σ Process β}
    (hp : ∀ own, Returns (p.run own)) (hf : ∀ a own, Returns ((f a).run own)) (own : σ) :
    Returns ((p >>= f).run own) := by
  rw [StateT.run_bind]
  exact (hp own).bind fun r => hf r.1 r.2

/-- What a session is asked for comes at once, and touches no deadline. -/
theorem of_ends {p : StateT σ Process α} {answer : State → α} {change : State → Store}
    (h : ∀ own s, ends (p.run own) s = (.ok (answer s, own), { s with store := change s }))
    (own : σ) : Returns (p.run own) := by
  intro s hs
  rw [h own s]
  exact ⟨_, _, rfl, hs⟩

theorem sleep_carried (id : SessionId) (ms : Nat) (own : σ) :
    Returns (((carried σ id).sleep ms).run own) := by
  intro s hs
  obtain ⟨_, s', hslept, hs'⟩ := Returns.sleep ms s hs
  rw [ends_sleep_carried, hslept]
  exact ⟨_, s', rfl, hs'⟩

theorem settle (made : Attempt α) (own : σ) : Returns ((made.settle (carried σ id)).run own) := by
  cases made with
  | committed value => exact .pure _
  | refused e => exact of_ends (ends_rollback_carried id) own
  | broken e => exact of_ends (ends_rollback_carried id) own

theorem attempt (hbody : ∀ own, Returns (body.run own)) (own : σ) :
    Returns ((Transaction.attempt (carried σ id) body).run own) := by
  unfold Transaction.attempt
  refine run_bind (of_ends (ends_start_carried id)) (fun started own => ?_) own
  cases started with
  | error e => exact .pure _
  | ok _ =>
    refine run_bind hbody (fun result own => ?_) own
    cases result with
    | error e => exact .pure _
    | ok value =>
      refine run_bind (of_ends (ends_commit_carried id)) (fun committed own => ?_) own
      cases committed with
      | error e => exact .pure _
      | ok _ => exact .pure _

theorem attempts (hbody : ∀ own, Returns (body.run own)) (policy : RetryPolicy)
    (number retries : Nat) (own : σ) :
    Returns ((Transaction.attempts (carried σ id) policy body number retries).run own) := by
  induction retries generalizing number own with
  | zero =>
    rw [Transaction.attempts]
    refine run_bind (attempt hbody) (fun made own => ?_) own
    refine run_bind (settle made) (fun _ own => ?_) own
    cases made.verdict number with
    | ok result => exact .pure _
    | error e => exact .pure _
  | succ retries ih =>
    rw [Transaction.attempts]
    refine run_bind (attempt hbody) (fun made own => ?_) own
    refine run_bind (settle made) (fun _ own => ?_) own
    cases made.verdict number with
    | ok result => exact .pure _
    | error e =>
      exact run_bind (sleep_carried id _) (fun _ own => ih (number + 1) own) own

end Returns

/-- A run on a session without a transaction settles what becomes of the documents, closes the
transaction and comes to an end if its body does. -/
theorem runTransaction_once (hbody : ∀ own, Confined (some id) (body.run own))
    (policy : RetryPolicy) (own : σ) {s : State} (hsupported : s.store.transactional = true)
    (hopen : s.store.IsOpen id) (hfree : s.store.inTransaction id = false) :
    let r := ends ((runTransaction policy id body).run own) s
    Once id body s.store.collections r.2.store.collections r.1 ∧
      r.2.store.inTransaction id = false ∧
      ((∀ own, Returns (body.run own)) → s.deadline = none →
        ∃ result own', r.1 = .ok (result, own')) := by
  rw [ends_runTransaction hsupported hfree]
  refine ⟨?_, by simp, fun hreturns hdeadline => ?_⟩
  · simp only
    rw [Store.abort_collections]
    exact attempts_once hbody policy 1 policy.maxRetries.toNat own hopen
  · have hattempts : Returns ((attempts (carried σ id) policy body 1
        policy.maxRetries.toNat).run own) :=
      .attempts hreturns policy 1 policy.maxRetries.toNat own
    obtain ⟨⟨result, own'⟩, s', hends, -⟩ := hattempts s hdeadline
    rw [hends]
    exact ⟨result, own', rfl⟩

/-! ## Transactions on a session that is given or opened -/

theorem transaction_run (policy : RetryPolicy) (session : Option SessionId)
    (body : SessionId → StateT σ Process (Result α)) (own : σ) :
    (transaction policy session body).run own
      = usingSession session fun id => (runTransaction policy id (body id)).run own := rfl

/-- A body that is confined to its session counts exactly once if a transaction answers a value,
and not at all otherwise. The transaction does not stay open, and it comes to an end if the body
does. -/
theorem transaction_once (policy : RetryPolicy) (session : Option SessionId)
    {body : SessionId → StateT σ Process (Result α)}
    (hbody : ∀ id own, Confined (some id) ((body id).run own)) (own : σ) {s : State}
    (hsupported : s.store.transactional = true) (hfree : s.store.Free session) :
    let r := ends ((transaction policy session body).run own) s
    (∃ id, (∀ given ∈ session, given = id) ∧
      Once id (body id) s.store.collections r.2.store.collections r.1) ∧
    (∀ id ∈ session, r.2.store.inTransaction id = false) ∧
    ((∀ id own, Returns ((body id).run own)) → s.deadline = none →
      ∃ result own', r.1 = .ok (result, own')) := by
  rw [transaction_run]
  cases session with
  | some id =>
    rw [usingSession_some]
    obtain ⟨hopen, hnone⟩ := hfree id rfl
    obtain ⟨honce, hclosed, hends⟩ :=
      runTransaction_once (hbody id) policy own hsupported hopen hnone
    exact ⟨⟨id, by simp, honce⟩, by simpa using hclosed, fun hreturns => hends (hreturns id)⟩
  | none =>
    rw [usingSession_none, ends_withSession]
    -- the session is dropped when all is settled, which changes no documents
    obtain ⟨honce, -, hends⟩ :=
      runTransaction_once (hbody s.store.openSession.1) policy own
        (s := { s with store := s.store.openSession.2 }) hsupported s.store.isOpen_openSession
        (s.store.free_openSession _ rfl).2
    refine ⟨⟨s.store.openSession.1, by simp, ?_⟩, by simp, fun hreturns hdeadline => ?_⟩
    · simp only
      rw [Store.dropSession_collections]
      exact honce
    · exact hends (hreturns _) hdeadline

/-- A body that counts its executions and inserts a document with the number of the present one. -/
def numbering (id : SessionId) : StateT Nat Process (Result Value) := do
  modify (· + 1)
  (ask (some id) (.insert "c" [(idField, .int32 (.ofNat (← get)))])).run

theorem confined_numbering (id : SessionId) (own : Nat) :
    Confined (some id) ((numbering id).run own) := by
  unfold numbering
  refine .run_bind (fun own => .pure _) (fun _ own => ?_) own
  refine .run_bind (fun own => .pure _) (fun n own => ?_) own
  exact .run_lift (.ask id rfl _) own

/-- A store whose next commit is made to fail. -/
def failingOnce : State where
  store := { failingCommits := 1 }

/-- The first of two executions leaves no document. -/
theorem transaction_once_numbering :
    (∀ id own, Confined (some id) ((numbering id).run own)) ∧
    failingOnce.store.transactional = true ∧
    let r := ends ((transaction {} none numbering).run 0) failingOnce
    r.1.toOption.map (·.2) = some 2 ∧
    (r.2.store.collections.documents "c").length = 1 ∧
    ∃ id, (∀ given ∈ none, given = id) ∧
      Once id (numbering id) failingOnce.store.collections r.2.store.collections r.1 :=
  ⟨confined_numbering, rfl, by decide +kernel, by decide +kernel,
    (transaction_once {} none confined_numbering 0 rfl (Store.free_none _)).1⟩

end DocumentStore.Process
