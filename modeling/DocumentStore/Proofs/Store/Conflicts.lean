import DocumentStore.Proofs.Store.History
import Mathlib.Data.List.Induction

/-!
# Conflicts

A commit succeeds exactly if no failure is injected and nothing was published since its
transaction started: no write outside of transactions and no commit of another session has
succeeded in between. The version of the store counts what is published, so that it has stayed
the same if and only if the transaction was not disturbed.
-/
namespace DocumentStore.Store

variable {s : Store} {id : SessionId} {before after events : List Event}

/-! ## Runs that publish nothing -/

/-- Whether no write outside of transactions and no commit succeeds in a run. -/
def Undisturbed (s : Store) (events : List Event) : Prop :=
  ∀ before event after, events = before ++ event :: after →
    event.publishes (s.run before) = false

theorem undisturbed_nil (s : Store) : Undisturbed s [] := by
  intro before event after h
  cases before <;> cases h

theorem undisturbed_cons {event : Event} :
    Undisturbed s (event :: events)
      ↔ event.publishes s = false ∧ Undisturbed (s.step event) events := by
  constructor
  · intro h
    refine ⟨h [] event events rfl, fun before next after hsplit => ?_⟩
    exact h (event :: before) next after (by rw [hsplit]; rfl)
  · rintro ⟨hfirst, hrest⟩ before next after hsplit
    cases before with
    | nil =>
      cases hsplit
      exact hfirst
    | cons _ before =>
      cases hsplit
      exact hrest before next after rfl

/-- The version is the same after a run exactly if the run publishes nothing. -/
theorem version_run_eq_iff : (s.run events).version = s.version ↔ Undisturbed s events := by
  induction events generalizing s with
  | nil => exact iff_of_true rfl (undisturbed_nil s)
  | cons event rest ih =>
    have hrun : s.run (event :: rest) = (s.step event).run rest := rfl
    rw [undisturbed_cons, hrun]
    cases hpublishes : event.publishes s with
    | false =>
      have hversion : (s.step event).version = s.version := by simp [version_step, hpublishes]
      simpa [hversion] using ih (s := s.step event)
    | true =>
      -- once the version has moved on it does not come back
      have hversion : (s.step event).version = s.version + 1 := by
        simp [version_step, hpublishes]
      have hle := version_le_run (s.step event) rest
      refine iff_of_false (fun h => ?_) (fun h => Bool.noConfusion h.1)
      rw [h, hversion] at hle
      exact Nat.not_succ_le_self _ hle

/-! ## Transactions since their start -/

/-- Whether a session starts a transaction after some events of a run and keeps it through those
that follow. -/
structure LastsSince (s : Store) (id : SessionId) (before after : List Event) : Prop where
  isOpen : (s.run before).IsOpen id
  started : ((s.run before).start id).1 = .ok ()
  lasts : ∀ event ∈ after, event.ends id = false

namespace LastsSince

/-- The transaction remembers the version of its start. -/
theorem transaction? (h : LastsSince s id before after) :
    ∃ collections, (s.run (before ++ .start id :: after)).transaction? id
      = some ⟨(s.run before).version, collections⟩ := by
  have hstart := transaction?_start_of_ok h.isOpen h.started
  rw [run_append]
  exact transaction?_run_of_lasts (s := ((s.run before).start id).2) hstart h.lasts

end LastsSince

/-- A start publishes nothing. -/
theorem version_run_start (s : Store) (before : List Event) (id : SessionId) :
    (s.run (before ++ [.start id])).version = (s.run before).version := by
  rw [run_append]
  exact version_step (s.run before) (.start id)

/-- A transaction that is open after a run was started at some point of it and lasts since. -/
theorem exists_lastsSince (h : s.inTransaction id = false)
    (hin : (s.run events).inTransaction id = true) :
    ∃ before after, events = before ++ .start id :: after ∧ LastsSince s id before after := by
  induction events using List.reverseRecOn with
  | nil =>
    rw [show s.run [] = s from rfl, h] at hin
    cases hin
  | append_singleton events event ih =>
    have hrun : s.run (events ++ [event]) = (s.run events).step event := run_append s events [event]
    rw [hrun] at hin
    cases hopen : (s.run events).inTransaction id with
    | true =>
      -- the event has not ended the transaction, so it goes on
      obtain ⟨before, after, rfl, hsince⟩ := ih hopen
      refine ⟨before, after ++ [event], by simp, hsince.isOpen, hsince.started, ?_⟩
      intro later hlater
      rcases List.mem_append.mp hlater with hlater | hlater
      · exact hsince.lasts later hlater
      · rw [List.mem_singleton.mp hlater]
        cases hends : event.ends id with
        | false => rfl
        | true => simp [inTransaction, transaction?_step_of_ends hends] at hin
    | false =>
      obtain ⟨rfl, hisOpen, hstarted⟩ := start_of_inTransaction_step hopen hin
      exact ⟨events, [], rfl, hisOpen, hstarted, by simp⟩

/-! ## Commits -/

/-- Whether a commit is refused: it may be tried again, publishes nothing and leaves its session
without a transaction. -/
structure Refused (s : Store) (id : SessionId) : Prop where
  transient : ∃ cause, (s.commit id).1 = .error (.transientTransaction cause)
  collections : (s.commit id).2.collections = s.collections
  version : (s.commit id).2.version = s.version
  others : ∀ other, other ≠ id → (s.commit id).2.transaction? other = s.transaction? other
  closed : (s.commit id).2.inTransaction id = false

/-- A commit succeeds if no failure is pending and the version is that of the start, and is
refused otherwise. -/
theorem commit_of_transaction? {snapshot : Snapshot} (ht : s.transaction? id = some snapshot) :
    ((s.commit id).1 = .ok () ↔ s.failingCommits = 0 ∧ s.version = snapshot.base) ∧
      ((s.commit id).1 ≠ .ok () → Refused s id) := by
  have hrefused {cause : TransientFault} {failingCommits : Nat}
      (heq : s.commit id = (.error (.transientTransaction cause),
        { s.abort id with failingCommits })) : Refused s id := by
    refine ⟨⟨cause, by rw [heq]⟩, ?_, ?_, fun other hother => ?_, by simp⟩
    · rw [heq]
      exact abort_collections s id
    · rw [heq]
      exact abort_version s id
    · exact (transaction?_commit s id other).trans (if_neg hother)
  -- a failure that is pending comes before the comparison of versions
  by_cases hpending : s.failingCommits > 0
  · have heq : s.commit id = (.error (.transientTransaction .injectedCommit),
        { s.abort id with failingCommits := s.failingCommits - 1 }) := by
      simp [commit, ht, hpending]
    refine ⟨iff_of_false (by rw [heq]; simp) (fun h => ?_), fun _ => hrefused heq⟩
    exact Nat.ne_of_gt hpending h.1
  · have hnone : s.failingCommits = 0 := Nat.eq_zero_of_not_pos hpending
    by_cases hversion : s.version = snapshot.base
    · have hok := commit_of_current ht hnone hversion
      exact ⟨iff_of_true hok ⟨hnone, hversion⟩, fun h => absurd hok h⟩
    · have heq : s.commit id = (.error (.transientTransaction (.conflict snapshot.base s.version)),
          { s.abort id with failingCommits := (s.abort id).failingCommits }) := by
        unfold commit
        simp only [ht, hnone, gt_iff_lt, Nat.lt_irrefl, if_false, ne_eq, hversion,
          not_false_eq_true, if_true]
      exact ⟨iff_of_false (by rw [heq]; simp) (fun h => hversion h.2), fun _ => hrefused heq⟩

/-- A commit that succeeds moves the version on. -/
theorem version_commit_of_ok (h : (s.commit id).1 = .ok ()) :
    (s.commit id).2.version = s.version + 1 := by
  have hstep := version_step s (.commit id)
  simpa [step, Event.publishes, h, Except.isOk, Except.toBool] using hstep

/-- Conflicts are detected exactly. Every transaction that is open after a run was started at some
point of it and lasts since. Its commit succeeds if and only if no failure is pending and nothing
was published since that start, and is refused otherwise. Of two transactions that are open at the
same time, the one does not commit after the other. -/
theorem commit_exact (h : ∀ id, s.inTransaction id = false) (events : List Event) :
    (∀ id, (s.run events).inTransaction id = true →
      ∃ before after, events = before ++ .start id :: after ∧ LastsSince s id before after) ∧
    (∀ id before after, events = before ++ .start id :: after → LastsSince s id before after →
      (((s.run events).commit id).1 = .ok () ↔ (s.run events).failingCommits = 0 ∧
        Undisturbed (s.run (before ++ [.start id])) after) ∧
      (((s.run events).commit id).1 ≠ .ok () → Refused (s.run events) id)) ∧
    ∀ id other between later, id ≠ other →
      (s.run events).inTransaction id = true → (s.run events).inTransaction other = true →
      (∀ event ∈ between, event.ends id = false ∧ event.ends other = false) →
      (((s.run events).run between).commit id).1 = .ok () →
      (∀ event ∈ later, event.ends other = false) →
      (((((s.run events).run between).commit id).2.run later).commit other).1 ≠ .ok () := by
  refine ⟨fun id => exists_lastsSince (h id), ?_, ?_⟩
  · rintro id before after rfl hsince
    obtain ⟨collections, ht⟩ := hsince.transaction?
    obtain ⟨hok, hrefused⟩ := commit_of_transaction? ht
    refine ⟨hok.trans (and_congr_right fun _ => ?_), hrefused⟩
    have hrun : s.run (before ++ .start id :: after)
        = (s.run (before ++ [.start id])).run after := by
      rw [← run_append, List.append_assoc]
      rfl
    rw [← version_run_eq_iff, version_run_start, hrun]
  · intro id other between later hne _ hother hbetween hcommit hlater
    -- the other transaction started from no later version than that of the run
    obtain ⟨before, after, rfl, hsince⟩ := exists_lastsSince (h other) hother
    obtain ⟨collections, ht⟩ := hsince.transaction?
    have hbase : (s.run before).version ≤ (s.run (before ++ .start other :: after)).version := by
      rw [run_append]
      exact version_le_run _ _
    obtain ⟨collections, ht⟩ :=
      transaction?_run_of_lasts ht fun event hevent => (hbetween event hevent).2
    have hleft := (transaction?_commit ((s.run (before ++ .start other :: after)).run between)
      id other).trans (if_neg hne.symm)
    obtain ⟨collections, ht⟩ := transaction?_run_of_lasts (hleft.trans ht) hlater
    -- and the first commit has moved the version past that
    intro hok
    have hversion := ((commit_of_transaction? ht).1.mp hok).2
    have hmoved := version_commit_of_ok hcommit
    have hgrown := version_le_run (s.run (before ++ .start other :: after)) between
    have hlast := version_le_run
      (((s.run (before ++ .start other :: after)).run between).commit id).2 later
    simp only at hversion
    omega

/-- Two transactions that are open at the same time, one of which writes. -/
def rivals : List Event :=
  [.openSession, .openSession, .start 1, .start 2,
    .call (some 1) ⟨.generated, .insert "c" [(idField, .int32 1)]⟩]

theorem commit_exact_rivals :
    (∀ id, ({} : Store).inTransaction id = false) ∧
      LastsSince {} 1 (rivals.take 2) (rivals.drop 3) ∧
      ((run {} rivals).commit 1).1 = .ok () ∧
      (((run {} rivals).commit 1).2.commit 2).1 ≠ .ok () := by
  have hnone : ∀ id, ({} : Store).inTransaction id = false := fun _ => rfl
  have hsince : LastsSince {} 1 (rivals.take 2) (rivals.drop 3) :=
    ⟨by decide, rfl, by simp [rivals, Event.ends]⟩
  obtain ⟨-, hexact, hrivals⟩ := commit_exact hnone rivals
  have hquiet : Undisturbed (run {} (rivals.take 2 ++ [.start 1])) (rivals.drop 3) :=
    version_run_eq_iff.mp rfl
  have hok := ((hexact 1 _ _ rfl hsince).1).mpr ⟨rfl, hquiet⟩
  exact ⟨hnone, hsince, hok,
    hrivals 1 2 [] [] (by decide) rfl rfl (by simp) hok (by simp)⟩

end DocumentStore.Store
