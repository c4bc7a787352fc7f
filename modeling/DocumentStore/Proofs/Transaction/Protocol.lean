import DocumentStore.Proofs.Transaction.Conversation

/-!
# The protocol of a run

What is asked in a run can be followed step by step: the body comes directly after a start that
succeeded, a commit directly after a body that succeeded, and nothing after a commit that
succeeded. The number of attempts, their errors and the time that is waited can be read off the
same record, and they settle the answer of the run.
-/
namespace DocumentStore.Transaction

variable {σ α : Type}

/-! ## Phases -/

/-- How far an attempt has come. -/
inductive Phase where
  | idle | started | worked | committed
  deriving DecidableEq, Repr

namespace Phase

/-- The phase after an exchange that is allowed in a phase. -/
def advance : Phase → Exchange α → Option Phase
  | .idle, .start (.ok _) => some .started
  | .idle, .start (.error _) => some .idle
  | .idle, .supported _ => some .idle
  | .idle, .abort _ => some .idle
  | .idle, .discard => some .idle
  | .idle, .sleep _ => some .idle
  | .started, .body (.ok _) => some .worked
  | .started, .body (.error _) => some .idle
  | .worked, .commit (.ok _) => some .committed
  | .worked, .commit (.error _) => some .idle
  | _, _ => none

/-- The phase after exchanges, each of which is allowed when it comes. -/
def follow (phase : Phase) : List (Exchange α) → Option Phase
  | [] => some phase
  | exchange :: rest => (phase.advance exchange).bind (follow · rest)

theorem follow_append (phase : Phase) (calls more : List (Exchange α)) :
    phase.follow (calls ++ more) = (phase.follow calls).bind (follow · more) := by
  induction calls generalizing phase with
  | nil => rfl
  | cons exchange rest ih =>
    simp only [List.cons_append, follow]
    cases phase.advance exchange with
    | none => rfl
    | some next => exact ih next

/-- The phase after an attempt that went one way or another. -/
def ofOutcome : Outcome α → Phase
  | .committed _ => .committed
  | _ => .idle

theorem follow_exchanges (outcome : Outcome α) :
    idle.follow outcome.exchanges = some (ofOutcome outcome) := by
  cases outcome <;> rfl

theorem follow_undoing (aborts : List (Result Unit)) :
    idle.follow (undoing aborts : List (Exchange α)) = some .idle := by
  induction aborts with
  | nil => rfl
  | cons answer rest ih => exact ih

theorem ofOutcome_of_transient {outcome : Outcome α} (h : outcome.isTransient) :
    ofOutcome outcome = .idle := by
  cases outcome with
  | committed value => cases h
  | _ => rfl

/-- An attempt and what undoes it. -/
theorem follow_attempt {outcome : Outcome α} {aborts : List (Result Unit)}
    (h : ∀ value, outcome = .committed value → aborts = []) :
    idle.follow (outcome.exchanges ++ undoing aborts) = some (ofOutcome outcome) := by
  rw [follow_append, follow_exchanges]
  cases outcome with
  | committed value => rw [h value rfl]; rfl
  | _ => exact follow_undoing aborts

/-- Every attempt of a history starts from the same phase. -/
theorem follow_history {policy : RetryPolicy} {number retries : Nat} {calls : List (Exchange α)}
    {earlier : List (Outcome α)} {last : Outcome α}
    (h : History policy number retries calls earlier last) :
    idle.follow calls = some (ofOutcome last) := by
  induction h with
  | last outcome aborts haborts _ => exact follow_attempt haborts
  | again outcome aborts htransient _ ih =>
    -- after a commit that succeeded nothing is made again
    have hidle := ofOutcome_of_transient htransient
    have haborts : ∀ value, outcome = .committed value → aborts = [] := by
      rintro value rfl
      cases htransient
    rw [follow_append, follow_attempt haborts, hidle]
    exact ih

/-! ## What the phases tell -/

variable {calls before after : List (Exchange α)} {phase : Phase}

/-- An exchange among others is allowed in the phase that those before it lead to. -/
theorem follow_split {exchange : Exchange α}
    (h : idle.follow (before ++ exchange :: after) = some phase) :
    ∃ previous next, idle.follow before = some previous ∧
      previous.advance exchange = some next ∧ next.follow after = some phase := by
  rw [follow_append, Option.bind_eq_some_iff] at h
  obtain ⟨previous, hbefore, hrest⟩ := h
  rw [follow, Option.bind_eq_some_iff] at hrest
  obtain ⟨next, hadvance, hafter⟩ := hrest
  exact ⟨previous, next, hbefore, hadvance, hafter⟩

/-- A phase that is not the first was led to by the last exchange. -/
theorem follow_last (h : idle.follow calls = some phase) (hphase : phase ≠ .idle) :
    ∃ (earlier : List (Exchange α)) (exchange : Exchange α) (previous : Phase),
      calls = earlier ++ [exchange] ∧ previous.advance exchange = some phase := by
  obtain rfl | ⟨earlier, exchange, rfl⟩ := List.eq_nil_or_concat calls
  · cases h
    exact absurd rfl hphase
  · rw [List.concat_eq_append] at h ⊢
    obtain ⟨previous, next, -, hadvance, hnext⟩ := follow_split h
    cases hnext
    exact ⟨earlier, exchange, previous, rfl, hadvance⟩

/-- Only one exchange leads to the phase in which the body is allowed. -/
theorem follow_eq_started (h : idle.follow calls = some .started) :
    ∃ earlier, calls = earlier ++ [.start (.ok ())] := by
  obtain ⟨earlier, exchange, previous, rfl, hadvance⟩ := follow_last h (by decide)
  refine ⟨earlier, ?_⟩
  unfold advance at hadvance
  split at hadvance <;> cases hadvance
  rfl

/-- Only a body that succeeded leads to the phase in which a commit is allowed. -/
theorem follow_eq_worked (h : idle.follow calls = some .worked) :
    ∃ earlier value, calls = earlier ++ [.body (.ok value)] := by
  obtain ⟨earlier, exchange, previous, rfl, hadvance⟩ := follow_last h (by decide)
  refine ⟨earlier, ?_⟩
  unfold advance at hadvance
  split at hadvance <;> cases hadvance
  exact ⟨_, rfl⟩

/-- Nothing is allowed after a commit that succeeded. -/
theorem follow_committed (h : committed.follow calls = some phase) : calls = [] := by
  cases calls with
  | nil => rfl
  | cons exchange rest => cases h

end Phase

/-- The order in which things are asked: the body directly after a start that succeeded, a commit
directly after a body that succeeded, and nothing, in particular no second commit, after a commit
that succeeded. -/
structure Orderly (calls : List (Exchange α)) : Prop where
  body : ∀ before answer after, calls = before ++ .body answer :: after →
    ∃ earlier, before = earlier ++ [.start (.ok ())]
  commit : ∀ before answer after, calls = before ++ .commit answer :: after →
    ∃ earlier value, before = earlier ++ [.body (.ok value)]
  final : ∀ before after, calls = before ++ .commit (.ok ()) :: after →
    after = [] ∧ .commit (.ok ()) ∉ before

/-- Exchanges that were all allowed came in order. -/
theorem Phase.orderly {calls : List (Exchange α)} {phase : Phase}
    (h : idle.follow calls = some phase) : Orderly calls := by
  have hcommitted : ∀ before after, calls = before ++ .commit (.ok ()) :: after → after = [] := by
    rintro before after rfl
    obtain ⟨previous, next, -, hadvance, hafter⟩ := follow_split h
    cases previous <;> cases hadvance
    exact follow_committed hafter
  refine ⟨?_, ?_, ?_⟩
  · rintro before answer after rfl
    obtain ⟨previous, next, hbefore, hadvance, -⟩ := follow_split h
    cases previous with
    | started => exact follow_eq_started hbefore
    | _ => cases hadvance
  · rintro before answer after rfl
    obtain ⟨previous, next, hbefore, hadvance, -⟩ := follow_split h
    cases previous with
    | worked => exact follow_eq_worked hbefore
    | _ => cases hadvance
  · intro before after hcalls
    refine ⟨hcommitted before after hcalls, ?_⟩
    -- of two commits that succeed, the first would not be the end
    intro hmem
    obtain ⟨earlier, later, rfl⟩ := List.append_of_mem hmem
    rw [List.append_assoc, List.cons_append] at hcalls
    exact List.append_ne_nil_of_right_ne_nil later (List.cons_ne_nil _ _)
      (hcommitted earlier _ hcalls)

/-- On a session without a transaction everything is asked in order, and the session has none
again when the run is over. In a transaction that is open already, the work is all there is. -/
theorem run_orderly (driver : Driver σ α) (policy : RetryPolicy) (c : Conversation σ α) :
    (c.isOpen = false → (driver.supported c.hidden).1 = .ok true →
      ∃ calls, (driver.run policy c).2.record = c.record ++ calls ∧ Orderly calls ∧
        (driver.run policy c).2.isOpen = false) ∧
    (c.isOpen = true →
      (driver.run policy c).1 = (driver.body c.hidden).1 ∧
        (driver.run policy c).2.record = c.record ++ [.body (driver.body c.hidden).1] ∧
        (driver.run policy c).2.isOpen = true) := by
  refine ⟨?_, ?_⟩
  · intro hclosed hsupported
    obtain ⟨calls, earlier, last, closing, history, -, hrecord, hclosing, hshut⟩ :=
      run_of_closed driver c policy hclosed hsupported
    refine ⟨_, hrecord, ?_, hshut⟩
    have hhistory := Phase.follow_history history
    have hcalls : Phase.idle.follow (.supported (.ok true) :: calls)
        = some (Phase.ofOutcome last) := hhistory
    -- the guard discards a transaction only after an attempt that did not commit
    obtain rfl | ⟨rfl, hlast⟩ := hclosing
    · rw [List.append_nil]
      exact Phase.orderly hcalls
    · have hidle : Phase.ofOutcome last = .idle := by
        cases last with
        | committed value => exact absurd rfl (hlast value)
        | _ => rfl
      have hdiscarded : Phase.idle.follow (.supported (.ok true) :: calls ++ [.discard])
          = some .idle := by
        rw [Phase.follow_append, hcalls, hidle]
        rfl
      exact Phase.orderly hdiscarded
  · intro hopen
    rw [run_of_open driver c policy hopen]
    exact ⟨rfl, rfl, hopen⟩

/-- A driver whose aborts fail and whose body fails, with a transient error, until enough was
asked. -/
def flaky : Driver Nat Nat where
  supported asked := (.ok true, asked + 1)
  start asked := (.ok (), asked + 1)
  body asked := (if asked < 4 then .error (.transientTransaction (.conflict 0 asked))
    else .ok asked, asked + 1)
  commit asked := (.ok (), asked + 1)
  abort asked := (.error (.backend (.noTransaction 0)), asked + 1)
  discard asked := asked + 1
  sleep _ asked := asked + 1

theorem run_orderly_flaky :
    (∃ calls, (flaky.run .never { hidden := 0 }).2.record = [] ++ calls ∧ Orderly calls ∧
      (flaky.run .never { hidden := 0 }).2.isOpen = false) ∧
    (flaky.run .never { hidden := 0 }).2.record
      = [.supported (.ok true), .start (.ok ()),
        .body (.error (.transientTransaction (.conflict 0 2))),
        .abort (.error (.backend (.noTransaction 0))), .discard] ∧
    (flaky.run .never { hidden := 4, isOpen := true }).1 = .ok 4 ∧
    (flaky.run .never { hidden := 4, isOpen := true }).2.record = [.body (.ok 4)] := by
  have hjoined := (run_orderly flaky .never { hidden := 4, isOpen := true }).2 rfl
  refine ⟨(run_orderly flaky .never { hidden := 0 }).1 rfl rfl, ?_, hjoined.1, hjoined.2.1⟩
  unfold Driver.run Transaction.run attempts
  rfl

/-! ## What a record tells -/

/-- How the attempts of a record went, in order. -/
def attemptsIn : List (Exchange α) → List (Outcome α)
  | .start (.error e) :: rest => .unstarted e :: attemptsIn rest
  | .start (.ok _) :: .body (.error e) :: rest => .refused e :: attemptsIn rest
  | .start (.ok _) :: .body (.ok value) :: .commit (.error e) :: rest =>
    .uncommitted value e :: attemptsIn rest
  | .start (.ok _) :: .body (.ok value) :: .commit (.ok _) :: rest =>
    .committed value :: attemptsIn rest
  | _ :: rest => attemptsIn rest
  | [] => []

/-- How often a start was asked for. -/
def startsIn : List (Exchange α) → Nat
  | [] => 0
  | .start _ :: rest => startsIn rest + 1
  | _ :: rest => startsIn rest

/-- The milliseconds that were slept. -/
def sleptIn : List (Exchange α) → Nat
  | [] => 0
  | .sleep ms :: rest => ms + sleptIn rest
  | _ :: rest => sleptIn rest

/-- The waits before so many retries, the first of which has a number, together. -/
def waits (policy : RetryPolicy) (number : Nat) : Nat → Nat
  | 0 => 0
  | count + 1 => policy.waitBefore number + waits policy (number + 1) count

section Reading

variable (rest : List (Exchange α))

theorem attemptsIn_exchanges (outcome : Outcome α) :
    attemptsIn (outcome.exchanges ++ rest) = outcome :: attemptsIn rest := by
  cases outcome <;> rfl

theorem startsIn_exchanges (outcome : Outcome α) :
    startsIn (outcome.exchanges ++ rest) = startsIn rest + 1 := by
  cases outcome <;> rfl

theorem sleptIn_exchanges (outcome : Outcome α) :
    sleptIn (outcome.exchanges ++ rest) = sleptIn rest := by
  cases outcome <;> rfl

theorem attemptsIn_undoing (aborts : List (Result Unit)) :
    attemptsIn (undoing aborts ++ rest) = attemptsIn rest := by
  induction aborts with
  | nil => rfl
  | cons answer more ih => exact ih

theorem startsIn_undoing (aborts : List (Result Unit)) :
    startsIn (undoing aborts ++ rest) = startsIn rest := by
  induction aborts with
  | nil => rfl
  | cons answer more ih => exact ih

theorem sleptIn_undoing (aborts : List (Result Unit)) :
    sleptIn (undoing aborts ++ rest) = sleptIn rest := by
  induction aborts with
  | nil => rfl
  | cons answer more ih => exact ih

end Reading

/-- Attempts, starts and waits of a history, with whatever comes after it. -/
theorem History.reading {policy : RetryPolicy} {number retries : Nat}
    {calls : List (Exchange α)} {earlier : List (Outcome α)} {last : Outcome α}
    (h : History policy number retries calls earlier last) (rest : List (Exchange α)) :
    attemptsIn (calls ++ rest) = earlier ++ last :: attemptsIn rest ∧
      startsIn (calls ++ rest) = earlier.length + 1 + startsIn rest ∧
      sleptIn (calls ++ rest) = waits policy number earlier.length + sleptIn rest := by
  induction h with
  | last outcome aborts _ _ =>
    simp only [List.append_assoc, attemptsIn_exchanges, startsIn_exchanges, sleptIn_exchanges,
      attemptsIn_undoing, startsIn_undoing, sleptIn_undoing]
    refine ⟨rfl, ?_, ?_⟩
    · simp only [List.length_nil]; omega
    · simp only [List.length_nil, waits]; omega
  | again outcome aborts htransient _ ih =>
    obtain ⟨hattempts, hstarts, hslept⟩ := ih
    simp only [List.append_assoc, List.cons_append, attemptsIn_exchanges, startsIn_exchanges,
      sleptIn_exchanges, attemptsIn_undoing, startsIn_undoing, sleptIn_undoing]
    refine ⟨?_, ?_, ?_⟩
    · simp only [attemptsIn, hattempts]
    · simp only [startsIn, hstarts, List.length_cons]
      omega
    · simp only [sleptIn, hslept, List.length_cons, waits]
      omega

/-- The retries of a history are as many as the attempts that were made again, each of them after
a transient error, and after a last error of that kind none is left. -/
theorem History.retried {policy : RetryPolicy} {number retries : Nat}
    {calls : List (Exchange α)} {earlier : List (Outcome α)} {last : Outcome α}
    (h : History policy number retries calls earlier last) :
    earlier.length ≤ retries ∧ (∀ outcome ∈ earlier, outcome.isTransient) ∧
      (last.isTransient → earlier.length = retries) := by
  induction h with
  | last outcome aborts _ hlast =>
    refine ⟨Nat.zero_le _, by simp, ?_⟩
    intro htransient
    exact (hlast htransient).symm
  | again outcome aborts htransient _ ih =>
    obtain ⟨hbound, hearlier, hlast⟩ := ih
    refine ⟨Nat.succ_le_succ hbound, ?_, ?_⟩
    · intro other hother
      obtain rfl | hother := List.mem_cons.mp hother
      · exact htransient
      · exact hearlier other hother
    · intro hother
      exact congrArg (· + 1) (hlast hother)

/-- The account of a run: its attempts with the errors and waits between them, and its answer. -/
structure Account (policy : RetryPolicy) (calls : List (Exchange α)) (earlier : List (Outcome α))
    (last : Outcome α) (result : Result α) : Prop where
  attempts : attemptsIn calls = earlier ++ [last]
  starts : startsIn calls = earlier.length + 1
  bounded : startsIn calls ≤ policy.maxRetries.toNat + 1
  retried : ∀ outcome ∈ earlier, ∃ e, outcome.error? = some e ∧ e.isTransient
  slept : sleptIn calls = waits policy 1 (startsIn calls - 1)
  value : ∀ v, result = .ok v ↔ last = .committed v
  /-- The body's own error is answered if it is one for which nothing is run again. -/
  refusal : (∃ e, last = .refused e ∧ result = .error e) ↔
    ∃ e, last = .refused e ∧ e.isTransient = false
  /-- In every other case the run counts as aborted. -/
  aborted : (∀ v, last ≠ .committed v) → (¬∃ e, last = .refused e ∧ e.isTransient = false) →
    ∃ e, last.error? = some e ∧ result = .error (.transactionAborted (startsIn calls) e) ∧
      (e.isTransient → startsIn calls = policy.maxRetries.toNat + 1)

namespace Outcome

theorem error_of_transient {outcome : Outcome α} (h : outcome.isTransient) :
    ∃ e, outcome.error? = some e ∧ e.isTransient := by
  unfold isTransient at h
  cases herror : outcome.error? with
  | none => simp [herror] at h
  | some e => exact ⟨e, rfl, by simpa [herror] using h⟩

/-- A run answers a value if its last attempt was committed. -/
theorem result_eq_ok (outcome : Outcome α) (number : Nat) (v : α) :
    outcome.result number = .ok v ↔ outcome = .committed v := by
  cases outcome <;> simp [result]

/-- A run answers what the body failed with if that is not transient. Otherwise its answer is
another error, since an aborted transaction is not transient. -/
theorem result_eq_refusal (outcome : Outcome α) (number : Nat) :
    (∃ e, outcome = .refused e ∧ outcome.result number = .error e) ↔
      ∃ e, outcome = .refused e ∧ e.isTransient = false := by
  constructor
  · rintro ⟨e, rfl, hresult⟩
    refine ⟨e, rfl, ?_⟩
    cases htransient : e.isTransient with
    | false => rfl
    | true =>
      have haborted : ServiceError.transactionAborted number e = e := by
        simpa [result, htransient] using hresult
      rw [← haborted] at htransient
      cases htransient
  · rintro ⟨e, rfl, hfinal⟩
    exact ⟨e, rfl, by simp [result, hfinal]⟩

/-- All other failures are answered as an aborted transaction. -/
theorem result_eq_aborted {outcome : Outcome α} (hcommitted : ∀ v, outcome ≠ .committed v)
    (hrefused : ¬∃ e, outcome = .refused e ∧ e.isTransient = false) (number : Nat) :
    ∃ e, outcome.error? = some e ∧ outcome.isTransient = e.isTransient ∧
      outcome.result number = .error (.transactionAborted number e) := by
  cases outcome with
  | committed v => exact absurd rfl (hcommitted v)
  | unstarted e | uncommitted _ e => exact ⟨e, rfl, rfl, rfl⟩
  | refused e =>
    have htransient : e.isTransient = true := by
      cases he : e.isTransient with
      | true => rfl
      | false => exact absurd ⟨e, rfl, he⟩ hrefused
    exact ⟨e, rfl, rfl, by simp [result, htransient]⟩

end Outcome

/-- The attempts of a run on a session without a transaction, the time it waits and its answer are
those of its account. -/
theorem run_accounted (driver : Driver σ α) (policy : RetryPolicy) (c : Conversation σ α)
    (hclosed : c.isOpen = false) (hsupported : (driver.supported c.hidden).1 = .ok true) :
    ∃ calls earlier last, (driver.run policy c).2.record = c.record ++ calls ∧
      Account policy calls earlier last (driver.run policy c).1 := by
  obtain ⟨calls, earlier, last, closing, history, hresult, hrecord, hclosing, -⟩ :=
    run_of_closed driver c policy hclosed hsupported
  refine ⟨_, earlier, last, hrecord, ?_⟩
  obtain ⟨hattempts, hstarts, hslept⟩ := history.reading closing
  obtain ⟨hbound, hearlier, hlast⟩ := history.retried
  -- neither the question before the attempts nor a discard after them counts
  have hsilent : attemptsIn closing = [] ∧ startsIn closing = 0 ∧ sleptIn closing = 0 := by
    obtain rfl | ⟨rfl, -⟩ := hclosing
    · exact ⟨rfl, rfl, rfl⟩
    · exact ⟨rfl, rfl, rfl⟩
  rw [hsilent.1] at hattempts
  rw [hsilent.2.1, Nat.add_zero] at hstarts
  rw [hsilent.2.2, Nat.add_zero] at hslept
  have hcounted : startsIn (.supported (.ok true) :: calls ++ closing) = earlier.length + 1 :=
    hstarts
  rw [hresult, Nat.add_comm 1]
  refine ⟨hattempts, hcounted, ?_, ?_, ?_, ?_, ?_, ?_⟩
  · rw [hcounted]
    exact Nat.succ_le_succ hbound
  · intro outcome houtcome
    exact Outcome.error_of_transient (hearlier outcome houtcome)
  · rw [hcounted]
    exact hslept
  · intro v
    exact last.result_eq_ok _ v
  · exact last.result_eq_refusal _
  · intro hcommitted hrefused
    obtain ⟨e, herror, htransient, haborted⟩ :=
      Outcome.result_eq_aborted hcommitted hrefused (earlier.length + 1)
    rw [hcounted]
    refine ⟨e, herror, haborted, ?_⟩
    intro he
    rw [hlast (htransient.trans he)]

theorem run_accounted_flaky :
    (∃ calls earlier last,
      (flaky.run { maxRetries := 1, backoff := 5 } { hidden := 0 }).2.record = [] ++ calls ∧
      Account { maxRetries := 1, backoff := 5 } calls earlier last
        (flaky.run { maxRetries := 1, backoff := 5 } { hidden := 0 }).1) ∧
    (flaky.run { maxRetries := 1, backoff := 5 } { hidden := 0 }).1 = .ok 6 ∧
    attemptsIn (flaky.run { maxRetries := 1, backoff := 5 } { hidden := 0 }).2.record
      = [.refused (.transientTransaction (.conflict 0 2)), .committed 6] ∧
    sleptIn (flaky.run { maxRetries := 1, backoff := 5 } { hidden := 0 }).2.record = 5 := by
  refine ⟨run_accounted flaky _ { hidden := 0 } rfl rfl, ?_, ?_, ?_⟩
  all_goals
    unfold Driver.run Transaction.run attempts attempts
    rfl

end DocumentStore.Transaction
