import DocumentStore.Proofs.Process.Transactions
import DocumentStore.Proofs.Service.Run
import DocumentStore.Proofs.Store.Views

/-!
# Invariants of actions

An action keeps an invariant of the store if the invariant holds of the store that it leaves,
whether it ends with a value, with an error or is stopped. Where it ends with a value more may be
known, which is what the actions that follow can rely on.

A transaction keeps an invariant if its body does, as long as the invariant does not notice that
transactions start and end. The body may be run many times, but only ever where it joins a
transaction, or where there are none.
-/
namespace DocumentStore

/-- Whether a transaction that is asked for on a session is no other than the one around it:
because one is open, or because transactions are not supported. -/
def Store.Joins (s : Store) (id : SessionId) : Prop :=
  s.inTransaction id = true ∨ s.transactional = false

namespace Process

variable {α β σ : Type} {I : Store → Prop}

/-- Whether an action that is run in a state leaves a store of which an invariant holds, and with a
value one of which more is known. -/
structure Keeps (I : Store → Prop) (known : α → Store → Prop) (a : Action α) (s : State) :
    Prop where
  kept : I (ends a.run s).2.store
  known : ∀ value s', ends a.run s = (.ok (.ok value), s') → known value s'.store

namespace Keeps

variable {Q : α → Store → Prop} {R : β → Store → Prop} {a : Action α} {s : State}

theorem of_ends {value : α} {s' : State} (h : ends a.run s = (.ok (.ok value), s'))
    (hI : I s'.store) (hQ : Q value s'.store) : Keeps I Q a s := by
  refine ⟨by rwa [h], ?_⟩
  intro other s'' hother
  rw [h] at hother
  cases hother
  exact hQ

/-- Of what does not end with a value nothing more is known. -/
theorem of_failed (hI : I (ends a.run s).2.store)
    (h : ∀ value, (ends a.run s).1 ≠ .ok (.ok value)) : Keeps I Q a s :=
  ⟨hI, fun value _ hends => absurd (congrArg Prod.fst hends) (h value)⟩

theorem pure {value : α} (hI : I s.store) (hQ : Q value s.store) :
    Keeps I Q (Pure.pure value : Action α) s := of_ends rfl hI hQ

theorem throw (e : ServiceError) (hI : I s.store) :
    Keeps I Q (MonadExcept.throw e : Action α) s :=
  of_failed hI fun _ h => by cases h

theorem ofResult {result : Result α} (hI : I s.store)
    (hQ : ∀ value, result = .ok value → Q value s.store) :
    Keeps I Q (Process.ofResult result) s := by
  cases result with
  | ok value => exact of_ends rfl hI (hQ value rfl)
  | error e => exact throw e hI

/-- What only reads leaves the invariant and the store as they are. -/
theorem still (h : Still a.run) (hI : I s.store) :
    Keeps I (fun _ store => store = s.store) a s := by
  have hsame := h s
  refine ⟨hsame ▸ hI, ?_⟩
  intro value s' hends
  rw [hends] at hsame
  exact hsame

/-- A call to the store is answered with identifiers that are not known beforehand. -/
theorem ask {session : Option SessionId} {call : Store.Call} {Q : call.Answer → Store → Prop}
    (hI : ∀ fresh, I (s.store.answer session fresh call).2)
    (hQ : ∀ fresh value, Q value (s.store.answer session fresh call).2) :
    Keeps I Q (Process.ask session call) s := by
  let fresh (i : Nat) := ObjectId.generated (s.generated + i)
  refine ⟨hI fresh, ?_⟩
  intro value s' hends
  have hstore : (s.store.answer session fresh call).2 = s'.store :=
    congrArg (fun ended => ended.2.store) ((ends_ask session call s).symm.trans hends)
  rw [← hstore]
  exact hQ fresh value

/-- Where the end is the same, the same is kept. -/
theorem of_ends_eq {b : Action α} {s' : State} (h : Keeps I Q b s')
    (hsame : ends a.run s = ends b.run s') : Keeps I Q a s := by
  refine ⟨by rw [hsame]; exact h.kept, ?_⟩
  intro value s'' hends
  rw [hsame] at hends
  exact h.known value s'' hends

/-- What follows may rely on what is known of the value. -/
theorem bind {f : α → Action β} (ha : Keeps I Q a s)
    (hf : ∀ value s', I s'.store → Q value s'.store → Keeps I R (f value) s') :
    Keeps I R (a >>= f) s := by
  have hkept := ha.kept
  have hbind := ends_run_action a f s
  cases hends : ends a.run s with
  | mk result s' =>
    rw [hends] at hkept hbind
    match result with
    | .error stop =>
      refine of_failed (by rw [hbind]; exact hkept) ?_
      intro value h
      rw [hbind] at h
      cases h
    | .ok (.error e) =>
      refine of_failed (by rw [hbind]; exact hkept) ?_
      intro value h
      rw [hbind] at h
      cases h
    | .ok (.ok value) => exact of_ends_eq (hf value s' hkept (ha.known value s' hends)) hbind

theorem mono {J : Store → Prop} {Q' : α → Store → Prop} (h : Keeps I Q a s)
    (hI : ∀ store, I store → J store)
    (hQ : ∀ value store, I store → Q value store → Q' value store) : Keeps J Q' a s := by
  refine ⟨hI _ h.kept, ?_⟩
  intro value s' hends
  have hkept := h.kept
  rw [hends] at hkept
  exact hQ value s'.store hkept (h.known value s' hends)

/-- Where nothing is changed on the way, what is known of each item is known of all in the end. -/
theorem forM {items : List β} {f : β → Action PUnit} {P : β → Prop} (hI : I s.store)
    (h : ∀ item ∈ items, ∀ s', s'.store = s.store →
      Keeps I (fun _ store => store = s.store ∧ P item) (f item) s') :
    Keeps I (fun _ store => store = s.store ∧ ∀ item ∈ items, P item) (items.forM f) s := by
  induction items generalizing s with
  | nil => exact pure hI ⟨rfl, by simp⟩
  | cons item rest ih =>
    refine bind (h item List.mem_cons_self s rfl) ?_
    intro _ s' hkept hfirst
    have hrest := ih hkept fun item hitem s'' hsame => by
      rw [hfirst.1]
      exact h item (List.mem_cons_of_mem _ hitem) s'' (hsame.trans hfirst.1)
    refine hrest.mono (fun _ hstore => hstore) ?_
    intro _ store _ hknown
    exact ⟨hknown.1.trans hfirst.1, List.forall_mem_cons.mpr ⟨hfirst.2, hknown.2⟩⟩

theorem each {items : List β} {f : β → Action PUnit} (hI : I s.store)
    (h : ∀ item ∈ items, ∀ s', I s'.store → Keeps I (fun _ _ => True) (f item) s') :
    Keeps I (fun _ _ => True) (items.forM f) s := by
  induction items generalizing s with
  | nil => exact pure hI trivial
  | cons item rest ih =>
    refine bind (h item List.mem_cons_self s hI) fun _ s' hkept _ => ?_
    exact ih hkept fun item hitem => h item (List.mem_cons_of_mem _ hitem)

theorem mapM {items : List β} {f : β → Action α} (hI : I s.store)
    (h : ∀ item s', I s'.store → Keeps I (fun _ _ => True) (f item) s') :
    Keeps I (fun _ _ => True) (items.mapM f) s := by
  induction items generalizing s with
  | nil =>
    rw [List.mapM_nil]
    exact pure hI trivial
  | cons item rest ih =>
    rw [List.mapM_cons]
    refine bind (h item s hI) fun value s' hkept _ => ?_
    exact bind (ih hkept) fun values s'' hkept _ => pure hkept trivial

/-- A wrapper changes errors only. -/
theorem wrapping (wrap : ServiceError → ServiceError) (h : Keeps I Q a s) :
    Keeps I Q (Process.wrapping wrap a) s := by
  obtain ⟨hkept, hknown⟩ := h
  refine ⟨by rwa [ends_wrapping], ?_⟩
  intro value s' hends
  rw [ends_wrapping] at hends
  cases hrun : ends a.run s with
  | mk result s'' =>
    rw [hrun] at hends
    match result with
    | .error stop => cases hends
    | .ok (.error e) => cases hends
    | .ok (.ok other) =>
      cases hends
      exact hknown _ _ hrun

/-! ## Programs -/

section Programs

variable {answer : (request : Request) → Action request.Answer}

/-- A program goes on with what is known of its value. -/
theorem program {program : Program α} {next : α → Program β}
    (ha : Keeps I Q (program.run answer : Process (Result α)) s)
    (hf : ∀ value s', I s'.store → Q value s'.store →
      Keeps I R ((next value).run answer : Process (Result β)) s') :
    Keeps I R ((program >>= next).run answer : Process (Result β)) s := by
  refine of_ends_eq (bind ha hf) ?_
  exact (Program.ends_bind program next s).trans (ends_run_action _ _ s).symm

/-- A call to a service is a request. -/
theorem call {service : String} {c : Service.Call} {Q : c.Answer → Store → Prop}
    (h : Keeps I Q (answer (.call service false c)) s) :
    Keeps I Q ((Program.call service c).run answer : Process (Result c.Answer)) s :=
  of_ends_eq h (Program.ends_request (.call service false c) s)

end Programs

end Keeps

/-! ## Transactions -/

/-- Whether an invariant does not notice that transactions of a session start and end, and the
session is open where it holds. -/
structure Unnoticed (I : Store → Prop) (id : SessionId) : Prop where
  isOpen : ∀ store, I store → store.IsOpen id
  start : ∀ store, I store → I (store.start id).2
  commit : ∀ store, I store → I (store.commit id).2
  abort : ∀ store, I store → I (store.abort id)

section Transactions

variable {id : SessionId} {body : StateT σ Process (Result α)} (hI : Unnoticed I id)

theorem ends_runTransaction_of_unsupported {policy : RetryPolicy} {s : State}
    (h : s.store.transactional = false) (hfree : s.store.inTransaction id = false) (own : σ) :
    ends ((runTransaction policy id body).run own) s = ends (body.run own) s := by
  unfold runTransaction Transaction.run
  rw [ends_run_bind, ends_inTransaction_carried, hfree]
  simp only [Bool.false_eq_true, if_false]
  rw [ends_run_bind, ends_supported_carried, h]

/-- Where there is nothing to start, a transaction is its body. -/
theorem ends_transact_of_joins {policy : RetryPolicy} {s : State} (h : s.store.Joins id)
    (action : Action α) : ends (transact policy id action).run s = ends action.run s := by
  cases hin : s.store.inTransaction id with
  | true => exact ends_transact_of_open hin action
  | false =>
    have hunsupported : s.store.transactional = false := by
      obtain hopen | hunsupported := h
      · rw [hin] at hopen
        cases hopen
      · exact hunsupported
    rw [ends_transact, ends_runTransaction_of_unsupported hunsupported hin, ends_run_lift]
    cases ends action.run s with
    | mk result s' => cases result <;> rfl

include hI

/-- An attempt keeps what its body keeps in a transaction. -/
theorem attempt_kept
    (hbody : ∀ own s, I s.store → s.store.inTransaction id = true →
      I (ends (body.run own) s).2.store)
    (own : σ) {s : State} (h : I s.store) :
    I (ends ((Transaction.attempt (carried σ id) body).run own) s).2.store := by
  have hstarted := hI.start _ h
  obtain ⟨e, failingStarts, hstart⟩ | ⟨-, -, hstart⟩ := s.store.start_cases id
  · unfold Transaction.attempt
    rw [ends_run_bind, ends_start_carried, hstart]
    rwa [hstart] at hstarted
  · -- only after a start that succeeded does the body run, and then in a transaction
    have hin : (begun id s).store.inTransaction id = true :=
      Store.inTransaction_eq_true.mpr ⟨_, transaction?_begun (hI.isOpen _ h)⟩
    rw [hstart] at hstarted
    have hworked := hbody own (begun id s) hstarted hin
    rw [ends_attempt_of_start hstart]
    cases hrun : ends (body.run own) (begun id s) with
    | mk result ended =>
      rw [hrun] at hworked
      match result with
      | .error stop => exact hworked
      | .ok (.error e, own') => exact hworked
      | .ok (.ok value, own') =>
        have hcommitted := hI.commit _ hworked
        simp only
        cases (ended.store.commit id).1 with
        | error e => exact hcommitted
        | ok _ => exact hcommitted

theorem settle_kept (made : Transaction.Attempt α) (own : σ) {s : State} (h : I s.store) :
    ∃ s', ends ((made.settle (carried σ id)).run own) s = (.ok ((), own), s') ∧ I s'.store := by
  cases made with
  | committed value => exact ⟨s, rfl, h⟩
  | refused e => exact ⟨_, ends_rollback_carried id own s, hI.abort _ h⟩
  | broken e => exact ⟨_, ends_rollback_carried id own s, hI.abort _ h⟩

/-- An attempt is settled before it is decided whether there is another. -/
theorem round_kept
    (hbody : ∀ own s, I s.store → s.store.inTransaction id = true →
      I (ends (body.run own) s).2.store)
    {again : ServiceError → StateT σ Process (Result α)}
    (hagain : ∀ e own s, I s.store → I (ends ((again e).run own) s).2.store)
    (number : Nat) (own : σ) {s : State} (h : I s.store) :
    I (ends (StateT.run (do
      let made ← Transaction.attempt (carried σ id) body
      made.settle (carried σ id)
      match made.verdict number with
      | .ok result => return result
      | .error e => again e) own) s).2.store := by
  -- whatever the verdict is, it comes after the attempt was settled
  have hmade := attempt_kept hI hbody own h
  rw [ends_run_bind]
  cases hends : ends ((Transaction.attempt (carried σ id) body).run own) s with
  | mk result s' =>
    rw [hends] at hmade
    cases result with
    | error stop => exact hmade
    | ok made =>
      obtain ⟨s'', hsettled, hkept⟩ := settle_kept hI made.1 made.2 hmade
      simp only
      rw [ends_run_bind_of_ok hsettled]
      cases made.1.verdict number with
      | ok result => exact hkept
      | error e => exact hagain e made.2 s'' hkept

/-- So do attempts that are made until one is decided. -/
theorem attempts_kept
    (hbody : ∀ own s, I s.store → s.store.inTransaction id = true →
      I (ends (body.run own) s).2.store)
    (policy : RetryPolicy) (number retries : Nat) (own : σ) {s : State} (h : I s.store) :
    I (ends ((Transaction.attempts (carried σ id) policy body number retries).run own)
      s).2.store := by
  induction retries generalizing number own s with
  | zero =>
    rw [Transaction.attempts]
    refine round_kept hI hbody ?_ number own h
    intro e own s hs
    exact hs
  | succ retries ih =>
    rw [Transaction.attempts]
    refine round_kept hI hbody ?_ number own h
    intro e own s hs
    simp only
    rw [ends_run_bind, ends_sleep_carried]
    have hwaited := Still.sleep (policy.waitBefore number) s
    cases hslept : ends (sleep (policy.waitBefore number)) s with
    | mk result s' =>
      rw [hslept] at hwaited
      have hkept : I s'.store := hwaited.symm ▸ hs
      cases result with
      | error stop => exact hkept
      | ok _ => exact ih (number + 1) own hkept

/-- A transaction keeps what its body keeps where it joins one. -/
theorem transact_kept {action : Action α}
    (hbody : ∀ s, I s.store → s.store.Joins id → I (ends action.run s).2.store)
    (policy : RetryPolicy) {s : State} (h : I s.store) :
    I (ends (transact policy id action).run s).2.store := by
  by_cases hjoins : s.store.Joins id
  · rw [ends_transact_of_joins hjoins]
    exact hbody s h hjoins
  · obtain ⟨hfree, hsupported⟩ := not_or.mp hjoins
    -- the attempts carry a state of their own, which the action does not look at
    have hcarried : ∀ (own : Unit) (s : State), I s.store → s.store.inTransaction id = true →
        I (ends ((StateT.lift action.run : StateT Unit Process (Result α)).run own) s).2.store := by
      intro own s hs hin
      rw [ends_run_lift]
      exact hbody s hs (.inl hin)
    rw [ends_transact, ends_runTransaction (by simpa using hsupported) (by simpa using hfree)]
    exact hI.abort _ (attempts_kept hI hcarried policy 1 _ () h)

end Transactions

end Process

end DocumentStore
