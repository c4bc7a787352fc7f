import DocumentStore.Proofs.Process.Invariant

/-!
# Processes that come to an end

A process that calls rules is stopped if these call each other in more levels than it may. If they
do come to an end, then a number of levels is enough for them, which may depend on where they start,
and more levels make no difference.
-/
namespace DocumentStore.Process

open Transaction

variable {α β σ : Type}

/-- Whether a process, given a number of levels, comes to an end of its own from a state. That end
is the same for all numbers of levels that are large enough. -/
def SettlesFrom (s : State) (p : Nat → Process α) : Prop :=
  ∃ levels, (ends (p levels) s).1 ≠ .error .nesting ∧
    ∀ levels' ≥ levels, ends (p levels') s = ends (p levels) s

/-- Whether it does so from wherever it starts. -/
def Settles (p : Nat → Process α) : Prop := ∀ s, SettlesFrom s p

/-- A process settles where its end is a part of the end of another that does. -/
theorem SettlesFrom.of_view {p : Nat → Process α} {q : Nat → Process β} {s s' : State}
    (hq : SettlesFrom s' q) (view : Except Stop β × State → Except Stop α × State)
    (hview : ∀ ended, (view ended).1 = .error .nesting → ended.1 = .error .nesting)
    (h : ∀ levels, ends (p levels) s = view (ends (q levels) s')) : SettlesFrom s p := by
  obtain ⟨levels, hends, hsame⟩ := hq
  refine ⟨levels, fun hnesting => ?_, fun levels' hmore => ?_⟩
  · rw [h] at hnesting
    exact hends (hview _ hnesting)
  · rw [h, h, hsame levels' hmore]

namespace Settles

/-! ## Processes -/

/-- Where levels do not matter it is enough not to be stopped for them. -/
theorem const {p : Process α} (h : ∀ s, (ends p s).1 ≠ .error .nesting) : Settles fun _ => p :=
  fun s => ⟨0, h s, fun _ _ => rfl⟩

theorem of_ends {p : Process α} (h : ∀ s, ∃ a, (ends p s).1 = .ok a) : Settles fun _ => p := by
  refine const fun s hends => ?_
  obtain ⟨a, ha⟩ := h s
  rw [ha] at hends
  cases hends

/-- A process that hands one level less to its parts. -/
theorem of_succ {p : Nat → Process α} (h : Settles fun levels => p (levels + 1)) : Settles p := by
  intro s
  obtain ⟨levels, hends, hsame⟩ := h s
  refine ⟨levels + 1, hends, fun levels' hmore => ?_⟩
  obtain ⟨more, rfl⟩ : ∃ n, levels' = n + 1 := ⟨levels' - 1, by omega⟩
  exact hsame more (Nat.le_of_succ_le_succ hmore)

theorem pure (a : α) : Settles fun _ => (Pure.pure a : Process α) := of_ends fun _ => ⟨a, rfl⟩

/-- What is enough for both parts is enough for one after the other. -/
theorem bind {p : Nat → Process α} {f : Nat → α → Process β} (hp : Settles p)
    (hf : ∀ a, Settles fun levels => f levels a) : Settles fun levels => p levels >>= f levels := by
  intro s
  obtain ⟨first, hfirst, hsame⟩ := hp s
  cases hends : ends (p first) s with
  | mk result s' =>
    rw [hends] at hfirst hsame
    cases result with
    | error stop =>
      have hstopped (levels : Nat) (hmore : first ≤ levels) :
          ends (p levels >>= f levels) s = (.error stop, s') := by
        rw [ends_bind, hsame levels hmore]
      refine ⟨first, ?_, fun levels hmore => ?_⟩
      · rw [hstopped first (Nat.le_refl _)]
        exact fun h => hfirst (congrArg _ (Except.error.inj h))
      · rw [hstopped levels hmore, hstopped first (Nat.le_refl _)]
    | ok a =>
      obtain ⟨second, hsecond, hsame'⟩ := hf a s'
      have hdone (levels : Nat) (hmore : max first second ≤ levels) :
          ends (p levels >>= f levels) s = ends (f second a) s' := by
        rw [ends_bind_of_ok (hsame levels ((Nat.max_le.mp hmore).1)),
          hsame' levels ((Nat.max_le.mp hmore).2)]
      refine ⟨max first second, ?_, fun levels hmore => ?_⟩
      · rw [hdone _ (Nat.le_refl _)]
        exact hsecond
      · rw [hdone levels hmore, hdone _ (Nat.le_refl _)]

theorem map (g : α → β) {p : Nat → Process α} (hp : Settles p) :
    Settles fun levels => g <$> p levels := by
  simp only [map_eq_pure_bind]
  exact hp.bind fun a => .pure (g a)

theorem inTransaction (id : SessionId) : Settles fun _ => Process.inTransaction id :=
  of_ends fun _ => ⟨_, rfl⟩

theorem record (entry : Entry) : Settles fun _ => Process.record entry :=
  of_ends fun _ => ⟨(), rfl⟩

theorem tick (name : String) : Settles fun _ => Process.tick name := of_ends fun _ => ⟨_, rfl⟩

theorem sleep (ms : Nat) : Settles fun _ => Process.sleep ms := by
  refine const fun s => ?_
  unfold Process.sleep
  rw [ends_bind_of_ok (ends_get s)]
  cases s.deadline with
  | none => exact nofun
  | some deadline =>
    -- past the deadline a sleep stops the process, but for the deadline
    simp only
    split
    · exact nofun
    · exact nofun

theorem usingSession {p : Nat → SessionId → Process α}
    (hp : ∀ id, Settles fun levels => p levels id) (session : Option SessionId) :
    Settles fun levels => Process.usingSession session (p levels) := fun s =>
  (hp (s.entered session).1 (s.entered session).2).of_view
    (fun ended => (ended.1, ended.2.left (s.entered session).1 session)) (fun _ => id)
    fun levels => ends_usingSession session (p levels) s

/-! ## Actions -/

theorem ask (session : Option SessionId) (call : Store.Call) :
    Settles fun _ => (Process.ask session call).run := of_ends fun s => ⟨_, by rw [ends_ask]⟩

theorem ofResult (result : Result α) : Settles fun _ => (Process.ofResult result).run :=
  .pure result

theorem throw (e : ServiceError) : Settles fun _ => (MonadExcept.throw e : Action α).run := .pure _

theorem lift {p : Nat → Process α} (h : Settles p) :
    Settles fun levels => (ExceptT.lift (p levels) : Action α).run := h.map _

theorem wrapping (wrap : ServiceError → ServiceError) {a : Nat → Action α}
    (h : Settles fun levels => (a levels).run) :
    Settles fun levels => (Process.wrapping wrap (a levels)).run := h.map _

theorem action {a : Nat → Action α} {f : Nat → α → Action β}
    (ha : Settles fun levels => (a levels).run)
    (hf : ∀ value, Settles fun levels => (f levels value).run) :
    Settles fun levels => (a levels >>= f levels).run := by
  refine ha.bind fun result => ?_
  cases result with
  | ok value => exact hf value
  | error e => exact .pure _

theorem forM {items : List β} {f : Nat → β → Action PUnit}
    (h : ∀ item ∈ items, Settles fun levels => (f levels item).run) :
    Settles fun levels => (items.forM (f levels)).run := by
  induction items with
  | nil => exact .pure _
  | cons item rest ih =>
    refine .action (h item List.mem_cons_self) fun _ => ?_
    exact ih fun item hitem => h item (List.mem_cons_of_mem _ hitem)

theorem mapM {items : List β} {f : Nat → β → Action α}
    (h : ∀ item, Settles fun levels => (f levels item).run) :
    Settles fun levels => (items.mapM (f levels)).run := by
  induction items with
  | nil =>
    simp only [List.mapM_nil]
    exact .pure _
  | cons item rest ih =>
    simp only [List.mapM_cons]
    exact .action (h item) fun value => .action ih fun values => .pure _

/-! ## Transactions -/

theorem run_bind {p : Nat → StateT σ Process α} {f : Nat → α → StateT σ Process β}
    (hp : ∀ own, Settles fun levels => (p levels).run own)
    (hf : ∀ a own, Settles fun levels => (f levels a).run own) (own : σ) :
    Settles fun levels => (p levels >>= f levels).run own := by
  simp only [StateT.run_bind]
  exact (hp own).bind fun r => hf r.1 r.2

theorem settle {id : SessionId} (made : Attempt α) (own : σ) :
    Settles fun _ => (made.settle (carried σ id)).run own := by
  cases made with
  | committed value => exact .pure _
  | refused e | broken e =>
    exact of_ends fun s => ⟨_, congrArg Prod.fst (ends_rollback_carried id own s)⟩

variable {id : SessionId} {body : Nat → StateT σ Process (Result α)}
  (hbody : ∀ own, Settles fun levels => (body levels).run own)
include hbody

theorem attempt (own : σ) :
    Settles fun levels => (Transaction.attempt (carried σ id) (body levels)).run own := by
  unfold Transaction.attempt
  refine run_bind (fun own => of_ends fun s => ⟨_, rfl⟩) (fun started own => ?_) own
  cases started with
  | error e => exact .pure _
  | ok _ =>
    refine run_bind hbody (fun result own => ?_) own
    cases result with
    | error e => exact .pure _
    | ok value =>
      refine run_bind (fun own => of_ends fun s => ⟨_, rfl⟩) (fun committed own => ?_) own
      cases committed with
      | error e => exact .pure _
      | ok _ => exact .pure _

theorem attempts (policy : RetryPolicy) (number retries : Nat) (own : σ) :
    Settles fun levels =>
      (Transaction.attempts (carried σ id) policy (body levels) number retries).run own := by
  induction retries generalizing number own with
  | zero =>
    unfold Transaction.attempts
    refine run_bind (attempt hbody) (fun made own => ?_) own
    refine run_bind (settle made) (fun _ own => ?_) own
    cases made.verdict number with
    | ok result => exact .pure _
    | error e => exact .pure _
  | succ retries ih =>
    unfold Transaction.attempts
    refine run_bind (attempt hbody) (fun made own => ?_) own
    refine run_bind (settle made) (fun _ own => ?_) own
    cases made.verdict number with
    | ok result => exact .pure _
    | error e =>
      refine run_bind (fun own => ?_) (fun _ own => ih (number + 1) own) own
      exact (sleep (policy.waitBefore number)).map _

omit hbody in
theorem transact (policy : RetryPolicy) (id : SessionId) {action : Nat → Action α}
    (h : Settles fun levels => (action levels).run) :
    Settles fun levels => (Process.transact policy id (action levels)).run := by
  intro s
  by_cases hjoins : s.store.Joins id
  · exact (h s).of_view (fun ended => ended) (fun _ h => h) fun levels =>
      ends_transact_of_joins hjoins _
  · obtain ⟨hfree, hsupported⟩ := not_or.mp hjoins
    have hcarried (own : Unit) : Settles fun levels =>
        (StateT.lift (action levels).run : StateT Unit Process (Result α)).run own := h.map _
    -- what is done after the attempts does not look at how they ended
    have hattempts := @attempts _ _ id _ hcarried policy 1 policy.maxRetries.toNat () s
    refine hattempts.of_view
      (fun ended => (ended.1.map (·.1), { ended.2 with store := ended.2.store.abort id }))
      (fun ended => ?_) fun levels => ?_
    · obtain ⟨result, s'⟩ := ended
      cases result with
      | error stop => exact fun hnesting => congrArg _ (Except.error.inj hnesting)
      | ok r => exact nofun
    · rw [ends_transact, ends_runTransaction (by simpa using hsupported) (by simpa using hfree)]

end Settles

end DocumentStore.Process
