import DocumentStore.Proofs.Process.Invariant
import DocumentStore.Proofs.Service.Trace

/-!
# The order of a deletion

A deletion under rules first finds the keys that it is about. Then come the rules that may deny
it, and then attempts to run, in a transaction, the rules before, one call to the store and the
rules after. Every rule of the deletion is told the same keys, in whatever attempt it is called.
-/
namespace DocumentStore

open Process Transaction

variable {α : Type}

namespace Service

/-! ## Attempts -/

/-- The traces of an attempt to run a body in a transaction. -/
inductive Attempted (body : Course α) : List Event → Except Stop (Attempt α) → Prop where
  | unstarted {e : ServiceError} : Attempted body [.started (.error e)] (.ok (.broken e))
  | stopped {events : List Event} {stop : Stop} (h : body events (.error stop)) :
    Attempted body (.started (.ok ()) :: events) (.error stop)
  | refused {events : List Event} {e : ServiceError} (h : body events (.ok (.error e))) :
    Attempted body (.started (.ok ()) :: events) (.ok (.refused e))
  | uncommitted {events : List Event} {value : α} {e : ServiceError}
    (h : body events (.ok (.ok value))) :
    Attempted body (.started (.ok ()) :: (events ++ [.committed (.error e)])) (.ok (.broken e))
  | committed {events : List Event} {value : α} (h : body events (.ok (.ok value))) :
    Attempted body (.started (.ok ()) :: (events ++ [.committed (.ok ())]))
      (.ok (.committed value))

/-- The error of an attempt that was not committed. -/
inductive Failed : Attempt α → ServiceError → Prop where
  | refused (e : ServiceError) : Failed (.refused e) e
  | broken (e : ServiceError) : Failed (.broken e) e

/-- The traces of an attempt of a number, and of what is done next if it has failed with a transient
error. -/
inductive Round (body : Course α) (number : Nat) (next : ServiceError → Course α) : Course α where
  | committed {events : List Event} {value : α}
    (h : Attempted body events (.ok (.committed value))) :
    Round body number next events (.ok (.ok value))
  | stopped {events : List Event} {stop : Stop} (h : Attempted body events (.error stop)) :
    Round body number next events (.error stop)
  | refused {events : List Event} {e : ServiceError}
    (h : Attempted body events (.ok (.refused e))) (hfinal : e.isTransient = false) :
    Round body number next (events ++ [.abandoned]) (.ok (.error e))
  | broken {events : List Event} {e : ServiceError}
    (h : Attempted body events (.ok (.broken e))) (hfinal : e.isTransient = false) :
    Round body number next (events ++ [.abandoned]) (.ok (.error (.transactionAborted number e)))
  | again {events rest : List Event} {made : Attempt α} {e : ServiceError}
    {ended : Except Stop (Result α)} (h : Attempted body events (.ok made))
    (hfailed : Failed made e) (htransient : e.isTransient = true) (hnext : next e rest ended) :
    Round body number next (events ++ .abandoned :: rest) ended

/-- The traces of a wait and of what follows it. -/
inductive Waited (ms : Nat) (next : Course α) : Course α where
  | stopped {stop : Stop} : Waited ms next [.waited ms (.error stop)] (.error stop)
  | over {rest : List Event} {ended : Except Stop (Result α)} (h : next rest ended) :
    Waited ms next (.waited ms (.ok ()) :: rest) ended

/-- The traces of attempts, the first of which has a number and can be followed by a number of
retries. -/
def Attempts (policy : RetryPolicy) (body : Course α) : (number retries : Nat) → Course α
  | number, 0 => Round body number fun e => Silent (.error (.transactionAborted number e))
  | number, retries + 1 => Round body number fun _ =>
    Waited (policy.waitBefore number) (Attempts policy body (number + 1) retries)

/-- The traces of a body in a transaction. There are attempts only if the transaction is opened
for the body. -/
inductive Transacted (policy : RetryPolicy) (body : Course α) : Course α where
  | joined {events : List Event} {ended : Except Stop (Result α)} (h : body events ended) :
    Transacted policy body (.consulted true :: events) ended
  | unsupported {events : List Event} {ended : Except Stop (Result α)} (h : body events ended) :
    Transacted policy body (.consulted false :: .supported false :: events) ended
  | opened {events : List Event} {ended : Except Stop (Result α)}
    (h : Attempts policy body 1 policy.maxRetries.toNat events ended) :
    Transacted policy body (.consulted false :: .supported true :: (events ++ [.abandoned])) ended

section

variable {answerer : Answerer} {id : SessionId} {course : Course α} {action : Action α}
  (hbody : Goes answerer (some id) course action)

include hbody

theorem leads_attempt (s : State) :
    let r := ends ((attempt (carried Unit id) (StateT.lift action.run)).run ()) s
    ∃ events, Leads answerer (some id) events s r.2 ∧ Attempted course events (r.1.map (·.1)) := by
  have hstart : (Event.started (s.store.start id).1).Happens answerer (some id) s
      { s with store := (s.store.start id).2 } := ⟨id, rfl, rfl⟩
  unfold attempt
  rw [ends_run_bind, ends_start_carried]
  -- an attempt is over at the first of its steps that fails
  cases hstarted : (s.store.start id).1 with
  | error e =>
    rw [hstarted] at hstart
    exact ⟨_, .single hstart, .unstarted⟩
  | ok _ =>
    rw [hstarted] at hstart
    simp only
    obtain ⟨events, hleads, hcourse⟩ := hbody { s with store := (s.store.start id).2 }
    rw [ends_run_bind, ends_run_lift]
    cases hrun : ends action.run { s with store := (s.store.start id).2 } with
    | mk result ended =>
      rw [hrun] at hleads hcourse
      match result with
      | .error stop => exact ⟨_, .cons hstart hleads, .stopped hcourse⟩
      | .ok (.error e) => exact ⟨_, .cons hstart hleads, .refused hcourse⟩
      | .ok (.ok value) =>
        have hcommit : (Event.committed (ended.store.commit id).1).Happens answerer (some id) ended
            { ended with store := (ended.store.commit id).2 } := ⟨id, rfl, rfl⟩
        simp only [Except.map]
        rw [ends_run_bind, ends_commit_carried]
        cases hcommitted : (ended.store.commit id).1 with
        | error e =>
          rw [hcommitted] at hcommit
          exact ⟨_, .cons hstart (hleads.append (.single hcommit)), .uncommitted hcourse⟩
        | ok _ =>
          rw [hcommitted] at hcommit
          exact ⟨_, .cons hstart (hleads.append (.single hcommit)), .committed hcourse⟩

/-- An attempt that has failed is rolled back before it is decided whether there is another. -/
theorem leads_round (number : Nat) {next : ServiceError → Course α}
    {again : ServiceError → StateT Unit Process (Result α)}
    (hagain : ∀ e s, let r := ends ((again e).run ()) s
      ∃ events, Leads answerer (some id) events s r.2 ∧ next e events (r.1.map (·.1)))
    (s : State) :
    let r := ends (StateT.run (do
      let made ← attempt (carried Unit id) (StateT.lift action.run)
      made.settle (carried Unit id)
      match made.verdict number with
      | .ok result => return result
      | .error e => again e) ()) s
    ∃ events, Leads answerer (some id) events s r.2 ∧
      Round course number next events (r.1.map (·.1)) := by
  obtain ⟨events, hleads, hattempted⟩ := leads_attempt hbody s
  rw [ends_run_bind]
  cases hmade : ends ((attempt (carried Unit id) (StateT.lift action.run)).run ()) s with
  | mk result s' =>
    rw [hmade] at hleads hattempted
    have habandoned : Event.abandoned.Happens answerer (some id) s'
        { s' with store := s'.store.abort id } := ⟨id, rfl, rfl⟩
    -- whatever has failed, the transaction is abandoned before the error is looked at
    have hrolled := hleads.append (.single habandoned)
    match result with
    | .error stop => exact ⟨events, hleads, .stopped hattempted⟩
    | .ok (.committed value, _) => exact ⟨events, hleads, .committed hattempted⟩
    | .ok (.refused e, _) | .ok (.broken e, _) =>
      simp only [Attempt.settle]
      rw [ends_run_bind, ends_rollback_carried]
      cases htransient : e.isTransient with
      | false =>
        simp only [Attempt.verdict, htransient]
        refine ⟨_, hrolled, ?_⟩
        first
          | exact .refused hattempted htransient
          | exact .broken hattempted htransient
      | true =>
        simp only [Attempt.verdict, htransient]
        obtain ⟨rest, hrest, hnext⟩ := hagain e { s' with store := s'.store.abort id }
        exact ⟨_, hleads.append (.cons habandoned hrest),
          .again hattempted (by constructor) htransient hnext⟩

theorem leads_attempts (policy : RetryPolicy) (number retries : Nat) (s : State) :
    let r := ends ((attempts (carried Unit id) policy (StateT.lift action.run) number retries).run
      ()) s
    ∃ events, Leads answerer (some id) events s r.2 ∧
      Attempts policy course number retries events (r.1.map (·.1)) := by
  induction retries generalizing number s with
  | zero =>
    rw [attempts]
    exact leads_round hbody number (fun e s => ⟨[], .nil s, .intro⟩) s
  | succ retries ih =>
    rw [attempts]
    refine leads_round hbody number (fun e s => ?_) s
    simp only
    rw [ends_run_bind, ends_sleep_carried]
    cases hslept : ends (sleep (policy.waitBefore number)) s with
    | mk result s' =>
      have hwaited (ended : Except Stop Unit)
          (h : ends (sleep (policy.waitBefore number)) s = (ended, s')) :
          (Event.waited (policy.waitBefore number) ended).Happens answerer (some id) s s' := h
      cases result with
      | error stop => exact ⟨_, .single (hwaited _ hslept), .stopped⟩
      | ok _ =>
        obtain ⟨rest, hrest, hnext⟩ := ih (number + 1) s'
        exact ⟨_, .cons (hwaited _ hslept) hrest, .over hnext⟩

/-- A body in a transaction joins the one that is open, or does without where there are none, or
is attempted in one that is opened for it. -/
theorem goes_transact (policy : RetryPolicy) :
    Goes answerer (some id) (Transacted policy course) (transact policy id action) := by
  intro s
  have hconsulted : (Event.consulted (s.store.inTransaction id)).Happens answerer (some id) s s :=
    ⟨rfl, rfl⟩
  have hsupported : (Event.supported s.store.transactional).Happens answerer (some id) s s :=
    ⟨rfl, rfl⟩
  cases hin : s.store.inTransaction id with
  | true =>
    rw [hin] at hconsulted
    obtain ⟨events, hleads, hcourse⟩ := hbody s
    rw [ends_transact_of_open hin]
    exact ⟨_, .cons hconsulted hleads, .joined hcourse⟩
  | false =>
    rw [hin] at hconsulted
    cases htransactional : s.store.transactional with
    | false =>
      rw [htransactional] at hsupported
      obtain ⟨events, hleads, hcourse⟩ := hbody s
      rw [ends_transact_of_joins (.inr htransactional)]
      exact ⟨_, .cons hconsulted (.cons hsupported hleads), .unsupported hcourse⟩
    | true =>
      rw [htransactional] at hsupported
      obtain ⟨events, hleads, hcourse⟩ := leads_attempts hbody policy 1 policy.maxRetries.toNat s
      rw [ends_transact, ends_runTransaction htransactional hin]
      refine ⟨_, .cons hconsulted (.cons hsupported (hleads.append (.single ?_))), .opened hcourse⟩
      exact ⟨id, rfl, rfl⟩

end

/-! ## Rules that are called -/

/-- Whether an event calls no other rules than some delete rules, told what they may be told. -/
def Event.Calls (allowed : Rule DeletePhase (Deletion → Program Unit) → Deletion → Prop) :
    Event → Prop
  | .ruled rule told _ => allowed rule told
  | .validated .. => False
  | _ => True

/-- Whether an operation calls no other rules. -/
def Course.Calls (allowed : Rule DeletePhase (Deletion → Program Unit) → Deletion → Prop)
    (course : Course α) : Prop :=
  ∀ events ended, course events ended → ∀ event ∈ events, event.Calls allowed

section

variable {allowed : Rule DeletePhase (Deletion → Program Unit) → Deletion → Prop}

theorem Silent.calls (result : Result α) : (Silent result).Calls allowed := by
  rintro _ _ ⟨⟩
  simp

theorem Asked.calls (call : Store.Call) : (Asked call).Calls allowed := by
  rintro _ _ ⟨answer⟩
  simp [Event.Calls]

theorem Then.calls {β : Type} {first : Course α} {next : α → Course β}
    (hfirst : first.Calls allowed) (hnext : ∀ value, (next value).Calls allowed) :
    (Then first next).Calls allowed := by
  rintro events ended (⟨hevents, hrest⟩ | hevents | hevents) event hevent
  · rcases List.mem_append.mp hevent with hevent | hevent
    · exact hfirst _ _ hevents event hevent
    · exact hnext _ _ _ hrest event hevent
  · exact hfirst _ _ hevents event hevent
  · exact hfirst _ _ hevents event hevent

variable {body : Course α} (hbody : body.Calls allowed)

include hbody

theorem Attempted.calls {events : List Event} {ended : Except Stop (Attempt α)}
    (h : Attempted body events ended) : ∀ event ∈ events, event.Calls allowed := by
  cases h with
  | unstarted => simp [Event.Calls]
  | stopped h | refused h => exact List.forall_mem_cons.mpr ⟨trivial, hbody _ _ h⟩
  | uncommitted h | committed h =>
    refine List.forall_mem_cons.mpr ⟨trivial, List.forall_mem_append.mpr ⟨hbody _ _ h, ?_⟩⟩
    simp [Event.Calls]

theorem Round.calls {number : Nat} {next : ServiceError → Course α}
    (hnext : ∀ e, (next e).Calls allowed) : (Round body number next).Calls allowed := by
  intro events ended h
  cases h with
  | committed h | stopped h => exact h.calls hbody
  | refused h | broken h =>
    refine List.forall_mem_append.mpr ⟨h.calls hbody, ?_⟩
    simp [Event.Calls]
  | again h _ _ hrest =>
    refine List.forall_mem_append.mpr ⟨h.calls hbody, List.forall_mem_cons.mpr ⟨trivial, ?_⟩⟩
    exact hnext _ _ _ hrest

theorem Attempts.calls (policy : RetryPolicy) (number retries : Nat) :
    (Attempts policy body number retries).Calls allowed := by
  induction retries generalizing number with
  | zero => exact Round.calls hbody fun e => Silent.calls _
  | succ retries ih =>
    refine Round.calls hbody fun _ => ?_
    rintro _ _ (_ | h)
    · simp [Event.Calls]
    · exact List.forall_mem_cons.mpr ⟨trivial, ih _ _ _ h⟩

theorem Transacted.calls (policy : RetryPolicy) : (Transacted policy body).Calls allowed := by
  rintro _ _ (h | h | h)
  · exact List.forall_mem_cons.mpr ⟨trivial, hbody _ _ h⟩
  · exact List.forall_mem_cons.mpr ⟨trivial, List.forall_mem_cons.mpr ⟨trivial, hbody _ _ h⟩⟩
  · refine List.forall_mem_cons.mpr ⟨trivial, List.forall_mem_cons.mpr ⟨trivial, ?_⟩⟩
    refine List.forall_mem_append.mpr ⟨Attempts.calls hbody policy 1 _ _ _ h, ?_⟩
    simp [Event.Calls]

end

end Service

/-! ## Deletions -/

namespace Handle

open Service

/-- The call that finds the keys of the documents that meet a filter. -/
abbrev idQuery (h : Handle) (filter : Document) : Store.Call :=
  .find h.service.collection filter { projection := some (Document.single idField (.int32 1)) }

/-- A delete rule was called: it was told some keys and the depth of the handle. -/
def Ruled (h : Handle) (keys : List Key) (rule : Rule DeletePhase (Deletion → Program Unit))
    (ended : Except Stop (Result Unit)) (event : Event) : Prop :=
  ∃ inTransaction, event = .ruled rule ⟨keys, h.depth, inTransaction⟩ ended

/-- The traces of the rules of a phase. -/
def RulesCalled (h : Handle) (keys : List Key) (phase : DeletePhase)
    (wrap : String → ServiceError → ServiceError) : Course Unit :=
  InOrder (h.Ruled keys) (fun rule => wrap (h.ruleName rule.name))
    (h.service.rules.deleteRules.filter (·.tag == phase))

/-- The traces of a deletion between the rules before and after it. -/
def Removal (h : Handle) (keys : List Key) : Course Nat :=
  Then (h.RulesCalled keys .pre .deleteRuleFailed) fun _ =>
    Then (Asked (.delete h.service.collection (Key.filterAll keys) true)) fun deleted =>
      Then (h.RulesCalled keys .post .deleteRuleFailed) fun _ => Silent (.ok deleted)

/-- The traces of a deletion. Rules are called, and the session is asked for a transaction, only if
the filter has found keys that may be deleted on the handle. -/
inductive DeletionOrder (h : Handle) (filter : Document) (single : Bool) : Course Nat where
  | rejected {e : ServiceError} :
    DeletionOrder h filter single [.asked (h.idQuery filter) (.error e)] (.ok (.error e))
  | unreadable {found : List Document} {e : ServiceError}
    (hkeys : found.mapM (Key.ofDocument h.service.key) = .error e) :
    DeletionOrder h filter single [.asked (h.idQuery filter) (.ok found)] (.ok (.error e))
  | nothing {found : List Document}
    (hkeys : found.mapM (Key.ofDocument h.service.key) = .ok []) :
    DeletionOrder h filter single [.asked (h.idQuery filter) (.ok found)] (.ok (.ok 0))
  | ambiguous {found : List Document} {keys : List Key}
    (hkeys : found.mapM (Key.ofDocument h.service.key) = .ok keys) (hsingle : single = true)
    (hmany : 1 < keys.length) :
    DeletionOrder h filter single [.asked (h.idQuery filter) (.ok found)]
      (.ok (.error (.invalidQuery (.ambiguousDelete keys.length h.service.collection))))
  | tooDeep {found : List Document} {keys : List Key}
    (hkeys : found.mapM (Key.ofDocument h.service.key) = .ok keys) (hsome : keys ≠ [])
    (hsingle : single = true → keys.length = 1)
    (hdeep : h.service.config.maxCascadeDepth.toNat ≤ h.depth) :
    DeletionOrder h filter single [.asked (h.idQuery filter) (.ok found)]
      (.ok (.error (.cascadeTooDeep h.service.collection h.service.config.maxCascadeDepth.toNat)))
  | allowed {found : List Document} {keys : List Key} {events : List Event}
    {ended : Except Stop (Result Nat)}
    (hkeys : found.mapM (Key.ofDocument h.service.key) = .ok keys) (hsome : keys ≠ [])
    (hsingle : single = true → keys.length = 1)
    (hdepth : h.depth < h.service.config.maxCascadeDepth.toNat)
    (hevents : Then (h.deeper.RulesCalled keys .deny .deleteDenied)
      (fun _ => Transacted h.service.config.retry (h.deeper.Removal keys)) events ended) :
    DeletionOrder h filter single (.asked (h.idQuery filter) (.ok found) :: events) ended

variable {answerer : Answerer} {id : SessionId}

section

variable (h : Handle) (answerer : Answerer) (id : SessionId) (keys : List Key)

theorem goes_runDeleteRules (phase : DeletePhase) (wrap : String → ServiceError → ServiceError) :
    Goes answerer (some id) (h.RulesCalled keys phase wrap)
      (h.runDeleteRules answerer id keys phase wrap) := by
  refine .forM fun rule _ s => ?_
  let told : Deletion := ⟨keys, h.depth, s.store.inTransaction id⟩
  obtain ⟨ended, s', hrun⟩ : ∃ ended s', ends ((rule.hook told).run
    (answerer h.depth (some id)) : Process (Result Unit)) s = (ended, s') := ⟨_, _, rfl⟩
  refine ⟨.ruled rule told ended, ended, s', ⟨_, rfl⟩, ⟨rfl, hrun⟩, ?_⟩
  change ends ((ExceptT.lift (inTransaction id) : Action Bool) >>= fun inside =>
    (wrapping (wrap (h.ruleName rule.name)) ((rule.hook ⟨keys, h.depth, inside⟩).run
      (answerer h.depth (some id)) : Action Unit))).run s = _
  rw [ends_run_action, ends_lift, ends_inTransaction]
  simp only [Except.map]
  rw [ends_wrapping]
  simp only [ExceptT.run]
  rw [hrun]
  rfl

theorem goes_deleteKeys :
    Goes answerer (some id) (h.Removal keys) (h.deleteKeys answerer id keys) :=
  .bind (h.goes_runDeleteRules answerer id keys .pre .deleteRuleFailed) fun _ =>
    .bind (.ask _) fun deleted =>
      .bind (h.goes_runDeleteRules answerer id keys .post .deleteRuleFailed) fun _ =>
        .ofResult (.ok deleted)

/-- Keys are found by a single call to the store. -/
theorem ends_findIds_cases (session : Option SessionId) (filter : Document) (s : State) :
    ∃ answer s', (Event.asked (h.idQuery filter) answer).Happens answerer session s s' ∧
      ends (h.findIds session filter).run s
        = (.ok (answer >>= (·.mapM (Key.ofDocument h.service.key))), s') := by
  obtain ⟨answer, s', hasked⟩ : ∃ answer s', ends (ask session (h.idQuery filter)).run s
    = (.ok answer, s') := ⟨_, _, ends_ask session (h.idQuery filter) s⟩
  refine ⟨answer, s', hasked, ?_⟩
  unfold findIds
  rw [ends_run_action, hasked]
  cases answer with
  | error e => rfl
  | ok found => rfl

theorem goes_deleteOnSession (filter : Document) (single : Bool) :
    Goes answerer (some id) (h.DeletionOrder filter single)
      (h.deleteOnSession answerer id filter single) := by
  intro s
  obtain ⟨answer, s', hasked, hfound⟩ := h.ends_findIds_cases answerer (some id) filter s
  unfold deleteOnSession
  rw [ends_run_action, hfound]
  match answer with
  | .error e => exact ⟨_, .single hasked, .rejected⟩
  | .ok found =>
    simp only [bind, Except.bind]
    cases hkeys : found.mapM (Key.ofDocument h.service.key) with
    | error e => exact ⟨_, .single hasked, .unreadable hkeys⟩
    | ok keys =>
      simp only
      split
      · rename_i hempty
        obtain rfl := List.isEmpty_iff.mp hempty
        exact ⟨_, .single hasked, .nothing hkeys⟩
      · rename_i hempty
        have hsome : keys ≠ [] := fun h => hempty (List.isEmpty_iff.mpr h)
        split
        · rename_i hambiguous
          obtain ⟨hsingle, hmany⟩ : single = true ∧ 1 < keys.length := by simpa using hambiguous
          exact ⟨_, .single hasked, .ambiguous hkeys hsingle hmany⟩
        · rename_i hambiguous
          have hsingle : single = true → keys.length = 1 := by
            intro hsingle
            have hpositive := List.length_pos_iff.mpr hsome
            have hfew : ¬ 1 < keys.length := fun hmany => hambiguous (by simp [hsingle, hmany])
            omega
          split
          · rename_i hdeep
            exact ⟨_, .single hasked, .tooDeep hkeys hsome hsingle hdeep⟩
          · rename_i hdepth
            -- from here on the rules are handed the deeper handle
            obtain ⟨events, hleads, hevents⟩ :=
              (Goes.bind (h.deeper.goes_runDeleteRules answerer id keys .deny .deleteDenied)
                fun _ => goes_transact (h.deeper.goes_deleteKeys answerer id keys)
                  h.service.config.retry) s'
            exact ⟨_, .cons hasked hleads,
              .allowed hkeys hsome hsingle (Nat.lt_of_not_le hdepth) hevents⟩

/-! ## Rules that are told the same -/

/-- Whether a rule is one of the service, told some keys and the depth of the handle. -/
def Tells (keys : List Key) (rule : Rule DeletePhase (Deletion → Program Unit))
    (told : Deletion) : Prop :=
  rule ∈ h.service.rules.deleteRules ∧ told.ids = keys ∧ told.depth = h.depth

theorem rulesCalled_calls (phase : DeletePhase) (wrap : String → ServiceError → ServiceError) :
    (h.RulesCalled keys phase wrap).Calls (h.Tells keys) := by
  intro events ended hevents event hevent
  obtain ⟨rule, hrule, _, inTransaction, rfl⟩ := InOrder.exists_call hevents hevent
  exact ⟨(List.mem_filter.mp hrule).1, rfl, rfl⟩

theorem removal_calls : (h.Removal keys).Calls (h.Tells keys) :=
  Then.calls (h.rulesCalled_calls keys .pre _) fun _ =>
    Then.calls (Asked.calls _) fun _ =>
      Then.calls (h.rulesCalled_calls keys .post _) fun _ => Silent.calls _

/-- All rules that a deletion calls are told the same keys and the depth below the handle. -/
theorem deletionOrder_calls {filter : Document} {single : Bool} {events : List Event}
    {ended : Except Stop (Result Nat)} (horder : h.DeletionOrder filter single events ended) :
    ∃ keys, ∀ event ∈ events, event.Calls (h.deeper.Tells keys) := by
  cases horder with
  | @allowed _ keys _ _ _ _ _ _ hevents =>
    refine ⟨keys, List.forall_mem_cons.mpr ⟨trivial, ?_⟩⟩
    exact Then.calls (h.deeper.rulesCalled_calls keys .deny _)
      (fun _ => Transacted.calls (h.deeper.removal_calls keys) _) _ _ hevents
  | _ => exact ⟨[], by simp [Event.Calls]⟩

end

/-- A deletion under rules goes in order, on the session that is given or on one of its own, and
all rules that it calls are told the same. -/
theorem deletion_in_order (h : Handle) (hrules : h.service.rules.hasDeleteRules = true)
    (answerer : Answerer) (session : Option SessionId) (filter : Document) (single : Bool)
    (s : State) :
    let deletion := ends (h.deleteMatching answerer session filter single).run s
    let (id, begun) := s.entered session
    ∃ events ended,
      Leads answerer (some id) events begun ended ∧
      h.DeletionOrder filter single events deletion.1 ∧
      (∃ keys, ∀ event ∈ events, event.Calls (h.deeper.Tells keys)) ∧
      deletion.2 = ended.left id session := by
  unfold deleteMatching
  rw [if_pos hrules, ExceptT.run_mk, ends_usingSession]
  obtain ⟨id, begun⟩ := s.entered session
  obtain ⟨events, hleads, horder⟩ := h.goes_deleteOnSession answerer id filter single begun
  exact ⟨events, _, hleads, horder, h.deletionOrder_calls horder, rfl⟩

end Handle

/-- A rule that writes down what it is told. -/
def watch (rule : String) (d : Deletion) : Program Unit :=
  Program.record (.deletion "Watched" rule d.ids d.depth d.inTransaction)

/-- A service with a rule in every phase. -/
def watched : Service where
  name := "Watched"
  collection := "c"
  key := .integer
  rules := (({} : Rules)
    |>.deleteRule "after" .post (watch "after")
    |>.deleteRule "before" .pre (watch "before")
    |>.deleteRule "first" .deny (watch "first"))

/-- A store with two documents whose next commit is made to fail. -/
def failingOnceWithTwo : State where
  store := {
    collections := [("c", [[(idField, .int64 7)], [(idField, .int64 8)]])], failingCommits := 1 }

/-- The rules in the transaction are called in both attempts. -/
theorem Handle.deletion_in_order_watched :
    let h : Handle := ⟨watched, 0⟩
    let answerer := Answerer.of (Family.performWithin (fun _ => watched) 1)
    let deletion := ends (h.deleteMatching answerer none [] false).run failingOnceWithTwo
    let (id, begun) := failingOnceWithTwo.entered none
    let called : Entry → Option (String × List Key × Nat × Bool)
      | .deletion _ rule keys depth inTransaction => some (rule, keys, depth, inTransaction)
      | _ => none
    let keys : List Key := [.integer 7, .integer 8]
    h.service.rules.hasDeleteRules = true ∧
    deletion.1.toOption.bind (·.toOption) = some 2 ∧
    deletion.2.journal.filterMap called = [("first", keys, 1, false), ("before", keys, 1, true),
      ("after", keys, 1, true), ("before", keys, 1, true), ("after", keys, 1, true)] ∧
    ∃ events ended,
      Service.Leads answerer (some id) events begun ended ∧
      h.DeletionOrder [] false events deletion.1 ∧
      (∃ keys, ∀ event ∈ events, event.Calls (h.deeper.Tells keys)) ∧
      deletion.2 = ended.left id none :=
  ⟨rfl, by decide +kernel, by decide +kernel,
    Handle.deletion_in_order ⟨watched, 0⟩ rfl _ none [] false failingOnceWithTwo⟩

/-- A service that refuses to delete anything. -/
def kept : Service where
  name := "Kept"
  collection := "c"
  key := .objectId
  rules := ({} : Rules).deleteRule "keep" .deny fun d => do
    Program.record (.deletion "Kept" "keep" d.ids d.depth d.inTransaction)
    Program.fail (.rejected "kept")

/-- An identifier that is no key of the service fails a deletion before the rules are asked. -/
theorem Handle.keep_not_asked :
    let h : Handle := ⟨kept, 0⟩
    let answerer := Answerer.of (Family.performWithin (fun _ => kept) 1)
    let s : State := { store := { collections := [("c", [[(idField, .int32 1)]])] } }
    let deletion := ends (h.deleteMatching answerer none [] false).run s
    (ends (h.count none []).run s).1 = .ok (.ok 1) ∧
    h.depth < h.service.config.maxCascadeDepth.toNat ∧
    deletion.2.journal = [] ∧
    deletion.1 = .ok (.error (.invalidDocument (.notAKey "an ObjectId" .int32))) ∧
    ∀ e, deletion.1 ≠ .ok (.error (.deleteDenied "Kept.keep" e)) :=
  ⟨rfl, by decide, rfl, rfl, by rintro e ⟨⟩⟩

end DocumentStore
