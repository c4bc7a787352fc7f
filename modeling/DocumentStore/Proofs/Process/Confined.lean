import DocumentStore.Proofs.Process.Run
import DocumentStore.Proofs.Store.Effects

/-!
# Confined processes

A process is confined to a session if it touches the store only by calls on that session, and to
none if it only reads. Confinement is kept by every way to build a process out of others. What is
confined to a session in a transaction changes nothing but the private documents of it.
-/
namespace DocumentStore

/-! ## Calls that only read -/

def Store.Call.Reads : Store.Call → Prop
  | .find .. | .findOne .. | .count .. | .aggregate .. | .listIndexes _ => True
  | _ => False

theorem Store.answer_of_reads {call : Store.Call} (h : call.Reads) (s : Store)
    (session : Option SessionId) (fresh : Nat → ObjectId) :
    (s.answer session fresh call).2 = s := by
  cases call with
  | find | findOne | count | aggregate | listIndexes => rfl
  | _ => exact h.elim

namespace Process

variable {α β σ : Type}

/-! ## Processes that leave the store alone -/

/-- Whether a process leaves the store as it is. -/
def Still (p : Process α) : Prop := ∀ s, (ends p s).2.store = s.store

namespace Still

theorem pure (a : α) : Still (Pure.pure a) := fun _ => rfl

theorem ask {call : Store.Call} (h : call.Reads) (session : Option SessionId) :
    Still (Process.ask session call).run := by
  intro s
  rw [ends_ask]
  exact Store.answer_of_reads h s.store session _

theorem inTransaction (session : SessionId) : Still (Process.inTransaction session) :=
  fun _ => rfl

theorem mapM_inTransaction (session : Option SessionId) :
    Still (session.mapM (Process.inTransaction ·) : Action (Option Bool)).run := by
  intro s
  rw [ends_mapM_inTransaction]

theorem record (entry : Entry) : Still (Process.record entry) := fun _ => rfl

theorem tick (name : String) : Still (Process.tick name) := fun _ => rfl

theorem sleep (ms : Nat) : Still (Process.sleep ms) := by
  intro s
  unfold Process.sleep
  rw [ends_bind_of_ok (ends_get s)]
  cases s.deadline with
  | none => rfl
  | some deadline =>
    -- past the deadline a sleep stops the process, but only the clock moves
    simp only
    split
    · rfl
    · rfl

end Still

/-! ## Processes that keep to a session -/

/-- Whether a process touches the store only by reading and by calls on a session, if one is
given. -/
inductive Confined (session : Option SessionId) : {α : Type} → Process α → Prop where
  | still {α : Type} {p : Process α} (h : Still p) : Confined session p
  | ask (id : SessionId) (h : session = some id) (call : Store.Call) :
    Confined session (ask session call).run
  | bind {α β : Type} {p : Process α} {f : α → Process β} (hp : Confined session p)
    (hf : ∀ a, Confined session (f a)) : Confined session (p >>= f)
  | transact {α : Type} (policy : RetryPolicy) (id : SessionId) (h : session = some id)
    {body : Action α} (hbody : Confined session body.run) :
    Confined session (transact policy id body).run

namespace Confined

variable {session : Option SessionId}

/-! ## Building confined processes -/

theorem pure (a : α) : Confined session (Pure.pure a : Process α) := .still (.pure a)

/-- What only reads is confined to any session. -/
theorem read {call : Store.Call} (h : call.Reads) (reader : Option SessionId) :
    Confined session (Process.ask reader call).run := .still (.ask h reader)

theorem map (g : α → β) {p : Process α} (hp : Confined session p) : Confined session (g <$> p) := by
  rw [map_eq_pure_bind]
  exact hp.bind fun a => .pure (g a)

/-- An action goes on only with a value. -/
theorem action {a : Action α} {f : α → Action β} (ha : Confined session a.run)
    (hf : ∀ value, Confined session (f value).run) : Confined session (a >>= f).run := by
  refine ha.bind fun result => ?_
  cases result with
  | ok value => exact hf value
  | error e => exact .pure _

theorem ofResult (result : Result α) : Confined session (Process.ofResult result).run :=
  .pure result

theorem throw (e : ServiceError) : Confined session (MonadExcept.throw e : Action α).run :=
  .pure _

theorem lift {p : Process α} (h : Confined session p) :
    Confined session (ExceptT.lift p : Action α).run := h.map _

theorem wrapping (wrap : ServiceError → ServiceError) {a : Action α} (h : Confined session a.run) :
    Confined session (Process.wrapping wrap a).run := h.map _

theorem forM {items : List β} {f : β → Action PUnit}
    (h : ∀ item ∈ items, Confined session (f item).run) : Confined session (items.forM f).run := by
  induction items with
  | nil => exact .pure _
  | cons item rest ih =>
    refine .action (h item (by simp)) fun _ => ?_
    exact ih fun item hitem => h item (List.mem_cons_of_mem _ hitem)

theorem mapM {items : List β} {f : β → Action α}
    (h : ∀ item, Confined session (f item).run) : Confined session (items.mapM f).run := by
  induction items with
  | nil => rw [List.mapM_nil]; exact .pure _
  | cons item rest ih =>
    rw [List.mapM_cons]
    exact .action (h item) fun value => .action ih fun values => .pure _

/-- What is carried along confines nothing. -/
theorem run_lift {p : Process α} (h : Confined session p) (own : σ) :
    Confined session ((liftM p : StateT σ Process α).run own) := by
  rw [StateT.run_monadLift]
  exact h.bind fun a => .pure (a, own)

theorem run_bind {p : StateT σ Process α} {f : α → StateT σ Process β}
    (hp : ∀ own, Confined session (p.run own))
    (hf : ∀ a own, Confined session ((f a).run own)) (own : σ) :
    Confined session ((p >>= f).run own) := by
  rw [StateT.run_bind]
  exact (hp own).bind fun r => hf r.1 r.2

end Confined

/-! ## What confined processes change -/

/-- An action carries nothing along through its attempts. -/
theorem ends_transact (policy : RetryPolicy) (id : SessionId) (body : Action α) (s : State) :
    ends (transact policy id body).run s
      = let r := ends ((runTransaction policy id (StateT.lift body.run)).run ()) s
        (r.1.map (·.1), r.2) :=
  ends_map _ _ s

/-- A transaction that is open already is joined. -/
theorem ends_runTransaction_of_open {policy : RetryPolicy} {id : SessionId} {s : State}
    (h : s.store.inTransaction id = true) (body : StateT σ Process (Result α)) (own : σ) :
    ends ((runTransaction policy id body).run own) s = ends (body.run own) s := by
  unfold runTransaction Transaction.run
  have hjoined : ends (((control id).lift : Control (StateT σ Process)).inTransaction.run own) s
      = (.ok (true, own), s) := by
    simp [Control.lift, control, h, Except.map]
  rw [ends_run_bind_of_ok hjoined]
  rfl

theorem ends_transact_of_open {policy : RetryPolicy} {id : SessionId} {s : State}
    (h : s.store.inTransaction id = true) (body : Action α) :
    ends (transact policy id body).run s = ends body.run s := by
  rw [ends_transact, ends_runTransaction_of_open h, ends_run_lift]
  cases ends body.run s with
  | mk result s' => cases result <;> rfl

/-- What is confined to no session leaves the store as it is. -/
theorem Confined.isStill {p : Process α} (h : Confined none p) : Still p := by
  induction h with
  | still h => exact h
  | ask id h => cases h
  | transact policy id h => cases h
  | bind hp hf ihp ihf =>
    intro s
    rw [ends_bind]
    have hfirst := ihp s
    cases hends : ends _ s with
    | mk result s' =>
      rw [hends] at hfirst
      cases result with
      | error stop => exact hfirst
      | ok a => exact (ihf a s').trans hfirst

/-- What is confined to a session works within its transaction. -/
theorem Confined.within {id : SessionId} {p : Process α} (h : Confined (some id) p) (s : State) :
    s.store.Within id (ends p s).2.store := by
  induction h generalizing s with
  | still h => rw [h s]; exact .refl id s.store
  | ask other h call =>
    cases h
    rw [ends_ask]
    exact .answer id s.store _ call
  | bind hp hf ihp ihf =>
    rw [ends_bind]
    have hfirst := ihp s
    cases hends : ends _ s with
    | mk result s' =>
      rw [hends] at hfirst
      cases result with
      | error stop => exact hfirst
      | ok a => exact hfirst.trans (ihf a s')
  | transact policy other h hbody ih =>
    cases h
    -- without a transaction there is nothing to show; an open one is joined
    intro snapshot hsnapshot
    have hopen : s.store.inTransaction id = true :=
      Store.inTransaction_eq_true.mpr ⟨snapshot, hsnapshot⟩
    rw [ends_transact_of_open hopen]
    exact ih s snapshot hsnapshot

end Process

end DocumentStore
