import DocumentStore.Process

/-!
# Running processes

How a process ends and which state it leaves, with one equation for each way to build a process,
and the same for processes that carry a state of their own.
-/
namespace DocumentStore.Process

variable {α β σ : Type}

/-- How a process ends from a state, and the state that it leaves. -/
def ends (p : Process α) (s : State) : Except Stop α × State := p.run s

/-! ## Processes -/

@[simp] theorem ends_pure (a : α) (s : State) : ends (pure a) s = (.ok a, s) := rfl

@[simp] theorem ends_get (s : State) : ends get s = (.ok s, s) := rfl

@[simp] theorem ends_onStore (change : Store → α × Store) (s : State) :
    ends (onStore change) s
      = (.ok (change s.store).1, { s with store := (change s.store).2 }) := rfl

@[simp] theorem ends_inTransaction (session : SessionId) (s : State) :
    ends (inTransaction session) s = (.ok (s.store.inTransaction session), s) := rfl

theorem ends_bind (p : Process α) (f : α → Process β) (s : State) :
    ends (p >>= f) s = match ends p s with
      | (.ok a, s') => ends (f a) s'
      | (.error stop, s') => (.error stop, s') := by
  change (let r := p.run s; ExceptT.bindCont f r.1 r.2) = _
  unfold ends
  generalize p.run s = r
  obtain ⟨_ | _, s'⟩ := r <;> rfl

theorem ends_bind_of_ok {p : Process α} {s s' : State} {a : α} (h : ends p s = (.ok a, s'))
    (f : α → Process β) : ends (p >>= f) s = ends (f a) s' := by
  rw [ends_bind, h]

/-- What is done finally is told how the process ended, and its own stop wins. -/
theorem ends_tryFinally' (p : Process α) (f : Option α → Process β) (s : State) :
    ends (tryFinally' p f) s = match ends p s with
      | (.ok a, s') => match ends (f (some a)) s' with
        | (.ok b, s'') => (.ok (a, b), s'')
        | (.error stop, s'') => (.error stop, s'')
      | (.error stop, s') => match ends (f none) s' with
        | (.ok _, s'') => (.error stop, s'')
        | (.error stop', s'') => (.error stop', s'') := by
  -- both layers of a process are opened here, and only here
  obtain ⟨result, s', hp⟩ : ∃ result s', p s = (result, s') := ⟨_, _, rfl⟩
  unfold ends
  simp only [tryFinally', ExceptT.mk, ExceptT.run, bind, StateT.bind, hp]
  cases result with
  | error stop =>
    obtain ⟨last, s'', hf⟩ : ∃ last s'', f none s' = (last, s'') := ⟨_, _, rfl⟩
    simp only [hf]
    cases last <;> rfl
  | ok a =>
    obtain ⟨last, s'', hf⟩ : ∃ last s'', f (some a) s' = (last, s'') := ⟨_, _, rfl⟩
    simp only [hf]
    cases last <;> rfl

@[simp] theorem ends_map (g : α → β) (p : Process α) (s : State) :
    ends (g <$> p) s = ((ends p s).1.map g, (ends p s).2) := by
  rw [map_eq_pure_bind, ends_bind]
  cases ends p s with
  | mk result s' => cases result <;> rfl

/-- What is done finally without stopping leaves the end of the process as it is. -/
theorem ends_tryFinally {p : Process α} {f : Process β} {b : β} {change : State → State}
    (h : ∀ s, ends f s = (.ok b, change s)) (s : State) :
    ends (tryFinally p f) s = ((ends p s).1, change (ends p s).2) := by
  unfold tryFinally
  rw [ends_map, ends_tryFinally']
  cases ends p s with
  | mk result s' => cases result <;> simp [h, Except.map]

/-- A session of a process's own is open while it runs and dropped when it has ended. -/
theorem ends_withSession (p : SessionId → Process α) (s : State) :
    ends (withSession p) s =
      let r := ends (p s.store.openSession.1) { s with store := s.store.openSession.2 }
      (r.1, { r.2 with store := r.2.store.dropSession s.store.openSession.1 }) := by
  unfold withSession
  rw [ends_bind_of_ok (ends_onStore Store.openSession s)]
  exact ends_tryFinally
    (fun s' => ends_onStore (fun store => ((), store.dropSession s.store.openSession.1)) s') _

@[simp] theorem usingSession_some (id : SessionId) (p : SessionId → Process α) :
    usingSession (some id) p = p id := rfl

@[simp] theorem usingSession_none (p : SessionId → Process α) :
    usingSession none p = withSession p := rfl

/-- The session that a process works on, and the state in which it begins there. -/
def State.entered (s : State) : Option SessionId → SessionId × State
  | some id => (id, s)
  | none => (s.store.openSession.1, { s with store := s.store.openSession.2 })

/-- The state that a process leaves after it has worked on a session, which is dropped unless it
was given. -/
def State.left (s : State) (id : SessionId) : Option SessionId → State
  | some _ => s
  | none => { s with store := s.store.dropSession id }

theorem ends_usingSession (session : Option SessionId) (p : SessionId → Process α) (s : State) :
    ends (usingSession session p) s =
      let (id, s') := s.entered session
      ((ends (p id) s').1, (ends (p id) s').2.left id session) := by
  cases session with
  | some id => rfl
  | none => exact ends_withSession p s

/-! ## Processes that come to an end -/

/-- Whether a process that has no deadline answers, and sets none. -/
def Returns (p : Process α) : Prop :=
  ∀ s, s.deadline = none → ∃ a s', ends p s = (.ok a, s') ∧ s'.deadline = none

namespace Returns

theorem pure (a : α) : Returns (Pure.pure a : Process α) := fun s hs => ⟨a, s, rfl, hs⟩

theorem bind {p : Process α} {f : α → Process β} (hp : Returns p) (hf : ∀ a, Returns (f a)) :
    Returns (p >>= f) := by
  intro s hs
  obtain ⟨a, s', hends, hs'⟩ := hp s hs
  rw [ends_bind_of_ok hends]
  exact hf a s' hs'

theorem sleep (ms : Nat) : Returns (Process.sleep ms) := by
  intro s hs
  refine ⟨(), { s with clock := s.clock + ms }, ?_, hs⟩
  unfold Process.sleep
  rw [ends_bind_of_ok (ends_get s), hs]
  rfl

end Returns

/-! ## Actions -/

/-- A call to the store is answered in any case, if only with an error. -/
@[simp] theorem ends_ask (session : Option SessionId) (call : Store.Call) (s : State) :
    ends (ask session call).run s =
      let fresh i := ObjectId.generated (s.generated + i)
      (.ok (s.store.answer session fresh call).1, { s with
        store := (s.store.answer session fresh call).2
        generated := s.generated + call.inserted }) := rfl

@[simp] theorem ends_ofResult (result : Result α) (s : State) :
    ends (ofResult result).run s = (.ok result, s) := rfl

@[simp] theorem ends_lift (p : Process α) (s : State) :
    ends (ExceptT.lift p : Action α).run s = ((ends p s).1.map .ok, (ends p s).2) :=
  ends_map _ p s

/-- Whether a session is in a transaction is asked if there is a session. -/
theorem ends_mapM_inTransaction (session : Option SessionId) (s : State) :
    ends (session.mapM (inTransaction ·) : Action (Option Bool)).run s
      = (.ok (.ok (session.map s.store.inTransaction)), s) := by
  cases session <;> rfl

/-- Only errors are seen through a wrapper. -/
@[simp] theorem ends_wrapping (wrap : ServiceError → ServiceError) (a : Action α) (s : State) :
    ends (wrapping wrap a).run s
      = ((ends a.run s).1.map (Except.mapError wrap), (ends a.run s).2) :=
  ends_map _ a.run s

/-- An error of an action ends what follows it. -/
theorem ends_run_action (a : Action α) (f : α → Action β) (s : State) :
    ends (a >>= f).run s = match ends a.run s with
      | (.ok (.ok value), s') => ends (f value).run s'
      | (.ok (.error e), s') => (.ok (.error e), s')
      | (.error stop, s') => (.error stop, s') := by
  change ends (a.run >>= ExceptT.bindCont f) s = _
  rw [ends_bind]
  cases ends a.run s with
  | mk result s' =>
    cases result with
    | error stop => rfl
    | ok result => cases result <;> rfl

/-! ## Processes that carry a state -/

/-- A process takes part without touching what is carried along. -/
@[simp] theorem ends_run_lift (p : Process α) (own : σ) (s : State) :
    ends ((StateT.lift p : StateT σ Process α).run own) s
      = ((ends p s).1.map (·, own), (ends p s).2) := by
  rw [StateT.run_lift]
  exact ends_map (·, own) p s

theorem ends_run_bind (p : StateT σ Process α) (f : α → StateT σ Process β) (own : σ)
    (s : State) :
    ends ((p >>= f).run own) s = match ends (p.run own) s with
      | (.ok (a, own'), s') => ends ((f a).run own') s'
      | (.error stop, s') => (.error stop, s') := by
  rw [StateT.run_bind, ends_bind]
  cases ends (p.run own) s with
  | mk result s' => cases result <;> rfl

theorem ends_run_bind_of_ok {p : StateT σ Process α} {own own' : σ} {s s' : State} {a : α}
    (h : ends (p.run own) s = (.ok (a, own'), s')) (f : α → StateT σ Process β) :
    ends ((p >>= f).run own) s = ends ((f a).run own') s' := by
  rw [ends_run_bind, h]

/-- What is done finally without stopping or touching what is carried along leaves the end as it
is. -/
theorem ends_run_tryFinally {p : StateT σ Process α} {f : StateT σ Process β} {b : β}
    {change : State → State} (h : ∀ own s, ends (f.run own) s = (.ok (b, own), change s))
    (own : σ) (s : State) :
    ends ((tryFinally p f).run own) s
      = ((ends (p.run own) s).1, change (ends (p.run own) s).2) := by
  -- a process that was stopped has lost what it carried, and goes on with what it began with
  let last (ended : Option (α × σ)) : Process (β × σ) :=
    match ended with
    | some (_, own') => f.run own'
    | none => f.run own
  have hsame : (tryFinally p f).run own
      = (fun r => (r.1.1, r.2)) <$> (do
          let r ← tryFinally' (p.run own) last
          return ((r.1.1, r.2.1), r.2.2)) := by
    unfold tryFinally
    rfl
  rw [hsame, ends_map, ends_bind, ends_tryFinally']
  cases ends (p.run own) s with
  | mk result s' => cases result <;> simp [last, h, Except.map]

end DocumentStore.Process
