import DocumentStore.Proofs.Service.Run

/-!
# Traces of operations

What an operation of a service does, in order: the rules that it calls, with what they are told
and how they end, its calls to the store, and what it asks of its session. A trace leads from the
state in which the operation begins to the one that it leaves. The course of an operation says
which traces it can have, together with how it ends.
-/
namespace DocumentStore

open Process

variable {α β ι : Type}

/-! ## Events -/

/-- What can happen in the course of an operation on a session. -/
inductive Service.Event where
  | validated (rule : Rule ValidatorKind (Validation → Program Unit)) (told : Validation)
    (ended : Except Stop (Result Unit))
  | ruled (rule : Rule DeletePhase (Deletion → Program Unit)) (told : Deletion)
    (ended : Except Stop (Result Unit))
  | asked (call : Store.Call) (answer : Result call.Answer)
  /-- The session was asked whether it is in a transaction. -/
  | consulted (inTransaction : Bool)
  /-- The store was asked whether it supports transactions. -/
  | supported (transactional : Bool)
  | started (answer : Result Unit)
  | committed (answer : Result Unit)
  /-- The transaction of the session was given up, if one was open. -/
  | abandoned
  | waited (ms : Nat) (ended : Except Stop Unit)

namespace Service

section

variable (answerer : Answerer) (session : Option SessionId)

/-- Whether an event takes a state to another. -/
def Event.Happens (s s' : State) : Event → Prop
  | .validated rule told ended =>
    told.inTransaction = session.map s.store.inTransaction ∧
      ends ((rule.hook told).run (answerer told.depth session) : Process (Result Unit)) s
        = (ended, s')
  | .ruled rule told ended =>
    some told.inTransaction = session.map s.store.inTransaction ∧
      ends ((rule.hook told).run (answerer told.depth session) : Process (Result Unit)) s
        = (ended, s')
  | .asked call answer => ends (ask session call).run s = (.ok answer, s')
  | .consulted inTransaction =>
    some inTransaction = session.map s.store.inTransaction ∧ s' = s
  | .supported transactional => transactional = s.store.transactional ∧ s' = s
  | .started answer =>
    ∃ id, session = some id ∧ ends (onStore (·.start id)) s = (.ok answer, s')
  | .committed answer =>
    ∃ id, session = some id ∧ ends (onStore (·.commit id)) s = (.ok answer, s')
  | .abandoned =>
    ∃ id, session = some id ∧ s' = { s with store := s.store.abort id }
  | .waited ms ended => ends (sleep ms) s = (ended, s')

/-- Whether events, one after the other, take a state to another. -/
inductive Leads : List Event → State → State → Prop where
  | nil (s : State) : Leads [] s s
  | cons {event : Event} {events : List Event} {s s' s'' : State}
    (head : event.Happens answerer session s s') (tail : Leads events s' s'') :
    Leads (event :: events) s s''

end

namespace Leads

variable {answerer : Answerer} {session : Option SessionId} {s s' s'' : State}

theorem single {event : Event} (h : event.Happens answerer session s s') :
    Leads answerer session [event] s s' := .cons h (.nil s')

theorem append {first rest : List Event} (hfirst : Leads answerer session first s s')
    (hrest : Leads answerer session rest s' s'') :
    Leads answerer session (first ++ rest) s s'' := by
  induction hfirst with
  | nil s => exact hrest
  | cons head tail ih => exact .cons head (ih hrest)

end Leads

/-! ## Courses -/

/-- The traces of an operation, with how it ends after each. -/
abbrev Course (α : Type) := List Event → Except Stop (Result α) → Prop

/-- Nothing happens. -/
inductive Silent (result : Result α) : Course α where
  | intro : Silent result [] (.ok result)

/-- A call to the store is answered. -/
inductive Asked (call : Store.Call) : Course call.Answer where
  | intro (answer : Result call.Answer) : Asked call [.asked call answer] (.ok answer)

/-- An operation goes on with the value of another, if that one has a value. -/
inductive Then (first : Course α) (next : α → Course β) : Course β where
  | goesOn {value : α} {events rest : List Event} {ended : Except Stop (Result β)}
    (hfirst : first events (.ok (.ok value))) (hnext : next value rest ended) :
    Then first next (events ++ rest) ended
  | fails {e : ServiceError} {events : List Event} (h : first events (.ok (.error e))) :
    Then first next events (.ok (.error e))
  | stops {stop : Stop} {events : List Event} (h : first events (.error stop)) :
    Then first next events (.error stop)

/-- Items are called in order, up to the first that fails. -/
inductive InOrder (call : ι → Except Stop (Result Unit) → Event → Prop)
    (wrap : ι → ServiceError → ServiceError) : List ι → Course Unit where
  | done : InOrder call wrap [] [] (.ok (.ok ()))
  | passed {item : ι} {rest : List ι} {event : Event} {events : List Event}
    {ended : Except Stop (Result Unit)} (hitem : call item (.ok (.ok ())) event)
    (hrest : InOrder call wrap rest events ended) :
    InOrder call wrap (item :: rest) (event :: events) ended
  | failed {item : ι} {rest : List ι} {event : Event} {e : ServiceError}
    (hitem : call item (.ok (.error e)) event) :
    InOrder call wrap (item :: rest) [event] (.ok (.error (wrap item e)))
  | stopped {item : ι} {rest : List ι} {event : Event} {stop : Stop}
    (hitem : call item (.error stop) event) :
    InOrder call wrap (item :: rest) [event] (.error stop)

namespace InOrder

variable {call : ι → Except Stop (Result Unit) → Event → Prop}
  {wrap : ι → ServiceError → ServiceError} {items : List ι} {events : List Event}
  {ended : Except Stop (Result Unit)}

/-- What was called was called for one of the items. -/
theorem exists_call (h : InOrder call wrap items events ended) {event : Event}
    (hevent : event ∈ events) : ∃ item ∈ items, ∃ ended, call item ended event := by
  induction h with
  | done => simp at hevent
  | @passed item rest _ _ _ hitem hrest ih =>
    obtain rfl | hevent := List.mem_cons.mp hevent
    · exact ⟨item, List.mem_cons_self, _, hitem⟩
    · obtain ⟨other, hother, hcall⟩ := ih hevent
      exact ⟨other, List.mem_cons_of_mem _ hother, hcall⟩
  | @failed item _ _ _ hitem | @stopped item _ _ _ hitem =>
    obtain rfl := List.mem_singleton.mp hevent
    exact ⟨item, List.mem_cons_self, _, hitem⟩

theorem map {κ : Type} {items : List κ} (g : κ → ι)
    (h : InOrder (fun item => call (g item)) (fun item => wrap (g item)) items events ended) :
    InOrder call wrap (items.map g) events ended := by
  induction h with
  | done => exact .done
  | passed hitem hrest ih => exact .passed hitem ih
  | failed hitem => exact .failed hitem
  | stopped hitem => exact .stopped hitem

/-- More items are called after items of which none has failed. -/
theorem append {others : List ι}
    (h : Then (InOrder call wrap items) (fun _ => InOrder call wrap others) events ended) :
    InOrder call wrap (items ++ others) events ended := by
  obtain ⟨hfirst, hnext⟩ | hfirst | hfirst := h
  · -- the first items have all been passed
    generalize hended : (.ok (.ok _) : Except Stop (Result Unit)) = passed at hfirst
    induction hfirst with
    | done => exact hnext
    | passed hitem hrest ih => exact .passed hitem (ih hended)
    | failed hitem => cases hended
    | stopped hitem => cases hended
  · generalize hended : (.ok (.error _) : Except Stop (Result Unit)) = failed at hfirst ⊢
    induction hfirst with
    | done => cases hended
    | passed hitem hrest ih => exact .passed hitem (ih hended)
    | failed hitem => exact .failed hitem
    | stopped hitem => exact .stopped hitem
  · generalize hended : (.error _ : Except Stop (Result Unit)) = stopped at hfirst ⊢
    induction hfirst with
    | done => cases hended
    | passed hitem hrest ih => exact .passed hitem (ih hended)
    | failed hitem => exact .failed hitem
    | stopped hitem => exact .stopped hitem

end InOrder

/-- Whether an operation that is begun in any state has traces of a course. -/
def Goes (answerer : Answerer) (session : Option SessionId) (course : Course α) (a : Action α) :
    Prop :=
  ∀ s, ∃ events, Leads answerer session events s (ends a.run s).2 ∧
    course events (ends a.run s).1

namespace Goes

variable {answerer : Answerer} {session : Option SessionId}

theorem ofResult (result : Result α) :
    Goes answerer session (Silent result) (Process.ofResult result) :=
  fun s => ⟨[], .nil s, .intro⟩

theorem ask (call : Store.Call) :
    Goes answerer session (Asked call) (Process.ask session call) :=
  fun s => ⟨[.asked call _], .single (ends_ask session call s), .intro _⟩

theorem bind {first : Course α} {next : α → Course β} {a : Action α} {f : α → Action β}
    (ha : Goes answerer session first a)
    (hf : ∀ value, Goes answerer session (next value) (f value)) :
    Goes answerer session (Then first next) (a >>= f) := by
  intro s
  obtain ⟨events, hleads, hcourse⟩ := ha s
  rw [ends_run_action]
  cases hends : ends a.run s with
  | mk result s' =>
    rw [hends] at hleads hcourse
    match result with
    | .error stop => exact ⟨events, hleads, .stops hcourse⟩
    | .ok (.error e) => exact ⟨events, hleads, .fails hcourse⟩
    | .ok (.ok value) =>
      obtain ⟨rest, hrest, hnext⟩ := hf value s'
      exact ⟨events ++ rest, hleads.append hrest, .goesOn hcourse hnext⟩

theorem mono {course course' : Course α} {a : Action α} (h : Goes answerer session course a)
    (hcourse : ∀ events ended, course events ended → course' events ended) :
    Goes answerer session course' a := by
  intro s
  obtain ⟨events, hleads, hevents⟩ := h s
  exact ⟨events, hleads, hcourse events _ hevents⟩

/-- Items that are each called once are called in order. -/
theorem forM {call : ι → Except Stop (Result Unit) → Event → Prop}
    {wrap : ι → ServiceError → ServiceError} {f : ι → Action Unit} {items : List ι}
    (hf : ∀ item ∈ items, ∀ s, ∃ event ended s', call item ended event ∧
      event.Happens answerer session s s' ∧
      ends (f item).run s = (ended.map (Except.mapError (wrap item)), s')) :
    Goes answerer session (InOrder call wrap items) (items.forM f) := by
  induction items with
  | nil => exact fun s => ⟨[], .nil s, .done⟩
  | cons item rest ih =>
    intro s
    obtain ⟨event, ended, s', hcall, hevent, hends⟩ := hf item List.mem_cons_self s
    have hforM : ends ((item :: rest).forM f).run s = _ :=
      ends_run_action (f item) (fun _ => rest.forM f) s
    rw [hforM, hends]
    match ended with
    | .error stop => exact ⟨[event], .single hevent, .stopped hcall⟩
    | .ok (.error e) => exact ⟨[event], .single hevent, .failed hcall⟩
    | .ok (.ok ()) =>
      obtain ⟨events, hleads, hcourse⟩ :=
        ih (fun item hitem => hf item (List.mem_cons_of_mem _ hitem)) s'
      exact ⟨event :: events, .cons hevent hleads, .passed hcall hcourse⟩

end Goes

end Service

end DocumentStore
