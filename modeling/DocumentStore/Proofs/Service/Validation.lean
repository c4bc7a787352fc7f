import DocumentStore.Catalog
import DocumentStore.Proofs.Service.Rules
import DocumentStore.Proofs.Service.Trace

/-!
# Validation

Every insert and every update of a service, of however many documents, goes in two parts: first
the validators that apply to its payloads are called, payload after payload, and only when none
of them is left and none has failed is anything written. What a write does beyond that is what it
does on the same service without validators.
-/
namespace DocumentStore

open Process Service

/-! ## What is validated -/

namespace Handle

/-- The payloads of a call in order, each with the filter that validators are told. -/
def payloads (h : Handle) : Service.Call → Result (List (Payload × Option Document))
  | .insert data | .create data => do return [(.insert (← h.service.readInsert data), none)]
  | .insertMany data => do
    return (← data.mapM h.service.readInsert).map fun item => (.insert item, none)
  | .updateMany filter changes | .updateOne filter changes => do
    return [(.update (← h.service.readUpdate changes), some filter)]
  | .updateById id changes | .update id changes => do
    let key ← Key.ofValue h.service.key id
    return [(.update (← h.service.readUpdate changes), some key.filter)]
  | _ => .ok []

/-- A validator with a payload that it is to check, and the filter of the payload. -/
abbrev Check := (Payload × Option Document) × Rule ValidatorKind (Validation → Program Unit)

/-- The checks of payloads: each by the validators for its kind of write, in the order in which
these were registered. -/
def checks (h : Handle) (payloads : List (Payload × Option Document)) : List Check :=
  payloads.flatMap fun payload =>
    (h.service.rules.validators.filter fun rule =>
      rule.tag = payload.1.kind ∨ rule.tag = .insertUpdate).map (payload, ·)

/-- A check was made: the validator was told the payload, its filter and the depth of the handle. -/
def Checked (h : Handle) (check : Check) (ended : Except Stop (Result Unit)) (event : Event) :
    Prop :=
  ∃ inTransaction,
    event = .validated check.2 ⟨check.1.1, check.1.2, h.depth, inTransaction⟩ ended

def checkFailed (h : Handle) (check : Check) : ServiceError → ServiceError :=
  .validationFailed (h.ruleName check.2.name)

def unguarded (h : Handle) : Handle := h.withRules { h.service.rules with validators := [] }

/-- Runs the validators for some payloads. -/
def guard (h : Handle) (answerer : Answerer) (session : Option SessionId)
    (payloads : List (Payload × Option Document)) : Action Unit :=
  payloads.forM fun payload => h.validate answerer session payload.1 payload.2

/-! ## Validators in order -/

section

variable (h : Handle) (answerer : Answerer) (session : Option SessionId)

theorem validatorsFor_kind (payload : Payload) :
    h.service.rules.validatorsFor payload.kind
      = h.service.rules.validators.filter fun rule =>
          rule.tag = payload.kind ∨ rule.tag = .insertUpdate := by
  refine List.filter_congr fun rule _ => ?_
  cases payload <;> cases rule.tag <;> rfl

/-- The validators for a payload are called in order, up to the first that fails. -/
theorem goes_validate (payload : Payload × Option Document) :
    Goes answerer session (InOrder h.Checked h.checkFailed (h.checks [payload]))
      (h.validate answerer session payload.1 payload.2) := by
  unfold validate checks
  rw [validatorsFor_kind, List.flatMap_singleton]
  refine Goes.mono (.forM fun rule _ s => ?_) fun events ended => InOrder.map (payload, ·)
  let inTransaction := session.map s.store.inTransaction
  let told : Validation := ⟨payload.1, payload.2, h.depth, inTransaction⟩
  obtain ⟨ended, s', hrun⟩ : ∃ ended s', ends ((rule.hook told).run
    (answerer h.depth session) : Process (Result Unit)) s = (ended, s') := ⟨_, _, rfl⟩
  refine ⟨.validated rule told ended, ended, s', ⟨_, rfl⟩, ⟨rfl, hrun⟩, ?_⟩
  rw [ends_run_action, ends_mapM_inTransaction]
  simp only
  rw [ends_wrapping]
  simp only [ExceptT.run]
  rw [hrun]
  rfl

/-- The checks of payloads are made in order, up to the first that fails. -/
theorem goes_guard (payloads : List (Payload × Option Document)) :
    Goes answerer session (InOrder h.Checked h.checkFailed (h.checks payloads))
      (h.guard answerer session payloads) := by
  induction payloads with
  | nil => exact fun s => ⟨[], .nil s, .done⟩
  | cons payload rest ih =>
    refine Goes.mono (.bind (h.goes_validate answerer session payload) fun _ => ih) ?_
    intro events ended hevents
    have hchecks : h.checks (payload :: rest) = h.checks [payload] ++ h.checks rest := by
      simp [checks]
    rw [hchecks]
    exact .append hevents

/-! ## Validators come first -/

theorem guard_singleton (payload : Payload) (filter : Option Document) (f : Unit → Action α) :
    (h.guard answerer session [(payload, filter)] >>= f)
      = h.validate answerer session payload filter >>= f := by
  change ((h.validate answerer session payload filter >>= fun _ => pure ()) >>= f) = _
  rw [bind_assoc]
  rfl

theorem guard_inserts (data : List Document) :
    h.guard answerer session (data.map fun item => (.insert item, none))
      = data.forM fun item => h.validate answerer session (.insert item) none := by
  unfold guard
  induction data with
  | nil => rfl
  | cons item rest ih =>
    exact congrArg
      (fun next => h.validate answerer session (.insert item) none >>= fun _ => next) ih

/-- Without validators nothing is refused. -/
@[simp] theorem unguarded_validate (payload : Payload) (filter : Option Document) :
    h.unguarded.validate answerer session payload filter = pure () := rfl

theorem unguarded_forM_validate (data : List Document) :
    (data.forM fun item => h.unguarded.validate answerer session (.insert item) none)
      = pure () := by
  induction data with
  | nil => rfl
  | cons item rest ih => exact ih

theorem insertOne_eq (data : Document) :
    h.insertOne answerer session data = (do
      h.validate answerer session (.insert data) none
      h.unguarded.insertOne answerer session data) := by
  unfold insertOne
  rw [unguarded_validate, pure_bind]
  rfl

theorem insertMany_eq (data : List Document) :
    h.insertMany answerer session data = (do
      data.forM fun item => h.validate answerer session (.insert item) none
      h.unguarded.insertMany answerer session data) := by
  unfold insertMany
  rw [unguarded_forM_validate, pure_bind]
  rfl

theorem applyUpdate_eq (filter changes : Document) (many : Bool) :
    h.applyUpdate answerer session filter changes many = (do
      h.validate answerer session (.update changes) (some filter)
      h.unguarded.applyUpdate answerer session filter changes many) := by
  unfold applyUpdate
  rw [unguarded_validate, pure_bind]
  rfl

theorem unguarded_getStored (key : Key) :
    h.unguarded.getStored session key = h.getStored session key :=
  h.withRules_getStored _ session key

/-- What is done with a value that is read comes after the validators if it does so whatever the
value is. -/
theorem read_eq_guard {γ : Type} {read : Result γ} {operation unguarded : γ → Action α}
    {payloads : γ → Result (List (Payload × Option Document))}
    (hguard : ∀ value, operation value = (do
      h.guard answerer session (← Process.ofResult (payloads value))
      unguarded value)) :
    (Process.ofResult read >>= operation) = (do
      h.guard answerer session (← Process.ofResult (read >>= payloads))
      Process.ofResult read >>= unguarded) := by
  cases read with
  | error e => rfl
  | ok value => exact hguard value

/-- A call that is validated runs the validators for its payloads, and then what it does without
them. -/
theorem answer_eq_guard {call : Service.Call} (hcall : call.Validates) :
    h.answer answerer session call = (do
      h.guard answerer session (← Process.ofResult (h.payloads call))
      h.unguarded.answer answerer session call) := by
  cases call with
  | insert data =>
    refine h.read_eq_guard answerer session fun item => ?_
    exact (h.insertOne_eq answerer session item).trans (h.guard_singleton ..).symm
  -- the data of all documents is read before the first of them is validated
  | insertMany data =>
    refine h.read_eq_guard answerer session fun items => ?_
    change _ = (do
      h.guard answerer session (items.map fun item => (.insert item, none))
      h.unguarded.insertMany answerer session items)
    rw [guard_inserts, insertMany_eq]
  | create data =>
    refine h.read_eq_guard answerer session fun item => ?_
    refine Eq.trans ?_ (h.guard_singleton ..).symm
    unfold create
    rw [insertOne_eq, bind_assoc]
    simp only [unguarded_getStored]
  | updateMany filter changes =>
    refine h.read_eq_guard answerer session fun changes => ?_
    exact (h.applyUpdate_eq answerer session filter changes true).trans (h.guard_singleton ..).symm
  | updateOne filter changes =>
    refine h.read_eq_guard answerer session fun changes => ?_
    exact (h.applyUpdate_eq answerer session filter changes false).trans (h.guard_singleton ..).symm
  | updateById id changes =>
    refine h.read_eq_guard answerer session fun key => ?_
    refine h.read_eq_guard answerer session fun changes => ?_
    exact (h.applyUpdate_eq answerer session key.filter changes false).trans
      (h.guard_singleton ..).symm
  | update id changes =>
    refine h.read_eq_guard answerer session fun key => ?_
    refine h.read_eq_guard answerer session fun changes => ?_
    refine Eq.trans ?_ (h.guard_singleton ..).symm
    unfold update updateByKey
    rw [applyUpdate_eq, bind_assoc]
    simp only [unguarded_getStored]
    rfl
  | _ => exact hcall.elim

end

end Handle

/-! ## Validators that do not write -/

/-- Whether a process leaves the documents of all collections as they are, in the eyes of every
session. -/
def Process.Unwritten (p : Process α) : Prop :=
  ∀ s viewer name,
    ((ends p s).2.store.view viewer).documents name = (s.store.view viewer).documents name

theorem Process.Still.unwritten {p : Process α} (h : Still p) : Unwritten p := by
  intro s viewer name
  rw [h s]

namespace Handle

variable {h : Handle} {answerer : Answerer} {session : Option SessionId}

/-- Validators that only ask to read do not write. -/
theorem unwritten_of_reads (hanswerer : answerer.Reads)
    {rule : Rule ValidatorKind (Validation → Program Unit)}
    (hrule : ∀ told, (rule.hook told).Asks Request.Reads) (told : Validation) :
    Unwritten ((rule.hook told).run (answerer h.depth session) : Process (Result Unit)) :=
  ((hrule told).confined (hanswerer h.depth session)).isStill.unwritten

/-- Checks by validators that do not write change no document. -/
theorem documents_of_checked {s s' : State} {events : List Event} {checks : List Check}
    (hquiet : ∀ check ∈ checks, ∀ told, told.depth = h.depth →
      Unwritten ((check.2.hook told).run (answerer h.depth session) : Process (Result Unit)))
    (hevents : ∀ event ∈ events, ∃ check ∈ checks, ∃ ended, h.Checked check ended event)
    (hleads : Leads answerer session events s s') (viewer : Option SessionId) (name : String) :
    (s'.store.view viewer).documents name = (s.store.view viewer).documents name := by
  induction hleads with
  | nil s => rfl
  | @cons event events s s' s'' head tail ih =>
    obtain ⟨check, hcheck, ended, inTransaction, rfl⟩ := hevents event List.mem_cons_self
    obtain ⟨-, hrun⟩ := head
    have hsame := hquiet check hcheck ⟨check.1.1, check.1.2, h.depth, inTransaction⟩ rfl s viewer
      name
    rw [hrun] at hsame
    exact (ih fun event hevent => hevents event (List.mem_cons_of_mem _ hevent)).trans hsame

/-- Validators come before every write. The ones for the payloads are called in order, up to the
first that fails, and so far no document has changed. If one fails, this is all that is done; if
none does, the rest is what the service does without validators. -/
theorem validation_precedes_write {call : Service.Call} (hcall : call.Validates)
    (hquiet : ∀ rule ∈ h.service.rules.validators, ∀ told, told.depth = h.depth →
      Unwritten ((rule.hook told).run (answerer h.depth session) : Process (Result Unit)))
    (s : State) :
    match h.payloads call with
    | .error e => ends (h.answer answerer session call).run s = (.ok (.error e), s)
    | .ok payloads => ∃ events ended s',
      Leads answerer session events s s' ∧
      InOrder h.Checked h.checkFailed (h.checks payloads) events ended ∧
      (∀ viewer name,
        (s'.store.view viewer).documents name = (s.store.view viewer).documents name) ∧
      ends (h.answer answerer session call).run s = match ended with
        | .ok (.ok ()) => ends (h.unguarded.answer answerer session call).run s'
        | .ok (.error e) => (.ok (.error e), s')
        | .error stop => (.error stop, s') := by
  rw [h.answer_eq_guard answerer session hcall, ends_run_action, ends_ofResult]
  cases h.payloads call with
  | error e => rfl
  | ok payloads =>
    -- the run splits where the last validator has returned
    obtain ⟨events, hleads, horder⟩ := h.goes_guard answerer session payloads s
    refine ⟨events, _, _, hleads, horder, ?_, ?_⟩
    · refine documents_of_checked (fun check hcheck => ?_) (fun event => horder.exists_call) hleads
      obtain ⟨payload, -, hcheck⟩ := List.mem_flatMap.mp hcheck
      obtain ⟨rule, hrule, rfl⟩ := List.mem_map.mp hcheck
      exact hquiet rule (List.mem_filter.mp hrule).1
    · simp only
      rw [ends_run_action]
      cases ends (h.guard answerer session payloads).run s with
      | mk ended s' =>
        match ended with
        | .error stop => rfl
        | .ok (.error e) => rfl
        | .ok (.ok ()) => rfl

end Handle

/-! ## People -/

namespace Catalog.People

theorem nameNotBlank_asks (kind : Request → Prop) (told : Validation) :
    (nameNotBlank told).Asks kind := by
  unfold nameNotBlank
  split
  · split <;> trivial
  · trivial

theorem atLeast_asks (kind : Request → Prop) (least : Int32) (reason : String)
    (told : Validation) : (atLeast least reason told).Asks kind := by
  unfold atLeast
  split
  · split
    · split <;> trivial
    · trivial
  · trivial

/-- The validators of the service of people look at the payload only. -/
theorem strict_asks (kind : Request → Prop) {rule : Rule ValidatorKind (Validation → Program Unit)}
    (hrule : rule ∈ strict.rules.validators) (told : Validation) : (rule.hook told).Asks kind := by
  have hrules : strict.rules.validators
      = [⟨"name_not_blank", .insertUpdate, nameNotBlank⟩,
        ⟨"adult", .insert, atLeast 21 "must be at least 21"⟩] := rfl
  rw [hrules] at hrule
  rcases List.mem_cons.mp hrule with rfl | hrule
  · exact nameNotBlank_asks kind told
  · obtain rfl := List.mem_singleton.mp hrule
    exact atLeast_asks kind 21 _ told

end Catalog.People

/-- Of three people the second is too young. -/
theorem Handle.validation_precedes_write_people :
    let h : Handle := ⟨Catalog.People.strict, 0⟩
    let answerer := Answerer.of (Catalog.family.performWithin 1)
    let person (name : String) (age : Int32) : Document :=
      [("name", .string name), ("age", .int32 age)]
    let call : Service.Call := .insertMany [person "Ann" 30, person "Bob" 20, person " " 40]
    call.Validates ∧
    (∀ rule ∈ h.service.rules.validators, ∀ told, told.depth = h.depth →
      Unwritten ((rule.hook told).run (answerer h.depth none) : Process (Result Unit))) ∧
    (ends (h.answer answerer none call).run {}).1 = .ok (.error
      (.validationFailed "StrictPersonService.adult" (.rejected "must be at least 21"))) ∧
    ∃ payloads, h.payloads call = .ok payloads ∧ ∃ events ended s',
      Leads answerer none events {} s' ∧
      InOrder h.Checked h.checkFailed (h.checks payloads) events ended ∧
      ends (h.answer answerer none call).run {} = match ended with
        | .ok (.ok ()) => ends (h.unguarded.answer answerer none call).run s'
        | .ok (.error e) => (.ok (.error e), s')
        | .error stop => (.error stop, s') := by
  intro h answerer person call
  have hquiet : ∀ rule ∈ h.service.rules.validators, ∀ told, told.depth = h.depth →
      Unwritten ((rule.hook told).run (answerer h.depth none) : Process (Result Unit)) :=
    fun rule hrule told _ => h.unwritten_of_reads (Answerer.reads_of Catalog.family 1)
      (Catalog.People.strict_asks Request.Reads hrule) told
  obtain ⟨payloads, hpayloads⟩ : ∃ payloads, h.payloads call = .ok payloads := ⟨_, rfl⟩
  have hvalidates : call.Validates := trivial
  have hprecedes := validation_precedes_write hvalidates hquiet {}
  rw [hpayloads] at hprecedes
  obtain ⟨events, ended, s', hleads, horder, -, hends⟩ := hprecedes
  exact ⟨trivial, hquiet, rfl, payloads, hpayloads, events, ended, s', hleads, horder, hends⟩

end DocumentStore
