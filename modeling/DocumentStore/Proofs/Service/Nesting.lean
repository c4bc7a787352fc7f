import DocumentStore.Proofs.Service.Validation
import Mathlib.Order.WellFounded

/-!
# Nested calls that come to an end

Rules call services, whose rules call services again. Delete rules are handed a depth that grows
from one to the next and is limited. Validators are handed the depth of the write that they check,
so nothing limits writes that ask for one another in turn. But if every chain of writes that begins
with one of a delete rule comes to an end, then so does every call on which no other write is
checked.
-/
namespace DocumentStore

open Process

variable {α : Type}

/-! ## What programs may ask for -/

namespace Program

/-- Whether a program makes a request, if it is answered in a certain way. -/
def MayAsk (request : Request) : Program α → Prop
  | .done _ => False
  | .ask first next => first = request ∨ ∃ answer, (next answer).MayAsk request

theorem asks_iff {kind : Request → Prop} {program : Program α} :
    program.Asks kind ↔ ∀ request, program.MayAsk request → kind request := by
  induction program with
  | done result => exact iff_of_true trivial nofun
  | ask first next ih =>
    simp only [Asks, MayAsk, ih]
    constructor
    · rintro ⟨hfirst, hnext⟩ request (rfl | ⟨answer, hasked⟩)
      · exact hfirst
      · exact hnext answer request hasked
    · exact fun h => ⟨h first (.inl rfl), fun answer request hasked => h request (.inr ⟨_, hasked⟩)⟩

end Program

/-! ## Writes -/

/-- A write as validators see it: its service, its payload and the filter that goes with it. -/
structure Family.Write where
  service : String
  payload : Payload
  filter : Option Document

/-- The writes that a request comes to. -/
def Request.writes (family : Family) : Request → List Family.Write
  | .call service _ c =>
    match Handle.payloads ⟨family service, 0⟩ c with
    | .ok payloads => payloads.map fun (payload, filter) => ⟨service, payload, filter⟩
    | .error _ => []
  | _ => []

/-- The payloads of a call do not depend on the depth of the handle. -/
theorem Request.writes_call {family : Family} {service : String} {depth : Nat} {outside : Bool}
    {call : Service.Call} {payloads : List (Payload × Option Document)}
    (h : Handle.payloads ⟨family service, depth⟩ call = .ok payloads) :
    (Request.call service outside call).writes family
      = payloads.map fun (payload, filter) => ⟨service, payload, filter⟩ := by
  change Handle.payloads ⟨family service, 0⟩ call = .ok payloads at h
  simp only [Request.writes, h]

theorem Request.writes_of_deletes {family : Family} {service : String} {outside : Bool}
    {call : Service.Call} (h : call.Deletes) :
    (Request.call service outside call).writes family = [] := by
  cases call with
  | deleteMany | deleteOne | delete => rfl
  | _ => exact h.elim

namespace Family

variable {family : Family}

/-- Whether a delete rule may ask for a write. -/
def Asked (family : Family) (write : Write) : Prop :=
  ∃ name, ∃ rule ∈ (family name).rules.deleteRules, ∃ told request,
    (rule.hook told).MayAsk request ∧ write ∈ request.writes family

/-- Whether a validator of a write may ask for another. -/
def Prompts (family : Family) (write next : Write) : Prop :=
  ∃ rule ∈ (family write.service).rules.validatorsFor write.payload.kind, ∃ told : Validation,
    told.payload = write.payload ∧ told.filter = write.filter ∧ ∃ request,
      (rule.hook told).MayAsk request ∧ next ∈ request.writes family

/-- Whether writes that are asked for one by the other come to an end, if the first of them is asked
for by a delete rule. -/
def WritesEnd (family : Family) : Prop :=
  ∀ chain : Nat → Write, family.Asked (chain 0) → ∃ n, ¬ family.Prompts (chain n) (chain (n + 1))

theorem WritesEnd.acc {family : Family} (h : family.WritesEnd) {write : Write}
    (hasked : family.Asked write) : Acc (fun next write => family.Prompts write next) write := by
  by_contra hendless
  obtain ⟨chain, rfl, hprompts⟩ := not_acc_iff_exists_descending_chain.mp hendless
  obtain ⟨n, hlast⟩ := h chain hasked
  exact hlast (hprompts n)

/-- Nothing is asked of validators where delete rules only delete. -/
theorem WritesEnd.of_deletes
    (h : ∀ name, ∀ rule ∈ (family name).rules.deleteRules, ∀ told,
      (rule.hook told).Asks fun request => request.writes family = []) : family.WritesEnd := by
  rintro chain ⟨name, rule, hrule, told, request, hasked, hwrite⟩
  rw [Program.asks_iff.mp (h name rule hrule told) request hasked] at hwrite
  cases hwrite

end Family

/-! ## Rules that come to an end -/

theorem Answerer.settles_of {perform : Nat → (depth : Nat) → Option SessionId →
    (service : String) → (call : Service.Call) → Action call.Answer} {depth : Nat}
    {session : Option SessionId} {request : Request}
    (h : ∀ service outside call, request = .call service outside call →
      ∀ session, Settles fun levels => (perform levels depth session service call).run) :
    Settles fun levels => (Answerer.of (perform levels) depth session request).run := by
  cases request with
  | call service outside call => exact h service outside call rfl _
  | store outside call => exact .ask _ call
  | sleep ms => exact .lift (.sleep ms)
  | record entry => exact .lift (.record entry)
  | tick counter => exact .lift (.tick counter)

namespace Handle

variable {h : Handle} {answerer : Nat → Answerer}

theorem settles_validate {session : Option SessionId} {payload : Payload}
    {filter : Option Document}
    (hrun : ∀ rule ∈ h.service.rules.validatorsFor payload.kind, ∀ told : Validation,
      told.payload = payload → told.filter = filter →
      Settles fun levels =>
        ((rule.hook told).run (answerer levels h.depth session) : Process (Result Unit))) :
    Settles fun levels => (h.validate (answerer levels) session payload filter).run := by
  unfold validate
  refine .forM fun rule hrule => .action ?_ fun inTransaction => ?_
  · exact .of_ends fun s => ⟨_, congrArg Prod.fst (ends_mapM_inTransaction session s)⟩
  · exact .wrapping _ (hrun rule hrule _ rfl rfl)

theorem settles_runDeleteRules {id : SessionId}
    (hrun : ∀ rule ∈ h.service.rules.deleteRules, ∀ told, Settles fun levels =>
      ((rule.hook told).run (answerer levels h.depth (some id)) : Process (Result Unit)))
    (keys : List Key) (phase : DeletePhase) (wrap : String → ServiceError → ServiceError) :
    Settles fun levels => (h.runDeleteRules (answerer levels) id keys phase wrap).run := by
  unfold runDeleteRules
  refine .forM fun rule hrule => .action (.lift (.inTransaction id)) fun inTransaction => ?_
  exact .wrapping _ (hrun rule (List.mem_filter.mp hrule).1 _)

end Handle

/-! ## Calls that come to an end -/

namespace Family

variable {family : Family} {limit depth : Nat} {service : String}

/-- Whether all delete rules come to an end that are handed a depth. -/
def RulesSettle (family : Family) (depth : Nat) : Prop :=
  ∀ name, ∀ rule ∈ (family name).rules.deleteRules, ∀ told id, Settles fun levels =>
    ((rule.hook told).run (Answerer.of (family.performWithin levels) depth (some id)) :
      Process (Result Unit))

/-- Whether the validators of a write come to an end on handles of a depth. -/
def CheckSettles (family : Family) (depth : Nat) (write : Write) : Prop :=
  ∀ session, Settles fun levels =>
    (Handle.validate ⟨family write.service, depth⟩ (Answerer.of (family.performWithin levels))
      session write.payload write.filter).run

variable (hlimit : ∀ name, (family name).config.maxCascadeDepth.toNat ≤ limit)
  (hbelow : depth < limit → family.RulesSettle (depth + 1))
include hlimit hbelow

/-- A call comes to an end if the delete rules one level deeper and the validators of its writes
do. -/
theorem settles_call {call : Service.Call} {outside : Bool}
    (hwrites : ∀ write ∈ (Request.call service outside call).writes family,
      family.CheckSettles depth write) (session : Option SessionId) :
    Settles fun levels => (family.performWithin levels depth session service call).run := by
  refine .of_succ ?_
  let h : Handle := ⟨family service, depth⟩
  let answerer (levels : Nat) := Answerer.of (family.performWithin levels)
  change Settles fun levels => (h.answer (answerer levels) session call).run
  by_cases hvalidates : call.Validates
  · simp only [h.answer_eq_guard _ session hvalidates]
    cases hpayloads : h.payloads call with
    | error e => exact .throw e
    | ok payloads =>
      have hguard : Settles fun levels => (h.guard (answerer levels) session payloads).run := by
        refine .forM fun payload hpayload => hwrites ⟨service, payload.1, payload.2⟩ ?_ session
        rw [Request.writes_call hpayloads]
        exact List.mem_map_of_mem hpayload
      refine hguard.action fun _ => Handle.settles_answer (fun _ _ _ => .pure _) fun hdeletes => ?_
      cases call <;> first | exact hdeletes.elim | exact hvalidates.elim
  · refine Handle.settles_answer (fun h => absurd h hvalidates) fun _ habove id => ?_
    exact Handle.settles_runDeleteRules fun rule hrule told =>
      hbelow (Nat.lt_of_lt_of_le habove (hlimit service)) service rule hrule told id

/-- The validators of a write come to an end if the writes that they ask for do, in turn. -/
theorem checkSettles_of_acc {write : Write}
    (hacc : Acc (fun next write => family.Prompts write next) write) :
    family.CheckSettles depth write := by
  induction hacc with
  | intro write _ ih =>
    intro session
    refine Handle.settles_validate fun rule hrule told hpayload hfilter => ?_
    refine (Program.asks_iff.mpr fun _ => id).settles fun request hasked => ?_
    refine Answerer.settles_of fun service outside call heq =>
      @settles_call _ _ _ service hlimit hbelow call outside fun next hnext => ?_
    exact ih next ⟨rule, hrule, told, hpayload, hfilter, request, hasked, heq ▸ hnext⟩

/-- Delete rules come to an end if those do that are handed one depth more. -/
theorem rulesSettle_of_below (hends : family.WritesEnd) : family.RulesSettle depth := by
  intro name rule hrule told id
  refine (Program.asks_iff.mpr fun _ h => h).settles fun request hasked => ?_
  refine Answerer.settles_of fun service outside call heq =>
    @settles_call _ _ _ service hlimit hbelow call outside fun write hwrite => ?_
  exact checkSettles_of_acc hlimit hbelow
    (hends.acc ⟨name, rule, hrule, told, request, hasked, heq ▸ hwrite⟩)

omit hbelow in
/-- The depth grows up to the limit, beyond which no rule is run. -/
theorem rulesSettle (hends : family.WritesEnd) (depth : Nat) : family.RulesSettle depth :=
  rulesSettle_of_below hlimit (fun _ => rulesSettle hends (depth + 1)) hends
termination_by limit - depth

omit hbelow in
/-- Deletions come to an end at every depth, and so does everything that they are part of. -/
theorem settles_deletion (hends : family.WritesEnd) (depth : Nat) (session : Option SessionId)
    (service : String) {call : Service.Call} (hdeletes : call.Deletes) :
    Settles fun levels => (family.performWithin levels depth session service call).run := by
  refine @settles_call _ _ _ service hlimit (fun _ => rulesSettle hlimit hends (depth + 1)) call
    false (fun write hwrite => ?_) session
  rw [Request.writes_of_deletes hdeletes] at hwrite
  cases hwrite

end Family

end DocumentStore
