import DocumentStore.Proofs.Service.Nesting

/-!
# The depth of cascades

Delete rules may delete in turn, on services that go back to each other in circles. What bounds
such a cascade is the depth that is handed down with the services: a deletion that has reached
the limit of its own service fails before it runs a rule. So no rule is ever handed a depth above
the largest limit, and every cascade comes to an end whose writes do.
-/
namespace DocumentStore

open Process

variable {ι : Type}

/-! ## Rules with other hooks -/

def Rules.mapHooks (rules : Rules)
    (validator : (Validation → Program Unit) → Validation → Program Unit)
    (deleteRule : (Deletion → Program Unit) → Deletion → Program Unit) : Rules where
  validators := rules.validators.map fun rule => { rule with hook := validator rule.hook }
  deleteRules := rules.deleteRules.map fun rule => { rule with hook := deleteRule rule.hook }

theorem Rules.outline_mapHooks (rules : Rules)
    (validator : (Validation → Program Unit) → Validation → Program Unit)
    (deleteRule : (Deletion → Program Unit) → Deletion → Program Unit) :
    (rules.mapHooks validator deleteRule).outline = rules.outline := by
  simp [mapHooks, RuleSet.outline, Rule.outline, Function.comp_def]

theorem Process.forM_map_congr {κ : Type} {items : List ι} {g : ι → κ} {f : ι → Action PUnit}
    {f' : κ → Action PUnit} (h : ∀ item ∈ items, f' (g item) = f item) :
    (items.map g).forM f' = items.forM f := by
  induction items with
  | nil => rfl
  | cons item rest ih =>
    change (f' (g item) >>= fun _ => (rest.map g).forM f') = (f item >>= fun _ => rest.forM f)
    rw [h item List.mem_cons_self, ih fun item hitem => h item (List.mem_cons_of_mem _ hitem)]

namespace Handle

variable {h : Handle} {answerer answerer' : Answerer}
  {validator : (Validation → Program Unit) → Validation → Program Unit}
  {deleteRule : (Deletion → Program Unit) → Deletion → Program Unit}

theorem validate_congr {session : Option SessionId}
    (hrun : ∀ rule ∈ h.service.rules.validators, ∀ told, told.depth = h.depth →
      ((validator rule.hook told).run (answerer' h.depth session) : Process (Result Unit))
        = (rule.hook told).run (answerer h.depth session))
    (payload : Payload) (filter : Option Document) :
    (h.withRules (h.service.rules.mapHooks validator deleteRule)).validate answerer' session
        payload filter
      = h.validate answerer session payload filter := by
  have hfor : (h.service.rules.mapHooks validator deleteRule).validatorsFor payload.kind
      = (h.service.rules.validatorsFor payload.kind).map
        fun rule => { rule with hook := validator rule.hook } := List.filter_map
  unfold validate
  refine (congrArg (List.forM · _) hfor).trans (forM_map_congr fun rule hrule => ?_)
  refine bind_congr fun inTransaction => congrArg (wrapping _) ?_
  exact hrun rule (List.mem_filter.mp hrule).1 _ rfl

theorem runDeleteRules_congr {id : SessionId}
    (hrun : ∀ rule ∈ h.service.rules.deleteRules, ∀ told, told.depth = h.depth →
      ((deleteRule rule.hook told).run (answerer' h.depth (some id)) : Process (Result Unit))
        = (rule.hook told).run (answerer h.depth (some id)))
    (keys : List Key) (phase : DeletePhase) (wrap : String → ServiceError → ServiceError) :
    (h.withRules (h.service.rules.mapHooks validator deleteRule)).runDeleteRules answerer' id keys
        phase wrap
      = h.runDeleteRules answerer id keys phase wrap := by
  have hin : (h.service.rules.mapHooks validator deleteRule).deleteRulesIn phase
      = (h.service.rules.deleteRulesIn phase).map
        fun rule => { rule with hook := deleteRule rule.hook } := List.filter_map
  unfold runDeleteRules
  refine (congrArg (List.forM · _) hin).trans (forM_map_congr fun rule hrule => ?_)
  refine bind_congr fun inTransaction => congrArg (wrapping _) ?_
  exact hrun rule (List.mem_filter.mp hrule).1 _ rfl

end Handle

/-! ## No rule is handed more than the limit -/

/-- The family with all hooks replaced where they are told of a depth beyond a limit. -/
def Family.beyond (family : Family) (limit : Nat) (validator : Validation → Program Unit)
    (deleteRule : Deletion → Program Unit) : Family := fun name =>
  { family name with
    rules := (family name).rules.mapHooks
      (fun hook told => if told.depth ≤ limit then hook told else validator told)
      (fun hook told => if told.depth ≤ limit then hook told else deleteRule told) }

theorem Answerer.of_congr {perform perform' : (depth : Nat) → Option SessionId →
    (service : String) → (call : Service.Call) → Action call.Answer} {depth : Nat}
    {session : Option SessionId} {request : Request}
    (h : ∀ service outside call, request = .call service outside call →
      ∀ session, perform' depth session service call = perform depth session service call) :
    Answerer.of perform' depth session request = Answerer.of perform depth session request := by
  cases request with
  | call service outside call => exact h service outside call rfl _
  | _ => rfl

namespace Family

variable {family : Family} {limit : Nat}

/-- On a handle within the limit it does not matter what rules do when they are told of a depth
beyond it. -/
theorem performWithin_beyond
    (hlimit : ∀ name, (family name).config.maxCascadeDepth.toNat ≤ limit)
    (validator : Validation → Program Unit) (deleteRule : Deletion → Program Unit)
    (levels : Nat) {depth : Nat} (hdepth : depth ≤ limit) (session : Option SessionId)
    (service : String) (call : Service.Call) :
    (family.beyond limit validator deleteRule).performWithin levels depth session service call
      = family.performWithin levels depth session service call := by
  induction levels generalizing depth session service call with
  | zero => rfl
  | succ levels ih =>
    have hanswer {below : Nat} (hbelow : below ≤ limit) (session : Option SessionId)
        (request : Request) :
        Answerer.of ((family.beyond limit validator deleteRule).performWithin levels) below session
            request
          = Answerer.of (family.performWithin levels) below session request :=
      Answerer.of_congr fun service _ call _ session => ih hbelow session service call
    -- validators are told the depth of the handle, delete rules one more, which the limit allows
    refine Handle.answer_congr (h := ⟨family service, depth⟩) (Rules.outline_mapHooks ..)
      (fun _ => Handle.validate_congr ?_) (fun _ habove id keys phase wrap => ?_)
    · intro rule _ told htold
      have hwithin : told.depth ≤ limit := htold ▸ hdepth
      simp only
      rw [if_pos hwithin]
      exact (Program.asks_anything _).run_congr fun request _ => hanswer hdepth session request
    · have hbelow : depth + 1 ≤ limit := Nat.le_trans habove (hlimit service)
      refine Handle.runDeleteRules_congr (h := (⟨family service, depth⟩ : Handle).deeper)
        (fun rule _ told htold => ?_) keys phase wrap
      have hwithin : told.depth ≤ limit := htold ▸ hbelow
      rw [if_pos hwithin]
      exact (Program.asks_anything _).run_congr fun request _ => hanswer hbelow (some id) request

end Family

/-! ## Deletions that are too deep -/

/-- Which documents a deletion is about: those that meet a filter, of which there must not be more
than one if it is a single deletion. -/
inductive Service.Call.Targets (kind : KeyKind) : Service.Call → Document → Bool → Prop where
  | deleteMany (filter : Document) : Targets kind (.deleteMany filter) filter false
  | deleteOne (filter : Document) : Targets kind (.deleteOne filter) filter true
  | delete {id : Value} {key : Key} (hkey : Key.ofValue kind id = .ok key) :
    Targets kind (.delete id) key.filter true

theorem Process.State.view_entered (s : State) (session : Option SessionId) :
    (s.entered session).2.store.view (some (s.entered session).1) = s.store.view session := by
  cases session with
  | some id => rfl
  | none =>
    exact Store.view_of_none s.store.free_openSession.bind_transaction?

namespace Handle

variable {h : Handle} {filter : Document} {single : Bool} {found : List Document}
  {keys : List Key} {s : State}

/-- A deletion that has found something fails on a handle at the limit, and has changed nothing. -/
theorem ends_deleteMatching_tooDeep (answerer : Answerer)
    (hrules : h.service.rules.hasDeleteRules = true)
    (hdeep : h.service.config.maxCascadeDepth.toNat ≤ h.depth) (session : Option SessionId)
    (hfound : (s.store.view session).select h.service.collection filter = .ok found)
    (hkeys : found.mapM (Key.ofDocument h.service.key) = .ok keys) (hsome : keys ≠ [])
    (hsingle : single = true → keys.length = 1) :
    ends (h.deleteMatching answerer session filter single).run s
      = (.ok (.error (.cascadeTooDeep h.service.collection
          h.service.config.maxCascadeDepth.toNat)),
        (s.entered session).2.left (s.entered session).1 session) := by
  have hentered := s.view_entered session
  unfold deleteMatching
  rw [if_pos hrules, ExceptT.run_mk, ends_usingSession]
  generalize s.entered session = entered at hentered ⊢
  obtain ⟨id, begun⟩ := entered
  rw [← hentered] at hfound
  have hids : ends (h.findIds (some id) filter).run begun = (.ok (.ok keys), begun) := by
    rw [ends_findIds_of_select hfound, hkeys]
  have hempty : keys.isEmpty = false := by simpa using hsome
  have hfew : (single && decide (keys.length > 1)) = false := by
    cases single with
    | false => rfl
    | true => simp [hsingle rfl]
  -- none of the exits before the check of the depth is taken
  have hends : ends (h.deleteOnSession answerer id filter single).run begun
      = (.ok (.error (.cascadeTooDeep h.service.collection
          h.service.config.maxCascadeDepth.toNat)), begun) := by
    unfold deleteOnSession
    rw [ends_run_action, hids]
    simp only [hempty, hfew, Bool.false_eq_true, if_false, if_pos hdeep]
    rfl
  simp only [hends]

end Handle

/-! ## Bounded cascades -/

/-- A service whose deletions are noted down and go on to another service. -/
def passing (name other : String) (limit : UInt64) : Service where
  name
  collection := name
  key := .integer
  rules := ({} : Rules).deleteRule "pass" .pre fun _ => do
    let _ ← Program.call "Log" (.insert [("from", .string name)])
    let _ ← Program.call other (.deleteMany [])
  config := { maxCascadeDepth := limit }

/-- A service whose documents are marked as old before another is added to them. -/
def logging : Service where
  name := "Log"
  collection := "Log"
  key := .objectId
  rules := ({} : Rules).validator "mark" .insert fun _ => do
    let _ ← Program.call "Log" (.updateMany [] [("old", .boolean true)])
  config := { maxCascadeDepth := 1 }

/-- Two services that pass deletions to and fro, and their log. -/
def rally : Family := fun name =>
  if name = "Log" then logging
  else if name = "Ping" then passing "Ping" "Pong" 3 else passing name "Ping" 2

/-- The services of the rally write to the log only. -/
theorem rally_asked {write : Family.Write} (h : rally.Asked write) : write.service = "Log" := by
  obtain ⟨name, rule, hrule, told, request, hasked, hwrite⟩ := h
  have hpassing (name other : String) (limit : UInt64)
      (hrule : rule ∈ (passing name other limit).rules.deleteRules) : write.service = "Log" := by
    obtain rfl := List.mem_singleton.mp hrule
    obtain rfl | ⟨answer, hasked⟩ := hasked
    · obtain rfl := List.mem_singleton.mp hwrite
      rfl
    -- the deletion that follows writes nothing
    · cases answer with
      | error e => exact hasked.elim
      | ok _ =>
        obtain rfl | ⟨answer, hasked⟩ := hasked
        · cases hwrite
        · cases answer <;> exact hasked.elim
  unfold rally at hrule
  split at hrule
  · cases hrule
  · split at hrule
    · exact hpassing _ _ _ hrule
    · exact hpassing _ _ _ hrule

/-- The log updates itself when something is added to it, and only then. -/
theorem rally_prompts {write next : Family.Write} (hwrite : write.service = "Log")
    (h : rally.Prompts write next) :
    write.payload.kind = .insert ∧ next.service = "Log" ∧ next.payload.kind = .update := by
  obtain ⟨rule, hrule, told, hpayload, hfilter, request, hasked, hnext⟩ := h
  have hlog : rally write.service = logging := if_pos hwrite
  rw [hlog] at hrule
  cases hdata : write.payload with
  | update changes =>
    rw [hdata] at hrule
    cases hrule
  | insert data =>
    rw [hdata] at hrule
    obtain rfl := List.mem_singleton.mp hrule
    obtain rfl | ⟨answer, hasked⟩ := hasked
    · obtain rfl := List.mem_singleton.mp hnext
      exact ⟨rfl, rfl, rfl⟩
    · cases answer <;> exact hasked.elim

/-- A service on which no deletion may be passed on. -/
def strictest (rules : Rules) : Service where
  name := "Strictest"
  collection := "c"
  key := .integer
  rules
  config := { maxCascadeDepth := 1 }

/-- A service whose rules insert, which its validator does as well. -/
def inserting : Service where
  name := "Inserting"
  collection := "c"
  key := .integer
  rules := (({} : Rules)
    |>.validator "insert" .insert (fun _ => do let _ ← Program.call "Inserting" (.insert [])))
    |>.deleteRule "insert" .deny (fun _ => do let _ ← Program.call "Inserting" (.insert []))

section

variable {α β : Type} {s : State} {stop : Stop}

theorem Process.ends_action_of_stopped {a : Action α} {f : α → Action β}
    (h : (ends a.run s).1 = .error stop) : (ends (a >>= f).run s).1 = .error stop := by
  rw [ends_run_action]
  generalize ends a.run s = ended at h ⊢
  obtain ⟨result, s'⟩ := ended
  obtain rfl : result = .error stop := h
  rfl

theorem Process.ends_wrapping_of_stopped {a : Action α} (wrap : ServiceError → ServiceError)
    (h : (ends a.run s).1 = .error stop) : (ends (wrapping wrap a).run s).1 = .error stop := by
  rw [ends_wrapping, h]
  rfl

theorem Program.ends_request_of_stopped (answer : (request : Request) → Action request.Answer)
    (request : Request) (next : request.Answer → Program α)
    (h : (ends (answer request).run s).1 = .error stop) :
    (ends ((Program.request request >>= next).run answer : Process (Result α)) s).1
      = .error stop := by
  rw [Program.ends_bind, Program.ends_request]
  generalize ends (answer request).run s = ended at h ⊢
  obtain ⟨result, s'⟩ := ended
  obtain rfl : result = .error stop := h
  rfl

end

theorem Family.insert_never_ends (levels depth : Nat) (session : Option SessionId) (s : State) :
    (ends (performWithin (fun _ => inserting) levels depth session "Inserting" (.insert [])).run
      s).1 = .error .nesting := by
  induction levels generalizing depth session s with
  | zero => rfl
  | succ levels ih =>
    let answerer := Answerer.of (performWithin (fun _ => inserting) levels)
    have hcall := Program.ends_request_of_stopped (answerer depth session)
      (.call "Inserting" false (.insert [])) (fun _ => pure ()) (ih depth session s)
    have hvalidate : (ends (Handle.validate ⟨inserting, depth⟩ answerer session (.insert [])
        none).run s).1 = .error .nesting := by
      refine ends_action_of_stopped ?_
      rw [ends_run_action, ends_mapM_inTransaction]
      exact ends_wrapping_of_stopped _ hcall
    exact ends_action_of_stopped (a := Handle.validate ⟨inserting, depth⟩ answerer session
      (.insert []) none) hvalidate

end DocumentStore
