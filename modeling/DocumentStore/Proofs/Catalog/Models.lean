import DocumentStore.Proofs.Catalog.Written
import DocumentStore.Proofs.Service.Stored

/-!
# Models of people and nodes

People and nodes are records. Their services differ in their rules and in whether nulls are stored,
but not in what is read: a person or a node is read as it was created, with all changes since then.
-/
namespace DocumentStore.Catalog

open Process

/-! ## People -/

namespace People

theorem proper_person : person.Proper where
  fields := by
    simp only [person, details, List.forall_mem_cons, List.not_mem_nil, false_implies,
      implies_true, and_true]
    refine ⟨.required _ nofun, .required _ nofun, .required _ nofun, .nullable _ _, ?_⟩
    exact ⟨rfl, fun value h => by cases h; rfl, nofun⟩
  nodup := by decide

theorem revises_details : personChanges.Revises details where
  fits := by
    simp only [personChanges, List.forall_mem_cons, List.not_mem_nil, false_implies, implies_true,
      and_true]
    exact ⟨⟨.required "name" .string, by simp [details], .string, rfl, .inl rfl⟩,
      ⟨.required "age" .int32, by simp [details], .int32, rfl, .inl rfl⟩⟩
  segments := by decide

/-- Validators of people look at the payload only, whatever the least age is. -/
theorem reads_validators {rules : Rules} {least : Int32} {reason : String}
    (hrules : rules.validators = [⟨"name_not_blank", .insertUpdate, nameNotBlank⟩,
      ⟨"adult", .insert, atLeast least reason⟩]) :
    ∀ rule ∈ rules.validators, ∀ told, (rule.hook told).Asks Request.Reads := by
  rw [hrules]
  simp only [List.forall_mem_cons, List.not_mem_nil, false_implies, implies_true, and_true]
  exact ⟨nameNotBlank_asks _, atLeast_asks _ least reason⟩

theorem storesRecords_service (name collection : String) {rules : Rules}
    (hreads : ∀ rule ∈ rules.validators, ∀ told, (rule.hook told).Asks Request.Reads)
    (indexes : List (String × Index)) (config : ServiceConfig) :
    ({ service name collection rules with indexes, config } : Service).StoresRecords details
      personChanges where
  key := rfl
  readInsert := rfl
  readUpdate := rfl
  readModel := rfl
  prepareInsert _ _ := rfl
  prepareUpdate _ := rfl
  proper := proper_person
  revises := revises_details
  reads := hreads

end People

/-! ## Nodes -/

namespace Tree

/-- The fields of a node beside the identifier. -/
def details : Record := [.required "name" .string, .nullable "parent" .objectId]

theorem proper_node : node.Proper where
  fields := by
    simp only [node, List.forall_mem_cons, List.not_mem_nil, false_implies, implies_true, and_true]
    exact ⟨.required _ nofun, .required _ nofun, .nullable _ _⟩
  nodup := by decide

theorem revises_details : nodeChanges.Revises details where
  fits := by
    simp only [nodeChanges, List.forall_mem_cons, List.not_mem_nil, false_implies, implies_true,
      and_true]
    exact ⟨⟨.required "name" .string, by simp [details], .string, rfl, .inl rfl⟩,
      ⟨.nullable "parent" .objectId, by simp [details], .objectId, rfl, .inr rfl⟩⟩
  segments := by decide

theorem reads_parentExists (self : String) (v : Validation) :
    (parentExists self v).Asks Request.Reads := by
  unfold parentExists
  split
  · trivial
  · refine .bind (Program.asks_request trivial) fun found => ?_
    split
    · trivial
    · trivial

/-- Validators of nodes look for others only. -/
theorem reads_validators {rules : Rules} (self : String)
    (hrules : rules.validators = [⟨"parent_exists", .insertUpdate, parentExists self⟩,
      ⟨"not_own_parent", .update, notOwnParent self⟩]) :
    ∀ rule ∈ rules.validators, ∀ told, (rule.hook told).Asks Request.Reads := by
  rw [hrules]
  simp only [List.forall_mem_cons, List.not_mem_nil, false_implies, implies_true, and_true]
  exact ⟨reads_parentExists self, reads_notOwnParent self⟩

theorem storesRecords_service (name : String) {rules : Rules}
    (hreads : ∀ rule ∈ rules.validators, ∀ told, (rule.hook told).Asks Request.Reads)
    (config : ServiceConfig) :
    ({ service name rules with config } : Service).StoresRecords details nodeChanges where
  key := rfl
  readInsert := rfl
  readUpdate := rfl
  readModel := rfl
  prepareInsert _ _ := rfl
  prepareUpdate _ := rfl
  proper := proper_node
  revises := revises_details
  reads := hreads

end Tree

/-! ## What is created and updated is what is read -/

/-- The services of people and of trees. -/
def recordServices : List Service := [People.people, People.strict, Tree.nodes, Tree.fragile]

theorem storesRecords {service : Service} (hservice : service ∈ recordServices)
    (config : ServiceConfig) :
    ∃ record changes, ({ service with config } : Service).StoresRecords record changes := by
  simp only [recordServices, List.mem_cons, List.not_mem_nil, or_false] at hservice
  obtain rfl | rfl | rfl | rfl := hservice
  · exact ⟨_, _, People.storesRecords_service _ _ (People.reads_validators rfl) _ config⟩
  · exact ⟨_, _, People.storesRecords_service _ _ (People.reads_validators rfl) _ config⟩
  · exact ⟨_, _, Tree.storesRecords_service _ (Tree.reads_validators _ rfl) config⟩
  · exact ⟨_, _, Tree.storesRecords_service _ (Tree.reads_validators _ rfl) config⟩

/-- What is created and updated is what is read. Whatever data the validators of a service of people
or of trees accept, and whether or not nulls are left out: if nothing is found under the identifier
that the data brings or is given, a creation answers a model with the fields of the data and that
identifier, and puts one document behind the others. Then, after any updates with changes that the
validators accept, the model with all of these changes is what is read under the identifier, with
the same fields, still from one document behind the others. One more such update answers that model
with its changes, and then this is what is read. -/
theorem created_and_updated_is_read {service : Service} (hservice : service ∈ recordServices)
    (config : ServiceConfig) (family : Family) (levels depth : Nat) (session : Option SessionId)
    {data payload : Document} {s checked : State} :
    let h : Handle := ⟨{ service with config }, depth⟩
    let answerer := Answerer.of (family.performWithin levels)
    let docs := (s.store.view session).documents service.collection
    let model := Document.identify (checked.fresh 0) payload
    service.readInsert data = .ok payload →
    h.Accepts answerer session (.insert payload) none s checked →
    ∃ id, Document.get? model idField = some (.objectId id) ∧
      ((∀ d ∈ docs, (Key.objectId id).finds d = false) →
      ∃ s' stored, ends (h.answer answerer session (.create data)).run s = (.ok (.ok model), s') ∧
        s.Appends session service.collection [stored] s' ∧
        ∀ changed s₁, h.Revisions answerer session id s' changed s₁ →
          let current := changed.foldl Document.revised model
          current.keys = model.keys ∧
          ends (h.answer answerer session (.get (.objectId id))).run s₁
            = (.ok (.ok (some current)), s₁) ∧
          (∃ stored, (s₁.store.view session).documents service.collection = docs ++ [stored]) ∧
          ∀ data given accepted, service.readUpdate data = .ok given →
            h.Accepts answerer session (.update given) (some (Key.objectId id).filter) s₁ accepted →
            ∃ s₂, ends (h.answer answerer session (.update (.objectId id) data)).run s₁
                = (.ok (.ok (current.revised given)), s₂) ∧
              ends (h.answer answerer session (.get (.objectId id))).run s₂
                = (.ok (.ok (some (current.revised given))), s₂)) := by
  intro h answerer docs model hread haccepts
  obtain ⟨record, changes, hrecords⟩ := storesRecords hservice config
  have hanswerer : answerer.Reads := Answerer.reads_of family levels
  obtain ⟨id, hid, -⟩ := Record.read_identify hrecords.proper
    (hrecords.readInsert ▸ hread) (checked.fresh 0) false
  refine ⟨id, hid, fun hfree => ?_⟩
  obtain ⟨s', stored, hcreated, happends, hshows⟩ :=
    Handle.ends_create_of_records (h := h) hrecords hanswerer hread haccepts rfl hid hfree
  refine ⟨s', stored, hcreated, happends, fun changed s₁ hrevisions => ?_⟩
  -- each revision is seen after the one before, by induction on the updates
  have hshows' := Handle.shows_of_revisions hrecords hanswerer hshows hrevisions
  refine ⟨(hshows'.keys hrecords).trans (hshows.keys hrecords).symm,
    hshows'.ends_get hrecords.key, ?_, fun data given accepted hread haccepts => ?_⟩
  · obtain ⟨stored, hstores, -⟩ := hshows'
    exact ⟨stored, hstores.documents⟩
  · obtain ⟨s₂, hupdated, hshows''⟩ :=
      Handle.ends_update_of_records hrecords hanswerer hshows' hread haccepts
    exact ⟨s₂, hupdated, hshows''.ends_get hrecords.key⟩

/-- Someone is created without a nickname, which is left out, and grows older, which is set while
the name is not. -/
theorem created_and_updated_is_read_person :
    let h : Handle := ⟨{ People.people with config := { excludeNullOnInsert := true } }, 0⟩
    let answerer := Answerer.of (family.performWithin 1)
    let id := ObjectId.generated 0
    let person (age : Int32) : Document := [(idField, .objectId id), ("name", .string "Ada"),
      ("age", .int32 age), ("nickname", .null), ("tags", .array [])]
    let ada : Document := [("name", .string "Ada"), ("age", .int32 36)]
    let older : Document := [("age", .int32 37)]
    let created := ends (h.answer answerer none (.create ada)).run {}
    let updated := ends (h.answer answerer none (.update (.objectId id) older)).run created.2
    created.1 = .ok (.ok (person 36)) ∧ updated.1 = .ok (.ok (person 37)) ∧
      ends (h.answer answerer none (.get (.objectId id))).run updated.2
        = (.ok (.ok (some (person 37))), updated.2) := by
  intro h answerer id person ada older created updated
  have hread : People.people.readInsert ada = .ok (person 36).tail := rfl
  have haccepts : h.Accepts answerer none (.insert (person 36).tail) none {} {} := rfl
  obtain ⟨id', hid, hcreated⟩ := created_and_updated_is_read List.mem_cons_self h.service.config
    family 1 0 none hread haccepts
  obtain rfl : id = id' := Value.objectId.inj (Option.some.inj hid)
  obtain ⟨s', stored, hends, -, hrun⟩ := hcreated nofun
  obtain rfl : created.2 = s' := congrArg Prod.snd hends
  let given : Document := [("name", .null), ("age", .int32 37)]
  have hgiven : h.service.readUpdate older = .ok given := rfl
  have haccepted : h.Accepts answerer none (.update given) (some (Key.objectId id).filter) created.2
      created.2 := rfl
  obtain ⟨-, -, -, hupdate⟩ := hrun [] created.2 (.nil _)
  obtain ⟨s₂, hupdated, -⟩ := hupdate older given created.2 hgiven haccepted
  obtain ⟨-, hgot, -⟩ := hrun [given] s₂ (.cons hgiven haccepted hupdated (.nil _))
  obtain rfl : updated.2 = s₂ := congrArg Prod.snd hupdated
  exact ⟨congrArg Prod.fst hends, congrArg Prod.fst hupdated, hgot⟩

end DocumentStore.Catalog
