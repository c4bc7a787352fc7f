import DocumentStore.Proofs.Catalog.Cascade
import DocumentStore.Proofs.Catalog.Grounded
import DocumentStore.Proofs.Process.Invariant
import DocumentStore.Proofs.Service.Deletion

/-!
# Nodes that are written

Data and changes of nodes are read in the shapes of their records, and the validators look for the
parent that they refer to on the same view that is written afterwards. What is inserted is therefore
a new node below one that is there, and what is updated is moved below one that is there.
-/
namespace DocumentStore.Catalog.Tree

open Process

/-! ## What is written -/

variable {above : List ObjectId} {data d : Document}

/-- The reference to a parent that was read is an identifier or null, and if it is an identifier it
can be looked up. -/
theorem parent_of_read {record : Record} (h : record.read data = .ok d)
    (hnames : (record.map (·.name)).Nodup)
    (hrecord : ∀ f ∈ record, f.name = parent.path → f = .nullable "parent" .objectId)
    {field : String × Value} (hfield : field ∈ d) (hname : field.1 = parent.path)
    (hparent : ParentIn above d) :
    field.2 = .null ∨ ∃ id ∈ above, field.2 = .objectId id := by
  obtain ⟨f, hf, hfname, hread, -⟩ := Record.mem_of_read h hfield
  obtain rfl := hrecord f hf (hfname.symm.trans hname)
  obtain hnull | ⟨id, hid⟩ := RecordField.read_reference hread
  · exact .inl hnull
  · -- a field that stands in a document is the one that a lookup finds only if it stands there once
    have hkeys : d.keys.Nodup := hnames.sublist (Record.keys_of_read h)
    have hget : d.get? parent.path = some (.objectId id) := by
      refine Document.get?_of_mem hkeys ?_
      rwa [← hname, ← hid]
    exact .inr ⟨id, hparent id (Document.reference?_eq_some.mpr hget), hid⟩

/-- What is read for a new node is one if its parent is there. -/
theorem isNew_of_read (h : newNode.read data = .ok d)
    (hparent : ParentIn above d) : IsNew above d := by
  refine ⟨?_, ?_⟩
  · intro field hfield hname
    obtain ⟨f, hf, hfname, hread, hleftOut⟩ := Record.mem_of_read h hfield
    rw [hname] at hfname
    simp only [newNode, List.mem_cons, List.not_mem_nil, or_false] at hf
    obtain rfl | rfl | rfl := hf
    · obtain hnull | hid := RecordField.read_reference hread
      · exact absurd hnull (hleftOut rfl)
      · exact hid
    · exact absurd hfname (by decide)
    · exact absurd hfname (by decide)
  · intro field hfield hname
    refine parent_of_read h (by decide) ?_ hfield hname hparent
    simp [newNode, RecordField.nullable, RecordField.required, parent, idField]

theorem IsNew.withoutNulls (h : IsNew above d) : IsNew above d.withoutNulls :=
  ⟨fun field hfield => h.id field (List.mem_filter.mp hfield).1,
    fun field hfield => h.under field (List.mem_filter.mp hfield).1⟩

/-- What is read for changes moves nodes only below the parent that is there. -/
theorem moves_of_read (h : nodeChanges.read data = .ok d)
    (hparent : ParentIn above d) :
    Moves above d.withoutNulls := by
  intro field hfield
  obtain ⟨hfield, hkept⟩ := List.mem_filter.mp hfield
  obtain ⟨f, hf, hfname, -⟩ := Record.mem_of_read h hfield
  simp only [nodeChanges, List.mem_cons, List.not_mem_nil, or_false] at hf
  obtain rfl | rfl := hf
  · exact .inl hfname
  · -- a parent that is null is dropped with the other nulls, so no node is moved to the top
    have hread := parent_of_read h (by decide)
      (by simp [nodeChanges, RecordField.nullable, parent]) hfield hfname hparent
    obtain hnull | hmoved := hread
    · rw [hnull] at hkept
      cases hkept
    · exact .inr ⟨hfname, hmoved⟩

/-! ## Validators -/

variable {family : Family} {self : String} {session : Option SessionId} {s : State}

/-- The nodes that a call on a session works on. -/
def seen (service : Service) (session : Option SessionId) (store : Store) : List Document :=
  (store.view session).documents service.collection

theorem ends_contains (htree : IsTree family self)
    (h : Nodes (seen (family self) session s.store)) (id : ObjectId) (levels depth : Nat) :
    ends (family.performWithin (levels + 1) depth session self (.contains (.objectId id))).run s
      = (.ok (.ok (decide (id ∈ ids (seen (family self) session s.store)))), s) := by
  have hdecides : Filter.Decides (Key.filter (.objectId id)) (·.reference? idField == some id)
      (seen (family self) session s.store) := by
    refine ⟨fun d hd => ?_, ?_⟩
    · refine (Filter.plain_id.evaluate d _).trans ?_
      exact congrArg Except.ok (Filter.equals_objectId (h.refers_id hd) id)
    · refine (Filter.plain_id.evaluate [] _).trans ?_
      exact congrArg Except.ok (Filter.equals_objectId (Document.refers_nil _) id)
  change ends (ofResult (Key.ofValue (family self).key (.objectId id)) >>= fun key =>
    (⟨family self, depth⟩ : Handle).contains session key).run s = _
  rw [ends_run_action, ends_ofResult, htree.key]
  change ends ((⟨family self, depth⟩ : Handle).count session (Key.filter (.objectId id)) >>=
    fun found => pure (decide (found > 0))).run s = _
  rw [ends_run_action]
  have hcount := ends_ask_count session (family self).collection hdecides
  unfold Handle.count
  rw [hcount]
  have hsame : decide ((List.filter (·.reference? idField == some id)
      (seen (family self) session s.store)).length > 0)
      = decide (id ∈ ids (seen (family self) session s.store)) := by
    simp [List.length_filter_pos_iff, ids]
  exact congrArg (fun b => ((.ok (.ok b), s) : Except Stop (Result Bool) × State)) hsame

theorem parentOf_eq (payload : Payload) :
    parentOf payload = payload.document.reference? parent.path := rfl

/-- The check lets references pass only if they are to nodes that are there. -/
theorem keeps_parentExists (htree : IsTree family self)
    (h : Intact (family self).collection s.store) (session : Option SessionId) (v : Validation)
    (levels depth : Nat) :
    Keeps (Intact (family self).collection)
      (fun _ store => store = s.store ∧
        ParentIn (ids (seen (family self) session s.store)) v.payload.document)
      ((parentExists self v).run (Answerer.of (family.performWithin levels) depth session) :
        Process (Result Unit)) s := by
  unfold parentExists
  rw [parentOf_eq]
  cases hparent : v.payload.document.reference? parent.path with
  | none => exact .of_ends rfl h ⟨rfl, by simp [ParentIn, hparent]⟩
  | some id =>
    -- what the check is answered holds of the documents that are seen when it asks
    have hcontains : Keeps (Intact (family self).collection)
        (fun found store => store = s.store ∧
          (found = true → id ∈ ids (seen (family self) session s.store)))
        (Answerer.of (family.performWithin levels) depth session
          (.call self false (.contains (.objectId id)))) s := by
      cases levels with
      | zero => exact .of_failed h fun _ hends => by cases hends
      | succ levels =>
        have hends := ends_contains htree (h.view session).nodes id levels depth
        exact .of_ends hends h ⟨rfl, by simp⟩
    refine .program (.call hcontains) ?_
    intro found s' hkept hfound
    cases found with
    | false => exact .throw _ hkept
    | true =>
      refine .of_ends rfl hkept ⟨hfound.1, ?_⟩
      intro other hother
      rw [hparent] at hother
      cases hother
      exact hfound.2 rfl

/-- The other validator only reads. -/
theorem reads_notOwnParent (self : String) (v : Validation) :
    (notOwnParent self v).Asks Request.Reads := by
  unfold notOwnParent
  split
  · refine .bind (Program.asks_request trivial) fun keys => ?_
    split
    · trivial
    · trivial
  · trivial

theorem validatorsFor_rules (self : String) (payload : Payload) :
    ∃ others, (rules self).validatorsFor payload.kind
        = ⟨"parent_exists", .insertUpdate, parentExists self⟩ :: others ∧
      ∀ rule ∈ others, rule.hook = notOwnParent self := by
  cases payload with
  | insert data => exact ⟨[], rfl, by simp⟩
  | update changes => exact ⟨[⟨"not_own_parent", .update, notOwnParent self⟩], rfl, by simp⟩

/-- Data that passes the validators refers to a parent that is there, if to any. -/
theorem keeps_validate (htree : IsTree family self)
    (h : Intact (family self).collection s.store) (session : Option SessionId) (payload : Payload)
    (filter : Option Document) (levels depth : Nat) :
    Keeps (Intact (family self).collection)
      (fun _ store => store = s.store ∧
        ParentIn (ids (seen (family self) session s.store)) payload.document)
      ((⟨family self, depth⟩ : Handle).validate (Answerer.of (family.performWithin levels)) session
        payload filter) s := by
  let known (_ : Unit) (store : Store) : Prop := store = s.store ∧
    ParentIn (ids (seen (family self) session s.store)) payload.document
  have htold := Still.mapM_inTransaction session
  obtain ⟨others, hvalidators, hothers⟩ := validatorsFor_rules self payload
  unfold Handle.validate
  rw [htree.rules, hvalidators]
  refine .bind (Q := known) ?_ ?_
  · refine .bind (.still htold h) fun inside s' hkept hsame => ?_
    refine .wrapping _ ?_
    have hchecked := keeps_parentExists htree hkept session ⟨payload, filter, depth, inside⟩
      levels depth
    rw [hsame] at hchecked
    exact hchecked
  · intro _ s' hkept hknown
    -- what the others read does not matter
    refine (Keeps.still (Confined.isStill ?_) hkept).mono (fun _ hstore => hstore) ?_
    · refine .forM fun rule hrule => .action (.still htold) fun inside => .wrapping _ ?_
      rw [hothers rule hrule]
      exact (reads_notOwnParent self _).confined (Answerer.reads_of family levels depth session)
    · intro _ store _ hsame
      exact ⟨hsame.trans hknown.1, hknown.2⟩

/-! ## Insertions and updates -/

/-- Whether a name of a family stands for the service of trees under some settings. -/
def Serves (family : Family) (self : String) : Prop :=
  ∃ config, family self = { service self (rules self) with config }

namespace Serves

theorem isTree (h : Serves family self) : IsTree family self := by
  obtain ⟨config, hservice⟩ := h
  exact ⟨by rw [hservice]; rfl, by rw [hservice]; rfl⟩

theorem readInsert (h : Serves family self) : (family self).readInsert = newNode.read := by
  obtain ⟨config, hservice⟩ := h
  rw [hservice]
  rfl

theorem readUpdate (h : Serves family self) : (family self).readUpdate = nodeChanges.read := by
  obtain ⟨config, hservice⟩ := h
  rw [hservice]
  rfl

theorem isNew_prepared (h : Serves family self) (hnew : IsNew above data)
    (hprepared : (family self).prepareInsert (family self).config data = .ok d) :
    IsNew above d := by
  obtain ⟨config, hservice⟩ := h
  rw [hservice] at hprepared
  cases hprepared
  split
  · exact hnew.withoutNulls
  · exact hnew

theorem prepareUpdate (h : Serves family self) (changes : Document) :
    (family self).prepareUpdate changes
      = .ok (Document.single "$set" (.document changes.withoutNulls)) := by
  obtain ⟨config, hservice⟩ := h
  rw [hservice]
  rfl

end Serves

/-- A call to the store keeps nodes intact if it makes grounded ones of those that it works on. -/
theorem keeps_ask {collection : String} {call : Store.Call}
    (h : Intact collection s.store) (hcollection : call.collection = collection)
    (hcall : ∀ fresh, Grounded (call.rewrite fresh ((s.store.view session).documents collection))) :
    Keeps (Intact collection) (fun _ _ => True) (ask session call) s := by
  exact .ask (fun fresh => h.answer hcollection (hcall fresh)) fun _ _ => trivial

section Writing

variable (hserves : Serves family self) (hintact : Intact (family self).collection s.store)
  (levels depth : Nat)

include hserves hintact

theorem keeps_insertOne (hdata : newNode.read data = .ok d) :
    Keeps (Intact (family self).collection) (fun _ _ => True)
      ((⟨family self, depth⟩ : Handle).insertOne (Answerer.of (family.performWithin levels)) session
        d) s := by
  unfold Handle.insertOne
  refine .bind (keeps_validate hserves.isTree hintact session (.insert d) none levels depth) ?_
  intro _ s' hkept hknown
  have hnew := isNew_of_read hdata hknown.2
  rw [← hknown.1] at hnew
  refine .bind (.ofResult (Q := fun d store => IsNew (ids (seen (family self) session store)) d)
    hkept fun d hprepared => hserves.isNew_prepared hnew hprepared) ?_
  intro d s' hkept hnew
  refine .bind
    (keeps_ask hkept rfl fun fresh => (hkept.view session).rewrite_insert fresh _ hnew) ?_
  intro id s' hkept _
  exact .ofResult hkept fun _ _ => trivial

theorem keeps_insertMany {ds : List Document}
    (hdata : ∀ d ∈ ds, ∃ data, newNode.read data = .ok d) :
    Keeps (Intact (family self).collection) (fun _ _ => True)
      ((⟨family self, depth⟩ : Handle).insertMany (Answerer.of (family.performWithin levels))
        session ds) s := by
  unfold Handle.insertMany
  refine .bind (.forM (P := ParentIn (ids (seen (family self) session s.store))) hintact ?_) ?_
  · intro d hd s' hsame
    have hvalidated := keeps_validate (s := s') hserves.isTree (hsame ▸ hintact) session (.insert d)
      none levels depth
    rw [hsame] at hvalidated
    exact hvalidated
  intro _ s' hkept hknown
  split
  · exact .pure hkept trivial
  · -- all of them were validated before the first is written
    have hnew (d : Document) (hd : d ∈ ds) :
        IsNew (ids (seen (family self) session s'.store)) d := by
      obtain ⟨data, hread⟩ := hdata d hd
      rw [hknown.1]
      exact isNew_of_read hread (hknown.2 d hd)
    refine .bind (.ofResult (Q := fun ds store =>
      ∀ d ∈ ds, IsNew (ids (seen (family self) session store)) d) hkept ?_) ?_
    · intro prepared hprepared d hd
      obtain ⟨item, hitem, hread⟩ := mem_of_mapM hprepared hd
      exact hserves.isNew_prepared (hnew item hitem) hread
    intro prepared s' hkept hnew
    refine .bind
      (keeps_ask hkept rfl fun fresh => (hkept.view session).rewrite_insertMany fresh _ hnew) ?_
    intro id s' hkept _
    exact .ofResult hkept fun _ _ => trivial

theorem keeps_applyUpdate {changes : Document} (hchanges : nodeChanges.read data = .ok changes)
    (filter : Document) (many : Bool) :
    Keeps (Intact (family self).collection) (fun _ _ => True)
      ((⟨family self, depth⟩ : Handle).applyUpdate (Answerer.of (family.performWithin levels))
        session filter changes many) s := by
  unfold Handle.applyUpdate
  refine .bind (keeps_validate hserves.isTree hintact session (.update changes) (some filter) levels
    depth) ?_
  intro _ s' hkept hknown
  have hmoves := moves_of_read hchanges hknown.2
  rw [← hknown.1] at hmoves
  refine .bind (.ofResult (Q := fun update store =>
      update = Document.single "$set" (.document changes.withoutNulls) ∧ store = s'.store) hkept ?_)
    ?_
  · intro update hprepared
    exact ⟨Except.ok.inj (hprepared.symm.trans (hserves.prepareUpdate changes)), rfl⟩
  rintro update s'' hkept ⟨rfl, hsame⟩
  rw [← hsame] at hmoves
  split
  · have hcounted := (Handle.confined_count ⟨family self, depth⟩ session none filter).isStill
    exact .bind (.still hcounted hkept) fun matched s' hkept _ => .pure hkept trivial
  · exact keeps_ask hkept rfl fun fresh =>
      (hkept.view session).rewrite_update fresh _ hmoves filter many

end Writing

end DocumentStore.Catalog.Tree
