import DocumentStore.Proofs.Catalog.Levels
import DocumentStore.Proofs.Record
import DocumentStore.Proofs.Store.Views
import DocumentStore.Proofs.Update.Entries

/-!
# Nodes whose parents are there

Nodes are grounded if every parent that they refer to is among them. What can be written to
grounded nodes so that they stay grounded: new nodes below those that are there, nodes moved below
those that are there, and deletions that take no parent away. A store is intact if the nodes of all
its views are grounded.
-/
namespace DocumentStore.Catalog.Tree

/-! ## Grounded nodes -/

/-- Whether the parent that a document refers to is one of some nodes, if there is one. -/
def ParentIn (above : List ObjectId) (d : Document) : Prop :=
  ∀ id, d.reference? parent.path = some id → id ∈ above

/-- Whether a document refers to one of some nodes as its parent, or to none. -/
def Under (above : List ObjectId) (d : Document) : Prop :=
  ∀ value, d.get? parent.path = some value → value = .null ∨ ∃ id ∈ above, value = .objectId id

/-- Whether documents are nodes with different identifiers, each of which has one of them as its
parent or none. -/
structure Grounded (ds : List Document) : Prop where
  id : ∀ d ∈ ds, ∃ id, d.get? idField = some (.objectId id)
  distinct : (ds.map (Document.reference? · idField)).Nodup
  under : ∀ d ∈ ds, Under (ids ds) d

variable {ds ds' new : List Document} {above found : List ObjectId} {d d' d'' : Document}

theorem under_iff : Under above d ↔ d.Refers parent.path ∧ ParentIn above d := by
  simp only [ParentIn, Document.reference?_eq_some]
  constructor
  · intro h
    refine ⟨fun value hvalue => (h value hvalue).imp_right fun ⟨id, _, heq⟩ => ⟨id, heq⟩, ?_⟩
    intro id hid
    obtain hnull | ⟨other, hother, heq⟩ := h _ hid
    · cases hnull
    · cases heq
      exact hother
  · rintro ⟨hrefers, habove⟩ value hvalue
    obtain rfl | ⟨id, rfl⟩ := hrefers value hvalue
    · exact .inl rfl
    · exact .inr ⟨id, habove id hvalue, rfl⟩

namespace Under

theorem refers (h : Under above d) : d.Refers parent.path := (under_iff.mp h).1

theorem mono {above' : List ObjectId} (h : Under above d) (hsub : above ⊆ above') :
    Under above' d := by
  intro value hvalue
  exact (h value hvalue).imp_right fun ⟨id, hid, heq⟩ => ⟨id, hsub hid, heq⟩

theorem of_get?_eq (h : Under above d) (hsame : d'.get? parent.path = d.get? parent.path) :
    Under above d' := by
  intro value hvalue
  exact h value (hsame ▸ hvalue)

end Under

theorem mem_ids {id : ObjectId} :
    id ∈ ids ds ↔ ∃ d ∈ ds, d.get? idField = some (.objectId id) := by
  simp [ids, Document.reference?_eq_some]

@[simp] theorem ids_append (ds new : List Document) : ids (ds ++ new) = ids ds ++ ids new := by
  simp [ids]

theorem Grounded.nodes (h : Grounded ds) : Nodes ds :=
  ⟨h.id, fun d hd => (h.under d hd).refers, h.distinct⟩

/-! ## Deletions -/

/-- Nodes without others below them may be taken away. -/
theorem Grounded.filter_of_below (h : Grounded ds) (hnone : ∀ d ∈ ds, isBelow found d = false) :
    Grounded (ds.filter (!isAmong found ·)) := by
  refine ⟨fun d hd => h.id d (List.mem_filter.mp hd).1,
    h.distinct.sublist (List.filter_sublist.map _), ?_⟩
  intro d hd
  have hmem := (List.mem_filter.mp hd).1
  obtain ⟨hrefers, habove⟩ := under_iff.mp (h.under d hmem)
  refine under_iff.mpr ⟨hrefers, ?_⟩
  intro id hid
  obtain ⟨other, hother, hotherId⟩ := mem_ids.mp (habove id hid)
  -- the parent was not taken, since this node is below it
  have hkept : id ∉ found := by
    simpa [isBelow, hid] using hnone d hmem
  refine mem_ids.mpr ⟨other, List.mem_filter.mpr ⟨hother, ?_⟩, hotherId⟩
  simp [isAmong, Document.reference?_eq_some.mpr hotherId, hkept]

/-! ## Insertions -/

/-- Whether a document can become a node below some others. It may still lack an identifier. -/
structure IsNew (above : List ObjectId) (d : Document) : Prop where
  id : ∀ field ∈ d, field.1 = idField → ∃ id, field.2 = .objectId id
  under : ∀ field ∈ d, field.1 = parent.path →
    field.2 = .null ∨ ∃ id ∈ above, field.2 = .objectId id

/-- With an identifier that is made up, it is a node. -/
theorem IsNew.identify (h : IsNew above d) (fresh : ObjectId) :
    (∃ id, (Document.identify fresh d).get? idField = some (.objectId id)) ∧
      Under above (Document.identify fresh d) := by
  have hunder : Under above d := fun value hvalue => h.under _ (Document.mem_of_get? hvalue) rfl
  unfold Document.identify
  split
  · rename_i hcontains
    obtain ⟨value, hvalue⟩ := Option.isSome_iff_exists.mp hcontains
    obtain ⟨id, rfl⟩ := h.id _ (Document.mem_of_get? hvalue) rfl
    exact ⟨⟨id, hvalue⟩, hunder⟩
  · exact ⟨⟨fresh, rfl⟩, hunder.of_get?_eq rfl⟩

/-- An identifier that is not taken is not among those of the nodes. -/
theorem not_mem_ids_of_hasId {id : ObjectId} (h : Collections.hasId ds (.objectId id) = false) :
    id ∉ ids ds := by
  intro hmem
  obtain ⟨d, hd, hid⟩ := mem_ids.mp hmem
  have htaken : Collections.hasId ds (.objectId id) = true :=
    List.any_eq_true.mpr ⟨d, hd, by simp [hid, Value.same]⟩
  rw [h] at htaken
  cases htaken

theorem Grounded.concat (h : Grounded ds) {id : ObjectId}
    (hid : d.get? idField = some (.objectId id)) (hfree : id ∉ ids ds) (hunder : Under (ids ds) d) :
    Grounded (ds ++ [d]) := by
  have hsub : ids ds ⊆ ids (ds ++ [d]) := by simp
  refine ⟨?_, ?_, ?_⟩
  · intro other hother
    obtain hother | rfl := by simpa using hother
    · exact h.id other hother
    · exact ⟨id, hid⟩
  · -- the identifiers stay different, since the one that is added was free
    rw [List.map_append, List.map_singleton, Document.reference?_eq_some.mpr hid]
    refine List.nodup_append.mpr ⟨h.distinct, by simp, ?_⟩
    rintro taken htaken _ hlast rfl
    rw [List.mem_singleton.mp hlast] at htaken
    exact hfree (List.mem_filterMap.mpr (by simpa using htaken))
  · intro other hother
    obtain hother | rfl := by simpa using hother
    · exact (h.under other hother).mono hsub
    · exact hunder.mono hsub

/-- New nodes that are accepted are appended. -/
theorem Grounded.append (h : Grounded ds) {name : String}
    (hnew : ∀ d ∈ new, (∃ id, d.get? idField = some (.objectId id)) ∧ Under (ids ds) d)
    (hcheck : Collections.checkNew name ds new = .ok ()) : Grounded (ds ++ new) := by
  induction new generalizing ds with
  | nil => simpa using h
  | cons d rest ih =>
    obtain ⟨⟨id, hid⟩, hunder⟩ := hnew d List.mem_cons_self
    have hidOf : Collections.idOf d = .objectId id := by simp [Collections.idOf, hid]
    unfold Collections.checkNew at hcheck
    split at hcheck
    · cases hcheck
    · rename_i hfree
      rw [hidOf, Bool.not_eq_true] at hfree
      rw [List.append_cons]
      refine ih (h.concat hid (not_mem_ids_of_hasId hfree) hunder) ?_ hcheck
      intro other hother
      -- what is below the nodes is also below these and one more
      obtain ⟨hother, hunder⟩ := hnew other (List.mem_cons_of_mem _ hother)
      exact ⟨hother, hunder.mono (by simp)⟩

/-! ## Updates -/

/-- Whether changes are of names, or of parents to some others. -/
def Moves (above : List ObjectId) (changes : Document) : Prop :=
  ∀ field ∈ changes,
    field.1 = nodeName.path ∨ field.1 = parent.path ∧ ∃ id ∈ above, field.2 = .objectId id

/-- Whether a node is another one after such changes. -/
structure Moved (above : List ObjectId) (d d' : Document) : Prop where
  id : d'.get? idField = d.get? idField
  under : d'.get? parent.path = d.get? parent.path ∨
    ∃ id ∈ above, d'.get? parent.path = some (.objectId id)

namespace Moved

theorem refl (above : List ObjectId) (d : Document) : Moved above d d := ⟨rfl, .inl rfl⟩

theorem trans (h : Moved above d d') (h' : Moved above d' d'') : Moved above d d'' := by
  refine ⟨h'.id.trans h.id, ?_⟩
  obtain hsame | hmoved := h'.under
  · rw [hsame]
    exact h.under
  · exact .inr hmoved

theorem insert {field : String × Value}
    (h : field.1 = nodeName.path ∨ field.1 = parent.path ∧ ∃ id ∈ above, field.2 = .objectId id) :
    Moved above d (d.insert field.1 field.2) := by
  obtain hname | ⟨hparent, id, hid, hvalue⟩ := h
  · rw [hname]
    exact ⟨by rw [Document.get?_insert]; rfl, .inl (by rw [Document.get?_insert]; rfl)⟩
  · rw [hparent, hvalue]
    refine ⟨by rw [Document.get?_insert]; rfl, .inr ⟨id, hid, ?_⟩⟩
    rw [Document.get?_insert, if_pos rfl]

theorem applyFields {changes : List (String × Value)} (hchanges : Moves above changes)
    (h : Update.applyFields .set d changes = .ok d') : Moved above d d' := by
  induction changes generalizing d with
  | nil =>
    cases h
    exact refl above _
  | cons field rest ih =>
    have hfield := hchanges field List.mem_cons_self
    -- these fields are at the top of a node, and none of them identifies it
    have hset : Update.applyAt .set d field.1 field.2 = .ok (d.insert field.1 field.2) := by
      obtain hpath | ⟨hpath, -⟩ := hfield
      · rw [hpath]
        rfl
      · rw [hpath]
        rfl
    simp only [Update.applyFields, hset, bind, Except.bind] at h
    have hrest : Moves above rest := fun field hmem =>
      hchanges field (List.mem_cons_of_mem _ hmem)
    exact (insert hfield).trans (ih hrest h)

/-- An update that sets such fields. -/
theorem apply {changes : Document} (hchanges : Moves above changes)
    (h : Update.apply d (Document.single "$set" (.document changes)) = .ok d') :
    Moved above d d' := by
  rw [Update.apply_single rfl] at h
  exact applyFields hchanges h

end Moved

/-- The identifiers of nodes that are moved. -/
theorem map_reference?_of_moved (h : List.Forall₂ (Moved above) ds ds') :
    ds'.map (Document.reference? · idField) = ds.map (Document.reference? · idField) := by
  refine map_eq_of_forall₂ (h.imp fun d d' hd => ?_)
  unfold Document.reference?
  rw [hd.id]

theorem exists_of_moved (h : List.Forall₂ (Moved above) ds ds') (hd : d' ∈ ds') :
    ∃ d ∈ ds, Moved above d d' := by
  induction h with
  | nil => cases hd
  | @cons d other rest others hfirst _ ih =>
    obtain rfl | hd := List.mem_cons.mp hd
    · exact ⟨d, List.mem_cons_self, hfirst⟩
    · obtain ⟨d, hd, hmoved⟩ := ih hd
      exact ⟨d, List.mem_cons_of_mem _ hd, hmoved⟩

/-- Nodes that are moved below nodes that are there stay grounded. -/
theorem Grounded.moved (h : Grounded ds) (hmoved : List.Forall₂ (Moved (ids ds)) ds ds') :
    Grounded ds' := by
  -- no identifier changes, so a parent that was among the nodes still is
  have hsame := map_reference?_of_moved hmoved
  have hids : ids ds' = ids ds := by
    simpa [ids, List.filterMap_map] using congrArg (List.filterMap fun id? => id?) hsame
  refine ⟨?_, ?_, ?_⟩
  · intro d' hd'
    obtain ⟨d, hd, hmoved⟩ := exists_of_moved hmoved hd'
    rw [hmoved.id]
    exact h.id d hd
  · rw [hsame]
    exact h.distinct
  · intro d' hd'
    obtain ⟨d, hd, hmoved⟩ := exists_of_moved hmoved hd'
    rw [hids]
    obtain hkept | ⟨id, hid, hparent⟩ := hmoved.under
    · exact (h.under d hd).of_get?_eq hkept
    · intro value hvalue
      rw [hparent] at hvalue
      cases hvalue
      exact .inr ⟨id, hid, rfl⟩

/-! ## Calls -/

namespace Grounded

variable (h : Grounded ds) (fresh : Nat → ObjectId) (name : String)

include h

theorem rewrite_insert (hd : IsNew (ids ds) d) :
    Grounded ((Store.Call.insert name d).rewrite fresh ds) := by
  refine Collections.holds_of_inserted h fun hcheck => h.append ?_ hcheck
  intro other hother
  rw [List.mem_singleton.mp hother]
  exact hd.identify (fresh 0)

theorem rewrite_insertMany (hnew : ∀ d ∈ new, IsNew (ids ds) d) :
    Grounded ((Store.Call.insertMany name new).rewrite fresh ds) := by
  refine Collections.holds_of_inserted h fun hcheck => h.append ?_ hcheck
  intro other hother
  obtain ⟨i, hi, rfl⟩ := List.mem_mapIdx.mp hother
  exact (hnew _ (List.getElem_mem hi)).identify (fresh i)

theorem rewrite_update {changes : Document} (hchanges : Moves (ids ds) changes)
    (filter : Document) (many : Bool) :
    Grounded ((Store.Call.update name filter (Document.single "$set" (.document changes))
      many).rewrite fresh ds) := by
  refine h.moved (Store.Call.forall₂_rewrite_update (Moved.refl (ids ds)) ?_ fresh name ..)
  exact fun d _ d' happly => Moved.apply hchanges happly

theorem rewrite_delete (hnone : ∀ d ∈ ds, isBelow found d = false) :
    Grounded ((Store.Call.delete name (Key.filterAll (found.map .objectId)) true).rewrite fresh
      ds) := by
  rw [Store.Call.rewrite_delete_of_decides (decides_keys h.nodes found)]
  exact h.filter_of_below hnone

end Grounded

/-! ## Intact stores -/

/-- Whether the nodes of a collection are grounded, both those that are committed and those of
every transaction. -/
structure Intact (collection : String) (s : Store) : Prop where
  committed : Grounded (s.collections.documents collection)
  snapshots : ∀ id snapshot, s.transaction? id = some snapshot →
    Grounded (snapshot.collections.documents collection)

namespace Intact

variable {collection : String} {s s' : Store}

/-- What a call on any session works on is one or the other. -/
theorem view (h : Intact collection s) (session : Option SessionId) :
    Grounded ((s.view session).documents collection) := by
  obtain ⟨id, snapshot, -, ht, hview⟩ | ⟨-, hview⟩ := s.view_cases session
  · rw [hview]
    exact h.snapshots id snapshot ht
  · rw [hview]
    exact h.committed

theorem of_views (h : ∀ session, Grounded ((s.view session).documents collection)) :
    Intact collection s := by
  refine ⟨h none, ?_⟩
  intro id snapshot ht
  rw [← Store.view_of_transaction? ht]
  exact h (some id)

theorem of_shows (h : Intact collection s) (hshows : s.Shows s') : Intact collection s' := by
  refine .of_views fun session => ?_
  obtain ⟨other, hother⟩ := hshows session
  rw [hother]
  exact h.view other

/-- A call keeps a store intact if what it makes of its own view is grounded. -/
theorem answer {session : Option SessionId} {fresh : Nat → ObjectId} {call : Store.Call}
    (h : Intact collection s) (hcollection : call.collection = collection)
    (hcall : Grounded (call.rewrite fresh ((s.view session).documents collection))) :
    Intact collection (s.answer session fresh call).2 := by
  subst hcollection
  have hviews (other : Option SessionId) :
      (s.answer session fresh call).2.view other = call.perform fresh (s.view session) ∨
        (s.answer session fresh call).2.view other = s.view other :=
    Store.view_answer_other fresh call other
  refine .of_views fun other => ?_
  obtain hperformed | hsame := hviews other
  · rw [hperformed, Store.Call.documents_perform, if_pos rfl]
    exact hcall
  · rw [hsame]
    exact h.view other

end Intact

end DocumentStore.Catalog.Tree
