import DocumentStore.Proofs.Key
import DocumentStore.Proofs.Store.LeftOver
import DocumentStore.Proofs.Store.Selection
import Mathlib.Data.List.Nodup

/-!
# Deletions by filter and by key

Documents are deleted with the filter that selects them, or by the keys of those that were selected
with it. Where the documents of a collection have different object identifiers both delete the
same: a key finds the one document that it was read from.
-/
namespace DocumentStore

/-! ## Deletions with a filter -/

namespace Collections

section

variable [Pattern.Engine]

variable {cs : Collections} {name : String} {filter other : Document}
  {ds found : List Document}

omit [Pattern.Engine] in
theorem eraseP_eq_filter {p : Document → Bool} (h : (ds.filter p).length ≤ 1) :
    ds.eraseP p = ds.filter (!p ·) := by
  induction ds with
  | nil => rfl
  | cons d rest ih =>
    cases hd : p d with
    | false =>
      rw [List.filter_cons_of_neg (by simp [hd])] at h
      rw [List.eraseP_cons_of_neg (by simp [hd]), ih h, List.filter_cons_of_pos (by simp [hd])]
    | true =>
      -- the first that is found is the only one
      rw [List.filter_cons_of_pos hd, List.length_cons] at h
      have hnone : rest.filter p = [] := List.length_eq_zero_iff.mp (by omega)
      rw [List.eraseP_cons_of_pos hd, List.filter_cons_of_neg (by simp [hd])]
      refine (List.filter_eq_self.mpr fun d' hd' => ?_).symm
      simpa using List.filter_eq_nil_iff.mp hnone d' hd'

/-- With filters that leave the same documents the same is deleted. -/
theorem runOn_delete_congr {found' : List Document} {many many' : Bool}
    (h : cs.select name filter = .ok found) (h' : cs.select name other = .ok found')
    (hleft : remaining filter many (cs.documents name)
      = remaining other many' (cs.documents name)) :
    (Collections.delete name filter many).runOn cs
      = (Collections.delete name other many').runOn cs := by
  have hedit : cs.edit name (remaining filter many) = cs.edit name (remaining other many') := by
    cases hget : cs.get? name with
    | some ds => rw [edit_of_get? hget, edit_of_get? hget, ← documents_of_get? hget, hleft]
    | none => simp only [edit, hget]
  rw [runOn_delete_of_select h, runOn_delete_of_select h', hedit, hleft]

/-- Where a filter selects one document at most, it does not matter whether all are deleted. -/
theorem delete_of_single (h : cs.select name filter = .ok found) (hfound : found.length ≤ 1)
    (many : Bool) :
    (Collections.delete name filter many).runOn cs
      = (Collections.delete name filter true).runOn cs := by
  obtain ⟨-, rfl⟩ := select_eq_ok.mp h
  refine runOn_delete_congr h h ?_
  cases many with
  | true => rfl
  | false => exact eraseP_eq_filter hfound

/-- Where it selects none, nothing is deleted. -/
theorem delete_of_none (h : cs.select name filter = .ok []) (many : Bool) :
    (Collections.delete name filter many).runOn cs = (.ok 0, cs) := by
  obtain ⟨-, hnone⟩ := select_eq_ok.mp h
  have hkept : remaining filter true (cs.documents name) = cs.documents name := by
    refine List.filter_eq_self.mpr fun d hd => ?_
    simpa using List.filter_eq_nil_iff.mp hnone.symm d hd
  rw [delete_of_single h (Nat.zero_le 1), runOn_delete_of_select h, hkept, Nat.sub_self]
  cases hget : cs.get? name with
  | some ds =>
    rw [documents_of_get? hget] at hkept
    rw [edit_of_get? hget, hkept, put_of_get? hget]
  | none => simp only [edit, hget]

end

end Collections

/-! ## Deletions by key -/

/-- Whether documents have object identifiers, no two of them the same one. -/
structure ObjectIds (ds : List Document) : Prop where
  id : ∀ d ∈ ds, ∃ id, Document.get? d idField = some (.objectId id)
  distinct : (ds.map (Document.reference? · idField)).Nodup

namespace ObjectIds

variable {ds : List Document} {p : Document → Bool}

theorem sublist {found : List Document} (h : ObjectIds ds) (hsub : found.Sublist ds) :
    ObjectIds found :=
  ⟨fun d hd => h.id d (hsub.subset hd), h.distinct.sublist (hsub.map _)⟩

/-- The keys of documents with object identifiers. -/
def keys (found : List Document) : List Key :=
  (found.filterMap (Document.reference? · idField)).map .objectId

theorem mem_keys {found : List Document} {key : Key} :
    key ∈ keys found ↔ ∃ d ∈ found, ∃ id, Document.get? d idField = some (.objectId id) ∧
      key = .objectId id := by
  simp only [keys, List.mem_map, List.mem_filterMap, Document.reference?_eq_some]
  grind

/-- Every document has a key. -/
theorem length_keys {found : List Document} (h : ObjectIds found) :
    (keys found).length = found.length := by
  have hsome : ∀ d ∈ found, (Document.reference? d idField).isSome := by
    intro d hd
    obtain ⟨id, hid⟩ := h.id d hd
    simp [Document.reference?, hid]
  rw [keys, List.length_map, List.length_filterMap_eq_countP, List.countP_eq_length.mpr hsome]

/-- The keys of the documents that were chosen find these, and no others. -/
theorem any_finds (h : ObjectIds ds) {d : Document} (hd : d ∈ ds) :
    (keys (ds.filter p)).any (·.finds d) = p d := by
  obtain ⟨id, hid⟩ := h.id d hd
  have hfinds (key : Key) : key.finds d = decide ((Key.objectId id).seen = key.seen) :=
    Key.finds_of_id (by exact hid) key
  rw [Bool.eq_iff_iff, List.any_eq_true]
  refine ⟨fun ⟨key, hkey, hfound⟩ => ?_, fun hchosen => ?_⟩
  · obtain ⟨other, hother, otherId, hotherId, rfl⟩ := mem_keys.mp hkey
    obtain ⟨hother, hchosen⟩ := List.mem_filter.mp hother
    rw [hfinds, decide_eq_true_iff] at hfound
    have hsame : id = otherId := by simpa [Key.seen] using hfound
    -- identifiers are different, so the document that was chosen is this one
    have heq := List.inj_on_of_nodup_map h.distinct hd hother
      (by simp [Document.reference?, hid, hotherId, hsame])
    exact heq ▸ hchosen
  · refine ⟨.objectId id, mem_keys.mpr ⟨d, List.mem_filter.mpr ⟨hd, hchosen⟩, id, hid, rfl⟩, ?_⟩
    rw [hfinds, decide_eq_true rfl]

end ObjectIds

/-- Deleting what a filter selects by the keys of the selected documents. -/
theorem Collections.delete_keys {cs : Collections} {name : String} {filter : Document}
    {found : List Document} (hids : ObjectIds (cs.documents name))
    (h : cs.select name filter = .ok found) :
    (Collections.delete name (Key.filterAll (ObjectIds.keys found)) true).runOn cs
      = (Collections.delete name filter true).runOn cs := by
  obtain ⟨-, rfl⟩ := select_eq_ok.mp h
  have hdecides : Filter.Decides (Key.filterAll (ObjectIds.keys _)) _ (cs.documents name) :=
    ⟨fun d _ => Key.evaluate_filterAll
        (ObjectIds.keys ((cs.documents name).filter (Filter.accepts filter))) d,
      Key.evaluate_filterAll _ []⟩
  refine runOn_delete_congr (select_of_decides hdecides) h (List.filter_congr fun d hd => ?_)
  rw [hdecides.accepts hd, hids.any_finds hd]

end DocumentStore
