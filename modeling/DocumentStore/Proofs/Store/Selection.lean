import DocumentStore.Proofs.Store.Effects

/-!
# Calls with filters that accept every document

A filter may fail on some documents. Where it decides on all documents of a collection, finding
and deleting come down to keeping the documents that it decides for or against.
-/
namespace DocumentStore

variable [Pattern.Engine]

variable {filter : Document} {p : Document → Bool} {ds : List Document}

namespace Collections

variable {cs : Collections} {name : String}

/-- What a filter finds is there, and in the same order. -/
theorem select_sublist {found : List Document} (h : cs.select name filter = .ok found) :
    found.Sublist (cs.documents name) := by
  obtain ⟨-, rfl⟩ := select_eq_ok.mp h
  exact List.filter_sublist

/-- A filter that decides on the documents of a collection decides on all that it is tried on. -/
theorem decided_of_decides (h : Filter.Decides filter p (cs.documents name)) :
    ∀ d ∈ cs.tried name, Filter.evaluate d filter = .ok (Filter.accepts filter d) := by
  unfold tried
  cases hget : cs.get? name with
  | some ds =>
    rw [documents_of_get? hget] at h
    exact h.decided
  | none =>
    refine List.forall_mem_singleton.mpr ?_
    rw [Filter.accepts_of_evaluate h.empty]
    exact h.empty

theorem select_of_decides (h : Filter.Decides filter p (cs.documents name)) :
    cs.select name filter = .ok ((cs.documents name).filter p) :=
  select_eq_ok.mpr ⟨decided_of_decides h, List.filter_congr fun _ hd => (h.accepts hd).symm⟩

theorem count_of_decides (h : Filter.Decides filter p (cs.documents name)) :
    cs.count name filter = .ok ((cs.documents name).filter p).length := by
  have hsame : (cs.documents name).filter p = (cs.documents name).filter (Filter.accepts filter) :=
    List.filter_congr fun _ hd => (h.accepts hd).symm
  rw [count, matching_eq_ok.mpr ⟨decided_of_decides h, rfl⟩, hsame, ← List.countP_eq_length_filter,
    ← List.length_findIdxs]
  rfl

/-- A deletion with such a filter leaves the documents that it decides against. -/
theorem deleted_of_decides (h : Filter.Decides filter p ds) :
    ∃ count, deleted filter true ds = .ok (count, ds.filter (!p ·)) := by
  have hkept : ds.filter (!p ·) = remaining filter true ds :=
    List.filter_congr fun d hd => by rw [h.accepts hd]
  exact ⟨_, deleted_eq_ok.mpr ⟨h.decided, hkept, hkept ▸ length_remaining filter true ds⟩⟩

theorem delete_of_decides (h : Filter.Decides filter p (cs.documents name)) :
    ∃ count, ((Collections.delete name filter true).runOn cs).1 = .ok count := by
  cases hget : cs.get? name with
  | some ds =>
    rw [documents_of_get? hget] at h
    obtain ⟨count, hdeleted⟩ := deleted_of_decides h
    exact ⟨count, by rw [runOn_delete_of_get? hget, hdeleted]; rfl⟩
  | none => exact ⟨0, by rw [runOn_delete_of_missing hget, h.empty]; rfl⟩

end Collections

theorem Store.Call.rewrite_delete_of_decides (h : Filter.Decides filter p ds)
    (fresh : Nat → ObjectId) (name : String) :
    (Call.delete name filter true).rewrite fresh ds = ds.filter (!p ·) := by
  obtain ⟨count, hdeleted⟩ := Collections.deleted_of_decides h
  rw [rewrite, rewrite?, hdeleted]
  rfl

end DocumentStore
