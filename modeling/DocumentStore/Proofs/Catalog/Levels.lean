import DocumentStore.Catalog.Tree
import DocumentStore.Proofs.Filter.References
import DocumentStore.Proofs.Store.Selection
import Mathlib.Data.List.Nodup

/-!
# Levels of nodes

Nodes are documents with different identifiers that refer to a parent or to none. Below some
nodes are the nodes that refer to them, and below these are others again; on cycles the levels
never end. The filters that the rules of trees ask with pick nodes out by these relations.
-/
namespace DocumentStore.Catalog.Tree

/-! ## Nodes -/

/-- Whether documents are nodes with different identifiers. -/
structure Nodes (ds : List Document) : Prop where
  id : ∀ d ∈ ds, ∃ id, d.get? idField = some (.objectId id)
  parent : ∀ d ∈ ds, d.Refers parent.path
  distinct : (ds.map (Document.reference? · idField)).Nodup

namespace Nodes

variable {ds found : List Document}

theorem sublist (h : Nodes ds) (hsub : found.Sublist ds) : Nodes found :=
  ⟨fun d hd => h.id d (hsub.subset hd), fun d hd => h.parent d (hsub.subset hd),
    h.distinct.sublist (hsub.map _)⟩

theorem refers_id (h : Nodes ds) {d : Document} (hd : d ∈ ds) : d.Refers idField := by
  obtain ⟨id, hid⟩ := h.id d hd
  intro value hvalue
  rw [hid] at hvalue
  exact .inr ⟨id, (Option.some.inj hvalue).symm⟩

end Nodes

/-- The identifiers of some nodes. -/
def ids (ds : List Document) : List ObjectId := ds.filterMap (Document.reference? · idField)

/-- Whether a node is one of those with some identifiers. -/
def isAmong (found : List ObjectId) (d : Document) : Bool :=
  (d.reference? idField).any found.contains

/-- Whether a node has no parent. -/
def isRoot (d : Document) : Bool := (d.reference? parent.path).isNone

/-- Whether the parent of a node is one of some. -/
def isBelow (above : List ObjectId) (d : Document) : Bool :=
  (d.reference? parent.path).any above.contains

/-- A node with the identifier of one that was found is the one that was found. -/
theorem Nodes.mem_of_isAmong {ds found : List Document} (h : Nodes ds)
    (hsub : found.Sublist ds) {d : Document} (hd : d ∈ ds) (hamong : isAmong (ids found) d = true) :
    d ∈ found := by
  obtain ⟨id, hid, hmem⟩ : ∃ id, d.reference? idField = some id ∧ id ∈ ids found := by
    simpa [isAmong, Option.any_eq_true] using hamong
  obtain ⟨other, hother, hsame⟩ := List.mem_filterMap.mp hmem
  -- identifiers are different, so there is only one node with this one
  have heq : d = other :=
    List.inj_on_of_nodup_map h.distinct hd (hsub.subset hother) (hid.trans hsame.symm)
  exact heq ▸ hother

theorem isAmong_of_mem {found : List Document} (h : Nodes found) {d : Document} (hd : d ∈ found) :
    isAmong (ids found) d = true := by
  obtain ⟨id, hid⟩ := h.id d hd
  have href : d.reference? idField = some id := by simp [Document.reference?, hid]
  have hmem : id ∈ ids found := List.mem_filterMap.mpr ⟨d, hd, href⟩
  simpa [isAmong, href] using hmem

/-- There is a root among the nodes with the identifiers of those found if one was found. -/
theorem exists_root_iff {ds found : List Document} (h : Nodes ds) (hsub : found.Sublist ds) :
    (∃ d ∈ ds, isAmong (ids found) d && isRoot d) ↔ ∃ d ∈ found, isRoot d := by
  constructor
  · rintro ⟨d, hd, hmet⟩
    obtain ⟨hamong, hroot⟩ := Bool.and_eq_true_iff.mp hmet
    exact ⟨d, h.mem_of_isAmong hsub hd hamong, hroot⟩
  · rintro ⟨d, hd, hroot⟩
    have hamong := isAmong_of_mem (h.sublist hsub) hd
    exact ⟨d, hsub.subset hd, Bool.and_eq_true_iff.mpr ⟨hamong, hroot⟩⟩

/-- Only what has no identifiers has no nodes. -/
theorem eq_nil_of_ids {found : List Document} (h : Nodes found) (hnone : ids found = []) :
    found = [] := by
  cases found with
  | nil => rfl
  | cons d rest =>
    obtain ⟨id, hid⟩ := h.id d List.mem_cons_self
    simp [ids, Document.reference?, hid] at hnone

/-! ## Levels -/

/-- The identifiers of the nodes whose parent is one of some. -/
def below (ds : List Document) (above : List ObjectId) : List ObjectId :=
  ids (ds.filter (isBelow above))

theorem ids_filter_isBelow (ds : List Document) (above : List ObjectId) :
    ids (ds.filter (isBelow above)) = below ds above := rfl

/-- The identifiers on a level below some nodes, which are on the first. -/
def level (ds : List Document) (found : List ObjectId) : Nat → List ObjectId
  | 0 => found
  | k + 1 => below ds (level ds found k)

/-- Whether a node is on one of the first levels. -/
def isReached (ds : List Document) (found : List ObjectId) (levels : Nat) (d : Document) : Bool :=
  (List.range levels).any fun k => isAmong (level ds found k) d

/-- One may go down first. -/
theorem level_below (ds : List Document) (found : List ObjectId) (k : Nat) :
    level ds (below ds found) k = level ds found (k + 1) := by
  induction k with
  | zero => rfl
  | succ k ih =>
    rw [level, ih]
    rfl

theorem isReached_succ (ds : List Document) (found : List ObjectId) (levels : Nat)
    (d : Document) :
    isReached ds found (levels + 1) d
      = (isAmong found d || isReached ds (below ds found) levels d) := by
  simp only [isReached, level_below, List.range_succ_eq_map, List.any_cons, List.any_map]
  rfl

/-- What refers to a parent is no root. -/
theorem isRoot_of_isBelow {above : List ObjectId} {d : Document} (h : isBelow above d = true) :
    isRoot d = false := by
  unfold isBelow at h
  unfold isRoot
  cases hparent : d.reference? parent.path with
  | none =>
    rw [hparent] at h
    cases h
  | some id => rfl

@[simp] theorem isAmong_nil (d : Document) : isAmong [] d = false := by
  unfold isAmong
  cases d.reference? idField <;> rfl

@[simp] theorem isBelow_nil (d : Document) : isBelow [] d = false := by
  unfold isBelow
  cases d.reference? parent.path <;> rfl

@[simp] theorem below_nil (ds : List Document) : below ds [] = [] := by
  simp [below, ids]

/-- There is nothing below nothing. -/
@[simp] theorem level_nil (ds : List Document) (k : Nat) : level ds [] k = [] := by
  induction k with
  | zero => rfl
  | succ k ih => rw [level, ih, below_nil]

@[simp] theorem isReached_nil (ds : List Document) (levels : Nat) (d : Document) :
    isReached ds [] levels d = false := by
  simp [isReached]

/-! ## Filters of the rules -/

theorem plain_parent : Filter.Plain parent.path := ⟨by decide, by decide⟩

/-- The keys of some nodes are accepted as operands for identifiers and for parents. -/
theorem isIn_keys {field : Field} (hfield : ∀ id, field.accepts true (.objectId id) = true)
    (found : List ObjectId) :
    field.isIn (Key.toValues (found.map .objectId))
      = .ok (.comparison field.path .isIn (.array (found.map .objectId))) := by
  rw [Key.toValues_objectIds]
  exact Field.compareList_eq_ok.mpr ⟨List.forall_mem_map.mpr fun id _ => hfield id, rfl⟩

theorem childrenOf_keys (found : List ObjectId) :
    childrenOf (found.map .objectId) = .ok (Key.filterIn parent.path (found.map .objectId)) := by
  unfold childrenOf
  rw [isIn_keys fun _ => rfl]
  simp [Clause.compile, Clause.condition, Comparison.operator, Key.filterIn, bind, Except.bind,
    pure, Except.pure]

/-- The filter for those of some nodes that have no parent. -/
def rootsAmong (found : List ObjectId) : Document :=
  Document.single "$and" (.array [.document (Key.filterAll (found.map .objectId)),
    .document (Document.single parent.path .null)])

theorem among_keys (found : List ObjectId) :
    among (found.map .objectId) (parent.eq .null) = .ok (rootsAmong found) := by
  unfold among
  rw [isIn_keys fun _ => rfl]
  have hnull : parent.eq .null = .ok (.comparison parent.path .eq .null) := rfl
  rw [hnull]
  simp [Clause.compile, Clause.compileAll, Clause.condition, Comparison.operator, rootsAmong,
    Key.filterAll, Key.filterIn, Field.id, bind, Except.bind, pure, Except.pure]

theorem decides_children {ds : List Document} (h : Nodes ds) (found : List ObjectId) :
    Filter.Decides (Key.filterIn parent.path (found.map .objectId)) (isBelow found) ds :=
  ⟨fun d hd => Filter.evaluate_filterIn plain_parent (h.parent d hd) found,
    Filter.evaluate_filterIn plain_parent (Document.refers_nil _) found⟩

theorem decides_keys {ds : List Document} (h : Nodes ds) (found : List ObjectId) :
    Filter.Decides (Key.filterAll (found.map .objectId)) (isAmong found) ds :=
  ⟨fun _ hd => Filter.evaluate_filterIn Filter.plain_id (h.refers_id hd) found,
    Filter.evaluate_filterIn Filter.plain_id (Document.refers_nil _) found⟩

theorem decides_roots {ds : List Document} (h : Nodes ds) (found : List ObjectId) :
    Filter.Decides (rootsAmong found) (fun d => isAmong found d && isRoot d) ds :=
  ⟨fun d hd => Filter.evaluate_and ((decides_keys h found).evaluate d hd)
      (Filter.evaluate_null plain_parent (h.parent d hd)),
    Filter.evaluate_and (decides_keys h found).empty
      (Filter.evaluate_null plain_parent (Document.refers_nil _))⟩

end DocumentStore.Catalog.Tree
