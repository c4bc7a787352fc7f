import DocumentStore.Proofs.Store.Effects
import Mathlib.Data.List.Forall2

/-!
# Updates entry by entry

An update is a list of entries, an operator at a path each, that are applied in order. What every
entry keeps of a document the update keeps, and what an update does to each document that it is
applied to says what it does to a collection.
-/
namespace DocumentStore

namespace Update

/-- An operator at a path, with its operand. -/
structure Entry where
  op : Operator
  path : String
  operand : Value

namespace Entry

def apply (entry : Entry) (d : Document) : Result Document :=
  applyAt entry.op d entry.path entry.operand

end Entry

/-- The entries of an update in order. Fields that are no operators with documents have none. -/
def entries : Document → List Entry
  | [] => []
  | (name, fields) :: rest =>
    match Operator.ofName? name, fields with
    | some op, .document fields =>
      fields.map (fun field => ⟨op, field.1, field.2⟩) ++ entries rest
    | _, _ => entries rest

theorem applyFields_eq_foldlM (op : Operator) (d : Document) (fields : List (String × Value)) :
    applyFields op d fields
      = (fields.map fun field => (⟨op, field.1, field.2⟩ : Entry)).foldlM
          (fun d entry => entry.apply d) d := by
  induction fields generalizing d with
  | nil => rfl
  | cons field rest ih =>
    obtain ⟨path, operand⟩ := field
    simp only [applyFields, ih]
    rfl

theorem apply_eq_foldlM (d update : Document) :
    apply d update = (entries update).foldlM (fun d entry => entry.apply d) d := by
  induction update generalizing d with
  | nil => rfl
  | cons field rest ih =>
    obtain ⟨name, value⟩ := field
    cases hname : Operator.ofName? name with
    | none => simpa only [apply, entries, hname] using ih d
    | some op =>
      cases value with
      | document fields =>
        simp only [apply, entries, hname, applyFields_eq_foldlM, List.foldlM_append, ih]
      | _ => simpa only [apply, entries, hname] using ih d

/-- An update with one operator applies it at each of its paths. -/
theorem apply_single {name : String} {op : Operator} (hop : Operator.ofName? name = some op)
    (d fields : Document) :
    apply d (Document.single name (.document fields)) = applyFields op d fields := by
  have heq : apply d (Document.single name (.document fields))
      = applyFields op d fields >>= fun d' => apply d' [] := by
    simp only [Document.single, apply, hop]
  rw [heq]
  cases applyFields op d fields <;> rfl

/-- With one path, it applies it there. -/
theorem apply_single_single {name : String} {op : Operator} (hop : Operator.ofName? name = some op)
    (d : Document) (path : String) (operand : Value) :
    apply d (Document.single name (.document (Document.single path operand)))
      = applyAt op d path operand := by
  rw [apply_single hop, Document.single, applyFields]
  cases applyAt op d path operand <;> rfl

/-- What every entry of an update keeps is kept by the update. -/
theorem holds_of_apply {P : Document → Prop} {d d' update : Document} (hd : P d)
    (hentry : ∀ entry ∈ entries update, ∀ d d', P d → entry.apply d = .ok d' → P d')
    (h : apply d update = .ok d') : P d' := by
  rw [apply_eq_foldlM] at h
  generalize entries update = all at h hentry
  induction all generalizing d with
  | nil =>
    cases h
    exact hd
  | cons entry rest ih =>
    obtain ⟨next, hnext, h⟩ := Result.bind_eq_ok h
    exact ih (hentry entry List.mem_cons_self d next hd hnext) h
      fun later hlater => hentry later (List.mem_cons_of_mem _ hlater)

end Update

/-! ## Collections of documents -/

/-- What is the same for every document and what it becomes is the same for all of them. -/
theorem map_eq_of_forall₂ {α : Type} {f : Document → α} {ds ds' : List Document}
    (h : List.Forall₂ (fun d d' => f d' = f d) ds ds') : ds'.map f = ds.map f := by
  induction h with
  | nil => rfl
  | cons hd _ ih => rw [List.map_cons, List.map_cons, hd, ih]

section Related

variable {R : Document → Document → Prop} {ds ds' : List Document} {update : Document}

/-- An update relates every document to what it becomes, which may be itself. -/
theorem Update.Effect.forall₂ {target : Nat → Bool} {outcome : Update.Outcome}
    (h : Update.Effect update target ds ds' outcome) (hrefl : ∀ d, R d d)
    (hupdate : ∀ d ∈ ds, ∀ d', Update.apply d update = .ok d' → R d d') :
    List.Forall₂ R ds ds' := by
  refine List.forall₂_iff_get.mpr ⟨h.length.symm, fun i hi hi' => ?_⟩
  rw [List.get_eq_getElem, List.get_eq_getElem]
  cases htarget : target i with
  | true =>
    obtain ⟨d', happly, hd'⟩ := h.changed i ds[i] htarget (List.getElem?_eq_getElem hi)
    obtain ⟨_, rfl⟩ := List.getElem?_eq_some_iff.mp hd'
    exact hupdate ds[i] (List.getElem_mem hi) _ happly
  | false =>
    have hkept := h.kept i htarget
    rw [List.getElem?_eq_getElem hi, List.getElem?_eq_getElem hi'] at hkept
    rw [Option.some.inj hkept]
    exact hrefl ds[i]

/-- So does a call that updates a collection, whether it succeeds or not. -/
theorem Store.Call.forall₂_rewrite_update (hrefl : ∀ d, R d d)
    (hupdate : ∀ d ∈ ds, ∀ d', Update.apply d update = .ok d' → R d d')
    (fresh : Nat → ObjectId) (name : String) (filter : Document) (many : Bool) :
    List.Forall₂ R ds ((Call.update name filter update many).rewrite fresh ds) := by
  refine holds_of_rewrite (List.forall₂_same.mpr fun d _ => hrefl d) ?_
  intro ds' hdone
  obtain ⟨-, -, hdone⟩ := Result.bind_eq_ok hdone
  obtain ⟨⟨outcome, _⟩, hupdated, hdone⟩ := Result.bind_eq_ok hdone
  cases hdone
  exact (Collections.effect_updated hupdated).forall₂ hrefl hupdate

end Related

end DocumentStore
