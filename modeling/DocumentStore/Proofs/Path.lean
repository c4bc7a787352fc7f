import DocumentStore.Path
import DocumentStore.Proofs.Record

/-!
# Paths and fields

A path leads to a field or below one, by its first segment. Writing and removing at a path leave
all other fields of the document as they are.
-/
namespace DocumentStore

namespace Document

/-- A field that is removed cannot be read, and no other has changed. -/
theorem get?_erase (d : Document) (key other : String) :
    (d.erase key).get? other = if other = key then none else d.get? other := by
  induction d with
  | nil => simp [erase, get?]
  | cons field rest ih =>
    obtain ⟨name, value⟩ := field
    by_cases hname : name = key
    · subst hname
      have herase : erase ((name, value) :: rest) name = erase rest name := by simp [erase]
      rw [herase, ih]
      by_cases hother : other = name
      · simp [hother]
      · simp [hother, get?, Ne.symm hother]
    · have herase : erase ((name, value) :: rest) key = (name, value) :: erase rest key := by
        simp [erase, hname]
      rw [herase]
      by_cases hother : name = other
      · subst hother
        simp [get?, hname]
      · simp [get?, hother, ih]

end Document

namespace Path

variable {d d' : Document} {path first key : String} {rest : List String} {value : Value}

/-! ## Segments -/

/-- Whether a path leads to something inside of a field. -/
def IsBelow (path name : String) : Prop := ∃ tail, path = name ++ "." ++ tail

instance (path name : String) : Decidable (IsBelow path name) :=
  decidable_of_iff ((name ++ ".").toList <+: path.toList) <| by
    simp only [IsBelow, List.IsPrefix, ← String.toList_inj, String.toList_append]
    exact ⟨fun ⟨tail, h⟩ => ⟨String.ofList tail, by simp [h.symm]⟩,
      fun ⟨tail, h⟩ => ⟨tail.toList, h.symm⟩⟩

/-- Segments with dots before all but the first are the text that they were taken from. -/
theorem segmentsOf_flatMap (cs : List Char) :
    (segmentsOf cs).1 ++ (segmentsOf cs).2.flatMap ('.' :: ·) = cs := by
  induction cs with
  | nil => rfl
  | cons c rest ih =>
    by_cases hdot : c = '.'
    · simpa [segmentsOf, hdot] using ih
    · simpa [segmentsOf, hdot] using ih

/-- A path of one segment is the name of a field, and one of more leads below the first. -/
theorem segments_cases (h : segments path = (first, rest)) :
    rest = [] ∧ path = first ∨ rest ≠ [] ∧ IsBelow path first := by
  have htext := segmentsOf_flatMap path.toList
  obtain ⟨hfirst, hrest⟩ := Prod.mk.inj h
  cases hothers : (segmentsOf path.toList).2 with
  | nil =>
    refine .inl ⟨by rw [← hrest, hothers]; rfl, ?_⟩
    rw [hothers, List.flatMap_nil, List.append_nil] at htext
    rw [← hfirst, htext, String.ofList_toList]
  | cons next others =>
    let tail : List Char := next ++ others.flatMap ('.' :: ·)
    refine .inr ⟨by rw [← hrest, hothers]; simp, String.ofList tail, String.toList_inj.mp ?_⟩
    refine htext.symm.trans ?_
    simp [hothers, ← hfirst, tail]

/-! ## Fields that are left alone -/

theorem get?_setAt_of_ne (h : setAt value d first rest = .ok d') (hkey : key ≠ first) :
    Document.get? d' key = Document.get? d key := by
  cases rest with
  | nil =>
    cases h
    rw [Document.get?_insert, if_neg hkey]
  | cons next rest =>
    unfold setAt at h
    split at h
    · obtain ⟨inner, -, h⟩ := Result.bind_eq_ok h
      cases h
      rw [Document.get?_insert, if_neg hkey]
    · obtain ⟨inner, -, h⟩ := Result.bind_eq_ok h
      cases h
      rw [Document.get?_insert, if_neg hkey]
    · cases h

theorem get?_unsetAt_of_ne (hkey : key ≠ first) :
    Document.get? (unsetAt d first rest) key = Document.get? d key := by
  cases rest with
  | nil => rw [unsetAt, Document.get?_erase, if_neg hkey]
  | cons next rest =>
    unfold unsetAt
    split
    · rw [Document.get?_insert, if_neg hkey]
    · rfl

/-! ## Fields that hold no document -/

section Below

variable (hget : d.get? first = some value) (htype : value.type ≠ .document) (hrest : rest ≠ [])

include hget htype hrest

/-- Below something else than a document nothing can be written, -/
theorem setAt_of_type (operand : Value) : ∃ e, setAt operand d first rest = .error e := by
  cases rest with
  | nil => exact absurd rfl hrest
  | cons next rest =>
    cases value with
    | document inner => exact absurd rfl htype
    | _ => exact ⟨_, by simp only [setAt, hget]; rfl⟩

/-- nothing is removed, -/
theorem unsetAt_of_type : unsetAt d first rest = d := by
  cases rest with
  | nil => exact absurd rfl hrest
  | cons next rest =>
    cases value with
    | document inner => exact absurd rfl htype
    | _ => simp only [unsetAt, hget]

end Below

end Path

end DocumentStore
