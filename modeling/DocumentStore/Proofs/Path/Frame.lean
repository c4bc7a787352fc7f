import DocumentStore.Proofs.Path
import Mathlib.Data.List.Infix

/-!
# Paths that keep apart

Two paths keep apart if neither is equal to the other or leads into it. What is read at a path stays
as it is when something is written to, or removed from, one that keeps apart from it, whether it is
read through documents only or through arrays as well. What was written can be read again, what was
removed is missing, and to do either a second time changes nothing.
-/
namespace DocumentStore

variable {d d' : Document} {value : Value}

namespace Document

/-- Writing what is there changes nothing. -/
theorem insert_of_get? {key : String} (h : d.get? key = some value) : d.insert key value = d := by
  induction d with
  | nil => cases h
  | cons field rest ih =>
    obtain ⟨name, old⟩ := field
    by_cases hname : name = key
    · obtain rfl : old = value := by simpa [get?, hname] using h
      simp [insert, hname]
    · rw [get?, if_neg hname] at h
      rw [insert, if_neg hname, ih h]

/-- Nor does removing what is not there. -/
theorem erase_of_missing {key : String} (h : d.get? key = none) : d.erase key = d := by
  refine List.filter_eq_self.mpr fun field hfield => ?_
  rw [bne_iff_ne]
  rintro rfl
  induction d with
  | nil => cases hfield
  | cons first rest ih =>
    rw [get?] at h
    split at h
    · cases h
    · next hne =>
      obtain rfl | hfield := List.mem_cons.mp hfield
      · exact hne rfl
      · exact ih hfield h

/-- The second of two values written to a field stays. -/
theorem insert_insert (d : Document) (key : String) (old value : Value) :
    (d.insert key old).insert key value = d.insert key value := by
  induction d with
  | nil => simp [insert]
  | cons field rest ih =>
    by_cases hname : field.1 = key
    · simp [insert, hname]
    · simp [insert, hname, ih]

end Document

namespace Path

variable {name other next next' : String} {rest tail : List String}

/-! ## Segments that diverge -/

/-- Whether neither of two lists of segments begins with the other. -/
def Diverge (s t : List String) : Prop := ¬ s <+: t ∧ ¬ t <+: s

instance (s t : List String) : Decidable (Diverge s t) := inferInstanceAs (Decidable (_ ∧ _))

theorem Diverge.symm {s t : List String} (h : Diverge s t) : Diverge t s := And.symm h

/-- Segments diverge at once, or both go on from the same field. -/
theorem Diverge.cases (h : Diverge (name :: rest) (other :: tail)) :
    other ≠ name ∨ other = name ∧ ∃ next rest' next' tail', rest = next :: rest' ∧
      tail = next' :: tail' ∧ Diverge (next :: rest') (next' :: tail') := by
  by_cases hname : other = name
  · subst hname
    simp only [Diverge, List.prefix_cons_inj] at h
    cases rest with
    | nil => exact absurd (List.nil_prefix) h.1
    | cons next rest =>
      cases tail with
      | nil => exact absurd (List.nil_prefix) h.2
      | cons next' tail => exact .inr ⟨rfl, next, rest, next', tail, rfl, rfl, h⟩
  · exact .inl hname

/-- The segments of a path, of which there is at least one. -/
def names (path : String) : List String := (segments path).1 :: (segments path).2

/-- Whether two paths are neither equal nor does one of them lead into the other. -/
def Apart (p q : String) : Prop := Diverge (names p) (names q)

instance (p q : String) : Decidable (Apart p q) := inferInstanceAs (Decidable (Diverge _ _))

theorem Apart.symm {p q : String} (h : Apart p q) : Apart q p := Diverge.symm h

/-! ## One segment at a time -/

/-- The document that a field leads into: the one that it holds, or an empty one if the field is
missing. -/
def within? (d : Document) (name : String) : Option Document :=
  match Document.get? d name with
  | none => some []
  | some (.document inner) => some inner
  | some _ => none

theorem within?_insert (d : Document) (name : String) (inner : Document) :
    within? (d.insert name (.document inner)) name = some inner := by
  rw [within?, Document.get?_insert, if_pos rfl]

theorem setAt_cons (value : Value) (d : Document) (name next : String) (rest : List String) :
    setAt value d name (next :: rest) = match within? d name with
      | some inner => do
        return Document.insert d name (.document (← setAt value inner next rest))
      | none => .error (.invalidQuery (.notADocument name (text (next :: rest)))) := by
  rw [setAt, within?]
  cases d.get? name with
  | none => rfl
  | some held => cases held <;> rfl

/-- A write below a field succeeds if it does in the document that the field leads into. -/
theorem setAt_cons_eq_ok :
    setAt value d name (next :: rest) = .ok d' ↔ ∃ inner written, within? d name = some inner ∧
      setAt value inner next rest = .ok written ∧ d' = d.insert name (.document written) := by
  rw [setAt_cons]
  constructor
  · intro h
    split at h
    · next inner hinner =>
      obtain ⟨written, hwritten, h⟩ := Result.bind_eq_ok h
      cases h
      exact ⟨inner, written, hinner, hwritten, rfl⟩
    · cases h
  · rintro ⟨inner, written, hinner, hwritten, rfl⟩
    simp only [hinner, hwritten]
    rfl

/-! ## Ways to read -/

/-- Whether a way to read looks at the field of the first segment only and follows documents to the
others. What it does at other values is left open. -/
structure FollowsDocuments (read : Document → String → List String → Option Value) : Prop where
  congr : ∀ {d d' : Document} {name : String} (tail : List String),
    d'.get? name = d.get? name → read d' name tail = read d name tail
  within : ∀ {d inner : Document} {name : String} (next : String) (tail : List String),
    within? d name = some inner → read d name (next :: tail) = read inner next tail

theorem fieldAt_nil (name : String) (rest : List String) : fieldAt [] name rest = none := by
  cases rest <;> rfl

theorem fieldAt_cons (d : Document) (name next : String) (rest : List String) :
    fieldAt d name (next :: rest) = (within? d name).bind (fieldAt · next rest) := by
  rw [fieldAt, within?]
  cases d.get? name with
  | none => exact (fieldAt_nil next rest).symm
  | some held => cases held <;> rfl

theorem fieldAt_followsDocuments : FollowsDocuments fieldAt where
  congr tail hget := by
    cases tail with
    | nil => exact hget
    | cons next tail => rw [fieldAt, fieldAt, hget]
  within next tail hinner := by rw [fieldAt_cons, hinner, Option.bind_some]

theorem lookupIn_followsDocuments :
    FollowsDocuments fun d name tail => lookupIn (.document d) (name :: tail) where
  congr tail hget := by rw [lookupIn, lookupIn, hget]
  within {d inner name} next tail hinner := by
    rw [within?] at hinner
    rw [lookupIn]
    split at hinner
    · next hget =>
      cases hinner
      rw [hget]
      rfl
    · next hget =>
      cases hinner
      rw [hget]
    · cases hinner

section Frame

variable {read : Document → String → List String → Option Value} (hread : FollowsDocuments read)

include hread

/-- What is read where a write does not lead stays as it is. -/
theorem read_setAt_of_diverge (hdiverge : Diverge (name :: rest) (other :: tail))
    (h : setAt value d name rest = .ok d') : read d' other tail = read d other tail := by
  induction rest generalizing d d' name other tail with
  | nil =>
    obtain hne | ⟨-, next, _, _, _, hrest, -⟩ := hdiverge.cases
    · exact hread.congr tail (get?_setAt_of_ne h hne)
    · cases hrest
  | cons next rest ih =>
    obtain hne | ⟨rfl, _, _, next', tail, ⟨⟩, rfl, hinside⟩ := hdiverge.cases
    · exact hread.congr tail (get?_setAt_of_ne h hne)
    · obtain ⟨inner, written, hinner, hwritten, rfl⟩ := setAt_cons_eq_ok.mp h
      rw [hread.within next' tail (within?_insert d other written), hread.within next' tail hinner]
      exact ih hinside hwritten

/-- So does what is read where nothing is removed. -/
theorem read_unsetAt_of_diverge (hdiverge : Diverge (name :: rest) (other :: tail)) :
    read (unsetAt d name rest) other tail = read d other tail := by
  induction rest generalizing d name other tail with
  | nil =>
    obtain hne | ⟨-, next, _, _, _, hrest, -⟩ := hdiverge.cases
    · exact hread.congr tail (get?_unsetAt_of_ne hne)
    · cases hrest
  | cons next rest ih =>
    obtain hne | ⟨rfl, _, _, next', tail, ⟨⟩, rfl, hinside⟩ := hdiverge.cases
    · exact hread.congr tail (get?_unsetAt_of_ne hne)
    · unfold unsetAt
      split
      · next inner hget =>
        have hinner : within? d other = some inner := by rw [within?, hget]
        rw [hread.within next' tail (within?_insert d other _), hread.within next' tail hinner]
        exact ih hinside
      · rfl

end Frame

/-! ## Fields that were written or removed -/

theorem fieldAt_setAt (h : setAt value d name rest = .ok d') :
    fieldAt d' name rest = some value := by
  induction rest generalizing d d' name with
  | nil =>
    cases h
    rw [fieldAt, Document.get?_insert, if_pos rfl]
  | cons next rest ih =>
    obtain ⟨inner, written, -, hwritten, rfl⟩ := setAt_cons_eq_ok.mp h
    rw [fieldAt_cons, within?_insert, Option.bind_some, ih hwritten]

/-- Writing what is there changes nothing. -/
theorem setAt_of_fieldAt (h : fieldAt d name rest = some value) :
    setAt value d name rest = .ok d := by
  induction rest generalizing d name with
  | nil => rw [setAt, Document.insert_of_get? h]
  | cons next rest ih =>
    rw [fieldAt] at h
    split at h
    · next inner hget =>
      refine setAt_cons_eq_ok.mpr ⟨inner, inner, by rw [within?, hget], ih h, ?_⟩
      exact (Document.insert_of_get? hget).symm
    · cases h

theorem fieldAt_unsetAt (d : Document) (name : String) (rest : List String) :
    fieldAt (unsetAt d name rest) name rest = none := by
  induction rest generalizing d name with
  | nil => rw [unsetAt, fieldAt, Document.get?_erase, if_pos rfl]
  | cons next rest ih =>
    unfold unsetAt
    split
    · rw [fieldAt_cons, within?_insert, Option.bind_some, ih]
    · next hget =>
      rw [fieldAt]
      split
      · next inner hinner => exact absurd hinner (hget inner)
      · rfl

/-- Removing what is not there changes nothing. -/
theorem unsetAt_of_fieldAt (h : fieldAt d name rest = none) : unsetAt d name rest = d := by
  induction rest generalizing d name with
  | nil => exact Document.erase_of_missing h
  | cons next rest ih =>
    rw [fieldAt] at h
    rw [unsetAt]
    split
    · next inner hget =>
      rw [hget] at h
      rw [ih h, Document.insert_of_get? hget]
    · rfl

/-! ## Paths -/

section Paths

variable {path seen : String}

theorem field_set (h : set d path value = .ok d') : field d' path = some value := fieldAt_setAt h

theorem set_of_field (h : field d path = some value) : set d path value = .ok d :=
  setAt_of_fieldAt h

theorem field_unset (d : Document) (path : String) : field (unset d path) path = none :=
  fieldAt_unsetAt ..

theorem unset_of_field (h : field d path = none) : unset d path = d := unsetAt_of_fieldAt h

theorem field_set_of_apart (hapart : Apart path seen) (h : set d path value = .ok d') :
    field d' seen = field d seen :=
  read_setAt_of_diverge fieldAt_followsDocuments hapart h

theorem field_unset_of_apart (hapart : Apart path seen) (d : Document) :
    field (unset d path) seen = field d seen :=
  read_unsetAt_of_diverge fieldAt_followsDocuments hapart

theorem lookup_set_of_apart (hapart : Apart path seen) (h : set d path value = .ok d') :
    lookup d' seen = lookup d seen :=
  read_setAt_of_diverge lookupIn_followsDocuments hapart h

end Paths

end Path

end DocumentStore
