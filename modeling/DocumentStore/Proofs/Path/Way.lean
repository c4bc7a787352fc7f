import DocumentStore.Proofs.Path.Frame

/-!
# The way to a path

What stands on the way to a path are the values at its proper prefixes. Where they are documents
only, reading through arrays makes no difference, and the path can be written. Where one of them is
an array, the path is read through it, but nothing is written or removed there.
-/
namespace DocumentStore.Path

variable {d : Document} {path name next : String} {rest : List String} {held value : Value}

/-! ## Proper prefixes -/

/-- Whether a value is found at a proper prefix of nested segments. -/
def OnWayIn (held : Value) (segments : List String) (value : Value) : Prop :=
  ∃ front back, segments = front ++ back ∧ front ≠ [] ∧ back ≠ [] ∧
    lookupIn held front = some value

/-- Whether a value stands on the way to a path, at a proper prefix of its segments. -/
def OnWay (d : Document) (path : String) (value : Value) : Prop :=
  OnWayIn (.document d) (names path) value

theorem not_onWayIn_single : ¬ OnWayIn held [name] value := by
  rintro ⟨front, back, hsegments, hfront, hback, -⟩
  obtain ⟨rfl, -⟩ | ⟨-, rfl⟩ := List.append_eq_singleton_iff.mp hsegments.symm
  · exact hfront rfl
  · exact hback rfl

theorem lookupIn_document (d : Document) (name : String) (rest : List String) :
    lookupIn (.document d) (name :: rest) = (d.get? name).bind (lookupIn · rest) := by
  rw [lookupIn]
  cases d.get? name <;> rfl

/-- A way begins with the value of a field and goes on inside of it. -/
theorem onWayIn_cons : OnWayIn (.document d) (name :: next :: rest) value ↔
    ∃ held, d.get? name = some held ∧ (held = value ∨ OnWayIn held (next :: rest) value) := by
  constructor
  · rintro ⟨front, back, hsegments, hfront, hback, hlookup⟩
    obtain _ | ⟨first, front⟩ := front
    · exact absurd rfl hfront
    rw [List.cons_append, List.cons.injEq] at hsegments
    obtain ⟨rfl, hsegments⟩ := hsegments
    rw [lookupIn_document, Option.bind_eq_some_iff] at hlookup
    obtain ⟨held, hget, hlookup⟩ := hlookup
    refine ⟨held, hget, ?_⟩
    obtain _ | ⟨second, front⟩ := front
    · rw [lookupIn] at hlookup
      exact .inl (Option.some.inj hlookup)
    · exact .inr ⟨second :: front, back, hsegments, List.cons_ne_nil _ _, hback, hlookup⟩
  · rintro ⟨held, hget, rfl | ⟨front, back, hsegments, hfront, hback, hlookup⟩⟩
    · refine ⟨[name], next :: rest, rfl, List.cons_ne_nil _ _, List.cons_ne_nil _ _, ?_⟩
      rw [lookupIn_document, hget, Option.bind_some, lookupIn]
    · refine ⟨name :: front, back, by rw [hsegments, List.cons_append], List.cons_ne_nil _ _,
        hback, ?_⟩
      rw [lookupIn_document, hget, Option.bind_some, hlookup]

/-! ## Ways through documents -/

/-- On the way to a field there are documents only. -/
theorem type_of_onWayIn {found : Value} (hfield : fieldAt d name rest = some found)
    (h : OnWayIn (.document d) (name :: rest) value) : value.type = .document := by
  induction rest generalizing d name with
  | nil => exact absurd h not_onWayIn_single
  | cons next rest ih =>
    obtain ⟨held, hget, hheld⟩ := onWayIn_cons.mp h
    rw [fieldAt, hget] at hfield
    split at hfield
    · next inner hinner =>
      obtain rfl : held = .document inner := Option.some.inj hinner
      obtain rfl | hinside := hheld
      · rfl
      · exact ih hfield hinside
    · cases hfield

/-- Without arrays on the way, a path is read as if there were none. -/
theorem lookupIn_eq_fieldAt
    (h : ∀ value, OnWayIn (.document d) (name :: rest) value → value.type ≠ .array) :
    lookupIn (.document d) (name :: rest) = fieldAt d name rest := by
  induction rest generalizing d name with
  | nil =>
    rw [lookupIn_document, fieldAt]
    cases d.get? name with
    | none => rfl
    | some held => rw [Option.bind_some, lookupIn]
  | cons next rest ih =>
    rw [lookupIn_document, fieldAt]
    cases hget : d.get? name with
    | none => rfl
    | some held =>
      rw [Option.bind_some]
      cases held with
      | document inner =>
        exact ih fun value hvalue => h value (onWayIn_cons.mpr ⟨_, hget, .inr hvalue⟩)
      | array items => exact absurd rfl (h _ (onWayIn_cons.mpr ⟨_, hget, .inl rfl⟩))
      | _ => rfl

/-- Where there are documents only on the way, a path can be written. -/
theorem exists_setAt_of_onWayIn (value : Value)
    (h : ∀ held, OnWayIn (.document d) (name :: rest) held → held.type = .document) :
    ∃ d', setAt value d name rest = .ok d' := by
  induction rest generalizing d name with
  | nil => exact ⟨_, rfl⟩
  | cons next rest ih =>
    obtain ⟨inner, hinner, hinside⟩ : ∃ inner, within? d name = some inner ∧
        ∀ held, OnWayIn (.document inner) (next :: rest) held → held.type = .document := by
      rw [within?]
      cases hget : d.get? name with
      | none =>
        refine ⟨[], rfl, fun held hheld => ?_⟩
        cases rest with
        | nil => exact absurd hheld not_onWayIn_single
        | cons after rest =>
          obtain ⟨_, hmissing, -⟩ := onWayIn_cons.mp hheld
          cases hmissing
      | some held =>
        have htype := h held (onWayIn_cons.mpr ⟨held, hget, .inl rfl⟩)
        cases held with
        | document inner =>
          exact ⟨inner, rfl, fun held hheld => h held (onWayIn_cons.mpr ⟨_, hget, .inr hheld⟩)⟩
        | _ => cases htype
    obtain ⟨written, hwritten⟩ := ih hinside
    exact ⟨_, setAt_cons_eq_ok.mpr ⟨inner, written, hinner, hwritten, rfl⟩⟩

/-- A field that was removed cannot be read. -/
theorem lookupIn_unsetAt {found : Value} (hfield : fieldAt d name rest = some found) :
    lookupIn (.document (unsetAt d name rest)) (name :: rest) = none := by
  induction rest generalizing d name with
  | nil => rw [lookupIn_document, unsetAt, Document.get?_erase, if_pos rfl, Option.bind_none]
  | cons next rest ih =>
    rw [fieldAt] at hfield
    split at hfield
    · next inner hget =>
      rw [unsetAt, hget, lookupIn_document, Document.get?_insert, if_pos rfl, Option.bind_some]
      exact ih hfield
    · cases hfield

/-! ## Paths -/

theorem lookup_eq_lookupIn (d : Document) (path : String) :
    lookup d path = lookupIn (.document d) (names path) := rfl

theorem type_of_onWay {found : Value} (hfield : field d path = some found)
    (h : OnWay d path value) : value.type = .document :=
  type_of_onWayIn hfield h

theorem lookup_eq_field (h : ∀ value, OnWay d path value → value.type ≠ .array) :
    lookup d path = field d path :=
  (lookup_eq_lookupIn d path).trans (lookupIn_eq_fieldAt h)

theorem exists_set_of_onWay (value : Value)
    (h : ∀ held, OnWay d path held → held.type = .document) : ∃ d', set d path value = .ok d' :=
  exists_setAt_of_onWayIn value h

/-- To remove what can be read through documents makes it absent. -/
theorem lookup_unset_of_field {found : Value} (hfield : field d path = some found) :
    lookup (unset d path) path = none :=
  (lookup_eq_lookupIn _ path).trans (lookupIn_unsetAt hfield)

/-- Without arrays on the way, a path that was removed is absent. -/
theorem lookup_unset (h : ∀ value, OnWay d path value → value.type ≠ .array) :
    lookup (unset d path) path = none := by
  cases hfield : field d path with
  | none => rw [unset_of_field hfield, lookup_eq_field h, hfield]
  | some found => exact lookup_unset_of_field hfield

/-- Behind an array nothing is removed. -/
theorem unset_of_onWay (h : OnWay d path value) (hvalue : value.type = .array) :
    unset d path = d := by
  cases hfield : field d path with
  | none => exact unset_of_field hfield
  | some found =>
    have htype := type_of_onWay hfield h
    rw [hvalue] at htype
    cases htype

end DocumentStore.Path
