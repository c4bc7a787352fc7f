import DocumentStore.Pipeline.Expression
import DocumentStore.Proofs.Value.Equality
import Mathlib.Data.List.Nodup

/-!
# Values of expressions

What a path leads to is part of the document, and a document that an expression writes is written
field by field. So where each field of the document and of the expression is named once, each field
of the value is.
-/
namespace DocumentStore

open Value

variable {d : Document} {value : Value}

/-! ## Fields that are written -/

namespace Document

theorem fieldsNameOnce_insert (h : fieldsNameOnce d) (hvalue : value.NamesOnce) (key : String) :
    fieldsNameOnce (d.insert key value) := by
  induction d with
  | nil => exact ⟨hvalue, trivial⟩
  | cons field rest ih =>
    obtain ⟨name, old⟩ := field
    rw [insert]
    split
    · exact ⟨hvalue, h.2⟩
    · exact ⟨h.1, ih h.2⟩

theorem namesOnce_insert (h : (Value.document d).NamesOnce) (hvalue : value.NamesOnce)
    (key : String) : (Value.document (d.insert key value)).NamesOnce := by
  refine ⟨?_, fieldsNameOnce_insert h.2 hvalue key⟩
  rw [keys_insert]
  split
  · exact h.1
  · next hnew => exact List.Nodup.append h.1 (List.nodup_singleton key) (by simpa using hnew)

end Document

/-! ## Paths -/

namespace Path

theorem namesOnce_of_getElem? {items : List Value} (h : itemsNameOnce items) {i : Nat}
    (hitem : items[i]? = some value) : value.NamesOnce := by
  induction items generalizing i with
  | nil => cases hitem
  | cons item rest ih =>
    cases i with
    | zero =>
      cases hitem
      exact h.1
    | succ i => exact ih h.2 hitem

theorem namesOnce_lookupIn {start : Value} (hstart : start.NamesOnce) {segments : List String}
    (h : lookupIn start segments = some value) : value.NamesOnce := by
  induction segments generalizing start with
  | nil =>
    rw [lookupIn] at h
    cases h
    exact hstart
  | cons segment rest ih =>
    cases start with
    | document fields =>
      simp only [lookupIn] at h
      cases hget : Document.get? fields segment with
      | none => simp [hget] at h
      | some inner =>
        rw [hget] at h
        exact ih (namesOnce_of_mem hstart.2 (Document.mem_of_get? hget)) h
    | array items =>
      simp only [lookupIn] at h
      cases hitem : (position? segment).bind (items[·]?) with
      | none => simp [hitem] at h
      | some inner =>
        rw [hitem] at h
        obtain ⟨i, -, hi⟩ := Option.bind_eq_some_iff.mp hitem
        exact ih (namesOnce_of_getElem? hstart hi) h
    | _ => simp [lookupIn] at h

theorem namesOnce_lookup (hd : (Value.document d).NamesOnce) {path : String}
    (h : lookup d path = some value) : value.NamesOnce := by
  unfold lookup at h
  cases hget : Document.get? d (segments path).1 with
  | none => simp [hget] at h
  | some start =>
    simp only [hget] at h
    exact namesOnce_lookupIn (namesOnce_of_mem hd.2 (Document.mem_of_get? hget)) h

end Path

/-! ## Expressions -/

namespace Expression

theorem namesOnce_literal {fields : Document} (h : literal? fields = some value)
    (hfields : (Value.document fields).NamesOnce) : value.NamesOnce := by
  unfold literal? at h
  split at h
  · split at h
    · cases h
      exact hfields.2.1
    · cases h
  · cases h

mutual

theorem namesOnce_evaluate (hd : (Value.document d).NamesOnce) (expression : Value)
    (he : expression.NamesOnce) {value : Value} (h : evaluate d expression = .ok (some value)) :
    value.NamesOnce := by
  cases expression with
  | string text =>
    simp only [evaluate] at h
    split at h
    · cases h
    · split at h
      · exact Path.namesOnce_lookup hd (Except.ok.inj h)
      · cases h
        trivial
  | document fields =>
    simp only [evaluate] at h
    split at h
    · next literal hliteral =>
      cases h
      exact namesOnce_literal hliteral he
    · obtain ⟨written, hwritten, h⟩ := Result.bind_eq_ok h
      cases h
      -- the fields are written to a document that is empty at first
      have hempty : (Value.document []).NamesOnce := ⟨.nil, trivial⟩
      exact namesOnce_evaluateFields hd fields he.2 hempty hwritten
  | array items =>
    obtain ⟨values, hvalues, h⟩ := Result.bind_eq_ok h
    cases h
    exact namesOnce_evaluateItems hd items he hvalues
  | _ =>
    cases h
    exact he
termination_by structural expression

theorem namesOnce_evaluateFields (hd : (Value.document d).NamesOnce)
    (fields : List (String × Value)) (he : fieldsNameOnce fields) {written result : Document}
    (hwritten : (Value.document written).NamesOnce)
    (h : evaluateFields d written fields = .ok result) : (Value.document result).NamesOnce := by
  cases fields with
  | nil =>
    cases h
    exact hwritten
  | cons field rest =>
    obtain ⟨name, expression⟩ := field
    rw [evaluateFields] at h
    split at h
    · cases h
    · obtain ⟨value?, hvalue, h⟩ := Result.bind_eq_ok h
      cases value? with
      | none => exact namesOnce_evaluateFields hd rest he.2 hwritten h
      | some value =>
        have hwhole := namesOnce_evaluate hd expression he.1 hvalue
        exact namesOnce_evaluateFields hd rest he.2
          (Document.namesOnce_insert hwritten hwhole name) h
termination_by structural fields

theorem namesOnce_evaluateItems (hd : (Value.document d).NamesOnce) (items : List Value)
    (he : itemsNameOnce items) {values : List Value} (h : evaluateItems d items = .ok values) :
    itemsNameOnce values := by
  cases items with
  | nil =>
    cases h
    trivial
  | cons expression rest =>
    obtain ⟨value?, hvalue, h⟩ := Result.bind_eq_ok h
    obtain ⟨others, hothers, h⟩ := Result.bind_eq_ok h
    cases h
    refine ⟨?_, namesOnce_evaluateItems hd rest he.2 hothers⟩
    cases value? with
    | none => trivial
    | some value => exact namesOnce_evaluate hd expression he.1 hvalue
termination_by structural items

end

end Expression

end DocumentStore
