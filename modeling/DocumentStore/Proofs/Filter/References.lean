import DocumentStore.Filter.Evaluation
import DocumentStore.Key

/-!
# Filters on references

A field of references holds an identifier or null, or is missing. Filters that ask for one of
several identifiers in such a field, or for none at all, accept every document and decide by the
identifier alone.
-/
namespace DocumentStore

/-! ## References -/

namespace Document

/-- The identifier in a field, if there is one. -/
def reference? (d : Document) (field : String) : Option ObjectId :=
  match d.get? field with
  | some (.objectId id) => some id
  | _ => none

/-- Whether a field holds an identifier or null, or is missing. -/
def Refers (d : Document) (field : String) : Prop :=
  ∀ value, d.get? field = some value → value = .null ∨ ∃ id, value = .objectId id

/-- What a field of references may hold. -/
theorem Refers.cases {d : Document} {field : String} (h : d.Refers field) :
    (d.get? field = none ∨ d.get? field = some .null) ∧ d.reference? field = none ∨
      ∃ id, d.get? field = some (.objectId id) ∧ d.reference? field = some id := by
  unfold reference?
  cases hget : d.get? field with
  | none => exact .inl ⟨.inl rfl, rfl⟩
  | some value =>
    obtain rfl | ⟨id, rfl⟩ := h value hget
    · exact .inl ⟨.inr rfl, rfl⟩
    · exact .inr ⟨id, rfl, rfl⟩

theorem reference?_eq_some {d : Document} {field : String} {id : ObjectId} :
    d.reference? field = some id ↔ d.get? field = some (.objectId id) := by
  unfold reference?
  split
  · rename_i other hother
    simp [hother]
  · rename_i hnot
    simpa using hnot id

theorem refers_nil (field : String) : Refers [] field := by
  intro value h
  cases h

end Document

/-- The stored forms of keys that are object identifiers. -/
@[simp] theorem Key.toValues_objectIds (ids : List ObjectId) :
    Key.toValues (ids.map .objectId) = .array (ids.map .objectId) := by
  simp [Key.toValues, Key.toValue]

namespace Filter

/-! ## Plain fields -/

/-- Whether a filter takes a name for that of a field at the top of a document. -/
structure Plain (field : String) : Prop where
  head : Head.ofName field = .path
  segments : Path.segments field = (field, [])

theorem Plain.lookup {field : String} (h : Plain field) (d : Document) :
    Path.lookup d field = Document.get? d field := by
  unfold Path.lookup
  rw [h.segments]
  cases hget : Document.get? d field with
  | none => simp [hget]
  | some value => simp [hget, Path.lookupIn]

/-- A condition on a plain field is one on its value. -/
theorem Plain.evaluate [Pattern.Engine] {field : String} (h : Plain field) (d : Document)
    (condition : Value) :
    evaluate d (Document.single field condition) = meets (Document.get? d field) condition := by
  simp only [Document.single, Filter.evaluate, h.head, h.lookup]
  cases meets (Document.get? d field) condition with
  | error e => rfl
  | ok matched => cases matched <;> rfl

theorem plain_id : Plain idField := ⟨by decide, by decide⟩

/-! ## Evaluation -/

theorem equals_objectId {d : Document} {field : String} (h : d.Refers field) (id : ObjectId) :
    equals (d.get? field) (.objectId id) = (d.reference? field == some id) := by
  obtain ⟨hget | hget, href⟩ | ⟨other, hget, href⟩ := h.cases
  · rw [hget, href]
    rfl
  · rw [hget, href]
    rfl
  · rw [hget, href]
    simp [equals, Value.alike, Value.alikeScalar]

variable [Pattern.Engine]

/-- No patterns are among identifiers, so each of them is only compared. -/
theorem isMember_objectIds {d : Document} {field : String} (h : d.Refers field)
    (ids : List ObjectId) :
    isMember (d.get? field) (ids.map .objectId) = .ok ((d.reference? field).any ids.contains) := by
  induction ids with
  | nil =>
    cases d.reference? field <;> rfl
  | cons id rest ih =>
    -- an identifier that is met ends the search, any other is passed over
    simp only [List.map_cons, isMember, equals_objectId h, ih]
    cases d.reference? field with
    | none => rfl
    | some other =>
      by_cases hid : other = id
      · simp [hid, bind, Except.bind, pure, Except.pure]
      · simp [hid, bind, Except.bind]

theorem meets_isIn (value? : Option Value) (items : List Value) :
    meets value? (.document (Document.single "$in" (.array items))) = isMember value? items := by
  have hname : isOperatorName "$in" = true := by decide
  have hop : Operator.ofName? "$in" = some .isIn := by decide
  simp only [Document.single, meets, isOperatorDocument, hname, ↓reduceIte]
  cases hmember : isMember value? items with
  | error e => simp [meetsAll, hop, holds, list, hmember, bind, Except.bind]
  | ok matched =>
    cases matched <;>
      simp [meetsAll, hop, holds, list, hmember, bind, Except.bind, pure, Except.pure]

/-- The filter for one of several identifiers in a field. -/
theorem evaluate_filterIn {d : Document} {field : String} (hfield : Plain field)
    (hd : d.Refers field) (ids : List ObjectId) :
    evaluate d (Key.filterIn field (ids.map .objectId))
      = .ok ((d.reference? field).any ids.contains) := by
  unfold Key.filterIn
  rw [hfield.evaluate, Key.toValues_objectIds, meets_isIn, isMember_objectIds hd]

/-- The filter for a field that holds no identifier. -/
theorem evaluate_null {d : Document} {field : String} (hfield : Plain field)
    (hd : d.Refers field) :
    evaluate d (Document.single field .null) = .ok (d.reference? field).isNone := by
  rw [hfield.evaluate]
  obtain ⟨hget | hget, href⟩ | ⟨id, hget, href⟩ := hd.cases
  · rw [hget, href]
    rfl
  · rw [hget, href]
    rfl
  · rw [hget, href]
    rfl

/-- The filter for documents that meet two others. -/
theorem evaluate_and {d : Document} {filter filter' : Document} {matched matched' : Bool}
    (h : evaluate d filter = .ok matched) (h' : evaluate d filter' = .ok matched') :
    evaluate d (Document.single "$and" (.array [.document filter, .document filter']))
      = .ok (matched && matched') := by
  have hname : Head.ofName "$and" = .and := by decide
  simp only [Document.single, evaluate, hname, areDocuments, List.all_cons, List.all_nil,
    Bool.and_true, ↓reduceIte, evaluateAll, h, h', bind, Except.bind]
  cases matched <;> cases matched' <;> rfl

end Filter

end DocumentStore
