import DocumentStore.Record

/-!
# Fields and records

What the fields of a document are after a write, and what can be read from a record: fields that
the record has, each once, with the values that were read for them.
-/
namespace DocumentStore

namespace Document

/-! ## Fields of documents -/

/-- A field that is written can be read, and no other has changed. -/
theorem get?_insert (d : Document) (key other : String) (value : Value) :
    (d.insert key value).get? other = if other = key then some value else d.get? other := by
  induction d with
  | nil => simp [insert, get?, eq_comm]
  | cons field rest ih =>
    obtain ⟨name, old⟩ := field
    by_cases hname : name = key
    · subst hname
      by_cases hother : name = other
      · simp [insert, get?, hother]
      · simp [insert, get?, hother, Ne.symm hother]
    · by_cases hother : name = other
      · subst hother
        simp [insert, get?, hname]
      · simp [insert, get?, hname, hother, ih]

/-- A field that is written keeps its place, or comes last if it is new. -/
theorem keys_insert (d : Document) (key : String) (value : Value) :
    (d.insert key value).keys = if key ∈ d.keys then d.keys else d.keys ++ [key] := by
  induction d with
  | nil => rfl
  | cons field rest ih =>
    obtain ⟨name, old⟩ := field
    simp only [keys] at ih
    by_cases hname : name = key
    · simp [insert, keys, hname]
    · by_cases hmem : key ∈ rest.map (·.1) <;>
        simp [insert, keys, hname, Ne.symm hname, ih, hmem]

theorem mem_of_get? {d : Document} {key : String} {value : Value} (h : d.get? key = some value) :
    (key, value) ∈ d := by
  induction d with
  | nil => cases h
  | cons field rest ih =>
    obtain ⟨name, old⟩ := field
    unfold get? at h
    split at h
    · rename_i hname
      cases h
      exact hname ▸ List.mem_cons_self
    · exact List.mem_cons_of_mem _ (ih h)

/-- Where no name is repeated, every field can be read. -/
theorem get?_of_mem {d : Document} (hkeys : d.keys.Nodup) {key : String} {value : Value}
    (h : (key, value) ∈ d) : d.get? key = some value := by
  induction d with
  | nil => cases h
  | cons field rest ih =>
    obtain ⟨name, old⟩ := field
    obtain ⟨hfirst, hrest⟩ := List.nodup_cons.mp hkeys
    obtain heq | h := List.mem_cons.mp h
    · cases heq
      simp [get?]
    · have hname : name ≠ key := by
        rintro rfl
        exact hfirst (List.mem_map.mpr ⟨_, h, rfl⟩)
      simp [get?, hname, ih hrest h]

end Document

/-! ## Reading records -/

namespace Record

variable {record : Record} {d d' : Document}

/-- A record is read field by field. -/
theorem read_cons {field : RecordField} {rest : Record} (h : read (field :: rest) d = .ok d') :
    ∃ value others, field.read d = .ok value ∧ read rest d = .ok others ∧
      d' = if field.leftOut && value.isNull then others else (field.name, value) :: others := by
  obtain ⟨value, hvalue, h⟩ := Result.bind_eq_ok h
  obtain ⟨others, hothers, h⟩ := Result.bind_eq_ok h
  cases h
  exact ⟨value, others, hvalue, hothers, rfl⟩

/-- What is read has no other fields than the record, and those have the values that were read. -/
theorem mem_of_read (h : record.read d = .ok d') {field : String × Value} (hfield : field ∈ d') :
    ∃ f ∈ record, field.1 = f.name ∧ f.read d = .ok field.2 ∧
      (f.leftOut = true → field.2 ≠ .null) := by
  induction record generalizing d' with
  | nil =>
    cases h
    cases hfield
  | cons f rest ih =>
    obtain ⟨value, others, hvalue, hothers, rfl⟩ := read_cons h
    have hrest (hmem : field ∈ others) : ∃ f' ∈ f :: rest, field.1 = f'.name ∧
        f'.read d = .ok field.2 ∧ (f'.leftOut = true → field.2 ≠ .null) := by
      obtain ⟨f', hf', hread⟩ := ih hothers hmem
      exact ⟨f', List.mem_cons_of_mem _ hf', hread⟩
    split at hfield
    · exact hrest hfield
    · rename_i hkept
      obtain rfl | hfield := List.mem_cons.mp hfield
      · refine ⟨f, List.mem_cons_self, rfl, hvalue, ?_⟩
        rintro hleftOut rfl
        exact hkept (by rw [hleftOut]; rfl)
      · exact hrest hfield

theorem keys_of_read (h : record.read d = .ok d') :
    d'.keys.Sublist (record.map (·.name)) := by
  induction record generalizing d' with
  | nil =>
    cases h
    exact .slnil
  | cons f rest ih =>
    obtain ⟨value, others, -, hothers, rfl⟩ := read_cons h
    split
    · exact (ih hothers).cons _
    · exact (ih hothers).cons_cons _

end Record

/-- A reference that may be missing is read as an identifier or as null. -/
theorem Shape.read_reference {stored value : Value}
    (h : Shape.read (.optional .objectId) stored = .ok value) :
    value = .null ∨ ∃ id, value = .objectId id := by
  cases stored with
  | null =>
    cases h
    exact .inl rfl
  | _ =>
    simp only [Shape.read] at h
    split at h
    · cases h
      exact .inr ⟨_, rfl⟩
    · cases h

theorem RecordField.read_reference {name : String} {leftOut : Bool} {d : Document} {value : Value}
    (h : RecordField.read { RecordField.nullable name (.objectId) with leftOut } d = .ok value) :
    value = .null ∨ ∃ id, value = .objectId id := by
  unfold RecordField.read at h
  cases hget : d.get? name with
  | none =>
    simp only [RecordField.nullable, hget] at h
    cases h
    exact .inl rfl
  | some stored =>
    simp only [RecordField.nullable, hget] at h
    exact Shape.read_reference h

/-- Items that are all read or prepared one by one. -/
theorem mem_of_mapM {α β : Type} {f : α → Result β} {items : List α} {values : List β}
    (h : items.mapM f = .ok values) {value : β} (hvalue : value ∈ values) :
    ∃ item ∈ items, f item = .ok value := by
  induction items generalizing values with
  | nil =>
    rw [List.mapM_nil] at h
    cases h
    cases hvalue
  | cons item rest ih =>
    rw [List.mapM_cons] at h
    obtain ⟨first, hitem, h⟩ := Result.bind_eq_ok h
    obtain ⟨others, hrest, h⟩ := Result.bind_eq_ok h
    cases h
    obtain rfl | hvalue := List.mem_cons.mp hvalue
    · exact ⟨item, List.mem_cons_self, hitem⟩
    · obtain ⟨other, hother, hread⟩ := ih hrest hvalue
      exact ⟨other, List.mem_cons_of_mem _ hother, hread⟩

end DocumentStore
