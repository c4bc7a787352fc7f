import DocumentStore.Proofs.Record
import DocumentStore.Service
import DocumentStore.Store.Call

/-!
# Records that are written and read again

What a record reads is a document in the shapes of its fields, and such a document is read as
itself: no matter if its nulls are left out as it is written, and if fields of it are set to values
in the shapes of the record, they are read as set.
-/
namespace DocumentStore

variable {d d' data stored model : Document} {value : Value}

/-! ## Shapes -/

namespace Shape

theorem read_optional {inner : Shape} (h : value ≠ .null) :
    (optional inner).read value = inner.read value := by
  rw [read]
  exact h

theorem mapM_read_self {shape : Shape} {items values : List Value}
    (hitem : ∀ stored value, shape.read stored = .ok value → shape.read value = .ok value)
    (h : items.mapM shape.read = .ok values) : values.mapM shape.read = .ok values := by
  induction items generalizing values with
  | nil =>
    cases h
    rfl
  | cons item rest ih =>
    rw [List.mapM_cons] at h
    obtain ⟨first, hfirst, h⟩ := Result.bind_eq_ok h
    obtain ⟨others, hothers, h⟩ := Result.bind_eq_ok h
    cases h
    rw [List.mapM_cons, hitem item first hfirst, ih hothers]
    rfl

/-- What was read in a shape is read in it as it is. -/
theorem read_self {shape : Shape} {stored : Value} (h : shape.read stored = .ok value) :
    shape.read value = .ok value := by
  induction shape generalizing stored value with
  | objectId =>
    rw [read] at h
    split at h
    · cases h
      rfl
    · cases h
  | string =>
    rw [read] at h
    split at h
    · cases h
      rfl
    · cases h
  -- a narrow integer may be stored as a wide one, and is read as a narrow one from then on
  | int32 =>
    cases stored with
    | int32 n =>
      cases h
      rfl
    | int64 n =>
      rw [read] at h
      split at h
      · cases h
        rfl
      · cases h
    | _ => cases h
  | list item ih =>
    cases stored with
    | array items =>
      rw [read] at h
      obtain ⟨values, hvalues, h⟩ := Result.bind_eq_ok h
      cases h
      rw [read, mapM_read_self (fun _ _ => ih) hvalues]
      rfl
    | _ => cases h
  | optional inner ih =>
    by_cases hstored : stored = .null
    · subst hstored
      cases h
      rfl
    · rw [read_optional hstored] at h
      by_cases hvalue : value = .null
      · subst hvalue
        rfl
      · rw [read_optional hvalue]
        exact ih h

end Shape

/-! ## Fields -/

namespace RecordField

variable {field : RecordField}

/-- Whether a field is always there, has a default in its shape, and is null by default if it may be
null. -/
structure Proper (field : RecordField) : Prop where
  kept : field.leftOut = false
  default : ∀ value, field.default = some value → field.shape.read value = .ok value
  null : field.shape.read .null = .ok .null → field.default = some .null

/-- What a field reads depends on that field of a document only. -/
theorem read_congr (h : d.get? field.name = d'.get? field.name) : field.read d = field.read d' := by
  rw [read, read, h]

theorem read_of_get? (field : RecordField) (h : d.get? field.name = some value) :
    field.read d = field.shape.read value := by
  rw [read, h]

namespace Proper

theorem nullable (name : String) (shape : Shape) : (RecordField.nullable name shape).Proper where
  kept := rfl
  default _ h := by
    cases h
    rfl
  null _ := rfl

theorem required {shape : Shape} (name : String) (h : shape.read .null ≠ .ok .null) :
    (RecordField.required name shape).Proper where
  kept := rfl
  default _ := nofun
  null hnull := absurd hnull h

theorem read_self (hproper : field.Proper) (h : field.read d = .ok value) :
    field.shape.read value = .ok value := by
  cases hget : d.get? field.name with
  | some stored =>
    rw [read_of_get? field hget] at h
    exact Shape.read_self h
  | none =>
    cases hdefault : field.default with
    | some default =>
      rw [read, hget, hdefault] at h
      cases h
      exact hproper.default _ hdefault
    | none =>
      rw [read, hget, hdefault] at h
      cases h

/-- A field that was null is null where it is left out. -/
theorem read_missing (hproper : field.Proper) (h : field.read d = .ok .null)
    (hmissing : d'.get? field.name = none) : field.read d' = .ok .null := by
  rw [read, hmissing, hproper.null (hproper.read_self h)]

end Proper

end RecordField

/-! ## Fields that are not null -/

/-- Fields that are not null are kept where nulls are left out. -/
theorem Document.get?_withoutNulls (hkeys : d.keys.Nodup) {field : String × Value}
    (hfield : field ∈ d) :
    d.withoutNulls.get? field.1 = if field.2.isNull then none else some field.2 := by
  split
  · rename_i hnull
    cases hget : d.withoutNulls.get? field.1 with
    | none => rfl
    | some value =>
      -- the only field of that name was left out
      obtain ⟨hmem, hkept⟩ := List.mem_filter.mp (mem_of_get? hget)
      have hsame := (get?_of_mem hkeys hmem).symm.trans (get?_of_mem hkeys hfield)
      rw [Option.some.inj hsame] at hkept
      simp [hnull] at hkept
  · rename_i hkept
    have hsublist : d.withoutNulls.keys.Sublist d.keys := List.filter_sublist.map _
    refine get?_of_mem (hkeys.sublist hsublist) ?_
    exact List.mem_filter.mpr ⟨hfield, by simpa using hkept⟩

theorem Value.isNull_iff : value.isNull = true ↔ value = .null := by
  cases value <;> simp [isNull]

/-! ## Records -/

/-- The fields that are set to values, one after the other. -/
def Document.assign (d : Document) (fields : List (String × Value)) : Document :=
  fields.foldl (fun d field => d.insert field.1 field.2) d

/-- A document with the fields that changes have a value for. -/
def Document.revised (d changes : Document) : Document := d.assign changes.withoutNulls

/-- A field that is not set is as it was. -/
theorem Document.get?_assign {fields : List (String × Value)} {name : String}
    (h : ∀ field ∈ fields, field.1 ≠ name) : (d.assign fields).get? name = d.get? name := by
  induction fields generalizing d with
  | nil => rfl
  | cons field rest ih =>
    obtain ⟨hname, hrest⟩ := List.forall_mem_cons.mp h
    refine (ih hrest).trans ?_
    rw [get?_insert, if_neg hname.symm]

namespace Record

variable {record changes : Record}

/-- Whether the fields of a record are proper, and no two of them have the same name. -/
structure Proper (record : Record) : Prop where
  fields : ∀ field ∈ record, field.Proper
  nodup : (record.map (·.name)).Nodup

/-- What a record reads depends on its fields in a document only. -/
theorem read_congr (h : ∀ field ∈ record, d.get? field.name = d'.get? field.name) :
    record.read d = record.read d' := by
  induction record with
  | nil => rfl
  | cons field rest ih =>
    rw [read, read, RecordField.read_congr (h field List.mem_cons_self),
      ih fun other hother => h other (List.mem_cons_of_mem _ hother)]

namespace Proper

theorem tail {field : RecordField} {rest : Record} (h : Proper (field :: rest)) : rest.Proper :=
  ⟨fun other hother => h.fields other (List.mem_cons_of_mem _ hother),
    (List.nodup_cons.mp h.nodup).2⟩

theorem read_cons {field : RecordField} {rest : Record} (h : Proper (field :: rest)) :
    read (field :: rest) d = .ok model ↔ ∃ value others, field.read d = .ok value ∧
      rest.read d = .ok others ∧ model = (field.name, value) :: others := by
  have hkept := (h.fields field List.mem_cons_self).kept
  constructor
  · intro hread
    obtain ⟨value, others, hvalue, hothers, rfl⟩ := Record.read_cons hread
    exact ⟨value, others, hvalue, hothers, by simp [hkept]⟩
  · rintro ⟨value, others, hvalue, hothers, rfl⟩
    simp [read, hvalue, hothers, hkept, bind, Except.bind, pure, Except.pure]

/-- What is read has exactly the fields of the record. -/
theorem keys_of_read (h : record.Proper) (hread : record.read d = .ok model) :
    model.keys = record.map (·.name) := by
  induction record generalizing model with
  | nil =>
    cases hread
    rfl
  | cons field rest ih =>
    obtain ⟨value, others, -, hothers, rfl⟩ := h.read_cons.mp hread
    exact congrArg (field.name :: ·) (ih h.tail hothers)

/-- A document that has what was read, except nulls, is read as the same. -/
theorem read_written (h : record.Proper) (hread : record.read data = .ok model)
    (hwritten : ∀ field ∈ model, stored.get? field.1 = some field.2 ∨
      field.2 = .null ∧ stored.get? field.1 = none) :
    record.read stored = .ok model := by
  induction record generalizing model with
  | nil =>
    cases hread
    rfl
  | cons field rest ih =>
    obtain ⟨value, others, hvalue, hothers, rfl⟩ := h.read_cons.mp hread
    obtain ⟨hfirst, hrest⟩ := List.forall_mem_cons.mp hwritten
    have hproper := h.fields field List.mem_cons_self
    refine h.read_cons.mpr ⟨value, others, ?_, ih h.tail hothers hrest, rfl⟩
    obtain hthere | ⟨rfl, hmissing⟩ := hfirst
    · rw [field.read_of_get? hthere]
      exact hproper.read_self hvalue
    · exact hproper.read_missing hvalue hmissing

/-- A field that is set to a value in its shape is read as set. -/
theorem read_insert (h : record.Proper) {field : RecordField} (hfield : field ∈ record)
    (hvalue : field.shape.read value = .ok value) (hread : record.read stored = .ok model) :
    record.read (stored.insert field.name value) = .ok (model.insert field.name value) := by
  induction record generalizing model with
  | nil => cases hfield
  | cons first rest ih =>
    obtain ⟨old, others, hold, hothers, rfl⟩ := h.read_cons.mp hread
    obtain ⟨hfirst, -⟩ := List.nodup_cons.mp h.nodup
    obtain rfl | hfield := List.mem_cons.mp hfield
    · refine h.read_cons.mpr ⟨value, others, ?_, ?_, by rw [Document.insert, if_pos rfl]⟩
      · rw [field.read_of_get? (by rw [Document.get?_insert, if_pos rfl]), hvalue]
      · -- no other field has that name, so the others are read as before
        rw [← hothers]
        refine read_congr fun other hother => ?_
        have hother : other.name ≠ field.name := fun hname =>
          hfirst (List.mem_map.mpr ⟨other, hother, hname⟩)
        rw [Document.get?_insert, if_neg hother]
    · have hname : first.name ≠ field.name := fun hname =>
        hfirst (List.mem_map.mpr ⟨field, hfield, hname.symm⟩)
      refine h.read_cons.mpr ⟨old, others.insert field.name value, ?_, ih h.tail hfield hothers, ?_⟩
      · rw [← hold]
        exact RecordField.read_congr (by rw [Document.get?_insert, if_neg hname])
      · rw [Document.insert, if_neg hname]

/-- So are several fields. -/
theorem read_assign (h : record.Proper) {fields : List (String × Value)}
    (hfields : ∀ field ∈ fields, ∃ f ∈ record, f.name = field.1 ∧
      f.shape.read field.2 = .ok field.2)
    (hread : record.read stored = .ok model) :
    record.read (stored.assign fields) = .ok (model.assign fields) := by
  induction fields generalizing stored model with
  | nil => exact hread
  | cons field rest ih =>
    obtain ⟨⟨f, hf, hname, hvalue⟩, hrest⟩ := List.forall_mem_cons.mp hfields
    have hinserted := h.read_insert hf hvalue hread
    rw [hname] at hinserted
    exact ih hrest hinserted

end Proper

/-! ## Changes -/

/-- Whether changes are of fields of a record: each of them has a value of the same shape, or is
null. None of them leads into a document. -/
structure Revises (changes record : Record) : Prop where
  fits : ∀ change ∈ changes, ∃ field ∈ record, ∃ shape, change = .nullable field.name shape ∧
    (field.shape = shape ∨ field.shape = .optional shape)
  segments : ∀ change ∈ changes, Path.segments change.name = (change.name, [])

/-- What is set by changes that were read has the shape of a field. -/
theorem Revises.mem_withoutNulls (h : changes.Revises record) (hread : changes.read data = .ok d)
    {set : String × Value} (hset : set ∈ d.withoutNulls) :
    Path.segments set.1 = (set.1, []) ∧
      ∃ field ∈ record, field.name = set.1 ∧ field.shape.read set.2 = .ok set.2 := by
  obtain ⟨hset, hvalue⟩ := List.mem_filter.mp hset
  obtain ⟨change, hchange, hname, hread, -⟩ := mem_of_read hread hset
  have hsegments := h.segments change hchange
  obtain ⟨field, hfield, shape, rfl, hshape⟩ := h.fits change hchange
  have hself := (RecordField.Proper.nullable field.name shape).read_self hread
  have hne : set.2 ≠ .null := fun hnull => by simp [hnull, Value.isNull] at hvalue
  rw [hname]
  refine ⟨hsegments, field, hfield, rfl, ?_⟩
  -- the shape of a change always allows null, that of the field may not
  obtain hshape | hshape := hshape
  · rw [hshape, ← Shape.read_optional hne]
    exact hself
  · rw [hshape]
    exact hself

/-- A document with changes is read as the model with the same changes. -/
theorem Revises.read_revised (h : changes.Revises record) (hproper : record.Proper)
    (hchanges : changes.read data = .ok d) (hread : record.read stored = .ok model) :
    record.read (stored.revised d) = .ok (model.revised d) :=
  hproper.read_assign (fun _ hset => (h.mem_withoutNulls hchanges hset).2) hread

/-! ## Identifiers -/

def identified (record : Record) : Record := .required idField .objectId :: record

/-- The record with an identifier in front that may be left out. -/
def identifiable (record : Record) : Record :=
  { RecordField.nullable idField .objectId with leftOut := true } :: record

theorem Revises.identified (h : changes.Revises record) : changes.Revises record.identified where
  fits change hchange := by
    obtain ⟨field, hfield, hfits⟩ := h.fits change hchange
    exact ⟨field, List.mem_cons_of_mem _ hfield, hfits⟩
  segments := h.segments

/-- The other fields have other names. -/
theorem Proper.name_ne_idField (h : record.identified.Proper) {field : RecordField}
    (hfield : field ∈ record) : field.name ≠ idField := fun hname =>
  (List.nodup_cons.mp h.nodup).1 (List.mem_map.mpr ⟨field, hfield, hname⟩)

variable {payload others : Document}

/-- Data that was read has an identifier of its own, or is given one when it is stored. The other
fields are those of the record. -/
theorem exists_identify (hproper : (identified record).Proper)
    (hread : (identifiable record).read data = .ok payload) (fresh : ObjectId) :
    ∃ id others, record.read data = .ok others ∧
      Document.identify fresh payload = (idField, .objectId id) :: others ∧
      Document.identify fresh payload.withoutNulls
        = (idField, .objectId id) :: others.withoutNulls := by
  obtain ⟨value, others, hvalue, hothers, rfl⟩ := Record.read_cons hread
  obtain ⟨hfree, -⟩ := List.nodup_cons.mp hproper.nodup
  -- what is read for the other fields never holds an identifier, with or without nulls
  have hmissing (d : Document) (hd : d.Sublist others) : d.contains idField = false := by
    refine Bool.not_eq_true _ ▸ fun hcontains => hfree ?_
    obtain ⟨value, hget⟩ := Option.isSome_iff_exists.mp hcontains
    have hkey : idField ∈ d.keys := List.mem_map.mpr ⟨_, Document.mem_of_get? hget, rfl⟩
    exact (keys_of_read hothers).subset ((hd.map (·.1)).subset hkey)
  obtain rfl | ⟨id, rfl⟩ := RecordField.read_reference hvalue
  · refine ⟨fresh, others, hothers, ?_, ?_⟩
    · simp [Document.identify, Value.isNull, hmissing others (.refl _)]
    · simp [Document.identify, Value.isNull, hmissing others.withoutNulls List.filter_sublist]
  · refine ⟨id, others, hothers, ?_, ?_⟩
    · simp [Document.identify, Value.isNull, RecordField.nullable, Document.contains, Document.get?]
    · simp [Document.identify, Value.isNull, RecordField.nullable, Document.contains, Document.get?,
        Document.withoutNulls]

/-- Nulls that are left out as data is stored are there again as it is read. -/
theorem read_identify (hproper : (identified record).Proper)
    (hread : (identifiable record).read data = .ok payload) (fresh : ObjectId) (excludes : Bool) :
    ∃ id, (Document.identify fresh payload).get? idField = some (.objectId id) ∧
      let stored := Document.identify fresh (if excludes then payload.withoutNulls else payload)
      stored.get? idField = some (.objectId id) ∧
        (identified record).read stored = .ok (Document.identify fresh payload) := by
  obtain ⟨id, others, hothers, hpayload, hwithoutNulls⟩ := exists_identify hproper hread fresh
  obtain ⟨hfree, hnodup⟩ := List.nodup_cons.mp hproper.nodup
  have hkeys : others.keys.Nodup := hnodup.sublist (keys_of_read hothers)
  have hstored : Document.identify fresh (if excludes then payload.withoutNulls else payload)
      = (idField, .objectId id) :: if excludes then others.withoutNulls else others := by
    split
    · exact hwithoutNulls
    · exact hpayload
  rw [hstored, hpayload]
  have hid (rest : Document) :
      Document.get? ((idField, .objectId id) :: rest) idField = some (.objectId id) := if_pos rfl
  refine ⟨id, hid _, hid _, hproper.read_cons.mpr ⟨_, others, ?_, ?_, rfl⟩⟩
  · rw [RecordField.read_of_get? (.required idField .objectId) (hid _)]
    rfl
  · refine hproper.tail.read_written hothers fun field hfield => ?_
    have hname : idField ≠ field.1 := fun hname =>
      hfree (hname ▸ (keys_of_read hothers).subset (List.mem_map.mpr ⟨field, hfield, rfl⟩))
    rw [Document.get?, if_neg hname]
    cases excludes with
    | false => exact .inl (Document.get?_of_mem hkeys hfield)
    | true =>
      -- a field is missing only where it was null
      rw [if_pos rfl, Document.get?_withoutNulls hkeys hfield]
      split
      · rename_i hnull
        exact .inr ⟨Value.isNull_iff.mp hnull, rfl⟩
      · exact .inl rfl

end Record

end DocumentStore
