import DocumentStore.Proofs.Pipeline.Rearranged
import Mathlib.Data.List.Forall2

/-!
# Values and their members

The members of an array are its items, those of a document the values of its fields. What holds of a
value if it holds of its members holds of all values. Equality is decided by the members, so a value
equals itself exactly if no NaN is in it, and fields in another order make no difference at whatever
depth they are.
-/
namespace DocumentStore.Value

variable {a b : Value}

/-! ## Induction on members -/

/-- Whether a value has no members. -/
def isScalar : Value → Bool
  | .array _ | .document _ | .javaScriptWithScope _ _ => false
  | _ => true

theorem sizeOf_lt_of_mem {fields : Document} {field : String × Value} (h : field ∈ fields) :
    sizeOf field.2 < sizeOf fields := by
  have hfield : sizeOf field.2 < sizeOf field := by
    obtain ⟨name, value⟩ := field
    simp only [Prod.mk.sizeOf_spec]
    omega
  exact Nat.lt_trans hfield (List.sizeOf_lt_of_mem h)

/-- What a value has if all of its members have it, all values have. -/
theorem induction_on_members {motive : Value → Prop}
    (array : ∀ items, (∀ item ∈ items, motive item) → motive (.array items))
    (document : ∀ fields : Document, (∀ field ∈ fields, motive field.2) → motive (.document fields))
    (scope : ∀ code, ∀ fields : Document, (∀ field ∈ fields, motive field.2) →
      motive (.javaScriptWithScope code fields))
    (scalar : ∀ a, a.isScalar = true → motive a) (a : Value) : motive a := by
  cases a with
  | array items =>
    exact array items fun item hmem => induction_on_members array document scope scalar item
  | document fields =>
    exact document fields fun field hmem =>
      induction_on_members array document scope scalar field.2
  | javaScriptWithScope code fields =>
    exact scope code fields fun field hmem =>
      induction_on_members array document scope scalar field.2
  | _ => exact scalar _ rfl
termination_by sizeOf a
decreasing_by
  · have hless := List.sizeOf_lt_of_mem hmem
    simp only [Value.array.sizeOf_spec]
    omega
  · have hless := sizeOf_lt_of_mem hmem
    simp only [Value.document.sizeOf_spec]
    omega
  · have hless := sizeOf_lt_of_mem hmem
    simp only [javaScriptWithScope.sizeOf_spec]
    omega

/-! ## What is said of all members -/

variable {items others : List Value} {fields d d' : Document}

theorem itemsNameOnce_iff : itemsNameOnce items ↔ ∀ item ∈ items, item.NamesOnce := by
  induction items with
  | nil => simp [itemsNameOnce]
  | cons item rest ih => simp [itemsNameOnce, ih]

theorem fieldsNameOnce_iff : fieldsNameOnce fields ↔ ∀ field ∈ fields, field.2.NamesOnce := by
  induction fields with
  | nil => simp [fieldsNameOnce]
  | cons field rest ih => simp [fieldsNameOnce, ih]

theorem itemsHoldNaN_eq_false :
    itemsHoldNaN items = false ↔ ∀ item ∈ items, item.holdsNaN = false := by
  induction items with
  | nil => simp [itemsHoldNaN]
  | cons item rest ih => simp [itemsHoldNaN, ih]

theorem fieldsHoldNaN_eq_false :
    fieldsHoldNaN fields = false ↔ ∀ field ∈ fields, field.2.holdsNaN = false := by
  induction fields with
  | nil => simp [fieldsHoldNaN]
  | cons field rest ih => simp [fieldsHoldNaN, ih]

/-- Arrays are equal position by position. -/
theorem sameItems_iff : sameItems items others = true ↔
    List.Forall₂ (fun item other => item.same other = true) items others := by
  induction items generalizing others with
  | nil => cases others <;> simp [sameItems]
  | cons item rest ih => cases others <;> simp [sameItems, ih]

/-- The fields of one document are in the other with equal values. -/
theorem sameFields_iff : sameFields d d' = true ↔
    ∀ field ∈ d, ∃ other, d'.get? field.1 = some other ∧ field.2.same other = true := by
  induction d with
  | nil => simp [sameFields]
  | cons field rest ih => rw [sameFields_cons, ih, List.forall_mem_cons]

/-! ## Values that equal themselves -/

/-- Where no name is repeated, a field of a document is compared with itself. -/
theorem same_self_of_sameFields (hkeys : fields.keys.Nodup)
    (h : sameFields fields fields = true) {field : String × Value} (hmem : field ∈ fields) :
    field.2.same field.2 = true := by
  obtain ⟨other, hother, hsame⟩ := sameFields_iff.mp h field hmem
  rw [Document.get?_of_mem hkeys hmem] at hother
  cases hother
  exact hsame

/-- There is no NaN in a value that equals itself. -/
theorem holdsNaN_of_same_self (a : Value) (ha : a.NamesOnce) (h : a.same a = true) :
    a.holdsNaN = false := by
  induction a using induction_on_members with
  | array items ih =>
    obtain ⟨_, heq, hitems⟩ := same_array h
    cases heq
    have hself := List.forall₂_same.mp (sameItems_iff.mp hitems)
    exact itemsHoldNaN_eq_false.mpr fun item hmem =>
      ih item hmem (itemsNameOnce_iff.mp ha item hmem) (hself item hmem)
  | document fields ih =>
    obtain ⟨_, heq, -, hfields⟩ := same_document h
    cases heq
    exact fieldsHoldNaN_eq_false.mpr fun field hmem =>
      ih field hmem (fieldsNameOnce_iff.mp ha.2 field hmem)
        (same_self_of_sameFields ha.1 hfields hmem)
  | scope code fields ih =>
    obtain ⟨_, heq, -, hfields⟩ := same_scope h
    cases heq
    exact fieldsHoldNaN_eq_false.mpr fun field hmem =>
      ih field hmem (fieldsNameOnce_iff.mp ha.2 field hmem)
        (same_self_of_sameFields ha.1 hfields hmem)
  | scalar a hscalar =>
    cases a with
    -- a double that equals itself is not NaN
    | double x =>
      have hself : x.equals x = true := h
      simp only [Double.equals, Bool.and_eq_true, Bool.not_eq_true'] at hself
      exact hself.1.1
    | array | document | javaScriptWithScope => cases hscalar
    | _ => rfl

/-- A value equals itself exactly if no NaN is in it. -/
theorem same_self_iff (ha : a.NamesOnce) : a.same a = true ↔ a.holdsNaN = false :=
  ⟨holdsNaN_of_same_self a ha, same_self a ha⟩

theorem Whole.of_isPlain (ha : a.isPlain = true) : a.Whole := by
  cases a <;> first | cases ha; done | exact ⟨trivial, rfl⟩

/-! ## Fields in another order -/

/-- Whether a value is another one with the fields of its documents in another order, at any depth
and within arrays too. -/
inductive Permuted : Value → Value → Prop
  | refl (v : Value) : Permuted v v
  | array {items others : List Value} (length : items.length = others.length)
      (members : ∀ pair ∈ items.zip others, Permuted pair.1 pair.2) :
      Permuted (.array items) (.array others)
  | document {d d' : Document} (keys : d.keys.Perm d'.keys)
      (fields : ∀ key a b, d.get? key = some a → d'.get? key = some b → Permuted a b) :
      Permuted (.document d) (.document d')

theorem Rearranged.permuted (h : a.Rearranged b) : a.Permuted b := by
  induction h with
  | refl v => exact .refl v
  | document keys _ ih => exact .document keys ih

/-- Equality does not look at the order of fields, in arrays as little as in documents. -/
theorem Permuted.same (h : a.Permuted b) (ha : a.Whole) : a.same b = true := by
  induction h with
  | refl => exact ha.same_self
  | @array items others length members ih =>
    have hitems : sameItems items others = true :=
      sameItems_iff.mpr <| List.forall₂_iff_zip.mpr ⟨length, fun {item other} hpair => by
        have hmem := (List.of_mem_zip hpair).1
        exact ih (item, other) hpair ⟨itemsNameOnce_iff.mp ha.namesOnce item hmem,
          itemsHoldNaN_eq_false.mp ha.noNaN item hmem⟩⟩
    simpa [Value.same] using hitems
  | @document d d' keys fields ih =>
    have hfields : sameFields d d' = true := sameFields_iff.mpr fun field hmem => by
      have hget := Document.get?_of_mem ha.namesOnce.1 hmem
      obtain ⟨other, hother⟩ :=
        Document.exists_get? (keys.mem_iff.mp (Document.mem_keys_of_get? hget))
      exact ⟨other, hother, ih field.1 field.2 other hget hother (ha.of_mem hmem)⟩
    have hlength : d.length = d'.length := by simpa [Document.keys] using keys.length_eq
    simpa [Value.same] using ⟨hlength, hfields⟩

theorem Permuted.namesOnce (h : a.Permuted b) (ha : a.NamesOnce) : b.NamesOnce := by
  induction h with
  | refl => exact ha
  | @array items others length members ih =>
    refine itemsNameOnce_iff.mpr fun other hmem => ?_
    rw [← List.map_snd_zip length.ge] at hmem
    obtain ⟨pair, hpair, rfl⟩ := List.mem_map.mp hmem
    exact ih pair hpair (itemsNameOnce_iff.mp ha pair.1 (List.of_mem_zip hpair).1)
  | @document d d' keys fields ih =>
    have hkeys := keys.nodup_iff.mp ha.1
    refine ⟨hkeys, fieldsNameOnce_iff.mpr fun field hmem => ?_⟩
    have hget := Document.get?_of_mem hkeys hmem
    obtain ⟨value, hvalue⟩ :=
      Document.exists_get? (keys.mem_iff.mpr (Document.mem_keys_of_get? hget))
    exact ih field.1 value field.2 hvalue hget (namesOnce_of_mem ha.2 (Document.mem_of_get? hvalue))

end DocumentStore.Value
