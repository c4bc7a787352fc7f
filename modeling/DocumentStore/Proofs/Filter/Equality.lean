import DocumentStore.Double.Nearest
import DocumentStore.Proofs.Value.Members
import DocumentStore.Proofs.Value.Order

/-!
# Equality in filters

Filters do not see all of a value: of a number they see the double nearest to it, of bytes not the
subtype, and of a value that they have no equality for nothing at all. Their equality is equality of
what they see. So it is an equivalence where there is neither NaN nor a value of a type that they do
not compare, it is coarser than equality of values, and it does not look at the order of fields.
-/
namespace DocumentStore.Value

variable {a b c : Value} {x : Double}

/-! ## What filters see -/

mutual

/-- What filters see of a value. For types that they do not compare this is NaN, which equals
nothing. -/
def seen : Value → Value
  | .null => .null
  | .boolean flag => .boolean flag
  | .int32 n => .double (.ofInt n.toInt)
  | .int64 n => .double (.ofInt n.toInt)
  | .double x => .double x
  | .string text => .string text
  | .array items => .array (itemsSeen items)
  | .document fields => .document (fieldsSeen fields)
  | .objectId id => .objectId id
  | .dateTime millis => .dateTime millis
  | .binary _ bytes => .binary 0 bytes
  | _ => .double .nan

def itemsSeen : List Value → List Value
  | [] => []
  | item :: rest => item.seen :: itemsSeen rest

def fieldsSeen : List (String × Value) → List (String × Value)
  | [] => []
  | (name, value) :: rest => (name, value.seen) :: fieldsSeen rest

end

/-- Whether a value is of a type that filters do not compare. -/
def isForeign : Value → Bool
  | .decimal _ | .regex _ _ | .timestamp _ _ | .symbol _ | .javaScript _ => true
  | .javaScriptWithScope _ _ | .pointer _ _ | .undefined | .minKey | .maxKey => true
  | _ => false

mutual

/-- Whether there is a value in it of a type that filters do not compare. -/
def holdsForeign : Value → Bool
  | .array items => itemsHoldForeign items
  | .document fields => fieldsHoldForeign fields
  | a => a.isForeign

def itemsHoldForeign : List Value → Bool
  | [] => false
  | item :: rest => item.holdsForeign || itemsHoldForeign rest

def fieldsHoldForeign : List (String × Value) → Bool
  | [] => false
  | (_, value) :: rest => value.holdsForeign || fieldsHoldForeign rest

end

/-- Whether filters compare all that is in a value: there is no NaN and no value of a type that they
do not compare, and documents name each field once. -/
structure Comparable (a : Value) : Prop extends Whole a where
  noForeign : a.holdsForeign = false

variable {items others : List Value} {fields d d' : Document}

theorem itemsHoldForeign_eq_false :
    itemsHoldForeign items = false ↔ ∀ item ∈ items, item.holdsForeign = false := by
  induction items with
  | nil => simp [itemsHoldForeign]
  | cons item rest ih => simp [itemsHoldForeign, ih]

theorem fieldsHoldForeign_eq_false :
    fieldsHoldForeign fields = false ↔ ∀ field ∈ fields, field.2.holdsForeign = false := by
  induction fields with
  | nil => simp [fieldsHoldForeign]
  | cons field rest ih => simp [fieldsHoldForeign, ih]

theorem itemsSeen_eq_map (items : List Value) : itemsSeen items = items.map seen := by
  induction items with
  | nil => rfl
  | cons item rest ih => simp [itemsSeen, ih]

theorem fieldsSeen_eq_map (fields : Document) :
    fieldsSeen fields = fields.map fun field => (field.1, field.2.seen) := by
  induction fields with
  | nil => rfl
  | cons field rest ih => simp [fieldsSeen, ih]

theorem keys_fieldsSeen (d : Document) : Document.keys (fieldsSeen d) = Document.keys d := by
  rw [fieldsSeen_eq_map, Document.keys, List.map_map]
  rfl

theorem length_fieldsSeen (d : Document) : List.length (fieldsSeen d) = d.length := by
  rw [fieldsSeen_eq_map, List.length_map]

theorem get?_fieldsSeen (d : Document) (name : String) :
    Document.get? (fieldsSeen d) name = (Document.get? d name).map seen := by
  induction d with
  | nil => rfl
  | cons field rest ih =>
    obtain ⟨first, value⟩ := field
    by_cases hname : first = name <;> simp [fieldsSeen, Document.get?, hname, ih]

/-! ## Equality of what is seen -/

theorem isNaN_nan : Double.nan.isNaN = true := by decide

theorem equals_nan (x : Double) : x.equals .nan = false := by
  simp [Double.equals, isNaN_nan]

theorem same_nan (b : Value) : (double .nan).same b = false := by
  cases b <;> simp [same, Double.equals, isNaN_nan]

theorem alike_of_number? (ha : a.number? = some x) (b : Value) :
    a.alike b = b.number?.any x.equals := by
  cases a <;> cases ha <;> cases b <;> rfl

theorem same_seen_of_double (x : Double) (b : Value) :
    (double x).same b.seen = b.number?.any x.equals := by
  cases b <;> simp [seen, same, number?, equals_nan]

/-- Values of types that filters do not compare equal nothing. -/
theorem alike_of_isForeign (ha : a.isForeign = true) (b : Value) : a.alike b = false := by
  cases a <;> first | cases ha; done | cases b <;> rfl

theorem seen_of_isForeign (ha : a.isForeign = true) : a.seen = .double .nan := by
  cases a <;> first | cases ha; done | rfl

theorem alikeItems_eq (h : ∀ item ∈ items, ∀ b, item.alike b = item.seen.same b.seen)
    (others : List Value) :
    alikeItems items others = sameItems (itemsSeen items) (itemsSeen others) := by
  induction items generalizing others with
  | nil => cases others <;> rfl
  | cons item rest ih =>
    obtain ⟨hfirst, hrest⟩ := List.forall_mem_cons.mp h
    cases others with
    | nil => rfl
    | cons other others => rw [alikeItems, itemsSeen, itemsSeen, sameItems, hfirst, ih hrest]

theorem alikeFields_eq (h : ∀ field ∈ fields, ∀ b, field.2.alike b = field.2.seen.same b.seen)
    (d : Document) : alikeFields fields d = sameFields (fieldsSeen fields) (fieldsSeen d) := by
  induction fields with
  | nil => rfl
  | cons field rest ih =>
    obtain ⟨hfirst, hrest⟩ := List.forall_mem_cons.mp h
    rw [alikeFields, fieldsSeen, sameFields, get?_fieldsSeen, ih hrest]
    cases Document.get? d field.1 with
    | none => rfl
    | some other => simp only [Option.map_some, hfirst]

/-- Filters compare what they see. -/
theorem alike_eq_same_seen (a b : Value) : a.alike b = a.seen.same b.seen := by
  -- the members of one side decide how far both are compared, so the other side is arbitrary
  induction a using induction_on_members generalizing b with
  | array items ih =>
    cases b with
    | array others => exact alikeItems_eq ih others
    | _ => rfl
  | document fields ih =>
    cases b with
    | document others =>
      rw [alike, seen, seen, same, alikeFields_eq ih, length_fieldsSeen, length_fieldsSeen]
    | _ => rfl
  | scope => rw [alike_of_isForeign rfl, seen_of_isForeign rfl, same_nan]
  | scalar a ha =>
    cases hforeign : a.isForeign with
    | true => rw [alike_of_isForeign hforeign, seen_of_isForeign hforeign, same_nan]
    | false =>
      cases a with
      | int32 | int64 | double => rw [alike_of_number? rfl, seen, same_seen_of_double]
      | null | boolean | string | objectId | dateTime | binary => cases b <;> rfl
      | array | document | javaScriptWithScope => cases ha
      | _ => cases hforeign

/-! ## Values that are compared -/

/-- What is seen of a document names each field once, as the document does. -/
theorem namesOnce_seen (a : Value) (ha : a.NamesOnce) : a.seen.NamesOnce := by
  induction a using induction_on_members with
  | array items ih =>
    refine itemsNameOnce_iff.mpr fun other hmem => ?_
    rw [itemsSeen_eq_map] at hmem
    obtain ⟨item, hitem, rfl⟩ := List.mem_map.mp hmem
    exact ih item hitem (itemsNameOnce_iff.mp ha item hitem)
  | document fields ih =>
    refine ⟨(keys_fieldsSeen fields).symm ▸ ha.1, fieldsNameOnce_iff.mpr fun other hmem => ?_⟩
    rw [fieldsSeen_eq_map] at hmem
    obtain ⟨field, hfield, rfl⟩ := List.mem_map.mp hmem
    exact ih field hfield (fieldsNameOnce_iff.mp ha.2 field hfield)
  | scope => trivial
  | scalar a hscalar =>
    cases a with
    | array | document | javaScriptWithScope => cases hscalar
    | _ => trivial

/-- NaN is seen where it is, and in place of values of types that are not compared. -/
theorem holdsNaN_seen (a : Value) :
    a.seen.holdsNaN = false ↔ a.holdsNaN = false ∧ a.holdsForeign = false := by
  have hnan : (double .nan).holdsNaN ≠ false := by decide
  induction a using induction_on_members with
  | array items ih =>
    simp only [seen, holdsNaN, holdsForeign, itemsHoldNaN_eq_false, itemsHoldForeign_eq_false,
      itemsSeen_eq_map, List.forall_mem_map]
    exact (forall₂_congr ih).trans forall₂_and
  | document fields ih =>
    simp only [seen, holdsNaN, holdsForeign, fieldsHoldNaN_eq_false, fieldsHoldForeign_eq_false,
      fieldsSeen_eq_map, List.forall_mem_map]
    exact (forall₂_congr ih).trans forall₂_and
  | scope => exact iff_of_false hnan fun h => nomatch h.2
  | scalar a hscalar =>
    cases a with
    | int32 n => exact iff_of_true (isNaN_of_number? (a := .int32 n) rfl) ⟨rfl, rfl⟩
    | int64 n => exact iff_of_true (isNaN_of_number? (a := .int64 n) rfl) ⟨rfl, rfl⟩
    | double x => exact (and_iff_left rfl).symm
    | array | document | javaScriptWithScope => cases hscalar
    | null | boolean | string | objectId | dateTime | binary => exact iff_of_true rfl ⟨rfl, rfl⟩
    | _ => exact iff_of_false hnan fun h => nomatch h.2

/-- The values that filters compare are those that equal themselves. -/
theorem alike_self_iff (ha : a.NamesOnce) : a.alike a = true ↔ a.Comparable := by
  rw [alike_eq_same_seen, same_self_iff (namesOnce_seen a ha), holdsNaN_seen]
  exact ⟨fun h => ⟨⟨ha, h.1⟩, h.2⟩, fun h => ⟨h.noNaN, h.noForeign⟩⟩

theorem alike_symm (ha : a.NamesOnce) (hb : b.NamesOnce) (h : a.alike b = true) :
    b.alike a = true := by
  rw [alike_eq_same_seen] at h ⊢
  exact same_symm a.seen (namesOnce_seen a ha) (namesOnce_seen b hb) h

theorem alike_trans (h : a.alike b = true) (h' : b.alike c = true) : a.alike c = true := by
  rw [alike_eq_same_seen] at h h' ⊢
  exact same_trans a.seen h h'

/-! ## Equal values -/

/-- Of equal values equal things are seen, if filters see all that is in them. -/
theorem same_seen (a : Value) {b : Value} (ha : a.holdsForeign = false) (h : a.same b = true) :
    a.seen.same b.seen = true := by
  induction a using induction_on_members generalizing b with
  | array items ih =>
    obtain ⟨others, rfl, hitems⟩ := same_array h
    obtain ⟨hlength, hpairs⟩ := List.forall₂_iff_zip.mp (sameItems_iff.mp hitems)
    have hseen : sameItems (itemsSeen items) (itemsSeen others) = true := by
      rw [sameItems_iff, itemsSeen_eq_map, itemsSeen_eq_map, List.forall₂_map_left_iff,
        List.forall₂_map_right_iff, List.forall₂_iff_zip]
      refine ⟨hlength, fun {item other} hpair => ?_⟩
      have hmem := (List.of_mem_zip hpair).1
      exact ih item hmem (itemsHoldForeign_eq_false.mp ha item hmem) (hpairs hpair)
    simpa [seen, same] using hseen
  | document fields ih =>
    obtain ⟨others, rfl, hlength, hfields⟩ := same_document h
    have hseen : sameFields (fieldsSeen fields) (fieldsSeen others) = true := by
      rw [sameFields_iff, fieldsSeen_eq_map fields, List.forall_mem_map]
      intro field hmem
      obtain ⟨other, hother, hsame⟩ := sameFields_iff.mp hfields field hmem
      refine ⟨other.seen, ?_, ih field hmem (fieldsHoldForeign_eq_false.mp ha field hmem) hsame⟩
      rw [get?_fieldsSeen, hother, Option.map_some]
    simpa [seen, same, length_fieldsSeen] using ⟨hlength, hseen⟩
  | scope => cases ha
  | scalar a hscalar =>
    cases hplain : a.isPlain with
    | true =>
      obtain rfl := eq_of_same hplain h
      have hself : a.Comparable := ⟨.of_isPlain hplain, ha⟩
      rw [← alike_eq_same_seen]
      exact (alike_self_iff hself.namesOnce).mpr hself
    -- of the scalars only doubles are equal without being the same
    | false =>
      cases a with
      | double x =>
        obtain ⟨y, rfl, hxy⟩ := same_double h
        exact hxy
      | array | document | javaScriptWithScope => cases hscalar
      | _ => cases hplain

theorem Comparable.alike_of_same (ha : a.Comparable) (h : a.same b = true) : a.alike b = true := by
  rw [alike_eq_same_seen]
  exact same_seen a ha.noForeign h

/-- Filters do not look at the order of fields. -/
theorem Comparable.alike_permuted {a' b' : Value} (ha : a.Comparable) (hb : b.Comparable)
    (ha' : a.Permuted a') (hb' : b.Permuted b') : a'.alike b' = a.alike b := by
  have hnames := ha'.namesOnce ha.namesOnce
  have hleft : a.alike a' = true := ha.alike_of_same (ha'.same ha.toWhole)
  have hright : b.alike b' = true := hb.alike_of_same (hb'.same hb.toWhole)
  have hleft' := alike_symm ha.namesOnce hnames hleft
  have hright' := alike_symm hb.namesOnce (hb'.namesOnce hb.namesOnce) hright
  rw [Bool.eq_iff_iff]
  exact ⟨fun h => alike_trans (alike_trans hleft h) hright',
    fun h => alike_trans (alike_trans hleft' h) hright⟩

/-- Values are equal in filters if what filters see of them is equal. This is an equivalence of the
values that filters compare. It does not look at the order of fields, at whatever depth they are,
and equal values are equal in filters. -/
theorem alike_equivalence :
    (∀ a b : Value, a.alike b = a.seen.same b.seen) ∧
      Equivalence (fun a b : { a : Value // a.Comparable } => a.1.alike b.1 = true) ∧
      (∀ a a' b b' : Value, a.Comparable → b.Comparable → a.Permuted a' → b.Permuted b' →
        a'.alike b' = a.alike b) ∧
      ∀ a b : Value, a.Comparable → a.same b = true → a.alike b = true := by
  refine ⟨alike_eq_same_seen, ⟨fun a => ?_, fun {a b} h => ?_, fun h h' => ?_⟩, ?_, ?_⟩
  · exact (alike_self_iff a.2.namesOnce).mpr a.2
  · exact alike_symm a.2.namesOnce b.2.namesOnce h
  · exact alike_trans h h'
  · exact fun a a' b b' ha hb ha' hb' => ha.alike_permuted hb ha' hb'
  · exact fun a b ha h => ha.alike_of_same h

/-- Lines of an order that differ in the width of a number and in the subtype of bytes are not the
same, but they are equal in filters, whatever the order of their fields. -/
theorem alike_equivalence_order :
    let line : Value := .document [("count", .int64 2), ("code", .binary 0 [7])]
    let exchanged : Value := .document [("code", .binary 0 [7]), ("count", .int64 2)]
    let rounded : Value := .document [("count", .double (.ofInt 2)), ("code", .binary 4 [7])]
    (Value.array [line]).Comparable ∧ (Value.array [rounded]).Comparable ∧
      (Value.array [line]).Permuted (.array [exchanged]) ∧
      (Value.array [rounded]).alike (.array [exchanged]) = true ∧
      (Value.array [line]).same (.array [rounded]) = false := by
  intro line exchanged rounded
  have hline : (Value.array [line]).Comparable := by
    refine ⟨⟨?_, by decide⟩, by decide⟩
    simp [line, NamesOnce, itemsNameOnce, fieldsNameOnce, Document.keys]
  have hrounded : (Value.array [rounded]).Comparable := by
    refine ⟨⟨?_, by decide⟩, by decide⟩
    simp [rounded, NamesOnce, itemsNameOnce, fieldsNameOnce, Document.keys]
  have hne : "count" ≠ "code" := by decide
  have hexchanged : line.Permuted exchanged := (Document.insert_comm hne [] _ _).permuted
  have hpermuted : (Value.array [line]).Permuted (.array [exchanged]) :=
    .array rfl fun pair hpair => by
      cases List.mem_singleton.mp hpair
      exact hexchanged
  obtain ⟨-, hequivalence, horder, -⟩ := alike_equivalence
  have halike : (Value.array [line]).alike (.array [rounded]) = true := by decide
  refine ⟨hline, hrounded, hpermuted, ?_, by decide⟩
  rw [horder _ _ _ _ hrounded hline (.refl _) hpermuted]
  exact hequivalence.symm (x := ⟨_, hline⟩) (y := ⟨_, hrounded⟩) halike

end DocumentStore.Value
