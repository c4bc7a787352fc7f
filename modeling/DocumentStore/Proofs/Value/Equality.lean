import DocumentStore.Proofs.Record
import Mathlib.Data.List.Perm.Subperm

/-!
# Equality of values

Equality of values is transitive. It is symmetric on values whose documents name each field once,
since only those can be compared as maps from names to values. It is not reflexive: NaN differs
from itself, and so does whatever holds it. Without NaN it is.
-/
namespace DocumentStore.Value

/-! ## Values that equal a value -/

/-- Whether a value equals no other than itself. -/
def isPlain : Value → Bool
  | .double _ | .array _ | .document _ | .javaScriptWithScope _ _ => false
  | _ => true

variable {a b c : Value}

-- the equations of these are made here, before the proofs that ask for them
attribute [local simp] same sameItems sameFields

theorem eq_of_same (ha : a.isPlain = true) (h : a.same b = true) : a = b := by
  cases a with
  | double | array | document | javaScriptWithScope => cases ha
  | _ => cases b <;> simp_all

theorem same_double {x : Double} (h : (double x).same b = true) :
    ∃ y, b = .double y ∧ x.equals y = true := by
  cases b with
  | double y => exact ⟨y, rfl, h⟩
  | _ => cases h

theorem same_array {items : List Value} (h : (array items).same b = true) :
    ∃ others, b = .array others ∧ sameItems items others = true := by
  cases b with
  | array others => exact ⟨others, rfl, by simpa using h⟩
  | _ => simp at h

theorem same_document {fields : Document} (h : (document fields).same b = true) :
    ∃ others, b = .document others ∧ fields.length = others.length ∧
      sameFields fields others = true := by
  cases b with
  | document others => exact ⟨others, rfl, by simpa using h⟩
  | _ => simp at h

theorem same_scope {code : String} {scope : Document}
    (h : (javaScriptWithScope code scope).same b = true) :
    ∃ others, b = .javaScriptWithScope code others ∧ scope.length = others.length ∧
      sameFields scope others = true := by
  cases b with
  | javaScriptWithScope other others =>
    obtain ⟨⟨rfl, hlength⟩, hfields⟩ : (code = other ∧ scope.length = others.length) ∧
        sameFields scope others = true := by simpa using h
    exact ⟨others, rfl, hlength, hfields⟩
  | _ => simp at h

/-- Equal values have one type. -/
theorem type_eq_of_same (h : a.same b = true) : b.type = a.type := by
  cases a with
  | double x =>
    obtain ⟨y, rfl, -⟩ := same_double h
    rfl
  | array items =>
    obtain ⟨others, rfl, -⟩ := same_array h
    rfl
  | document fields =>
    obtain ⟨others, rfl, -⟩ := same_document h
    rfl
  | javaScriptWithScope code scope =>
    obtain ⟨others, rfl, -⟩ := same_scope h
    rfl
  | _ => rw [← eq_of_same rfl h]

/-! ## Documents compared field by field -/

theorem sameFields_cons {name : String} {value : Value} {rest d : Document} :
    sameFields ((name, value) :: rest) d = true
      ↔ (∃ other, d.get? name = some other ∧ value.same other = true) ∧
        sameFields rest d = true := by
  cases hget : d.get? name <;> simp [hget]

theorem get?_of_sameFields {d d' : Document} (h : sameFields d d' = true) {name : String}
    {value : Value} (hget : d.get? name = some value) :
    ∃ other, d'.get? name = some other ∧ value.same other = true := by
  induction d with
  | nil => cases hget
  | cons field rest ih =>
    obtain ⟨first, held⟩ := field
    obtain ⟨hfirst, hrest⟩ := sameFields_cons.mp h
    unfold Document.get? at hget
    split at hget
    · rename_i hname
      cases hget
      exact hname ▸ hfirst
    · exact ih hrest hget

theorem sameFields_of_forall {d d' : Document} (h : ∀ name value, (name, value) ∈ d →
    ∃ other, d'.get? name = some other ∧ value.same other = true) : sameFields d d' = true := by
  induction d with
  | nil => rfl
  | cons field rest ih =>
    obtain ⟨name, value⟩ := field
    exact sameFields_cons.mpr ⟨h name value List.mem_cons_self,
      ih fun other held hmem => h other held (List.mem_cons_of_mem _ hmem)⟩

/-! ## Transitivity -/

theorem equals_trans {x y z : Double} (h : x.equals y = true) (h' : y.equals z = true) :
    x.equals z = true := by
  simp only [Double.equals, Bool.and_eq_true, beq_iff_eq] at h h' ⊢
  exact ⟨⟨h.1.1, h'.1.2⟩, h.2.trans h'.2⟩

mutual

theorem same_trans (a : Value) {b c : Value} (h : a.same b = true) (h' : b.same c = true) :
    a.same c = true := by
  cases a with
  | double x =>
    obtain ⟨y, rfl, hxy⟩ := same_double h
    obtain ⟨z, rfl, hyz⟩ := same_double h'
    exact equals_trans hxy hyz
  | array items =>
    obtain ⟨others, rfl, hitems⟩ := same_array h
    obtain ⟨last, rfl, hothers⟩ := same_array h'
    simpa using sameItems_trans items hitems hothers
  | document fields =>
    obtain ⟨others, rfl, hlength, hfields⟩ := same_document h
    obtain ⟨last, rfl, hlength', hothers⟩ := same_document h'
    simpa using ⟨hlength.trans hlength', sameFields_trans fields hfields hothers⟩
  | javaScriptWithScope code scope =>
    obtain ⟨others, rfl, hlength, hfields⟩ := same_scope h
    obtain ⟨last, rfl, hlength', hothers⟩ := same_scope h'
    simpa using ⟨hlength.trans hlength', sameFields_trans scope hfields hothers⟩
  | _ => exact eq_of_same rfl h ▸ h'
termination_by structural a

theorem sameItems_trans (items : List Value) {others last : List Value}
    (h : sameItems items others = true) (h' : sameItems others last = true) :
    sameItems items last = true := by
  cases items with
  | nil => cases others <;> simp_all
  | cons item rest =>
    cases others with
    | nil => cases h
    | cons other others =>
      cases last with
      | nil => cases h'
      | cons final last =>
        simp only [sameItems, Bool.and_eq_true] at h h' ⊢
        exact ⟨same_trans item h.1 h'.1, sameItems_trans rest h.2 h'.2⟩
termination_by structural items

theorem sameFields_trans (fields : List (String × Value)) {others last : Document}
    (h : sameFields fields others = true) (h' : sameFields others last = true) :
    sameFields fields last = true := by
  cases fields with
  | nil => rfl
  | cons field rest =>
    obtain ⟨name, value⟩ := field
    obtain ⟨⟨other, hother, hsame⟩, hrest⟩ := sameFields_cons.mp h
    obtain ⟨final, hfinal, hsame'⟩ := get?_of_sameFields h' hother
    exact sameFields_cons.mpr
      ⟨⟨final, hfinal, same_trans value hsame hsame'⟩, sameFields_trans rest hrest h'⟩
termination_by structural fields

end

/-! ## Symmetry -/

mutual

/-- Whether every document inside of a value names each of its fields once. -/
def NamesOnce : Value → Prop
  | .array items => itemsNameOnce items
  | .document fields => (Document.keys fields).Nodup ∧ fieldsNameOnce fields
  | .javaScriptWithScope _ scope => (Document.keys scope).Nodup ∧ fieldsNameOnce scope
  | _ => True

def itemsNameOnce : List Value → Prop
  | [] => True
  | item :: rest => item.NamesOnce ∧ itemsNameOnce rest

def fieldsNameOnce : List (String × Value) → Prop
  | [] => True
  | (_, value) :: rest => value.NamesOnce ∧ fieldsNameOnce rest

end

theorem namesOnce_of_mem {fields : Document} (h : fieldsNameOnce fields) {name : String}
    {value : Value} (hmem : (name, value) ∈ fields) : value.NamesOnce := by
  induction fields with
  | nil => cases hmem
  | cons field rest ih =>
    obtain ⟨hfirst, hrest⟩ := h
    obtain heq | hmem := List.mem_cons.mp hmem
    · cases heq
      exact hfirst
    · exact ih hrest hmem

/-- Fields that are in a document of the same size are all that it has. -/
theorem keys_subset_of_sameFields {d d' : Document} (hkeys : d.keys.Nodup)
    (hlength : d.length = d'.length) (h : sameFields d d' = true) : d'.keys ⊆ d.keys := by
  have hsub : d.keys ⊆ d'.keys := by
    intro name hname
    obtain ⟨field, hmem, rfl⟩ := List.mem_map.mp hname
    obtain ⟨other, hother, -⟩ := get?_of_sameFields h (Document.get?_of_mem hkeys hmem)
    exact List.mem_map.mpr ⟨_, Document.mem_of_get? hother, rfl⟩
  have hperm := (List.subperm_of_subset hkeys hsub).perm_of_length_le
    (by simp [Document.keys, hlength])
  exact hperm.symm.subset

theorem sameFields_symm_of_forall {d d' : Document} (hkeys : d.keys.Nodup)
    (hkeys' : d'.keys.Nodup) (hlength : d.length = d'.length) (h : sameFields d d' = true)
    (hsymm : ∀ name value other, (name, value) ∈ d → (name, other) ∈ d' →
      value.same other = true → other.same value = true) : sameFields d' d = true := by
  refine sameFields_of_forall fun name other hmem => ?_
  -- the other document has no field that this one lacks
  have hname := keys_subset_of_sameFields hkeys hlength h (List.mem_map.mpr ⟨_, hmem, rfl⟩)
  obtain ⟨⟨_, value⟩, hvalue, rfl⟩ := List.mem_map.mp hname
  have hget := Document.get?_of_mem hkeys hvalue
  obtain ⟨found, hfound, hsame⟩ := get?_of_sameFields h hget
  obtain rfl : found = other :=
    Option.some.inj (hfound.symm.trans (Document.get?_of_mem hkeys' hmem))
  exact ⟨value, hget, hsymm _ value found hvalue hmem hsame⟩

mutual

theorem same_symm (a : Value) {b : Value} (ha : a.NamesOnce) (hb : b.NamesOnce)
    (h : a.same b = true) : b.same a = true := by
  cases a with
  | double x =>
    obtain ⟨y, rfl, hxy⟩ := same_double h
    simp only [same, Double.equals, Bool.and_eq_true, beq_iff_eq] at hxy ⊢
    exact ⟨⟨hxy.1.2, hxy.1.1⟩, hxy.2.symm⟩
  | array items =>
    obtain ⟨others, rfl, hitems⟩ := same_array h
    simpa using sameItems_symm items ha hb hitems
  | document fields =>
    obtain ⟨others, rfl, hlength, hfields⟩ := same_document h
    have hback := sameFields_symm_of_forall ha.1 hb.1 hlength hfields
      fun name value other hmem hmem' =>
        same_symm_of_mem fields hmem ha.2 (namesOnce_of_mem hb.2 hmem')
    simpa using ⟨hlength.symm, hback⟩
  | javaScriptWithScope code scope =>
    obtain ⟨others, rfl, hlength, hfields⟩ := same_scope h
    have hback := sameFields_symm_of_forall ha.1 hb.1 hlength hfields
      fun name value other hmem hmem' =>
        same_symm_of_mem scope hmem ha.2 (namesOnce_of_mem hb.2 hmem')
    simpa using ⟨hlength.symm, hback⟩
  | _ =>
    obtain rfl := eq_of_same rfl h
    exact h
termination_by structural a

theorem sameItems_symm (items : List Value) {others : List Value} (ha : itemsNameOnce items)
    (hb : itemsNameOnce others) (h : sameItems items others = true) :
    sameItems others items = true := by
  cases items with
  | nil => cases others <;> simp_all
  | cons item rest =>
    cases others with
    | nil => cases h
    | cons other others =>
      simp only [sameItems, Bool.and_eq_true] at h ⊢
      exact ⟨same_symm item ha.1 hb.1 h.1, sameItems_symm rest ha.2 hb.2 h.2⟩
termination_by structural items

theorem same_symm_of_mem (fields : List (String × Value)) {name : String} {value other : Value}
    (hmem : (name, value) ∈ fields) (ha : fieldsNameOnce fields) (hb : other.NamesOnce)
    (h : value.same other = true) : other.same value = true := by
  cases fields with
  | nil => cases hmem
  | cons field rest =>
    obtain ⟨first, held⟩ := field
    obtain heq | hmem := List.mem_cons.mp hmem
    · have hheld : value = held := congrArg Prod.snd heq
      rw [hheld] at h ⊢
      exact same_symm held ha.1 hb h
    · exact same_symm_of_mem rest hmem ha.2 hb h
termination_by structural fields

end

/-! ## Reflexivity -/

mutual

/-- Whether there is a NaN in a value. -/
def holdsNaN : Value → Bool
  | .double x => x.isNaN
  | .array items => itemsHoldNaN items
  | .document fields => fieldsHoldNaN fields
  | .javaScriptWithScope _ scope => fieldsHoldNaN scope
  | _ => false

def itemsHoldNaN : List Value → Bool
  | [] => false
  | item :: rest => item.holdsNaN || itemsHoldNaN rest

def fieldsHoldNaN : List (String × Value) → Bool
  | [] => false
  | (_, value) :: rest => value.holdsNaN || fieldsHoldNaN rest

end

mutual

theorem same_self (a : Value) (ha : a.NamesOnce) (h : a.holdsNaN = false) : a.same a = true := by
  cases a with
  | double x =>
    have hx : x.isNaN = false := h
    simp [Double.equals, hx]
  | array items => simpa using sameItems_self items ha h
  | document fields =>
    have hfields := sameFields_of_forall fun name value hmem =>
      ⟨value, Document.get?_of_mem ha.1 hmem, same_self_of_mem fields hmem ha.2 h⟩
    simpa using hfields
  | javaScriptWithScope code scope =>
    have hfields := sameFields_of_forall fun name value hmem =>
      ⟨value, Document.get?_of_mem ha.1 hmem, same_self_of_mem scope hmem ha.2 h⟩
    simpa using hfields
  | _ => simp
termination_by structural a

theorem sameItems_self (items : List Value) (ha : itemsNameOnce items)
    (h : itemsHoldNaN items = false) : sameItems items items = true := by
  cases items with
  | nil => rfl
  | cons item rest =>
    simp only [itemsHoldNaN, Bool.or_eq_false_iff] at h
    simp only [sameItems, Bool.and_eq_true]
    exact ⟨same_self item ha.1 h.1, sameItems_self rest ha.2 h.2⟩
termination_by structural items

theorem same_self_of_mem (fields : List (String × Value)) {name : String} {value : Value}
    (hmem : (name, value) ∈ fields) (ha : fieldsNameOnce fields)
    (h : fieldsHoldNaN fields = false) : value.same value = true := by
  cases fields with
  | nil => cases hmem
  | cons field rest =>
    obtain ⟨first, held⟩ := field
    simp only [fieldsHoldNaN, Bool.or_eq_false_iff] at h
    obtain heq | hmem := List.mem_cons.mp hmem
    · have hheld : value = held := congrArg Prod.snd heq
      rw [hheld]
      exact same_self held ha.1 h.1
    · exact same_self_of_mem rest hmem ha.2 h.2
termination_by structural fields

end

/-- Whether a value is one that equals itself: its documents name each field once, and there is no
NaN in it. Such values are equal to each other or not whatever way they are compared. -/
structure Whole (a : Value) : Prop where
  namesOnce : a.NamesOnce
  noNaN : a.holdsNaN = false

theorem Whole.same_self (ha : a.Whole) : a.same a = true :=
  Value.same_self a ha.namesOnce ha.noNaN

theorem Whole.same_comm (ha : a.Whole) (hb : b.Whole) : a.same b = b.same a :=
  Bool.eq_iff_iff.mpr
    ⟨same_symm a ha.namesOnce hb.namesOnce, same_symm b hb.namesOnce ha.namesOnce⟩

end DocumentStore.Value
