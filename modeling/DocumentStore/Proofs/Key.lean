import DocumentStore.Proofs.Double
import DocumentStore.Proofs.Filter.References

/-!
# Keys in filters

Filters find the documents of a key by an equality of their own, under which integers count as
doubles. So a filter for a key finds the documents of that key, and those of another key only
if both are integers with the same double.
-/
namespace DocumentStore

namespace Key

variable {k l : Key} {d : Document}

/-! ## What filters see of keys -/

/-- What filters see of a key. -/
def seen : Key → Key ⊕ Int
  | .integer n => .inr (Double.ofInt n.toInt).key
  | key => .inl key

theorem natAbs_toInt_le (n : Int64) : n.toInt.natAbs ≤ 0x8000000000000000 := by
  have hlow := n.le_toInt
  have hhigh := n.toInt_lt
  omega

theorem alike_toValue (k l : Key) : k.toValue.alike l.toValue = decide (k.seen = l.seen) := by
  rw [Bool.eq_iff_iff, decide_eq_true_iff]
  cases k with
  | objectId id => cases l <;> simp [toValue, Value.alike, Value.alikeScalar, Value.number?, seen]
  | string text => cases l <;> simp [toValue, Value.alike, Value.alikeScalar, Value.number?, seen]
  | uuid id =>
    cases l with
    | uuid other =>
      have hsame : id.bytes = other.bytes ↔ id = other := by
        cases id
        cases other
        simp
      simp [toValue, Value.alike, Value.alikeScalar, seen, hsame]
    | _ => simp [toValue, Value.alike, Value.alikeScalar, Value.number?, seen]
  | integer n =>
    cases l with
    | integer m =>
      have hequals := Double.equals_ofInt (natAbs_toInt_le n) (natAbs_toInt_le m)
      simp [toValue, Value.alike, Value.alikeScalar, Value.number?, seen, hequals]
    | _ => simp [toValue, Value.alike, Value.alikeScalar, Value.number?, seen]

/-- The value of a key is compared as a whole, since it is no array. -/
theorem equals_toValue (k l : Key) :
    Filter.equals (some k.toValue) l.toValue = decide (k.seen = l.seen) := by
  rw [← alike_toValue]
  cases k <;> simp [Filter.equals, toValue]

/-- A value that is read as a key is seen as the key. -/
theorem equals_of_ofValue {kind : KeyKind} {value : Value} (h : ofValue kind value = .ok k)
    (l : Key) : Filter.equals (some value) l.toValue = decide (k.seen = l.seen) := by
  rw [← equals_toValue]
  unfold ofValue at h
  split at h
  · cases h
    rfl
  · cases h
    rfl
  · cases h
    rfl
  · rename_i n
    cases h
    -- a narrow integer is the same number
    have hwide : n.toInt64.toInt = n.toInt := Int32.toInt_toInt64 n
    cases l <;> simp [Filter.equals, toValue, Value.alike, Value.alikeScalar, Value.number?, hwide]
  · split at h
    · split at h
      · rename_i hsubtype
        cases h
        rw [hsubtype]
        rfl
      · cases h
    · cases h
  · cases h

/-! ## What filters find -/

def finds (k : Key) (d : Document) : Bool := Filter.equals (Document.get? d idField) k.toValue

theorem finds_of_id (h : Document.get? d idField = some l.toValue) (k : Key) :
    k.finds d = decide (l.seen = k.seen) := by
  unfold finds
  rw [h, equals_toValue]

theorem evaluate_filter [Pattern.Engine] (k : Key) (d : Document) :
    Filter.evaluate d k.filter = .ok (k.finds d) := by
  unfold filter
  rw [Filter.plain_id.evaluate]
  cases k <;> rfl

/-- No patterns are among keys, so each of them is only compared. -/
theorem isMember_toValues [Pattern.Engine] (value? : Option Value) (keys : List Key) :
    Filter.isMember value? (keys.map toValue)
      = .ok (keys.any fun k => Filter.equals value? k.toValue) := by
  induction keys with
  | nil => rfl
  | cons k rest ih =>
    have hfirst : Filter.isMember value? ((k :: rest).map toValue) = (do
        let matched ← Except.ok (Filter.equals value? k.toValue)
        if matched then return true else Filter.isMember value? (rest.map toValue)) := by
      cases k <;> rfl
    rw [hfirst, ih, List.any_cons]
    cases Filter.equals value? k.toValue <;> rfl

theorem evaluate_filterAll [Pattern.Engine] (keys : List Key) (d : Document) :
    Filter.evaluate d (filterAll keys) = .ok (keys.any (·.finds d)) := by
  unfold filterAll filterIn toValues
  rw [Filter.plain_id.evaluate, Filter.meets_isIn, isMember_toValues]
  rfl

/-! ## Keys that filters tell apart -/

/-- Whether two keys are different, and no two integers that are equal as doubles. -/
structure Apart (k l : Key) : Prop where
  ne : k ≠ l
  doubles : ∀ m n, k = .integer m → l = .integer n →
    (Double.ofInt m.toInt).equals (Double.ofInt n.toInt) = false

theorem Apart.seen_ne (h : k.Apart l) : l.seen ≠ k.seen := by
  intro hseen
  cases k with
  | integer m =>
    cases l with
    | integer n =>
      have hequals := h.doubles m n rfl rfl
      rw [Double.equals_ofInt (natAbs_toInt_le m) (natAbs_toInt_le n)] at hequals
      have hkey : (Double.ofInt n.toInt).key = (Double.ofInt m.toInt).key := Sum.inr.inj hseen
      simp [hkey] at hequals
    | _ => cases hseen
  | _ =>
    cases l with
    | integer n => cases hseen
    | _ => exact h.ne (Sum.inl.inj hseen).symm

/-- The filters for a key do not find the documents of a key that is told apart from it. -/
theorem Apart.finds_eq_false (h : k.Apart l)
    (hd : Document.get? d idField = some l.toValue) : k.finds d = false := by
  rw [finds_of_id hd]
  exact decide_eq_false h.seen_ne

/-- Integers up to 2⁵³ are told apart. -/
theorem apart_integer {m n : Int64} (h : m ≠ n) (hm : m.toInt.natAbs ≤ 0x20000000000000)
    (hn : n.toInt.natAbs ≤ 0x20000000000000) : Apart (.integer m) (.integer n) := by
  refine ⟨fun heq => h (Key.integer.inj heq), ?_⟩
  rintro _ _ ⟨⟩ ⟨⟩
  rw [Double.equals_ofInt (natAbs_toInt_le m) (natAbs_toInt_le n)]
  simp only [beq_eq_false_iff_ne]
  exact fun hkey => h (Int64.toInt.inj (Double.key_ofInt_injective hm hn hkey))

end Key

end DocumentStore
