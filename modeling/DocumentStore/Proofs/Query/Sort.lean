import DocumentStore.Proofs.Value.Order
import DocumentStore.Query.Sort
import Mathlib.Data.List.Induction

/-!
# Stable sorts

Elements are inserted one after the other, each behind those that it does not precede. With a total
preorder this puts no element behind one that it precedes, and those of which neither precedes the
other stay as they stood. The order of documents by keys is a total preorder if there is no NaN
among the values that they are sorted by.
-/
namespace DocumentStore.Sort

/-! ## Sorted lists -/

section Sorted

variable {α β : Type} {xs sorted : List α} {precedes ties precedes' ties' : α → α → Prop}

/-- Whether a list is another one in order: no element stands behind one that it precedes, and those
that tie stand as they stood. An element that occurs more than once is told apart by its place. -/
def Sorted (precedes ties : α → α → Prop) (xs sorted : List α) : Prop :=
  ∃ placed : List (α × Nat), placed.Perm xs.zipIdx ∧ placed.map Prod.fst = sorted ∧
    placed.Pairwise fun p q => ¬ precedes q.1 p.1 ∧ (ties p.1 q.1 → p.2 < q.2)

theorem Sorted.perm (h : Sorted precedes ties xs sorted) : sorted.Perm xs := by
  obtain ⟨placed, hperm, rfl, -⟩ := h
  have hfst := hperm.map Prod.fst
  rwa [List.zipIdx_map_fst] at hfst

theorem Sorted.pairwise (h : Sorted precedes ties xs sorted) :
    sorted.Pairwise fun a b => ¬ precedes b a := by
  obtain ⟨placed, -, rfl, hplaced⟩ := h
  exact List.pairwise_map.mpr (hplaced.imp fun hinplace => hinplace.1)

theorem Sorted.imp (h : Sorted precedes ties xs sorted)
    (hprecedes : ∀ a ∈ xs, ∀ b ∈ xs, precedes' a b → precedes a b)
    (hties : ∀ a ∈ xs, ∀ b ∈ xs, ties' a b → ties a b) : Sorted precedes' ties' xs sorted := by
  obtain ⟨placed, hperm, hsorted, hplaced⟩ := h
  have hmem {p : α × Nat} (hp : p ∈ placed) : p.1 ∈ xs :=
    List.fst_mem_of_mem_zipIdx (hperm.mem_iff.mp hp)
  refine ⟨placed, hperm, hsorted, hplaced.imp_of_mem fun {p q} hp hq hinplace => ?_⟩
  exact ⟨fun hbehind => hinplace.1 (hprecedes _ (hmem hq) _ (hmem hp) hbehind),
    fun htie => hinplace.2 (hties _ (hmem hp) _ (hmem hq) htie)⟩

/-! ## Insertion -/

variable {before before' : α → α → Bool}

theorem insertBehind_perm (before : α → α → Bool) (x : α) (l : List α) :
    (insertBehind before x l).Perm (x :: l) := by
  induction l with
  | nil => exact .refl _
  | cons y rest ih =>
    rw [insertBehind]
    split
    · exact (ih.cons y).trans (.swap x y rest)
    · exact .refl _

theorem insertBehind_congr {x : α} {l : List α} (h : ∀ y ∈ l, before x y = before' x y) :
    insertBehind before x l = insertBehind before' x l := by
  induction l with
  | nil => rfl
  | cons y rest ih =>
    rw [insertBehind, insertBehind, h y List.mem_cons_self,
      ih fun z hz => h z (List.mem_cons_of_mem y hz)]

theorem insertBehind_map (before : α → α → Bool) (f : β → α) (x : β) (l : List β) :
    (insertBehind (fun a b => before (f a) (f b)) x l).map f
      = insertBehind before (f x) (l.map f) := by
  induction l with
  | nil => rfl
  | cons y rest ih =>
    rw [List.map_cons, insertBehind, insertBehind, ← ih]
    split <;> rfl

theorem reverse_stable_concat (before : α → α → Bool) (xs : List α) (x : α) :
    (stable before (xs ++ [x])).reverse = insertBehind before x (stable before xs).reverse := by
  simp only [stable, List.foldl_append, List.foldl_cons, List.foldl_nil, List.reverse_reverse]

theorem stable_perm (before : α → α → Bool) (xs : List α) : (stable before xs).Perm xs := by
  induction xs using List.reverseRecOn with
  | nil => exact .refl _
  | append_singleton xs x ih =>
    refine (List.reverse_perm _).symm.trans ?_
    rw [reverse_stable_concat]
    calc
      (insertBehind before x (stable before xs).reverse).Perm (x :: (stable before xs).reverse) :=
        insertBehind_perm ..
      List.Perm _ (x :: xs) := ((List.reverse_perm _).trans ih).cons x
      List.Perm _ (xs ++ [x]) := (List.perm_append_singleton x xs).symm

theorem stable_congr (h : ∀ a ∈ xs, ∀ b ∈ xs, before a b = before' a b) :
    stable before xs = stable before' xs := by
  induction xs using List.reverseRecOn with
  | nil => rfl
  | append_singleton xs x ih =>
    have hinit {a : α} (ha : a ∈ xs) : a ∈ xs ++ [x] := List.mem_append_left _ ha
    have hlast : x ∈ xs ++ [x] := List.mem_append_right _ List.mem_cons_self
    refine List.reverse_inj.mp ?_
    rw [reverse_stable_concat, reverse_stable_concat,
      ← ih fun a ha b hb => h a (hinit ha) b (hinit hb)]
    refine insertBehind_congr fun y hy => h x hlast y (hinit ?_)
    exact (stable_perm before xs).mem_iff.mp (List.mem_reverse.mp hy)

theorem stable_map (before : α → α → Bool) (f : β → α) (xs : List β) :
    (stable (fun a b => before (f a) (f b)) xs).map f = stable before (xs.map f) := by
  induction xs using List.reverseRecOn with
  | nil => rfl
  | append_singleton xs x ih =>
    refine List.reverse_inj.mp ?_
    rw [← List.map_reverse, reverse_stable_concat, insertBehind_map, List.map_append, List.map_cons,
      List.map_nil, reverse_stable_concat, List.map_reverse, ih]

/-! ## Sorting by a total preorder -/

variable {cmp : α → α → Ordering} [Std.TransCmp cmp]

/-- Whether two elements, each with the place where it stood, may stand one behind the other. -/
def InPlace (cmp : α → α → Ordering) (p q : α × Nat) : Prop :=
  ¬ cmp q.1 p.1 = .lt ∧ (cmp p.1 q.1 = .eq → p.2 < q.2)

/-- An element that comes last is inserted in its place. -/
theorem insertBehind_inPlace {p : α × Nat} {l : List (α × Nat)}
    (hl : l.Pairwise fun q p => InPlace cmp p q) (hlast : ∀ q ∈ l, q.2 < p.2) :
    (insertBehind (fun p q => cmp p.1 q.1 == .lt) p l).Pairwise fun q p => InPlace cmp p q := by
  induction l with
  | nil => exact List.pairwise_singleton _ p
  | cons q rest ih =>
    obtain ⟨hq, hrest⟩ := List.pairwise_cons.mp hl
    rw [insertBehind]
    by_cases hcmp : cmp p.1 q.1 = .lt
    · rw [if_pos (beq_iff_eq.mpr hcmp)]
      refine List.pairwise_cons.mpr
        ⟨fun r hr => ?_, ih hrest fun r hr => hlast r (List.mem_cons_of_mem q hr)⟩
      obtain rfl | hr := List.mem_cons.mp ((insertBehind_perm _ p rest).mem_iff.mp hr)
      · exact ⟨Std.OrientedCmp.not_lt_of_lt hcmp, fun htie => by rw [htie] at hcmp; cases hcmp⟩
      · exact hq r hr
    · rw [if_neg (by simpa using hcmp)]
      refine List.pairwise_cons.mpr ⟨fun r hr => ⟨?_, fun _ => hlast r hr⟩, hl⟩
      obtain rfl | hr := List.mem_cons.mp hr
      · exact hcmp
      · -- what the last one does not precede stands behind all others
        rw [← Ordering.isGE_iff_ne_lt] at hcmp ⊢
        exact Std.TransCmp.isGE_trans hcmp (Ordering.isGE_iff_ne_lt.mpr (hq r hr).1)

theorem stable_inPlace (xs : List α) :
    (stable (fun p q : α × Nat => cmp p.1 q.1 == .lt) xs.zipIdx).Pairwise (InPlace cmp) := by
  rw [← List.reverse_reverse (stable _ _), List.pairwise_reverse]
  induction xs using List.reverseRecOn with
  | nil => exact .nil
  | append_singleton xs x ih =>
    rw [List.zipIdx_append, List.zipIdx_singleton, reverse_stable_concat]
    refine insertBehind_inPlace ih fun q hq => ?_
    have hmem := (stable_perm _ _).mem_iff.mp (List.mem_reverse.mp hq)
    exact List.snd_lt_add_of_mem_zipIdx hmem

/-- A list sorted by a total preorder is in its order. -/
theorem stable_sorted (cmp : α → α → Ordering) [Std.TransCmp cmp] (xs : List α) :
    Sorted (cmp · · = .lt) (cmp · · = .eq) xs (stable (fun a b => cmp a b == .lt) xs) := by
  refine ⟨stable (fun p q => cmp p.1 q.1 == .lt) xs.zipIdx, stable_perm .., ?_, stable_inPlace xs⟩
  rw [stable_map (fun a b => cmp a b == .lt) Prod.fst, List.zipIdx_map_fst]

end Sorted

/-! ## Directions -/

/-- Whether a direction turns the order of a key round: a number that is zero or less, and what
stands for no. -/
def Reversed (direction : Value) : Prop :=
  direction = .null ∨ direction = .boolean false ∨
    ∃ x, direction.number? = some x ∧ x.isNaN = false ∧ x.key ≤ 0

/-- An integer is above zero if its double is. -/
theorem pos_ofInt {n : Int} (hn : n.natAbs ≤ 0x8000000000000000) :
    n ≠ 0 ∧ 0 ≤ n ↔ ((Double.ofInt n).isNaN = false → 0 < (Double.ofInt n).key) := by
  rw [Double.key_ofInt_pos hn, Double.isNaN_ofInt hn]
  simp only [forall_const]
  omega

/-- A key is ascending if its direction does not turn it round. -/
theorem isAscending_iff (direction : Value) :
    isAscending direction = true ↔ ¬ Reversed direction := by
  cases direction with
  | boolean flag =>
    cases flag <;> simp [isAscending, Value.truthy, Value.isNegative, Reversed, Value.number?]
  | int32 n =>
    have hlow := n.le_toInt
    have hhigh := n.toInt_lt
    -- an integer tells its sign itself, but a direction is read as a double
    have hpos := pos_ofInt (n := n.toInt) (by omega)
    rw [← Int32.toInt_zero, Ne, Int32.toInt_inj] at hpos
    simpa [isAscending, Value.truthy, Value.isNegative, Reversed, Value.number?] using hpos
  | int64 n =>
    have hpos := pos_ofInt (Key.natAbs_toInt_le n)
    rw [← Int64.toInt_zero, Ne, Int64.toInt_inj] at hpos
    simpa [isAscending, Value.truthy, Value.isNegative, Reversed, Value.number?] using hpos
  | double x =>
    cases hnan : x.isNaN with
    | true => simp [isAscending, Value.truthy, Value.isNegative, Reversed, Value.number?, hnan]
    | false =>
      have hpos : x.isZero = false ∧ 0 ≤ x.key ↔ 0 < x.key := by
        rw [← Bool.not_eq_true, Double.isZero_iff]
        omega
      simpa [isAscending, Value.truthy, Value.isNegative, Reversed, Value.number?, hnan] using hpos
  | _ => simp [isAscending, Value.truthy, Value.isNegative, Reversed, Value.number?]

/-! ## Keys -/

section Keys

variable {sort : List (String × Value)} {a b : Document} {ds : List Document}

/-- Whether a key puts a document in front of another. -/
def Ahead (key : String × Value) (a b : Document) : Prop :=
  ¬ Reversed key.2 ∧ (keyValue a key.1).sortCompare (keyValue b key.1) = .lt ∨
    Reversed key.2 ∧ (keyValue b key.1).sortCompare (keyValue a key.1) = .lt

/-- Whether the values at a path do not tell two documents apart. -/
def Level (path : String) (a b : Document) : Prop :=
  (keyValue a path).sortCompare (keyValue b path) = .eq

instance (path : String) (a b : Document) : Decidable (Level path a b) :=
  inferInstanceAs (Decidable (_ = _))

/-- Whether the first key that tells two documents apart puts the first one in front. -/
def Precedes (sort : List (String × Value)) (a b : Document) : Prop :=
  ∃ before key after, sort = before ++ key :: after ∧
    (∀ earlier ∈ before, Level earlier.1 a b) ∧ Ahead key a b

/-- Whether no key tells two documents apart. -/
def Ties (sort : List (String × Value)) (a b : Document) : Prop := ∀ key ∈ sort, Level key.1 a b

/-- The order of two documents by one key. -/
def compareAt (key : String × Value) (a b : Document) : Ordering :=
  if isAscending key.2 then (keyValue a key.1).sortCompare (keyValue b key.1)
  else (keyValue b key.1).sortCompare (keyValue a key.1)

theorem compareBy_cons (key : String × Value) (rest : List (String × Value)) (a b : Document) :
    compareBy (key :: rest) a b = (compareAt key a b).then (compareBy rest a b) := rfl

theorem compareAt_eq_lt {key : String × Value} : compareAt key a b = .lt ↔ Ahead key a b := by
  have hdirection := isAscending_iff key.2
  unfold compareAt Ahead
  split
  · next h => simp only [hdirection.mp h, not_false_eq_true, true_and, false_and, or_false]
  · next h =>
    rw [hdirection, not_not] at h
    simp only [h, not_true_eq_false, true_and, false_and, false_or]

theorem compareAt_eq_eq {key : String × Value} : compareAt key a b = .eq ↔ Level key.1 a b := by
  unfold compareAt Level
  split
  · exact .rfl
  · rw [Value.sortCompare_swap, Ordering.swap_eq_eq]

theorem compareBy_eq_eq : compareBy sort a b = .eq ↔ Ties sort a b := by
  induction sort with
  | nil => simp [compareBy, Ties]
  | cons key rest ih =>
    rw [compareBy_cons, Ordering.then_eq_eq, compareAt_eq_eq, ih]
    simp only [Ties, List.forall_mem_cons]

theorem compareBy_eq_lt : compareBy sort a b = .lt ↔ Precedes sort a b := by
  induction sort with
  | nil => simp [compareBy, Precedes]
  | cons key rest ih =>
    rw [compareBy_cons, Ordering.then_eq_lt, compareAt_eq_lt, compareAt_eq_eq, ih]
    constructor
    · rintro (hahead | ⟨hlevel, before, next, after, rfl, hbefore, hahead⟩)
      · exact ⟨[], key, rest, rfl, nofun, hahead⟩
      · exact ⟨key :: before, next, after, rfl, List.forall_mem_cons.mpr ⟨hlevel, hbefore⟩, hahead⟩
    · rintro ⟨before, next, after, heq, hbefore, hahead⟩
      cases before with
      | nil =>
        cases heq
        exact .inl hahead
      | cons _ before =>
        cases heq
        obtain ⟨hlevel, hbefore⟩ := List.forall_mem_cons.mp hbefore
        exact .inr ⟨hlevel, before, next, after, rfl, hbefore, hahead⟩

/-- The order of documents by what the values at a path are compared by. -/
def settleOn (path : String) (a b : Document) : Ordering :=
  (keyValue a path).settle (keyValue b path)

/-- The order of documents by what the values of their keys are compared by. -/
def settleBy : List (String × Value) → Document → Document → Ordering
  | [] => fun _ _ => .eq
  | (path, direction) :: rest =>
    compareLex (if isAscending direction then settleOn path else fun a b => settleOn path b a)
      (settleBy rest)

instance (path : String) : Std.TransCmp (settleOn path) where
  eq_swap := by
    unfold settleOn
    exact Std.OrientedCmp.eq_swap
  isLE_trans := by
    unfold settleOn
    exact Std.TransCmp.isLE_trans

instance (sort : List (String × Value)) : Std.TransCmp (settleBy sort) := by
  induction sort with
  | nil => exact { eq_swap := rfl, isLE_trans := fun _ _ => rfl }
  | cons key rest ih =>
    rw [settleBy]
    split
    · infer_instance
    · have hturned : Std.TransCmp fun a b => settleOn key.1 b a := .opposite
      infer_instance

/-- Whether documents are sorted by values that are in order. -/
def Comparable (sort : List (String × Value)) (ds : List Document) : Prop :=
  ∀ d ∈ ds, ∀ key ∈ sort, (keyValue d key.1).isNaN = false

instance : Decidable (Comparable sort ds) :=
  inferInstanceAs (Decidable (∀ d ∈ ds, ∀ key ∈ sort, _))

theorem compareBy_eq_settleBy (ha : ∀ key ∈ sort, (keyValue a key.1).isNaN = false)
    (hb : ∀ key ∈ sort, (keyValue b key.1).isNaN = false) :
    compareBy sort a b = settleBy sort a b := by
  induction sort with
  | nil => rfl
  | cons key rest ih =>
    obtain ⟨ha, harest⟩ := List.forall_mem_cons.mp ha
    obtain ⟨hb, hbrest⟩ := List.forall_mem_cons.mp hb
    rw [compareBy, settleBy, ih harest hbrest, Value.sortCompare_eq_settle ha hb,
      Value.sortCompare_eq_settle hb ha]
    split <;> rfl

/-- Documents are sorted stably, in the lexicographic order of the keys. -/
theorem documents_sorted (h : Comparable sort ds) :
    Sorted (Precedes sort) (Ties sort) ds (documents sort ds) := by
  have hsettle (a : Document) (ha : a ∈ ds) (b : Document) (hb : b ∈ ds) :
      compareBy sort a b = settleBy sort a b := compareBy_eq_settleBy (h a ha) (h b hb)
  have hstable : documents sort ds = stable (fun a b => settleBy sort a b == .lt) ds :=
    stable_congr fun a ha b hb => by rw [hsettle a ha b hb]
  rw [hstable]
  -- nothing is sorted by a NaN, so the keys are a total preorder on these documents
  refine (stable_sorted (settleBy sort) ds).imp ?_ ?_
  · intro a ha b hb hprecedes
    rw [← hsettle a ha b hb]
    exact compareBy_eq_lt.mpr hprecedes
  · intro a ha b hb hties
    rw [← hsettle a ha b hb]
    exact compareBy_eq_eq.mpr hties

/-- People by city and, within a city, from old to young. Nobody knows where the last one lives, and
the first and the third are of the same age. -/
theorem documents_sorted_people :
    let person (id age : Value) (address : Document) : Document :=
      [(idField, id), ("age", age), ("address", .document address)]
    let ds :=
      [person (.int32 1) (.int32 40) [("city", .string "Rome")],
       person (.int32 2) (.string "old") [("city", .string "Rome")],
       person (.int32 3) (.double (.ofInt 40)) [("city", .string "Rome")],
       person (.int32 4) .null [("city", .string "Bonn")],
       person (.int32 5) (.int64 7) []]
    let sort : Document := [("address.city", .int32 1), ("age", .double (.ofInt (-1)))]
    Comparable sort ds ∧ Sorted (Precedes sort) (Ties sort) ds (documents sort ds) ∧
      (documents sort ds).map (Document.get? · idField)
        = [5, 4, 2, 1, 3].map (some <| .int32 ·) :=
  ⟨by decide, documents_sorted (by decide), rfl⟩

end Keys

end DocumentStore.Sort
