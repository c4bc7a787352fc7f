import DocumentStore.Proofs.Pipeline.Shares
import Mathlib.Algebra.BigOperators.Group.List.Basic
import Mathlib.Algebra.Order.BigOperators.Group.List
import Mathlib.Algebra.Order.Monoid.OrderDual
import Mathlib.Algebra.Order.Ring.Int
import Mathlib.Tactic.Push

/-!
# Sums of integers

The integers of a group are added in the order of its documents, and each partial sum is cut to
sixty-four bits. As long as no partial sum is cut off, the result is the sum of the integers. Once
one is, it depends on the order, unless there is nothing that could lead back from the bound: the
documents of a group have the same sum in every order exactly if its positive integers and the
others each add up to sixty-four bits, or the integers are all of one sign.
-/
namespace DocumentStore

def Value.integer? : Value → Option Int
  | .int32 n => some n.toInt
  | .int64 n => some n.toInt
  | _ => none

variable {m n start : Int} {ms ns : List Int}

theorem fitsInt64_iff : fitsInt64 n = true ↔ -0x8000000000000000 ≤ n ∧ n ≤ 0x7fffffffffffffff := by
  simp only [fitsInt64, Bool.and_eq_true, decide_eq_true_eq, Int64.toInt_minValue,
    Int64.toInt_maxValue]
  omega

theorem clampInt64_eq (n : Int) :
    clampInt64 n = max (-0x8000000000000000) (min n 0x7fffffffffffffff) := by
  simp only [clampInt64, Int64.toInt_minValue, Int64.toInt_maxValue]
  split <;> [skip; split] <;> omega

theorem integer?_ofInt (h : fitsInt64 n = true) : (Value.ofInt n).integer? = some n := by
  rw [fitsInt64_iff] at h
  unfold Value.ofInt
  split
  · next hfits =>
    simp only [fitsInt32, Bool.and_eq_true, decide_eq_true_eq, Int32.toInt_minValue,
      Int32.toInt_maxValue] at hfits
    rw [Value.integer?, Int32.toInt_ofInt_of_le hfits.1 (by omega)]
  · rw [Value.integer?, Int64.toInt_ofInt_of_le (by omega) (by omega)]

namespace Group

/-! ## Partial sums -/

/-- Adds integers one after the other and cuts each partial sum to sixty-four bits. -/
def cutSum (start : Int) (ns : List Int) : Int :=
  ns.foldl (fun sum n => clampInt64 (sum + n)) start

theorem cutSum_append (start : Int) (ms ns : List Int) :
    cutSum start (ms ++ ns) = cutSum (cutSum start ms) ns := List.foldl_append

theorem fitsInt64_clamp (n : Int) : fitsInt64 (clampInt64 n) = true := by
  rw [fitsInt64_iff, clampInt64_eq]
  omega

theorem clampInt64_of_fits (h : fitsInt64 n = true) : clampInt64 n = n := by
  rw [fitsInt64_iff] at h
  rw [clampInt64_eq]
  omega

theorem fitsInt64_cutSum (h : fitsInt64 start = true) (ns : List Int) :
    fitsInt64 (cutSum start ns) = true := by
  induction ns using List.reverseRecOn with
  | nil => exact h
  | append_singleton ns n ih =>
    rw [cutSum_append]
    exact fitsInt64_clamp _

/-- Where no partial sum is cut off, the sum is exact. -/
theorem cutSum_of_fits (h : ∀ k, fitsInt64 (start + (ns.take k).sum) = true) :
    cutSum start ns = start + ns.sum := by
  induction ns generalizing start with
  | nil => simp [cutSum]
  | cons n rest ih =>
    have hfirst : fitsInt64 (start + n) = true := by simpa using h 1
    have hrest : cutSum (start + n) rest = start + n + rest.sum := ih fun k => by
      simpa [Int.add_assoc] using h (k + 1)
    rw [cutSum, List.foldl_cons, clampInt64_of_fits hfirst, List.sum_cons, ← Int.add_assoc]
    exact hrest

/-- Whether integers are all of one sign. -/
def OneSign (ns : List Int) : Prop := (∀ n ∈ ns, 0 ≤ n) ∨ ∀ n ∈ ns, n ≤ 0

instance (ns : List Int) : Decidable (OneSign ns) := inferInstanceAs (Decidable (_ ∨ _))

/-- With one sign, partial sums that are cut off stay at the bound. -/
theorem cutSum_of_oneSign (hsign : OneSign ns) (hstart : fitsInt64 start = true) :
    cutSum start ns = clampInt64 (start + ns.sum) := by
  induction ns generalizing start with
  | nil => simp [cutSum, clampInt64_of_fits hstart]
  | cons n rest ih =>
    have hrest : OneSign rest :=
      hsign.imp (fun h => (List.forall_mem_cons.mp h).2) fun h => (List.forall_mem_cons.mp h).2
    have hbound : 0 ≤ n ∧ 0 ≤ rest.sum ∨ n ≤ 0 ∧ rest.sum ≤ 0 := by
      obtain h | h := hsign
      · obtain ⟨hn, hrest⟩ := List.forall_mem_cons.mp h
        exact .inl ⟨hn, List.sum_nonneg hrest⟩
      · obtain ⟨hn, hrest⟩ := List.forall_mem_cons.mp h
        exact .inr ⟨hn, List.sum_nonneg (M := Intᵒᵈ) hrest⟩
    have hnext := ih hrest (fitsInt64_clamp (start + n))
    rw [cutSum, List.foldl_cons, List.sum_cons]
    refine hnext.trans ?_
    rw [fitsInt64_iff] at hstart
    simp only [clampInt64_eq]
    omega

/-! ## Gains and losses -/

/-- The sum of the positive integers. -/
def gains (ns : List Int) : Int := (ns.filter (0 < ·)).sum

/-- The sum of the others. -/
def losses (ns : List Int) : Int := (ns.filter fun n => !decide (0 < n)).sum

/-- Whether integers can be added in any order: the positive ones and the others each add up to
sixty-four bits, or they are all of one sign. -/
def Steady (ns : List Int) : Prop :=
  fitsInt64 (gains ns) = true ∧ fitsInt64 (losses ns) = true ∨ OneSign ns

instance (ns : List Int) : Decidable (Steady ns) := inferInstanceAs (Decidable (_ ∨ _))

theorem Steady.perm (h : Steady ns) (hperm : ms.Perm ns) : Steady ms := by
  have hgains : gains ms = gains ns := (hperm.filter _).sum_eq
  have hlosses : losses ms = losses ns := (hperm.filter _).sum_eq
  simpa only [Steady, OneSign, hgains, hlosses, hperm.mem_iff] using h

theorem sum_take_bounds (ns : List Int) (k : Nat) :
    losses ns ≤ (ns.take k).sum ∧ (ns.take k).sum ≤ gains ns := by
  induction ns generalizing k with
  | nil => simp [losses, gains]
  | cons n rest ih =>
    simp only [losses, gains] at ih ⊢
    by_cases hn : 0 < n
    · cases k with
      | zero =>
        have hrest := ih 0
        simp [hn] at hrest ⊢
        omega
      | succ k =>
        have hrest := ih k
        simp [hn]
        omega
    · cases k with
      | zero =>
        have hrest := ih 0
        simp [hn] at hrest ⊢
        omega
      | succ k =>
        have hrest := ih k
        simp [hn]
        omega

theorem cutSum_of_steady (h : Steady ns) : cutSum 0 ns = clampInt64 ns.sum := by
  obtain ⟨hgains, hlosses⟩ | hsign := h
  · rw [fitsInt64_iff] at hgains hlosses
    have hfits (k : Nat) : fitsInt64 (0 + (ns.take k).sum) = true := by
      have hbounds := sum_take_bounds ns k
      rw [fitsInt64_iff]
      omega
    have hall := hfits ns.length
    rw [List.take_length] at hall
    rw [cutSum_of_fits hfits, ← clampInt64_of_fits hall, Int.zero_add]
  · rw [cutSum_of_oneSign hsign (by decide), Int.zero_add]

/-- If the positive integers have the same sum when they come first as when they come last, any
order will do. -/
theorem steady_of_cutSum
    (h : cutSum 0 (ns.filter (0 < ·) ++ ns.filter fun n => !decide (0 < n))
      = cutSum 0 ((ns.filter fun n => !decide (0 < n)) ++ ns.filter (0 < ·))) : Steady ns := by
  have hup : ∀ n ∈ ns.filter (0 < ·), 0 ≤ n := fun n hn =>
    (of_decide_eq_true (List.mem_filter.mp hn).2).le
  have hdown : ∀ n ∈ ns.filter fun n => !decide (0 < n), n ≤ 0 := fun n hn => by
    simpa using (List.mem_filter.mp hn).2
  have hzero : fitsInt64 0 = true := by decide
  rw [cutSum_append, cutSum_append, cutSum_of_oneSign (.inr hdown) (fitsInt64_cutSum hzero _),
    cutSum_of_oneSign (.inl hup) (fitsInt64_cutSum hzero _), cutSum_of_oneSign (.inl hup) hzero,
    cutSum_of_oneSign (.inr hdown) hzero] at h
  change clampInt64 (clampInt64 (0 + gains ns) + losses ns)
    = clampInt64 (clampInt64 (0 + losses ns) + gains ns) at h
  by_contra hsteady
  unfold Steady OneSign at hsteady
  push Not at hsteady
  obtain ⟨hfits, ⟨m, hm, hneg⟩, n, hn, hpos⟩ := hsteady
  have hgains : n ≤ gains ns :=
    List.single_le_sum hup n (List.mem_filter.mpr ⟨hn, decide_eq_true hpos⟩)
  have hlosses : losses ns ≤ m :=
    List.single_le_sum (M := Intᵒᵈ) hdown m (List.mem_filter.mpr ⟨hm, by simpa using hneg.le⟩)
  rw [fitsInt64_iff, Ne, fitsInt64_iff] at hfits
  simp only [clampInt64_eq] at h
  omega

/-! ## Integers of documents -/

variable {expression keyExpression : Value} {outputs : List Output} {ds members : List Document}
  {spec : Document}

/-- The integers among the values of an expression, in the order of the documents. -/
def integers (expression : Value) (ds : List Document) : List Int :=
  ds.filterMap fun d => (valueOf expression d).bind Value.integer?

def WithoutDoubles (expression : Value) (ds : List Document) : Prop :=
  ∀ d ∈ ds, ∀ x, valueOf expression d ≠ some (.double x)

theorem WithoutDoubles.perm (h : WithoutDoubles expression ds) (hperm : members.Perm ds) :
    WithoutDoubles expression members := fun d hd => h d (hperm.subset hd)

/-- A total of values without doubles is that of the integers among them. -/
theorem total_of_integers {vs : List Value} (h : ∀ x, .double x ∉ vs) (t : Total) :
    (vs.foldl Total.add t).hasDouble = t.hasDouble ∧
      (vs.foldl Total.add t).integers = cutSum t.integers (vs.filterMap Value.integer?) := by
  induction vs generalizing t with
  | nil => exact ⟨rfl, rfl⟩
  | cons v rest ih =>
    have hrest := ih (fun x hx => h x (List.mem_cons_of_mem v hx)) (t.add v)
    rw [List.foldl_cons]
    cases v with
    | double x => exact absurd List.mem_cons_self (h x)
    | _ => exact hrest

/-- Null is no integer. So it does not matter that it is left out before. -/
theorem integers_present (expression : Value) (ds : List Document) :
    (present (ds.map (valueOf expression))).filterMap Value.integer?
      = integers expression ds := by
  rw [present, List.filterMap_map, List.filterMap_filterMap]
  refine List.filterMap_congr fun d _ => ?_
  simp only [Function.comp_apply]
  cases valueOf expression d with
  | none => rfl
  | some v => cases v <;> rfl

/-- The sum of values without doubles is an integer. -/
theorem result_sum (h : WithoutDoubles expression ds) :
    Accumulator.sum.result (ds.map (valueOf expression))
      = .ofInt (cutSum 0 (integers expression ds)) := by
  have hpresent : ∀ x, .double x ∉ present (ds.map (valueOf expression)) := fun x hx => by
    obtain ⟨value?, hmem, hvalue⟩ := List.mem_filterMap.mp hx
    obtain ⟨d, hd, rfl⟩ := List.mem_map.mp hmem
    exact h d hd x (Option.filter_eq_some_iff.mp hvalue).1
  obtain ⟨hflag, hsum⟩ := total_of_integers hpresent {}
  rw [Accumulator.result, Total.sum, hflag, hsum, integers_present]
  rfl

/-! ## Reordering documents -/

/-- Documents with the wanted integers, and the others. -/
theorem integers_filter (expression : Value) (ds : List Document) (wanted : Int → Bool) :
    integers expression (ds.filter fun d =>
        ((valueOf expression d).bind Value.integer?).any wanted)
      = (integers expression ds).filter wanted ∧
    integers expression (ds.filter fun d =>
        !((valueOf expression d).bind Value.integer?).any wanted)
      = (integers expression ds).filter fun n => !wanted n := by
  unfold integers
  induction ds with
  | nil => exact ⟨rfl, rfl⟩
  | cons d rest ih =>
    obtain ⟨hwanted, hothers⟩ := ih
    cases hvalue : (valueOf expression d).bind Value.integer? with
    | none => simp [hvalue, hwanted, hothers]
    | some n => cases hn : wanted n <;> simp [hvalue, hn, hwanted, hothers]

/-- Documents have the same sum in every order exactly if their integers are steady. -/
theorem result_sum_reordered (h : WithoutDoubles expression ds) :
    (∀ others : List Document, others.Perm ds →
      Accumulator.sum.result (others.map (valueOf expression))
        = Accumulator.sum.result (ds.map (valueOf expression))) ↔
    Steady (integers expression ds) := by
  constructor
  · intro hall
    -- two of the orders are those with the positive integers first and last
    let positive (d : Document) : Bool :=
      ((valueOf expression d).bind Value.integer?).any (0 < ·)
    have hparted : (ds.filter positive ++ ds.filter (!positive ·)).Perm ds :=
      List.filter_append_perm positive ds
    have hfirst := hall _ hparted
    have hlast := hall _ (List.perm_append_comm.trans hparted)
    rw [← hlast, result_sum (h.perm hparted),
      result_sum (h.perm (List.perm_append_comm.trans hparted))] at hfirst
    have hsum := Option.some.inj <| (integer?_ofInt (fitsInt64_cutSum (by decide) _)).symm.trans <|
      (congrArg Value.integer? hfirst).trans (integer?_ofInt (fitsInt64_cutSum (by decide) _))
    obtain ⟨hpositive, hothers⟩ := integers_filter expression ds (0 < ·)
    refine steady_of_cutSum ?_
    rw [← hpositive, ← hothers]
    simpa only [integers, List.filterMap_append] using hsum
  · intro hsteady others hperm
    have hperm' : (integers expression others).Perm (integers expression ds) :=
      hperm.filterMap _
    rw [result_sum (h.perm hperm), result_sum h, cutSum_of_steady hsteady,
      cutSum_of_steady (hsteady.perm hperm'), hperm'.sum_eq]

/-! ## Sums of groups -/

/-- What the sum of a group is. -/
structure Sums (expression : Value) (members : List Document) (total : Value) : Prop where
  /-- The integers are added one after the other. -/
  cut : total = .ofInt (cutSum 0 (integers expression members))
  exact : (∀ k, fitsInt64 ((integers expression members).take k).sum = true) →
    total = .ofInt (integers expression members).sum
  clamped : Steady (integers expression members) →
    total = .ofInt (clampInt64 (integers expression members).sum)
  reordered : (∀ others : List Document, others.Perm members →
      Accumulator.sum.result (others.map (valueOf expression)) = total) ↔
    Steady (integers expression members)

theorem result_sums (h : WithoutDoubles expression members) :
    Sums expression members (Accumulator.sum.result (members.map (valueOf expression))) where
  cut := result_sum h
  exact hfits := by
    rw [result_sum h, cutSum_of_fits fun k => by rw [Int.zero_add]; exact hfits k, Int.zero_add]
  clamped hsteady := by rw [result_sum h, cutSum_of_steady hsteady]
  reordered := result_sum_reordered h

/-- What the group of a share is. -/
structure Summed (keyExpression : Value) (outputs : List Output) (share : Share)
    (group : Document) : Prop where
  keyed : share.Keyed keyExpression
  key : group.get? idField = some share.key
  sums : ∀ output ∈ outputs, output.accumulator = .sum →
    WithoutDoubles output.expression share.members →
    ∃ total, group.get? output.name = some total ∧ Sums output.expression share.members total

/-- Groups share out the documents, and a sum that meets no double is that of the integers of its
documents. -/
theorem integers_summed (hspec : spec.keys.Nodup) (hid : spec.get? idField = some keyExpression)
    (houtputs : readOutputs spec = .ok outputs) (hkey : Evaluates keyExpression ds)
    (hvalues : ∀ output ∈ outputs, Evaluates output.expression ds) :
    ((shares keyExpression ds).flatMap (·.members)).Perm ds ∧
    ∃ groups, Pipeline.run [StageKind.group.stage (.document spec)] ds = .ok groups ∧
      List.Forall₂ (Summed keyExpression outputs) (shares keyExpression ds) groups := by
  refine ⟨shares_perm keyExpression ds, _, run_group hspec hid houtputs hkey hvalues, ?_⟩
  refine List.forall₂_map_right_iff.mpr (List.forall₂_same.mpr fun share hshare => ?_)
  refine ⟨shares_keyed keyExpression ds share hshare, rfl, ?_⟩
  intro output houtput hsum hdoubles
  refine ⟨_, share.get?_document hspec houtputs houtput, ?_⟩
  rw [hsum]
  exact result_sums hdoubles

/-- Ages by team. A missing one and one that is no number are not added. -/
theorem integers_summed_people :
    let person (team : String) (fields : Document) : Document := ("team", .string team) :: fields
    let ds :=
      [person "math" [("age", .int32 36)], person "navy" [("age", .int64 79)], person "math" [],
       person "math" [("age", .string "old")], person "math" [("age", .int64 41)]]
    let team : Value := .string "$team"
    let spec : Document :=
      [(idField, team), ("age", .document [("$sum", .string "$age")])]
    let outputs : List Output := [⟨"age", .sum, .string "$age"⟩]
    spec.keys.Nodup ∧ spec.get? idField = some team ∧ readOutputs spec = .ok outputs ∧
      Evaluates team ds ∧ (∀ output ∈ outputs, Evaluates output.expression ds) ∧
      (∀ share ∈ shares team ds, WithoutDoubles (.string "$age") share.members) ∧
      ((shares team ds).flatMap (·.members)).Perm ds ∧
      ∃ groups, Pipeline.run [StageKind.group.stage (.document spec)] ds = .ok groups ∧
        List.Forall₂ (Summed team outputs) (shares team ds) groups := by
  intro person ds team spec outputs
  have hkey : Evaluates team ds := fun d _ => ⟨_, rfl⟩
  have hvalues : ∀ output ∈ outputs, Evaluates output.expression ds := by
    intro output houtput d _
    obtain rfl := List.mem_singleton.mp houtput
    exact ⟨_, rfl⟩
  have hdoubles : WithoutDoubles (.string "$age") ds := by
    intro d hd x
    simp only [ds, List.mem_cons, List.not_mem_nil, or_false] at hd
    obtain rfl | rfl | rfl | rfl | rfl := hd <;> nofun
  have hnames : spec.keys.Nodup := by decide
  obtain ⟨hperm, hgroups⟩ := integers_summed hnames rfl rfl hkey hvalues
  refine ⟨hnames, rfl, rfl, hkey, hvalues, fun share hshare d hd => ?_, hperm, hgroups⟩
  exact hdoubles d (hperm.subset (List.mem_flatMap.mpr ⟨share, hshare, hd⟩))

/-- The greatest integer, one and minus one. The sum would be the greatest integer, but it is one
less, unless the greatest integer is added last. -/
theorem sum_out_of_order :
    let greatest : Document := [(idField, .int32 1), ("n", .int64 0x7fffffffffffffff)]
    let up : Document := [(idField, .int32 2), ("n", .int32 1)]
    let down : Document := [(idField, .int32 3), ("n", .int32 (-1))]
    let stages :=
      [StageKind.group.stage (.document
        [(idField, .null), ("total", .document [("$sum", .string "$n")])])]
    let result (total : Int64) : Result (List Document) :=
      .ok [[(idField, .null), ("total", .int64 total)]]
    clampInt64 (integers (.string "$n") [greatest, up, down]).sum = 0x7fffffffffffffff ∧
      Pipeline.run stages [greatest, up, down] = result 0x7ffffffffffffffe ∧
      Pipeline.run stages [up, down, greatest] = result 0x7fffffffffffffff ∧
      ¬Steady (integers (.string "$n") [greatest, up, down]) := by
  intro greatest up down stages result
  exact ⟨rfl, rfl, rfl, by decide⟩

end Group

end DocumentStore
