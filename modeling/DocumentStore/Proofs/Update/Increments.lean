import DocumentStore.Proofs.Path.Way
import DocumentStore.Proofs.Store.Unmoved
import DocumentStore.Proofs.Update.Entries
import Mathlib.Algebra.Ring.Int.Defs

/-!
# Sequences of increments

Integers have two widths, and a sum has the wider one of its terms. An increment is refused exactly
if the sum does not fit that width, and then nothing changes. So whatever increments are tried at a
path, one after the other, the integer there is the exact sum of those that were accepted, and it
never becomes narrow again.
-/
namespace DocumentStore

/-! ## Integers of two widths -/

/-- An integer as it is stored. -/
inductive Integer where
  | narrow (n : Int32)
  | wide (n : Int64)

namespace Integer

/-- The number that an integer is. -/
def toInt : Integer → Int
  | .narrow n => n.toInt
  | .wide n => n.toInt

def value : Integer → Value
  | .narrow n => .int32 n
  | .wide n => .int64 n

/-- Reads a stored integer. -/
def ofValue? : Value → Option Integer
  | .int32 n => some (.narrow n)
  | .int64 n => some (.wide n)
  | _ => none

def isWide : Integer → Bool
  | .narrow _ => false
  | .wide _ => true

/-- Whether a number fits a width. -/
def fits (wide : Bool) (n : Int) : Bool := if wide then fitsInt64 n else fitsInt32 n

/-- The integer of a width that is a number, if it fits. -/
def ofInt (wide : Bool) (n : Int) : Integer := if wide then .wide (.ofInt n) else .narrow (.ofInt n)

@[simp] theorem isWide_ofInt (wide : Bool) (n : Int) : (ofInt wide n).isWide = wide := by
  cases wide <;> rfl

theorem toInt_ofInt {wide : Bool} {n : Int} (h : fits wide n = true) :
    (ofInt wide n).toInt = n := by
  cases wide with
  | false =>
    simp only [fits, fitsInt32, Bool.false_eq_true, if_false, Bool.and_eq_true,
      decide_eq_true_eq] at h
    exact Int32.toInt_ofInt_of_le h.1 (Int.lt_of_le_of_lt h.2 (by decide))
  | true =>
    simp only [fits, fitsInt64, if_true, Bool.and_eq_true, decide_eq_true_eq] at h
    exact Int64.toInt_ofInt_of_le h.1 (Int.lt_of_le_of_lt h.2 (by decide))

theorem fits_toInt (n : Integer) : fits n.isWide n.toInt = true := by
  cases n with
  | narrow n =>
    change (decide (_ ≤ n.toInt) && decide (n.toInt ≤ _)) = true
    rw [Bool.and_eq_true, decide_eq_true_eq, decide_eq_true_eq]
    exact ⟨n.le_toInt, Int.le_of_lt_add_one n.toInt_lt⟩
  | wide n =>
    change (decide (_ ≤ n.toInt) && decide (n.toInt ≤ _)) = true
    rw [Bool.and_eq_true, decide_eq_true_eq, decide_eq_true_eq]
    exact ⟨n.le_toInt, Int.le_of_lt_add_one n.toInt_lt⟩

theorem ofValue?_value (n : Integer) : ofValue? n.value = some n := by cases n <;> rfl

theorem value_of_ofValue? {v : Value} {n : Integer} (h : ofValue? v = some n) : v = n.value := by
  cases v with
  | int32 | int64 =>
    cases h
    rfl
  | _ => cases h

/-- The sum of two integers in the wider of their widths, if it fits. -/
def add? (a b : Integer) : Option Integer :=
  if fits (a.isWide || b.isWide) (a.toInt + b.toInt)
  then some (ofInt (a.isWide || b.isWide) (a.toInt + b.toInt)) else none

theorem add?_eq_some {a b n : Integer} (h : a.add? b = some n) :
    n.toInt = a.toInt + b.toInt ∧ n.isWide = (a.isWide || b.isWide) := by
  unfold add? at h
  split at h
  · next hfits =>
    cases h
    exact ⟨toInt_ofInt hfits, isWide_ofInt ..⟩
  · cases h

theorem add?_eq_none {a b : Integer} :
    a.add? b = none ↔ fits (a.isWide || b.isWide) (a.toInt + b.toInt) = false := by
  unfold add?
  cases fits (a.isWide || b.isWide) (a.toInt + b.toInt) <;> simp

theorem zero_add?_ne_none (n : Integer) : (narrow 0).add? n ≠ none := by
  rw [Ne, add?_eq_none]
  change fits (false || n.isWide) (0 + n.toInt) ≠ false
  rw [Bool.false_or, Int.zero_add, fits_toInt]
  decide

/-- Updates add integers so. -/
theorem sum?_value (a b : Integer) : Update.sum? a.value b.value = (a.add? b).map value := by
  have hsum : Update.sum? a.value b.value =
      if fits (a.isWide || b.isWide) (a.toInt + b.toInt)
      then some (ofInt (a.isWide || b.isWide) (a.toInt + b.toInt)).value else none := by
    cases a <;> cases b <;> rfl
  rw [hsum, add?]
  split <;> rfl

end Integer

namespace Update

variable {d d' : Document} {path : String} {start held amount : Integer}

/-! ## One increment -/

/-- The integer at a path. Where there is nothing, it is a narrow zero. -/
def integerAt (d : Document) (path : String) : Option Integer :=
  match Path.lookup d path with
  | none => some (.narrow 0)
  | some value => Integer.ofValue? value

theorem lookup_of_integerAt (h : integerAt d path = some held)
    (hthere : Path.lookup d path ≠ none) : Path.lookup d path = some held.value := by
  rw [integerAt] at h
  split at h
  · next hmissing => exact absurd hmissing hthere
  · next value hlookup => rw [hlookup, Integer.value_of_ofValue? h]

/-- The update that adds an amount at a path. -/
def addition (path : String) (amount : Integer) : Document :=
  Document.single "$inc" (.document (Document.single path amount.value))

theorem apply_addition (hpath : path ≠ idField) (d : Document) (amount : Integer) :
    apply d (addition path amount) = increment d path amount.value := by
  rw [addition, apply_single_single rfl]
  simp [applyAt, hpath]

/-- Whether a path leads through documents to an integer, or to nothing. -/
structure Counts (d : Document) (path : String) (held : Integer) : Prop where
  way : ∀ value, Path.OnWay d path value → value.type = .document
  integer : integerAt d path = some held

theorem Counts.field (h : Counts d path held) :
    (Path.field d path).getD (.int32 0) = held.value := by
  have hlookup : Path.lookup d path = Path.field d path :=
    Path.lookup_eq_field fun value hvalue => by rw [h.way value hvalue]; decide
  have hinteger := h.integer
  rw [integerAt, hlookup] at hinteger
  cases hfield : Path.field d path with
  | none =>
    rw [hfield] at hinteger
    cases hinteger
    rfl
  | some value =>
    rw [hfield] at hinteger
    exact Integer.value_of_ofValue? hinteger

/-- What was written through documents is the integer at the path. -/
theorem counts_of_set (n : Integer) (h : Path.set d path n.value = .ok d') :
    Counts d' path n ∧ Path.lookup d' path = some n.value := by
  have hfield := Path.field_set h
  have hway (value : Value) (hvalue : Path.OnWay d' path value) : value.type = .document :=
    Path.type_of_onWay hfield hvalue
  have hlookup : Path.lookup d' path = some n.value := by
    rw [Path.lookup_eq_field fun value hvalue => by rw [hway value hvalue]; decide, hfield]
  refine ⟨⟨hway, ?_⟩, hlookup⟩
  rw [integerAt, hlookup]
  exact n.ofValue?_value

/-- An increment adds the amount as integers are added. -/
theorem Counts.apply_eq (hpath : path ≠ idField) (h : Counts d path held) (amount : Integer) :
    apply d (addition path amount) = match held.add? amount with
      | some n => Path.set d path n.value
      | none => .error (.invalidQuery (.notANumber path)) := by
  rw [apply_addition hpath, increment, h.field, Integer.sum?_value]
  cases held.add? amount <;> rfl

theorem Counts.apply_of_some {n : Integer} (hpath : path ≠ idField) (h : Counts d path held)
    (hsum : held.add? amount = some n) : ∃ d', apply d (addition path amount) = .ok d' ∧
      Counts d' path n ∧ Path.lookup d' path = some n.value := by
  obtain ⟨d', hset⟩ := Path.exists_set_of_onWay n.value h.way
  refine ⟨d', ?_, counts_of_set n hset⟩
  rw [h.apply_eq hpath, hsum]
  exact hset

theorem Counts.apply_of_none (hpath : path ≠ idField) (h : Counts d path held)
    (hsum : held.add? amount = none) :
    apply d (addition path amount) = .error (.invalidQuery (.notANumber path)) := by
  rw [h.apply_eq hpath, hsum]

/-! ## Increments one after the other -/

/-- A document after an increment that is made only if it succeeds. -/
def attempt (path : String) (d : Document) (amount : Integer) : Document :=
  match apply d (addition path amount) with
  | .ok d' => d'
  | .error _ => d

/-- A document after some increments, each made only if it succeeds. -/
def attempts (path : String) (d : Document) (amounts : List Integer) : Document :=
  amounts.foldl (attempt path) d

/-- The amounts of the increments that succeed. -/
def accepted (path : String) : Document → List Integer → List Integer
  | _, [] => []
  | d, amount :: rest =>
    match apply d (addition path amount) with
    | .ok d' => amount :: accepted path d' rest
    | .error _ => accepted path d rest

theorem attempts_append (path : String) (d : Document) (amounts more : List Integer) :
    attempts path d (amounts ++ more) = attempts path (attempts path d amounts) more :=
  List.foldl_append

theorem accepted_append (path : String) (d : Document) (amounts more : List Integer) :
    accepted path d (amounts ++ more)
      = accepted path d amounts ++ accepted path (attempts path d amounts) more := by
  induction amounts generalizing d with
  | nil => rfl
  | cons amount rest ih =>
    rw [List.cons_append, accepted, accepted, attempts, List.foldl_cons, attempt]
    cases apply d (addition path amount) with
    | ok d' => exact congrArg (amount :: ·) (ih d')
    | error e => exact ih d

/-- The number that some amounts add up to. -/
def total (amounts : List Integer) : Int := (amounts.map Integer.toInt).sum

/-- After an increment that is tried, the integer at the path has grown by the amount if it was
accepted, and it has not become narrow. -/
theorem Counts.attempt (hpath : path ≠ idField) (h : Counts d path held) (amount : Integer) :
    ∃ n, Counts (attempt path d amount) path n ∧
      n.toInt = held.toInt + total (accepted path d [amount]) ∧
      (held.isWide = true → n.isWide = true) := by
  unfold Update.attempt accepted accepted
  cases hsum : held.add? amount with
  | none =>
    rw [h.apply_of_none hpath hsum]
    exact ⟨held, h, by simp [total], id⟩
  | some n =>
    obtain ⟨d', happly, hcounts, -⟩ := h.apply_of_some hpath hsum
    obtain ⟨hint, hwide⟩ := Integer.add?_eq_some hsum
    rw [happly]
    refine ⟨n, hcounts, by simp [total, hint], fun hheld => ?_⟩
    rw [hwide, hheld, Bool.true_or]

/-- So do several increments. -/
theorem Counts.attempts (hpath : path ≠ idField) (h : Counts d path held)
    (amounts : List Integer) :
    ∃ n, Counts (attempts path d amounts) path n ∧
      n.toInt = held.toInt + total (accepted path d amounts) ∧
      (held.isWide = true → n.isWide = true) := by
  induction amounts using List.reverseRecOn with
  | nil => exact ⟨held, h, by simp [total, accepted], id⟩
  | append_singleton amounts amount ih =>
    obtain ⟨n, hcounts, htotal, hwide⟩ := ih
    obtain ⟨n', hcounts', htotal', hwide'⟩ := hcounts.attempt hpath amount
    rw [attempts_append, accepted_append]
    refine ⟨n', hcounts', ?_, hwide' ∘ hwide⟩
    rw [htotal', htotal, total, total, total, List.map_append, List.sum_append, Int.add_assoc]

/-- An increment leaves an integer at the path, since where there was nothing it is accepted. -/
theorem Counts.lookup_attempt (hpath : path ≠ idField) (h : Counts d path held)
    (amount : Integer) : Path.lookup (Update.attempt path d amount) path ≠ none := by
  unfold Update.attempt
  cases hsum : held.add? amount with
  | some n =>
    obtain ⟨d', happly, -, hlookup⟩ := h.apply_of_some hpath hsum
    simp [happly, hlookup]
  | none =>
    rw [h.apply_of_none hpath hsum]
    intro hmissing
    have hzero : some (Integer.narrow 0) = some held := by
      rw [← h.integer, integerAt, show Path.lookup d path = none from hmissing]
    cases hzero
    exact Integer.zero_add?_ne_none amount hsum

/-- Increments are exact. Whatever amounts are added at a path, each only if that succeeds, the
integer there is the one from the beginning, or zero, with the amounts that were accepted. One more
is refused exactly if the sum does not fit the wider of the two widths, which leaves the document as
it is, and a store that is called with it as well. A wide integer stays wide. -/
theorem increments_exact (hpath : path ≠ idField)
    (hway : ∀ value, Path.OnWay d path value → value.type = .document)
    (hstart : integerAt d path = some start) (amounts : List Integer) :
    let after := attempts path d amounts
    ∃ held, integerAt after path = some held ∧
      held.toInt = start.toInt + total (accepted path d amounts) ∧
      (amounts ≠ [] → Path.lookup after path = some held.value) ∧
      (∀ amount : Integer, (∃ e, apply after (addition path amount) = .error e) ↔
        Integer.fits (held.isWide || amount.isWide) (held.toInt + amount.toInt) = false) ∧
      (∀ amount e, apply after (addition path amount) = .error e →
        attempts path d (amounts ++ [amount]) = after) ∧
      (∀ (amount : Integer) (s : Store) (session : Option SessionId) (fresh : Nat → ObjectId)
        (name : String) (filter : Document) (many : Bool) (e : ServiceError),
        (s.answer session fresh (.update name filter (addition path amount) many)).1 = .error e →
          (s.answer session fresh (.update name filter (addition path amount) many)).2 = s) ∧
      (held.isWide = true → ∀ more, ∃ later,
        integerAt (attempts path d (amounts ++ more)) path = some later ∧ later.isWide = true) := by
  intro after
  obtain ⟨held, hheld, htotal, -⟩ := Counts.attempts hpath ⟨hway, hstart⟩ amounts
  refine ⟨held, hheld.integer, htotal, fun hne => ?_, fun amount => ?_, fun amount e he => ?_,
    fun amount s session fresh name filter many e => ?_, fun hwide more => ?_⟩
  -- the last of the amounts has left an integer at the path, accepted or not
  · obtain ⟨before, last, rfl⟩ := (List.eq_nil_or_concat' amounts).resolve_left hne
    obtain ⟨n, hbefore, -⟩ := Counts.attempts hpath ⟨hway, hstart⟩ before
    refine lookup_of_integerAt hheld.integer ?_
    simp only [after, attempts_append]
    exact hbefore.lookup_attempt hpath last
  · rw [← Integer.add?_eq_none]
    cases hsum : held.add? amount with
    | none => simp [after, hheld.apply_of_none hpath hsum]
    | some n =>
      obtain ⟨d', happly, -⟩ := hheld.apply_of_some hpath hsum
      simp [after, happly]
  · rw [attempts_append]
    change attempt path after amount = after
    rw [attempt, he]
  · exact Store.write_of_allOrNothing_of_error (Collections.allOrNothing_update _ _ _ _)
  · obtain ⟨later, hlater, -, hwide'⟩ := hheld.attempts hpath more
    refine ⟨later, ?_, hwide' hwide⟩
    rw [attempts_append]
    exact hlater.integer

/-- A document that counts its views, up to the limit of a narrow integer. -/
def viewed : Document :=
  [(idField, .int32 1), ("stats", .document [("views", .int32 2147483647)])]

/-- Another narrow view is refused, a wide one is not, and after that there is room. -/
theorem increments_exact_viewed :
    let amounts : List Integer := [.narrow 1, .wide 1, .narrow 5]
    let after := attempts "stats.views" viewed amounts
    "stats.views" ≠ idField ∧
      (∀ value, Path.OnWay viewed "stats.views" value → value.type = .document) ∧
      integerAt viewed "stats.views" = some (.narrow 2147483647) ∧
      accepted "stats.views" viewed amounts = [.wide 1, .narrow 5] ∧
      after = [(idField, .int32 1), ("stats", .document [("views", .int64 2147483653)])] ∧
      ∃ held, integerAt after "stats.views" = some held ∧
        held.toInt = 2147483647 + total (accepted "stats.views" viewed amounts) := by
  intro amounts after
  have hpath : "stats.views" ≠ idField := by decide
  have hway (value : Value) (h : Path.OnWay viewed "stats.views" value) :
      value.type = .document := by
    obtain ⟨held, hheld, rfl | hinside⟩ := Path.onWayIn_cons.mp h
    · cases hheld
      rfl
    · exact absurd hinside Path.not_onWayIn_single
  have hstart : integerAt viewed "stats.views" = some (.narrow 2147483647) := rfl
  obtain ⟨held, hheld, htotal, -⟩ := increments_exact hpath hway hstart amounts
  exact ⟨hpath, hway, hstart, rfl, rfl, held, hheld, htotal⟩

end Update

end DocumentStore
