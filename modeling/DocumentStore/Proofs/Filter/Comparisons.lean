import DocumentStore.Proofs.Filter.Meaning

/-!
# Comparisons that stand for others

Some comparisons of a field abbreviate others: membership in a list stands for equality with one of
its elements, a bound that is included for the bound itself or what lies beyond, and inequality for
the lack of equality. The operators behind them are evaluated apart, each with rules of its own
about missing values, arrays, null and regular expressions, so the abbreviations hold only as far as
these rules agree. They agree but for one: equality with a regular expression is a search, while
inequality with it is not the lack of a match.
-/
namespace DocumentStore

/-! ## Equality and order of values -/

/-- Equal doubles are the ones that come out as equal when they are put in order. -/
theorem Double.equals_eq_compare? (x y : Double) :
    x.equals y = (x.compare? y == some .eq) := by
  unfold equals compare?
  rw [Bool.eq_iff_iff]
  cases x.isNaN <;> cases y.isNaN <;> simp

theorem beq_eq_compare {α : Type} [BEq α] [LawfulBEq α] [Ord α] [Std.LawfulEqOrd α] (a b : α) :
    (a == b) = (some (compare a b) == some .eq) := by
  rw [Bool.eq_iff_iff]
  simp

namespace Value

/-- Whether a value is compared as it stands. Null is not, which a missing field equals, nor arrays
and documents, which have no order, nor regular expressions, which are searched for. -/
def isAtomic : Value → Bool
  | .null | .array _ | .document _ | .regex _ _ => false
  | _ => true

variable {target : Value}

/-- Equality of filters is that of their order. Types without an order equal nothing. -/
theorem alike_eq_compare? (h : target.isAtomic) (value : Value) :
    value.alike target = (value.compare? target == some .eq) := by
  cases target with
  | null => cases h
  | array items => cases h
  | document fields => cases h
  | regex pattern options => cases h
  | boolean b =>
    cases value with
    | boolean a => exact beq_eq_compare a b
    | _ => rfl
  | string b =>
    cases value with
    | string a => exact beq_eq_compare a b
    | _ => rfl
  | binary _ b =>
    cases value with
    | binary _ a => exact beq_eq_compare a b
    | _ => rfl
  | dateTime b =>
    cases value with
    | dateTime a =>
      have hmillis : (a == b) = (a.toInt == b.toInt) := by
        rw [Bool.eq_iff_iff]
        simp only [beq_iff_eq, Int64.toInt_inj]
      exact hmillis.trans (beq_eq_compare a.toInt b.toInt)
    | _ => rfl
  | objectId b =>
    cases value with
    | objectId a =>
      have hnumber : (a == b) = (a.number.toNat == b.number.toNat) := by
        rw [Bool.eq_iff_iff]
        cases a
        cases b
        simp only [beq_iff_eq, BitVec.toNat_inj, ObjectId.mk.injEq]
      exact hnumber.trans (beq_eq_compare a.number.toNat b.number.toNat)
    | _ => rfl
  -- numbers of all widths are compared as doubles
  | int32 n | int64 n | double y =>
    cases value with
    | int32 m | int64 m | double x => exact Double.equals_eq_compare? _ _
    | _ => rfl
  | _ => cases value <;> rfl

/-- Nothing equals a regular expression, not even itself. -/
theorem alike_regex (value : Value) (pattern options : String) :
    value.alike (.regex pattern options) = false := by
  cases value <;> rfl

theorem type_ne_regex (h : target.isAtomic) : target.type ≠ .regex := by
  cases target with
  | regex pattern options => cases h
  | _ => nofun

end Value

/-! ## Conditions on what a field holds -/

namespace Filter

variable (value? : Option Value) {target : Value}

theorem anyValue_or (p q : Value → Bool) :
    anyValue value? (fun value => p value || q value)
      = (anyValue value? p || anyValue value? q) := by
  have hany (items : List Value) :
      items.any (fun item => p item || q item) = (items.any p || items.any q) := by
    induction items with
    | nil => rfl
    | cons item rest ih =>
      rw [List.any_cons, List.any_cons, List.any_cons, ih]
      ac_rfl
  cases value? with
  | none => rfl
  | some value =>
    cases value with
    | array items => exact hany items
    | _ => rfl

/-- Equality with a value that is compared as it stands looks at the elements of an array only: the
array itself is of another type. -/
theorem equals_eq_anyValue (h : target.isAtomic) :
    equals value? target = anyValue value? (·.alike target) := by
  cases value? with
  | none =>
    cases target with
    | null => cases h
    | _ => rfl
  | some value =>
    cases value with
    | array items =>
      have harray : Value.alike (.array items) target = false := by
        rw [Value.alike_eq_compare? h]
        cases target <;> rfl
      simp only [equals, anyValue, harray, Bool.false_or]
    | _ => simp only [equals, anyValue, Bool.or_false]

theorem equals_regex (pattern options : String) :
    equals value? (.regex pattern options) = false := by
  cases value? with
  | none => rfl
  | some value => cases value <;> simp [equals, Value.alike_regex]

/-- Whether the order is one of two is asked for each of them apart, though elements of an array may
differ in what they meet. -/
theorem compares_or (target : Value) (accept accept' : Ordering → Bool) :
    compares value? target (fun order => accept order || accept' order)
      = (compares value? target accept || compares value? target accept') := by
  unfold compares
  rw [← anyValue_or]
  congr
  funext value
  cases value.compare? target <;> rfl

theorem equals_eq_compares (h : target.isAtomic) :
    equals value? target = compares value? target (· == .eq) := by
  rw [equals_eq_anyValue value? h]
  unfold compares
  congr
  funext value
  rw [Value.alike_eq_compare? h]
  cases value.compare? target <;> rfl

/-- An order that also accepts equals. -/
theorem compares_or_equals (h : target.isAtomic) {accept accept' : Ordering → Bool}
    (haccept : ∀ order, accept' order = (accept order || order == .eq)) :
    compares value? target accept' = (compares value? target accept || equals value? target) := by
  rw [equals_eq_compares value? h, ← compares_or]
  exact congrArg _ (funext haccept)

end Filter

/-! ## Tests that agree -/

namespace Comparison

variable [Pattern.Engine] (value? : Option Value) {operand : Value}

theorem test_eq (h : operand.type ≠ .regex) :
    eq.test value? operand = .ok (Filter.equals value? operand) := by
  cases operand with
  | regex pattern options => exact absurd rfl h
  | _ => rfl

/-- A lower bound that is included. -/
theorem test_gte (h : operand.isAtomic) :
    gte.test value? operand = Verdict.or (gt.test value? operand) (eq.test value? operand) := by
  rw [test_eq value? (Value.type_ne_regex h)]
  simp only [test, Verdict.or_ok]
  exact congrArg _ (Filter.compares_or_equals value? h fun order => by cases order <;> rfl)

/-- An upper bound that is included. -/
theorem test_lte (h : operand.isAtomic) :
    lte.test value? operand = Verdict.or (lt.test value? operand) (eq.test value? operand) := by
  rw [test_eq value? (Value.type_ne_regex h)]
  simp only [test, Verdict.or_ok]
  exact congrArg _ (Filter.compares_or_equals value? h fun order => by cases order <;> rfl)

/-- Membership asks for the elements of a list in order, each as equality does. -/
theorem isMember_cons (target : Value) (rest : List Value) :
    Filter.isMember value? (target :: rest)
      = Verdict.or (eq.test value? target) (Filter.isMember value? rest) := by
  cases target <;> rfl

end Comparison

/-! ## Comparisons of a field -/

namespace Field

variable {field : Field} {allowNull : Bool}

/-- Whether null is accepted makes no difference to values that are compared as they stand. -/
theorem accepts_of_isAtomic {value : Value} (h : value.isAtomic) (allowNull' : Bool) :
    field.accepts allowNull value = field.accepts allowNull' value := by
  cases value with
  | null => cases h
  | _ => rfl

/-- The equalities with the elements of a list. -/
theorem mapM_eq {values : List Value} (h : ∀ value ∈ values, field.accepts true value) :
    values.mapM field.eq = .ok (values.map (Clause.comparison field.path .eq)) := by
  induction values with
  | nil => rfl
  | cons value rest ih =>
    obtain ⟨hvalue, hrest⟩ := List.forall_mem_cons.mp h
    have heq : field.eq value = .ok (.comparison field.path .eq value) :=
      compare_eq_ok.mpr ⟨hvalue, rfl⟩
    rw [List.mapM_cons, heq, ih hrest]
    rfl

end Field

namespace Clause

open DocumentStore.Filter

variable [Pattern.Engine] (d : Document)

/-- A disjunction of two clauses asks the second if the first does not hold. -/
theorem evaluate_either (clause other : Clause) :
    evaluate d (compile (.or [clause, other]))
      = Verdict.or (evaluate d clause.compile) (evaluate d other.compile) := by
  rw [evaluate_compile_or, evaluateAny_compileAll_cons, evaluateAny_compileAll_cons, compileAll,
    evaluateAny, Verdict.or_false_right]

variable {path : String} (hpath : isOperatorName path = false) (values : List Value)
include hpath

/-- The equalities with the elements of a list, asked one after the other. -/
theorem evaluateAny_equalities :
    evaluateAny d (compileAll (values.map (.comparison path .eq)))
      = isMember (Path.lookup d path) values := by
  induction values with
  | nil => rfl
  | cons value rest ih =>
    rw [List.map_cons, evaluateAny_compileAll_cons, evaluate_comparison d hpath, ih,
      Comparison.isMember_cons]

theorem evaluate_isIn :
    evaluate d (compile (.comparison path .isIn (.array values)))
      = evaluate d (compile (.or (values.map (.comparison path .eq)))) := by
  rw [evaluate_comparison d hpath, evaluate_compile_or, evaluateAny_equalities d hpath]
  rfl

theorem evaluate_notIn :
    evaluate d (compile (.comparison path .notIn (.array values)))
      = evaluate d (compile (.nor (values.map (.comparison path .eq)))) := by
  rw [evaluate_comparison d hpath, evaluate_compile_nor, evaluateAny_equalities d hpath]
  rfl

end Clause

namespace Field

open DocumentStore.Filter

/-! ## Memberships and bounds -/

variable {field : Field}

theorem exists_isIn_iff {values : List Value} :
    (∃ isIn, field.isIn (.array values) = .ok isIn) ↔
      ∀ value ∈ values, ∃ eq, field.eq value = .ok eq := by
  constructor
  · rintro ⟨isIn, hisIn⟩ value hmem
    obtain ⟨haccepts, -⟩ := compareList_eq_ok.mp hisIn
    exact ⟨_, compare_eq_ok.mpr ⟨haccepts value hmem, rfl⟩⟩
  · intro h
    refine ⟨_, compareList_eq_ok.mpr ⟨fun value hmem => ?_, rfl⟩⟩
    obtain ⟨eq, heq⟩ := h value hmem
    exact (compare_eq_ok.mp heq).1

/-- A bound that is included selects what lies beyond the bound, and what equals it. -/
theorem included_bound [Pattern.Engine] (hfield : isOperatorName field.path = false) {value : Value}
    (hvalue : value.isAtomic) {bound strict : Comparison}
    (htest : ∀ value?, bound.test value? value
      = Verdict.or (strict.test value? value) (Comparison.eq.test value? value))
    {clause : Clause} (h : field.compare bound false value = .ok clause) :
    ∃ beyond eq, field.compare strict false value = .ok beyond ∧ field.eq value = .ok eq ∧
      ∀ d, evaluate d clause.compile = evaluate d (Clause.or [beyond, eq]).compile := by
  obtain ⟨haccepts, rfl⟩ := compare_eq_ok.mp h
  have heq : field.accepts true value := by rwa [accepts_of_isAtomic hvalue false]
  refine ⟨_, _, compare_eq_ok.mpr ⟨haccepts, rfl⟩, compare_eq_ok.mpr ⟨heq, rfl⟩, fun d => ?_⟩
  rw [Clause.evaluate_either]
  simp only [Clause.evaluate_comparison _ hfield, htest]

variable (field)

/-- Membership in a list is built wherever the equalities with its elements are, and comes to their
disjunction, or to their denial where it is membership that is denied, with the same errors. A bound
that is included selects as the strict bound or equality does. -/
theorem derived_comparisons [Pattern.Engine] (hfield : isOperatorName field.path = false) :
    (∀ values, ((∃ isIn, field.isIn (.array values) = .ok isIn) ↔
        ∀ value ∈ values, ∃ eq, field.eq value = .ok eq) ∧
      ∀ isIn, field.isIn (.array values) = .ok isIn → ∃ notIn equalities,
        field.notIn (.array values) = .ok notIn ∧ values.mapM field.eq = .ok equalities ∧
        ∀ d, evaluate d isIn.compile = evaluate d (Clause.or equalities).compile ∧
          evaluate d notIn.compile = evaluate d (Clause.nor equalities).compile) ∧
    ∀ value : Value, value.isAtomic →
      (∀ gte, field.gte value = .ok gte → ∃ gt eq,
        field.gt value = .ok gt ∧ field.eq value = .ok eq ∧
        ∀ d, evaluate d gte.compile = evaluate d (Clause.or [gt, eq]).compile) ∧
      ∀ lte, field.lte value = .ok lte → ∃ lt eq,
        field.lt value = .ok lt ∧ field.eq value = .ok eq ∧
        ∀ d, evaluate d lte.compile = evaluate d (Clause.or [lt, eq]).compile := by
  refine ⟨fun values => ⟨exists_isIn_iff, ?_⟩, fun value hvalue => ⟨?_, ?_⟩⟩
  · intro isIn hisIn
    obtain ⟨haccepts, rfl⟩ := compareList_eq_ok.mp hisIn
    exact ⟨_, _, compareList_eq_ok.mpr ⟨haccepts, rfl⟩, mapM_eq haccepts, fun d =>
      ⟨Clause.evaluate_isIn d hfield values, Clause.evaluate_notIn d hfield values⟩⟩
  · intro gte hgte
    exact included_bound hfield hvalue (Comparison.test_gte · hvalue) hgte
  · intro lte hlte
    exact included_bound hfield hvalue (Comparison.test_lte · hvalue) hlte

/-- A field that anything may stand in. -/
def tag : Field := ⟨"tag", .any, false⟩

theorem derived_comparisons_tag :
    let values : List Value := [.null, .regex "^ro" "i", .array [.int32 1], .document []]
    let isIn := Clause.comparison "tag" .isIn (.array values)
    let gte := Clause.comparison "tag" .gte (.int64 3)
    let lte := Clause.comparison "tag" .lte (.int64 3)
    isOperatorName tag.path = false ∧ Value.isAtomic (.int64 3) ∧
      (tag.isIn (.array values) = .ok isIn ∧ ∃ notIn equalities,
        tag.notIn (.array values) = .ok notIn ∧ values.mapM tag.eq = .ok equalities ∧
        ∀ d, evaluate d isIn.compile = evaluate d (Clause.or equalities).compile ∧
          evaluate d notIn.compile = evaluate d (Clause.nor equalities).compile) ∧
      (tag.gte (.int64 3) = .ok gte ∧ ∃ gt eq,
        tag.gt (.int64 3) = .ok gt ∧ tag.eq (.int64 3) = .ok eq ∧
        ∀ d, evaluate d gte.compile = evaluate d (Clause.or [gt, eq]).compile) ∧
      tag.lte (.int64 3) = .ok lte ∧ ∃ lt eq,
        tag.lt (.int64 3) = .ok lt ∧ tag.eq (.int64 3) = .ok eq ∧
        ∀ d, evaluate d lte.compile = evaluate d (Clause.or [lt, eq]).compile := by
  intro values isIn gte lte
  obtain ⟨hlists, hbounds⟩ := derived_comparisons tag rfl
  obtain ⟨hgte, hlte⟩ := hbounds (.int64 3) rfl
  exact ⟨rfl, rfl, ⟨rfl, (hlists values).2 isIn rfl⟩, ⟨rfl, hgte gte rfl⟩, rfl, hlte lte rfl⟩

/-! ## Inequality -/

/-- A field is unequal to a value wherever it is not equal to it, and neither comparison fails. A
regular expression is no such value: equality searches for it, while every field is unequal to it,
the ones that it matches as well. -/
theorem ne_complements_eq [Pattern.Engine] (hfield : isOperatorName field.path = false)
    {value : Value} {eq ne : Clause} (heq : field.eq value = .ok eq) (hne : field.ne value = .ok ne)
    (d : Document) :
    (value.type ≠ .regex → ∃ matched,
      evaluate d eq.compile = .ok matched ∧ evaluate d ne.compile = .ok (!matched)) ∧
    ∀ pattern options, value = .regex pattern options →
      evaluate d eq.compile = matchesPattern (Path.lookup d field.path) pattern options ∧
        evaluate d ne.compile = .ok true := by
  obtain ⟨-, rfl⟩ := compare_eq_ok.mp heq
  obtain ⟨-, rfl⟩ := compare_eq_ok.mp hne
  rw [Clause.evaluate_comparison _ hfield, Clause.evaluate_comparison _ hfield]
  constructor
  · intro hvalue
    exact ⟨_, Comparison.test_eq _ hvalue, rfl⟩
  · rintro pattern options rfl
    refine ⟨rfl, ?_⟩
    simp only [Comparison.test, equals_regex, Bool.not_false]

theorem ne_complements_eq_tag :
    let value : Value := .document [("$gt", .null)]
    let eq := Clause.comparison "tag" .eq value
    let ne := Clause.comparison "tag" .ne value
    let d : Document := [("tag", .array [.int32 1, value])]
    isOperatorName tag.path = false ∧ tag.eq value = .ok eq ∧ tag.ne value = .ok ne ∧
      value.type ≠ .regex ∧
      evaluate d eq.compile = .ok true ∧ evaluate d ne.compile = .ok false := by
  intro value eq ne d
  have heq : tag.eq value = .ok eq := rfl
  have hne : tag.ne value = .ok ne := rfl
  have hvalue : value.type ≠ .regex := by decide
  have hmatched : evaluate d eq.compile = .ok true := rfl
  obtain ⟨matched, hsame, hopposite⟩ := (ne_complements_eq tag rfl heq hne d).1 hvalue
  obtain rfl : true = matched := Except.ok.inj (hmatched.symm.trans hsame)
  exact ⟨rfl, heq, hne, hvalue, hmatched, hopposite⟩

/-- A text is both equal and unequal to a regular expression that matches it. -/
theorem regex_equal_and_unequal :
    let pattern : Value := .regex "n" ""
    let d : Document := [(idField, .int32 1), ("tag", .string "node")]
    isOperatorName tag.path = false ∧ ∃ eq ne,
      tag.eq pattern = .ok eq ∧ tag.ne pattern = .ok ne ∧
      evaluate d eq.compile = .ok true ∧ evaluate d ne.compile = .ok true ∧
      ¬ (evaluate d ne.compile = .ok true ↔ ¬ evaluate d eq.compile = .ok true) := by
  intro pattern d
  have heq : evaluate d (Clause.comparison "tag" .eq pattern).compile = .ok true := rfl
  have hne : evaluate d (Clause.comparison "tag" .ne pattern).compile = .ok true := rfl
  exact ⟨rfl, _, _, rfl, rfl, heq, hne, fun h => h.mp hne heq⟩

end Field

end DocumentStore
