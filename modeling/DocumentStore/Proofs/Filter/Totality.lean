import DocumentStore.Proofs.Filter.Comparisons

/-!
# Clauses that never fail

The evaluation of a filter fails where it cannot read the filter: at a name that is no operator, at
an operand that is not of the shape its operator asks for, at a regular expression that is none. A
field builds comparisons only with operands of the right shape, and compilation puts each of them
where it is read as what it is, however the clauses are combined. So a clause is answered on every
document unless it searches for regular expressions, or takes filters as they are.
-/
namespace DocumentStore

namespace Verdict

/-- Whether a condition does not fail. -/
def Answered (verdict : Verdict) : Prop := ∃ holds, verdict = .ok holds

variable {a b : Verdict}

theorem Answered.and (ha : Answered a) (hb : Answered b) : Answered (and a b) := by
  obtain ⟨holds, rfl⟩ := ha
  cases holds with
  | false => exact ⟨false, rfl⟩
  | true => exact hb

theorem Answered.or (ha : Answered a) (hb : Answered b) : Answered (or a b) := by
  obtain ⟨holds, rfl⟩ := ha
  cases holds with
  | false => exact hb
  | true => exact ⟨true, rfl⟩

theorem Answered.not (ha : Answered a) : Answered (not a) := by
  obtain ⟨holds, rfl⟩ := ha
  exact ⟨!holds, rfl⟩

end Verdict

/-! ## Combinations -/

namespace Clause

open DocumentStore.Filter Verdict

/-- The clauses that are combined from some comparisons by junctions and negation. -/
inductive Combines (compares : String → Comparison → Value → Prop) : Clause → Prop where
  | comparison {path : String} {op : Comparison} {operand : Value} : compares path op operand →
    Combines compares (.comparison path op operand)
  | and {clauses : List Clause} : (∀ clause ∈ clauses, Combines compares clause) →
    Combines compares (.and clauses)
  | or {clauses : List Clause} : (∀ clause ∈ clauses, Combines compares clause) →
    Combines compares (.or clauses)
  | nor {clauses : List Clause} : (∀ clause ∈ clauses, Combines compares clause) →
    Combines compares (.nor clauses)
  | not {clause : Clause} : Combines compares clause → Combines compares (.not clause)

variable {compares : String → Comparison → Value → Prop} {clause other : Clause}
variable {clauses : List Clause} {d : Document}

theorem Combines.concat (h : ∀ clause ∈ clauses, Combines compares clause)
    (hother : Combines compares other) : ∀ clause ∈ clauses ++ [other], Combines compares clause :=
  List.forall_mem_append.mpr ⟨h, List.forall_mem_singleton.mpr hother⟩

/-- A combination that is extended stays one. -/
theorem Combines.andThen (h : Combines compares clause) (hother : Combines compares other) :
    Combines compares (clause.andThen other) := by
  cases clause with
  | and clauses =>
    cases h with
    | and h => exact .and (Combines.concat h hother)
  | _ => exact .and (Combines.concat (List.forall_mem_singleton.mpr h) hother)

theorem Combines.orElse (h : Combines compares clause) (hother : Combines compares other) :
    Combines compares (clause.orElse other) := by
  cases clause with
  | or clauses =>
    cases h with
    | or h => exact .or (Combines.concat h hother)
  | _ => exact .or (Combines.concat (List.forall_mem_singleton.mpr h) hother)

theorem evaluateAll_answered [Pattern.Engine]
    (h : ∀ clause ∈ clauses, Answered (evaluate d clause.compile)) :
    Answered (evaluateAll d (compileAll clauses)) := by
  induction clauses with
  | nil => exact ⟨true, rfl⟩
  | cons clause rest ih =>
    obtain ⟨hclause, hrest⟩ := List.forall_mem_cons.mp h
    rw [evaluateAll_compileAll_cons]
    exact hclause.and (ih hrest)

theorem evaluateAny_answered [Pattern.Engine]
    (h : ∀ clause ∈ clauses, Answered (evaluate d clause.compile)) :
    Answered (evaluateAny d (compileAll clauses)) := by
  induction clauses with
  | nil => exact ⟨false, rfl⟩
  | cons clause rest ih =>
    obtain ⟨hclause, hrest⟩ := List.forall_mem_cons.mp h
    rw [evaluateAny_compileAll_cons]
    exact hclause.or (ih hrest)

/-- A combination fails only if one of its comparisons does. -/
theorem Combines.answered [Pattern.Engine] (h : Combines compares clause)
    (hcompares : ∀ path op operand, compares path op operand →
      Answered (evaluate d (compile (.comparison path op operand)))) :
    Answered (evaluate d clause.compile) := by
  induction h with
  | comparison h => exact hcompares _ _ _ h
  | and _ ih =>
    rw [evaluate_compile_and]
    exact evaluateAll_answered ih
  | or _ ih =>
    rw [evaluate_compile_or]
    exact evaluateAny_answered ih
  | nor _ ih =>
    rw [evaluate_compile_nor]
    exact (evaluateAny_answered ih).not
  | not _ ih =>
    rw [evaluate_compile_not]
    exact ih.not

end Clause

/-! ## Comparisons without regular expressions -/

namespace Filter

open Verdict

theorem isMember_answered [Pattern.Engine] {values : List Value}
    (h : ∀ value ∈ values, value.type ≠ .regex) (value? : Option Value) :
    Answered (isMember value? values) := by
  induction values with
  | nil => exact ⟨false, rfl⟩
  | cons value rest ih =>
    obtain ⟨hvalue, hrest⟩ := List.forall_mem_cons.mp h
    rw [Comparison.isMember_cons, Comparison.test_eq value? hvalue]
    exact Answered.or ⟨_, rfl⟩ (ih hrest)

end Filter

namespace Field

open DocumentStore.Filter Verdict

/-- The comparisons of a field that are built without a filter inside, and without a regular
expression where one would be searched for. -/
inductive Typed (field : Field) : Clause → Prop where
  | eq {value : Value} {clause : Clause} : value.type ≠ .regex → field.eq value = .ok clause →
    Typed field clause
  | ne {value : Value} {clause : Clause} : field.ne value = .ok clause → Typed field clause
  | gt {value : Value} {clause : Clause} : field.gt value = .ok clause → Typed field clause
  | gte {value : Value} {clause : Clause} : field.gte value = .ok clause → Typed field clause
  | lt {value : Value} {clause : Clause} : field.lt value = .ok clause → Typed field clause
  | lte {value : Value} {clause : Clause} : field.lte value = .ok clause → Typed field clause
  | isIn {values : List Value} {clause : Clause} : (∀ value ∈ values, value.type ≠ .regex) →
    field.isIn (.array values) = .ok clause → Typed field clause
  | notIn {values : List Value} {clause : Clause} : (∀ value ∈ values, value.type ≠ .regex) →
    field.notIn (.array values) = .ok clause → Typed field clause
  | isPresent (present : Bool) : Typed field (field.isPresent present)
  | all {values : List Value} {clause : Clause} : field.all (.array values) = .ok clause →
    Typed field clause
  | size {length : Int64} {clause : Clause} : field.size length = .ok clause → Typed field clause
  | hasType (label : String) : Typed field (field.hasType label)

variable {field : Field} {clause : Clause}

/-- What a field builds is an operator with an operand that it takes. -/
theorem Typed.exists_test [Pattern.Engine] (h : field.Typed clause) :
    ∃ op operand, clause = .comparison field.path op operand ∧
      ∀ value?, Answered (op.test value? operand) := by
  cases h with
  | eq hvalue h =>
    obtain ⟨-, rfl⟩ := compare_eq_ok.mp h
    exact ⟨_, _, rfl, fun value? => ⟨_, Comparison.test_eq value? hvalue⟩⟩
  | ne h | gt h | gte h | lt h | lte h =>
    obtain ⟨-, rfl⟩ := compare_eq_ok.mp h
    exact ⟨_, _, rfl, fun value? => ⟨_, rfl⟩⟩
  | isIn hvalues h =>
    obtain ⟨-, rfl⟩ := compareList_eq_ok.mp h
    exact ⟨_, _, rfl, isMember_answered hvalues⟩
  | notIn hvalues h =>
    obtain ⟨-, rfl⟩ := compareList_eq_ok.mp h
    exact ⟨_, _, rfl, fun value? => (isMember_answered hvalues value?).not⟩
  | isPresent present => exact ⟨_, _, rfl, fun value? => ⟨_, rfl⟩⟩
  | all h =>
    obtain ⟨-, h⟩ := Result.check_eq_ok.mp h
    obtain ⟨-, rfl⟩ := compareList_eq_ok.mp h
    exact ⟨_, _, rfl, fun value? => ⟨_, rfl⟩⟩
  -- a length must not be negative
  | @size length _ h =>
    obtain ⟨-, h⟩ := Result.check_eq_ok.mp h
    split at h
    · cases h
    · cases h
      exact ⟨_, _, rfl, fun value? => ⟨_, rfl⟩⟩
  | hasType label =>
    refine ⟨_, _, rfl, fun value? => ?_⟩
    cases value? with
    | none => exact ⟨_, rfl⟩
    | some value => exact ⟨_, rfl⟩

end Field

namespace Clause

open DocumentStore.Filter Verdict

/-- Whether a clause is combined from comparisons of fields, without a filter as it is and without a
regular expression to search for. -/
def IsTyped : Clause → Prop :=
  Combines fun path op operand => ∃ field : Field,
    isOperatorName field.path = false ∧ field.Typed (.comparison path op operand)

theorem IsTyped.of_field {field : Field} {clause : Clause} (h : field.Typed clause)
    (hfield : isOperatorName field.path = false) : clause.IsTyped := by
  obtain ⟨op, operand, rfl, -⟩ := h.exists_test
  exact .comparison ⟨field, hfield, h⟩

/-- Every document has an answer to a clause that is combined from typed comparisons, however large
it is. -/
theorem typed_answered [Pattern.Engine] {clause : Clause} (h : clause.IsTyped) (d : Document) :
    ∃ matched, evaluate d clause.compile = .ok matched := by
  refine Combines.answered h fun path op operand ⟨field, hfield, htyped⟩ => ?_
  obtain ⟨op, operand, heq, htest⟩ := htyped.exists_test
  cases heq
  rw [evaluate_comparison d hfield]
  exact htest _

/-- Operands that look like a condition, or hold what is no regular expression, where they are only
compared. They stand below an empty disjunction and two negations. -/
def taggedOddly : Clause :=
  andThen (orElse (.comparison "tag" .eq (.document [("$where", .null)])) (.or []))
    (.not (.nor [.comparison "tag" .notIn (.array [.null, .array [.regex "(" ""]]),
      .comparison "tag" .size (.int64 0)]))

theorem typed_answered_taggedOddly :
    taggedOddly.IsTyped ∧
      ∃ matched, evaluate [("tag", .array [])] taggedOddly.compile = .ok matched := by
  have heq : IsTyped (.comparison "tag" .eq (.document [("$where", .null)])) := by
    have hvalue : Value.type (.document [("$where", .null)]) ≠ .regex := nofun
    exact .of_field (.eq hvalue rfl) (rfl : isOperatorName Field.tag.path = false)
  have hnotIn : IsTyped (.comparison "tag" .notIn (.array [.null, .array [.regex "(" ""]])) := by
    have hvalues : ∀ value ∈ [.null, .array [.regex "(" ""]], Value.type value ≠ .regex := by decide
    exact .of_field (.notIn hvalues rfl) (rfl : isOperatorName Field.tag.path = false)
  have hsize : IsTyped (.comparison "tag" .size (.int64 0)) := by
    have hbuilt : Field.tag.size 0 = .ok (.comparison "tag" .size (.int64 0)) := rfl
    exact .of_field (.size hbuilt) rfl
  have hnor : IsTyped (.nor [.comparison "tag" .notIn (.array [.null, .array [.regex "(" ""]]),
      .comparison "tag" .size (.int64 0)]) :=
    .nor (List.forall_mem_cons.mpr ⟨hnotIn, List.forall_mem_singleton.mpr hsize⟩)
  have hnone : IsTyped (.or []) := .or (List.forall_mem_nil _)
  have htyped : taggedOddly.IsTyped := (heq.orElse hnone).andThen (.not hnor)
  exact ⟨htyped, typed_answered htyped _⟩

end Clause

end DocumentStore
