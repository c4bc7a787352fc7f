import DocumentStore.Proofs.Filter.Elements

/-!
# Malformed filters

A filter is checked by evaluating it, and the evaluation stops at the first part that settles the
answer. A malformed part behind it is found on the documents that come so far, and on no others.
What can be said of a filter before any document is seen is its forecast: the verdict that it comes
to on every document, or that every document has an answer, or neither. The forecast is read off the
filter alone, and where it says something it is right.
-/
namespace DocumentStore

/-! ## Forecasts -/

/-- What is known of a verdict before any document is seen. -/
inductive Forecast where
  /-- It is the same on every document. -/
  | certain (verdict : Verdict)
  /-- Every document has an answer. -/
  | answered
  /-- It may fail on some documents and not on others. -/
  | uncertain

namespace Forecast

open Verdict

/-- Whether a verdict is as it was forecast. -/
def Admits : Forecast → Verdict → Prop
  | .certain verdict, actual => actual = verdict
  | .answered, actual => Answered actual
  | .uncertain, _ => True

/-- The forecast for a condition that some documents do not come to. They have an answer without
it, so an error of it is no longer certain. -/
def sometimes : Forecast → Forecast
  | .certain (.ok _) => .answered
  | .certain (.error _) => .uncertain
  | .answered => .answered
  | .uncertain => .uncertain

def and : Forecast → Forecast → Forecast
  | .certain (.ok true), second => second
  | .certain verdict, _ => .certain verdict
  | .answered, second => second.sometimes
  | .uncertain, _ => .uncertain

def not : Forecast → Forecast
  | .certain verdict => .certain (Verdict.not verdict)
  | .answered => .answered
  | .uncertain => .uncertain

def or (first second : Forecast) : Forecast := (first.not.and second.not).not

/-- The forecast for a condition that fails if its operand cannot be read. -/
def reading {α : Type} (operand : Result α) (next : α → Forecast) : Forecast :=
  match operand with
  | .ok value => next value
  | .error e => .certain (.error e)

/-- The forecast for a condition that asks for the elements of a list in order. -/
def anyOf (element : Value → Forecast) : List Value → Forecast
  | [] => .certain (.ok false)
  | value :: rest => (element value).or (anyOf element rest)

variable {first second : Forecast} {a b : Verdict}

/-- Where a forecast allows for answers only, there is an answer. -/
theorem Admits.answered_of_sometimes (h : first.Admits a) (hfirst : first.sometimes = .answered) :
    Answered a := by
  cases first with
  | certain verdict =>
    obtain rfl : a = verdict := h
    cases a with
    | ok holds => exact ⟨holds, rfl⟩
    | error e => cases hfirst
  | answered => exact h
  | uncertain => cases hfirst

theorem admits_sometimes (h : first.sometimes = .answered → Answered a) :
    first.sometimes.Admits a := by
  rcases first with (_ | _) | _ | _
  · trivial
  · exact h rfl
  · exact h rfl
  · trivial

theorem Admits.and (hfirst : first.Admits a) (hsecond : second.Admits b) :
    (first.and second).Admits (Verdict.and a b) := by
  cases first with
  | certain verdict =>
    obtain rfl : a = verdict := hfirst
    obtain ⟨e, rfl⟩ | rfl | rfl := a.cases
    · rfl
    · exact hsecond
    · rfl
  | answered =>
    -- the second condition is asked only where the first holds
    exact admits_sometimes fun h => Answered.and hfirst (hsecond.answered_of_sometimes h)
  | uncertain => trivial

theorem Admits.not (h : first.Admits a) : first.not.Admits (Verdict.not a) := by
  cases first with
  | certain verdict => exact congrArg Verdict.not h
  | answered => exact Answered.not h
  | uncertain => trivial

theorem Admits.or (hfirst : first.Admits a) (hsecond : second.Admits b) :
    (first.or second).Admits (Verdict.or a b) := by
  have hor : Verdict.or a b = Verdict.not (Verdict.and (Verdict.not a) (Verdict.not b)) := by
    rw [Verdict.not_and, Verdict.not_not, Verdict.not_not]
  rw [hor]
  exact (hfirst.not.and hsecond.not).not

theorem Admits.reading {α : Type} {next : α → Forecast} {test : α → Verdict} (operand : Result α)
    (h : ∀ value, (next value).Admits (test value)) :
    (reading operand next).Admits (operand >>= test) := by
  cases operand with
  | ok value => exact h value
  | error e => rfl

theorem Admits.anyOf {element : Value → Forecast} {test : Value → Verdict}
    {tests : List Value → Verdict} (hnil : tests [] = .ok false)
    (hcons : ∀ value rest, tests (value :: rest) = Verdict.or (test value) (tests rest))
    (h : ∀ value, (element value).Admits (test value)) (values : List Value) :
    (anyOf element values).Admits (tests values) := by
  induction values with
  | nil => exact hnil
  | cons value rest ih =>
    rw [hcons]
    exact (h value).or ih

end Forecast

namespace Filter

open Verdict Forecast

variable [Pattern.Engine]

/-! ## Forecasts for conditions -/

/-- The forecast for a regular expression. -/
def forecastPattern (pattern options : String) : Forecast :=
  reading (readPattern pattern options) fun _ => .answered

/-- The forecast for a value that is matched as a whole. -/
def forecastValue : Value → Forecast
  | .regex pattern options => forecastPattern pattern options
  | _ => .answered

/-- The forecast for the label of a type. -/
def forecastLabel : Value → Forecast
  | .string _ | .int32 _ | .int64 _ => .answered
  | .double x => reading ((Value.double x).integer "$type") fun _ => .answered
  | _ => .certain (.error (.invalidQuery .typeRequired))

/-- The forecast for the operand that names types. -/
def forecastType : Value → Forecast
  | .array labels => anyOf forecastLabel labels
  | label => forecastLabel label

/-- The forecast for an operator that takes no filter. -/
def forecastOperator (name : String) (op : Operator) (argument : Value) (siblings : Document) :
    Forecast :=
  match op with
  | .eq | .ne | .gt | .gte | .lt | .lte | .present => .answered
  | .isIn => reading (list name argument) (anyOf forecastValue)
  | .notIn => (reading (list name argument) (anyOf forecastValue)).not
  | .regex => reading (patternOf argument siblings) fun pattern =>
    forecastPattern pattern.1 pattern.2
  | .options => if Document.contains siblings "$regex" then .certain (.ok true)
    else .certain (.error (.invalidQuery (.unknownOperator name)))
  | .all => reading (list name argument) fun _ => .answered
  | .size => reading (argument.integer name) fun _ => .answered
  -- a field that is not there has no type, whatever is asked for
  | .type => (forecastType argument).sometimes
  | .elemMatch => .certain (.error (.invalidQuery (.documentRequired name)))
  | .not => .certain (.error (.invalidQuery .operatorsRequired))

variable (value? : Option Value)

theorem forecastPattern_admits (pattern options : String) :
    (forecastPattern pattern options).Admits (matchesPattern value? pattern options) :=
  Admits.reading _ fun _ => ⟨_, rfl⟩

theorem forecastValue_admits (target : Value) :
    (forecastValue target).Admits (Comparison.eq.test value? target) := by
  cases target with
  | regex pattern options => exact forecastPattern_admits value? pattern options
  | _ => exact ⟨_, rfl⟩

theorem forecastMembers_admits (targets : List Value) :
    (anyOf forecastValue targets).Admits (isMember value? targets) :=
  Admits.anyOf rfl (Comparison.isMember_cons value?) (forecastValue_admits value?) targets

omit [Pattern.Engine] in
theorem forecastLabel_admits (value label : Value) :
    (forecastLabel label).Admits (hasType value label) := by
  cases label with
  | string text => exact ⟨_, rfl⟩
  | int32 n => exact ⟨_, rfl⟩
  | int64 n => exact ⟨_, rfl⟩
  | double x => exact Admits.reading _ fun _ => ⟨_, rfl⟩
  | _ => rfl

theorem forecastType_admits (value : Value) (name : String) (argument : Value)
    (siblings : Document) :
    (forecastType argument).Admits (holds (some value) name .type argument siblings) := by
  cases argument with
  | array labels => exact Admits.anyOf rfl (fun _ _ => rfl) (forecastLabel_admits value) labels
  | _ =>
    simp only [forecastType, holds]
    exact forecastLabel_admits value _

theorem forecastOperator_admits (name : String) (op : Operator) (argument : Value)
    (siblings : Document) :
    (forecastOperator name op argument siblings).Admits
      (holds value? name op argument siblings) := by
  cases op with
  | eq | ne | gt | gte | lt | lte | present => exact ⟨_, rfl⟩
  | isIn => exact Admits.reading _ (forecastMembers_admits value?)
  -- to be in no list is the negation of being in one, and so is its forecast
  | notIn =>
    have hnot : holds value? name .notIn argument siblings
        = Verdict.not (list name argument >>= isMember value?) := by
      unfold holds
      cases list name argument <;> rfl
    rw [hnot]
    exact (Admits.reading _ (forecastMembers_admits value?)).not
  | regex => exact Admits.reading _ fun pattern => forecastPattern_admits value? pattern.1 pattern.2
  | options =>
    simp only [forecastOperator, holds]
    split <;> rfl
  | all => exact Admits.reading _ fun _ => ⟨_, rfl⟩
  | size => exact Admits.reading _ fun _ => ⟨_, rfl⟩
  | type =>
    cases value? with
    | none => exact admits_sometimes fun _ => ⟨false, rfl⟩
    | some value =>
      have htype := forecastType_admits value name argument siblings
      exact admits_sometimes htype.answered_of_sometimes
  | elemMatch => rfl
  | not => rfl

/-! ## Forecasts for filters -/

mutual

/-- The forecast for a filter. -/
def forecast : List (String × Value) → Forecast
  | [] => .certain (.ok true)
  | (name, condition) :: rest =>
    Forecast.and (match Head.ofName name, condition with
      | .and, .array items =>
        if areDocuments items then forecastAll items
        else .certain (.error (.invalidQuery (.documentsRequired name)))
      | .or, .array items =>
        if areDocuments items then forecastAny items
        else .certain (.error (.invalidQuery (.documentsRequired name)))
      | .nor, .array items =>
        if areDocuments items then (forecastAny items).not
        else .certain (.error (.invalidQuery (.documentsRequired name)))
      | .and, _ | .or, _ | .nor, _ =>
        .certain (.error (.invalidQuery (.documentsRequired name)))
      | .literal, .boolean flag => .certain (.ok flag)
      | .literal, _ => .certain (.error (.invalidQuery .literalRequired))
      | .comment, _ => .certain (.ok true)
      | .unknown, _ => .certain (.error (.invalidQuery (.unknownJunction name)))
      | .path, condition => forecastCondition condition)
      (forecast rest)
termination_by structural filter => filter

/-- The forecast for a conjunction. -/
def forecastAll : List Value → Forecast
  | [] => .certain (.ok true)
  | .document filter :: rest => (forecast filter).and (forecastAll rest)
  | _ :: rest => forecastAll rest
termination_by structural filters => filters

/-- The forecast for a disjunction. -/
def forecastAny : List Value → Forecast
  | [] => .certain (.ok false)
  | .document filter :: rest => (forecast filter).or (forecastAny rest)
  | _ :: rest => forecastAny rest
termination_by structural filters => filters

/-- The forecast for the condition on a value. -/
def forecastCondition : Value → Forecast
  | .document fields =>
    if isOperatorDocument fields then forecastOperators fields fields else .answered
  | .regex pattern options => forecastPattern pattern options
  | _ => .answered
termination_by structural condition => condition

/-- The forecast for a list of operators. -/
def forecastOperators (siblings : Document) : List (String × Value) → Forecast
  | [] => .certain (.ok true)
  | (name, argument) :: rest =>
    Forecast.and (match Operator.ofName? name, argument with
      | none, _ => .certain (.error (.invalidQuery (.unknownOperator name)))
      -- only an array with elements is searched
      | some .elemMatch, .document filter =>
        (if isOperatorDocument filter then forecastOperators filter filter
          else forecast filter).sometimes
      | some .not, .document fields =>
        if isOperatorDocument fields then (forecastOperators fields fields).not else .answered
      | some .not, .regex pattern options => (forecastPattern pattern options).not
      | some op, argument => forecastOperator name op argument siblings)
      (forecastOperators siblings rest)
termination_by structural operators => operators

end

variable {value? : Option Value} {name : String} {fields siblings : Document}
variable {rest : List (String × Value)}

section Argument

variable (hoperators : ∀ value?,
    (forecastOperators fields fields).Admits (meetsAll value? fields fields))
  (hrest : (forecastOperators siblings rest).Admits (meetsAll value? siblings rest))

include hoperators

/-- A search has an answer if it has one at each element. -/
theorem forecastSearch_admits (hfilter : ∀ d, (forecast fields).Admits (evaluate d fields)) :
    (if isOperatorDocument fields then forecastOperators fields fields
      else forecast fields).sometimes.Admits ((elements value?).anyM (meetsElement fields)) := by
  refine admits_sometimes fun hanswered => ?_
  have helement : ∀ item ∈ elements value?, Answered (meetsElement fields item) := by
    intro item _
    unfold meetsElement
    by_cases hfields : isOperatorDocument fields
    · rw [if_pos hfields] at hanswered
      rw [if_pos hfields, meets, if_pos hfields]
      exact (hoperators (some item)).answered_of_sometimes hanswered
    · rw [if_neg hfields] at hanswered
      rw [if_neg hfields]
      cases item with
      | document inner => exact (hfilter inner).answered_of_sometimes hanswered
      | _ => exact ⟨false, rfl⟩
  obtain ⟨matched, hmatched, -⟩ := anyM_spec helement
  exact ⟨matched, hmatched⟩

include hrest

/-- The forecast for an operator with a document, from those for what is in the document. -/
theorem forecastOperators_document (hfilter : ∀ d, (forecast fields).Admits (evaluate d fields)) :
    (forecastOperators siblings ((name, .document fields) :: rest)).Admits
      (meetsAll value? siblings ((name, .document fields) :: rest)) := by
  cases hname : Operator.ofName? name with
  | none =>
    unfold forecastOperators meetsAll
    rw [hname]
    rfl
  | some op =>
    cases op with
    | elemMatch =>
      rw [meetsAll_elemMatch hname, test_elemMatch]
      unfold forecastOperators
      rw [hname]
      exact (forecastSearch_admits hoperators hfilter).and hrest
    | not =>
      unfold forecastOperators meetsAll
      rw [hname]
      by_cases hfields : isOperatorDocument fields
      · simp only [hfields, if_true]
        exact (hoperators value?).not.and hrest
      · simp only [hfields]
        exact Admits.and ⟨_, rfl⟩ hrest
    | _ =>
      unfold forecastOperators meetsAll
      rw [hname]
      exact (forecastOperator_admits value? name _ (.document fields) siblings).and hrest

end Argument

/-- The forecast for an operator with another value. -/
theorem forecastOperators_scalar {argument : Value} (hargument : argument.type ≠ .document)
    (hrest : (forecastOperators siblings rest).Admits (meetsAll value? siblings rest)) :
    (forecastOperators siblings ((name, argument) :: rest)).Admits
      (meetsAll value? siblings ((name, argument) :: rest)) := by
  unfold forecastOperators meetsAll
  cases Operator.ofName? name with
  | none => rfl
  | some op =>
    cases op with
    | elemMatch =>
      cases argument with
      | document fields => exact absurd rfl hargument
      | _ => rfl
    | not =>
      cases argument with
      | document fields => exact absurd rfl hargument
      | regex pattern options =>
        exact (forecastPattern_admits value? pattern options).not.and hrest
      | _ => rfl
    | _ => exact (forecastOperator_admits value? name _ argument siblings).and hrest

mutual

/-- A filter comes to what was forecast for it on every document. -/
theorem forecast_admits (d : Document) (filter : List (String × Value)) :
    (forecast filter).Admits (evaluate d filter) := by
  cases filter with
  | nil => rfl
  | cons field rest =>
    obtain ⟨name, condition⟩ := field
    -- the conditions are tried in order, so the rest counts only if the first is met
    have hrest := forecast_admits d rest
    unfold forecast evaluate
    cases Head.ofName name with
    | and =>
      cases condition with
      | array items =>
        by_cases hitems : areDocuments items
        · simp only [hitems, if_true]
          exact (forecastAll_admits d items).and hrest
        · simp only [hitems]
          rfl
      | _ => rfl
    | or =>
      cases condition with
      | array items =>
        by_cases hitems : areDocuments items
        · simp only [hitems, if_true]
          exact (forecastAny_admits d items).and hrest
        · simp only [hitems]
          rfl
      | _ => rfl
    | nor =>
      cases condition with
      | array items =>
        by_cases hitems : areDocuments items
        · simp only [hitems, if_true]
          exact (forecastAny_admits d items).not.and hrest
        · simp only [hitems]
          rfl
      | _ => rfl
    | literal =>
      cases condition with
      | boolean flag => exact Admits.and rfl hrest
      | _ => rfl
    | comment => exact Admits.and rfl hrest
    | unknown => rfl
    | path => exact (forecastCondition_admits (Path.lookup d name) condition).and hrest
termination_by structural filter

theorem forecastAll_admits (d : Document) (filters : List Value) :
    (forecastAll filters).Admits (evaluateAll d filters) := by
  cases filters with
  | nil => rfl
  | cons first rest =>
    have hrest := forecastAll_admits d rest
    cases first with
    | document filter => exact (forecast_admits d filter).and hrest
    | _ => exact hrest
termination_by structural filters

theorem forecastAny_admits (d : Document) (filters : List Value) :
    (forecastAny filters).Admits (evaluateAny d filters) := by
  cases filters with
  | nil => rfl
  | cons first rest =>
    have hrest := forecastAny_admits d rest
    cases first with
    | document filter => exact (forecast_admits d filter).or hrest
    | _ => exact hrest
termination_by structural filters

theorem forecastCondition_admits (value? : Option Value) (condition : Value) :
    (forecastCondition condition).Admits (meets value? condition) := by
  cases condition with
  | document fields =>
    simp only [forecastCondition, meets]
    split
    · exact forecastOperators_admits value? fields fields
    · exact ⟨_, rfl⟩
  | regex pattern options => exact forecastPattern_admits value? pattern options
  | _ => exact ⟨_, rfl⟩
termination_by structural condition

theorem forecastOperators_admits (value? : Option Value) (siblings : Document)
    (operators : List (String × Value)) :
    (forecastOperators siblings operators).Admits (meetsAll value? siblings operators) := by
  cases operators with
  | nil => rfl
  | cons field rest =>
    obtain ⟨name, argument⟩ := field
    have hrest := forecastOperators_admits value? siblings rest
    cases argument with
    | document fields =>
      exact forecastOperators_document (fun value? => forecastOperators_admits value? fields fields)
        hrest fun d => forecast_admits d fields
    | _ => exact forecastOperators_scalar nofun hrest
termination_by structural operators

end

/-- A filter that fails on a document fails on every other in the same way, if something was
forecast for it. -/
theorem fails_of_forecast {filter : Document} (hforecast : forecast filter ≠ .uncertain)
    {d : Document} {e : ServiceError} (h : evaluate d filter = .error e) (d' : Document) :
    evaluate d' filter = .error e := by
  have hd := forecast_admits d filter
  have hd' := forecast_admits d' filter
  cases hfilter : forecast filter with
  | certain verdict =>
    rw [hfilter] at hd hd'
    exact hd'.trans (hd.symm.trans h)
  | answered =>
    rw [hfilter] at hd
    obtain ⟨holds, hholds⟩ := hd
    cases h.symm.trans hholds
  | uncertain => exact absurd hfilter hforecast

end Filter

end DocumentStore
