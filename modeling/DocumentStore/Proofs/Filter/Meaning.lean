import DocumentStore.Proofs.Filter.Positions
import DocumentStore.Proofs.Filter.References

/-!
# The meaning of clauses

A clause is a condition on a document: its comparisons ask about the value at a path, and its
junctions go from left to right and stop at the first part that settles the answer, or fails. A
store never sees a clause but only the filter document that it compiles to, so a clause means what
it says only if the evaluation of that document comes to the same, errors included.

With that, clauses that are equal by the laws of junctions and negation select the same documents.
-/
namespace DocumentStore

/-! ## Verdicts -/

/-- The answer of a condition, if it does not fail. -/
abbrev Verdict := Result Bool

namespace Verdict

/-- Both conditions hold. The second is not asked if the first does not hold. -/
def and (first second : Verdict) : Verdict := do
  if ← first then second else return false

/-- Either condition holds. The second is not asked if the first holds. -/
def or (first second : Verdict) : Verdict := do
  if ← first then return true else second

/-- The condition does not hold. -/
def not (verdict : Verdict) : Verdict := do return !(← verdict)

variable (a b c : Verdict)

@[simp] theorem and_true_left : and (.ok true) b = b := rfl

@[simp] theorem or_false_left : or (.ok false) b = b := rfl

@[simp] theorem not_ok (holds : Bool) : not (.ok holds) = .ok !holds := rfl

@[simp] theorem or_ok (holds holds' : Bool) :
    or (.ok holds) (.ok holds') = .ok (holds || holds') := by
  cases holds <;> rfl

/-- A verdict is an error or one of two answers. -/
theorem cases : (∃ e, a = .error e) ∨ a = .ok true ∨ a = .ok false := by
  rcases a with e | _ | _
  · exact .inl ⟨e, rfl⟩
  · exact .inr (.inr rfl)
  · exact .inr (.inl rfl)

@[simp] theorem and_true_right : and a (.ok true) = a := by
  obtain ⟨e, rfl⟩ | rfl | rfl := a.cases <;> rfl

@[simp] theorem or_false_right : or a (.ok false) = a := by
  obtain ⟨e, rfl⟩ | rfl | rfl := a.cases <;> rfl

theorem and_assoc : and (and a b) c = and a (and b c) := by
  obtain ⟨e, rfl⟩ | rfl | rfl := a.cases <;> rfl

theorem or_assoc : or (or a b) c = or a (or b c) := by
  obtain ⟨e, rfl⟩ | rfl | rfl := a.cases <;> rfl

@[simp] theorem not_not : not (not a) = a := by
  obtain ⟨e, rfl⟩ | rfl | rfl := a.cases <;> rfl

/-- The negation stops where the conjunction does. -/
theorem not_and : not (and a b) = or (not a) (not b) := by
  obtain ⟨e, rfl⟩ | rfl | rfl := a.cases <;> rfl

theorem not_or : not (or a b) = and (not a) (not b) := by
  obtain ⟨e, rfl⟩ | rfl | rfl := a.cases <;> rfl

end Verdict

section Engine

variable [Pattern.Engine]

/-! ## What clauses mean -/

namespace Filter

/-- Whether an element of an array is met by what an array is searched for: operators apply to the
element itself, any other filter to an element that is a document. -/
def meetsElement (filter : Document) (item : Value) : Verdict :=
  if isOperatorDocument filter then meets (some item) (.document filter)
  else match item with
    | .document inner => evaluate inner filter
    | _ => .ok false

end Filter

open DocumentStore.Filter in
/-- Whether the value at a path, if there is one, compares to an operand. -/
def Comparison.test (op : Comparison) (value? : Option Value) (operand : Value) : Verdict :=
  match op with
  | .eq => match operand with
    | .regex pattern options => matchesPattern value? pattern options
    | operand => .ok (equals value? operand)
  | .ne => .ok (!equals value? operand)
  | .gt => .ok (compares value? operand (· == .gt))
  | .gte => .ok (compares value? operand (· != .lt))
  | .lt => .ok (compares value? operand (· == .lt))
  | .lte => .ok (compares value? operand (· != .gt))
  | .isIn => do isMember value? (← Filter.list "$in" operand)
  | .notIn => Verdict.not do isMember value? (← Filter.list "$nin" operand)
  | .present => .ok (operand.truthy == value?.isSome)
  | .regex => match operand with
    | .string pattern => matchesPattern value? pattern ""
    | .regex pattern options => matchesPattern value? pattern options
    | _ => .error (.invalidQuery (.stringRequired "$regex"))
  | .all => do
    let targets ← Filter.list "$all" operand
    return !targets.isEmpty && targets.all (equals value? ·)
  | .size => do
    let size ← operand.integer "$size"
    return match value? with
      | some (.array items) => (items.length : Int) == size
      | _ => false
  | .type => match value?, operand with
    | some value, .array labels => hasAnyType value labels
    | some value, label => hasType value label
    | none, _ => .ok false
  | .elemMatch => match operand, value? with
    | .document filter, some (.array items) => items.anyM (meetsElement filter)
    | .document _, _ => .ok false
    | _, _ => .error (.invalidQuery (.documentRequired "$elemMatch"))

namespace Clause

mutual

def meaning (d : Document) : Clause → Verdict
  | .comparison path op operand => op.test (Path.lookup d path) operand
  | .and clauses => meaningAll d clauses
  | .or clauses => meaningAny d clauses
  | .nor clauses => (meaningAny d clauses).not
  | .not clause => (meaning d clause).not
  | .raw filter => Filter.evaluate d filter

def meaningAll (d : Document) : List Clause → Verdict
  | [] => .ok true
  | clause :: rest => (meaning d clause).and (meaningAll d rest)

def meaningAny (d : Document) : List Clause → Verdict
  | [] => .ok false
  | clause :: rest => (meaning d clause).or (meaningAny d rest)

end

mutual

/-- Whether the comparisons of a clause are about fields: no path begins with a dollar sign. -/
def namesFields : Clause → Bool
  | .comparison path _ _ => !Filter.isOperatorName path
  | .and clauses => nameFields clauses
  | .or clauses => nameFields clauses
  | .nor clauses => nameFields clauses
  | .not clause => namesFields clause
  | .raw _ => true

/-- Whether those of all clauses of a list are. -/
def nameFields : List Clause → Bool
  | [] => true
  | clause :: rest => namesFields clause && nameFields rest

end

end Clause

/-! ## Evaluation of compiled comparisons -/

namespace Filter

omit [Pattern.Engine] in
/-- A name without a dollar sign in front is that of a field. -/
theorem Head.ofName_eq_path {name : String} (h : isOperatorName name = false) :
    Head.ofName name = .path := by
  have hne (operator : String) (hop : isOperatorName operator = true) : name ≠ operator := by
    rintro rfl
    rw [h] at hop
    cases hop
  unfold Head.ofName
  rw [if_neg (hne "$and" (by decide)), if_neg (hne "$or" (by decide)),
    if_neg (hne "$nor" (by decide)), if_neg (hne "$expr" (by decide)),
    if_neg (hne "$comment" (by decide)), h]
  rfl

/-- A condition on a field is one on the value at its path. -/
theorem evaluate_path {path : String} (h : isOperatorName path = false) (d : Document)
    (condition : Value) :
    evaluate d (Document.single path condition) = meets (Path.lookup d path) condition := by
  simp only [Document.single, evaluate, Head.ofName_eq_path h]
  exact Verdict.and_true_right _

/-- A filter with one operator that takes no filter comes to what the operator does. -/
theorem meetsAll_holds {name : String} {op : Operator} (hop : Operator.ofName? name = some op)
    (hmatch : op ≠ .elemMatch) (hnot : op ≠ .not) (value? : Option Value) (operand : Value)
    (siblings : Document) :
    meetsAll value? siblings (Document.single name operand)
      = holds value? name op operand siblings := by
  unfold Document.single meetsAll
  rw [hop]
  cases op with
  | elemMatch => contradiction
  | not => contradiction
  | _ => exact Verdict.and_true_right _

/-- A search is the test of its operator, before the operators behind it. -/
theorem meetsAll_elemMatch {name : String} (hname : Operator.ofName? name = some .elemMatch)
    (value? : Option Value) (filter siblings : Document) (rest : List (String × Value)) :
    meetsAll value? siblings ((name, .document filter) :: rest)
      = Verdict.and (Comparison.elemMatch.test value? (.document filter))
          (meetsAll value? siblings rest) := by
  conv => lhs; unfold meetsAll
  rw [hname]
  cases value? with
  | none => rfl
  | some value =>
    cases value with
    | array items =>
      simp only [Comparison.test]
      -- operators apply to elements of any kind, other filters only to documents
      by_cases hdoc : isOperatorDocument filter
      · have helement : meetsElement filter = fun item => meetsAll (some item) filter filter := by
          funext item
          simp only [meetsElement, meets, hdoc, ↓reduceIte]
        simp only [if_pos hdoc, helement]
        rfl
      · have helement : meetsElement filter = fun
            | .document inner => evaluate inner filter
            | _ => .ok false := by
          funext item
          simp only [meetsElement, hdoc]
          rfl
        simp only [if_neg hdoc, helement]
        rfl
    | _ => rfl

end Filter

namespace Comparison

/-- What the name of an operator is read as. -/
def reading : Comparison → Filter.Operator
  | .eq => .eq
  | .ne => .ne
  | .gt => .gt
  | .gte => .gte
  | .lt => .lt
  | .lte => .lte
  | .isIn => .isIn
  | .notIn => .notIn
  | .present => .present
  | .regex => .regex
  | .all => .all
  | .size => .size
  | .type => .type
  | .elemMatch => .elemMatch

omit [Pattern.Engine] in
theorem ofName?_operator (op : Comparison) :
    Filter.Operator.ofName? op.operator = some op.reading := by
  cases op <;> decide

omit [Pattern.Engine] in
theorem isOperatorName_operator (op : Comparison) :
    Filter.isOperatorName op.operator = true := by
  cases op <;> decide

theorem meets_document (op : Comparison) (value? : Option Value) (operand : Value) :
    Filter.meets value? (.document (Document.single op.operator operand))
      = Filter.meetsAll value? (Document.single op.operator operand)
          (Document.single op.operator operand) := by
  have hdoc : Filter.isOperatorDocument (Document.single op.operator operand) = true :=
    op.isOperatorName_operator
  rw [Filter.meets, if_pos hdoc]

/-- The operator of a comparison is read back from its name. -/
theorem meets_operator (op : Comparison) (hmatch : op ≠ .elemMatch) (value? : Option Value)
    (operand : Value) :
    Filter.meets value? (.document (Document.single op.operator operand))
      = Filter.holds value? op.operator op.reading operand
          (Document.single op.operator operand) := by
  rw [op.meets_document]
  apply Filter.meetsAll_holds op.ofName?_operator
  -- no comparison but one is read as an operator that takes a filter
  · cases op <;> simp_all [reading]
  · cases op <;> simp [reading]

/-- The elements that a filter is tried on are those of the array, one after the other. -/
theorem meets_elemMatch (value? : Option Value) (operand : Value) :
    Filter.meets value? (.document (Document.single "$elemMatch" operand))
      = elemMatch.test value? operand := by
  have hname : Filter.Operator.ofName? "$elemMatch" = some .elemMatch := by decide
  rw [show "$elemMatch" = elemMatch.operator from rfl, elemMatch.meets_document]
  cases operand with
  | document filter =>
    exact (Filter.meetsAll_elemMatch hname value? filter _ []).trans (Verdict.and_true_right _)
  | _ =>
    unfold Document.single Filter.meetsAll
    rw [show elemMatch.operator = "$elemMatch" from rfl, hname]
    rfl

/-- A compiled comparison is the test of its operator. Equality with a scalar has no operator in
a filter, which makes it a search if the scalar is a pattern. -/
theorem meets_condition (op : Comparison) (value? : Option Value) (operand : Value) :
    Filter.meets value? (Clause.condition op operand) = op.test value? operand := by
  cases op with
  | eq =>
    cases operand with
    | array items => exact eq.meets_operator (by decide) value? (.array items)
    | document fields => exact eq.meets_operator (by decide) value? (.document fields)
    | _ => simp only [Clause.condition, Filter.meets, test]
  | regex =>
    refine (regex.meets_operator (by decide) value? operand).trans ?_
    -- no options stand beside the pattern
    cases operand <;> rfl
  | elemMatch => exact meets_elemMatch value? operand
  | notIn =>
    refine (notIn.meets_operator (by decide) value? operand).trans ?_
    cases operand <;> rfl
  | type =>
    refine (type.meets_operator (by decide) value? operand).trans ?_
    cases value? <;> cases operand <;> rfl
  | size =>
    refine (size.meets_operator (by decide) value? operand).trans ?_
    rfl
  | ne => exact ne.meets_operator (by decide) value? operand
  | gt => exact gt.meets_operator (by decide) value? operand
  | gte => exact gte.meets_operator (by decide) value? operand
  | lt => exact lt.meets_operator (by decide) value? operand
  | lte => exact lte.meets_operator (by decide) value? operand
  | isIn => exact isIn.meets_operator (by decide) value? operand
  | present => exact present.meets_operator (by decide) value? operand
  | all => exact all.meets_operator (by decide) value? operand

end Comparison

/-! ## Evaluation of compiled junctions -/

namespace Clause

open DocumentStore.Filter

omit [Pattern.Engine] in
theorem areDocuments_compileAll (clauses : List Clause) :
    areDocuments (compileAll clauses) = true := by
  induction clauses with
  | nil => rfl
  | cons clause rest ih => simpa [areDocuments, compileAll] using ih

variable (d : Document)

theorem evaluateAll_compileAll_cons (clause : Clause) (rest : List Clause) :
    evaluateAll d (compileAll (clause :: rest))
      = Verdict.and (evaluate d clause.compile) (evaluateAll d (compileAll rest)) := by
  simp only [compileAll, evaluateAll]
  rfl

theorem evaluateAny_compileAll_cons (clause : Clause) (rest : List Clause) :
    evaluateAny d (compileAll (clause :: rest))
      = Verdict.or (evaluate d clause.compile) (evaluateAny d (compileAll rest)) := by
  simp only [compileAll, evaluateAny]
  rfl

theorem evaluate_and_compileAll (clauses : List Clause) :
    evaluate d (Document.single "$and" (.array (compileAll clauses)))
      = evaluateAll d (compileAll clauses) := by
  have hname : Head.ofName "$and" = .and := by decide
  simp only [Document.single, evaluate, hname, areDocuments_compileAll, ↓reduceIte]
  exact Verdict.and_true_right _

theorem evaluate_or_compileAll (clauses : List Clause) :
    evaluate d (Document.single "$or" (.array (compileAll clauses)))
      = evaluateAny d (compileAll clauses) := by
  have hname : Head.ofName "$or" = .or := by decide
  simp only [Document.single, evaluate, hname, areDocuments_compileAll, ↓reduceIte]
  exact Verdict.and_true_right _

theorem evaluate_nor_compileAll (clauses : List Clause) :
    evaluate d (Document.single "$nor" (.array (compileAll clauses)))
      = Verdict.not (evaluateAny d (compileAll clauses)) := by
  have hname : Head.ofName "$nor" = .nor := by decide
  simp only [Document.single, evaluate, hname, areDocuments_compileAll, ↓reduceIte]
  exact Verdict.and_true_right _

/-- A conjunction is evaluated clause by clause, whether it was compiled to a list or not. -/
theorem evaluate_compile_and (clauses : List Clause) :
    evaluate d (compile (.and clauses)) = evaluateAll d (compileAll clauses) := by
  match clauses with
  | [] => simp only [compile, compileAll, evaluate, evaluateAll]
  | [clause] =>
    rw [evaluateAll_compileAll_cons]
    simp only [compile, compileAll, evaluateAll, Verdict.and_true_right]
  | first :: second :: rest =>
    rw [← evaluate_and_compileAll]
    simp only [compile]

/-- The empty disjunction, which has no parts to be evaluated, is a literal. -/
theorem evaluate_compile_or (clauses : List Clause) :
    evaluate d (compile (.or clauses)) = evaluateAny d (compileAll clauses) := by
  match clauses with
  | [] =>
    have hname : Head.ofName "$expr" = .literal := by decide
    simp only [compile, compileAll, Document.single, evaluate, evaluateAny, hname]
    rfl
  | [clause] =>
    rw [evaluateAny_compileAll_cons]
    simp only [compile, compileAll, evaluateAny, Verdict.or_false_right]
  | first :: second :: rest =>
    rw [← evaluate_or_compileAll]
    simp only [compile]

theorem evaluate_compile_nor (clauses : List Clause) :
    evaluate d (compile (.nor clauses)) = Verdict.not (evaluateAny d (compileAll clauses)) := by
  match clauses with
  | [] =>
    simp only [compile, compileAll, evaluate, evaluateAny, Verdict.not_ok]
    rfl
  | first :: rest =>
    rw [← evaluate_nor_compileAll]
    simp only [compile]

theorem evaluate_compile_not (clause : Clause) :
    evaluate d (compile (.not clause)) = Verdict.not (evaluate d clause.compile) := by
  -- it is compiled to the negation of a disjunction with one part
  have hnor := evaluate_nor_compileAll d [clause]
  rw [evaluateAny_compileAll_cons] at hnor
  simpa only [compile, compileAll, evaluateAny, Verdict.or_false_right] using hnor

/-- A comparison of a field is the test of its operator on the value of the field. -/
theorem evaluate_comparison {path : String} (hpath : isOperatorName path = false) (op : Comparison)
    (operand : Value) :
    evaluate d (compile (.comparison path op operand)) = op.test (Path.lookup d path) operand := by
  rw [compile, evaluate_path hpath, op.meets_condition]

mutual

/-- The filter of a clause says what the clause does. -/
theorem evaluate_compile : (clause : Clause) → clause.namesFields →
    evaluate d clause.compile = clause.meaning d
  | .comparison path op operand, h => by
    have hpath : isOperatorName path = false := by simpa [namesFields] using h
    rw [evaluate_comparison d hpath, meaning]
  | .and clauses, h => by
    rw [evaluate_compile_and, evaluateAll_compileAll clauses h, meaning]
  | .or clauses, h => by
    rw [evaluate_compile_or, evaluateAny_compileAll clauses h, meaning]
  | .nor clauses, h => by
    rw [evaluate_compile_nor, evaluateAny_compileAll clauses h, meaning]
  | .not clause, h => by
    rw [evaluate_compile_not, evaluate_compile clause h, meaning]
  | .raw filter, _ => by
    rw [compile, meaning]

theorem evaluateAll_compileAll : (clauses : List Clause) → nameFields clauses →
    evaluateAll d (compileAll clauses) = meaningAll d clauses
  | [], _ => by
    rw [compileAll, evaluateAll, meaningAll]
  | clause :: rest, h => by
    obtain ⟨hclause, hrest⟩ := Bool.and_eq_true_iff.mp h
    rw [evaluateAll_compileAll_cons, evaluate_compile clause hclause,
      evaluateAll_compileAll rest hrest, meaningAll]

theorem evaluateAny_compileAll : (clauses : List Clause) → nameFields clauses →
    evaluateAny d (compileAll clauses) = meaningAny d clauses
  | [], _ => by
    rw [compileAll, evaluateAny, meaningAny]
  | clause :: rest, h => by
    obtain ⟨hclause, hrest⟩ := Bool.and_eq_true_iff.mp h
    rw [evaluateAny_compileAll_cons, evaluate_compile clause hclause,
      evaluateAny_compileAll rest hrest, meaningAny]

end

/-! ## Laws of junctions -/

theorem evaluateAll_compileAll_append (clauses more : List Clause) :
    evaluateAll d (compileAll (clauses ++ more))
      = Verdict.and (evaluateAll d (compileAll clauses)) (evaluateAll d (compileAll more)) := by
  induction clauses with
  | nil => rw [List.nil_append, compileAll, evaluateAll, Verdict.and_true_left]
  | cons clause rest ih =>
    rw [List.cons_append, evaluateAll_compileAll_cons, ih, evaluateAll_compileAll_cons,
      Verdict.and_assoc]

theorem evaluateAny_compileAll_append (clauses more : List Clause) :
    evaluateAny d (compileAll (clauses ++ more))
      = Verdict.or (evaluateAny d (compileAll clauses)) (evaluateAny d (compileAll more)) := by
  induction clauses with
  | nil => rw [List.nil_append, compileAll, evaluateAny, Verdict.or_false_left]
  | cons clause rest ih =>
    rw [List.cons_append, evaluateAny_compileAll_cons, ih, evaluateAny_compileAll_cons,
      Verdict.or_assoc]

/-- The negation of a conjunction asks the same clauses as the disjunction of their negations. -/
theorem not_evaluateAll (clauses : List Clause) :
    Verdict.not (evaluateAll d (compileAll clauses))
      = evaluateAny d (compileAll (clauses.map .not)) := by
  induction clauses with
  | nil => rfl
  | cons clause rest ih =>
    rw [evaluateAll_compileAll_cons, Verdict.not_and, ih, List.map_cons,
      evaluateAny_compileAll_cons, evaluate_compile_not]

theorem not_evaluateAny (clauses : List Clause) :
    Verdict.not (evaluateAny d (compileAll clauses))
      = evaluateAll d (compileAll (clauses.map .not)) := by
  induction clauses with
  | nil => rfl
  | cons clause rest ih =>
    rw [evaluateAny_compileAll_cons, Verdict.not_or, ih, List.map_cons,
      evaluateAll_compileAll_cons, evaluate_compile_not]

/-- A combination is a conjunction, also where it extends one. -/
theorem evaluate_compile_andThen (clause other : Clause) :
    evaluate d (clause.andThen other).compile
      = Verdict.and (evaluate d clause.compile) (evaluate d other.compile) := by
  have hother : evaluateAll d (compileAll [other]) = evaluate d other.compile := by
    rw [evaluateAll_compileAll_cons, compileAll, evaluateAll, Verdict.and_true_right]
  cases clause with
  | and clauses =>
    rw [andThen, evaluate_compile_and, evaluateAll_compileAll_append, hother,
      evaluate_compile_and]
  | _ => simp only [andThen, evaluate_compile_and, evaluateAll_compileAll_cons, hother]

theorem evaluate_compile_orElse (clause other : Clause) :
    evaluate d (clause.orElse other).compile
      = Verdict.or (evaluate d clause.compile) (evaluate d other.compile) := by
  have hother : evaluateAny d (compileAll [other]) = evaluate d other.compile := by
    rw [evaluateAny_compileAll_cons, compileAll, evaluateAny, Verdict.or_false_right]
  cases clause with
  | or clauses =>
    rw [orElse, evaluate_compile_or, evaluateAny_compileAll_append, hother, evaluate_compile_or]
  | _ => simp only [orElse, evaluate_compile_or, evaluateAny_compileAll_cons, hother]

/-- Equality of clauses by the laws of junctions and negation, anywhere inside of a clause. A
junction takes up those of its kind among its parts, so the empty ones disappear. -/
inductive Same : Clause → Clause → Prop where
  | refl (clause : Clause) : Same clause clause
  | symm {clause other : Clause} : Same clause other → Same other clause
  | trans {clause other third : Clause} : Same clause other → Same other third → Same clause third
  | notNot (clause : Clause) : Same (.not (.not clause)) clause
  | notAnd (clauses : List Clause) : Same (.not (.and clauses)) (.or (clauses.map .not))
  | notOr (clauses : List Clause) : Same (.not (.or clauses)) (.and (clauses.map .not))
  | nor (clauses : List Clause) : Same (.nor clauses) (.not (.or clauses))
  | andSingle (clause : Clause) : Same (.and [clause]) clause
  | orSingle (clause : Clause) : Same (.or [clause]) clause
  | andAnd (before inner after : List Clause) :
    Same (.and (before ++ .and inner :: after)) (.and (before ++ (inner ++ after)))
  | orOr (before inner after : List Clause) :
    Same (.or (before ++ .or inner :: after)) (.or (before ++ (inner ++ after)))
  | underNot {clause other : Clause} : Same clause other → Same (.not clause) (.not other)
  | underAnd {clause other : Clause} (before after : List Clause) : Same clause other →
    Same (.and (before ++ clause :: after)) (.and (before ++ other :: after))
  | underOr {clause other : Clause} (before after : List Clause) : Same clause other →
    Same (.or (before ++ clause :: after)) (.or (before ++ other :: after))
  | underNor {clause other : Clause} (before after : List Clause) : Same clause other →
    Same (.nor (before ++ clause :: after)) (.nor (before ++ other :: after))

/-- Equal clauses are told apart by no document, not even by the errors they end in. -/
theorem Same.evaluate_eq {clause other : Clause} (h : Same clause other) :
    evaluate d clause.compile = evaluate d other.compile := by
  induction h with
  | refl clause => rfl
  | symm _ ih => exact ih.symm
  | trans _ _ ih ih' => exact ih.trans ih'
  | notNot clause => rw [evaluate_compile_not, evaluate_compile_not, Verdict.not_not]
  | notAnd clauses =>
    rw [evaluate_compile_not, evaluate_compile_and, evaluate_compile_or, not_evaluateAll]
  | notOr clauses =>
    rw [evaluate_compile_not, evaluate_compile_or, evaluate_compile_and, not_evaluateAny]
  | nor clauses => rw [evaluate_compile_nor, evaluate_compile_not, evaluate_compile_or]
  | andSingle clause => rw [compile]
  | orSingle clause => rw [compile]
  | andAnd before inner after =>
    simp only [evaluate_compile_and, evaluateAll_compileAll_append, evaluateAll_compileAll_cons]
  | orOr before inner after =>
    simp only [evaluate_compile_or, evaluateAny_compileAll_append, evaluateAny_compileAll_cons]
  | underNot _ ih => rw [evaluate_compile_not, ih, evaluate_compile_not]
  | underAnd before after _ ih =>
    simp only [evaluate_compile_and, evaluateAll_compileAll_append, evaluateAll_compileAll_cons,
      ih]
  | underOr before after _ ih =>
    simp only [evaluate_compile_or, evaluateAny_compileAll_append, evaluateAny_compileAll_cons, ih]
  | underNor before after _ ih =>
    simp only [evaluate_compile_nor, evaluateAny_compileAll_append, evaluateAny_compileAll_cons,
      ih]

/-! ## Clauses mean what they say -/

/-- The filter that a clause compiles to comes to what the clause means, errors included. So a
combination of clauses means both of them, or either, and clauses that are equal by the laws of
junctions and negation select the same documents. -/
theorem compile_keeps_meaning :
    (∀ clause : Clause, clause.namesFields → ∀ d, evaluate d clause.compile = clause.meaning d) ∧
    (∀ (clause other : Clause) d,
      evaluate d (clause.andThen other).compile
          = Verdict.and (evaluate d clause.compile) (evaluate d other.compile) ∧
        evaluate d (clause.orElse other).compile
          = Verdict.or (evaluate d clause.compile) (evaluate d other.compile)) ∧
    ∀ clause other : Clause, Same clause other → ∀ (cs : Collections) (name : String),
      cs.select name clause.compile = cs.select name other.compile := by
  refine ⟨?_, ?_, ?_⟩
  · intro clause h d
    exact evaluate_compile d clause h
  · intro clause other d
    exact ⟨evaluate_compile_andThen d clause other, evaluate_compile_orElse d clause other⟩
  · intro clause other h cs name
    exact select_congr (fun d => h.evaluate_eq d) cs name

end Clause

end Engine

namespace Clause

open DocumentStore.Filter

/-- Who is of age and has a name. The condition behind, which is malformed, is asked of all
others. -/
def ofAge : Clause :=
  .or [.and [.comparison "age" .gte (.int32 18), .not (.comparison "name" .eq .null)],
    .comparison "name" .size (.string "none")]

theorem compile_keeps_meaning_ofAge :
    ofAge.namesFields = true ∧
      (evaluate [("name", .string "Ada"), ("age", .int32 36)] ofAge.compile
          = ofAge.meaning [("name", .string "Ada"), ("age", .int32 36)] ∧
        ofAge.meaning [("name", .string "Ada"), ("age", .int32 36)] = .ok true) ∧
      (evaluate [("name", .string "Tim")] ofAge.compile = ofAge.meaning [("name", .string "Tim")] ∧
        ofAge.meaning [("name", .string "Tim")]
          = .error (.invalidQuery (.integerRequired "$size"))) ∧
      Collections.select [("people", [[("name", .string "Ada"), ("age", .int32 36)]])] "people"
          (Clause.not ofAge).compile
        = Collections.select [("people", [[("name", .string "Ada"), ("age", .int32 36)]])] "people"
          (Clause.and [.not (.and [.comparison "age" .gte (.int32 18),
            .not (.comparison "name" .eq .null)]),
            .not (.comparison "name" .size (.string "none"))]).compile :=
  ⟨by decide, ⟨compile_keeps_meaning.1 ofAge (by decide) _, rfl⟩,
    ⟨compile_keeps_meaning.1 ofAge (by decide) _, rfl⟩,
    compile_keeps_meaning.2.2 _ _ (.notOr _) _ _⟩

end Clause

end DocumentStore
