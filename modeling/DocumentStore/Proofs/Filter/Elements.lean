import DocumentStore.Proofs.Filter.Totality

/-!
# Searching arrays for documents

A clause may be asked of the elements of an array: the array is met if one of its elements is a
document that meets the clause by itself. The clause is compiled for that, and the search takes a
filter that begins with an operator for a condition on the elements as they are. Comparisons of
fields begin with a field, and so does what is compiled to one of them. Junctions that keep their
own name do not, and that name is none of an operator on values, so a search with them fails at the
first element.
-/
namespace DocumentStore

/-! ## The first name of a filter -/

namespace Clause

open DocumentStore.Filter

mutual

def beginsWithOperator : Clause → Bool
  | .comparison path _ _ => isOperatorName path
  | .and clauses => junctionBegins false clauses
  | .or clauses => junctionBegins true clauses
  | .nor clauses => !clauses.isEmpty
  | .not _ => true
  | .raw filter => isOperatorDocument filter

/-- Whether that of a junction does, which is the filter of its only part if it has but one. -/
def junctionBegins (empty : Bool) : List Clause → Bool
  | [] => empty
  | [clause] => beginsWithOperator clause
  | _ => true

end

theorem isOperatorDocument_compile (clause : Clause) :
    isOperatorDocument clause.compile = clause.beginsWithOperator := by
  match clause with
  | .comparison path op operand => rfl
  | .raw filter => rw [compile, beginsWithOperator]
  | .not clause => rfl
  | .and [] => rfl
  | .and [clause] =>
    rw [compile, beginsWithOperator, junctionBegins]
    exact isOperatorDocument_compile clause
  | .and (_ :: _ :: _) => rfl
  | .or [] => rfl
  | .or [clause] =>
    rw [compile, beginsWithOperator, junctionBegins]
    exact isOperatorDocument_compile clause
  | .or (_ :: _ :: _) => rfl
  | .nor [] => rfl
  | .nor (_ :: _) => rfl

/-- The clauses that are combined from comparisons of fields. -/
def IsCombined : Clause → Prop :=
  Combines fun path _ _ => isOperatorName path = false

/-- The name that a combination begins with, if it is no field's, is no operator on values. -/
theorem IsCombined.compile_eq {clause : Clause} (h : clause.IsCombined)
    (hoperator : clause.beginsWithOperator) :
    ∃ name operand, clause.compile = Document.single name operand ∧
      Operator.ofName? name = none := by
  induction h with
  | comparison hpath =>
    rw [beginsWithOperator, hpath] at hoperator
    cases hoperator
  -- a junction of one clause is that clause, of several it begins with its own name
  | @and clauses _ ih =>
    match clauses with
    | [] => cases hoperator
    | [clause] =>
      rw [compile]
      simp only [beginsWithOperator, junctionBegins] at hoperator
      exact ih clause List.mem_cons_self hoperator
    | _ :: _ :: _ => exact ⟨"$and", _, rfl, by decide⟩
  | @or clauses _ ih =>
    match clauses with
    | [] => exact ⟨"$expr", _, rfl, by decide⟩
    | [clause] =>
      rw [compile]
      simp only [beginsWithOperator, junctionBegins] at hoperator
      exact ih clause List.mem_cons_self hoperator
    | _ :: _ :: _ => exact ⟨"$or", _, rfl, by decide⟩
  | @nor clauses _ ih =>
    match clauses with
    | [] => cases hoperator
    | _ :: _ => exact ⟨"$nor", _, rfl, by decide⟩
  | not => exact ⟨"$nor", _, rfl, by decide⟩

end Clause

/-! ## Searches -/

namespace Filter

open Verdict

variable [Pattern.Engine]

/-- The elements of a value that is an array, and no elements of any other. -/
def elements : Option Value → List Value
  | some (.array items) => items
  | _ => []

theorem test_elemMatch (value? : Option Value) (filter : Document) :
    Comparison.elemMatch.test value? (.document filter)
      = (elements value?).anyM (meetsElement filter) := by
  cases value? with
  | none => rfl
  | some value => cases value <;> rfl

omit [Pattern.Engine] in
/-- A search that does not fail finds what is there. -/
theorem anyM_spec {f : Value → Verdict} {items : List Value}
    (h : ∀ item ∈ items, Answered (f item)) :
    ∃ matched, items.anyM f = .ok matched ∧
      (matched = true ↔ ∃ item ∈ items, f item = .ok true) := by
  induction items with
  | nil => exact ⟨false, rfl, nofun, nofun⟩
  | cons item rest ih =>
    obtain ⟨⟨found, hfound⟩, hrest⟩ := List.forall_mem_cons.mp h
    obtain ⟨matched, hmatched, hiff⟩ := ih hrest
    refine ⟨found || matched, ?_, ?_⟩
    · rw [List.anyM, hfound]
      cases found with
      | false => exact hmatched
      | true => rfl
    · simp [hfound, hiff]

theorem meetsElement_answered {filter : Document} (hfilter : isOperatorDocument filter = false)
    {items : List Value}
    (h : ∀ inner, .document inner ∈ items → Answered (evaluate inner filter)) :
    ∀ item ∈ items, Answered (meetsElement filter item) := by
  intro item hitem
  unfold meetsElement
  rw [hfilter]
  cases item with
  | document inner => exact h inner hitem
  | _ => exact ⟨false, rfl⟩

/-- Only documents are met by a filter that begins with a field. -/
theorem exists_meetsElement {filter : Document} (hfilter : isOperatorDocument filter = false)
    {items : List Value} :
    (∃ item ∈ items, meetsElement filter item = .ok true) ↔
      ∃ inner, .document inner ∈ items ∧ evaluate inner filter = .ok true := by
  unfold meetsElement
  rw [hfilter]
  constructor
  · rintro ⟨item, hitem, hmet⟩
    cases item with
    | document inner => exact ⟨inner, hitem, hmet⟩
    | _ => cases hmet
  · rintro ⟨inner, hinner, hmet⟩
    exact ⟨.document inner, hinner, hmet⟩

/-- A name that is no operator's is an error at any element. -/
theorem meetsElement_unknown {name : String} {operand : Value}
    (hname : Operator.ofName? name = none)
    (hoperator : isOperatorDocument (Document.single name operand) = true) (item : Value) :
    meetsElement (Document.single name operand) item
      = .error (.invalidQuery (.unknownOperator name)) := by
  unfold meetsElement
  rw [if_pos hoperator, meets, if_pos hoperator]
  unfold Document.single meetsAll
  rw [hname]
  rfl

end Filter

namespace Field

open DocumentStore.Filter Verdict

/-- An array is searched for a document that meets a clause, as long as the clause begins with a
field, and does not fail on the documents in the array. A combination that begins with an operator
fails on every array that has an element. -/
theorem elemMatch_searches [Pattern.Engine] (field : Field)
    (hfield : isOperatorName field.path = false)
    (hkind : field.kind = .array ∨ field.kind = .any) (clause : Clause) :
    ∃ condition, field.elemMatch clause.compile = .ok condition ∧ ∀ d,
      (clause.beginsWithOperator = false →
        (∀ inner, .document inner ∈ elements (Path.lookup d field.path) →
          Answered (evaluate inner clause.compile)) →
        ∃ matched, evaluate d condition.compile = .ok matched ∧
          (matched = true ↔ ∃ inner, .document inner ∈ elements (Path.lookup d field.path) ∧
            evaluate inner clause.compile = .ok true)) ∧
      (clause.beginsWithOperator → clause.IsCombined → elements (Path.lookup d field.path) ≠ [] →
        ∃ name, evaluate d condition.compile
          = .error (.invalidQuery (.unknownOperator name))) := by
  have hbuilt : field.elemMatch clause.compile
      = .ok (.comparison field.path .elemMatch (.document clause.compile)) := by
    obtain hkind | hkind := hkind
    · simp [elemMatch, require, hkind, bind, Except.bind, pure, Except.pure]
    · simp [elemMatch, require, hkind, bind, Except.bind, pure, Except.pure]
  refine ⟨_, hbuilt, fun d => ?_⟩
  rw [Clause.evaluate_comparison _ hfield, test_elemMatch]
  constructor
  · intro hbegins hanswered
    rw [← Clause.isOperatorDocument_compile] at hbegins
    obtain ⟨matched, hmatched, hiff⟩ := anyM_spec (meetsElement_answered hbegins hanswered)
    exact ⟨matched, hmatched, hiff.trans (exists_meetsElement hbegins)⟩
  -- the first element is read for operators on values, of which the name is none
  · intro hbegins hclause helements
    obtain ⟨name, operand, hcompile, hname⟩ := hclause.compile_eq hbegins
    rw [← Clause.isOperatorDocument_compile, hcompile] at hbegins
    obtain ⟨item, rest, hitems⟩ := List.exists_cons_of_ne_nil helements
    refine ⟨name, ?_⟩
    rw [hitems, List.anyM, hcompile, meetsElement_unknown hname hbegins]
    rfl

/-- The lines of an order, -/
def lines : Field := ⟨"lines", .array, false⟩

/-- and one of them. -/
def line : Document := [("sku", .string "b"), ("count", .int32 2)]

theorem elemMatch_searches_lines :
    let clause := Clause.or [.and [.comparison "sku" .eq (.string "b")]]
    let junction := Clause.not clause
    let items : List Value := [.int32 1, .document line]
    let d : Document := [("lines", .array items)]
    isOperatorName lines.path = false ∧ lines.kind = .array ∧
      (clause.beginsWithOperator = false ∧ ∃ condition,
        lines.elemMatch clause.compile = .ok condition ∧ ∃ matched,
          evaluate d condition.compile = .ok matched ∧
          (matched = true ↔ ∃ inner, .document inner ∈ items ∧
            evaluate inner clause.compile = .ok true)) ∧
      junction.beginsWithOperator ∧ junction.IsCombined ∧ ∃ condition,
        lines.elemMatch junction.compile = .ok condition ∧ ∃ name,
          evaluate d condition.compile = .error (.invalidQuery (.unknownOperator name)) := by
  intro clause junction items d
  have hcombined : clause.IsCombined :=
    .or (List.forall_mem_singleton.mpr (.and (List.forall_mem_singleton.mpr (.comparison rfl))))
  have hanswered : ∀ inner, .document inner ∈ items →
      Answered (evaluate inner clause.compile) := by
    intro inner hinner
    obtain h | h := List.mem_cons.mp hinner
    · cases h
    · obtain rfl := Value.document.inj (List.mem_singleton.mp h)
      exact ⟨true, rfl⟩
  obtain ⟨condition, hbuilt, hd⟩ := elemMatch_searches lines rfl (.inl rfl) clause
  obtain ⟨refused, hrefused, hfails⟩ := elemMatch_searches lines rfl (.inl rfl) junction
  exact ⟨rfl, rfl, ⟨rfl, condition, hbuilt, (hd d).1 rfl hanswered⟩, rfl, .not hcombined, refused,
    hrefused, (hfails d).2 rfl (.not hcombined) nofun⟩

/-- A line meets both parts of a conjunction, and the conjunction itself, but a search for it in the
lines of an order fails. -/
theorem elemMatch_refuses_conjunction :
    let sku := Clause.comparison "sku" .eq (.string "b")
    let count := Clause.comparison "count" .gt (.int32 1)
    let clause := Clause.and [sku, count]
    let d : Document := [("lines", .array [.document line])]
    (evaluate line sku.compile = .ok true ∧ evaluate line count.compile = .ok true ∧
      evaluate line clause.compile = .ok true) ∧
    ∃ condition, lines.elemMatch clause.compile = .ok condition ∧
      evaluate d condition.compile = .error (.invalidQuery (.unknownOperator "$and")) ∧
      ¬ (evaluate d condition.compile = .ok true ↔ ∃ items inner,
        Path.lookup d lines.path = some (.array items) ∧ .document inner ∈ items ∧
          evaluate inner clause.compile = .ok true) := by
  intro sku count clause d
  have hmet : evaluate line clause.compile = .ok true := rfl
  refine ⟨⟨rfl, rfl, hmet⟩,
    .comparison "lines" .elemMatch (.document clause.compile), rfl, rfl, fun h => ?_⟩
  cases h.mpr ⟨_, line, rfl, List.mem_singleton.mpr rfl, hmet⟩

end Field

end DocumentStore
