import DocumentStore.Proofs.Pipeline.Rearranged
import DocumentStore.Proofs.Pipeline.Search

/-!
# Fields that are set together

A stage writes its fields one after the other, and each expression reads the document with what was
written before it. It writes them together, all expressions reading the document as it came in, as
long as no expression reads a path that was written before. Then the order of the fields shows in
the order of what was written only.
-/
namespace DocumentStore

/-! ## Steps in another order -/

section Steps

variable {α β : Type} {step : β → α → Result β} {related : β → β → Prop} {free : α → α → Prop}
  {xs ys : List α} {start start' : β}

/-- Steps from related starts. -/
theorem foldlM_of_related
    (hstep : ∀ {b b'} x, related b b' → Result.Both related (step b x) (step b' x))
    (h : related start start') (xs : List α) :
    Result.Both related (xs.foldlM step start) (xs.foldlM step start') := by
  induction xs generalizing start start' with
  | nil => exact .ok h
  | cons x rest ih =>
    simp only [List.foldlM_cons]
    exact (hstep x h).bind fun b b' hb => ih hb

/-- Steps that can be exchanged two by two can be taken in any order. -/
theorem foldlM_of_perm (hrefl : ∀ b, related b b)
    (htrans : ∀ {b b' b''}, related b b' → related b' b'' → related b b'')
    (hstep : ∀ {b b'} x, related b b' → Result.Both related (step b x) (step b' x))
    (hsymm : ∀ {x y}, free x y → free y x)
    (hswap : ∀ {x y} b, free x y →
      Result.Both related (step b x >>= (step · y)) (step b y >>= (step · x)))
    (hperm : xs.Perm ys) (hfree : xs.Pairwise free) (start : β) :
    Result.Both related (xs.foldlM step start) (ys.foldlM step start) := by
  induction hperm generalizing start with
  | nil => exact .ok (hrefl start)
  | cons x _ ih =>
    simp only [List.foldlM_cons]
    cases step start x with
    | error e => exact .error e e
    | ok next => exact ih (List.pairwise_cons.mp hfree).2 next
  | swap x y rest =>
    have hxy := (List.pairwise_cons.mp hfree).1 x List.mem_cons_self
    simp only [List.foldlM_cons, ← bind_assoc]
    exact (hswap start hxy).bind fun b b' hb => foldlM_of_related hstep hb rest
  | trans hperm _ ih ih' =>
    exact .trans (R := related) htrans (ih hfree start)
      (ih' (hperm.pairwise hfree hsymm) start)

/-- Steps on each of several elements. -/
theorem mapM_of_related {γ : Type} {f g : α → Result γ} {related : γ → γ → Prop}
    (h : ∀ x, Result.Both related (f x) (g x)) (xs : List α) :
    Result.Both (List.Forall₂ related) (xs.mapM f) (xs.mapM g) := by
  induction xs with
  | nil => exact .ok .nil
  | cons x rest ih =>
    simp only [List.mapM_cons]
    exact (h x).bind fun y y' hy => ih.bind fun ys ys' hys => .ok (.cons hy hys)

end Steps

/-! ## What expressions read -/

namespace Expression

mutual

/-- The paths that an expression reads. -/
def references : Value → List String
  | .string text => if isVariable text then [] else (reference? text).toList
  | .document fields =>
    match literal? fields with
    | some _ => []
    | none => referencesOfFields fields
  | .array items => referencesOfItems items
  | _ => []
termination_by structural expression => expression

/-- The paths that the fields of an expression read. -/
def referencesOfFields : List (String × Value) → List String
  | [] => []
  | (_, expression) :: rest => references expression ++ referencesOfFields rest
termination_by structural fields => fields

/-- The paths that the items of an expression read. -/
def referencesOfItems : List Value → List String
  | [] => []
  | expression :: rest => references expression ++ referencesOfItems rest
termination_by structural items => items

end

variable {d d' : Document}

mutual

/-- The value of an expression depends on what its references lead to. -/
theorem evaluate_congr (expression : Value)
    (h : ∀ path ∈ references expression, Path.lookup d' path = Path.lookup d path) :
    evaluate d' expression = evaluate d expression := by
  cases expression with
  | string text =>
    simp only [references] at h
    simp only [evaluate]
    split
    · rfl
    · next hvariable =>
      rw [if_neg hvariable] at h
      cases hreference : reference? text with
      | none => rfl
      | some path => simp only [h path (by simp [hreference])]
  | document fields =>
    simp only [references] at h
    simp only [evaluate]
    split
    · rfl
    · next hliteral =>
      rw [hliteral] at h
      rw [evaluateFields_congr fields h]
  | array items =>
    simp only [references] at h
    simp only [evaluate, evaluateItems_congr items h]
  | _ => rfl
termination_by structural expression

theorem evaluateFields_congr (fields : List (String × Value))
    (h : ∀ path ∈ referencesOfFields fields, Path.lookup d' path = Path.lookup d path)
    (written : Document) : evaluateFields d' written fields = evaluateFields d written fields := by
  cases fields with
  | nil => rfl
  | cons field rest =>
    obtain ⟨name, expression⟩ := field
    simp only [referencesOfFields, List.forall_mem_append] at h
    simp only [evaluateFields, evaluate_congr expression h.1, evaluateFields_congr rest h.2]
termination_by structural fields

theorem evaluateItems_congr (items : List Value)
    (h : ∀ path ∈ referencesOfItems items, Path.lookup d' path = Path.lookup d path) :
    evaluateItems d' items = evaluateItems d items := by
  cases items with
  | nil => rfl
  | cons expression rest =>
    simp only [referencesOfItems, List.forall_mem_append] at h
    simp only [evaluateItems, evaluate_congr expression h.1, evaluateItems_congr rest h.2]
termination_by structural items

end

end Expression

/-! ## Fields of a stage -/

namespace Pipeline

open Document (Rearranged)

variable {fields : List (String × Value)} {d written written' : Document}
  {field other : String × Value}

/-- Writes a field whose expression reads a document of its own. -/
def writeField (d written : Document) (field : String × Value) : Result Document := do
  match ← Expression.evaluate d field.2 with
  | some value => Path.set written field.1 value
  | none => .ok written

/-- Writes fields whose expressions all read the document as it is before. -/
def setTogether (fields : List (String × Value)) (d : Document) : Result Document :=
  fields.foldlM (writeField d) d

/-- Whether no expression reads a path that is written before it. -/
def ReadsAhead (fields : List (String × Value)) : Prop :=
  fields.Pairwise fun earlier later =>
    ∀ path ∈ Expression.references later.2, Path.Apart earlier.1 path

/-- Whether no path of a stage leads into another one or is equal to it. -/
def WritesApart (fields : List (String × Value)) : Prop :=
  fields.Pairwise fun field other => Path.Apart field.1 other.1

instance (fields : List (String × Value)) : Decidable (ReadsAhead fields) :=
  inferInstanceAs (Decidable (List.Pairwise _ _))

instance (fields : List (String × Value)) : Decidable (WritesApart fields) :=
  inferInstanceAs (Decidable (List.Pairwise _ _))

/-- What expressions read is still as it was in the document that came in. -/
theorem setFields_eq (hahead : ReadsAhead fields)
    (hread : ∀ field ∈ fields, ∀ path ∈ Expression.references field.2,
      Path.lookup written path = Path.lookup d path) :
    setFields written fields = fields.foldlM (writeField d) written := by
  induction fields generalizing written with
  | nil => rfl
  | cons field rest ih =>
    obtain ⟨path, expression⟩ := field
    obtain ⟨hfirst, hrest⟩ := List.pairwise_cons.mp hahead
    obtain ⟨hhead, htail⟩ := List.forall_mem_cons.mp hread
    rw [setFields, List.foldlM_cons, writeField, Expression.evaluate_congr expression hhead]
    cases Expression.evaluate d expression with
    | error e => rfl
    | ok value? =>
      cases value? with
      | none => exact ih hrest htail
      | some value =>
        cases hset : Path.set written path value with
        | error e => simp only [bind, Except.bind, hset]
        | ok next =>
          simp only [bind, Except.bind, hset]
          refine ih hrest fun field hfield seen hseen => ?_
          rw [Path.lookup_set_of_apart (hfirst field hfield seen hseen) hset]
          exact htail field hfield seen hseen

theorem setFields_eq_setTogether (hahead : ReadsAhead fields) (d : Document) :
    setFields d fields = setTogether fields d :=
  setFields_eq hahead fun _ _ _ _ => rfl

/-! ## The order of fields -/

/-- A field fails, is left out or is written, whatever was written before it. -/
theorem writeField_cases (d : Document) (field : String × Value) :
    (∃ e, ∀ written, writeField d written field = .error e) ∨
      (∀ written, writeField d written field = .ok written) ∨
      ∃ value, ∀ written, writeField d written field = Path.set written field.1 value := by
  unfold writeField
  cases Expression.evaluate d field.2 with
  | error e => exact .inl ⟨e, fun _ => rfl⟩
  | ok value? =>
    cases value? with
    | none => exact .inr (.inl fun _ => rfl)
    | some value => exact .inr (.inr ⟨value, fun _ => rfl⟩)

theorem writeField_of_rearranged (field : String × Value) (h : Rearranged written written') :
    Result.Both Rearranged (writeField d written field) (writeField d written' field) := by
  obtain ⟨e, hfail⟩ | hskip | ⟨value, hset⟩ := writeField_cases d field
  · rw [hfail, hfail]
    exact .error e e
  · rw [hskip, hskip]
    exact .ok h
  · rw [hset, hset]
    exact Path.setAt_of_rearranged h

/-- Fields whose paths keep apart can be exchanged. -/
theorem writeField_comm (hapart : Path.Apart field.1 other.1) (d written : Document) :
    Result.Both Rearranged (writeField d written field >>= (writeField d · other))
      (writeField d written other >>= (writeField d · field)) := by
  have hlast (result : Result Document) : (result >>= fun next => .ok next) = result :=
    bind_pure result
  have hfails (result : Result Document) (e : ServiceError) :
      Result.Both Rearranged (.error e) (result >>= fun _ => .error e) ∧
        Result.Both Rearranged (result >>= fun _ => .error e) (.error e) := by
    cases result with
    | error e' => exact ⟨.error e e', .error e' e⟩
    | ok next => exact ⟨.error e e, .error e e⟩
  obtain ⟨e, hfail⟩ | hskip | ⟨value, hset⟩ := writeField_cases d field
  · simp only [hfail]
    exact (hfails _ e).1
  · simp only [hskip]
    rw [hlast]
    exact .refl .refl _
  · obtain ⟨e, hfail'⟩ | hskip' | ⟨value', hset'⟩ := writeField_cases d other
    · simp only [hfail']
      exact (hfails _ e).2
    · simp only [hskip']
      rw [hlast]
      exact .refl .refl _
    · simp only [hset, hset']
      exact Path.setAt_comm hapart written

theorem setTogether_of_perm {fields' : List (String × Value)} (hperm : fields.Perm fields')
    (hapart : WritesApart fields) (d : Document) :
    Result.Both Rearranged (setTogether fields d) (setTogether fields' d) :=
  foldlM_of_perm Rearranged.refl Value.Rearranged.trans writeField_of_rearranged
    Path.Apart.symm (fun written h => writeField_comm h d written) hperm hapart d

/-! ## Stages -/

theorem run_set {kind : StageKind} (hkind : kind = .set ∨ kind = .addFields)
    (hahead : ReadsAhead fields) (ds : List Document) :
    run [kind.stage (.document fields)] ds = ds.mapM (setTogether fields) := by
  have hname : Operator.ofName? kind.operator = some .set := by
    obtain rfl | rfl := hkind <;> decide
  have htogether : (setFields · fields) = setTogether fields :=
    funext (setFields_eq_setTogether hahead)
  have hstage : runStage .set kind.operator (.document fields) ds
      = ds.mapM (setTogether fields) := by
    rw [← htogether]
    rfl
  rw [run_stage [] ds kind .set _ hname, hstage]
  exact bind_pure _

/-- A stage whose expressions read nothing that was written before them sets its fields together,
and it does so in every such order of its fields. -/
theorem fields_set_together {kind : StageKind} (hkind : kind = .set ∨ kind = .addFields)
    (hapart : WritesApart fields) (hahead : ReadsAhead fields) (ds : List Document) :
    run [kind.stage (.document fields)] ds = ds.mapM (setTogether fields) ∧
      ∀ fields' : Document, fields'.Perm fields → ReadsAhead fields' →
        Result.Both (List.Forall₂ fun a b => Rearranged a b ∧
            ((Value.document a).Whole → Document.same a b = true))
          (run [kind.stage (.document fields)] ds) (run [kind.stage (.document fields')] ds) := by
  refine ⟨run_set hkind hahead ds, fun fields' hperm hahead' => ?_⟩
  rw [run_set hkind hahead, run_set hkind hahead']
  refine mapM_of_related (fun d => ?_) ds
  exact (setTogether_of_perm hperm.symm hapart d).imp fun h => ⟨h, h.same⟩

/-- Fields inside of two documents. What the second field reads is written behind it. -/
theorem fields_set_together_place :
    let fields : Document :=
      [("a.x", .string "$b.y"), ("b.z", .string "$c"), ("c", .array [.int32 1, .string "$n"])]
    let fields' : Document :=
      [("b.z", .string "$c"), ("a.x", .string "$b.y"), ("c", .array [.int32 1, .string "$n"])]
    let ds : List Document :=
      [[("b", .document [("y", .int32 1)]), ("c", .string "old")],
       [("n", .int32 2), ("a", .document [])]]
    (WritesApart fields ∧ ReadsAhead fields ∧ fields'.Perm fields ∧ ReadsAhead fields' ∧
        (ds.mapM (setTogether fields)).isOk = true) ∧
      run [StageKind.addFields.stage (.document fields)] ds = ds.mapM (setTogether fields) ∧
      Result.Both (List.Forall₂ fun a b => Rearranged a b ∧
          ((Value.document a).Whole → Document.same a b = true))
        (run [StageKind.addFields.stage (.document fields)] ds)
        (run [StageKind.addFields.stage (.document fields')] ds) := by
  intro fields fields' ds
  have hapart : WritesApart fields := by decide
  have hahead : ReadsAhead fields := by decide
  have hahead' : ReadsAhead fields' := by decide
  have hperm : fields'.Perm fields := .swap ..
  obtain ⟨hrun, horder⟩ := fields_set_together (.inr rfl) hapart hahead ds
  exact ⟨⟨hapart, hahead, hperm, hahead', rfl⟩, hrun, horder fields' hperm hahead'⟩

/-- Two fields that should be exchanged. The second expression reads what the first field has just
written, and in the other order it is the other way round. -/
theorem fields_set_in_turn :
    let holding (a b : Int32) : Document := [(idField, .int32 1), ("a", .int32 a), ("b", .int32 b)]
    let fields : Document := [("a", .string "$b"), ("b", .string "$a")]
    let fields' : Document := [("b", .string "$a"), ("a", .string "$b")]
    WritesApart fields ∧ fields'.Perm fields ∧
      setTogether fields (holding 1 2) = .ok (holding 2 1) ∧
      run [StageKind.set.stage (.document fields)] [holding 1 2] = .ok [holding 2 2] ∧
      run [StageKind.set.stage (.document fields')] [holding 1 2] = .ok [holding 1 1] ∧
      Document.same (holding 2 2) (holding 1 1) = false :=
  ⟨by decide, .swap .., rfl, rfl, rfl, by decide⟩

end Pipeline

end DocumentStore
