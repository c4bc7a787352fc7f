import DocumentStore.Proofs.Pipeline.Shares

/-!
# Extremes and sorting

The least value of a group is found in one pass, which keeps the first of several. A sort is stable,
so it puts the same value in front: the least value of documents is the first one when they are
sorted in ascending order, and the greatest one is the first in descending order.
-/
namespace DocumentStore.Sort

/-! ## The first element of a sort -/

variable {α : Type} {before before' : α → α → Bool} {cmp : α → α → Ordering} {x : α}
  {xs : List α}

/-- What is kept of an element and the best one before it. -/
def better (before : α → α → Bool) (best? : Option α) (x : α) : Option α :=
  match best? with
  | some best => if before x best then some x else some best
  | none => some x

/-- The element that precedes the others, the first of several. -/
def leading (before : α → α → Bool) (xs : List α) : Option α := xs.foldl (better before) none

theorem leading_concat (before : α → α → Bool) (xs : List α) (x : α) :
    leading before (xs ++ [x]) = better before (leading before xs) x := by
  rw [leading, List.foldl_append]
  rfl

theorem mem_of_leading (h : leading before xs = some x) : x ∈ xs := by
  induction xs using List.reverseRecOn with
  | nil => cases h
  | append_singleton xs last ih =>
    rw [leading_concat] at h
    cases hbest : leading before xs with
    | none =>
      rw [hbest] at h
      cases h
      exact List.mem_append_right xs List.mem_cons_self
    | some best =>
      simp only [hbest, better] at h
      split at h
      · cases h
        exact List.mem_append_right xs List.mem_cons_self
      · exact List.mem_append_left _ (ih (hbest.trans h))

theorem leading_congr (h : ∀ a ∈ xs, ∀ b ∈ xs, before a b = before' a b) :
    leading before xs = leading before' xs := by
  induction xs using List.reverseRecOn with
  | nil => rfl
  | append_singleton xs x ih =>
    have hinit {a : α} (ha : a ∈ xs) : a ∈ xs ++ [x] := List.mem_append_left _ ha
    have hlast : x ∈ xs ++ [x] := List.mem_append_right xs List.mem_cons_self
    rw [leading_concat, leading_concat, ← ih fun a ha b hb => h a (hinit ha) b (hinit hb)]
    cases hbest : leading before xs with
    | none => rfl
    | some best => simp only [better, h x hlast best (hinit (mem_of_leading hbest))]

theorem leading_eq_none (h : leading before xs = none) : xs = [] := by
  induction xs using List.reverseRecOn with
  | nil => rfl
  | append_singleton xs x ih =>
    rw [leading_concat] at h
    unfold better at h
    split at h
    · split at h <;> cases h
    · cases h

/-- The leading element precedes those before it, and none behind it precedes it. -/
theorem leading_eq_some [Std.TransCmp cmp] (h : leading (fun a b => cmp a b == .lt) xs = some x) :
    ∃ earlier later, xs = earlier ++ x :: later ∧ (∀ y ∈ earlier, cmp x y = .lt) ∧
      ∀ y ∈ later, ¬ cmp y x = .lt := by
  induction xs using List.reverseRecOn generalizing x with
  | nil => cases h
  | append_singleton xs last ih =>
    rw [leading_concat] at h
    cases hbest : leading (fun a b => cmp a b == .lt) xs with
    | none =>
      rw [hbest] at h
      cases h
      rw [leading_eq_none hbest]
      exact ⟨[], [], rfl, nofun, nofun⟩
    | some best =>
      obtain ⟨earlier, later, rfl, hearlier, hlater⟩ := ih hbest
      simp only [hbest, better, beq_iff_eq] at h
      split at h
      · next hlast =>
        cases h
        refine ⟨earlier ++ best :: later, [], rfl, fun y hy => ?_, nofun⟩
        -- the last element precedes the best one before it, and so all that this one leads
        obtain hy | hy := List.mem_append.mp hy
        · exact Std.TransCmp.lt_trans hlast (hearlier y hy)
        · obtain rfl | hy := List.mem_cons.mp hy
          · exact hlast
          · have hle : (cmp best y).isLE := by
              rw [← Std.OrientedCmp.isGE_iff_isLE, Ordering.isGE_iff_ne_lt]
              exact hlater y hy
            exact Std.TransCmp.lt_of_lt_of_isLE hlast hle
      · next hlast =>
        cases h
        refine ⟨earlier, later ++ [last], by simp, hearlier, ?_⟩
        exact List.forall_mem_append.mpr ⟨hlater, List.forall_mem_singleton.mpr hlast⟩

/-- In a list from last to first, an element is inserted at the end exactly if it precedes the one
that was there. -/
theorem getLast?_insertBehind [Std.TransCmp cmp] {l : List α}
    (hl : l.Pairwise fun a b => ¬ cmp a b = .lt) (x : α) :
    (insertBehind (fun a b => cmp a b == .lt) x l).getLast?
      = better (fun a b => cmp a b == .lt) l.getLast? x := by
  induction l with
  | nil => rfl
  | cons y rest ih =>
    obtain ⟨hy, hrest⟩ := List.pairwise_cons.mp hl
    rw [insertBehind]
    by_cases hcmp : cmp x y = .lt
    · rw [if_pos (beq_iff_eq.mpr hcmp), List.getLast?_cons, ih hrest]
      cases hlast : rest.getLast? with
      | none => simp [List.getLast?_eq_none_iff.mp hlast, better, hcmp]
      | some last =>
        simp only [List.getLast?_cons, hlast, better, Option.getD_some]
        split <;> rfl
    · rw [if_neg (by simpa using hcmp), List.getLast?_cons_cons]
      -- what is not in front of one element is not in front of those before
      have hlast : ∀ last ∈ (y :: rest).getLast?, ¬ cmp x last = .lt := by
        intro last hlast
        obtain rfl | hmem := List.mem_cons.mp (List.mem_of_getLast? hlast)
        · exact hcmp
        · rw [← Ordering.isGE_iff_ne_lt] at hcmp ⊢
          exact Std.TransCmp.isGE_trans hcmp (Ordering.isGE_iff_ne_lt.mpr (hy last hmem))
      cases hget : (y :: rest).getLast? with
      | none => simp at hget
      | some last =>
        have hnot := hlast last hget
        simp [better, hnot]

/-- A sort by a total preorder puts the leading element in front. -/
theorem head?_stable (cmp : α → α → Ordering) [Std.TransCmp cmp] (xs : List α) :
    (stable (fun a b => cmp a b == .lt) xs).head? = leading (fun a b => cmp a b == .lt) xs := by
  induction xs using List.reverseRecOn with
  | nil => rfl
  | append_singleton xs x ih =>
    have hsorted := List.pairwise_reverse.mpr (stable_sorted cmp xs).pairwise
    rw [← List.getLast?_reverse] at ih ⊢
    rw [reverse_stable_concat, getLast?_insertBehind hsorted, ih, leading_concat]

end DocumentStore.Sort

namespace DocumentStore

/-! ## Directions -/

namespace Direction

/-- How the value that comes first in a direction compares to the others. -/
def wanted : Direction → Ordering
  | .ascending => .lt
  | .descending => .gt

/-- The accumulator of the value that comes first in a direction. -/
def accumulator : Direction → Group.Accumulator
  | .ascending => .least
  | .descending => .greatest

/-- The name of this accumulator. -/
def operator : Direction → String
  | .ascending => "$min"
  | .descending => "$max"

/-- Whether a direction puts a value in front of another. -/
def before (direction : Direction) (a b : Value) : Bool := a.sortCompare b == direction.wanted

variable (direction : Direction) {vs : List Value}

theorem ofName?_operator :
    Group.Accumulator.ofName? direction.operator = some direction.accumulator := by
  cases direction <;> decide

theorem result_accumulator (values : List (Option Value)) :
    direction.accumulator.result values
      = (Sort.leading direction.before (Group.present values)).getD .null := by
  have hextreme (wanted : Ordering) (vs : List Value) : Group.extreme wanted vs
      = (Sort.leading (fun v best => v.sortCompare best == wanted) vs).getD .null := by
    refine congrArg (Option.getD · Value.null) (congrArg (List.foldl · none vs) ?_)
    funext best? v
    cases best? <;> rfl
  cases direction <;> exact hextreme _ _

/-- A sort by one path compares the values at it in the direction of the sort. -/
theorem compareBy_single (path : String) (a b : Document) :
    (Sort.compareBy (Document.single path direction.value) a b == .lt)
      = direction.before (Sort.keyValue a path) (Sort.keyValue b path) := by
  cases direction with
  | ascending =>
    have hascending : Sort.isAscending (.int32 1) = true := by decide
    simp [Document.single, value, Sort.compareBy, hascending, before, wanted]
  | descending =>
    have hdescending : Sort.isAscending (.int32 (-1)) = false := by decide
    simp only [Document.single, value, Sort.compareBy, hdescending, before, wanted,
      Value.sortCompare_swap (Sort.keyValue a path) (Sort.keyValue b path)]
    cases (Sort.keyValue a path).sortCompare (Sort.keyValue b path) <;> rfl

/-- Values without NaN are compared by a total preorder. -/
theorem exists_cmp (h : ∀ v ∈ vs, v.isNaN = false) :
    ∃ cmp : Value → Value → Ordering, Std.TransCmp cmp ∧
      ∀ a ∈ vs, ∀ b ∈ vs, direction.before a b = (cmp a b == .lt) := by
  cases direction with
  | ascending =>
    refine ⟨Value.settle, inferInstance, fun a ha b hb => ?_⟩
    rw [before, Value.sortCompare_eq_settle (h a ha) (h b hb)]
    rfl
  | descending =>
    refine ⟨fun a b => b.settle a, .opposite, fun a ha b hb => ?_⟩
    rw [before, Value.sortCompare_swap, Value.sortCompare_eq_settle (h b hb) (h a ha)]
    change ((b.settle a).swap == .gt) = (b.settle a == .lt)
    cases b.settle a <;> rfl

theorem head?_stable (h : ∀ v ∈ vs, v.isNaN = false) :
    (Sort.stable direction.before vs).head? = Sort.leading direction.before vs := by
  obtain ⟨cmp, htrans, hcmp⟩ := direction.exists_cmp h
  rw [Sort.stable_congr hcmp, Sort.leading_congr hcmp]
  exact Sort.head?_stable cmp vs

/-- Whether a value is among others, in front of those before it and not behind any other. -/
def Leads (direction : Direction) (vs : List Value) (v : Value) : Prop :=
  ∃ earlier later, vs = earlier ++ v :: later ∧ (∀ u ∈ earlier, direction.before v u = true) ∧
    ∀ u ∈ later, direction.before u v = false

theorem leads_of_leading (h : ∀ v ∈ vs, v.isNaN = false) (hne : vs ≠ []) :
    direction.Leads vs ((Sort.leading direction.before vs).getD .null) := by
  obtain ⟨cmp, htrans, hcmp⟩ := direction.exists_cmp h
  cases hleading : Sort.leading direction.before vs with
  | none => exact absurd (Sort.leading_eq_none hleading) hne
  | some v =>
    rw [Sort.leading_congr hcmp] at hleading
    obtain ⟨earlier, later, rfl, hearlier, hlater⟩ := Sort.leading_eq_some hleading
    have hv : v ∈ earlier ++ v :: later := List.mem_append_right _ List.mem_cons_self
    rw [Option.getD_some]
    refine ⟨earlier, later, rfl, fun u hu => ?_, fun u hu => ?_⟩
    · rw [hcmp v hv u (List.mem_append_left _ hu), hearlier u hu]
      rfl
    · have hmem : u ∈ earlier ++ v :: later :=
        List.mem_append_right _ (List.mem_cons_of_mem v hu)
      rw [hcmp u hmem v hv]
      simpa using hlater u hu

end Direction

/-! ## Groups of one -/

namespace Group

variable {keyExpression key : Value} {path name operator : String} {accumulator : Accumulator}
  {ds : List Document}

/-- A stage that accumulates the values at a path. -/
def overPath (keyExpression : Value) (name operator path : String) : Document :=
  StageKind.group.stage (.document
    [(idField, keyExpression), (name, .document [(operator, .string ("$" ++ path))])])

/-- A reference has the value at its path. -/
theorem evaluate_reference (hpath : Filter.isOperatorName path = false) (d : Document) :
    Expression.evaluate d (.string ("$" ++ path)) = .ok (Path.lookup d path) := by
  have htext : ("$" ++ path).toList = '$' :: path.toList := by simp
  have hvariable : Expression.isVariable ("$" ++ path) = false := by
    rw [Filter.isOperatorName] at hpath
    rw [Expression.isVariable, htext]
    cases hchars : path.toList with
    | nil => rfl
    | cons c rest =>
      have hc : ('$' == c) = false := by
        rw [hchars] at hpath
        exact (BEq.comm (a := '$') (b := c)).trans hpath
      simp [List.isPrefixOf, hc]
  have hreference : Expression.reference? ("$" ++ path) = some path := by
    simp [Expression.reference?, htext]
  rw [Expression.evaluate, hvariable, if_neg Bool.false_ne_true, hreference]

/-- With a constant key there is one group. -/
theorem run_overPath (hoperator : Accumulator.ofName? operator = some accumulator)
    (hconstant : ∀ d, Expression.evaluate d keyExpression = .ok (some key))
    (hself : key.same key = true) (hname : name ≠ idField)
    (hpath : Filter.isOperatorName path = false) (hds : ds ≠ []) :
    Pipeline.run [overPath keyExpression name operator path] ds
      = .ok [[(idField, key), (name, accumulator.result (ds.map (Path.lookup · path)))]] := by
  let output : Output := ⟨name, accumulator, .string ("$" ++ path)⟩
  have houtputs : readOutputs
      [(idField, keyExpression), (name, .document [(operator, .string ("$" ++ path))])]
        = .ok [output] := by
    rw [readOutputs, if_pos rfl, readOutputs, if_neg hname]
    simp only [Output.read, hoperator]
    rfl
  have hkey : Evaluates keyExpression ds := fun d _ => ⟨_, hconstant d⟩
  have hvalues : ∀ output' ∈ [output], Evaluates output'.expression ds := by
    intro output' houtput' d _
    obtain rfl := List.mem_singleton.mp houtput'
    exact ⟨_, evaluate_reference hpath d⟩
  -- all documents share the key, so they are in one group
  obtain ⟨d, rest, rfl⟩ := List.exists_cons_of_ne_nil hds
  have hshares : shares keyExpression (d :: rest) = [⟨key, d :: rest⟩] :=
    shares_of_constant hself fun other _ => by rw [keyOf, valueOf, hconstant]; rfl
  have hlookup : valueOf (.string ("$" ++ path)) = (Path.lookup · path) := by
    funext d
    rw [valueOf, evaluate_reference hpath]
    rfl
  have hspec : (Document.keys
      [(idField, keyExpression), (name, .document [(operator, .string ("$" ++ path))])]).Nodup := by
    simp [Document.keys, Ne.symm hname]
  rw [overPath, run_group hspec rfl houtputs hkey hvalues, hshares]
  simp only [Share.document, List.map_cons, List.map_nil, output, hlookup]

/-! ## Extremes of documents -/

/-- Whether a document has a value at a path, and one that is not null. -/
def hasValue (path : String) (d : Document) : Bool := (Path.lookup d path).any (!·.isNull)

/-- Documents without a value do not take part. -/
theorem present_filter (path : String) (ds : List Document) :
    present ((ds.filter (hasValue path)).map (Path.lookup · path))
      = present (ds.map (Path.lookup · path)) := by
  rw [present, present, List.filterMap_map, List.filterMap_map, List.filterMap_filter]
  refine List.filterMap_congr fun d _ => ?_
  cases hlookup : Path.lookup d path with
  | none => simp [hasValue, hlookup]
  | some v => cases hnull : v.isNull <;> simp [Option.filter, hasValue, hlookup, hnull]

/-- Whether documents all have a value at a path, neither null nor NaN. -/
def Valued (path : String) (ds : List Document) : Prop :=
  ∀ d ∈ ds, ∃ v, Path.lookup d path = some v ∧ v.isNull = false ∧ v.isNaN = false

theorem Valued.lookup_eq {d : Document} (h : Valued path ds) (hd : d ∈ ds) :
    Path.lookup d path = some (Sort.keyValue d path) := by
  obtain ⟨v, hv, -⟩ := h d hd
  rw [Sort.keyValue, hv]
  rfl

theorem Valued.isNaN (h : Valued path ds) :
    ∀ v ∈ ds.map (Sort.keyValue · path), v.isNaN = false := by
  refine List.forall_mem_map.mpr fun d hd => ?_
  obtain ⟨v, hv, -, hnan⟩ := h d hd
  rwa [Sort.keyValue, hv]

theorem Valued.present_eq (h : Valued path ds) :
    present (ds.map (Path.lookup · path)) = ds.map (Sort.keyValue · path) := by
  rw [present, List.filterMap_map, ← List.filterMap_eq_map]
  refine List.filterMap_congr fun d hd => ?_
  obtain ⟨v, hv, hnull, -⟩ := h d hd
  simp [Sort.keyValue, hv, hnull]

/-- A sort puts the leading value in front. -/
theorem Valued.result_first (h : Valued path ds) (direction : Direction) :
    let sorted := Sort.documents (Document.single path direction.value) ds
    Accumulator.first.result (sorted.map (Path.lookup · path))
      = (Sort.leading direction.before (ds.map (Sort.keyValue · path))).getD .null := by
  intro sorted
  have hsorted : sorted.map (Sort.keyValue · path)
      = Sort.stable direction.before (ds.map (Sort.keyValue · path)) := by
    rw [← Sort.stable_map]
    exact congrArg _ (Sort.stable_congr fun a _ b _ => direction.compareBy_single path a b)
  have hlookup : sorted.map (Path.lookup · path)
      = (sorted.map (Sort.keyValue · path)).map some := by
    rw [List.map_map]
    exact List.map_congr_left fun d hd => h.lookup_eq ((Sort.stable_perm _ ds).subset hd)
  rw [Accumulator.result, hlookup, hsorted, List.head?_map, direction.head?_stable h.isNaN]
  cases Sort.leading direction.before (ds.map (Sort.keyValue · path)) <;> rfl

/-- Grouped by a constant, which equals itself, so that there is one group, documents have as their
extreme value the first one when they are sorted in its direction, which is the first of those that
lead. It does not change with documents that have no value, or null, wherever they stand. -/
theorem extreme_eq_first (direction : Direction)
    (hconstant : ∀ d, Expression.evaluate d keyExpression = .ok (some key))
    (hself : key.same key = true) (hname : name ≠ idField)
    (hpath : Filter.isOperatorName path = false) (hds : ds ≠ [])
    (hvalues : Valued path ds) :
    ∃ value, direction.Leads (ds.map (Sort.keyValue · path)) value ∧
      Pipeline.run [overPath keyExpression name direction.operator path] ds
        = .ok [[(idField, key), (name, value)]] ∧
      Pipeline.run [Stage.sort path direction, overPath keyExpression name "$first" path] ds
        = .ok [[(idField, key), (name, value)]] ∧
      ∀ more : List Document, more.filter (hasValue path) = ds →
        Pipeline.run [overPath keyExpression name direction.operator path] more
          = .ok [[(idField, key), (name, value)]] := by
  let leading := (Sort.leading direction.before (ds.map (Sort.keyValue · path))).getD .null
  -- documents without a value are not present to the accumulator
  have hfiltered (more : List Document) (hmore : more.filter (hasValue path) = ds) :
      Pipeline.run [overPath keyExpression name direction.operator path] more
        = .ok [[(idField, key), (name, leading)]] := by
    have hne : more ≠ [] := fun hnil => hds (by rw [← hmore, hnil]; rfl)
    rw [run_overPath direction.ofName?_operator hconstant hself hname hpath hne,
      direction.result_accumulator, ← present_filter, hmore, hvalues.present_eq]
  have hne : ds.map (Sort.keyValue · path) ≠ [] := by simpa using hds
  refine ⟨leading, direction.leads_of_leading hvalues.isNaN hne, hfiltered ds ?_, ?_, hfiltered⟩
  · refine List.filter_eq_self.mpr fun d hd => ?_
    obtain ⟨v, hv, hnull, -⟩ := hvalues d hd
    simp [hasValue, hv, hnull]
  -- sorting puts first what leads, and `$first` takes it
  · have hsorted : Sort.documents (Document.single path direction.value) ds ≠ [] := fun hnil =>
      hds (List.nil_perm.mp (hnil ▸ Sort.stable_perm _ ds))
    have hfirst : Accumulator.ofName? "$first" = some .first := by decide
    rw [Stage.sort, Pipeline.run_sort, run_overPath hfirst hconstant hself hname hpath hsorted,
      hvalues.result_first direction]

/-- An integer and a double that is equal to it: the one that comes first is the least value, and a
text is greater than both. -/
theorem extreme_eq_first_mixed :
    let ds : List Document :=
      [[("n", .string "one")], [("n", .double (.ofInt 1))], [("n", .int32 1)], [("n", .int64 2)]]
    let groups (value : Value) : Result (List Document) :=
      .ok [[(idField, .null), ("least", value)]]
    ("least" ≠ idField ∧ Filter.isOperatorName "n" = false ∧ ds ≠ [] ∧ Valued "n" ds) ∧
    (∃ value, Direction.ascending.Leads (ds.map (Sort.keyValue · "n")) value ∧
      Pipeline.run [overPath .null "least" "$min" "n"] ds = groups value ∧
      Pipeline.run [Stage.sort "n" .ascending, overPath .null "least" "$first" "n"] ds
        = groups value ∧
      ∀ more : List Document, more.filter (hasValue "n") = ds →
        Pipeline.run [overPath .null "least" "$min" "n"] more = groups value) ∧
    Pipeline.run [overPath .null "least" "$min" "n"] ds = groups (.double (.ofInt 1)) := by
  intro ds groups
  have hvalues : Valued "n" ds := by
    intro d hd
    simp only [ds, List.mem_cons, List.not_mem_nil, or_false] at hd
    obtain rfl | rfl | rfl | rfl := hd <;> exact ⟨_, rfl, rfl, rfl⟩
  have hpath : Filter.isOperatorName "n" = false := by decide
  have hname : "least" ≠ idField := by decide
  exact ⟨⟨hname, hpath, List.cons_ne_nil _ _, hvalues⟩,
    extreme_eq_first .ascending (fun _ => rfl) rfl hname hpath (List.cons_ne_nil _ _) hvalues, rfl⟩

end Group

end DocumentStore
