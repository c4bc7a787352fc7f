import DocumentStore.Proofs.Pipeline.Expression
import DocumentStore.Proofs.Pipeline.Search
import DocumentStore.Proofs.Query.Sort
import DocumentStore.Store.Collections

/-!
# Groups

A document is put to the first group whose key equals its own, or starts a group at the end. As long
as the keys hold no NaN, equality parts them into classes, and after any number of documents there
is one group for each class, under the key that came first, with what the documents of the class
were accumulated from, in their order.
-/
namespace DocumentStore

/-! ## Values without repeats -/

namespace Value

variable {v : Value} {vs : List Value}

/-- A list of values without those that equal an earlier one. -/
def firsts : List Value → List Value
  | [] => []
  | v :: rest => v :: (firsts rest).filter (!v.same ·)

/-- What equals one of the first still does with another value in front: what this one takes out
equals it, and so it equals what that equals. -/
theorem exists_first_cons (u : Value) (h : ∃ k ∈ firsts vs, k.same v = true) :
    ∃ k ∈ firsts (u :: vs), k.same v = true := by
  obtain ⟨k, hk, hsame⟩ := h
  by_cases huk : u.same k = true
  · exact ⟨u, List.mem_cons_self, same_trans u huk hsame⟩
  · have hkept : k ∈ (firsts vs).filter (!u.same ·) :=
      List.mem_filter.mpr ⟨hk, by simpa using huk⟩
    exact ⟨k, List.mem_cons_of_mem u hkept, hsame⟩

theorem firsts_concat (vs : List Value) (v : Value) :
    firsts (vs ++ [v]) = Group.insertNew (firsts vs) v := by
  induction vs with
  | nil => rfl
  | cons u rest ih =>
    rw [List.cons_append, firsts, ih, firsts]
    unfold Group.insertNew
    by_cases hany : (firsts rest).any (·.same v) = true
    · rw [if_pos hany, if_pos]
      exact List.any_eq_true.mpr (exists_first_cons u (List.any_eq_true.mp hany))
    · rw [if_neg hany, List.filter_append]
      have hnone : ((firsts rest).filter (!u.same ·)).any (·.same v) = false := by
        refine List.any_eq_false.mpr fun k hk hsame => hany ?_
        exact List.any_eq_true.mpr ⟨k, (List.mem_filter.mp hk).1, hsame⟩
      cases huv : u.same v <;> simp [huv, hnone]

/-- Adding values one after the other, unless an equal one is there, leaves out the repeats. -/
theorem foldl_insertNew (vs : List Value) : vs.foldl Group.insertNew [] = firsts vs := by
  induction vs using List.reverseRecOn with
  | nil => rfl
  | append_singleton vs v ih =>
    rw [List.foldl_append, List.foldl_cons, List.foldl_nil, ih, firsts_concat]

theorem firsts_sublist (vs : List Value) : (firsts vs).Sublist vs := by
  induction vs with
  | nil => exact .slnil
  | cons v rest ih => exact (List.filter_sublist.trans ih).cons_cons v

theorem firsts_pairwise (vs : List Value) : (firsts vs).Pairwise fun a b => a.same b = false := by
  induction vs with
  | nil => exact .nil
  | cons v rest ih =>
    refine List.pairwise_cons.mpr ⟨fun k hk => ?_, ih.filter _⟩
    simpa using (List.mem_filter.mp hk).2

/-- A value equals one of the first. -/
theorem exists_first (hwhole : ∀ u ∈ vs, u.Whole) (hv : v ∈ vs) :
    ∃ k ∈ firsts vs, k.same v = true := by
  induction vs with
  | nil => cases hv
  | cons u rest ih =>
    obtain ⟨hu, hrest⟩ := List.forall_mem_cons.mp hwhole
    obtain rfl | hv := List.mem_cons.mp hv
    · exact ⟨v, List.mem_cons_self, hu.same_self⟩
    · exact exists_first_cons u (ih hrest hv)

/-- It equals no other one of them. -/
theorem firsts_apart (hwhole : ∀ u ∈ vs, u.Whole) (hv : v.Whole) :
    (firsts vs).Pairwise fun a b => a.same v = true → b.same v = false := by
  refine (firsts_pairwise vs).imp_of_mem fun {a b} ha hb hab hav => ?_
  rw [← Bool.not_eq_true]
  intro hbv
  have hb := hwhole b ((firsts_sublist vs).subset hb)
  -- equal values are equal to each other through what both of them equal
  have hsame := same_trans a hav (hb.same_comm hv ▸ hbv)
  rw [hab] at hsame
  cases hsame

/-- Every value equals exactly one of the first. -/
theorem countP_firsts (hwhole : ∀ u ∈ vs, u.Whole) (hv : v ∈ vs) :
    (firsts vs).countP (·.same v) = 1 := by
  obtain ⟨k, hk, hsame⟩ := exists_first hwhole hv
  -- no key on either side of the one that was found equals the value as well
  obtain ⟨before, after, heq⟩ := List.append_of_mem hk
  have hapart := firsts_apart hwhole (hwhole v hv)
  rw [heq] at hapart ⊢
  obtain ⟨-, hafter, hbefore⟩ := List.pairwise_append.mp hapart
  have hafter : after.countP (·.same v) = 0 := List.countP_eq_zero.mpr fun u hu => by
    simp [(List.pairwise_cons.mp hafter).1 u hu hsame]
  have hbefore : before.countP (·.same v) = 0 := List.countP_eq_zero.mpr fun u hu hu' => by
    have hkv := hbefore u hu k List.mem_cons_self hu'
    rw [hsame] at hkv
    cases hkv
  simp only [List.countP_append, List.countP_cons, hbefore, hafter, hsame, if_true]

end Value

namespace Group

/-! ## Values and keys of documents -/

def valueOf (expression : Value) (d : Document) : Option Value :=
  (Expression.evaluate d expression).toOption.join

/-- The key of a document. One that is missing is null. -/
def keyOf (keyExpression : Value) (d : Document) : Value := (valueOf keyExpression d).getD .null

/-- The documents with a key, in order. -/
def members (keyExpression key : Value) (ds : List Document) : List Document :=
  ds.filter fun d => key.same (keyOf keyExpression d)

/-- Whether an expression has a value for every document, if only a missing one. -/
def Evaluates (expression : Value) (ds : List Document) : Prop :=
  ∀ d ∈ ds, ∃ value?, Expression.evaluate d expression = .ok value?

variable {expression keyExpression key : Value} {outputs : List Output} {d : Document}
  {ds done : List Document}

theorem Evaluates.eq (h : Evaluates expression ds) (hd : d ∈ ds) :
    Expression.evaluate d expression = .ok (valueOf expression d) := by
  obtain ⟨value?, hvalue⟩ := h d hd
  rw [valueOf, hvalue]
  rfl

theorem Evaluates.of_cons (h : Evaluates expression (d :: ds)) : Evaluates expression ds :=
  fun other hother => h other (List.mem_cons_of_mem d hother)

theorem mapM_evaluate (h : ∀ output ∈ outputs, Evaluates output.expression ds) (hd : d ∈ ds) :
    outputs.mapM (fun output => Expression.evaluate d output.expression)
      = .ok (outputs.map fun output => valueOf output.expression d) := by
  induction outputs with
  | nil => rfl
  | cons output rest ih =>
    obtain ⟨hfirst, hrest⟩ := List.forall_mem_cons.mp h
    rw [List.mapM_cons, hfirst.eq hd, ih hrest]
    rfl

theorem members_append (key : Value) (ds : List Document) (d : Document) :
    members keyExpression key (ds ++ [d])
      = members keyExpression key ds ++ if key.same (keyOf keyExpression d) then [d] else [] := by
  cases h : key.same (keyOf keyExpression d) <;> simp [members, h]

/-! ## Collecting -/

/-- A group with the values of one more document. -/
def Bin.add (bin : Bin) (values : List (Option Value)) : Bin :=
  ⟨bin.key, List.zipWith (fun old value => old ++ [value]) bin.collected values⟩

theorem addTo_cons (key : Value) (values : List (Option Value)) (bin : Bin) (rest : List Bin) :
    addTo key values (bin :: rest)
      = if bin.key.same key then bin.add values :: rest else bin :: addTo key values rest := rfl

theorem addTo_new {bins : List Bin} (h : ∀ bin ∈ bins, bin.key.same key = false)
    (values : List (Option Value)) :
    addTo key values bins = bins ++ [⟨key, values.map ([·])⟩] := by
  induction bins with
  | nil => rfl
  | cons bin rest ih =>
    obtain ⟨hbin, hrest⟩ := List.forall_mem_cons.mp h
    rw [addTo_cons, hbin, if_neg Bool.false_ne_true, ih hrest, List.cons_append]

/-- Values are added to the group of their key and to no other. -/
theorem addTo_map {keys : List Value} {bin bin' : Value → Bin} {values : List (Option Value)}
    (hkey : ∀ k, (bin k).key = k) (hfound : ∃ k ∈ keys, k.same key = true)
    (hapart : keys.Pairwise fun a b => a.same key = true → b.same key = false)
    (hadded : ∀ k, bin' k = if k.same key then (bin k).add values else bin k) :
    addTo key values (keys.map bin) = keys.map bin' := by
  induction keys with
  | nil =>
    obtain ⟨k, hk, -⟩ := hfound
    cases hk
  | cons k rest ih =>
    obtain ⟨hfirst, hrest⟩ := List.pairwise_cons.mp hapart
    rw [List.map_cons, addTo_cons, hkey, List.map_cons, hadded k]
    cases hsame : k.same key with
    | true =>
      have hothers : rest.map bin' = rest.map bin := List.map_congr_left fun other hmem => by
        rw [hadded, hfirst other hmem hsame, if_neg Bool.false_ne_true]
      rw [if_pos rfl, if_pos rfl, hothers]
    | false =>
      obtain ⟨found, hmem, hfound⟩ := hfound
      obtain rfl | hmem := List.mem_cons.mp hmem
      · rw [hsame] at hfound
        cases hfound
      · rw [if_neg Bool.false_ne_true, if_neg Bool.false_ne_true, ih ⟨found, hmem, hfound⟩ hrest]

/-- The group of a key. -/
def binOf (keyExpression : Value) (outputs : List Output) (ds : List Document) (key : Value) :
    Bin :=
  ⟨key, outputs.map fun output =>
    (members keyExpression key ds).map (valueOf output.expression)⟩

/-- The groups of documents. -/
def binsOf (keyExpression : Value) (outputs : List Output) (ds : List Document) : List Bin :=
  (Value.firsts (ds.map (keyOf keyExpression))).map (binOf keyExpression outputs ds)

theorem binOf_append (outputs : List Output) (ds : List Document) (d : Document) (key : Value) :
    binOf keyExpression outputs (ds ++ [d]) key
      = if key.same (keyOf keyExpression d) then
          (binOf keyExpression outputs ds key).add
            (outputs.map fun output => valueOf output.expression d)
        else binOf keyExpression outputs ds key := by
  cases hsame : key.same (keyOf keyExpression d) <;>
    simp [binOf, Bin.add, members_append, hsame, List.zipWith_map]

/-- A document is added to the groups of those before it. -/
theorem addTo_binsOf (outputs : List Output)
    (h : ∀ other ∈ ds ++ [d], (keyOf keyExpression other).Whole) :
    addTo (keyOf keyExpression d) (outputs.map fun output => valueOf output.expression d)
      (binsOf keyExpression outputs ds) = binsOf keyExpression outputs (ds ++ [d]) := by
  have hkeys : ∀ key ∈ ds.map (keyOf keyExpression), key.Whole := by
    intro key hkey
    obtain ⟨other, hother, rfl⟩ := List.mem_map.mp hkey
    exact h other (List.mem_append_left _ hother)
  have hwhole := h d (List.mem_append_right _ List.mem_cons_self)
  rw [binsOf, binsOf, List.map_append, List.map_singleton, Value.firsts_concat, Group.insertNew]
  by_cases hany : (Value.firsts (ds.map (keyOf keyExpression))).any
      (·.same (keyOf keyExpression d)) = true
  · rw [if_pos hany]
    exact addTo_map (fun _ => rfl) (by simpa using hany) (Value.firsts_apart hkeys hwhole)
      (binOf_append outputs ds d)
  · -- no document so far has the key, and the group starts with this one
    have hnew : ∀ key ∈ Value.firsts (ds.map (keyOf keyExpression)),
        key.same (keyOf keyExpression d) = false := by simpa using hany
    have hnone : members keyExpression (keyOf keyExpression d) ds = [] := by
      refine List.filter_eq_nil_iff.mpr fun other hother hsame => ?_
      have hmem := List.mem_map_of_mem (f := keyOf keyExpression) hother
      obtain ⟨key, hkey, hfirst⟩ := Value.exists_first hkeys hmem
      rw [hwhole.same_comm (hkeys _ hmem)] at hsame
      have hcontra := hnew key hkey
      rw [Value.same_trans key hfirst hsame] at hcontra
      cases hcontra
    have hstart : binOf keyExpression outputs (ds ++ [d]) (keyOf keyExpression d)
        = ⟨keyOf keyExpression d,
          (outputs.map fun output => valueOf output.expression d).map ([·])⟩ := by
      simp [binOf, members_append, hnone, hwhole.same_self]
    rw [if_neg hany, addTo_new, List.map_append, List.map_singleton, hstart]
    · congr 1
      refine List.map_congr_left fun key hkey => ?_
      rw [binOf_append, hnew key hkey, if_neg Bool.false_ne_true]
    · intro bin hbin
      obtain ⟨key, hkey, rfl⟩ := List.mem_map.mp hbin
      exact hnew key hkey

/-- Documents are collected in their groups. -/
theorem collect_eq (done : List Document)
    (hwhole : ∀ d ∈ done ++ ds, (keyOf keyExpression d).Whole) (hkey : Evaluates keyExpression ds)
    (hvalues : ∀ output ∈ outputs, Evaluates output.expression ds) :
    collect keyExpression outputs (binsOf keyExpression outputs done) ds
      = .ok (binsOf keyExpression outputs (done ++ ds)) := by
  induction ds generalizing done with
  | nil => rw [List.append_nil]; rfl
  | cons d rest ih =>
    -- what was collected before are the groups of the documents before
    have hassoc : done ++ d :: rest = done ++ [d] ++ rest := by simp
    rw [hassoc] at hwhole ⊢
    have hstep := addTo_binsOf outputs fun other hother =>
      hwhole other (List.mem_append_left rest hother)
    rw [collect, hkey.eq List.mem_cons_self, mapM_evaluate hvalues List.mem_cons_self]
    change collect keyExpression outputs (addTo (keyOf keyExpression d) _ _) rest = _
    rw [hstep]
    exact ih (done ++ [d]) hwhole hkey.of_cons fun output houtput =>
      (hvalues output houtput).of_cons

/-! ## Documents of groups -/

/-- The document of a group. -/
def groupOf (keyExpression : Value) (outputs : List Output) (ds : List Document) (key : Value) :
    Document :=
  (idField, key) :: outputs.map fun output => (output.name,
    output.accumulator.result ((members keyExpression key ds).map (valueOf output.expression)))

theorem insert_new {key : String} (h : key ∉ d.keys) (value : Value) :
    d.insert key value = d ++ [(key, value)] := by
  induction d with
  | nil => rfl
  | cons field rest ih =>
    obtain ⟨hname, hrest⟩ := List.ne_and_not_mem_of_not_mem_cons h
    rw [Document.insert, if_neg (Ne.symm hname), ih hrest, List.cons_append]

/-- Fields with new names are written behind the others. -/
theorem foldl_insert_new {fields : List (String × Value)}
    (h : (d.keys ++ fields.map (·.1)).Nodup) :
    fields.foldl (fun d field => d.insert field.1 field.2) d = d ++ fields := by
  induction fields generalizing d with
  | nil => exact (List.append_nil d).symm
  | cons field rest ih =>
    have hassoc : d.keys ++ (field :: rest).map (·.1)
        = Document.keys (d ++ [field]) ++ rest.map (·.1) := by simp [Document.keys]
    have hnew : field.1 ∉ d.keys := by
      rw [List.map_cons, List.nodup_middle] at h
      exact fun hmem => (List.nodup_cons.mp h).1 (List.mem_append_left _ hmem)
    rw [List.foldl_cons, insert_new hnew, ih (hassoc ▸ h), List.append_assoc]
    rfl

/-- The document of values that are accumulated under distinct names. -/
theorem document_of_values (hnames : (idField :: outputs.map (·.name)).Nodup) (key : Value)
    (values : Output → List (Option Value)) :
    Bin.document outputs ⟨key, outputs.map values⟩ = (idField, key) :: outputs.map fun output =>
      (output.name, output.accumulator.result (values output)) := by
  have hslots : outputs.zip (outputs.map values) = outputs.map fun output =>
      (output, values output) := by
    rw [← List.zip_map', List.map_id']
  let fields := outputs.map fun output =>
    (output.name, output.accumulator.result (values output))
  have hnew : (Document.keys (Document.single idField key) ++ fields.map (·.1)).Nodup := by
    simpa [fields, Document.keys, Document.single, Function.comp_def] using hnames
  have hwritten := foldl_insert_new hnew
  rw [List.foldl_map] at hwritten
  rw [Bin.document, hslots, List.foldl_map]
  exact hwritten

theorem document_binOf (hnames : (idField :: outputs.map (·.name)).Nodup) (ds : List Document)
    (key : Value) :
    (binOf keyExpression outputs ds key).document outputs
      = groupOf keyExpression outputs ds key :=
  document_of_values hnames key _

theorem name_of_read {name : String} {value : Value} {output : Output}
    (h : Output.read name value = .ok output) : output.name = name := by
  unfold Output.read at h
  split at h
  · split at h
    · cases h
      rfl
    · cases h
  · cases h

theorem names_of_readOutputs {fields : List (String × Value)}
    (h : readOutputs fields = .ok outputs) :
    outputs.map (·.name) = (fields.map (·.1)).filter (· ≠ idField) := by
  induction fields generalizing outputs with
  | nil =>
    cases h
    rfl
  | cons field rest ih =>
    obtain ⟨name, value⟩ := field
    rw [readOutputs] at h
    by_cases hid : name = idField
    · rw [if_pos hid] at h
      rw [ih h, List.map_cons, List.filter_cons_of_neg (by simp [hid])]
    · rw [if_neg hid] at h
      obtain ⟨output, houtput, h⟩ := Result.bind_eq_ok h
      obtain ⟨others, hothers, h⟩ := Result.bind_eq_ok h
      cases h
      rw [List.map_cons, List.map_cons, ih hothers, name_of_read houtput,
        List.filter_cons_of_pos (by simp [hid])]

theorem nodup_of_readOutputs {spec : Document} (hspec : spec.keys.Nodup)
    (h : readOutputs spec = .ok outputs) : (idField :: outputs.map (·.name)).Nodup := by
  rw [names_of_readOutputs h]
  exact List.nodup_cons.mpr ⟨by simp, hspec.filter _⟩

/-- Whether documents can be grouped by an expression: it has a value for each of them, which equals
itself. -/
structure Keyed (keyExpression : Value) (ds : List Document) : Prop where
  evaluates : Evaluates keyExpression ds
  noNaN : ∀ d ∈ ds, (keyOf keyExpression d).holdsNaN = false
  expression : keyExpression.NamesOnce
  documents : ∀ d ∈ ds, (Value.document d).NamesOnce

theorem Keyed.whole (h : Keyed keyExpression ds) (hd : d ∈ ds) :
    (keyOf keyExpression d).Whole := by
  refine ⟨?_, h.noNaN d hd⟩
  unfold keyOf
  cases hvalue : valueOf keyExpression d with
  | none => trivial
  | some value =>
    exact Expression.namesOnce_evaluate (h.documents d hd) keyExpression h.expression
      ((h.evaluates.eq hd).trans (congrArg Except.ok hvalue))

/-- Grouping gives a document for each key, in the order in which they first appear. -/
theorem run_eq {spec : Document} (hspec : spec.keys.Nodup)
    (hid : spec.get? idField = some keyExpression) (houtputs : readOutputs spec = .ok outputs)
    (hkeyed : Keyed keyExpression ds)
    (hvalues : ∀ output ∈ outputs, Evaluates output.expression ds) :
    run spec ds = .ok ((Value.firsts (ds.map (keyOf keyExpression))).map
      (groupOf keyExpression outputs ds)) := by
  have hcollect : collect keyExpression outputs [] ds = .ok (binsOf keyExpression outputs ds) :=
    collect_eq [] (fun d hd => hkeyed.whole hd) hkeyed.evaluates hvalues
  have hnames := nodup_of_readOutputs hspec houtputs
  simp only [run, hid, houtputs, hcollect, bind, Except.bind]
  refine congrArg Except.ok ?_
  rw [binsOf, List.map_map]
  exact List.map_congr_left fun key _ => document_binOf hnames ds key

/-! ## Counting -/

/-- How many documents have a key. -/
def frequency (keyExpression : Value) (ds : List Document) (key : Value) : Nat :=
  (members keyExpression key ds).length

/-- If every document has exactly one of some keys, the frequencies of the keys add up to the number
of documents. -/
theorem sum_frequency {keys : List Value}
    (h : ∀ d ∈ ds, keys.countP (·.same (keyOf keyExpression d)) = 1) :
    (keys.map (frequency keyExpression ds)).foldr (· + ·) 0 = ds.length := by
  induction ds with
  | nil =>
    induction keys with
    | nil => rfl
    | cons key others ih => exact (Nat.zero_add _).trans (ih nofun)
  | cons d rest ih =>
    obtain ⟨hd, hrest⟩ := List.forall_mem_cons.mp h
    have hsplit (key : Value) : frequency keyExpression (d :: rest) key
        = frequency keyExpression rest key + if key.same (keyOf keyExpression d) then 1 else 0 := by
      cases hsame : key.same (keyOf keyExpression d) <;> simp [frequency, members, hsame]
    have hsum (keys : List Value) :
        (keys.map (frequency keyExpression (d :: rest))).foldr (· + ·) 0
          = (keys.map (frequency keyExpression rest)).foldr (· + ·) 0
            + keys.countP (·.same (keyOf keyExpression d)) := by
      induction keys with
      | nil => rfl
      | cons key others ih =>
        simp only [List.map_cons, List.foldr_cons, List.countP_cons, hsplit key, ih]
        omega
    -- one more document is one more for its only key
    rw [hsum, hd, ih hrest, List.length_cons]

/-- A total of ones. -/
theorem foldl_add_ones (n : Nat) (t : Total) (hlow : 0 ≤ t.integers)
    (hhigh : t.integers + n ≤ Int64.maxValue.toInt) :
    (List.replicate n (Value.int32 1)).foldl Total.add t
      = { t with integers := t.integers + n, count := t.count + n } := by
  induction n generalizing t with
  | zero => simp
  | succ n ih =>
    -- within the bounds no sum is cut off
    have hmin : Int64.minValue.toInt ≤ 0 := by decide
    have hclamp : clampInt64 (t.integers + 1) = t.integers + 1 := by
      unfold clampInt64
      rw [if_neg (by omega), if_neg (by omega)]
    have hadd : t.add (.int32 1) = { t with integers := t.integers + 1, count := t.count + 1 } := by
      simp only [Total.add]
      exact congrArg (fun n => { t with integers := n, count := t.count + 1 }) hclamp
    rw [List.replicate_succ, List.foldl_cons, hadd, ih _ (by simp only; omega)
      (by simp only; omega)]
    exact Total.mk.injEq .. |>.mpr ⟨by simp only; omega, rfl, rfl, by simp only; omega⟩

/-- The sum of ones is their number. -/
theorem result_sum_ones {n : Nat} (hn : n ≤ Int64.maxValue.toInt) :
    Accumulator.sum.result (List.replicate n (some (.int32 1))) = .ofInt n := by
  have hpresent : present (List.replicate n (some (.int32 1))) = List.replicate n (.int32 1) :=
    List.filterMap_replicate_of_some rfl
  have htotal := foldl_add_ones n {} (Int.le_refl 0) (by simpa using hn)
  simp only [Accumulator.result, hpresent, htotal, Total.sum]
  simp

/-- Whether an output counts the documents of a group. -/
def Output.Counts (output : Output) : Prop :=
  output.accumulator = .count ∨ output.accumulator = .sum ∧ output.expression = .int32 1

theorem result_of_counts {output : Output} (h : output.Counts)
    (hsize : ds.length ≤ Int64.maxValue.toInt) (key : Value) :
    output.accumulator.result ((members keyExpression key ds).map (valueOf output.expression))
      = .ofInt (frequency keyExpression ds key) := by
  obtain hcount | ⟨hsum, hone⟩ := h
  · rw [hcount]
    simp [Accumulator.result, frequency]
  · have hones : (members keyExpression key ds).map (valueOf (.int32 1))
        = List.replicate (frequency keyExpression ds key) (some (.int32 1)) :=
      List.map_const'
    have hle : frequency keyExpression ds key ≤ ds.length := List.length_filter_le _ _
    rw [hsum, hone, hones, result_sum_ones (by omega)]

/-! ## What groups are -/

/-- Documents that are the groups of others. -/
structure Partitions (keyExpression : Value) (outputs : List Output) (ds groups : List Document) :
    Prop where
  /-- The keys are in the order in which they first appear. -/
  ids : groups.map (Document.get? · idField)
    = (Value.firsts (ds.map (keyOf keyExpression))).map some
  /-- No two of them are equal. -/
  apart : groups.Pairwise fun a b =>
    (Collections.idOf a).same (Collections.idOf b) = false ∧
      (Collections.idOf b).same (Collections.idOf a) = false
  /-- Each of them is the key of some document. -/
  occurs : ∀ group ∈ groups, ∃ d ∈ ds, Collections.idOf group = keyOf keyExpression d
  /-- Every document is in exactly one group. -/
  belongs : ∀ d ∈ ds,
    groups.countP (fun group => (Collections.idOf group).same (keyOf keyExpression d)) = 1
  /-- So the sizes of the groups add up to the number of documents. -/
  total : (groups.map fun group =>
    frequency keyExpression ds (Collections.idOf group)).foldr (· + ·) 0 = ds.length
  counted : ds.length ≤ Int64.maxValue.toInt → ∀ output ∈ outputs, output.Counts →
    ∀ group ∈ groups, Document.get? group output.name
      = some (.ofInt (frequency keyExpression ds (Collections.idOf group)))
  /-- The values of a group are those of its documents that are there, in order. -/
  pushed : ∀ output ∈ outputs, output.accumulator = .push → ∀ group ∈ groups,
    Document.get? group output.name = some (.array
      ((members keyExpression (Collections.idOf group) ds).filterMap (valueOf output.expression)))
  gathered : ∀ output ∈ outputs, output.accumulator = .addToSet → ∀ group ∈ groups,
    Document.get? group output.name = some (.array (Value.firsts
      ((members keyExpression (Collections.idOf group) ds).filterMap (valueOf output.expression))))

theorem partitions (hnames : (idField :: outputs.map (·.name)).Nodup)
    (hwhole : ∀ d ∈ ds, (keyOf keyExpression d).Whole) :
    Partitions keyExpression outputs ds
      ((Value.firsts (ds.map (keyOf keyExpression))).map (groupOf keyExpression outputs ds)) := by
  have hkeys : ∀ key ∈ ds.map (keyOf keyExpression), key.Whole :=
    List.forall_mem_map.mpr hwhole
  -- the keys are apart from one another, so a document is counted under one of them
  have hbelongs : ∀ d ∈ ds, (Value.firsts (ds.map (keyOf keyExpression))).countP
      (·.same (keyOf keyExpression d)) = 1 :=
    fun d hd => Value.countP_firsts hkeys (List.mem_map_of_mem hd)
  have hid (key : Value) : Collections.idOf (groupOf keyExpression outputs ds key) = key := rfl
  have hget {output : Output} (houtput : output ∈ outputs) (key : Value) :
      Document.get? (groupOf keyExpression outputs ds key) output.name
        = some (output.accumulator.result
          ((members keyExpression key ds).map (valueOf output.expression))) := by
    refine Document.get?_of_mem ?_ (List.mem_cons_of_mem _ ?_)
    · simpa [Document.keys, groupOf, Function.comp_def] using hnames
    · exact List.mem_map.mpr ⟨output, houtput, rfl⟩
  exact {
    ids := by
      rw [List.map_map]
      exact List.map_congr_left fun key _ => rfl
    apart := by
      refine List.pairwise_map.mpr ((Value.firsts_pairwise _).imp_of_mem fun {a b} ha hb hab => ?_)
      have ha := hkeys a ((Value.firsts_sublist _).subset ha)
      have hb := hkeys b ((Value.firsts_sublist _).subset hb)
      exact ⟨hab, ha.same_comm hb ▸ hab⟩
    occurs := List.forall_mem_map.mpr fun key hkey => by
      obtain ⟨d, hd, rfl⟩ := List.mem_map.mp ((Value.firsts_sublist _).subset hkey)
      exact ⟨d, hd, rfl⟩
    belongs := fun d hd => by
      rw [List.countP_map]
      exact hbelongs d hd
    total := by
      rw [List.map_map]
      exact sum_frequency hbelongs
    counted := fun hsize output houtput hcounts => List.forall_mem_map.mpr fun key _ => by
      rw [hget houtput, result_of_counts hcounts hsize, hid]
    pushed := fun output houtput hpush => List.forall_mem_map.mpr fun key _ => by
      rw [hget houtput, hpush, hid, Accumulator.result, List.filterMap_map]
      rfl
    gathered := fun output houtput hset => List.forall_mem_map.mpr fun key _ => by
      rw [hget houtput, hset, hid, Accumulator.result, Value.foldl_insertNew, List.filterMap_map]
      rfl }

/-! ## Keys by frequency -/

/-- A key with its frequency. -/
def entryOf (keyExpression : Value) (ds : List Document) (key : Value) : Document :=
  [(idField, key), ("count", .ofInt (frequency keyExpression ds key))]

theorem compareBy_entryOf (hsize : ds.length ≤ 0x20000000000000) (a b : Value) :
    Sort.compareBy (Document.single "count" (.int32 (-1)))
        (entryOf keyExpression ds a) (entryOf keyExpression ds b)
      = compare (frequency keyExpression ds b) (frequency keyExpression ds a) := by
  have hle (key : Value) : frequency keyExpression ds key ≤ 0x20000000000000 :=
    Nat.le_trans (List.length_filter_le _ _) hsize
  have hcount (key : Value) : Sort.keyValue (entryOf keyExpression ds key) "count"
      = .ofInt (frequency keyExpression ds key) := rfl
  have hdirection : Sort.isAscending (.int32 (-1)) = false := by decide
  rw [Document.single, Sort.compareBy, Sort.compareBy, hdirection, hcount, hcount,
    Ordering.then_eq]
  exact Value.sortCompare_ofInt (hle b) (hle a)

/-- A frequency takes precedence over smaller ones. -/
theorem sorted_entries (keyExpression : Value) (hsize : ds.length ≤ 0x20000000000000)
    (keys : List Value) :
    ∃ sorted, Sort.documents (Document.single "count" (.int32 (-1)))
        (keys.map (entryOf keyExpression ds)) = sorted.map (entryOf keyExpression ds) ∧
      Sort.Sorted (fun a b => frequency keyExpression ds b < frequency keyExpression ds a)
        (fun a b => frequency keyExpression ds a = frequency keyExpression ds b) keys sorted := by
  let descending (a b : Value) : Ordering :=
    compare (frequency keyExpression ds b) (frequency keyExpression ds a)
  have htrans : Std.TransCmp descending :=
    @Std.TransCmp.opposite _ (compareOn (frequency keyExpression ds)) inferInstance
  -- documents of groups sort like their keys
  refine ⟨Sort.stable (fun a b => descending a b == .lt) keys, ?_, ?_⟩
  · rw [Sort.documents, ← Sort.stable_map]
    refine congrArg _ (Sort.stable_congr fun a _ b _ => ?_)
    rw [compareBy_entryOf hsize]
  · refine (Sort.stable_sorted descending keys).imp ?_ ?_
    · exact fun a _ b _ hless => Nat.compare_eq_lt.mpr hless
    · exact fun a _ b _ hsame => Nat.compare_eq_eq.mpr hsame.symm

/-- Keys are sorted by frequency, the frequent ones first. -/
theorem runStage_sortByCount (name : String) (hkeyed : Keyed keyExpression ds)
    (hsize : ds.length ≤ 0x20000000000000) :
    ∃ keys, Pipeline.runStage .sortByCount name keyExpression ds
        = .ok (keys.map (entryOf keyExpression ds)) ∧
      Sort.Sorted (fun a b => frequency keyExpression ds b < frequency keyExpression ds a)
        (fun a b => frequency keyExpression ds a = frequency keyExpression ds b)
        (Value.firsts (ds.map (keyOf keyExpression))) keys := by
  -- the stage adds up a one for each document of a group and sorts by the sums
  have hone : Evaluates (.int32 1) ds := fun d _ => ⟨_, rfl⟩
  have hnames : (Document.keys (Pipeline.countByKey keyExpression)).Nodup := by
    change [idField, "count"].Nodup
    decide
  have houtputs : readOutputs (Pipeline.countByKey keyExpression)
      = .ok [⟨"count", .sum, .int32 1⟩] := rfl
  have hgroups := run_eq hnames rfl houtputs hkeyed (by simpa using hone)
  have hentries : groupOf keyExpression [⟨"count", .sum, .int32 1⟩] ds
      = entryOf keyExpression ds := by
    have hbound : (0x20000000000000 : Int) ≤ Int64.maxValue.toInt := by decide
    funext key
    rw [groupOf, List.map_singleton, result_of_counts (.inr ⟨rfl, rfl⟩) (by omega)]
    rfl
  obtain ⟨keys, hsort, hsorted⟩ := sorted_entries keyExpression hsize
    (Value.firsts (ds.map (keyOf keyExpression)))
  refine ⟨keys, ?_, hsorted⟩
  rw [Pipeline.runStage, hgroups, hentries, ← hsort]
  rfl

/-- Documents are parted by their keys, and the keys are counted. -/
theorem documents_partitioned {spec : Document} (hspec : spec.keys.Nodup)
    (hid : spec.get? idField = some keyExpression) (houtputs : readOutputs spec = .ok outputs)
    (hkeyed : Keyed keyExpression ds)
    (hvalues : ∀ output ∈ outputs, Evaluates output.expression ds) :
    (∃ groups, Pipeline.run [StageKind.group.stage (.document spec)] ds = .ok groups ∧
      Partitions keyExpression outputs ds groups) ∧
    (ds.length ≤ 0x20000000000000 →
      ∃ keys, Pipeline.run [StageKind.sortByCount.stage keyExpression] ds
          = .ok (keys.map (entryOf keyExpression ds)) ∧
        Sort.Sorted (fun a b => frequency keyExpression ds b < frequency keyExpression ds a)
          (fun a b => frequency keyExpression ds a = frequency keyExpression ds b)
          (Value.firsts (ds.map (keyOf keyExpression))) keys) := by
  refine ⟨⟨_, ?_, partitions (nodup_of_readOutputs hspec houtputs) fun d hd => hkeyed.whole hd⟩,
    fun hsize => ?_⟩
  · rw [Pipeline.run_stage [] ds .group .group _ (by decide)]
    simp only [Pipeline.runStage, Pipeline.document, bind, Except.bind,
      run_eq hspec hid houtputs hkeyed hvalues]
    rfl
  · obtain ⟨keys, hkeys, hsorted⟩ := runStage_sortByCount _ hkeyed hsize
    refine ⟨keys, ?_, hsorted⟩
    rw [Pipeline.run_stage [] ds .sortByCount .sortByCount _ (by decide), hkeys]
    rfl

/-- People by team. One of them has none, and the teams are found where they are first named. -/
theorem documents_partitioned_people :
    let person (id : Int32) (name : String) (fields : Document) : Document :=
      (idField, .int32 id) :: ("name", .string name) :: fields
    let ds :=
      [person 1 "Tim" [], person 2 "Ada" [("team", .string "math")],
       person 3 "Grace" [("team", .string "navy")], person 4 "Alan" [("team", .string "math")]]
    let team : Value := .string "$team"
    let output (operator : String) (expression : Value) : Value :=
      .document [(operator, expression)]
    let spec : Document :=
      [(idField, team), ("names", output "$push" (.string "$name")),
       ("teams", output "$addToSet" team), ("size", output "$count" (.document []))]
    let outputs : List Output :=
      [⟨"names", .push, .string "$name"⟩, ⟨"teams", .addToSet, team⟩,
       ⟨"size", .count, .document []⟩]
    spec.keys.Nodup ∧ spec.get? idField = some team ∧ readOutputs spec = .ok outputs ∧
      Keyed team ds ∧ (∀ output ∈ outputs, Evaluates output.expression ds) ∧
      ds.length ≤ 0x20000000000000 ∧
      (∃ groups, Pipeline.run [StageKind.group.stage (.document spec)] ds = .ok groups ∧
        Partitions team outputs ds groups) ∧
      ∃ keys, Pipeline.run [StageKind.sortByCount.stage team] ds
          = .ok (keys.map (entryOf team ds)) ∧
        Sort.Sorted (fun a b => frequency team ds b < frequency team ds a)
          (fun a b => frequency team ds a = frequency team ds b)
          (Value.firsts (ds.map (keyOf team))) keys := by
  intro person ds team output spec outputs
  have hkeyed : Keyed team ds := by
    refine ⟨?_, by decide, trivial, ?_⟩
    · intro d hd
      simp only [ds, List.mem_cons, List.not_mem_nil, or_false] at hd
      obtain rfl | rfl | rfl | rfl := hd <;> exact ⟨_, rfl⟩
    · intro d hd
      simp only [ds, List.mem_cons, List.not_mem_nil, or_false] at hd
      obtain rfl | rfl | rfl | rfl := hd <;>
        simp [person, Value.NamesOnce, Value.fieldsNameOnce, Document.keys, idField]
  have hvalues : ∀ output ∈ outputs, Evaluates output.expression ds := by
    intro output houtput d hd
    simp only [outputs, ds, List.mem_cons, List.not_mem_nil, or_false] at houtput hd
    obtain rfl | rfl | rfl := houtput <;> obtain rfl | rfl | rfl | rfl := hd <;> exact ⟨_, rfl⟩
  have hnames : spec.keys.Nodup := by decide
  obtain ⟨hgroups, hkeys⟩ := documents_partitioned hnames rfl rfl hkeyed hvalues
  exact ⟨hnames, rfl, rfl, hkeyed, hvalues, by decide, hgroups, hkeys (by decide)⟩

end Group

end DocumentStore
