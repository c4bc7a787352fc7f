import DocumentStore.Proofs.Store.Staging

/-!
# Live collections

Updates and deletions work on the collections themselves, so what they have written when they fail
would stay. But all that can fail in them comes before the first write: the filter is tried on every
document, and an update is applied to copies. Whatever fails, the collections are left as they were.
-/
namespace DocumentStore

namespace Collections

variable {cs written : Collections} {name other : String}

/-! ## Agreement of views -/

/-- Whether two views have the same documents in every collection. -/
def Agree (cs cs' : Collections) : Prop := ∀ name, cs.documents name = cs'.documents name

namespace Agree

@[refl] theorem refl (cs : Collections) : Agree cs cs := fun _ => rfl

theorem symm {cs cs' : Collections} (h : Agree cs cs') : Agree cs' cs := fun name => (h name).symm

theorem trans {cs cs' cs'' : Collections} (h : Agree cs cs') (h' : Agree cs' cs'') :
    Agree cs cs'' := fun name => (h name).trans (h' name)

end Agree

theorem get?_put (cs : Collections) (name other : String) (ds : List Document) :
    (cs.put name ds).get? other = if other = name then some ds else cs.get? other := by
  induction cs with
  | nil => simp [put, get?, eq_comm]
  | cons entry rest ih =>
    obtain ⟨key, old⟩ := entry
    -- the entry at the head may be the one put, the one asked for, both or neither
    by_cases hkey : key = name
    · subst hkey
      by_cases hother : other = key
      · simp [put, get?, hother]
      · simp [put, get?, hother, Ne.symm hother]
    · by_cases hother : key = other
      · subst hother; simp [put, get?, hkey]
      · simp [put, get?, hkey, hother, ih]

theorem documents_put (cs : Collections) (name other : String) (ds : List Document) :
    (cs.put name ds).documents other = if other = name then ds else cs.documents other := by
  unfold documents
  rw [get?_put]
  split <;> rfl

/-- Choosing by name among documents that all stay as they are. -/
theorem documents_kept (cs : Collections) (name other : String) :
    (if other = name then cs.documents name else cs.documents other) = cs.documents other := by
  by_cases h : other = name
  · rw [if_pos h, h]
  · rw [if_neg h]

theorem documents_of_get? {ds : List Document} (h : cs.get? name = some ds) :
    cs.documents name = ds := by
  simp [documents, h]

theorem documents_of_missing (h : cs.get? name = none) : cs.documents name = [] := by
  simp [documents, h]

/-- Putting what is there changes nothing. -/
theorem put_of_get? {ds : List Document} (h : cs.get? name = some ds) : cs.put name ds = cs := by
  induction cs with
  | nil => cases h
  | cons entry rest ih =>
    obtain ⟨key, old⟩ := entry
    by_cases hkey : key = name
    · have hold : old = ds := by simpa [get?, hkey] using h
      simp [put, hkey, hold]
    · have hrest : get? rest name = some ds := by simpa [get?, hkey] using h
      simp [put, hkey, ih hrest]

/-- Of two lists of documents that are put one after the other the last one stays. -/
theorem put_put (cs : Collections) (name : String) (ds ds' : List Document) :
    (cs.put name ds).put name ds' = cs.put name ds' := by
  induction cs with
  | nil => simp [put]
  | cons entry rest ih =>
    obtain ⟨key, old⟩ := entry
    by_cases hkey : key = name
    · simp [put, hkey]
    · simp [put, hkey, ih]

theorem edit_of_get? {ds : List Document} (h : cs.get? name = some ds)
    (change : List Document → List Document) : cs.edit name change = cs.put name (change ds) := by
  unfold edit
  rw [h]

/-! ## Work that is done step by step -/

namespace Writing

variable {α β : Type}

@[simp] theorem runOn_pure (value : α) (cs : Collections) :
    (pure value : Writing α).runOn cs = (.ok value, cs) := rfl

/-- Where the first part fails, the second finds nothing to do, and nothing is taken back. -/
@[simp] theorem runOn_bind (work : Writing α) (next : α → Writing β) (cs : Collections) :
    (work >>= next).runOn cs = match work.runOn cs with
      | (.ok value, left) => (next value).runOn left
      | (.error e, left) => (.error e, left) := by
  unfold runOn
  rw [ExceptT.run_bind, StateT.run_bind]
  cases (ExceptT.run work).run cs with
  | mk result left => cases result <;> rfl

@[simp] theorem runOn_get (cs : Collections) :
    (get : Writing Collections).runOn cs = (.ok cs, cs) := rfl

@[simp] theorem runOn_modify (change : Collections → Collections) (cs : Collections) :
    (modify change : Writing PUnit).runOn cs = (.ok (), change cs) := rfl

/-- What only reads leaves the collections as they are, whether it fails or not. -/
@[simp] theorem runOn_liftM (result : Result α) (cs : Collections) :
    (liftM result : Writing α).runOn cs = (result, cs) := rfl

/-- Changes that are made to a collection one after the other are made to its documents. -/
theorem runOn_forM_edit (change : β → List Document → List Document) (items : List β)
    {ds : List Document} (h : cs.get? name = some ds) :
    (items.forM fun item => (modify (·.edit name (change item)) : Writing PUnit)).runOn cs
      = (.ok (), cs.put name (items.foldl (fun ds item => change item ds) ds)) := by
  induction items generalizing cs ds with
  | nil => exact congrArg (Prod.mk _) (put_of_get? h).symm
  | cons item rest ih =>
    have hget : (cs.put name (change item ds)).get? name = some (change item ds) := by
      rw [get?_put, if_pos rfl]
    rw [List.forM, runOn_bind, runOn_modify, edit_of_get? h]
    simp only [ih hget, put_put, List.foldl_cons]

end Writing

/-- Whether work that fails leaves the collections as they were. -/
def AllOrNothing {α : Type} (work : Collections → Result α × Collections) : Prop :=
  ∀ cs e, (work cs).1 = .error e → (work cs).2 = cs

/-- The collections with what work on the documents of one has made of these. -/
def replacing {α : Type} (cs : Collections) (name : String) :
    Result (α × List Document) → Result α × Collections
  | .ok (value, ds) => (.ok value, cs.put name ds)
  | .error e => (.error e, cs)

theorem replacing_of_error {α : Type} {e : ServiceError}
    {result : Result (α × List Document)}
    (h : (cs.replacing name result).1 = .error e) : (cs.replacing name result).2 = cs := by
  cases result with
  | error e => rfl
  | ok done => cases h

theorem replacing_fst {α : Type} (cs : Collections) (name : String)
    (result : Result (α × List Document)) :
    (cs.replacing name result).1 = result.map Prod.fst := by
  cases result <;> rfl

theorem documents_replacing {α : Type} (cs : Collections) (name other : String)
    (result : Result (α × List Document)) :
    (cs.replacing name result).2.documents other
      = if other = name then
          (do return (← result).2 : Result _).toOption.getD (cs.documents name)
        else cs.documents other := by
  cases result with
  | error e =>
    simpa [replacing, bind, Except.bind, Except.toOption]
      using (documents_kept cs name other).symm
  | ok done =>
    simpa [replacing, bind, Except.bind, pure, Except.pure, Except.toOption]
      using documents_put cs name other done.2

/-! ## Insertions -/

/-- What holds of documents still does when others are inserted if it does where those are
accepted. -/
theorem holds_of_inserted {P : List Document → Prop} {name : String} {ds new : List Document}
    (h : P ds) (happend : checkNew name ds new = .ok () → P (ds ++ new)) :
    P ((do checkNew name ds new; return ds ++ new : Result _).toOption.getD ds) := by
  cases hcheck : checkNew name ds new with
  | ok _ => exact happend hcheck
  | error e => exact h

theorem documents_insert (cs : Collections) (name other : String) (new : List Document) :
    (cs.insert name new).2.documents other
      = if other = name then
          (do checkNew name (cs.documents name) new
              return cs.documents name ++ new : Result _).toOption.getD (cs.documents name)
        else cs.documents other := by
  unfold insert
  cases hcheck : checkNew name (cs.documents name) new with
  | ok _ => simpa [hcheck, Except.toOption, bind, Except.bind, pure, Except.pure]
      using documents_put cs name other (cs.documents name ++ new)
  | error e => simpa [hcheck, Except.toOption, bind, Except.bind]
      using documents_put cs name other (cs.documents name)

theorem insert_agree_of_error {cs : Collections} {name : String} {new : List Document}
    {e : ServiceError} (h : (cs.insert name new).1 = .error e) :
    (cs.insert name new).2.Agree cs := by
  intro other
  rw [documents_insert]
  cases hcheck : checkNew name (cs.documents name) new with
  | ok _ => simp [Collections.insert, hcheck] at h
  | error e =>
    -- the collection may be new, but then it is empty
    simpa [bind, Except.bind, Except.toOption] using documents_kept cs name other

/-! ## Documents that a filter is tried on -/

variable [Pattern.Engine]

variable {filter update d : Document} {ds ds' found : List Document} {positions : List Nat}
  {many : Bool} {e : ServiceError}

/-- The documents that a filter is tried on. Where a collection is not there, this is the empty
one. -/
def tried (cs : Collections) (name : String) : List Document := (cs.get? name).getD [[]]

theorem matching_of_get? (h : cs.get? name = some ds) (filter : Document) :
    cs.matching name filter = Filter.positions filter ds := by
  rw [matching, h]

theorem matching_of_missing (h : cs.get? name = none) (filter : Document) :
    cs.matching name filter = (Filter.evaluate [] filter).map fun _ => [] := by
  rw [matching, h]
  cases Filter.evaluate [] filter <;> rfl

/-- Positions are found if the filter decides on every document that it is tried on. -/
theorem matching_eq_ok :
    cs.matching name filter = .ok positions ↔
      (∀ d ∈ cs.tried name, Filter.evaluate d filter = .ok (Filter.accepts filter d)) ∧
        positions = (cs.documents name).findIdxs (Filter.accepts filter) := by
  unfold tried documents
  cases hget : cs.get? name with
  | some ds =>
    rw [matching_of_get? hget]
    exact Filter.positions_eq_ok
  | none =>
    rw [matching_of_missing hget]
    cases heval : Filter.evaluate [] filter with
    | error e => simp [heval, Except.map]
    | ok met => simp [heval, Except.map, Filter.accepts_of_evaluate heval, eq_comm]

/-- A search in a collection that is there finds what a pipeline keeps. -/
theorem select_of_get? (h : cs.get? name = some ds) (filter : Document) :
    cs.select name filter = Pipeline.keepMatching filter ds := by
  rw [select, h, matching_of_get? h, Filter.keepMatching_eq_positions]
  cases Filter.positions filter ds <;> rfl

theorem select_of_matching_error (h : cs.matching name filter = .error e) :
    cs.select name filter = .error e := by
  rw [select, h]
  rfl

theorem matching_of_select_error (h : cs.select name filter = .error e) :
    cs.matching name filter = .error e := by
  cases hmatching : cs.matching name filter with
  | error e' => rw [Except.error.inj ((select_of_matching_error hmatching).symm.trans h)]
  | ok positions =>
    rw [select, hmatching] at h
    cases h

/-- It finds the documents that the filter accepts if that decides on all that it is tried on. -/
theorem select_eq_ok :
    cs.select name filter = .ok found ↔
      (∀ d ∈ cs.tried name, Filter.evaluate d filter = .ok (Filter.accepts filter d)) ∧
        found = (cs.documents name).filter (Filter.accepts filter) := by
  cases hmatching : cs.matching name filter with
  | error e =>
    have hundecided :
        ¬ ∀ d ∈ cs.tried name, Filter.evaluate d filter = .ok (Filter.accepts filter d) :=
      fun hdecided => by cases hmatching.symm.trans (matching_eq_ok.mpr ⟨hdecided, rfl⟩)
    simp [select_of_matching_error hmatching, hundecided]
  | ok positions =>
    obtain ⟨hdecided, rfl⟩ := matching_eq_ok.mp hmatching
    rw [and_iff_right hdecided, select, hmatching]
    have hplaces := Filter.filterMap_findIdxs (Filter.accepts filter) [] (cs.documents name)
    rw [List.length_nil, List.nil_append] at hplaces
    rw [← hplaces]
    unfold documents
    cases cs.get? name <;> simp [bind, Except.bind, pure, Except.pure, eq_comm]

/-! ## Updates -/

/-- What an update makes of the documents of a collection, with its outcome. -/
def updated (filter update : Document) (many : Bool) (ds : List Document) :
    Result (Update.Outcome × List Document) := do
  let positions := chosen many (← Filter.positions filter ds)
  let (staged, modified) ← stage update ds positions
  return (⟨positions.length, modified⟩, writeBack staged ds)

theorem updated_nil (filter update : Document) (many : Bool) :
    updated filter update many [] = .ok ({}, []) := by
  cases many <;> rfl

theorem updated_of_positions (h : Filter.positions filter ds = .ok positions)
    (update : Document) (many : Bool) :
    updated filter update many ds
      = (stage update ds (chosen many positions)).map fun (staged, modified) =>
          (⟨(chosen many positions).length, modified⟩, writeBack staged ds) := by
  rw [updated, h]
  cases hstage : stage update ds (chosen many positions) <;>
    simp [hstage, bind, Except.bind, pure, Except.pure, Except.map]

/-- An update of a collection that is there either puts back what it makes of the documents or,
where that fails, leaves the collections as they were. -/
theorem runOn_update_of_get? (h : cs.get? name = some ds) (filter update : Document)
    (many : Bool) :
    (Collections.update name filter update many).runOn cs
      = cs.replacing name (updated filter update many ds) := by
  unfold Collections.update
  simp only [Writing.runOn_bind, Writing.runOn_get, Writing.runOn_liftM, matching_of_get? h]
  cases hpositions : Filter.positions filter ds with
  | error e => simp only [updated, hpositions]; rfl
  | ok positions =>
    rw [updated_of_positions hpositions]
    simp only [h, Writing.runOn_bind, Writing.runOn_liftM]
    cases stage update ds (chosen many positions) with
    | error e => rfl
    | ok staged =>
      -- from here on documents are written, and nothing fails any more
      have hwritten := Writing.runOn_forM_edit (fun entry ds => ds.set entry.1 entry.2) staged.1 h
      simp only [hwritten]
      rfl

/-- In a collection that is not there the filter is tried and nothing else is done. -/
theorem runOn_update_of_missing (h : cs.get? name = none) (filter update : Document)
    (many : Bool) :
    (Collections.update name filter update many).runOn cs
      = ((Filter.evaluate [] filter).map fun _ => {}, cs) := by
  unfold Collections.update
  simp only [Writing.runOn_bind, Writing.runOn_get, Writing.runOn_liftM, matching_of_missing h]
  cases Filter.evaluate [] filter with
  | error e => rfl
  | ok met =>
    simp only [Except.map, h]
    rfl

theorem runOn_update_of_select_error (h : cs.select name filter = .error e) (update : Document)
    (many : Bool) :
    (Collections.update name filter update many).runOn cs = (.error e, cs) := by
  unfold Collections.update
  simp only [Writing.runOn_bind, Writing.runOn_get, Writing.runOn_liftM,
    matching_of_select_error h]

theorem allOrNothing_update (name : String) (filter update : Document) (many : Bool) :
    AllOrNothing (Collections.update name filter update many).runOn := by
  intro cs e hfailed
  cases hget : cs.get? name with
  | none => rw [runOn_update_of_missing hget]
  | some ds =>
    rw [runOn_update_of_get? hget] at hfailed ⊢
    exact replacing_of_error hfailed

/-- An update succeeds if the filter decides on all documents and it can be applied to all that are
addressed. -/
theorem exists_updated :
    (∃ done, updated filter update many ds = .ok done) ↔
      (∀ d ∈ ds, Filter.evaluate d filter = .ok (Filter.accepts filter d)) ∧
        ∀ i d, Filter.addresses filter many ds i = true → ds[i]? = some d →
          ∃ d', Update.apply d update = .ok d' := by
  rw [← Filter.exists_positions]
  cases hpositions : Filter.positions filter ds with
  | error e => simp [updated, hpositions, bind, Except.bind]
  | ok positions =>
    obtain ⟨-, rfl⟩ := Filter.positions_eq_ok.mp hpositions
    have hstaged : (∃ done, updated filter update many ds = .ok done) ↔ ∃ done, stage update ds
        (chosen many (ds.findIdxs (Filter.accepts filter))) = .ok done := by
      rw [updated_of_positions hpositions]
      cases stage update ds (chosen many (ds.findIdxs (Filter.accepts filter))) <;>
        simp [Except.map]
    rw [hstaged, and_iff_right ⟨_, rfl⟩, exists_stage, Filter.chosen_findIdxs]
    constructor
    · intro happly i d htarget hd
      have hi := (List.getElem?_eq_some_iff.mp hd).1
      obtain ⟨d', hd'⟩ := happly i (List.mem_filter.mpr ⟨List.mem_range.mpr hi, htarget⟩)
      rw [List.getD_eq_getElem?_getD, hd] at hd'
      exact ⟨d', hd'⟩
    · intro happly i hi
      obtain ⟨hi, htarget⟩ := List.mem_filter.mp hi
      rw [List.getD_eq_getElem?_getD, List.getElem?_eq_getElem (List.mem_range.mp hi)]
      exact happly i _ htarget (List.getElem?_eq_getElem _)

theorem effect_updated {outcome : Update.Outcome}
    (h : updated filter update many ds = .ok (outcome, ds')) :
    Update.Effect update (Filter.addresses filter many ds) ds ds' outcome := by
  obtain ⟨positions, hpositions, h⟩ := Result.bind_eq_ok h
  obtain ⟨⟨staged, modified⟩, hstage, h⟩ := Result.bind_eq_ok h
  cases h
  obtain ⟨-, rfl⟩ := Filter.positions_eq_ok.mp hpositions
  exact (staged_of_stage hstage).effect (Filter.chosen_findIdxs filter many ds)

/-! ## Deletions -/

/-- What a deletion leaves of the documents of a collection, with their number. -/
def deleted (filter : Document) (many : Bool) (ds : List Document) :
    Result (Nat × List Document) := do
  let positions := chosen many (← Filter.positions filter ds)
  return (positions.length, removeAt positions ds)

theorem deleted_nil (filter : Document) (many : Bool) : deleted filter many [] = .ok (0, []) := by
  cases many <;> rfl

theorem runOn_delete_of_get? (h : cs.get? name = some ds) (filter : Document) (many : Bool) :
    (Collections.delete name filter many).runOn cs
      = cs.replacing name (deleted filter many ds) := by
  unfold Collections.delete deleted
  simp only [Writing.runOn_bind, Writing.runOn_get, Writing.runOn_liftM, matching_of_get? h]
  cases Filter.positions filter ds with
  | error e => rfl
  | ok positions =>
    have hremoved := Writing.runOn_forM_edit (fun i ds => ds.eraseIdx i)
      (chosen many positions).reverse h
    simp only [h, Writing.runOn_bind, hremoved]
    rfl

theorem runOn_delete_of_missing (h : cs.get? name = none) (filter : Document) (many : Bool) :
    (Collections.delete name filter many).runOn cs
      = ((Filter.evaluate [] filter).map fun _ => 0, cs) := by
  unfold Collections.delete
  simp only [Writing.runOn_bind, Writing.runOn_get, Writing.runOn_liftM, matching_of_missing h]
  cases Filter.evaluate [] filter with
  | error e => rfl
  | ok met =>
    simp only [Except.map, h]
    rfl

theorem runOn_delete_of_select_error (h : cs.select name filter = .error e) (many : Bool) :
    (Collections.delete name filter many).runOn cs = (.error e, cs) := by
  unfold Collections.delete
  simp only [Writing.runOn_bind, Writing.runOn_get, Writing.runOn_liftM,
    matching_of_select_error h]

theorem allOrNothing_delete (name : String) (filter : Document) (many : Bool) :
    AllOrNothing (Collections.delete name filter many).runOn := by
  intro cs e hfailed
  cases hget : cs.get? name with
  | none => rw [runOn_delete_of_missing hget]
  | some ds =>
    rw [runOn_delete_of_get? hget] at hfailed ⊢
    exact replacing_of_error hfailed

/-- The documents that are left when those that a filter accepts are deleted, or the first. -/
def remaining (filter : Document) (many : Bool) (ds : List Document) : List Document :=
  if many then ds.filter (!Filter.accepts filter ·) else ds.eraseP (Filter.accepts filter)

theorem remaining_sublist (filter : Document) (many : Bool) (ds : List Document) :
    (remaining filter many ds).Sublist ds := by
  cases many with
  | true => exact List.filter_sublist
  | false => exact List.eraseP_sublist

/-- A document that the filter does not accept is left. -/
theorem mem_remaining (h : Filter.accepts filter d = false) (hd : d ∈ ds) :
    d ∈ remaining filter many ds := by
  cases many with
  | true => exact List.mem_filter.mpr ⟨hd, by simp [h]⟩
  | false => exact (List.mem_eraseP_of_neg (by simp [h])).mpr hd

theorem removeAt_chosen (filter : Document) (many : Bool) (ds : List Document) :
    removeAt (chosen many (ds.findIdxs (Filter.accepts filter))) ds
      = remaining filter many ds := by
  cases many with
  | true => exact removeAt_findIdxs (Filter.accepts filter) [] ds
  | false => exact removeAt_take_findIdxs (Filter.accepts filter) [] ds

theorem length_remaining (filter : Document) (many : Bool) (ds : List Document) :
    (chosen many (ds.findIdxs (Filter.accepts filter))).length
      + (remaining filter many ds).length = ds.length := by
  rw [← removeAt_chosen, Nat.add_comm]
  refine length_removeAt ?_ fun i hi => ?_
  · rw [Filter.chosen_findIdxs]
    exact List.pairwise_lt_range.filter _
  · rw [Filter.chosen_findIdxs] at hi
    exact List.mem_range.mp (List.mem_of_mem_filter hi)

/-- A deletion leaves what it should, and the positions that it counts are the documents that are
gone. -/
theorem deleted_eq_ok {count : Nat} :
    deleted filter many ds = .ok (count, ds') ↔
      (∀ d ∈ ds, Filter.evaluate d filter = .ok (Filter.accepts filter d)) ∧
        ds' = remaining filter many ds ∧ count + ds'.length = ds.length := by
  rw [← Filter.exists_positions]
  cases hpositions : Filter.positions filter ds with
  | error e => simp [deleted, hpositions, bind, Except.bind]
  | ok positions =>
    obtain ⟨-, rfl⟩ := Filter.positions_eq_ok.mp hpositions
    have hlength := length_remaining filter many ds
    have hdeleted : deleted filter many ds
        = .ok ((chosen many (ds.findIdxs (Filter.accepts filter))).length,
          remaining filter many ds) := by
      rw [deleted, hpositions, ← removeAt_chosen]
      rfl
    rw [hdeleted]
    constructor
    · intro h
      cases h
      exact ⟨⟨_, rfl⟩, rfl, hlength⟩
    · rintro ⟨-, rfl, hcount⟩
      rw [show count = _ from Nat.add_right_cancel (hcount.trans hlength.symm)]

/-- Where its filter does not fail, a deletion succeeds. -/
theorem runOn_delete_of_select (h : cs.select name filter = .ok found) (many : Bool) :
    (Collections.delete name filter many).runOn cs
      = (.ok ((cs.documents name).length - (remaining filter many (cs.documents name)).length),
          cs.edit name (remaining filter many)) := by
  obtain ⟨hdecided, -⟩ := select_eq_ok.mp h
  cases hget : cs.get? name with
  | some ds =>
    have hlength := length_remaining filter many ds
    have hdeleted := deleted_eq_ok.mpr ⟨by simpa [tried, hget] using hdecided, rfl, hlength⟩
    rw [runOn_delete_of_get? hget, hdeleted, documents_of_get? hget, edit_of_get? hget]
    simp only [replacing, Nat.eq_sub_of_add_eq hlength]
  | none =>
    have heval := hdecided [] (by simp [tried, hget])
    rw [runOn_delete_of_missing hget, heval, documents_of_missing hget]
    simp only [edit, hget]
    cases many <;> rfl

end Collections

end DocumentStore
