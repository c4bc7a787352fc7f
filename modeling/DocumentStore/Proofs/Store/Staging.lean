import DocumentStore.Proofs.Filter.Positions

/-!
# Writes by position

An update puts copies back at the positions that they were taken from, and a deletion removes
positions one after the other from the back. Since the positions are in ascending order, what is
still to be removed stands where it stood at the beginning, and what was put back is not put back
again. So either does to the documents at these positions what it is meant to, and to no others.
-/
namespace DocumentStore

variable {update d : Document} {ds ds' : List Document} {positions : List Nat}
  {staged : List (Nat × Document)} {modified i : Nat}

namespace Collections

/-! ## Removals -/

/-- The documents that are left when those at some positions are removed, the last one first. -/
def removeAt (positions : List Nat) (ds : List Document) : List Document :=
  positions.reverse.foldl List.eraseIdx ds

theorem removeAt_cons (position : Nat) (rest : List Nat) (ds : List Document) :
    removeAt (position :: rest) ds = (removeAt rest ds).eraseIdx position := by
  simp [removeAt]

/-- In front of the positions everything stays in its place. -/
theorem getElem?_removeAt_of_lt (h : ∀ j ∈ positions, i < j) :
    (removeAt positions ds)[i]? = ds[i]? := by
  induction positions with
  | nil => rfl
  | cons j rest ih =>
    obtain ⟨hj, hrest⟩ := List.forall_mem_cons.mp h
    rw [removeAt_cons, List.getElem?_eraseIdx_of_lt hj, ih hrest]

/-- Every removal takes a document away. -/
theorem length_removeAt (hascending : positions.Pairwise (· < ·))
    (hrange : ∀ i ∈ positions, i < ds.length) :
    (removeAt positions ds).length + positions.length = ds.length := by
  induction positions with
  | nil => rfl
  | cons i rest ih =>
    obtain ⟨hbehind, hascending⟩ := List.pairwise_cons.mp hascending
    obtain ⟨hi, hrange⟩ := List.forall_mem_cons.mp hrange
    have hlength := ih hascending hrange
    -- the document is still there when its turn comes
    have hthere : i < (removeAt rest ds).length := by
      have hkept : (removeAt rest ds)[i]? = ds[i]? := getElem?_removeAt_of_lt hbehind
      rw [List.getElem?_eq_getElem hi] at hkept
      exact (List.getElem?_eq_some_iff.mp hkept).1
    rw [removeAt_cons, List.length_eraseIdx_of_lt hthere, List.length_cons]
    omega

/-- Removing all documents that are found leaves the others. -/
theorem removeAt_findIdxs (p : Document → Bool) (before ds : List Document) :
    removeAt (ds.findIdxs p before.length) (before ++ ds) = before ++ ds.filter (!p ·) := by
  induction ds generalizing before with
  | nil => rfl
  | cons d rest ih =>
    have hrest := ih (before ++ [d])
    rw [List.append_assoc, List.singleton_append, List.length_append, List.length_singleton,
      List.append_assoc, List.singleton_append] at hrest
    cases hd : p d with
    | false =>
      rw [List.findIdxs_cons, hd, if_neg (by simp), hrest, List.filter_cons_of_pos (by simp [hd])]
    | true =>
      rw [List.findIdxs_cons, hd, if_pos rfl, removeAt_cons, hrest,
        List.eraseIdx_append_of_length_le (Nat.le_refl _), Nat.sub_self, List.eraseIdx_cons_zero,
        List.filter_cons_of_neg (by simp [hd])]

/-- Removing the first one leaves the others as well. -/
theorem removeAt_take_findIdxs (p : Document → Bool) (before ds : List Document) :
    removeAt ((ds.findIdxs p before.length).take 1) (before ++ ds) = before ++ ds.eraseP p := by
  induction ds generalizing before with
  | nil => rfl
  | cons d rest ih =>
    have hrest := ih (before ++ [d])
    rw [List.append_assoc, List.singleton_append, List.length_append, List.length_singleton,
      List.append_assoc, List.singleton_append] at hrest
    cases hd : p d with
    | false =>
      rw [List.findIdxs_cons, hd, if_neg (by simp), hrest, List.eraseP_cons_of_neg (by simp [hd])]
    | true =>
      rw [List.findIdxs_cons, hd, if_pos rfl, List.eraseP_cons_of_pos hd]
      simp [removeAt, List.eraseIdx_append_of_length_le]

/-! ## Staged copies -/

/-- The documents with staged copies in their places. -/
def writeBack (staged : List (Nat × Document)) (ds : List Document) : List Document :=
  staged.foldl (fun ds entry => ds.set entry.1 entry.2) ds

theorem length_writeBack (staged : List (Nat × Document)) (ds : List Document) :
    (writeBack staged ds).length = ds.length := by
  induction staged generalizing ds with
  | nil => rfl
  | cons entry rest ih =>
    refine (ih (ds.set entry.1 entry.2)).trans ?_
    exact List.length_set

/-- Where nothing is staged the document stays. -/
theorem getElem?_writeBack_of_notMem (h : i ∉ staged.map Prod.fst) :
    (writeBack staged ds)[i]? = ds[i]? := by
  induction staged generalizing ds with
  | nil => rfl
  | cons entry rest ih =>
    obtain ⟨hentry, hrest⟩ := List.ne_and_not_mem_of_not_mem_cons h
    exact (ih hrest).trans (List.getElem?_set_ne (Ne.symm hentry))

/-- A copy is there in the end, since nothing else is put in its place. -/
theorem getElem?_writeBack_of_mem (hdistinct : (staged.map Prod.fst).Nodup)
    (h : (i, d) ∈ staged) (hi : i < ds.length) : (writeBack staged ds)[i]? = some d := by
  induction staged generalizing ds with
  | nil => cases h
  | cons entry rest ih =>
    obtain ⟨hother, hdistinct⟩ := List.nodup_cons.mp hdistinct
    obtain rfl | hrest := List.mem_cons.mp h
    · exact (getElem?_writeBack_of_notMem hother).trans (List.getElem?_set_self hi)
    · exact ih hdistinct hrest (by rwa [List.length_set])

/-- What is staged at some positions: the documents there with the update applied, and the number of
those that it changes. -/
structure Staged (update : Document) (ds : List Document) (positions : List Nat)
    (staged : List (Nat × Document)) (modified : Nat) : Prop where
  positions : staged.map Prod.fst = positions
  applied : ∀ entry ∈ staged, Update.apply (ds.getD entry.1 []) update = .ok entry.2
  modified : modified = staged.countP fun entry => !Document.same (ds.getD entry.1 []) entry.2

theorem staged_of_stage (h : stage update ds positions = .ok (staged, modified)) :
    Staged update ds positions staged modified := by
  induction positions generalizing staged modified with
  | nil =>
    cases h
    exact ⟨rfl, nofun, rfl⟩
  | cons i rest ih =>
    obtain ⟨changed, happly, h⟩ := Result.bind_eq_ok h
    obtain ⟨⟨others, count⟩, hrest, h⟩ := Result.bind_eq_ok h
    cases h
    have hothers := ih hrest
    refine ⟨congrArg (i :: ·) hothers.positions,
      List.forall_mem_cons.mpr ⟨happly, hothers.applied⟩, ?_⟩
    rw [List.countP_cons, ← hothers.modified]
    cases hsame : Document.same (ds.getD i []) changed <;> simp

/-- The update is staged if it can be applied at every position. -/
theorem exists_stage :
    (∃ done, stage update ds positions = .ok done) ↔
      ∀ i ∈ positions, ∃ d', Update.apply (ds.getD i []) update = .ok d' := by
  induction positions with
  | nil => exact iff_of_true ⟨_, rfl⟩ nofun
  | cons i rest ih =>
    rw [List.forall_mem_cons, ← ih]
    constructor
    · rintro ⟨done, h⟩
      obtain ⟨changed, happly, h⟩ := Result.bind_eq_ok h
      obtain ⟨others, hrest, -⟩ := Result.bind_eq_ok h
      exact ⟨⟨changed, happly⟩, others, hrest⟩
    · rintro ⟨⟨changed, happly⟩, others, hrest⟩
      exact ⟨_, by rw [stage, happly, hrest]; rfl⟩

end Collections

/-! ## The effect of an update -/

/-- Whether two lists have different documents at a position. -/
def Document.differAt (ds ds' : List Document) (i : Nat) : Bool :=
  match ds[i]?, ds'[i]? with
  | some d, some d' => !Document.same d d'
  | _, _ => false

namespace Update

/-- What an update of the documents at some positions makes of a list. -/
structure Effect (update : Document) (target : Nat → Bool) (ds ds' : List Document)
    (outcome : Outcome) : Prop where
  length : ds'.length = ds.length
  changed : ∀ i d, target i = true → ds[i]? = some d →
    ∃ d', apply d update = .ok d' ∧ ds'[i]? = some d'
  kept : ∀ i, target i = false → ds'[i]? = ds[i]?
  matched : outcome.matched = (List.range ds.length).countP target
  modified : outcome.modified
    = (List.range ds.length).countP fun i => target i && Document.differAt ds ds' i

end Update

/-- Putting back the copies that were staged has this effect. -/
theorem Collections.Staged.effect {target : Nat → Bool}
    (h : Staged update ds positions staged modified)
    (hpositions : positions = (List.range ds.length).filter target) :
    Update.Effect update target ds (writeBack staged ds) ⟨positions.length, modified⟩ := by
  have hmem (i : Nat) : i ∈ positions ↔ i < ds.length ∧ target i = true := by
    rw [hpositions, List.mem_filter, List.mem_range]
  have hdistinct : (staged.map Prod.fst).Nodup := by
    rw [h.positions, hpositions]
    exact List.nodup_range.filter _
  -- a copy that was staged was taken from its position, and has come back to it
  have hentry : ∀ entry ∈ staged, ∃ d, ds[entry.1]? = some d ∧
      Update.apply d update = .ok entry.2 ∧ (writeBack staged ds)[entry.1]? = some entry.2 := by
    intro entry hentry
    have hi : entry.1 < ds.length :=
      ((hmem entry.1).mp (h.positions ▸ List.mem_map_of_mem hentry)).1
    have happly := h.applied entry hentry
    rw [List.getD_eq_getElem?_getD, List.getElem?_eq_getElem hi] at happly
    exact ⟨ds[entry.1], List.getElem?_eq_getElem hi, happly,
      getElem?_writeBack_of_mem hdistinct hentry hi⟩
  refine ⟨length_writeBack staged ds, fun i d htarget hd => ?_, fun i htarget => ?_, ?_, ?_⟩
  · have hi : i ∈ staged.map Prod.fst := by
      rw [h.positions]
      exact (hmem i).mpr ⟨(List.getElem?_eq_some_iff.mp hd).1, htarget⟩
    obtain ⟨entry, hstaged, rfl⟩ := List.mem_map.mp hi
    obtain ⟨d', hd', happly, hwritten⟩ := hentry entry hstaged
    obtain rfl : d' = d := Option.some.inj (hd'.symm.trans hd)
    exact ⟨entry.2, happly, hwritten⟩
  · refine getElem?_writeBack_of_notMem fun hi => ?_
    rw [h.positions, hmem, htarget] at hi
    cases hi.2
  · rw [hpositions, List.countP_eq_length_filter]
  · have hboth : (List.range ds.length).countP (fun i =>
        target i && Document.differAt ds (writeBack staged ds) i)
          = positions.countP (Document.differAt ds (writeBack staged ds)) := by
      rw [hpositions, List.countP_filter]
      simp only [Bool.and_comm]
    rw [hboth, ← h.positions, List.countP_map, h.modified]
    refine List.countP_congr fun entry hstaged => ?_
    obtain ⟨d, hd, -, hwritten⟩ := hentry entry hstaged
    simp [Document.differAt, hd, hwritten]

end DocumentStore
