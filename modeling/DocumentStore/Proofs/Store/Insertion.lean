import DocumentStore.Proofs.Store.LeftOver
import DocumentStore.Proofs.Store.Unmoved

/-!
# Insertions, at once and one by one

Documents that are inserted together are checked before any of them is stored: the identifier of
each against those that are stored and those of the documents before it. When the documents are
inserted one after another, these are the identifiers that the collection has when it is the turn of
the document. So both succeed on the same documents and leave the same, and where they fail it is on
the same document, but what came before it is stored only if it was inserted on its own.
-/
namespace DocumentStore

open Collections (idOf hasId checkNew)

variable {name : String} {taken ds : List Document} {d : Document}

/-! ## Identifiers that are taken -/

namespace Collections

theorem checkNew_singleton (name : String) (taken : List Document) (d : Document) :
    checkNew name taken [d]
      = if hasId taken (idOf d) then .error (.documentAlreadyExists (idOf d).text name)
        else .ok () := rfl

/-- Documents are checked one after another, each of them against all before it as well. -/
theorem checkNew_append (name : String) (taken before after : List Document) :
    checkNew name taken (before ++ after) = (do
      checkNew name taken before
      checkNew name (taken ++ before) after) := by
  induction before generalizing taken with
  | nil => rw [List.append_nil]; rfl
  | cons d rest ih =>
    rw [List.cons_append, checkNew, checkNew]
    split
    · rfl
    · rw [ih, ← List.append_cons]

/-- Documents that are refused are refused for the first whose identifier is taken. -/
theorem exists_of_checkNew_error {e : ServiceError} (h : checkNew name taken ds = .error e) :
    ∃ before d after, ds = before ++ d :: after ∧ checkNew name taken before = .ok () ∧
      checkNew name (taken ++ before) [d] = .error e := by
  induction ds generalizing taken with
  | nil => cases h
  | cons d rest ih =>
    rw [← List.singleton_append, checkNew_append] at h
    cases hd : checkNew name taken [d] with
    | error e' =>
      rw [hd] at h
      cases h
      exact ⟨[], d, rest, rfl, rfl, by rwa [List.append_nil]⟩
    | ok =>
      rw [hd] at h
      obtain ⟨before, later, after, rfl, hbefore, hlater⟩ := ih h
      refine ⟨d :: before, later, after, rfl, ?_, by rwa [List.append_cons]⟩
      rw [← List.singleton_append, checkNew_append, hd]
      exact hbefore

/-- They are accepted if none of them has the identifier of one that is stored or comes before
it. -/
theorem checkNew_eq_ok :
    checkNew name taken ds = .ok () ↔
      ∀ before d after, ds = before ++ d :: after → hasId (taken ++ before) (idOf d) = false := by
  constructor
  · rintro h before d after rfl
    rw [checkNew_append] at h
    obtain ⟨⟨⟩, -, h⟩ := Result.bind_eq_ok h
    rw [checkNew] at h
    split at h
    · cases h
    · rename_i hfree
      simpa using hfree
  · intro hfree
    cases h : checkNew name taken ds with
    | ok => rfl
    | error e =>
      obtain ⟨before, d, after, hsplit, -, hd⟩ := exists_of_checkNew_error h
      simp [checkNew_singleton, hfree before d after hsplit] at hd

end Collections

namespace Store

open Collections

variable {s : Store} {session : Option SessionId}

/-! ## What an insertion leaves to all sessions -/

/-- Where a call makes of its collection what it was, every session sees the same documents. -/
theorem agree_answer_of_rewrite {fresh : Nat → ObjectId} {call : Call}
    (h : call.rewrite fresh ((s.view session).documents call.collection)
      = (s.view session).documents call.collection) (viewer : Option SessionId) :
    ((s.answer session fresh call).2.view viewer).Agree (s.view viewer) := by
  obtain ⟨hperformed, hsame⟩ | hkept := view_answer_cases fresh call viewer
  · rw [hperformed, hsame]
    intro other
    rw [Call.documents_perform, h]
    exact documents_kept _ _ other
  · rw [hkept]

/-- The documents that a call inserts, with their identifiers. -/
def Call.arrivals (fresh : Nat → ObjectId) : Call → List Document
  | .insert _ d => [Document.identify (fresh 0) d]
  | .insertMany _ ds => identifyAll fresh ds
  | _ => []

theorem Call.rewrite?_insertion {call : Call} (h : call.isInsertion = true)
    (fresh : Nat → ObjectId) (ds : List Document) :
    call.rewrite? fresh ds = (do
      checkNew call.collection ds (call.arrivals fresh)
      return ds ++ call.arrivals fresh) := by
  cases call <;> first | rfl | cases h

variable (session) in
/-- Documents that are refused are not written. -/
theorem documents_of_refused (fresh : Nat → ObjectId) (call : Call) {e : ServiceError}
    (hcall : call.isInsertion = true)
    (h : checkNew call.collection ((s.view session).documents call.collection)
      (call.arrivals fresh) = .error e) (viewer : Option SessionId) (name : String) :
    ((s.answer session fresh call).2.view viewer).documents name
      = (s.view viewer).documents name := by
  refine agree_answer_of_rewrite ?_ viewer name
  rw [Call.rewrite, Call.rewrite?_insertion hcall, h]
  rfl

variable (session) in
/-- Documents that are accepted are put behind the others. -/
theorem documents_of_accepted (fresh : Nat → ObjectId) (call : Call)
    (hcall : call.isInsertion = true)
    (h : checkNew call.collection ((s.view session).documents call.collection)
      (call.arrivals fresh) = .ok ()) (name : String) :
    ((s.answer session fresh call).2.view session).documents name
      = if name = call.collection then
          (s.view session).documents call.collection ++ call.arrivals fresh
        else (s.view session).documents name := by
  rw [view_answer_self, Call.documents_perform, Call.rewrite, Call.rewrite?_insertion hcall, h]
  rfl

theorem insertAll_fst (s : Store) (session : Option SessionId) (name : String)
    (new : List Document) :
    (s.insertAll session name new).1
      = (checkNew name ((s.view session).documents name) new).map fun _ => new.map idOf := by
  rw [insertAll, write_fst]
  simp only [Collections.insert]
  cases checkNew name ((s.view session).documents name) new <;> rfl

theorem insert_fst (s : Store) (session : Option SessionId) (fresh : Nat → ObjectId)
    (name : String) (d : Document) :
    (s.answer session fresh (.insert name d)).1
      = (checkNew name ((s.view session).documents name) [Document.identify (fresh 0) d]).map
          fun _ => idOf (Document.identify (fresh 0) d) := by
  have hall := s.insertAll_fst session name [Document.identify (fresh 0) d]
  simp only [answer, hall]
  cases checkNew name ((s.view session).documents name) [Document.identify (fresh 0) d] <;> rfl

theorem insertAll_of_checked (h : checkNew name ((s.view session).documents name) ds = .ok ()) :
    s.insertAll session name ds = (.ok (ds.map idOf),
      s.rewritten session ((s.view session).put name ((s.view session).documents name ++ ds))) := by
  refine write_of_ok ?_
  simp only [Collections.insert, h]
  rfl

/-- A document that has an identifier keeps it. -/
theorem identify_of_contains {id : ObjectId} (h : d.contains idField = true) :
    Document.identify id d = d :=
  if_pos h

theorem identifyAll_of_contains {fresh : Nat → ObjectId}
    (h : ∀ d ∈ ds, Document.contains d idField = true) : identifyAll fresh ds = ds := by
  refine List.ext_getElem (by simp [identifyAll]) fun i _ hi => ?_
  simpa [identifyAll] using identify_of_contains (h _ (List.getElem_mem hi))

/-! ## Insertions one after another -/

/-- Inserts documents one after another, up to the first that is refused, and answers their
identifiers. -/
def insertEach (session : Option SessionId) (fresh : Nat → ObjectId) (name : String) :
    List Document → Store → Result (List Value) × Store
  | [], s => (.ok [], s)
  | d :: rest, s =>
    match s.answer session fresh (.insert name d) with
    | (.ok id, s) =>
      let (ids, s) := insertEach session fresh name rest s
      (ids.map (id :: ·), s)
    | (.error e, s) => (.error e, s)

variable {fresh : Nat → ObjectId}

theorem insertEach_of_refused {e : ServiceError}
    (h : (s.answer session fresh (.insert name d)).1 = .error e) (rest : List Document) :
    (s.insertEach session fresh name (d :: rest)).1 = .error e := by
  rw [insertEach]
  cases hanswer : s.answer session fresh (.insert name d) with
  | mk result next =>
    obtain rfl : result = .error e := by rwa [hanswer] at h
    rfl

/-- Once some documents are inserted, it goes on with the others. -/
theorem insertEach_append {before : List Document} {ids : List Value}
    (h : (s.insertEach session fresh name before).1 = .ok ids) (after : List Document) :
    (s.insertEach session fresh name (before ++ after)).1
      = ((s.insertEach session fresh name before).2.insertEach session fresh name after).1.map
          (ids ++ ·) := by
  induction before generalizing s ids with
  | nil =>
    cases h
    simp only [List.nil_append, insertEach]
    cases (s.insertEach session fresh name after).1 <;> rfl
  | cons d rest ih =>
    simp only [List.cons_append, insertEach] at h ⊢
    cases hanswer : s.answer session fresh (.insert name d) with
    | mk result next =>
      rw [hanswer] at h
      cases result with
      | error e => cases h
      | ok id =>
        cases hrest : (next.insertEach session fresh name rest).1 with
        | error e => simp [hrest, Except.map] at h
        | ok others =>
          obtain rfl : id :: others = ids := by simpa [hrest, Except.map] using h
          simp only [ih hrest]
          cases ((next.insertEach session fresh name rest).2.insertEach session fresh name
            after).1 <;> rfl

section Identified

variable (hids : ∀ d ∈ ds, Document.contains d idField = true)
include hids

/-- One after another, documents that are accepted are put where they would be put together. -/
theorem insertEach_of_checked (fresh : Nat → ObjectId)
    (h : checkNew name ((s.view session).documents name) ds = .ok ()) :
    (s.insertEach session fresh name ds).1 = .ok (ds.map idOf) ∧
      ((s.insertEach session fresh name ds).2.view session).documents name
        = (s.view session).documents name ++ ds ∧
      (ds ≠ [] ∨ ((s.view session).get? name).isSome → SameViews
        (s.rewritten session
          ((s.view session).put name ((s.view session).documents name ++ ds)))
        (s.insertEach session fresh name ds).2) := by
  induction ds generalizing s with
  | nil =>
    refine ⟨rfl, (List.append_nil _).symm, fun hthere => ?_⟩
    obtain ⟨stored, hget⟩ :=
      Option.isSome_iff_exists.mp (hthere.resolve_left fun hsome => hsome rfl)
    rw [List.append_nil, put_of_get? (by rw [hget, documents_of_get? hget])]
    exact (SameViews.rewritten s session).symm
  | cons d rest ih =>
    rw [← List.singleton_append, checkNew_append] at h
    obtain ⟨⟨⟩, hd, hrest⟩ := Result.bind_eq_ok h
    -- the first document is put there, and the others follow it
    have hanswer : s.answer session fresh (.insert name d) = (.ok (idOf d), s.rewritten session
        ((s.view session).put name ((s.view session).documents name ++ [d]))) := by
      simp only [answer, identify_of_contains (hids d List.mem_cons_self),
        insertAll_of_checked hd]
      rfl
    have hlast := SameViews.rewritten_rewritten s session
      ((s.view session).put name ((s.view session).documents name ++ [d]))
      ((s.view session).put name ((s.view session).documents name ++ d :: rest))
    generalize hnext : s.rewritten session
      ((s.view session).put name ((s.view session).documents name ++ [d])) = next at hanswer hlast
    have hview : next.view session
        = (s.view session).put name ((s.view session).documents name ++ [d]) := by
      rw [← hnext, view_rewritten]
    have hdocuments : (next.view session).documents name
        = (s.view session).documents name ++ [d] := by
      rw [hview, documents_put, if_pos rfl]
    rw [← hdocuments] at hrest
    obtain ⟨hresult, hleft, hsame⟩ :=
      ih (fun other hother => hids other (List.mem_cons_of_mem _ hother)) hrest
    rw [hdocuments, List.append_assoc, List.singleton_append] at hleft hsame
    rw [hview, put_put] at hsame
    simp only [insertEach, hanswer, hresult]
    exact ⟨rfl, hleft, fun _ => hlast.trans (hsame (.inr (by simp [isSome_get?_put])))⟩

/-- Documents that are not accepted are inserted up to the one that is refused. -/
theorem insertEach_of_checkNew_error (fresh : Nat → ObjectId) {e : ServiceError}
    (h : checkNew name ((s.view session).documents name) ds = .error e) :
    (s.insertEach session fresh name ds).1 = .error e ∧
      ∃ before d after, ds = before ++ d :: after ∧
        (∃ ids, (s.insertEach session fresh name before).1 = .ok ids) ∧
        ((s.insertEach session fresh name before).2.answer session fresh (.insert name d)).1
          = .error e ∧
        e = .documentAlreadyExists (idOf d).text name := by
  obtain ⟨before, d, after, rfl, hbefore, hd⟩ := exists_of_checkNew_error h
  obtain ⟨hresult, hleft, -⟩ := insertEach_of_checked
    (fun other hother => hids other (List.mem_append_left _ hother)) fresh hbefore
  have hanswer : ((s.insertEach session fresh name before).2.answer session fresh
      (.insert name d)).1 = .error e := by
    rw [insert_fst, identify_of_contains (hids d (by simp)), hleft, hd]
    rfl
  refine ⟨?_, before, d, after, rfl, ⟨_, hresult⟩, hanswer, ?_⟩
  · rw [insertEach_append hresult, insertEach_of_refused hanswer]
    rfl
  · rw [checkNew_singleton] at hd
    split at hd
    · exact (Except.error.inj hd).symm
    · cases hd

/-- Inserting documents with identifiers together agrees with inserting them one after another. Both
are answered the same. They succeed exactly if no document has an identifier that is stored or that
of a document before it; then the identifiers are answered in order, and both leave the same
documents, those that were inserted at the end, and the same stores, but for a collection that was
missing and is given no documents. Otherwise the answer is that to the first insertion which fails
on its own, and together no document is inserted at all. -/
theorem insertMany_eq_insertEach (s : Store) (session : Option SessionId)
    (fresh : Nat → ObjectId) (name : String) :
    let batch := s.answer session fresh (.insertMany name ds)
    let single := s.insertEach session fresh name ds
    let stored := (s.view session).documents name
    batch.1 = single.1 ∧
    ((∃ ids, batch.1 = .ok ids) ↔
      ∀ before d after, ds = before ++ d :: after → hasId (stored ++ before) (idOf d) = false) ∧
    (∀ ids, batch.1 = .ok ids →
      ids = ds.map idOf ∧ (batch.2.view session).documents name = stored ++ ds ∧
        (∀ viewer, (batch.2.view viewer).Agree (single.2.view viewer)) ∧
        (ds ≠ [] ∨ ((s.view session).get? name).isSome → SameViews batch.2 single.2)) ∧
    ∀ e, batch.1 = .error e →
      (∃ before d after, ds = before ++ d :: after ∧
        (∃ ids, (s.insertEach session fresh name before).1 = .ok ids) ∧
        ((s.insertEach session fresh name before).2.answer session fresh (.insert name d)).1
          = .error e ∧
        e = .documentAlreadyExists (idOf d).text name) ∧
      ∀ viewer, (batch.2.view viewer).Agree (s.view viewer) := by
  intro batch single stored
  have harrivals : (Call.insertMany name ds).arrivals fresh = ds := identifyAll_of_contains hids
  have hbatch : batch = s.insertAll session name ds := by
    simp only [batch, answer, identifyAll_of_contains hids]
  have hfst : batch.1 = (checkNew name stored ds).map fun _ => ds.map idOf := by
    rw [hbatch]
    exact insertAll_fst s session name ds
  rw [← checkNew_eq_ok]
  cases hcheck : checkNew name stored ds with
  | ok =>
    rw [hcheck] at hfst
    obtain ⟨hresult, -, hsame⟩ := insertEach_of_checked hids fresh hcheck
    have hwritten := hbatch.trans (insertAll_of_checked hcheck)
    refine ⟨hfst.trans hresult.symm, iff_of_true ⟨_, hfst⟩ rfl,
      fun ids h => ⟨?_, ?_, fun viewer => ?_, fun hthere => ?_⟩, fun e h => ?_⟩
    · exact (Except.ok.inj (hfst.symm.trans h)).symm
    · rw [hwritten, view_rewritten, documents_put, if_pos rfl]
    · by_cases hnone : ds = []
      · -- nothing is inserted
        subst hnone
        have hkept : (Call.insertMany name []).rewrite fresh stored = stored :=
          List.append_nil stored
        exact agree_answer_of_rewrite hkept viewer
      · rw [hwritten, ← (hsame (.inl hnone)).view viewer]
    · rw [hwritten]
      exact hsame hthere
    · cases hfst.symm.trans h
  | error e =>
    rw [hcheck] at hfst
    obtain ⟨hresult, hfirst⟩ := insertEach_of_checkNew_error hids fresh hcheck
    have hfailed : ∀ ids, batch.1 ≠ .ok ids := fun ids h => by cases hfst.symm.trans h
    refine ⟨hfst.trans hresult.symm, iff_of_false (not_exists.mpr hfailed) (by simp),
      fun ids h => absurd h (hfailed ids), fun e' h => ?_⟩
    · cases hfst.symm.trans h
      refine ⟨hfirst, fun viewer other => ?_⟩
      exact documents_of_refused session fresh (.insertMany name ds) rfl (harrivals ▸ hcheck) viewer
        other

end Identified

/-- Documents with identifiers that filters take for equal, and one that has the identifier of one
before it. -/
def lookalikes : List Document :=
  [[(idField, .int32 1)], [(idField, .int64 1)], [(idField, .int32 2)], [(idField, .int64 1)]]

/-- The first two are inserted. Of all four the third is refused where it is stored already, and
elsewhere the last. -/
theorem insertMany_eq_insertEach_lookalikes :
    let s : Store := { collections := [("c", [[(idField, .int32 2)]])] }
    (∀ d ∈ lookalikes, Document.contains d idField = true) ∧
      (s.answer none ObjectId.generated (.insertMany "c" (lookalikes.take 2))).1
        = .ok [.int32 1, .int64 1] ∧
      (s.answer none ObjectId.generated (.insertMany "c" lookalikes)).1
        = (s.insertEach none ObjectId.generated "c" lookalikes).1 ∧
      (s.insertEach none ObjectId.generated "c" lookalikes).1
        = .error (.documentAlreadyExists "2" "c") ∧
      (Store.answer {} none ObjectId.generated (.insertMany "c" lookalikes)).1
        = .error (.documentAlreadyExists "1" "c") := by
  have hids : ∀ d ∈ lookalikes, Document.contains d idField = true := by decide
  exact ⟨hids, rfl, (insertMany_eq_insertEach hids _ none ObjectId.generated "c").1, rfl, rfl⟩

end Store

end DocumentStore
