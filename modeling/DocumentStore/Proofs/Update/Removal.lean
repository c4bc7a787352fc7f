import DocumentStore.Pipeline
import DocumentStore.Pipeline.Stage
import DocumentStore.Proofs.Filter.Meaning
import DocumentStore.Proofs.Path.Way
import DocumentStore.Proofs.Store.Writes
import DocumentStore.Proofs.Update.Entries

/-!
# What is removed is absent

To remove a path makes it absent, in an update and in a stage, unless an array stands on the way to
it. There, reading finds the path by its positions while removing does not go on, so the document
stays as it is.
-/
namespace DocumentStore

variable {d d' : Document} {path : String} {operand : Value}

/-! ## Absence -/

namespace Filter

/-- The filter that a path is there. -/
def having (path : String) : Document :=
  Document.single path (.document (Document.single "$exists" (.boolean true)))

theorem evaluate_having (hpath : isOperatorName path = false) (d : Document) :
    evaluate d (having path) = .ok (Path.lookup d path).isSome :=
  (Clause.evaluate_comparison d hpath .present (.boolean true)).trans
    (by simp [Comparison.test, Value.truthy])

end Filter

/-! ## Documents -/

/-- How a document comes out of a removal: the path is absent, or an array stands on the way to it
and nothing has changed. -/
structure Path.Removed (path : String) (d d' : Document) : Prop where
  absent : (∀ value, OnWay d path value → value.type ≠ .array) →
    Filter.evaluate d' (Filter.having path) = .ok false
  kept : (∃ value, OnWay d path value ∧ value.type = .array) → d' = d

theorem Path.removed_unset (hpath : Filter.isOperatorName path = false) (d : Document) :
    Removed path d (unset d path) where
  absent hway := by rw [Filter.evaluate_having hpath, lookup_unset hway, Option.isSome_none]
  kept := fun ⟨_, hvalue, harray⟩ => unset_of_onWay hvalue harray

def Update.removal (path : String) (operand : Value) : Document :=
  Document.single "$unset" (.document (Document.single path operand))

theorem Update.apply_removal (hid : path ≠ idField) (d : Document) (operand : Value) :
    apply d (removal path operand) = .ok (Path.unset d path) := by
  rw [removal, apply_single_single rfl]
  simp [applyAt, hid]

theorem Update.check_removal (path : String) (operand : Value) :
    check (removal path operand) = .ok () := rfl

/-! ## Calls and stages -/

/-- Where an update can be applied to every document, those that match become what it makes of
them. -/
theorem Update.Effect.eq_map {update filter : Document} {ds ds' : List Document} {outcome : Outcome}
    {f : Document → Document} (h : Effect update (Filter.addresses filter true ds) ds ds' outcome)
    (happly : ∀ d, apply d update = .ok (f d)) :
    ds' = ds.map fun d => if Filter.accepts filter d then f d else d := by
  refine List.ext_getElem? fun i => ?_
  rw [List.getElem?_map]
  cases hd : ds[i]? with
  | none => rw [h.kept i (by simp [Filter.addresses, hd]), hd, Option.map_none]
  | some d =>
    cases haccepts : Filter.accepts filter d with
    | false =>
      rw [h.kept i (by simp [Filter.addresses, hd, haccepts]), hd]
      simp [haccepts]
    | true =>
      obtain ⟨d', hd', hget⟩ := h.changed i d (by simp [Filter.addresses, hd, haccepts]) hd
      obtain rfl : f d = d' := Except.ok.inj ((happly d).symm.trans hd')
      rw [hget]
      simp [haccepts]

/-- What is removed is absent, unless an array stands on the way to it. The update succeeds for all
documents that match exactly if the filter is not rejected, and a stage always does. Each document
that matched, or that leaves the stage, has the path no more, or is as it was if an array stands on
the way; the others have stayed. -/
theorem Store.removal_absent (hpath : Filter.isOperatorName path = false) (hid : path ≠ idField)
    (s : Store) (session : Option SessionId) (fresh : Nat → ObjectId) (name : String)
    (filter : Document) (operand : Value) :
    let answered := s.answer session fresh (.update name filter (Update.removal path operand) true)
    let ds := (s.view session).documents name
    let ds' := (answered.2.view session).documents name
    ((∃ outcome, answered.1 = .ok outcome) ↔
      ∃ found, (s.view session).select name filter = .ok found) ∧
    (∀ outcome, answered.1 = .ok outcome → List.Forall₂ (fun d d' =>
      if Filter.accepts filter d then Path.Removed path d d' else d' = d) ds ds') ∧
    ∀ rest ds, ∃ ds', List.Forall₂ (Path.Removed path) ds ds' ∧
      Pipeline.run (StageKind.unset.stage (.string path) :: rest) ds = Pipeline.run rest ds' := by
  intro answered ds ds'
  have hanswered : answered = s.write session
      (Collections.update name filter (Update.removal path operand) true).runOn := by
    simp only [answered, answer, Update.check_removal]
  refine ⟨?_, fun outcome h => ?_, fun rest ds => ⟨ds.map (Path.unset · path), ?_, rfl⟩⟩
  · rw [hanswered, write_fst, Collections.exists_update]
    exact and_iff_left fun i d _ _ => ⟨_, Update.apply_removal hid d operand⟩
  · rw [hanswered] at h
    have heffect := Collections.effect_update
      (write_of_allOrNothing_of_ok (Collections.allOrNothing_update _ _ _ _) h)
    rw [← hanswered] at heffect
    rw [show ds' = _ from heffect.eq_map fun d => Update.apply_removal hid d operand]
    refine List.forall₂_map_right_iff.mpr (List.forall₂_same.mpr fun d _ => ?_)
    split
    · exact Path.removed_unset hpath d
    · rfl
  · exact List.forall₂_map_right_iff.mpr
      (List.forall₂_same.mpr fun d _ => Path.removed_unset hpath d)

/-- A document with a field in a document and one in an array. -/
def Store.partlyListed : Store :=
  { collections := [("c", [[(idField, .int32 1), ("in", .document [("b", .int32 2)]),
      ("a", .array [.int32 5])]])] }

/-- The field in the document is gone, and so it is behind the stage. -/
theorem Store.removal_absent_partlyListed :
    let removed := partlyListed.answer none ObjectId.generated
      (.update "c" [] (Update.removal "in.b" (.string "")) true)
    removed.1 = .ok ⟨1, 1⟩ ∧
      List.Forall₂ (fun d d' => if Filter.accepts [] d then Path.Removed "in.b" d d' else d' = d)
        ((partlyListed.view none).documents "c") ((removed.2.view none).documents "c") ∧
      ∃ ds', List.Forall₂ (Path.Removed "in.b") (partlyListed.collections.documents "c") ds' ∧
        Pipeline.run [StageKind.unset.stage (.string "in.b")]
          (partlyListed.collections.documents "c") = .ok ds' := by
  intro removed
  have hdone : removed.1 = .ok ⟨1, 1⟩ := rfl
  obtain ⟨-, hupdate, hstage⟩ := removal_absent (by decide : Filter.isOperatorName "in.b" = false)
    (by decide) partlyListed none ObjectId.generated "c" [] (.string "")
  exact ⟨hdone, hupdate _ hdone, hstage [] _⟩

/-- The element of the array is still there after the update, which succeeded, and behind the
stage. -/
theorem Store.not_removal_absent_listed :
    let removed := partlyListed.answer none ObjectId.generated
      (.update "c" [] (Update.removal "a.0" (.string "")) true)
    removed.1 = .ok ⟨1, 0⟩ ∧
      (removed.2.answer none ObjectId.generated (.count "c" (Filter.having "a.0"))).1 = .ok 1 ∧
      (Pipeline.run [StageKind.unset.stage (.string "a.0"),
          StageKind.match.stage (.document (Filter.having "a.0"))]
        (partlyListed.collections.documents "c")).map List.length = .ok 1 := by
  exact ⟨rfl, rfl, rfl⟩

end DocumentStore
