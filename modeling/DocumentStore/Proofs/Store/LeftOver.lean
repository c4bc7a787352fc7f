import DocumentStore.Proofs.Store.History

/-!
# Left-over collections

An empty collection has no more documents than one that is not there, and it takes the same
insertions. It differs in one respect: a filter is checked against a missing collection, by
evaluating it on the empty document, while in an empty collection there is no document to evaluate
it on. Two views that differ in such a collection are therefore answered the same until a filter
that fails on the empty document meets the missing collection.
-/
namespace DocumentStore

/-! ## Views with a left-over collection -/

namespace Collections

variable {cs cs' : Collections} {name other : String}

/-- Whether a view has the same documents as another and the same collections, but for one of a
name that may be there though it is missing in the other. -/
structure LeftOver (name : String) (cs cs' : Collections) : Prop where
  agree : cs.Agree cs'
  present : ∀ other, (cs'.get? other).isSome = (cs.get? other).isSome ∨
    other = name ∧ cs.get? other = none

theorem get?_of_isSome (h : (cs.get? name).isSome = true) :
    cs.get? name = some (cs.documents name) := by
  obtain ⟨ds, hget⟩ := Option.isSome_iff_exists.mp h
  rw [hget, documents_of_get? hget]

/-! ### Which collections are there -/

theorem isSome_get?_put (cs : Collections) (name other : String) (ds : List Document) :
    ((cs.put name ds).get? other).isSome = ((cs.get? other).isSome || other == name) := by
  rw [get?_put]
  by_cases hother : other = name
  · simp [hother]
  · simp [hother]

/-- Whether it fails or not, an insertion brings its collection into being. -/
theorem isSome_get?_insert (cs : Collections) (name other : String) (new : List Document) :
    ((cs.insert name new).2.get? other).isSome = ((cs.get? other).isSome || other == name) := by
  unfold insert
  cases hcheck : checkNew name (cs.documents name) new with
  | ok _ => simpa [hcheck] using isSome_get?_put cs name other (cs.documents name ++ new)
  | error e => simpa [hcheck] using isSome_get?_put cs name other (cs.documents name)

/-- Documents are put back only where there were some. -/
theorem isSome_get?_replacing {α : Type} (h : (cs.get? name).isSome = true)
    (result : Result (α × List Document)) (other : String) :
    ((cs.replacing name result).2.get? other).isSome = (cs.get? other).isSome := by
  cases result with
  | error e => rfl
  | ok done =>
    refine (isSome_get?_put cs name other done.2).trans ?_
    by_cases hother : other = name
    · rw [hother, h, Bool.true_or]
    · simp [hother]

theorem isSome_get?_update (cs : Collections) (name other : String) (filter update : Document)
    (many : Bool) :
    (((Collections.update name filter update many).runOn cs).2.get? other).isSome
      = (cs.get? other).isSome := by
  cases hget : cs.get? name with
  | some ds =>
    rw [runOn_update_of_get? hget]
    exact isSome_get?_replacing (by rw [hget]; rfl) _ other
  | none => rw [runOn_update_of_missing hget]

theorem isSome_get?_delete (cs : Collections) (name other : String) (filter : Document)
    (many : Bool) :
    (((Collections.delete name filter many).runOn cs).2.get? other).isSome
      = (cs.get? other).isSome := by
  cases hget : cs.get? name with
  | some ds =>
    rw [runOn_delete_of_get? hget]
    exact isSome_get?_replacing (by rw [hget]; rfl) _ other
  | none => rw [runOn_delete_of_missing hget]

/-! ### Views that differ in one collection -/

namespace LeftOver

theorem refl (name : String) (cs : Collections) : LeftOver name cs cs :=
  ⟨.refl cs, fun _ => .inl rfl⟩

theorem put (h : cs.get? name = none) : LeftOver name cs (cs.put name []) := by
  refine ⟨fun other => ?_, fun other => ?_⟩
  · rw [documents_put, ← documents_of_missing h, documents_kept]
  · rw [get?_put]
    by_cases hother : other = name
    · exact .inr ⟨hother, hother ▸ h⟩
    · rw [if_neg hother]
      exact .inl rfl

/-- A collection is the same in both views, or missing in one and empty in the other. -/
theorem get?_cases (h : LeftOver name cs cs') (other : String) :
    cs'.get? other = cs.get? other ∨
      other = name ∧ cs.get? other = none ∧ cs'.get? other = some [] := by
  have hagree := h.agree other
  cases hget : cs.get? other with
  | some ds =>
    have hpresent : (cs'.get? other).isSome = true := by simpa [hget] using h.present other
    rw [documents_of_get? hget] at hagree
    exact .inl (by rw [get?_of_isSome hpresent, hagree])
  | none =>
    rw [documents_of_missing hget] at hagree
    cases hget' : cs'.get? other with
    | none => exact .inl rfl
    | some ds =>
      have hname : other = name := by simpa [hget, hget'] using h.present other
      exact .inr ⟨hname, rfl, by rw [hagree, documents_of_get? hget']⟩

end LeftOver

end Collections

namespace Store

open Collections

variable {s s' : Store} {session : Option SessionId} {name : String} {cs cs' : Collections}

/-! ## Calls that tell the difference -/

def Call.filter? : Call → Option Document
  | .find _ filter _ | .findOne _ filter | .count _ filter | .update _ filter _ _
  | .delete _ filter _ => some filter
  | _ => none

/-- Whether a call brings its collection into being. -/
def Call.isInsertion : Call → Bool
  | .insert .. | .insertMany .. => true
  | _ => false

/-- Whether a call asks a collection that is missing with a filter that fails on the empty
document. -/
def Call.Probes (name : String) (cs : Collections) (call : Call) : Prop :=
  call.collection = name ∧ cs.get? name = none ∧
    ∃ filter ∈ call.filter?, ∃ e, Filter.evaluate [] filter = .error e

/-- Apart from insertions, calls leave the collections that are there, and no others. -/
theorem Call.isSome_get?_perform (fresh : Nat → ObjectId) (call : Call) (cs : Collections)
    (other : String) :
    ((call.perform fresh cs).get? other).isSome
      = ((cs.get? other).isSome || call.isInsertion && other == call.collection) := by
  cases call with
  | insert target d =>
    simpa [perform, isInsertion, Call.collection] using isSome_get?_insert cs target other _
  | insertMany target ds =>
    simpa [perform, isInsertion, Call.collection] using isSome_get?_insert cs target other _
  | update target filter changes many =>
    simp only [perform, isInsertion, Bool.false_and, Bool.or_false]
    cases Update.check changes with
    | error e => rfl
    | ok _ => exact isSome_get?_update cs target other filter changes many
  | delete target filter many =>
    simp only [perform, isInsertion, Bool.false_and, Bool.or_false]
    exact isSome_get?_delete cs target other filter many
  | _ => simp [perform, isInsertion]

/-- A call makes of a view with a left-over collection what it makes of the view without it, again
with that collection left over at most. -/
theorem Call.perform_leftOver (h : LeftOver name cs cs') (fresh : Nat → ObjectId) (call : Call) :
    LeftOver name (call.perform fresh cs) (call.perform fresh cs') := by
  refine ⟨call.perform_agree fresh h.agree, fun other => ?_⟩
  rw [isSome_get?_perform, isSome_get?_perform]
  obtain hpresent | ⟨hname, hmissing⟩ := h.present other
  · exact .inl (by rw [hpresent])
  · cases hinserted : call.isInsertion && other == call.collection with
    | true => exact .inl (by simp)
    | false =>
      refine .inr ⟨hname, Option.isNone_iff_eq_none.mp ?_⟩
      have hsome := isSome_get?_perform fresh call cs other
      rw [hmissing, hinserted] at hsome
      simpa using hsome

/-! ## What is answered -/

theorem insert_fst_of_leftOver (h : LeftOver name cs cs') (target : String)
    (new : List Document) : (cs'.insert target new).1 = (cs.insert target new).1 := by
  simp only [Collections.insert, h.agree target]
  cases checkNew target (cs'.documents target) new <;> rfl

section Filtered

variable {target : String} {filter : Document}

variable (h : LeftOver name cs cs')
  (hprobe : target = name → cs.get? name = none → ∀ e, Filter.evaluate [] filter ≠ .error e)
include h hprobe

/-- Where the empty document does not make the filter fail, it finds the same in both. -/
theorem matching_of_leftOver : cs'.matching target filter = cs.matching target filter := by
  unfold Collections.matching
  obtain hsame | ⟨rfl, hmissing, hempty⟩ := h.get?_cases target
  · rw [hsame]
  · rw [hmissing, hempty]
    cases heval : Filter.evaluate [] filter with
    | ok met => rfl
    | error e => exact absurd heval (hprobe rfl hmissing e)

theorem select_of_leftOver : cs'.select target filter = cs.select target filter := by
  unfold Collections.select
  rw [matching_of_leftOver h hprobe]
  obtain hsame | ⟨-, hmissing, hempty⟩ := h.get?_cases target
  · rw [hsame]
  · rw [hmissing, hempty]
    cases cs.matching target filter <;> simp

theorem update_fst_of_leftOver (changes : Document) (many : Bool) :
    ((Collections.update target filter changes many).runOn cs').1
      = ((Collections.update target filter changes many).runOn cs).1 := by
  obtain hsame | ⟨rfl, hmissing, hempty⟩ := h.get?_cases target
  · cases hget : cs.get? target with
    | some ds =>
      rw [runOn_update_of_get? hget, runOn_update_of_get? (hsame.trans hget), replacing_fst,
        replacing_fst]
    | none => rw [runOn_update_of_missing hget, runOn_update_of_missing (hsame.trans hget)]
  · -- in an empty collection nothing is found, and nothing is changed
    rw [runOn_update_of_missing hmissing, runOn_update_of_get? hempty, updated_nil]
    cases heval : Filter.evaluate [] filter with
    | ok met => rfl
    | error e => exact absurd heval (hprobe rfl hmissing e)

theorem delete_fst_of_leftOver (many : Bool) :
    ((Collections.delete target filter many).runOn cs').1
      = ((Collections.delete target filter many).runOn cs).1 := by
  obtain hsame | ⟨rfl, hmissing, hempty⟩ := h.get?_cases target
  · cases hget : cs.get? target with
    | some ds =>
      rw [runOn_delete_of_get? hget, runOn_delete_of_get? (hsame.trans hget), replacing_fst,
        replacing_fst]
    | none => rw [runOn_delete_of_missing hget, runOn_delete_of_missing (hsame.trans hget)]
  · rw [runOn_delete_of_missing hmissing, runOn_delete_of_get? hempty, deleted_nil]
    cases heval : Filter.evaluate [] filter with
    | ok met => rfl
    | error e => exact absurd heval (hprobe rfl hmissing e)

end Filtered

theorem writeIndexes_fst_congr {α : Type} (h : s'.indexes = s.indexes)
    (f : Registry → Result (α × Registry)) : (s'.writeIndexes f).1 = (s.writeIndexes f).1 := by
  unfold writeIndexes
  rw [h]
  cases f s.indexes <;> rfl

theorem write_indexes {α : Type} (s : Store) (session : Option SessionId)
    (f : Collections → Result α × Collections) : (s.write session f).2.indexes = s.indexes := by
  obtain ⟨id, snapshot, rfl, ht, -⟩ | ⟨hnone, -⟩ := s.view_cases session
  · rw [write_inside ht]
    rfl
  · rw [write_outside hnone]

theorem writeIndexes_indexes_congr {α : Type} (h : s'.indexes = s.indexes)
    (f : Registry → Result (α × Registry)) :
    (s'.writeIndexes f).2.indexes = (s.writeIndexes f).2.indexes := by
  unfold writeIndexes
  rw [h]
  cases f s.indexes with
  | ok done => rfl
  | error e => exact h

/-- What becomes of the indexes depends on nothing else. -/
theorem indexes_answer_congr (h : s'.indexes = s.indexes) (session : Option SessionId)
    (fresh : Nat → ObjectId) (call : Call) :
    (s'.answer session fresh call).2.indexes = (s.answer session fresh call).2.indexes := by
  cases call with
  | insert | insertMany => simp only [answer, insertAll, write_indexes, h]
  | update target filter changes many =>
    cases hcheck : Update.check changes <;> simp only [answer, hcheck, write_indexes, h]
  | delete => simp only [answer, write_indexes, h]
  | createIndex | dropIndex | dropIndexes => exact writeIndexes_indexes_congr h _
  | find | findOne | count | aggregate | listIndexes => exact h

/-- A call that does not probe the left-over collection is answered the same. -/
theorem answer_fst_of_leftOver {call : Call} (h : LeftOver name (s.view session) (s'.view session))
    (hindexes : s'.indexes = s.indexes) (hprobe : ¬ call.Probes name (s.view session))
    (fresh : Nat → ObjectId) :
    (s'.answer session fresh call).1 = (s.answer session fresh call).1 := by
  -- the call does not probe, so where the collection is missing its filter does not fail
  have hfilter {filter : Document} (hcall : call.filter? = some filter)
      (htarget : call.collection = name) (hmissing : (s.view session).get? name = none)
      (e : ServiceError) : Filter.evaluate [] filter ≠ .error e :=
    fun heval => hprobe ⟨htarget, hmissing, filter, hcall, e, heval⟩
  have hselect (target : String) (filter : Document) (hcall : call.filter? = some filter)
      (htarget : call.collection = target) :
      (s'.view session).select target filter = (s.view session).select target filter :=
    htarget ▸ select_of_leftOver h (hfilter hcall)
  cases call with
  | find target filter options =>
    simp only [answer, Collections.find, hselect target filter rfl rfl]
  | findOne target filter =>
    simp only [answer, Collections.findOne, Collections.find, hselect target filter rfl rfl]
  | count target filter =>
    have hmatching : (s'.view session).matching target filter
        = (s.view session).matching target filter := matching_of_leftOver h (hfilter rfl)
    simp only [answer, Collections.count, hmatching]
  | aggregate target stages => simp only [answer, Collections.aggregate, h.agree target]
  | insert | insertMany => simp only [answer, insertAll, write_fst, insert_fst_of_leftOver h]
  | update target filter changes many =>
    cases hcheck : Update.check changes with
    | ok _ =>
      simp only [answer, hcheck, write_fst]
      exact update_fst_of_leftOver h (hfilter rfl) changes many
    | error e => simp only [answer, hcheck]
  | delete target filter many =>
    simp only [answer, write_fst]
    exact delete_fst_of_leftOver h (hfilter rfl) many
  | createIndex | dropIndex | dropIndexes => exact writeIndexes_fst_congr hindexes _
  | listIndexes => simp only [answer, hindexes]

end Store

end DocumentStore
