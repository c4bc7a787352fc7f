import DocumentStore.Proofs.Store.Live
import DocumentStore.Proofs.Store.Sessions
import DocumentStore.Store.Call

/-!
# What calls do to documents

A call changes the documents of one collection at most, and what it makes of them depends on
them alone. It does so to the private documents of a transaction or to the committed ones, and
committed documents that change move the version of the store on.

A failed insert may bring an empty collection into being. Documents are therefore compared
collection by collection, where an empty collection is the same as one that is not there.
-/
namespace DocumentStore

section Calls

variable [Pattern.Engine]

/-! ## The documents that a call leaves -/

namespace Store.Call

open Collections

def collection : Call → String
  | .find name _ _ | .findOne name _ | .count name _ | .insert name _ | .insertMany name _
  | .update name _ _ _ | .delete name _ _ | .aggregate name _ | .createIndex name _ _
  | .dropIndex name _ | .dropIndexes name | .listIndexes name => name

/-- The documents that a call makes of those of its collection, if it succeeds. -/
def rewrite? (fresh : Nat → ObjectId) : Call → List Document → Result (List Document)
  | .insert name d, ds => do
    let new := [Document.identify (fresh 0) d]
    checkNew name ds new
    return ds ++ new
  | .insertMany name new, ds => do
    let new := identifyAll fresh new
    checkNew name ds new
    return ds ++ new
  | .update _ filter changes many, ds => do
    Update.check changes
    return (← updated filter changes many ds).2
  | .delete _ filter many, ds => do return (← deleted filter many ds).2
  | _, ds => .ok ds

/-- The documents that a call leaves of those of its collection. -/
def rewrite (fresh : Nat → ObjectId) (call : Call) (ds : List Document) : List Document :=
  (call.rewrite? fresh ds).toOption.getD ds

/-- What holds of the documents of a collection still does after a call if it does where the call
succeeds. -/
theorem holds_of_rewrite {P : List Document → Prop} {fresh : Nat → ObjectId} {call : Call}
    {ds : List Document} (h : P ds) (hok : ∀ ds', call.rewrite? fresh ds = .ok ds' → P ds') :
    P (call.rewrite fresh ds) := by
  unfold rewrite
  cases hdone : call.rewrite? fresh ds with
  | ok ds' => exact hok ds' hdone
  | error e => exact h

/-- The view that a call leaves of one that it works on. -/
def perform (fresh : Nat → ObjectId) : Call → Collections → Collections
  | .insert name d, cs => (cs.insert name [Document.identify (fresh 0) d]).2
  | .insertMany name ds, cs => (cs.insert name (identifyAll fresh ds)).2
  | .update name filter changes many, cs =>
    match Update.check changes with
    | .ok () => ((Collections.update name filter changes many).runOn cs).2
    | .error _ => cs
  | .delete name filter many, cs => ((Collections.delete name filter many).runOn cs).2
  | _, cs => cs

end Store.Call

namespace Collections

/-! ## Operations seen through the documents -/

theorem documents_update (cs : Collections) (name other : String) (filter update : Document)
    (many : Bool) :
    ((Collections.update name filter update many).runOn cs).2.documents other
      = if other = name then
          (do return (← updated filter update many (cs.documents name)).2 : Result _).toOption.getD
            (cs.documents name)
        else cs.documents other := by
  cases hget : cs.get? name with
  | some ds =>
    rw [runOn_update_of_get? hget, documents_replacing, documents_of_get? hget]
  | none =>
    -- in a collection that is not there nothing is found, as in an empty one
    rw [runOn_update_of_missing hget, documents_of_missing hget, updated_nil]
    refine (documents_kept cs name other).symm.trans ?_
    rw [documents_of_missing hget]
    rfl

theorem documents_delete (cs : Collections) (name other : String) (filter : Document)
    (many : Bool) :
    ((Collections.delete name filter many).runOn cs).2.documents other
      = if other = name then
          (do return (← deleted filter many (cs.documents name)).2 : Result _).toOption.getD
            (cs.documents name)
        else cs.documents other := by
  cases hget : cs.get? name with
  | some ds =>
    rw [runOn_delete_of_get? hget, documents_replacing, documents_of_get? hget]
  | none =>
    rw [runOn_delete_of_missing hget, documents_of_missing hget, deleted_nil]
    refine (documents_kept cs name other).symm.trans ?_
    rw [documents_of_missing hget]
    rfl

end Collections

namespace Store

open Collections

/-! ## Calls seen through the documents -/

/-- A call makes of its collection what it would make of it in any other view, and leaves all
other collections alone. -/
theorem Call.documents_perform (fresh : Nat → ObjectId) (call : Call) (cs : Collections)
    (name : String) :
    (call.perform fresh cs).documents name
      = if name = call.collection then call.rewrite fresh (cs.documents call.collection)
        else cs.documents name := by
  cases call with
  | insert => exact documents_insert ..
  | insertMany => exact documents_insert ..
  | update target filter changes many =>
    cases hcheck : Update.check changes with
    | ok _ =>
      simp only [perform, rewrite, rewrite?, hcheck, bind, Except.bind]
      exact documents_update cs target name filter changes many
    | error e =>
      simp only [perform, rewrite, rewrite?, hcheck, bind, Except.bind]
      exact (documents_kept cs target name).symm
  | delete => exact documents_delete ..
  | _ => exact (documents_kept cs _ name).symm

/-- A call does the same to views with the same documents. -/
theorem Call.perform_agree (fresh : Nat → ObjectId) (call : Call) {cs cs' : Collections}
    (h : cs.Agree cs') : (call.perform fresh cs).Agree (call.perform fresh cs') := by
  intro name
  rw [documents_perform, documents_perform, h name, h call.collection]

/-! ## Where calls work -/

/-- What a call may do to a store when it is made outside of transactions: committed documents
that change move the version on. -/
structure Committed (fresh : Nat → ObjectId) (call : Call) (s s' : Store) : Prop where
  writes : ∃ indexes version, s' =
    { s with collections := call.perform fresh s.collections, indexes, version }
  moves : s'.version = s.version + 1 ∨
    s'.version = s.version ∧ s'.collections.Agree s.collections

/-- A write outside of transactions either succeeds and moves the version on or changes no
documents. -/
theorem Committed.of_write {α : Type} {s : Store} {session : Option SessionId}
    {fresh : Nat → ObjectId} {call : Call} (h : session.bind s.transaction? = none)
    {f : Collections → Result α × Collections} (hf : ∀ cs, (f cs).2 = call.perform fresh cs)
    (herror : ∀ e, (f s.collections).1 = .error e → (f s.collections).2.Agree s.collections) :
    Committed fresh call s (s.write session f).2 := by
  rw [write_outside h]
  refine ⟨⟨s.indexes, _, by rw [hf]⟩, ?_⟩
  cases hresult : (f s.collections).1 with
  | ok value => exact .inl (by simp [Except.isOk, Except.toBool])
  | error e => exact .inr ⟨by simp [Except.isOk, Except.toBool], herror e hresult⟩

theorem Committed.refl (fresh : Nat → ObjectId) {call : Call} (s : Store) (indexes : Registry)
    (h : call.perform fresh s.collections = s.collections) :
    Committed fresh call s { s with indexes } :=
  ⟨⟨indexes, s.version, by rw [h]⟩, .inr ⟨rfl, .refl _⟩⟩

/-- Every call that is made outside of transactions works on the committed documents. -/
theorem answer_outside {s : Store} {session : Option SessionId}
    (h : session.bind s.transaction? = none) (fresh : Nat → ObjectId) (call : Call) :
    Committed fresh call s (s.answer session fresh call).2 := by
  -- a failed insert may leave a new collection, all other failures leave nothing
  have hinsert (collection : String) (ds : List Document) (call : Call)
      (hcall : ∀ cs : Collections, (cs.insert collection ds).2 = call.perform fresh cs) :
      Committed fresh call s (s.insertAll session collection ds).2 := by
    refine .of_write h hcall fun e he => insert_agree_of_error (e := e) ?_
    cases hresult : (s.collections.insert collection ds).1 with
    | ok value => simp [hresult, Except.map] at he
    | error e' => simpa [hresult, Except.map] using he
  have hkeep {α : Type} {work : Collections → Result α × Collections}
      (hwork : AllOrNothing work) (call : Call)
      (hcall : ∀ cs, (work cs).2 = call.perform fresh cs) :
      Committed fresh call s (s.write session work).2 :=
    .of_write h hcall fun e he => by rw [hwork _ e he]
  have hindexes {α : Type} (f : Registry → Result (α × Registry)) (call : Call)
      (hcall : call.perform fresh s.collections = s.collections) :
      Committed fresh call s (s.writeIndexes f).2 := by
    obtain ⟨indexes, heq⟩ := writeIndexes_eq s f
    exact heq ▸ .refl fresh s indexes hcall
  cases call with
  | insert collection d => exact hinsert collection _ _ fun _ => rfl
  | insertMany collection ds => exact hinsert collection _ _ fun _ => rfl
  | update collection filter changes many =>
    -- changes are checked before any document is looked at
    cases hcheck : Update.check changes with
    | ok _ =>
      simp only [answer, hcheck]
      exact hkeep (allOrNothing_update _ _ _ _) _ fun cs => by simp [Call.perform, hcheck]
    | error e =>
      simp only [answer, hcheck]
      exact .refl fresh s s.indexes (by simp [Call.perform, hcheck])
  | delete collection filter many => exact hkeep (allOrNothing_delete _ _ _) _ fun _ => rfl
  | createIndex => exact hindexes _ _ rfl
  | dropIndex => exact hindexes _ _ rfl
  | dropIndexes => exact hindexes _ _ rfl
  | _ => exact .refl fresh s s.indexes rfl

/-- Every call that is made on a transaction works on its private documents. -/
theorem answer_inside {s : Store} {id : SessionId} {snapshot : Snapshot}
    (h : s.transaction? id = some snapshot) (fresh : Nat → ObjectId) (call : Call) :
    ∃ indexes, (s.answer (some id) fresh call).2 =
      { s.setTransaction id
          (some { snapshot with collections := call.perform fresh snapshot.collections }) with
        indexes } := by
  -- indexes are written at once, so the transaction is put back as it was
  have hsame : s.setTransaction id (some snapshot) = s := h ▸ setTransaction_transaction? s id
  have hindexes {α : Type} (f : Registry → Result (α × Registry)) :
      ∃ indexes, (s.writeIndexes f).2 = { s.setTransaction id (some snapshot) with indexes } := by
    rw [hsame]; exact writeIndexes_eq s f
  cases call with
  | insert => exact ⟨s.indexes, by simp only [answer, insertAll, write_inside h]; rfl⟩
  | insertMany => exact ⟨s.indexes, by simp only [answer, insertAll, write_inside h]; rfl⟩
  | update collection filter changes many =>
    refine ⟨s.indexes, ?_⟩
    cases hcheck : Update.check changes with
    | ok _ => simp only [answer, hcheck, Call.perform, write_inside h]; rfl
    | error e => simp only [answer, hcheck, Call.perform, hsame]
  | delete => exact ⟨s.indexes, by simp only [answer, write_inside h]; rfl⟩
  | createIndex => exact hindexes _
  | dropIndex => exact hindexes _
  | dropIndexes => exact hindexes _
  | _ => exact ⟨s.indexes, by simp only [answer, Call.perform, hsame]⟩

end Store

end Calls

/-! ## Work inside of a transaction -/

namespace Store

/-- Whether a store went into another by work in the transaction of a session: if there is one,
only its private documents and the indexes may be others. -/
def Within (id : SessionId) (s s' : Store) : Prop :=
  ∀ snapshot, s.transaction? id = some snapshot →
    ∃ collections indexes,
      s' = { s.setTransaction id (some { snapshot with collections }) with indexes }

namespace Within

variable {id : SessionId} {s s' s'' : Store}

theorem refl (id : SessionId) (s : Store) : Within id s s := by
  intro snapshot h
  refine ⟨snapshot.collections, s.indexes, ?_⟩
  rw [← h, setTransaction_transaction?]

/-- A store that went into another by work in a transaction still has it. -/
theorem inTransaction (h : Within id s s') (hin : s.inTransaction id = true) :
    s'.inTransaction id = true := by
  obtain ⟨snapshot, ht⟩ := inTransaction_eq_true.mp hin
  obtain ⟨collections, indexes, rfl⟩ := h snapshot ht
  exact inTransaction_eq_true.mpr
    ⟨_, transaction?_setTransaction_self (isOpen_of_transaction? ht) _⟩

theorem trans (h : Within id s s') (h' : Within id s' s'') : Within id s s'' := by
  intro snapshot ht
  obtain ⟨collections, indexes, rfl⟩ := h snapshot ht
  have ht' := transaction?_setTransaction_self (isOpen_of_transaction? ht)
    (some { snapshot with collections })
  obtain ⟨collections', indexes', rfl⟩ := h' _ ht'
  exact ⟨collections', indexes', congrArg (fun store : Store => { store with indexes := indexes' })
    (setTransaction_setTransaction s id _ _)⟩

/-- A call on a session works in its transaction. -/
theorem answer [Pattern.Engine] (id : SessionId) (s : Store) (fresh : Nat → ObjectId)
    (call : Call) :
    Within id s (s.answer (some id) fresh call).2 := by
  intro snapshot h
  obtain ⟨indexes, heq⟩ := answer_inside h fresh call
  exact ⟨_, indexes, heq⟩

end Within

/-- What work leaves as it was as long as it is not published. -/
structure Unpublished (id : SessionId) (s s' : Store) : Prop where
  collections : s'.collections = s.collections
  transactional : s'.transactional = s.transactional
  isOpen : s'.IsOpen id ↔ s.IsOpen id

namespace Unpublished

variable {id : SessionId} {s s' s'' : Store}

theorem refl (id : SessionId) (s : Store) : Unpublished id s s := ⟨rfl, rfl, .rfl⟩

theorem of_eq (h : s' = s) : Unpublished id s s' := h ▸ .refl id s

theorem trans (h : Unpublished id s s') (h' : Unpublished id s' s'') : Unpublished id s s'' :=
  ⟨h'.collections.trans h.collections, h'.transactional.trans h.transactional,
    h'.isOpen.trans h.isOpen⟩

theorem abort (id : SessionId) (s : Store) : Unpublished id s (s.abort id) :=
  ⟨abort_collections s id, abort_transactional s id, abort_isOpen s id id⟩

theorem of_within (h : s.Within id s') (ht : s.inTransaction id = true) :
    Unpublished id s s' := by
  obtain ⟨snapshot, ht⟩ := inTransaction_eq_true.mp ht
  obtain ⟨collections, indexes, rfl⟩ := h snapshot ht
  exact ⟨rfl, rfl, setTransaction_isOpen s id id _⟩

/-- To start a transaction publishes nothing. -/
theorem start (id : SessionId) (s : Store) : Unpublished id s (s.start id).2 := by
  obtain ⟨e, failingStarts, heq⟩ | ⟨-, -, heq⟩ := start_cases s id
  · rw [heq]
    exact ⟨rfl, rfl, .rfl⟩
  · rw [heq]
    exact ⟨rfl, rfl, setTransaction_isOpen s id id _⟩

/-- Nor does a commit that fails. -/
theorem commit {e : ServiceError} (h : (s.commit id).1 = .error e) :
    Unpublished id s (s.commit id).2 := by
  obtain ⟨e', -, heq⟩ | ⟨e', failingCommits, heq⟩ | ⟨snapshot, -, -, heq⟩ := commit_cases s id
  · rw [heq]
    exact .refl id s
  · rw [heq]
    exact ⟨(abort id s).collections, (abort id s).transactional, (abort id s).isOpen⟩
  · rw [heq] at h
    cases h

end Unpublished

end Store

end DocumentStore
