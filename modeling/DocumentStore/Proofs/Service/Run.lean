import DocumentStore.Proofs.Filter.References
import DocumentStore.Proofs.Process.Run
import DocumentStore.Proofs.Store.Selection
import DocumentStore.Service.Family

/-!
# Running operations

How programs and the operations of a service end, with one equation for each way to build a
program and for each step that a deletion takes.
-/
namespace DocumentStore

open Process

variable {α β : Type}

/-! ## Programs -/

namespace Program

variable {answer : (request : Request) → Action request.Answer}

theorem ends_bind (program : Program α) (next : α → Program β) (s : State) :
    ends ((program >>= next).run answer : Process (Result β)) s
      = match ends (program.run answer : Process (Result α)) s with
        | (.ok (.ok a), s') => ends ((next a).run answer : Process (Result β)) s'
        | (.ok (.error e), s') => (.ok (.error e), s')
        | (.error stop, s') => (.error stop, s') := by
  change ends ((program.bind next).run answer : Process (Result β)) s = _
  induction program generalizing s with
  | done result =>
    cases result with
    | ok value => rfl
    | error e => rfl
  | ask request answered ih =>
    change ends ((answer request).run >>= fun a => ((answered a).bind next).run answer) s
      = match ends ((answer request).run >>= fun a => (answered a).run answer) s with
        | (.ok (.ok a), s') => ends ((next a).run answer : Process (Result β)) s'
        | (.ok (.error e), s') => (.ok (.error e), s')
        | (.error stop, s') => (.error stop, s')
    rw [Process.ends_bind, Process.ends_bind]
    cases ends (answer request).run s with
    | mk result s' =>
      cases result with
      | error stop => rfl
      | ok a => exact ih a s'

/-- A request ends as it is answered. -/
@[simp] theorem ends_request (request : Request) (s : State) :
    ends ((Program.request request).run answer : Process (Result request.Answer)) s
      = ends (answer request).run s := by
  change ends ((answer request).run >>= fun a => pure a) s = _
  rw [bind_pure]

/-- A result that a program is given goes on with its value. -/
theorem ends_lift_bind (result : Result α) (next : α → Program β) (s : State) :
    ends (((liftM result : Program α) >>= next).run answer : Process (Result β)) s
      = match result with
        | .ok a => ends ((next a).run answer : Process (Result β)) s
        | .error e => (.ok (.error e), s) := by
  rw [ends_bind]
  change (match ends ((Program.done result).run answer : Process (Result α)) s with
    | (.ok (.ok a), s') => ends ((next a).run answer : Process (Result β)) s'
    | (.ok (.error e), s') => (.ok (.error e), s')
    | (.error stop, s') => (.error stop, s')) = _
  cases result <;> rfl

end Program

/-! ## Finding keys -/

/-- A projection to the identifier keeps it. -/
theorem Projection.get?_apply_id (d : Document) :
    Document.get? (apply (Document.single idField (.int32 1)) d) idField
      = Document.get? d idField := by
  induction d with
  | nil => rfl
  | cons field rest ih =>
    obtain ⟨name, value⟩ := field
    unfold apply
    rw [List.filter_cons]
    -- only fields of the same name as the identifier matter
    by_cases hname : name = idField
    · subst hname
      have hkept : keeps (Document.single idField (.int32 1)) idField = true := by decide
      simp [hkept, Document.get?]
    · have hother : Document.get? ((name, value) :: rest) idField = Document.get? rest idField := by
        simp [Document.get?, hname]
      rw [hother, ← ih]
      split
      · simp [Document.get?, hname, apply]
      · rfl

/-- So the key of a document can be read off what is left of it. -/
theorem Key.mapM_ofDocument_project (kind : KeyKind) (ds : List Document) :
    (ds.map (Projection.apply (Document.single idField (.int32 1)))).mapM (ofDocument kind)
      = ds.mapM (ofDocument kind) := by
  induction ds with
  | nil => rfl
  | cons d rest ih =>
    have hsame : ofDocument kind (Projection.apply (Document.single idField (.int32 1)) d)
        = ofDocument kind d := by
      unfold ofDocument
      rw [Projection.get?_apply_id]
    rw [List.map_cons, List.mapM_cons, List.mapM_cons, hsame, ih]

/-- The keys of documents that are identified by object identifiers. -/
theorem Key.mapM_ofDocument {ds : List Document}
    (h : ∀ d ∈ ds, ∃ id, Document.get? d idField = some (.objectId id)) :
    ds.mapM (Key.ofDocument .objectId)
      = .ok ((ds.filterMap (Document.reference? · idField)).map .objectId) := by
  induction ds with
  | nil => rfl
  | cons d rest ih =>
    obtain ⟨id, hid⟩ := h d List.mem_cons_self
    have href : Document.reference? d idField = some id := by simp [Document.reference?, hid]
    rw [List.mapM_cons, ih fun d hd => h d (List.mem_cons_of_mem _ hd)]
    simp [Key.ofDocument, Key.ofValue, hid, href, bind, Except.bind, pure, Except.pure]

/-! ## Calls to the store -/

section Calls

variable {filter : Document} {p : Document → Bool} {s : State}

theorem ends_ask_count (session : Option SessionId) (collection : String)
    (h : Filter.Decides filter p ((s.store.view session).documents collection)) :
    ends (ask session (.count collection filter)).run s
      = (.ok (.ok (((s.store.view session).documents collection).filter p).length), s) := by
  rw [ends_ask]
  simp [Store.answer, Collections.count_of_decides h, Store.Call.inserted]

/-- A deletion on a transaction leaves the documents that the filter decides against. -/
theorem ends_ask_delete_inside {id : SessionId} (hin : s.store.inTransaction id = true)
    {collection : String}
    (h : Filter.Decides filter p ((s.store.view (some id)).documents collection)) :
    ∃ count s', ends (ask (some id) (.delete collection filter true)).run s
        = (.ok (.ok count), s') ∧ s.store.Within id s'.store ∧
      ∀ name, (s'.store.view (some id)).documents name
        = if name = collection then
            ((s.store.view (some id)).documents collection).filter (!p ·)
          else (s.store.view (some id)).documents name := by
  obtain ⟨snapshot, ht⟩ := Store.inTransaction_eq_true.mp hin
  rw [Store.view_of_transaction? ht] at h ⊢
  let fresh (i : Nat) := ObjectId.generated (s.generated + i)
  let call : Store.Call := .delete collection filter true
  -- such a filter fails on no document, so the deletion is answered with a count
  obtain ⟨count, hcount⟩ := Collections.delete_of_decides h
  have hanswer : (s.store.answer (some id) fresh call).1 = .ok count := by
    simpa [call, Store.answer, Store.write_inside ht] using hcount
  have hends : ends (ask (some id) call).run s
      = (.ok (s.store.answer (some id) fresh call).1, { s with
        store := (s.store.answer (some id) fresh call).2
        generated := s.generated + call.inserted }) := ends_ask (some id) call s
  rw [hanswer] at hends
  refine ⟨count, _, hends, Store.Within.answer id s.store fresh call, fun name => ?_⟩
  obtain ⟨indexes, hstore⟩ := Store.answer_inside ht fresh call
  have hview : (s.store.answer (some id) fresh call).2.view (some id)
      = call.perform fresh snapshot.collections := by
    rw [hstore]
    exact Store.view_of_transaction?
      (Store.transaction?_setTransaction_self (Store.isOpen_of_transaction? ht) _)
  have hcollection : call.collection = collection := rfl
  simp only [hview]
  rw [Store.Call.documents_perform, hcollection,
    Store.Call.rewrite_delete_of_decides h fresh collection]

end Calls

namespace Handle

variable {h : Handle} {answerer : Answerer} {s : State}

/-- The documents that are selected are read as keys. -/
theorem ends_findIds_eq (session : Option SessionId) (filter : Document) :
    ends (h.findIds session filter).run s
      = (.ok (do
          let found ← (s.store.view session).select h.service.collection filter
          found.mapM (Key.ofDocument h.service.key)), s) := by
  let options : FindOptions := { projection := some (Document.single idField (.int32 1)) }
  have hask : ends (ask session (.find h.service.collection filter options)).run s
      = (.ok (((s.store.view session).select h.service.collection filter).map
          (·.map (Projection.apply (Document.single idField (.int32 1))))), s) := by
    rw [ends_ask]
    cases hselect : (s.store.view session).select h.service.collection filter <;>
      simp [Store.answer, Collections.find, hselect, options, Collections.arrange,
        Collections.takeLimit, bind, Except.bind, pure, Except.pure, Except.map,
        Store.Call.inserted]
  unfold findIds
  rw [ends_run_action, hask]
  cases (s.store.view session).select h.service.collection filter with
  | error e => rfl
  | ok found =>
    simp only [Except.map]
    rw [ends_ofResult, Key.mapM_ofDocument_project]
    rfl

theorem ends_findIds_of_select {session : Option SessionId} {filter : Document}
    {found : List Document}
    (hfound : (s.store.view session).select h.service.collection filter = .ok found) :
    ends (h.findIds session filter).run s
      = (.ok (found.mapM (Key.ofDocument h.service.key)), s) := by
  rw [ends_findIds_eq, hfound]
  rfl

theorem ends_findIds {session : Option SessionId} {filter : Document} {found : List Document}
    (hkey : h.service.key = .objectId)
    (hfound : (s.store.view session).select h.service.collection filter = .ok found)
    (hids : ∀ d ∈ found, ∃ id, Document.get? d idField = some (.objectId id)) :
    ends (h.findIds session filter).run s
      = (.ok (.ok ((found.filterMap (Document.reference? · idField)).map .objectId)), s) := by
  rw [ends_findIds_of_select hfound, hkey, Key.mapM_ofDocument hids]

/-! ## Running rules -/

theorem ends_runDeleteRules_nil {phase : DeletePhase}
    (hrules : h.service.rules.deleteRulesIn phase = []) (id : SessionId) (keys : List Key)
    (wrap : String → ServiceError → ServiceError) :
    ends (h.runDeleteRules answerer id keys phase wrap).run s = (.ok (.ok ()), s) := by
  unfold runDeleteRules
  rw [hrules]
  rfl

/-- A rule that is the only one of its phase. -/
theorem ends_runDeleteRules_single {phase : DeletePhase}
    {rule : Rule DeletePhase (Deletion → Program Unit)}
    (hrules : h.service.rules.deleteRulesIn phase = [rule]) {id : SessionId} {keys : List Key}
    (wrap : String → ServiceError → ServiceError) {result : Result Unit} {s' : State}
    (hrun : ends ((rule.hook ⟨keys, h.depth, s.store.inTransaction id⟩).run
      (answerer h.depth (some id)) : Process (Result Unit)) s = (.ok result, s')) :
    ends (h.runDeleteRules answerer id keys phase wrap).run s
      = (.ok (result.mapError (wrap (h.ruleName rule.name))), s') := by
  unfold runDeleteRules
  rw [hrules]
  change ends (((ExceptT.lift (inTransaction id) : Action Bool) >>= fun inside =>
    (wrapping (wrap (h.ruleName rule.name)) ((rule.hook ⟨keys, h.depth, inside⟩).run
      (answerer h.depth (some id)) : Action Unit))) >>= fun _ => pure PUnit.unit).run s = _
  rw [ends_run_action, ends_run_action, ends_lift, ends_inTransaction]
  simp only [Except.map]
  rw [ends_wrapping]
  simp only [ExceptT.run, hrun]
  cases result <;> rfl

end Handle

end DocumentStore
