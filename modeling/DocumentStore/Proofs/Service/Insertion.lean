import DocumentStore.Proofs.Service.Addressing
import DocumentStore.Proofs.Service.Validation
import DocumentStore.Proofs.Store.Identity
import DocumentStore.Proofs.Store.Insertion

/-!
# Insertions that fail

An insertion of a service goes through validators and a preparation before it reaches the store,
and reads keys, and for a creation the stored document, after that. What fails up to the store
leaves all documents as the validators left them. What fails afterwards finds the documents already
written: a key that is not of the kind of the service, or a document that is not a model of it.
-/
namespace DocumentStore

open Process Service
open Collections (idOf checkNew)

/-! ## Insertions into the store -/

namespace Process

/-- The identifiers that the next call to the store is given. -/
def State.fresh (s : State) (i : Nat) : ObjectId := ObjectId.generated (s.generated + i)

/-- Whether two states have the same documents, in the eyes of every session. -/
def State.SameDocuments (s s' : State) : Prop :=
  ∀ viewer name, (s'.store.view viewer).documents name = (s.store.view viewer).documents name

/-- Whether another state has the documents of a state with new ones behind those of a collection,
in the eyes of a session. -/
def State.Appends (s : State) (session : Option SessionId) (collection : String)
    (new : List Document) (s' : State) : Prop :=
  ∀ name, (s'.store.view session).documents name =
    if name = collection then (s.store.view session).documents collection ++ new
    else (s.store.view session).documents name

theorem State.SameDocuments.refl (s : State) : SameDocuments s s := fun _ _ => rfl

variable (session : Option SessionId) (name : String) (s : State)

/-- A document that is put to the store is refused, or written and answered with its identifier. -/
theorem ends_ask_insert (d : Document) :
    ∃ result s', ends (ask session (.insert name d)).run s = (.ok result, s') ∧
      ((∃ e, result = .error e) ∧ s.SameDocuments s' ∨
        result = .ok (idOf (Document.identify (s.fresh 0) d)) ∧
          s.Appends session name [Document.identify (s.fresh 0) d] s') := by
  have hanswer := s.store.insert_fst session s.fresh name d
  refine ⟨_, _, rfl, ?_⟩
  cases hcheck : checkNew name ((s.store.view session).documents name)
      [Document.identify (s.fresh 0) d] with
  | error e =>
    rw [hcheck] at hanswer
    exact .inl ⟨⟨e, hanswer⟩,
      Store.documents_of_refused session s.fresh (.insert name d) rfl hcheck⟩
  | ok _ =>
    rw [hcheck] at hanswer
    exact .inr ⟨hanswer, Store.documents_of_accepted session s.fresh (.insert name d) rfl hcheck⟩

/-- So are several documents together. -/
theorem ends_ask_insertMany (ds : List Document) :
    ∃ result s', ends (ask session (.insertMany name ds)).run s = (.ok result, s') ∧
      ((∃ e, result = .error e) ∧ s.SameDocuments s' ∨
        result = .ok ((Store.identifyAll s.fresh ds).map idOf) ∧
          s.Appends session name (Store.identifyAll s.fresh ds) s') := by
  have hanswer := s.store.insertAll_fst session name (Store.identifyAll s.fresh ds)
  refine ⟨_, _, rfl, ?_⟩
  cases hcheck : checkNew name ((s.store.view session).documents name)
      (Store.identifyAll s.fresh ds) with
  | error e =>
    rw [hcheck] at hanswer
    exact .inl ⟨⟨e, hanswer⟩,
      Store.documents_of_refused session s.fresh (.insertMany name ds) rfl hcheck⟩
  | ok _ =>
    rw [hcheck] at hanswer
    exact .inr ⟨hanswer,
      Store.documents_of_accepted session s.fresh (.insertMany name ds) rfl hcheck⟩

end Process

/-- A document with an identifier has the key that the identifier is read as. -/
theorem Key.ofDocument_of_id {d : Document} (h : ∃ id, Document.get? d idField = some id)
    (kind : KeyKind) : ofDocument kind d = ofValue kind (idOf d) := by
  obtain ⟨id, hid⟩ := h
  unfold ofDocument idOf
  rw [hid]
  rfl

theorem Key.mapM_ofDocument_of_ids {ds : List Document}
    (h : ∀ d ∈ ds, ∃ id, Document.get? d idField = some id) (kind : KeyKind) :
    ds.mapM (ofDocument kind) = (ds.map idOf).mapM (ofValue kind) := by
  induction ds with
  | nil => rfl
  | cons d rest ih =>
    rw [List.map_cons, List.mapM_cons, List.mapM_cons, ofDocument_of_id (h d List.mem_cons_self),
      ih fun other hother => h other (List.mem_cons_of_mem _ hother)]

/-- The filter for the key of a document finds it. -/
theorem Key.finds_of_ofDocument {d : Document} {kind : KeyKind} {key : Key}
    (h : ofDocument kind d = .ok key) : key.finds d = true := by
  unfold ofDocument at h
  unfold finds
  cases hid : Document.get? d idField with
  | none =>
    rw [hid] at h
    cases h
  | some id =>
    rw [hid] at h
    rw [equals_of_ofValue h, decide_eq_true rfl]

/-! ## Insertions without validators -/

def Service.Call.Inserts : Service.Call → Prop
  | .insert _ | .insertMany _ | .create _ => True
  | _ => False

theorem Service.Call.Inserts.validates {call : Service.Call} (h : call.Inserts) :
    call.Validates := by
  cases call <;> trivial

namespace Handle

/-- The documents that a call gives to the store to insert. -/
def prepared (h : Handle) : Service.Call → Result (List Document)
  | .insert data | .create data => do
    return [← h.service.prepareInsert h.service.config (← h.service.readInsert data)]
  | .insertMany data => do
    (← data.mapM h.service.readInsert).mapM (h.service.prepareInsert h.service.config)
  | _ => .ok []

variable (h : Handle) (answerer : Answerer) (session : Option SessionId)

/-- Without validators, an insertion prepares the document, puts it to the store and reads its
key. -/
theorem ends_insertOne (item : Document) (s : State) :
    ∃ result s', ends (h.unguarded.insertOne answerer session item).run s = (.ok result, s') ∧
      ((∃ e, result = .error e) ∧ s.SameDocuments s' ∨
        ∃ d, h.service.prepareInsert h.service.config item = .ok d ∧
          s.Appends session h.service.collection [Document.identify (s.fresh 0) d] s' ∧
          result = Key.ofDocument h.service.key (Document.identify (s.fresh 0) d)) := by
  have heq : h.unguarded.insertOne answerer session item = (do
      let d ← ofResult (h.service.prepareInsert h.service.config item)
      let id ← ask session (.insert h.service.collection d)
      ofResult (Key.ofValue h.service.key id)) := rfl
  rw [heq, ends_run_action, ends_ofResult]
  cases hprepare : h.service.prepareInsert h.service.config item with
  | error e => exact ⟨_, _, rfl, .inl ⟨⟨e, rfl⟩, .refl s⟩⟩
  | ok d =>
    simp only
    obtain ⟨result, s', hask, ⟨⟨e, rfl⟩, hsame⟩ | ⟨rfl, happends⟩⟩ :=
      ends_ask_insert session h.service.collection s d
    · rw [ends_run_action, hask]
      exact ⟨_, _, rfl, .inl ⟨⟨e, rfl⟩, hsame⟩⟩
    · rw [ends_run_action, hask]
      refine ⟨_, _, rfl, .inr ⟨d, rfl, happends, ?_⟩⟩
      exact (Key.ofDocument_of_id (Document.exists_identify ..) _).symm

theorem ends_insertMany (items : List Document) (s : State) :
    ∃ result s', ends (h.unguarded.insertMany answerer session items).run s = (.ok result, s') ∧
      ((∃ e, result = .error e) ∧ s.SameDocuments s' ∨
        ∃ ds, items.mapM (h.service.prepareInsert h.service.config) = .ok ds ∧
          s.Appends session h.service.collection (Store.identifyAll s.fresh ds) s' ∧
          result = (Store.identifyAll s.fresh ds).mapM (Key.ofDocument h.service.key)) := by
  have heq : h.unguarded.insertMany answerer session items = (do
      if items.isEmpty then return []
      else
        let ds ← ofResult (items.mapM (h.service.prepareInsert h.service.config))
        let ids ← ask session (.insertMany h.service.collection ds)
        ofResult (ids.mapM (Key.ofValue h.service.key))) := by
    unfold insertMany
    rw [unguarded_forM_validate, pure_bind]
    rfl
  rw [heq]
  cases items with
  | nil =>
    -- there is nothing to insert, and nothing is asked of the store
    refine ⟨_, _, rfl, .inr ⟨[], rfl, fun name => ?_, rfl⟩⟩
    rw [Store.identifyAll, List.mapIdx_nil, List.append_nil]
    exact (Collections.documents_kept ..).symm
  | cons item rest =>
    rw [List.isEmpty_cons, if_neg Bool.false_ne_true, ends_run_action, ends_ofResult]
    cases hprepare : (item :: rest).mapM (h.service.prepareInsert h.service.config) with
    | error e => exact ⟨_, _, rfl, .inl ⟨⟨e, rfl⟩, .refl s⟩⟩
    | ok ds =>
      simp only
      obtain ⟨result, s', hask, ⟨⟨e, rfl⟩, hsame⟩ | ⟨rfl, happends⟩⟩ :=
        ends_ask_insertMany session h.service.collection s ds
      · rw [ends_run_action, hask]
        exact ⟨_, _, rfl, .inl ⟨⟨e, rfl⟩, hsame⟩⟩
      · rw [ends_run_action, hask]
        refine ⟨_, _, rfl, .inr ⟨ds, rfl, happends, ?_⟩⟩
        exact (Key.mapM_ofDocument_of_ids (fun _ => Store.exists_of_mem_identifyAll) _).symm

/-- The document of a key is the first that its filter finds. -/
theorem ends_getStored (key : Key) (s : State) :
    ends (h.getStored session key).run s
      = (.ok (match ((s.store.view session).documents h.service.collection).find? key.finds with
          | some found => h.service.readModel found
          | none => .error (h.notFound key)), s) := by
  let docs := (s.store.view session).documents h.service.collection
  have hdecides : Filter.Decides key.filter key.finds docs := Key.Filters.one.decides docs
  have hfindOne : ends (h.findOne session key.filter).run s
      = (.ok ((docs.find? key.finds).mapM h.service.readModel), s) := by
    rw [ends_findOne_of_select (Collections.select_of_decides hdecides), List.head?_filter]
  unfold getStored get
  rw [ends_run_action, hfindOne]
  cases docs.find? key.finds with
  | none => rfl
  | some found =>
    simp only [Option.mapM_some]
    cases h.service.readModel found <;> rfl

/-- A creation inserts, and then reads what is found under the key of the new document. -/
theorem ends_create (item : Document) (s : State) :
    ∃ result s', ends (h.unguarded.create answerer session item).run s = (.ok result, s') ∧
      ((∃ e, result = .error e) ∧ s.SameDocuments s' ∨
        ∃ d, h.service.prepareInsert h.service.config item = .ok d ∧
          let new := Document.identify (s.fresh 0) d
          s.Appends session h.service.collection [new] s' ∧
          match Key.ofDocument h.service.key new with
          | .error e => result = .error e
          | .ok key => ∃ found,
            ((s.store.view session).documents h.service.collection ++ [new]).find? key.finds
              = some found ∧ result = h.service.readModel found) := by
  obtain ⟨result, s', hinsert, ⟨⟨e, rfl⟩, hsame⟩ | ⟨d, hprepare, happends, rfl⟩⟩ :=
    h.ends_insertOne answerer session item s
  · unfold create
    rw [ends_run_action, hinsert]
    exact ⟨_, _, rfl, .inl ⟨⟨e, rfl⟩, hsame⟩⟩
  · unfold create
    rw [ends_run_action, hinsert]
    cases hkey : Key.ofDocument h.service.key (Document.identify (s.fresh 0) d) with
    | error e => exact ⟨_, _, rfl, .inr ⟨d, hprepare, happends, by rw [hkey]⟩⟩
    | ok key =>
      -- the new document is found in any case, if not as the first
      have hmet : key.finds (Document.identify (s.fresh 0) d) = true := Key.finds_of_ofDocument hkey
      have hthere := (happends h.service.collection).trans (if_pos rfl)
      obtain ⟨found, hfound⟩ := Option.isSome_iff_exists.mp (List.find?_isSome.mpr
        ⟨_, hthere ▸ List.mem_append_right _ List.mem_cons_self, hmet⟩)
      simp only [h.unguarded_getStored, ends_getStored, hfound]
      refine ⟨_, _, rfl, .inr ⟨d, hprepare, happends, ?_⟩⟩
      rw [hkey]
      exact ⟨found, hthere ▸ hfound, rfl⟩

/-! ## Insertions that fail -/

/-- Whether an insertion of new documents behind others fails with an error after they are written:
one of them has no key of the kind of the service, or what a creation finds under the key of its
document is no model. -/
inductive FailsAfter (h : Handle) (docs : List Document) :
    Service.Call → List Document → ServiceError → Prop where
  | key {call : Service.Call} {new : List Document} {e : ServiceError}
    (hkeys : new.mapM (Key.ofDocument h.service.key) = .error e) : FailsAfter h docs call new e
  | model {data new found : Document} {key : Key} {e : ServiceError}
    (hkey : Key.ofDocument h.service.key new = .ok key)
    (hfound : (docs ++ [new]).find? key.finds = some found)
    (hread : h.service.readModel found = .error e) : FailsAfter h docs (.create data) [new] e

variable {h answerer session} {call : Service.Call} {s s' : State} {e : ServiceError}

theorem FailsAfter.single {docs : List Document} {d : Document}
    (hkey : Key.ofDocument h.service.key d = .error e) : h.FailsAfter docs call [d] e := by
  refine .key ?_
  rw [List.mapM_cons, hkey]
  rfl

/-- What fails with a value that is read fails as the value is read, or afterwards. -/
theorem failed_of_read {α γ : Type} {read : Result γ} {operation : γ → Action α}
    (hfailed : ends (ofResult read >>= operation).run s = (.ok (.error e), s')) :
    s' = s ∨ ∃ value, read = .ok value ∧
      ends (operation value).run s = (.ok (.error e), s') := by
  rw [ends_run_action, ends_ofResult] at hfailed
  cases hvalue : read with
  | error e' =>
    rw [hvalue] at hfailed
    cases hfailed
    exact .inl rfl
  | ok value =>
    rw [hvalue] at hfailed
    exact .inr ⟨value, rfl, hfailed⟩

/-- Without validators, an insertion that fails writes nothing, unless it fails afterwards. -/
theorem failed_unguarded (hcall : call.Inserts)
    (hfailed : ends (h.unguarded.answer answerer session call).run s = (.ok (.error e), s')) :
    s.SameDocuments s' ∨ ∃ ds, h.prepared call = .ok ds ∧
      s.Appends session h.service.collection (Store.identifyAll s.fresh ds) s' ∧
      h.FailsAfter ((s.store.view session).documents h.service.collection) call
        (Store.identifyAll s.fresh ds) e := by
  cases call with
  | insert data =>
    change ends (ofResult (h.service.readInsert data) >>=
      h.unguarded.insertOne answerer session).run s = _ at hfailed
    obtain rfl | ⟨item, hread, hfailed⟩ := failed_of_read hfailed
    · exact .inl (.refl s')
    obtain ⟨result, left, hinsert, houtcome⟩ := h.ends_insertOne answerer session item s
    obtain ⟨hresult, rfl⟩ := Prod.mk.inj (hinsert.symm.trans hfailed)
    obtain ⟨-, hsame⟩ | ⟨d, hprepare, happends, hkey⟩ := houtcome
    · exact .inl hsame
    · have hprepared : h.prepared (.insert data) = .ok [d] := by
        simp only [prepared, hread, hprepare, bind, Except.bind, pure, Except.pure]
      exact .inr ⟨[d], hprepared, happends, .single (hkey.symm.trans (Except.ok.inj hresult))⟩
  | insertMany data =>
    change ends (ofResult (data.mapM h.service.readInsert) >>=
      h.unguarded.insertMany answerer session).run s = _ at hfailed
    obtain rfl | ⟨items, hread, hfailed⟩ := failed_of_read hfailed
    · exact .inl (.refl s')
    obtain ⟨result, left, hinsert, houtcome⟩ := h.ends_insertMany answerer session items s
    obtain ⟨hresult, rfl⟩ := Prod.mk.inj (hinsert.symm.trans hfailed)
    obtain ⟨-, hsame⟩ | ⟨ds, hprepare, happends, hkeys⟩ := houtcome
    · exact .inl hsame
    · have hprepared : h.prepared (.insertMany data) = .ok ds := by
        simp only [prepared, hread, bind, Except.bind]
        exact hprepare
      exact .inr ⟨ds, hprepared, happends, .key (hkeys.symm.trans (Except.ok.inj hresult))⟩
  | create data =>
    change ends (ofResult (h.service.readInsert data) >>=
      h.unguarded.create answerer session).run s = _ at hfailed
    obtain rfl | ⟨item, hread, hfailed⟩ := failed_of_read hfailed
    · exact .inl (.refl s')
    obtain ⟨result, left, hinsert, houtcome⟩ := h.ends_create answerer session item s
    obtain ⟨hresult, rfl⟩ := Prod.mk.inj (hinsert.symm.trans hfailed)
    obtain ⟨-, hsame⟩ | ⟨d, hprepare, happends, hlast⟩ := houtcome
    · exact .inl hsame
    · have hprepared : h.prepared (.create data) = .ok [d] := by
        simp only [prepared, hread, hprepare, bind, Except.bind, pure, Except.pure]
      refine .inr ⟨[d], hprepared, happends, ?_⟩
      obtain rfl := Except.ok.inj hresult
      -- after the write, the key or the model of the new document may be refused
      cases hkey : Key.ofDocument h.service.key (Document.identify (s.fresh 0) d) with
      | error e' =>
        rw [hkey] at hlast
        obtain rfl := Except.error.inj hlast
        exact .single hkey
      | ok key =>
        rw [hkey] at hlast
        obtain ⟨found, hfound, hmodel⟩ := hlast
        exact .model hkey hfound hmodel.symm
  | _ => exact hcall.elim

/-- Whether only validators were run from a state to another. -/
def Validated (h : Handle) (answerer : Answerer) (session : Option SessionId) (s s' : State) :
    Prop :=
  ∃ payloads events, Leads answerer session events s s' ∧
    ∀ event ∈ events, ∃ check ∈ h.checks payloads, ∃ ended, h.Checked check ended event

theorem Validated.refl (s : State) : h.Validated answerer session s s :=
  ⟨[], [], .nil s, nofun⟩

/-- Validators that do not write leave all documents as they are. -/
theorem Validated.sameDocuments (hvalidated : h.Validated answerer session s s')
    (hquiet : ∀ rule ∈ h.service.rules.validators, ∀ told, told.depth = h.depth →
      Unwritten ((rule.hook told).run (answerer h.depth session) : Process (Result Unit))) :
    s.SameDocuments s' := by
  obtain ⟨payloads, events, hleads, hevents⟩ := hvalidated
  refine documents_of_checked (fun check hcheck => ?_) hevents hleads
  obtain ⟨payload, -, hcheck⟩ := List.mem_flatMap.mp hcheck
  obtain ⟨rule, hrule, rfl⟩ := List.mem_map.mp hcheck
  exact hquiet rule (List.mem_filter.mp hrule).1

end Handle

/-- A service whose validator writes elsewhere and then rejects. -/
def meddling : Service :=
  { Catalog.gamma with
    rules := ({} : Rules).validator "meddle" .insert fun _ => do
      let _ ← Program.call "Beta" (.insert [(idField, .string "b")])
      Program.fail (.rejected "no") }

end DocumentStore
