import DocumentStore.Proofs.Record.Revision
import DocumentStore.Proofs.Service.Insertion
import DocumentStore.Proofs.Store.Writes
import DocumentStore.Proofs.Update.Entries

/-!
# What is created and updated is what is read

A service that stores records, and whose validators only read, answers the creation of a record with
the record as it was given and an identifier, whether or not nulls are left out as it is stored. An
update answers the model that was there with the changes that have a value. In between and after
that the same model is read under the identifier, where only one document is found.
-/
namespace DocumentStore

open Process Service
open Collections (idOf hasId checkNew)

/-! ## Setting fields -/

namespace Update

variable {fields : List (String × Value)}

/-- The update that sets fields. -/
def setting (fields : List (String × Value)) : Document :=
  Document.single "$set" (.document fields)

theorem check_setting (fields : List (String × Value)) : check (setting fields) = .ok () := rfl

theorem isEmptyUpdate_setting (fields : List (String × Value)) :
    Handle.isEmptyUpdate (setting fields) = fields.isEmpty := Bool.and_true _

/-- Fields that lead into no document can always be set, other than the identifier. -/
theorem apply_setting
    (h : ∀ field ∈ fields, Path.segments field.1 = (field.1, []) ∧ field.1 ≠ idField)
    (d : Document) : apply d (setting fields) = .ok (d.assign fields) := by
  rw [setting, apply_single rfl]
  induction fields generalizing d with
  | nil => rfl
  | cons field rest ih =>
    obtain ⟨⟨hsegments, hid⟩, hrest⟩ := List.forall_mem_cons.mp h
    have hset : applyAt .set d field.1 field.2 = .ok (d.insert field.1 field.2) := by
      simp [applyAt, hid, Path.set, hsegments, Path.setAt]
    rw [applyFields, hset]
    exact ih hrest (d.insert field.1 field.2)

variable {filter update stored stored' : Document} {docs ds' : List Document} {many : Bool}
  {outcome : Outcome}

/-- If a filter accepts the last document only, that one is addressed. -/
theorem addresses_append (hothers : ∀ d ∈ docs, Filter.accepts filter d = false)
    (hown : Filter.accepts filter stored = true) (i : Nat) :
    Filter.addresses filter many (docs ++ [stored]) i = decide (i = docs.length) := by
  induction docs generalizing i with
  | nil =>
    cases i with
    | zero => exact Filter.addresses_cons_zero.trans hown
    | succ i => simp [Filter.addresses]
  | cons d rest ih =>
    obtain ⟨hd, hrest⟩ := List.forall_mem_cons.mp hothers
    cases i with
    | zero => exact Filter.addresses_cons_zero.trans hd
    | succ i =>
      rw [List.cons_append, Filter.addresses_cons_succ, ih hrest, hd]
      simp

/-- Then an update changes that one. -/
theorem Effect.eq_append (hothers : ∀ d ∈ docs, Filter.accepts filter d = false)
    (hown : Filter.accepts filter stored = true) (happly : apply stored update = .ok stored')
    (h : Effect update (Filter.addresses filter many (docs ++ [stored])) (docs ++ [stored]) ds'
      outcome) :
    ds' = docs ++ [stored'] ∧ outcome.matched = 1 := by
  -- the filter of the key addresses the last document only
  have htarget (i : Nat) :
      Filter.addresses filter many (docs ++ [stored]) i = decide (i = docs.length) :=
    addresses_append hothers hown i
  constructor
  · refine List.ext_getElem? fun i => ?_
    by_cases hi : i = docs.length
    · obtain ⟨d', hd', hget⟩ :=
        h.changed i stored (by rw [htarget, decide_eq_true hi]) (by simp [hi])
      obtain rfl := Except.ok.inj (happly.symm.trans hd')
      rw [hget, hi, List.getElem?_concat_length]
    · rw [h.kept i (by rw [htarget, decide_eq_false hi])]
      simp only [List.getElem?_append]
      split
      · rfl
      · simp [show i - docs.length ≠ 0 by omega]
  · have hnone : (List.range docs.length).countP
        (Filter.addresses filter many (docs ++ [stored])) = 0 := by
      refine List.countP_eq_zero.mpr fun i hi => ?_
      simp [htarget, Nat.ne_of_lt (List.mem_range.mp hi)]
    rw [h.matched, List.length_append, List.length_singleton, List.range_succ, List.countP_append,
      hnone]
    simp [htarget]

end Update

/-! ## The only document under a key -/

namespace Handle

variable {h : Handle} {answerer : Answerer} {session : Option SessionId} {key : Key}
  {docs : List Document} {stored stored' model : Document} {s s' : State}

/-- Whether a session sees a document behind others in the collection of a service, and none of the
others is found under its key. -/
structure Stores (h : Handle) (session : Option SessionId) (key : Key) (docs : List Document)
    (stored : Document) (s : State) : Prop where
  documents : (s.store.view session).documents h.service.collection = docs ++ [stored]
  others : ∀ d ∈ docs, key.finds d = false
  own : key.finds stored = true

namespace Stores

theorem of_store (hstores : h.Stores session key docs stored s) (hsame : s'.store = s.store) :
    h.Stores session key docs stored s' :=
  ⟨hsame ▸ hstores.documents, hstores.others, hstores.own⟩

theorem decides (_ : h.Stores session key docs stored s) :
    Filter.Decides key.filter key.finds
      ((s.store.view session).documents h.service.collection) :=
  Key.Filters.one.decides _

theorem filter_eq (hstores : h.Stores session key docs stored s) :
    ((s.store.view session).documents h.service.collection).filter key.finds = [stored] := by
  have hothers : docs.filter key.finds = [] :=
    List.filter_eq_nil_iff.mpr fun d hd => by simp [hstores.others d hd]
  rw [hstores.documents, List.filter_append, hothers]
  simp [hstores.own]

/-- It is the one that is counted. -/
theorem ends_count (hstores : h.Stores session key docs stored s) :
    ends (h.count session key.filter).run s = (.ok (.ok 1), s) := by
  unfold count
  rw [ends_ask_count session _ hstores.decides, hstores.filter_eq]
  rfl

/-- It is the one that is read. -/
theorem ends_get (hstores : h.Stores session key docs stored s)
    (hread : h.service.readModel stored = .ok model) :
    ends (h.get session key).run s = (.ok (.ok (some model)), s) := by
  have hselect := Collections.select_of_decides hstores.decides
  rw [hstores.filter_eq] at hselect
  unfold get
  rw [ends_findOne_of_select hselect, List.head?_cons, Option.mapM_some, hread]
  rfl

theorem ends_getStored (hstores : h.Stores session key docs stored s)
    (hread : h.service.readModel stored = .ok model) :
    ends (h.getStored session key).run s = (.ok (.ok model), s) := by
  unfold getStored
  rw [ends_run_action, hstores.ends_get hread]
  rfl

/-- It is the one that is updated. -/
theorem ends_ask_update (hstores : h.Stores session key docs stored s) {update : Document}
    (hcheck : Update.check update = .ok ()) (happly : Update.apply stored update = .ok stored')
    (hown : key.finds stored' = true) :
    ∃ outcome s', ends (ask session (.update h.service.collection key.filter update false)).run s
        = (.ok (.ok outcome), s') ∧ outcome.matched = 1 ∧
      h.Stores session key docs stored' s' := by
  have haccepts (d : Document) : Filter.accepts key.filter d = key.finds d := by
    rw [Filter.accepts, Key.evaluate_filter]
    rfl
  have hothers (d : Document) (hd : d ∈ docs) : Filter.accepts key.filter d = false :=
    (haccepts d).trans (hstores.others d hd)
  have htarget (i : Nat) :
      Filter.addresses key.filter false (docs ++ [stored]) i = decide (i = docs.length) :=
    Update.addresses_append hothers ((haccepts _).trans hstores.own) i
  let call : Store.Call := .update h.service.collection key.filter update false
  have hanswer : s.store.answer session s.fresh call = s.store.write session
      (Collections.update h.service.collection key.filter update false).runOn := by
    simp only [call, Store.answer, hcheck]
  obtain ⟨outcome, hdone⟩ : ∃ outcome, (s.store.answer session s.fresh call).1 = .ok outcome := by
    rw [hanswer, Store.write_fst, Collections.exists_update, hstores.documents]
    refine ⟨⟨_, Collections.select_of_decides hstores.decides⟩, fun i d hi hd => ?_⟩
    obtain rfl : i = docs.length := by simpa [htarget] using hi
    obtain rfl : stored = d := by simpa using hd
    exact ⟨stored', happly⟩
  have hends : ends (ask session call).run s
      = (.ok (s.store.answer session s.fresh call).1, { s with
        store := (s.store.answer session s.fresh call).2
        generated := s.generated + call.inserted }) := ends_ask session call s
  rw [hdone] at hends
  rw [hanswer] at hdone
  have heffect := Collections.effect_update
    (Store.write_of_allOrNothing_of_ok (Collections.allOrNothing_update _ _ _ _) hdone)
  rw [← hanswer, hstores.documents] at heffect
  obtain ⟨hwritten, hmatched⟩ := heffect.eq_append hothers ((haccepts _).trans hstores.own) happly
  exact ⟨outcome, _, hends, hmatched, hwritten, hstores.others, hown⟩

end Stores

end Handle

/-! ## Identifiers that are free -/

namespace Key

variable {docs : List Document} {d : Document} {id : ObjectId}

/-- A document is found under its identifier. -/
theorem finds_objectId (h : Document.get? d idField = some (.objectId id)) :
    (objectId id).finds d = true :=
  (finds_of_id h _).trans (decide_eq_true rfl)

/-- An identifier under which nothing is found is not taken. -/
theorem hasId_of_finds (h : ∀ d ∈ docs, (objectId id).finds d = false) :
    Collections.hasId docs (.objectId id) = false := by
  refine List.any_eq_false.mpr fun d hd => ?_
  cases hget : Document.get? d idField with
  | none => simp
  | some other =>
    intro hsame
    cases other with
    | objectId other =>
      obtain rfl : other = id := by simpa [Value.same] using hsame
      exact absurd ((finds_objectId hget).symm.trans (h d hd)) (by decide)
    | _ => simp [Value.same] at hsame

end Key

/-- A document whose identifier is not taken is written. -/
theorem Process.ends_ask_insert_of_free {session : Option SessionId} {name : String}
    {d new : Document} {s : State} (hnew : Document.identify (s.fresh 0) d = new)
    (hfree : hasId ((s.store.view session).documents name) (idOf new) = false) :
    ∃ s', ends (ask session (.insert name d)).run s = (.ok (.ok (idOf new)), s') ∧
      s.Appends session name [new] s' := by
  have hcheck : checkNew name ((s.store.view session).documents name) [new] = .ok () := by
    rw [Collections.checkNew_singleton, hfree]
    rfl
  have hanswer := s.store.insert_fst session s.fresh name d
  rw [hnew, hcheck] at hanswer
  obtain ⟨result, s', hends, hresult⟩ := ends_ask_insert session name s d
  have hresults := congrArg Prod.fst ((ends_ask session (.insert name d) s).symm.trans hends)
  obtain rfl : result = .ok (idOf new) := (Except.ok.inj hresults).symm.trans hanswer
  obtain ⟨⟨e, hfailed⟩, -⟩ | ⟨-, happends⟩ := hresult
  · cases hfailed
  · exact ⟨s', hends, hnew ▸ happends⟩

/-! ## Services of records -/

/-- Whether a service stores the fields of a record under identifiers and changes them by a record
of changes, and has validators that only read. -/
structure Service.StoresRecords (service : Service) (record changes : Record) : Prop where
  key : service.key = .objectId
  readInsert : service.readInsert = record.identifiable.read
  readUpdate : service.readUpdate = changes.read
  readModel : service.readModel = record.identified.read
  prepareInsert : ∀ config data, service.prepareInsert config data
    = .ok (if config.excludeNullOnInsert then data.withoutNulls else data)
  prepareUpdate : ∀ changes, service.prepareUpdate changes
    = .ok (Update.setting changes.withoutNulls)
  proper : record.identified.Proper
  revises : changes.Revises record
  reads : ∀ rule ∈ service.rules.validators, ∀ told, (rule.hook told).Asks Request.Reads

namespace Handle

variable {h : Handle} {answerer : Answerer} {session : Option SessionId} {id : ObjectId}
  {docs : List Document} {data payload model given : Document} {s s' : State}

/-- Whether the validators for a payload accept it, from one state to another. -/
def Accepts (h : Handle) (answerer : Answerer) (session : Option SessionId) (payload : Payload)
    (filter : Option Document) (s s' : State) : Prop :=
  ends (h.validate answerer session payload filter).run s = (.ok (.ok ()), s')

/-- Whether a session sees a model of a service: it is read from the only document under an
identifier, which stands behind others in the collection. -/
def Shows (h : Handle) (session : Option SessionId) (id : ObjectId) (docs : List Document)
    (model : Document) (s : State) : Prop :=
  ∃ stored, h.Stores session (.objectId id) docs stored s ∧
    Document.get? stored idField = some (.objectId id) ∧ h.service.readModel stored = .ok model

/-- A model that is seen is read. -/
theorem Shows.ends_get (hshows : h.Shows session id docs model s)
    (hkey : h.service.key = .objectId) :
    ends (h.answer answerer session (.get (.objectId id))).run s = (.ok (.ok (some model)), s) := by
  obtain ⟨stored, hstores, -, hread⟩ := hshows
  change ends (ofResult (Key.ofValue h.service.key (.objectId id)) >>= h.get session).run s = _
  rw [ends_run_action, ends_ofResult, hkey]
  exact hstores.ends_get hread

variable (h answerer session id) in
/-- Updates of the document of an identifier, with changes that the validators accept each time. -/
inductive Revisions : State → List Document → State → Prop where
  | nil (s : State) : Revisions s [] s
  | cons {s checked s₁ s₂ : State} {data given : Document} {rest : List Document}
    {answered : Except Stop (Result Document)}
    (hread : h.service.readUpdate data = .ok given)
    (haccepts : h.Accepts answerer session (.update given) (some (Key.objectId id).filter) s
      checked)
    (hends : ends (h.answer answerer session (.update (.objectId id) data)).run s = (answered, s₁))
    (hrest : Revisions s₁ rest s₂) : Revisions s (given :: rest) s₂

variable {record changes : Record}

/-- A model that is seen has the fields of the record. -/
theorem Shows.keys (hservice : h.service.StoresRecords record changes)
    (hshows : h.Shows session id docs model s) : model.keys = record.identified.map (·.name) := by
  obtain ⟨stored, -, -, hread⟩ := hshows
  rw [hservice.readModel] at hread
  exact hservice.proper.keys_of_read hread

variable (hservice : h.service.StoresRecords record changes) (hanswerer : answerer.Reads)

include hservice hanswerer

/-- Validators leave the store as it is. -/
theorem store_of_accepts {payload : Payload} {filter : Option Document}
    (haccepts : h.Accepts answerer session payload filter s s') : s'.store = s.store := by
  have hconfined : Confined none (h.validate answerer session payload filter).run := by
    unfold validate
    refine .forM fun rule hrule => ?_
    have hrule := hservice.reads rule (List.mem_filter.mp hrule).1
    refine .action (.still (.mapM_inTransaction session)) fun inside => ?_
    exact .wrapping _ ((hrule _).confined (hanswerer h.depth session))
  have hstill := hconfined.isStill s
  rw [haccepts] at hstill
  exact hstill

/-- Data that is accepted and whose identifier is free is put behind the others. -/
theorem ends_insertOne_of_records {checked : State} {new : Document}
    (haccepts : h.Accepts answerer session (.insert payload) none s checked)
    (hnew : Document.identify (checked.fresh 0)
      (if h.service.config.excludeNullOnInsert then payload.withoutNulls else payload) = new)
    (hid : Document.get? new idField = some (.objectId id))
    (hfree : ∀ d ∈ (s.store.view session).documents h.service.collection,
      (Key.objectId id).finds d = false) :
    ∃ s', ends (h.insertOne answerer session payload).run s = (.ok (.ok (.objectId id)), s') ∧
      s.Appends session h.service.collection [new] s' := by
  have hsame := store_of_accepts hservice hanswerer haccepts
  have hidOf : idOf new = .objectId id := by
    rw [idOf, hid]
    rfl
  -- validators have not changed the store, so the identifier is still free
  have hfree := Key.hasId_of_finds hfree
  rw [← hidOf, ← hsame] at hfree
  obtain ⟨s', hask, happends⟩ := ends_ask_insert_of_free hnew hfree
  rw [State.Appends, hsame] at happends
  refine ⟨s', ?_, happends⟩
  have heq : h.insertOne answerer session payload = (do
      h.validate answerer session (.insert payload) none
      let d ← ofResult (h.service.prepareInsert h.service.config payload)
      let id ← ask session (.insert h.service.collection d)
      ofResult (Key.ofValue h.service.key id)) := rfl
  rw [heq, ends_run_action, haccepts]
  simp only
  rw [ends_run_action, ends_ofResult, hservice.prepareInsert]
  simp only
  rw [ends_run_action, hask]
  simp only
  rw [hidOf, hservice.key]
  rfl

/-- What is created is the model that was given, behind the others. -/
theorem ends_create_of_records (hread : h.service.readInsert data = .ok payload)
    {checked : State} (haccepts : h.Accepts answerer session (.insert payload) none s checked)
    (hmodel : Document.identify (checked.fresh 0) payload = model)
    (hid : Document.get? model idField = some (.objectId id))
    (hfree : ∀ d ∈ (s.store.view session).documents h.service.collection,
      (Key.objectId id).finds d = false) :
    ∃ s' stored, ends (h.answer answerer session (.create data)).run s = (.ok (.ok model), s') ∧
      s.Appends session h.service.collection [stored] s' ∧
      h.Shows session id ((s.store.view session).documents h.service.collection) model s' := by
  rw [hservice.readInsert] at hread
  obtain ⟨id', hid', hstoredId, hstored⟩ := Record.read_identify hservice.proper hread
    (checked.fresh 0) h.service.config.excludeNullOnInsert
  rw [hmodel] at hid' hstored
  rw [← hservice.readModel] at hstored
  obtain rfl : id = id' := Value.objectId.inj (Option.some.inj (hid.symm.trans hid'))
  obtain ⟨s', hinsert, happends⟩ :=
    ends_insertOne_of_records hservice hanswerer haccepts rfl hstoredId hfree
  have hstores : h.Stores session (.objectId id)
      ((s.store.view session).documents h.service.collection) _ s' :=
    ⟨(happends _).trans (if_pos rfl), hfree, Key.finds_objectId hstoredId⟩
  refine ⟨s', _, ?_, happends, _, hstores, hstoredId, hstored⟩
  change ends (ofResult (h.service.readInsert data) >>= h.create answerer session).run s = _
  rw [ends_run_action, ends_ofResult, hservice.readInsert, hread]
  simp only
  unfold create
  rw [ends_run_action, hinsert]
  exact hstores.ends_getStored hstored

/-- Changes that are accepted are made to the only document under the identifier. -/
theorem ends_updateByKey_of_records {stored : Document} {checked : State}
    (hstores : h.Stores session (.objectId id) docs stored s)
    (haccepts : h.Accepts answerer session (.update given) (some (Key.objectId id).filter) s
      checked)
    (hfields : ∀ set ∈ given.withoutNulls,
      Path.segments set.1 = (set.1, []) ∧ set.1 ≠ idField)
    (hid : Document.get? (stored.revised given) idField = some (.objectId id)) :
    ∃ outcome s', ends (h.updateByKey answerer session (.objectId id) given).run s
        = (.ok (.ok outcome), s') ∧ outcome.matched = 1 ∧
      h.Stores session (.objectId id) docs (stored.revised given) s' := by
  have hstores := hstores.of_store (store_of_accepts hservice hanswerer haccepts)
  have heq : h.updateByKey answerer session (.objectId id) given = (do
      h.validate answerer session (.update given) (some (Key.objectId id).filter)
      let update ← ofResult (h.service.prepareUpdate given)
      if isEmptyUpdate update then do
        let matched ← h.count session (Key.objectId id).filter
        return ⟨min matched 1, 0⟩
      else ask session (.update h.service.collection (Key.objectId id).filter update false)) := rfl
  rw [heq, ends_run_action, haccepts]
  simp only
  rw [ends_run_action, ends_ofResult, hservice.prepareUpdate]
  simp only [Update.isEmptyUpdate_setting]
  split
  · -- nothing is written, and the document is counted
    rename_i hempty
    have hnone : stored.revised given = stored := by
      rw [Document.revised, List.isEmpty_iff.mp hempty]
      rfl
    rw [ends_run_action, hstores.ends_count, hnone]
    exact ⟨_, _, rfl, rfl, hstores⟩
  · exact hstores.ends_ask_update (Update.check_setting _) (Update.apply_setting hfields stored)
      (Key.finds_objectId hid)

/-- What is updated is the model that was seen, with the changes. -/
theorem ends_update_of_records (hshows : h.Shows session id docs model s)
    (hread : h.service.readUpdate data = .ok given) {checked : State}
    (haccepts : h.Accepts answerer session (.update given) (some (Key.objectId id).filter) s
      checked) :
    ∃ s', ends (h.answer answerer session (.update (.objectId id) data)).run s
        = (.ok (.ok (model.revised given)), s') ∧
      h.Shows session id docs (model.revised given) s' := by
  obtain ⟨stored, hstores, hid, hmodel⟩ := hshows
  rw [hservice.readUpdate] at hread
  have hfields (set : String × Value) (hset : set ∈ given.withoutNulls) :
      Path.segments set.1 = (set.1, []) ∧ set.1 ≠ idField := by
    obtain ⟨hsegments, field, hfield, hname, -⟩ := hservice.revises.mem_withoutNulls hread hset
    exact ⟨hsegments, hname ▸ hservice.proper.name_ne_idField hfield⟩
  have hid' : Document.get? (stored.revised given) idField = some (.objectId id) :=
    (Document.get?_assign fun set hset => (hfields set hset).2).trans hid
  rw [hservice.readModel] at hmodel
  have hmodel' := hservice.revises.identified.read_revised hservice.proper hread hmodel
  rw [← hservice.readModel] at hmodel'
  obtain ⟨outcome, s', hupdated, hmatched, hstores'⟩ :=
    ends_updateByKey_of_records hservice hanswerer hstores haccepts hfields hid'
  -- what remains is to read the key and the changes, and then the document again
  refine ⟨s', ?_, stored.revised given, hstores', hid', hmodel'⟩
  change ends (ofResult (Key.ofValue h.service.key (.objectId id)) >>= fun key =>
    ofResult (h.service.readUpdate data) >>= h.update answerer session key).run s = _
  rw [ends_run_action, ends_ofResult, hservice.key]
  change ends (ofResult (h.service.readUpdate data) >>=
    h.update answerer session (.objectId id)).run s = _
  rw [ends_run_action, ends_ofResult, hservice.readUpdate, hread]
  simp only
  unfold update
  rw [ends_run_action, hupdated]
  simp only [hmatched, Nat.one_ne_zero, if_false]
  exact hstores'.ends_getStored hmodel'

/-- After such updates the model with all of their changes is seen. -/
theorem shows_of_revisions {changed : List Document} (hshows : h.Shows session id docs model s)
    (hrevisions : h.Revisions answerer session id s changed s') :
    h.Shows session id docs (changed.foldl Document.revised model) s' := by
  induction hrevisions generalizing model with
  | nil s => exact hshows
  | @cons s checked s₁ s₂ data given rest answered hread haccepts hends hrest ih =>
    obtain ⟨s', hupdated, hshows'⟩ :=
      ends_update_of_records hservice hanswerer hshows hread haccepts
    obtain rfl : s₁ = s' := congrArg Prod.snd (hends.symm.trans hupdated)
    exact ih hshows'

end Handle

end DocumentStore
