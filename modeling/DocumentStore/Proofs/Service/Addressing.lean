import DocumentStore.Proofs.Key
import DocumentStore.Proofs.Process.Invariant
import DocumentStore.Proofs.Record
import DocumentStore.Proofs.Service.Deletion
import DocumentStore.Proofs.Store.Spared

/-!
# Documents of other keys

What a service does for a key it does to the documents that filters for the key find. A document
of another key is not among them where filters tell the two keys apart: it is not found, and
neither updates nor deletions touch it, whatever transactions they are made in. Integers beyond
2⁵³ are not always told apart, and there a service reads, updates and deletes the document of
another key.
-/
namespace DocumentStore

open Process Store

/-! ## Filters for a key -/

/-- Whether a filter is one for a key alone. -/
inductive Key.Filters (k : Key) : Document → Prop where
  | one : Filters k k.filter
  | all : Filters k (filterAll [k])

namespace Key.Filters

variable {k : Key} {filter : Document} (h : k.Filters filter)

include h

theorem evaluate (d : Document) : Filter.evaluate d filter = .ok (k.finds d) := by
  cases h with
  | one => exact evaluate_filter k d
  | all => simpa using evaluate_filterAll [k] d

theorem decides (ds : List Document) : Filter.Decides filter k.finds ds :=
  ⟨fun d _ => h.evaluate d, h.evaluate []⟩

end Key.Filters

/-- Whether a call to a service with keys of a kind is about the document of a key alone. -/
inductive Service.Call.Addresses (kind : KeyKind) (k : Key) : Service.Call → Prop where
  | get {id : Value} (h : Key.ofValue kind id = .ok k) : Addresses kind k (.get id)
  | contains {id : Value} (h : Key.ofValue kind id = .ok k) : Addresses kind k (.contains id)
  | updateById {id : Value} (h : Key.ofValue kind id = .ok k) (changes : Document) :
    Addresses kind k (.updateById id changes)
  | update {id : Value} (h : Key.ofValue kind id = .ok k) (changes : Document) :
    Addresses kind k (.update id changes)
  | delete {id : Value} (h : Key.ofValue kind id = .ok k) : Addresses kind k (.delete id)
  | find {query : Query} (h : k.Filters query.filterDocument) : Addresses kind k (.find query)
  | findDocuments {query : Query} (h : k.Filters query.filterDocument) :
    Addresses kind k (.findDocuments query)
  | findOne {filter : Document} (h : k.Filters filter) : Addresses kind k (.findOne filter)
  | findIds {filter : Document} (h : k.Filters filter) : Addresses kind k (.findIds filter)
  | count {filter : Document} (h : k.Filters filter) : Addresses kind k (.count filter)
  | updateMany {filter : Document} (h : k.Filters filter) (changes : Document) :
    Addresses kind k (.updateMany filter changes)
  | updateOne {filter : Document} (h : k.Filters filter) (changes : Document) :
    Addresses kind k (.updateOne filter changes)
  | deleteMany {filter : Document} (h : k.Filters filter) : Addresses kind k (.deleteMany filter)
  | deleteOne {filter : Document} (h : k.Filters filter) : Addresses kind k (.deleteOne filter)

/-! ## Actions that spare a document -/

namespace Process

variable {α : Type} {session : Option SessionId} {name : String} {d : Document}

/-- Whether a process leaves a document of a collection where a session sees it. -/
def Spares (session : Option SessionId) (name : String) (d : Document) (p : Process α) : Prop :=
  ∀ joined s, s.store.Holding session joined name d →
    (ends p s).2.store.Holding session joined name d

theorem Spares.of_still {p : Process α} (h : Still p) : Spares session name d p := by
  intro joined s hs
  rw [h s]
  exact hs

theorem Spares.keeps {joined : Bool} {s : State} {a : Action α}
    (h : Spares session name d a.run) (hs : s.store.Holding session joined name d) :
    Keeps (Holding session joined name d) (fun _ _ => True) a s :=
  ⟨h joined s hs, fun _ _ _ => trivial⟩

theorem Spares.ask {call : Store.Call} (h : call.Spares d) :
    Spares session name d (Process.ask session call).run := by
  intro joined s hs
  rw [ends_ask]
  exact hs.answer h _

end Process

namespace Handle

variable {h : Handle} {answerer : Answerer} {k l : Key} {d : Document} {session : Option SessionId}
  {joined : Bool} {s : State}

/-- Whether the rules of a service that are called for a key leave a document where it is seen:
validators that are told a filter for the key, and delete rules that are told keys like it. -/
structure RulesSpare (h : Handle) (answerer : Answerer) (k : Key) (d : Document) : Prop where
  validators : ∀ rule ∈ h.service.rules.validators, ∀ told filter, k.Filters filter →
    told.filter = some filter → told.depth = h.depth → ∀ session,
      Spares session h.service.collection d
        ((rule.hook told).run (answerer h.depth session) : Process (Result Unit))
  deleteRules : ∀ rule ∈ h.service.rules.deleteRules, ∀ told,
    (∀ key ∈ told.ids, key.seen = k.seen) → told.depth = h.depth + 1 → ∀ id,
      Spares (some id) h.service.collection d
        ((rule.hook told).run (answerer (h.depth + 1) (some id)) : Process (Result Unit))

/-- Rules that only read spare every document. -/
theorem rulesSpare_of_reads (hreads : answerer.Reads)
    (hvalidators : ∀ rule ∈ h.service.rules.validators, ∀ told,
      (rule.hook told).Asks Request.Reads)
    (hdeleteRules : ∀ rule ∈ h.service.rules.deleteRules, ∀ told,
      (rule.hook told).Asks Request.Reads) (k : Key) (d : Document) :
    h.RulesSpare answerer k d := by
  have hstill {depth : Nat} {session : Option SessionId} {program : Program Unit}
      (hasks : program.Asks Request.Reads) :
      Still (program.run (answerer depth session) : Process (Result Unit)) :=
    (hasks.confined fun request hrequest => hreads depth session request hrequest).isStill
  exact ⟨fun rule hrule told _ _ _ _ _ => .of_still (hstill (hvalidators rule hrule told)),
    fun rule hrule told _ _ _ => .of_still (hstill (hdeleteRules rule hrule told))⟩

/-! ## Updates -/

section

variable (hspare : h.RulesSpare answerer k d)
  (hs : s.store.Holding session joined h.service.collection d)

include hspare hs

theorem keeps_validate {payload : Payload} {filter : Document} (hfilter : k.Filters filter) :
    Keeps (Holding session joined h.service.collection d) (fun _ _ => True)
      (h.validate answerer session payload (some filter)) s := by
  unfold validate
  refine .each hs fun rule hrule s' hs => ?_
  refine .bind (.still (.mapM_inTransaction session) hs) fun inside s'' hs _ => .wrapping _ ?_
  have hrule : rule ∈ h.service.rules.validators := (List.mem_filter.mp hrule).1
  exact (hspare.validators rule hrule _ filter hfilter rfl rfl session).keeps hs

/-- An update for a key passes over a document that filters for the key do not find. -/
theorem keeps_applyUpdate (hmissed : k.finds d = false) {filter : Document}
    (hfilter : k.Filters filter) (changes : Document) (many : Bool) :
    Keeps (Holding session joined h.service.collection d) (fun _ _ => True)
      (h.applyUpdate answerer session filter changes many) s := by
  unfold applyUpdate
  refine .bind (keeps_validate hspare hs hfilter) fun _ s' hs _ => ?_
  refine .bind (Q := fun _ _ => True) (.ofResult hs fun _ _ => trivial) fun update s' hs _ => ?_
  split
  · have hcount := (h.confined_count session none filter).isStill
    exact .bind (.still hcount hs) fun matched s'' hs _ => .pure hs trivial
  · have hcall : Store.Call.Spares d (.update h.service.collection filter update many) :=
      (hfilter.evaluate d).trans (congrArg _ hmissed)
    exact (Spares.ask hcall).keeps hs

theorem keeps_update (hmissed : k.finds d = false) (changes : Document) :
    Keeps (Holding session joined h.service.collection d) (fun _ _ => True)
      (h.update answerer session k changes) s := by
  unfold Handle.update updateByKey
  refine .bind (keeps_applyUpdate hspare hs hmissed .one changes false) fun outcome s' hs _ => ?_
  split
  · exact .throw _ hs
  · have hstored := (h.confined_getStored session none k).isStill
    exact .mono (.still hstored hs) (fun _ h => h) fun _ _ _ _ => trivial

end

/-! ## Deletions -/

/-- The keys that are found for a key are seen as the key is. -/
theorem keeps_findIds_seen {id : SessionId}
    (hs : s.store.Holding (some id) joined h.service.collection d) {filter : Document}
    (hfilter : k.Filters filter) :
    Keeps (Holding (some id) joined h.service.collection d)
      (fun keys _ => ∀ key ∈ keys, key.seen = k.seen) (h.findIds (some id) filter) s := by
  have hfound : (s.store.view (some id)).select h.service.collection filter = .ok _ :=
    Collections.select_of_decides (hfilter.decides _)
  have hends := ends_findIds_of_select hfound
  refine ⟨by rw [hends]; exact hs, fun keys s' hkeys key hkey => ?_⟩
  rw [hends] at hkeys
  have hmapped := Except.ok.inj (congrArg Prod.fst hkeys)
  obtain ⟨found, hmem, hread⟩ := mem_of_mapM hmapped hkey
  have hfinds := (List.mem_filter.mp hmem).2
  unfold Key.ofDocument at hread
  cases hvalue : Document.get? found idField with
  | none =>
    rw [hvalue] at hread
    cases hread
  | some value =>
    rw [hvalue] at hread
    unfold Key.finds at hfinds
    rw [hvalue, Key.equals_of_ofValue hread] at hfinds
    exact of_decide_eq_true hfinds

theorem keeps_runDeleteRules {id : SessionId} (hspare : h.RulesSpare answerer k d)
    (hs : s.store.Holding (some id) joined h.service.collection d) {keys : List Key}
    (hkeys : ∀ key ∈ keys, key.seen = k.seen) (phase : DeletePhase)
    (wrap : String → ServiceError → ServiceError) :
    Keeps (Holding (some id) joined h.service.collection d) (fun _ _ => True)
      (h.deeper.runDeleteRules answerer id keys phase wrap) s := by
  unfold runDeleteRules
  refine .each hs fun rule hrule s' hs => ?_
  have htold : Confined none (ExceptT.lift (Process.inTransaction id) : Action Bool).run :=
    .lift (.still (.inTransaction id))
  refine .bind (.still htold.isStill hs) fun inside s'' hs _ => .wrapping _ ?_
  have hrule : rule ∈ h.service.rules.deleteRules := (List.mem_filter.mp hrule).1
  exact (hspare.deleteRules rule hrule ⟨keys, h.depth + 1, inside⟩ hkeys rfl id).keeps hs

theorem keeps_deleteKeys_spared {id : SessionId} (hspare : h.RulesSpare answerer k d)
    (hd : Document.get? d idField = some l.toValue) (hapart : k.Apart l)
    (hs : s.store.Holding (some id) joined h.service.collection d) {keys : List Key}
    (hkeys : ∀ key ∈ keys, key.seen = k.seen) :
    Keeps (Holding (some id) joined h.service.collection d) (fun _ _ => True)
      (h.deeper.deleteKeys answerer id keys) s := by
  -- keys that are seen as the key find no more than it does
  have hmissed : keys.any (·.finds d) = false := by
    refine List.any_eq_false.mpr fun key hkey => ?_
    rw [Key.finds_of_id hd, hkeys key hkey, ← Key.finds_of_id hd, hapart.finds_eq_false hd]
    decide
  have hcall : Store.Call.Spares d (.delete h.service.collection (Key.filterAll keys) true) :=
    (Key.evaluate_filterAll keys d).trans (congrArg _ hmissed)
  unfold deleteKeys
  refine .bind (keeps_runDeleteRules hspare hs hkeys _ _) fun _ s' hs _ => ?_
  refine .bind ((Spares.ask hcall).keeps hs) fun deleted s' hs _ => ?_
  exact .bind (keeps_runDeleteRules hspare hs hkeys _ _) fun _ s' hs _ => .pure hs trivial

/-- Transactions of the session start and end where the document is committed. -/
theorem unnoticed_holding (id : SessionId) (name : String) (d : Document) :
    Unnoticed (Holding (some id) false name d) id := by
  refine ⟨fun store hs => hs.isOpen id rfl, ?_, ?_, ?_⟩
  · intro store hs
    exact hs.of_views ((start_isOpen store id id).mpr (hs.isOpen id rfl)) (views_start store id)
  · intro store hs
    exact hs.of_views ((commit_isOpen store id id).mpr (hs.isOpen id rfl)) (views_commit store id)
  · intro store hs
    exact hs.of_views ((abort_isOpen store id id).mpr (hs.isOpen id rfl)) (views_abort store id)

theorem keeps_deleteOnSession_spared {id : SessionId} (hspare : h.RulesSpare answerer k d)
    (hd : Document.get? d idField = some l.toValue) (hapart : k.Apart l)
    (hs : s.store.Holding (some id) joined h.service.collection d) {filter : Document}
    (hfilter : k.Filters filter) (single : Bool) :
    Keeps (Holding (some id) joined h.service.collection d) (fun _ _ => True)
      (h.deleteOnSession answerer id filter single) s := by
  unfold deleteOnSession
  refine .bind (keeps_findIds_seen hs hfilter) fun keys s' hs hkeys => ?_
  split
  · exact .pure hs trivial
  · split
    · exact .throw _ hs
    · split
      · exact .throw _ hs
      · refine .bind (keeps_runDeleteRules hspare hs hkeys _ _) fun _ s'' hs _ => ?_
        have hbody (s : State) (hs : s.store.Holding (some id) joined h.service.collection d) :=
          (keeps_deleteKeys_spared hspare hd hapart hs hkeys).kept
        refine ⟨?_, fun _ _ _ => trivial⟩
        cases joined with
        | true =>
          obtain ⟨_, ⟨⟩, hin⟩ := hs.elsewhere
          rw [ends_transact_of_joins (.inl hin)]
          exact hbody s'' hs
        | false =>
          exact transact_kept (unnoticed_holding id _ d) (fun s hs _ => hbody s hs) _ hs

/-- A deletion for a key passes over the document of a key that is told apart from it, on a session
that is given or on one of its own. -/
theorem keeps_deleteMatching_spared (hspare : h.RulesSpare answerer k d)
    (hd : Document.get? d idField = some l.toValue) (hapart : k.Apart l)
    (hs : s.store.Holding session joined h.service.collection d) {filter : Document}
    (hfilter : k.Filters filter) (single : Bool) :
    Keeps (Holding session joined h.service.collection d) (fun _ _ => True)
      (h.deleteMatching answerer session filter single) s := by
  unfold deleteMatching
  split
  · refine ⟨?_, fun _ _ _ => trivial⟩
    rw [ExceptT.run_mk]
    cases session with
    | some id => exact (keeps_deleteOnSession_spared hspare hd hapart hs hfilter single).kept
    | none =>
      obtain rfl := hs.joined_none
      rw [usingSession_none, ends_withSession]
      have hdeleted := keeps_deleteOnSession_spared
        (s := { s with store := s.store.openSession.2 }) hspare hd hapart hs.openSession hfilter
        single
      exact hdeleted.kept.dropSession
  · have hcall : Store.Call.Spares d (.delete h.service.collection filter (!single)) :=
      (hfilter.evaluate d).trans (congrArg _ (hapart.finds_eq_false hd))
    exact (Spares.ask hcall).keeps hs

/-! ## Calls about a key -/

/-- Whatever is called for a key spares the document of a key that is told apart from it. -/
theorem spares_answer (hspare : h.RulesSpare answerer k d)
    (hd : Document.get? d idField = some l.toValue) (hapart : k.Apart l) {call : Service.Call}
    (hcall : call.Addresses h.service.key k) :
    Spares session h.service.collection d (h.answer answerer session call).run := by
  intro joined s hs
  have hmissed := hapart.finds_eq_false hd
  have hread {call : Service.Call} (hreads : call.Reads) :=
    Spares.of_still (h.confined_answer_of_reads session none answerer hreads).isStill joined s hs
  -- what is read of the call beforehand leaves the store as it is
  have hchanges {α : Type} {f : Document → Action α} (changes : Document)
      (hf : ∀ changes s, s.store.Holding session joined h.service.collection d →
        Keeps (Holding session joined h.service.collection d) (fun _ _ => True) (f changes) s) :
      Keeps (Holding session joined h.service.collection d) (fun _ _ => True)
        (Process.ofResult (h.service.readUpdate changes) >>= f) s :=
    .bind (Q := fun _ _ => True) (.ofResult hs fun _ _ => trivial) fun changes s hs _ =>
      hf changes s hs
  have hkey {α : Type} {id : Value} (hid : Key.ofValue h.service.key id = .ok k)
      (f : Key → Action α) :
      ends (Process.ofResult (Key.ofValue h.service.key id) >>= f).run s = ends (f k).run s := by
    rw [hid]
    rfl
  cases hcall with
  | get | contains | find | findDocuments | findOne | findIds | count => exact hread trivial
  | updateById hid changes =>
    have hupdated := hchanges changes fun changes s hs =>
      keeps_applyUpdate hspare hs hmissed .one changes false
    exact (hupdated.of_ends_eq (hkey hid _)).kept
  | update hid changes =>
    have hupdated := hchanges changes fun changes s hs => keeps_update hspare hs hmissed changes
    exact (hupdated.of_ends_eq (hkey hid _)).kept
  | updateMany hfilter changes =>
    exact (hchanges changes fun changes s hs =>
      keeps_applyUpdate hspare hs hmissed hfilter changes true).kept
  | updateOne hfilter changes =>
    exact (hchanges changes fun changes s hs =>
      keeps_applyUpdate hspare hs hmissed hfilter changes false).kept
  | deleteMany hfilter => exact (keeps_deleteMatching_spared hspare hd hapart hs hfilter false).kept
  | deleteOne hfilter => exact (keeps_deleteMatching_spared hspare hd hapart hs hfilter true).kept
  | delete hid =>
    have hdeleted := keeps_deleteMatching_spared hspare hd hapart hs .one true
    exact (hdeleted.of_ends_eq (hkey hid _)).kept

/-- The first document that is found is read. -/
theorem ends_findOne_of_select {filter : Document} {found : List Document}
    (hfound : (s.store.view session).select h.service.collection filter = .ok found) :
    ends (h.findOne session filter).run s = (.ok (found.head?.mapM h.service.readModel), s) := by
  have hask : ends (ask session (.findOne h.service.collection filter)).run s
      = (.ok (.ok found.head?), s) := by
    rw [ends_ask]
    simp [Store.answer, Collections.findOne, Collections.find, hfound, Collections.arrange,
      Collections.takeLimit, List.head?_take, bind, Except.bind, pure, Except.pure,
      Store.Call.inserted]
  unfold findOne
  rw [ends_run_action, hask]
  cases found with
  | nil => rfl
  | cons d rest =>
    change _ = ((Except.ok (some <$> h.service.readModel d) : Except Stop (Result _)), s)
    simp only [List.head?_cons]
    cases h.service.readModel d <;> rfl

/-- A key addresses no document of another key that filters tell apart from it. Its filters find
all documents that it identifies and none that the other does. So a document of the other key is
not read for it, and stays where it is seen, whatever is called for the key and whatever comes of
it, unless a rule of the service writes to it. -/
theorem key_addresses_own (h : Handle) (answerer : Answerer) (hapart : k.Apart l) :
    (∀ filter, k.Filters filter → ∀ d,
      (Document.get? d idField = some k.toValue → Filter.evaluate d filter = .ok true) ∧
      (Document.get? d idField = some l.toValue → Filter.evaluate d filter = .ok false)) ∧
    ∀ d, Document.get? d idField = some l.toValue →
      (∀ filter, k.Filters filter → ∀ cs name, ∃ found,
        Collections.select cs name filter = .ok found ∧ d ∉ found ∧
          ∀ other ∈ cs.documents name,
            Document.get? other idField = some k.toValue → other ∈ found) ∧
      (∀ session s, ∃ found,
        (s.store.view session).select h.service.collection k.filter = .ok found ∧ d ∉ found ∧
          ends (h.get session k).run s = (.ok (found.head?.mapM h.service.readModel), s)) ∧
      (h.RulesSpare answerer k d →
        ∀ session call s, call.Addresses h.service.key k →
          (∀ id ∈ session, s.store.IsOpen id) →
          d ∈ (s.store.view session).documents h.service.collection →
          d ∈ ((ends (h.answer answerer session call).run s).2.store.view session).documents
            h.service.collection) := by
  have hmet {d : Document} (hd : Document.get? d idField = some k.toValue) :
      k.finds d = true := by
    rw [Key.finds_of_id hd]
    simp
  -- filters for the key decide on every document, so what they select is what the key finds
  have hselect {filter : Document} (hfilter : k.Filters filter) (cs : Collections)
      (name : String) := Collections.select_of_decides (hfilter.decides (cs.documents name))
  have hnot {d : Document} (hd : Document.get? d idField = some l.toValue)
      (ds : List Document) : d ∉ ds.filter k.finds := by
    simp [hapart.finds_eq_false hd]
  refine ⟨fun filter hfilter d => ⟨fun hd => ?_, fun hd => ?_⟩, fun d hd => ⟨?_, ?_, ?_⟩⟩
  · rw [hfilter.evaluate, hmet hd]
  · rw [hfilter.evaluate, hapart.finds_eq_false hd]
  · intro filter hfilter cs name
    refine ⟨_, hselect hfilter cs name, hnot hd _, fun other hother hid => ?_⟩
    exact List.mem_filter.mpr ⟨hother, hmet hid⟩
  · intro session s
    have hfound := hselect .one (s.store.view session) h.service.collection
    exact ⟨_, hfound, hnot hd _, ends_findOne_of_select hfound⟩
  · intro hspare session call s hcall hopen hseen
    -- every step of the call keeps the document where it is seen
    obtain ⟨joined, hs⟩ := Holding.exists_of_seen hopen hseen
    exact (spares_answer hspare hd hapart hcall joined s hs).seen

end Handle

/-- A service with integers as keys, whose rules look at the documents. -/
def counted : Service where
  name := "Counted"
  collection := "c"
  key := .integer
  rules :=
    let look := Program.call "Counted" (.count [])
    ({} : Rules).validator "look" .update (fun _ => do let _ ← look)
      |>.deleteRule "look" .pre fun _ => do let _ ← look

/-- Two large integers that are told apart. -/
theorem Handle.key_addresses_own_large :
    let h : Handle := { service := counted }
    let answerer := Answerer.of (Family.performWithin (fun _ => counted) 1)
    let k : Key := .integer 9007199254740992
    let l : Key := .integer 9007199254740991
    let d : Document := [(idField, l.toValue)]
    let s : State := { store := { collections := [("c", [d, [(idField, k.toValue)]])] } }
    let deleted := ends (h.answer answerer none (.delete k.toValue)).run s
    k.Apart l ∧ h.RulesSpare answerer k d ∧
      deleted.1.toOption.bind (·.toOption) = some 1 ∧
      d ∈ (deleted.2.store.view none).documents "c" := by
  intro h answerer k l d s deleted
  have hapart : k.Apart l := Key.apart_integer (by decide) (by decide) (by decide)
  have hspare : h.RulesSpare answerer k d := by
    refine Handle.rulesSpare_of_reads (Answerer.reads_of _ 1) ?_ ?_ k d
    · intro rule hrule told
      obtain rfl := List.mem_singleton.mp hrule
      exact ⟨trivial, fun answered => by cases answered <;> trivial⟩
    · intro rule hrule told
      obtain rfl := List.mem_singleton.mp hrule
      exact ⟨trivial, fun answered => by cases answered <;> trivial⟩
  obtain ⟨-, howned⟩ := Handle.key_addresses_own h answerer hapart
  obtain ⟨-, -, hkept⟩ := howned d rfl
  exact ⟨hapart, hspare, by decide +kernel,
    hkept hspare none (.delete k.toValue) s (.delete rfl) nofun List.mem_cons_self⟩

/-- Beyond 2⁵³ an insertion accepts integers as different that are found as the same: what is asked
for one of them is done to the document of the other. -/
theorem Handle.key_addresses_other :
    let h : Handle := { service := { name := "C", collection := "c", key := .integer } }
    let answerer : Answerer := Answerer.of (Family.performWithin (fun _ => h.service) 0)
    let k : Key := .integer 9007199254740993
    let l : Key := .integer 9007199254740992
    let own : Document := [(idField, k.toValue), ("name", .string "own")]
    let other : Document := [(idField, l.toValue), ("name", .string "other")]
    let s : State := { store := { collections := [("c", [other, own])] } }
    let updated := ends (h.answer answerer none
      (.updateById k.toValue [("name", .string "new")])).run s
    let deleted := ends (h.answer answerer none (.delete k.toValue)).run s
    k ≠ l ∧ Collections.checkNew "c" [] [other, own] = .ok () ∧
      Filter.evaluate other k.filter = .ok true ∧
      (ends (h.get none k).run s).1 = .ok (.ok (some other)) ∧
      (updated.2.store.view none).documents "c"
        = [[(idField, l.toValue), ("name", .string "new")], own] ∧
      (deleted.2.store.view none).documents "c" = [own] := by
  refine ⟨by decide, rfl, rfl, rfl, rfl, rfl⟩

end DocumentStore
