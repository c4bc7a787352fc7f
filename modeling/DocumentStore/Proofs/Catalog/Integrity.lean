import DocumentStore.Proofs.Catalog.Written
import Mathlib.Logic.Relation

/-!
# Integrity of trees

No parent is ever missing, whatever is done with a service of trees. Four things see to it: what is
written refers to parents that are there; no node is deleted before the nodes below it; what is
published is a view that was intact by itself; and a transaction that cannot be published leaves the
documents as they were.
-/
namespace DocumentStore.Catalog.Tree

open Process

/-! ## Deletions -/

variable {family : Family} {self : String} {session : Option SessionId} {id : SessionId} {s : State}

/-- Whether a store is intact and a session of it is open. -/
structure Working (collection : String) (id : SessionId) (s : Store) : Prop where
  intact : Intact collection s
  isOpen : s.IsOpen id

/-- It makes no difference to this whether a transaction is open on the session. -/
theorem unnoticed_working (collection : String) (id : SessionId) :
    Unnoticed (Working collection id) id := by
  refine ⟨fun store h => h.isOpen, ?_, ?_, ?_⟩
  · intro store h
    exact ⟨h.intact.of_shows (.start store id), (store.start_isOpen id id).mpr h.isOpen⟩
  · intro store h
    exact ⟨h.intact.of_shows (.commit store id), (store.commit_isOpen id id).mpr h.isOpen⟩
  · intro store h
    exact ⟨h.intact.of_shows (.abort store id), (store.abort_isOpen id id).mpr h.isOpen⟩

/-- Whether besides a transaction on the session is joined. -/
structure Joined (collection : String) (id : SessionId) (s : Store) : Prop
    extends Working collection id s where
  joins : s.Joins id

theorem Joined.answer {collection : String} {store : Store} (h : Joined collection id store)
    {fresh : Nat → ObjectId} {call : Store.Call}
    (hintact : Intact collection (store.answer (some id) fresh call).2) :
    Joined collection id (store.answer (some id) fresh call).2 := by
  refine ⟨⟨hintact, (Store.isOpen_answer fresh call id).mpr h.isOpen⟩, ?_⟩
  unfold Store.Joins
  rw [Store.inTransaction_answer, Store.transactional_answer]
  exact h.joins

/-- Whether nodes of a kind are no more seen on a session, and no others than before. -/
def Without (service : Service) (id : SessionId) (p : Document → Bool) (before after : Store) :
    Prop :=
  ∀ d ∈ seen service (some id) after, d ∈ seen service (some id) before ∧ p d = false

theorem keeps_findIds {I : Store → Prop} (htree : IsTree family self) (hI : I s.store)
    (hintact : Intact (family self).collection s.store) (depth : Nat) (filter : Document) :
    Keeps I (fun keys store => store = s.store ∧ ∃ found,
        (s.store.view session).select (family self).collection filter = .ok found ∧
          keys = (ids found).map .objectId)
      ((⟨family self, depth⟩ : Handle).findIds session filter) s := by
  cases hfound : (s.store.view session).select (family self).collection filter with
  | ok found =>
    have hnodes := (hintact.view session).nodes.sublist (Collections.select_sublist hfound)
    have hends := Handle.ends_findIds (h := ⟨family self, depth⟩) htree.key hfound hnodes.id
    exact .of_ends hends hI ⟨rfl, found, rfl, rfl⟩
  | error e =>
    let options : FindOptions := { projection := some (Document.single idField (.int32 1)) }
    have hask : ends (ask session (.find (family self).collection filter options)).run s
        = (.ok (.error e), s) := by
      rw [ends_ask]
      simp [Store.answer, Collections.find, hfound, Store.Call.inserted, bind, Except.bind]
    have hends : ends ((⟨family self, depth⟩ : Handle).findIds session filter).run s
        = (.ok (.error e), s) := by
      unfold Handle.findIds
      rw [ends_run_action, hask]
    exact .of_failed (by rw [hends]; exact hI) fun keys hkeys => by rw [hends] at hkeys; cases hkeys

/-- The rule that deletes the nodes below does what the call does that it makes. -/
theorem keeps_deleteChildren {I Q : Store → Prop} {found : List ObjectId} {levels depth : Nat}
    (inside : Bool)
    (h : Keeps I (fun _ => Q) (family.performWithin levels depth (some id) self
      (.deleteMany (Key.filterIn parent.path (found.map .objectId)))) s) :
    Keeps I (fun _ => Q) ((deleteChildren self ⟨found.map .objectId, depth, inside⟩).run
      (Answerer.of (family.performWithin levels) depth (some id)) : Process (Result Unit)) s := by
  have hcalled := h.bind fun _ s' hkept hQ =>
    (.pure hkept hQ : Keeps I (fun _ => Q) (pure () : Action Unit) s')
  refine .of_ends_eq hcalled ?_
  refine (ends_deleteChildren found levels depth inside).trans ?_
  rw [ends_run_action]
  cases ends (family.performWithin levels depth (some id) self
      (.deleteMany (Key.filterIn parent.path (found.map .objectId)))).run s with
  | mk result s' =>
    match result with
    | .error stop => rfl
    | .ok (.error e) => rfl
    | .ok (.ok count) => rfl

/-- A call to the store deletes nodes that have no others below them. -/
theorem keeps_delete (service : Service) (h : Joined service.collection id s.store)
    {found : List ObjectId}
    (hnone : ∀ d ∈ seen service (some id) s.store, isBelow found d = false) :
    Keeps (Joined service.collection id)
      (fun _ => Without service id (isAmong found) s.store)
      (ask (some id) (.delete service.collection (Key.filterAll (found.map .objectId)) true))
      s := by
  have hgrounded : Grounded (seen service (some id) s.store) := h.intact.view (some id)
  refine .ask ?_ ?_
  · intro fresh
    exact h.answer (h.intact.answer rfl (hgrounded.rewrite_delete fresh _ hnone))
  · intro fresh _ d hd
    have hleft : seen service (some id) (s.store.answer (some id) fresh
        (.delete service.collection (Key.filterAll (found.map .objectId)) true)).2
        = (seen service (some id) s.store).filter (!isAmong found ·) := by
      unfold seen
      rw [Store.view_answer_self, Store.Call.documents_perform]
      exact (if_pos rfl).trans (Store.Call.rewrite_delete_of_decides
        (decides_keys hgrounded.nodes found) fresh service.collection)
    rw [hleft] at hd
    simpa using hd

/-- Nodes are deleted only after those below them are gone. -/
theorem keeps_deleteKeys (htree : IsTree family self)
    (h : Joined (family self).collection id s.store) {found : List ObjectId} {levels depth : Nat}
    (hbelow : ∀ s : State, Joined (family self).collection id s.store →
      Keeps (Joined (family self).collection id)
        (fun _ => Without (family self) id (isBelow found) s.store)
        (family.performWithin levels depth (some id) self
          (.deleteMany (Key.filterIn parent.path (found.map .objectId)))) s) :
    Keeps (Joined (family self).collection id)
      (fun _ => Without (family self) id (isAmong found) s.store)
      ((⟨family self, depth⟩ : Handle).deleteKeys (Answerer.of (family.performWithin levels)) id
        (found.map .objectId)) s := by
  unfold Handle.deleteKeys Handle.runDeleteRules
  rw [htree.deleteRulesIn_pre, htree.deleteRulesIn_post]
  -- the rules that come first leave nothing below the nodes that were found
  refine .bind (Q := fun _ => Without (family self) id (isBelow found) s.store) ?_ ?_
  · refine .bind (Q := fun _ => Without (family self) id (isBelow found) s.store) ?_
      fun _ s' hkept hknown => .pure hkept hknown
    have htold : Confined none (ExceptT.lift (Process.inTransaction id) : Action Bool).run :=
      .lift (.still (.inTransaction id))
    refine .bind (.still htold.isStill h) fun inside s' hkept hsame => .wrapping _ ?_
    have hdeleted := keeps_deleteChildren inside (hbelow s' hkept)
    rw [hsame] at hdeleted
    exact hdeleted
  · intro _ s' hkept hgone
    -- so the nodes themselves can go, and no rule comes after them
    refine .bind (keeps_delete (family self) hkept fun d hd => (hgone d hd).2) ?_
    intro deleted s'' hkept hleft
    refine .bind (Q := fun _ store => store = s''.store) (.pure hkept rfl) ?_
    intro _ s''' hkept hsame
    refine .pure hkept ?_
    intro d hd
    rw [hsame] at hd
    exact ⟨(hgone d (hleft d hd).1).1, (hleft d hd).2⟩

/-- The rule that may deny a deletion only reads. -/
theorem reads_denyRoot (self : String) (d : Deletion) :
    (denyRoot self d).Asks Request.Reads := by
  unfold denyRoot
  refine .bind (by cases among d.ids (parent.eq .null) <;> trivial) fun roots => ?_
  refine .bind (Program.asks_request trivial) fun count => ?_
  split
  · trivial
  · trivial

/-- A deletion on a session finds its nodes, asks whether it may delete them, and deletes them in a
transaction. -/
theorem keeps_deleteOnSession {I : Store → Prop} {Q : Nat → Store → Prop}
    (htree : IsTree family self) (hI : I s.store)
    (hintact : Intact (family self).collection s.store) {levels depth : Nat} {filter : Document}
    (single : Bool)
    (hnone : ∀ found, (s.store.view (some id)).select (family self).collection filter = .ok found →
      ids found = [] → Q 0 s.store)
    (hdelete : ∀ found (s' : State),
      (s.store.view (some id)).select (family self).collection filter = .ok found →
      I s'.store → s'.store = s.store →
      Keeps I Q (transact (family self).config.retry id
        ((⟨family self, depth + 1⟩ : Handle).deleteKeys (Answerer.of (family.performWithin levels))
          id ((ids found).map .objectId))) s') :
    Keeps I Q ((⟨family self, depth⟩ : Handle).deleteOnSession
      (Answerer.of (family.performWithin levels)) id filter single) s := by
  unfold Handle.deleteOnSession
  refine .bind (keeps_findIds htree hI hintact depth filter) ?_
  rintro keys s' hkept ⟨hsame, found, hfound, rfl⟩
  split
  · rename_i hempty
    refine .pure hkept ?_
    rw [hsame]
    exact hnone found hfound (by simpa using hempty)
  · split
    · exact .throw _ hkept
    · split
      · exact .throw _ hkept
      -- the rule that may deny the deletion leaves the store as it was found
      · have hdeny : Still ((⟨family self, depth⟩ : Handle).deeper.runDeleteRules
            (Answerer.of (family.performWithin levels)) id ((ids found).map .objectId) .deny
            .deleteDenied).run := by
          unfold Handle.runDeleteRules
          refine Confined.isStill ?_
          refine .forM fun rule hrule => ?_
          refine .action (.lift (.still (.inTransaction id))) fun inside => ?_
          obtain rfl : rule = ⟨"deny_root", .deny, denyRoot self⟩ :=
            List.mem_singleton.mp (htree.deleteRulesIn_deny ▸ hrule)
          exact .wrapping _ ((reads_denyRoot self _).confined (Answerer.reads_of family levels _ _))
        refine .bind (.still hdeny hkept) fun _ s'' hkept hasked => ?_
        exact hdelete found s'' hfound hkept (hasked.trans hsame)

/-- A call that deletes the nodes below others, inside of a transaction or where there are none, has
deleted all of them if it succeeds. -/
theorem keeps_deleteBelow (htree : IsTree family self) (above : List ObjectId) (levels depth : Nat)
    (h : Joined (family self).collection id s.store) :
    Keeps (Joined (family self).collection id)
      (fun _ => Without (family self) id (isBelow above) s.store)
      (family.performWithin levels depth (some id) self
        (.deleteMany (Key.filterIn parent.path (above.map .objectId)))) s := by
  -- one level of calls after the other, so that no limit has to be met
  induction levels generalizing above depth s with
  | zero => exact .of_failed h fun _ hends => by cases hends
  | succ levels ih =>
    have hnodes : Nodes (seen (family self) (some id) s.store) := (h.intact.view (some id)).nodes
    have hselected := Collections.select_of_decides (decides_children hnodes above)
    refine .of_ends_eq ?_ (ends_deleteMany_some htree levels depth _)
    refine keeps_deleteOnSession htree h h.intact false ?_ ?_
    · intro found hfound hnone d hd
      obtain rfl := Except.ok.inj (hselected.symm.trans hfound)
      have hempty := eq_nil_of_ids (hnodes.sublist List.filter_sublist) hnone
      exact ⟨hd, by simpa using List.filter_eq_nil_iff.mp hempty d hd⟩
    · intro found s' hfound hkept hsame
      obtain rfl := Except.ok.inj (hselected.symm.trans hfound)
      refine .of_ends_eq ?_ (ends_transact_of_joins hkept.joins _)
      refine (keeps_deleteKeys htree hkept fun s h => ih _ _ h).mono (fun _ hstore => hstore) ?_
      intro _ store _ hleft d hd
      obtain ⟨hd, hnot⟩ := hleft d hd
      rw [hsame] at hd
      refine ⟨hd, ?_⟩
      -- what was below was found, and what was found is gone
      by_contra hbelow
      have hmem := List.mem_filter.mpr ⟨hd, by simpa using hbelow⟩
      have hamong := isAmong_of_mem (hnodes.sublist List.filter_sublist) hmem
      exact absurd (hamong.symm.trans hnot) (by decide)

/-- A deletion on a session keeps the store intact, whether the session is in a transaction, starts
one or none is supported. -/
theorem keeps_deleteOnSession_working (htree : IsTree family self)
    (h : Working (family self).collection id s.store) (levels depth : Nat) (filter : Document)
    (single : Bool) :
    Keeps (Working (family self).collection id) (fun _ _ => True)
      ((⟨family self, depth⟩ : Handle).deleteOnSession (Answerer.of (family.performWithin levels))
        id filter single) s := by
  refine keeps_deleteOnSession htree h h.intact single (fun _ _ _ => trivial) ?_
  intro found s' _ hkept _
  refine ⟨?_, fun _ _ _ => trivial⟩
  refine transact_kept (unnoticed_working _ id) ?_ _ hkept
  intro s h hjoins
  exact (keeps_deleteKeys htree ⟨h, hjoins⟩ fun s h =>
    keeps_deleteBelow htree _ _ _ h).kept.toWorking

theorem keeps_deleteMatching (htree : IsTree family self)
    (h : Intact (family self).collection s.store) (hopen : ∀ id ∈ session, s.store.IsOpen id)
    (levels depth : Nat) (filter : Document) (single : Bool) :
    Keeps (Intact (family self).collection) (fun _ _ => True)
      ((⟨family self, depth⟩ : Handle).deleteMatching (Answerer.of (family.performWithin levels))
        session filter single) s := by
  refine ⟨?_, fun _ _ _ => trivial⟩
  unfold Handle.deleteMatching
  rw [if_pos htree.hasDeleteRules, ExceptT.run_mk]
  cases session with
  | some id =>
    have hworking : Working (family self).collection id s.store := ⟨h, hopen id rfl⟩
    exact (keeps_deleteOnSession_working htree hworking levels depth filter single).kept.intact
  | none =>
    -- the session that is opened is dropped, which shows nothing that was not seen
    rw [usingSession_none, ends_withSession]
    have hworking : Working (family self).collection s.store.openSession.1 s.store.openSession.2 :=
      ⟨h.of_shows (.openSession s.store), s.store.isOpen_openSession⟩
    have hdeleted := keeps_deleteOnSession_working (s := { s with store := s.store.openSession.2 })
      htree hworking levels depth filter single
    exact hdeleted.kept.intact.of_shows (.dropSession _ _)

/-! ## Calls -/

/-- What is read as a new node is one. -/
theorem keeps_readInsert (hserves : Serves family self)
    (h : Intact (family self).collection s.store) (data : Document) :
    Keeps (Intact (family self).collection) (fun d _ => newNode.read data = .ok d)
      (Process.ofResult ((family self).readInsert data)) s :=
  .ofResult h fun _ hread => hserves.readInsert ▸ hread

theorem keeps_readUpdate (hserves : Serves family self)
    (h : Intact (family self).collection s.store) (changes : Document) :
    Keeps (Intact (family self).collection) (fun d _ => nodeChanges.read changes = .ok d)
      (Process.ofResult ((family self).readUpdate changes)) s :=
  .ofResult h fun _ hread => hserves.readUpdate ▸ hread

theorem keeps_readKey (h : Intact (family self).collection s.store) (value : Value) :
    Keeps (Intact (family self).collection) (fun _ store => store = s.store)
      (Process.ofResult (Key.ofValue (family self).key value)) s :=
  .ofResult h fun _ _ => rfl

theorem keeps_getStored (h : Intact (family self).collection s.store) (depth : Nat) (key : Key) :
    Keeps (Intact (family self).collection) (fun _ _ => True)
      ((⟨family self, depth⟩ : Handle).getStored session key) s := by
  have hconfined := (⟨family self, depth⟩ : Handle).confined_getStored session none key
  exact (Keeps.still hconfined.isStill h).mono (fun _ hstore => hstore) fun _ _ _ _ => trivial

/-- A call to the store that is about indexes writes no documents. -/
theorem keeps_indexes (h : Intact (family self).collection s.store)
    (session : Option SessionId) (call : Store.Call)
    (hcollection : call.collection = (family self).collection)
    (hsame : ∀ fresh ds, call.rewrite fresh ds = ds) :
    Keeps (Intact (family self).collection) (fun _ _ => True) (ask session call) s := by
  refine keeps_ask h hcollection fun fresh => ?_
  rw [hsame]
  exact h.view session

theorem keeps_of_reads (h : Intact (family self).collection s.store) {call : Service.Call}
    (hreads : call.Reads) (levels depth : Nat) :
    Keeps (Intact (family self).collection) (fun _ _ => True)
      (family.performWithin levels depth session self call) s := by
  have hconfined := family.confined_performWithin_of_reads hreads none levels depth session self
  exact (Keeps.still hconfined.isStill h).mono (fun _ hstore => hstore) fun _ _ _ _ => trivial

/-- Every call to the service keeps the store intact, without a session or on one that is open,
however it ends. -/
theorem keeps_performWithin (hserves : Serves family self)
    (h : Intact (family self).collection s.store) (hopen : ∀ id ∈ session, s.store.IsOpen id)
    (levels depth : Nat) (call : Service.Call) :
    Keeps (Intact (family self).collection) (fun _ _ => True)
      (family.performWithin levels depth session self call) s := by
  have htree := hserves.isTree
  cases levels with
  | zero => exact .of_failed h fun _ hends => by cases hends
  | succ levels =>
    cases call with
    | insert data =>
      refine (keeps_readInsert hserves h data).bind fun d s h hread => ?_
      exact keeps_insertOne hserves h levels depth hread
    | insertMany data =>
      refine .bind (.ofResult (Q := fun ds _ => ∀ d ∈ ds, ∃ data, newNode.read data = .ok d) h ?_)
        fun ds s h hread => keeps_insertMany hserves h levels depth hread
      intro ds hmapped d hd
      obtain ⟨data, -, hread⟩ := mem_of_mapM hmapped hd
      exact ⟨data, hserves.readInsert ▸ hread⟩
    | create data =>
      refine (keeps_readInsert hserves h data).bind fun d s h hread => ?_
      refine (keeps_insertOne hserves h levels depth hread).bind fun key s h _ => ?_
      exact keeps_getStored h depth key
    | updateMany filter changes =>
      refine (keeps_readUpdate hserves h changes).bind fun d s h hread => ?_
      exact keeps_applyUpdate hserves h levels depth hread filter true
    | updateOne filter changes =>
      refine (keeps_readUpdate hserves h changes).bind fun d s h hread => ?_
      exact keeps_applyUpdate hserves h levels depth hread filter false
    | updateById id changes =>
      refine (keeps_readKey h id).bind fun key s h _ => ?_
      refine (keeps_readUpdate hserves h changes).bind fun d s h hread => ?_
      exact keeps_applyUpdate hserves h levels depth hread key.filter false
    | update id changes =>
      refine (keeps_readKey h id).bind fun key s h _ => ?_
      refine (keeps_readUpdate hserves h changes).bind fun d s h hread => ?_
      refine .bind (keeps_applyUpdate hserves h levels depth hread key.filter false) ?_
      intro outcome s h _
      split
      · exact .throw _ h
      · exact keeps_getStored h depth key
    | deleteMany filter => exact keeps_deleteMatching htree h hopen levels depth filter false
    | deleteOne filter => exact keeps_deleteMatching htree h hopen levels depth filter true
    | delete id =>
      -- the key is read before anything is asked, so the session is still open
      refine (keeps_readKey h id).bind fun key s' h hsame => ?_
      exact keeps_deleteMatching htree h (by rwa [hsame]) levels depth key.filter true
    | createIndexes =>
      refine (Keeps.mapM h ?_).mono (fun _ hstore => hstore) fun _ _ _ _ => trivial
      intro entry s h
      exact keeps_indexes h session (.createIndex _ entry.1 entry.2) rfl fun _ _ => rfl
    | createIndex name index =>
      exact keeps_indexes h session (.createIndex _ name index) rfl fun _ _ => rfl
    | dropIndex name => exact keeps_indexes h session (.dropIndex _ name) rfl fun _ _ => rfl
    | dropIndexes => exact keeps_indexes h session (.dropIndexes _) rfl fun _ _ => rfl
    | _ => exact keeps_of_reads h (by trivial) (levels + 1) depth

/-! ## Runs -/

/-- What can happen next: a call to the service, without a session or on one that is open; anything
else to the store and its sessions but a call; or anything to the rest of the state. -/
inductive Step (family : Family) (self : String) : State → State → Prop where
  | call (s : State) (session : Option SessionId) (call : Service.Call)
    (hopen : ∀ id ∈ session, s.store.IsOpen id) :
    Step family self s (ends (family.perform session self call).run s).2
  | event (s : State) (event : Store.Event)
    (hevent : ∀ session issued, event ≠ .call session issued) :
    Step family self s { s with store := s.store.step event }
  | idle (s s' : State) (hsame : s'.store = s.store) : Step family self s s'

theorem Step.intact (hserves : Serves family self) {s s' : State} (h : Step family self s s')
    (hintact : Intact (family self).collection s.store) :
    Intact (family self).collection s'.store := by
  cases h with
  | call session call hopen =>
    exact (keeps_performWithin hserves hintact hopen Family.levels 0 call).kept
  | event event hevent => exact hintact.of_shows (.step s.store hevent)
  | idle _ hsame => exact hsame ▸ hintact

/-- Whatever is done with the service of trees and the sessions of its store, in whatever order and
however it ends, the parents of all nodes stay among the nodes, in the committed documents as in
those of every transaction. -/
theorem intact_of_reachable (hserves : Serves family self) {s s' : State}
    (h : Intact (family self).collection s.store)
    (hrun : Relation.ReflTransGen (Step family self) s s') :
    Intact (family self).collection s'.store := by
  induction hrun with
  | refl => exact h
  | tail _ hstep ih => exact hstep.intact hserves ih

/-- A transaction in which a node is inserted below a leaf, and outside of it the leaf is deleted
with the branch that it is on. -/
def contested : State :=
  let begun := { grown with store := (grown.store.step .openSession).step (.start 1) }
  let inserted := (ends (Catalog.family.perform (some 1) "TreeNodeService"
    (.insert (nodeBelow (some ⟨2⟩) ⟨3⟩))).run begun).2
  (ends (Catalog.family.perform none "TreeNodeService"
    (.deleteMany (Key.filterAll [.objectId ⟨1⟩]))).run inserted).2

theorem intact_grown : Intact "tree_nodes" grown.store := by
  have hparents : ∀ d ∈ grown.store.collections.documents "tree_nodes",
      (d.reference? parent.path).all
        (ids (grown.store.collections.documents "tree_nodes")).contains = true := by
    decide +kernel
  refine ⟨⟨nodes_grown.id, nodes_grown.distinct, ?_⟩, ?_⟩
  · intro d hd
    refine under_iff.mpr ⟨nodes_grown.parent d hd, ?_⟩
    intro id hid
    simpa [hid] using hparents d hd
  · intro id snapshot ht
    cases ht

theorem reachable_contested :
    Relation.ReflTransGen (Step Catalog.family "TreeNodeService") grown contested := by
  refine .tail (.tail (.tail (.tail .refl (.event grown .openSession ?_)) (.event _ (.start 1) ?_))
    (.call _ (some 1) (.insert (nodeBelow (some ⟨2⟩) ⟨3⟩)) ?_)) (.call _ none _ ?_)
  · intro session issued h
    cases h
  · intro session issued h
    cases h
  · intro id hid
    cases hid
    decide +kernel
  · intro id hid
    cases hid

/-- The leaf is gone in one view and has a node below it in the other. -/
theorem intact_of_reachable_contested :
    Serves Catalog.family "TreeNodeService" ∧
    Intact "tree_nodes" grown.store ∧
    Relation.ReflTransGen (Step Catalog.family "TreeNodeService") grown contested ∧
    (contested.store.collections.documents "tree_nodes").length = 1 ∧
    ((contested.store.view (some 1)).documents "tree_nodes").length = 4 ∧
    Intact "tree_nodes" contested.store := by
  have hserves : Serves Catalog.family "TreeNodeService" := ⟨{}, rfl⟩
  exact ⟨hserves, intact_grown, reachable_contested, by decide +kernel, by decide +kernel,
    intact_of_reachable hserves intact_grown reachable_contested⟩

end DocumentStore.Catalog.Tree
