import DocumentStore.Proofs.Process.Invariant
import DocumentStore.Proofs.Service.Confined
import DocumentStore.Proofs.Store.Deletion
import DocumentStore.Proofs.Store.Unmoved

/-!
# Deletions under passive rules

A service with delete rules deletes in another way than one without: it finds the keys of the
documents, and in a transaction deletes by these. If no rule denies the deletion or writes anything,
this makes no difference to the answer or to the documents that any session sees afterwards, except
that a deletion of a single document is refused where there are more.
-/
namespace DocumentStore

open Process

variable {α : Type}

/-! ## Deletions of a single document -/

namespace Collections

variable {cs : Collections} {name : String} {filter : Document} {found : List Document}

/-- A deletion, refused if it is one of a single document and the filter selects more. -/
def deleteUnambiguous (name : String) (filter : Document) (single : Bool) : Writing Nat := do
  let found ← (← get).select name filter
  if single && found.length > 1 then throw (.invalidQuery (.ambiguousDelete found.length name))
  else Collections.delete name filter true

theorem deleteUnambiguous_of_select (h : cs.select name filter = .ok found) (single : Bool) :
    (deleteUnambiguous name filter single).runOn cs
      = if single && found.length > 1 then
          (.error (.invalidQuery (.ambiguousDelete found.length name)), cs)
        else (Collections.delete name filter true).runOn cs := by
  unfold deleteUnambiguous
  simp only [Writing.runOn_bind, Writing.runOn_get, Writing.runOn_liftM, h]
  split <;> rfl

theorem deleteUnambiguous_of_select_error {e : ServiceError} (h : cs.select name filter = .error e)
    (single : Bool) : (deleteUnambiguous name filter single).runOn cs = (.error e, cs) := by
  unfold deleteUnambiguous
  simp only [Writing.runOn_bind, Writing.runOn_get, Writing.runOn_liftM, h]

theorem allOrNothing_deleteUnambiguous (name : String) (filter : Document) (single : Bool) :
    AllOrNothing (deleteUnambiguous name filter single).runOn := by
  intro cs e hfailed
  cases hselect : cs.select name filter with
  | error e => rw [deleteUnambiguous_of_select_error hselect]
  | ok found =>
    rw [deleteUnambiguous_of_select hselect] at hfailed ⊢
    split at hfailed
    · rename_i hrefused
      rw [if_pos hrefused]
    · rename_i hallowed
      rw [if_neg hallowed]
      exact allOrNothing_delete _ _ _ _ e hfailed

/-- Where there is no more than one document, or all are meant, nothing is refused. -/
theorem deleteUnambiguous_eq_delete {single : Bool}
    (h : single = true → ∀ found, cs.select name filter = .ok found → found.length ≤ 1) :
    (deleteUnambiguous name filter single).runOn cs
      = (Collections.delete name filter (!single)).runOn cs := by
  cases hselect : cs.select name filter with
  | error e =>
    rw [deleteUnambiguous_of_select_error hselect, runOn_delete_of_select_error hselect]
  | ok found =>
    rw [deleteUnambiguous_of_select hselect]
    cases single with
    | false => rfl
    | true =>
      have hfound : found.length ≤ 1 := h rfl found hselect
      rw [if_neg (by simpa using hfound)]
      exact (delete_of_single hselect hfound false).symm

end Collections

/-! ## Processes that change nothing -/

/-- Whether a process accepts in whatever state it is run, as long as the state has a certain
deadline or none: it answers without an error, and has not moved the store. -/
def Process.Accepts (deadline : Option Nat) (p : Process (Result Unit)) : Prop :=
  ∀ s, s.deadline = deadline → ∃ s', ends p s = (.ok (.ok ()), s') ∧ s'.deadline = deadline ∧
    s.store.Unmoved s'.store

namespace Process.Accepts

variable {deadline : Option Nat}

theorem pure : Accepts deadline (Pure.pure () : Action Unit).run :=
  fun s hs => ⟨s, rfl, hs, .refl s.store⟩

theorem action {a : Action Unit} {f : Unit → Action Unit} (ha : Accepts deadline a.run)
    (hf : Accepts deadline (f ()).run) : Accepts deadline (a >>= f).run := by
  intro s hs
  obtain ⟨s', hends, hs', hunmoved⟩ := ha s hs
  obtain ⟨s'', hends', hs'', hunmoved'⟩ := hf s' hs'
  refine ⟨s'', ?_, hs'', hunmoved.trans hunmoved'⟩
  rw [ends_run_action, hends]
  exact hends'

theorem wrapping (wrap : ServiceError → ServiceError) {a : Action Unit}
    (h : Accepts deadline a.run) : Accepts deadline (Process.wrapping wrap a).run := by
  intro s hs
  obtain ⟨s', hends, hafter⟩ := h s hs
  refine ⟨s', ?_, hafter⟩
  rw [ends_wrapping, hends]
  rfl

/-- A session can be asked about first. -/
theorem inTransaction {id : SessionId} {f : Bool → Action Unit}
    (h : ∀ inside, Accepts deadline (f inside).run) :
    Accepts deadline ((ExceptT.lift (Process.inTransaction id) : Action Bool) >>= f).run := by
  intro s hs
  obtain ⟨s', hends, hafter⟩ := h (s.store.inTransaction id) s hs
  refine ⟨s', ?_, hafter⟩
  rw [ends_run_action, ends_lift, ends_inTransaction]
  exact hends

theorem forM {β : Type} {items : List β} {f : β → Action Unit}
    (h : ∀ item ∈ items, Accepts deadline (f item).run) : Accepts deadline (items.forM f).run := by
  induction items with
  | nil => exact .pure
  | cons item rest ih =>
    refine .action (h item List.mem_cons_self) ?_
    exact ih fun other hother => h other (List.mem_cons_of_mem _ hother)

end Process.Accepts

/-! ## Transactions around a replaced view -/

namespace Process

variable {id : SessionId}

theorem ends_ask_delete (session : Option SessionId) (collection : String) (filter : Document)
    (many : Bool) (s : State) :
    ends (ask session (.delete collection filter many)).run s =
      let write := s.store.write session (Collections.delete collection filter many).runOn
      (.ok write.1, { s with store := write.2 }) := rfl

/-- An action that replaces the view of its session and nothing else does the same in a
transaction. -/
theorem ends_transact_of_rewritten {action : Action α} {s : State} {value : α}
    {written : Collections} (hopen : s.store.IsOpen id) (hstarts : s.store.failingStarts = 0)
    (hcommits : s.store.failingCommits = 0)
    (haction : ∀ begun : State, begun.deadline = s.deadline →
      begun.store.view (some id) = s.store.view (some id) →
      ∃ ended, ends action.run begun = (.ok (.ok value), ended) ∧
        (begun.store.rewritten (some id) written).Unmoved ended.store)
    (policy : RetryPolicy) :
    ∃ s', ends (transact policy id action).run s = (.ok (.ok value), s') ∧
      (s.store.rewritten (some id) written).Unmoved s'.store := by
  by_cases hjoins : s.store.Joins id
  · obtain ⟨s', hends, hunmoved⟩ := haction s rfl rfl
    exact ⟨s', by rw [ends_transact_of_joins hjoins, hends], hunmoved⟩
  · have hnone : s.store.inTransaction id = false := by
      simpa using fun hin => hjoins (.inl hin)
    have hsupported : s.store.transactional = true := by
      simpa using fun hunsupported => hjoins (.inr hunsupported)
    have hfree : s.store.Free (some id) := by
      intro other hother
      obtain rfl := Option.some.inj hother
      exact ⟨hopen, hnone⟩
    have hview : (begun id s).store.view (some id) = s.store.view (some id) := by
      rw [Store.view_of_transaction? (transaction?_begun hopen), Store.view_of_free hfree]
    obtain ⟨ended, hends, hunmoved⟩ := haction (begun id s) rfl hview
    obtain ⟨hcommit, hcommitted⟩ := Store.commit_of_rewritten hfree hcommits hunmoved
    -- the commit has closed the transaction, so there is nothing left to abort
    have hclosed : (ended.store.commit id).2.transaction? id = none := by
      rw [hcommitted.transactions, Store.rewritten_outside hfree.bind_transaction?]
      exact Store.inTransaction_eq_false.mp hnone
    refine ⟨{ ended with store := (ended.store.commit id).2 }, ?_, hcommitted⟩
    rw [ends_transact_of_commit hsupported hnone hstarts hends hcommit,
      Store.abort_of_free hclosed]

end Process

/-! ## Passive rules -/

/-- Whether delete rules that are handed services of a depth accept every deletion and write
nothing. -/
def Rules.Passive (rules : Rules) (answerer : Answerer) (depth : Nat) (deadline : Option Nat) :
    Prop :=
  ∀ rule ∈ rules.deleteRules, ∀ keys inside id, Process.Accepts deadline
    ((rule.hook ⟨keys, depth, inside⟩).run (answerer depth (some id)))

namespace Rules.Passive

variable {answerer : Answerer} {depth : Nat} {deadline : Option Nat}

theorem empty : Passive {} answerer depth deadline := fun _ hrule => nomatch hrule

theorem deleteRule {rules : Rules} (h : rules.Passive answerer depth deadline) (name : String)
    (phase : DeletePhase) {hook : Deletion → Program Unit}
    (hhook : ∀ keys inside id, Process.Accepts deadline
      ((hook ⟨keys, depth, inside⟩).run (answerer depth (some id)))) :
    Passive (rules.deleteRule name phase hook) answerer depth deadline := by
  intro rule hrule
  obtain hrule | rfl := Rule.mem_register hrule
  · exact h rule hrule
  · exact hhook

end Rules.Passive

namespace Handle

variable {h : Handle} {answerer : Answerer} {id : SessionId} {s : State}

theorem accepts_runDeleteRules {deadline : Option Nat}
    (hpassive : h.service.rules.Passive answerer (h.depth + 1) deadline)
    (id : SessionId) (keys : List Key) (phase : DeletePhase)
    (wrap : String → ServiceError → ServiceError) :
    Accepts deadline (h.deeper.runDeleteRules answerer id keys phase wrap).run := by
  unfold runDeleteRules
  refine .forM fun rule hrule => ?_
  refine .inTransaction fun inside => .wrapping _ ?_
  exact hpassive rule (List.mem_filter.mp hrule).1 keys inside id

/-- Between passive rules the documents of keys are deleted. -/
theorem ends_deleteKeys_of_passive
    (hpassive : h.service.rules.Passive answerer (h.depth + 1) s.deadline) {keys : List Key}
    {count : Nat} {written : Collections}
    (hdelete : (Collections.delete h.service.collection (Key.filterAll keys) true).runOn
      (s.store.view (some id)) = (.ok count, written)) :
    ∃ s', ends (h.deeper.deleteKeys answerer id keys).run s = (.ok (.ok count), s') ∧
      (s.store.rewritten (some id) written).Unmoved s'.store := by
  obtain ⟨before, hbefore, hdeadline, hunmoved⟩ :=
    accepts_runDeleteRules hpassive id keys .pre .deleteRuleFailed s rfl
  have hasked : ends (ask (some id)
      (.delete h.deeper.service.collection (Key.filterAll keys) true)).run before
      = (.ok (.ok count), { before with store := before.store.rewritten (some id) written }) := by
    have hview : before.store.view (some id) = s.store.view (some id) := hunmoved.view (some id)
    rw [← hview] at hdelete
    rw [ends_ask_delete, deeper, Store.write_of_ok hdelete]
  obtain ⟨after, hafter, -, hunmoved'⟩ :=
    accepts_runDeleteRules hpassive id keys .post .deleteRuleFailed
      { before with store := before.store.rewritten (some id) written } hdeadline
  refine ⟨after, ?_, (hunmoved.rewritten (some id) written).trans hunmoved'⟩
  unfold deleteKeys
  rw [ends_run_action, hbefore]
  simp only
  rw [ends_run_action, hasked]
  simp only
  rw [ends_run_action, hafter]
  rfl

/-! ## Deletions on a session -/

/-- What a deletion does with the keys that it has found. -/
theorem ends_deleteOnSession_of_findIds {filter : Document} {keys : List Key}
    (hkeys : ends (h.findIds (some id) filter).run s = (.ok (.ok keys), s))
    (hdepth : h.depth < h.service.config.maxCascadeDepth.toNat) (single : Bool) :
    ends (h.deleteOnSession answerer id filter single).run s =
      if keys.isEmpty then (.ok (.ok 0), s)
      else if single && keys.length > 1 then
        (.ok (.error (.invalidQuery (.ambiguousDelete keys.length h.service.collection))), s)
      else ends (do
        h.deeper.runDeleteRules answerer id keys .deny .deleteDenied
        transact h.service.config.retry id (h.deeper.deleteKeys answerer id keys)).run s := by
  unfold deleteOnSession
  rw [ends_run_action, hkeys]
  simp only [if_neg (Nat.not_le_of_lt hdepth)]
  split
  · rfl
  · split
    · rfl
    · rfl

section

variable (hpassive : h.service.rules.Passive answerer (h.depth + 1) s.deadline)
  (hdepth : h.depth < h.service.config.maxCascadeDepth.toNat)
  (hstarts : s.store.failingStarts = 0) (hcommits : s.store.failingCommits = 0)

include hpassive hstarts hcommits

/-- The documents of keys that were found are deleted. -/
theorem ends_removal_of_passive (hopen : s.store.IsOpen id) {keys : List Key} {count : Nat}
    {written : Collections}
    (hdelete : (Collections.delete h.service.collection (Key.filterAll keys) true).runOn
      (s.store.view (some id)) = (.ok count, written)) :
    ∃ s', ends (do
        h.deeper.runDeleteRules answerer id keys .deny .deleteDenied
        transact h.service.config.retry id (h.deeper.deleteKeys answerer id keys)).run s
      = (.ok (.ok count), s') ∧ (s.store.rewritten (some id) written).Unmoved s'.store := by
  obtain ⟨allowed, hallowed, hdeadline, hunmoved⟩ :=
    accepts_runDeleteRules hpassive id keys .deny .deleteDenied s rfl
  have hdeleted := ends_transact_of_rewritten (hunmoved.isOpen id hopen)
    (hunmoved.failingStarts.trans hstarts) (hunmoved.failingCommits.trans hcommits)
    (fun begun hbegun hview => ends_deleteKeys_of_passive
      (by rwa [hbegun, hdeadline]) (by rwa [hview, hunmoved.view])) h.service.config.retry
  obtain ⟨s', hends, hunmoved'⟩ := hdeleted
  refine ⟨s', ?_, (hunmoved.rewritten (some id) written).trans hunmoved'⟩
  rw [ends_run_action, hallowed]
  exact hends

include hdepth

/-- On a session, a deletion under passive rules is one that is refused where it is ambiguous. -/
theorem ends_deleteOnSession_of_passive (hkey : h.service.key = .objectId)
    (hopen : s.store.IsOpen id)
    (hids : ObjectIds ((s.store.view (some id)).documents h.service.collection))
    (filter : Document) (single : Bool) :
    let write := s.store.write (some id)
      (Collections.deleteUnambiguous h.service.collection filter single).runOn
    ∃ s', ends (h.deleteOnSession answerer id filter single).run s = (.ok write.1, s') ∧
      write.2.SameViews s'.store := by
  simp only [Store.write_of_allOrNothing (Collections.allOrNothing_deleteUnambiguous _ _ _)]
  cases hselect : (s.store.view (some id)).select h.service.collection filter with
  | error e =>
    rw [Collections.deleteUnambiguous_of_select_error hselect]
    unfold deleteOnSession
    rw [ends_run_action, ends_findIds_eq, hselect]
    exact ⟨s, rfl, .refl s.store⟩
  | ok found =>
    have hfound : ObjectIds found := hids.sublist (Collections.select_sublist hselect)
    have hkeys : ends (h.findIds (some id) filter).run s = (.ok (.ok (ObjectIds.keys found)), s) :=
      ends_findIds hkey hselect hfound.id
    rw [Collections.deleteUnambiguous_of_select hselect,
      ends_deleteOnSession_of_findIds hkeys hdepth, hfound.length_keys]
    cases found with
    | nil =>
      have hambiguous : ¬ (single && ([] : List Document).length > 1) = true := by simp
      rw [if_neg hambiguous, if_neg hambiguous, Collections.delete_of_none hselect true]
      exact ⟨s, rfl, (Store.SameViews.rewritten s.store (some id)).symm⟩
    | cons d rest =>
      -- with something found, the deletion is refused as ambiguous or made by key
      have hsome : ¬ (ObjectIds.keys (d :: rest)).isEmpty = true := by
        rw [List.isEmpty_iff_length_eq_zero, hfound.length_keys]
        exact nofun
      rw [if_neg hsome]
      split
      · exact ⟨s, rfl, .refl s.store⟩
      · have hdelete := Collections.runOn_delete_of_select hselect true
        have hdelete' := (Collections.delete_keys hids hselect).trans hdelete
        obtain ⟨s', hends, hunmoved⟩ :=
          ends_removal_of_passive hpassive hstarts hcommits hopen hdelete'
        rw [hdelete]
        exact ⟨s', hends, hunmoved.toSameViews⟩

/-- So it is without a session. -/
theorem ends_deleteMatching_of_passive (hkey : h.service.key = .objectId)
    (hrules : h.service.rules.hasDeleteRules = true) {session : Option SessionId}
    (hopen : ∀ id ∈ session, s.store.IsOpen id)
    (hids : ObjectIds ((s.store.view session).documents h.service.collection))
    (filter : Document) (single : Bool) :
    let write := s.store.write session
      (Collections.deleteUnambiguous h.service.collection filter single).runOn
    ∃ s', ends (h.deleteMatching answerer session filter single).run s = (.ok write.1, s') ∧
      write.2.SameViews s'.store := by
  unfold deleteMatching
  rw [if_pos hrules, ExceptT.run_mk]
  cases session with
  | some id =>
    exact ends_deleteOnSession_of_passive hpassive hdepth hstarts hcommits hkey (hopen id rfl) hids
      filter single
  | none =>
    let opened : State := { s with store := s.store.openSession.2 }
    have hview : opened.store.view (some s.store.openSession.1) = s.store.view none :=
      Store.view_of_free s.store.free_openSession
    obtain ⟨s', hends, hsame⟩ := ends_deleteOnSession_of_passive (s := opened) hpassive hdepth
      hstarts hcommits hkey s.store.isOpen_openSession (by rwa [hview]) filter single
    obtain ⟨hresult, hdropped⟩ := Store.write_openSession
      (Collections.allOrNothing_deleteUnambiguous h.service.collection filter single) s.store
    rw [usingSession_none, ends_withSession, hends]
    refine ⟨_, congrArg₂ _ (congrArg _ hresult) rfl, hdropped s'.store hsame⟩

end

end Handle

/-! ## Agreement with deletions without rules -/

/-- Whether two ends are answered the same and leave the same documents to every session. -/
structure Process.Agree (ended ended' : Except Stop (Result α) × State) : Prop where
  answer : ended.1 = ended'.1
  view : ∀ viewer, ended.2.store.view viewer = ended'.2.store.view viewer

namespace Handle

variable {h : Handle} {answerer : Answerer} {s : State}

/-- Under passive rules all documents that meet a filter are deleted as they are without rules. So
is a single one, but where the filter selects more than one the deletion is refused. -/
theorem passive_deletion_agrees (hkey : h.service.key = .objectId)
    (hrules : h.service.rules.hasDeleteRules = true)
    (hpassive : h.service.rules.Passive answerer (h.depth + 1) s.deadline)
    (hdepth : h.depth < h.service.config.maxCascadeDepth.toNat)
    (hstarts : s.store.failingStarts = 0) (hcommits : s.store.failingCommits = 0)
    {session : Option SessionId} (hopen : ∀ id ∈ session, s.store.IsOpen id)
    (hids : ObjectIds ((s.store.view session).documents h.service.collection))
    (filter : Document) :
    let plain (many : Bool) := ends (ask session (.delete h.service.collection filter many)).run s
    let all := ends (h.answer answerer session (.deleteMany filter)).run s
    let one := ends (h.answer answerer session (.deleteOne filter)).run s
    let selected := (s.store.view session).select h.service.collection filter
    Agree all (plain true) ∧
    ((∀ found, selected = .ok found → found.length ≤ 1) → Agree one (plain false)) ∧
    ∀ found, selected = .ok found → 1 < found.length →
      one.1 = .ok (.error (.invalidQuery (.ambiguousDelete found.length h.service.collection))) ∧
      ∀ viewer, one.2.store.view viewer = s.store.view viewer := by
  have hdeletion (single : Bool) := ends_deleteMatching_of_passive hpassive hdepth hstarts hcommits
    hkey hrules hopen hids filter single
  -- a deletion that is not refused is one without rules
  have hagree (single : Bool) (hunambiguous : single = true → ∀ found,
        (s.store.view session).select h.service.collection filter = .ok found →
          found.length ≤ 1) :
      Agree (ends (h.deleteMatching answerer session filter single).run s)
        (ends (ask session (.delete h.service.collection filter (!single))).run s) := by
    obtain ⟨s', hends, hsame⟩ := hdeletion single
    simp only [Store.write_of_allOrNothing (Collections.allOrNothing_deleteUnambiguous _ _ _),
      Collections.deleteUnambiguous_eq_delete hunambiguous] at hends hsame
    rw [hends, ends_ask_delete,
      Store.write_of_allOrNothing (Collections.allOrNothing_delete _ _ _)]
    exact ⟨rfl, hsame.view⟩
  refine ⟨hagree false nofun, fun hsingle => hagree true fun _ => hsingle, ?_⟩
  intro found hfound hmany
  obtain ⟨s', hends, hsame⟩ := hdeletion true
  have hrefused : (Collections.deleteUnambiguous h.service.collection filter true).runOn
        (s.store.view session)
      = (.error (.invalidQuery (.ambiguousDelete found.length h.service.collection)),
          s.store.view session) := by
    rw [Collections.deleteUnambiguous_of_select hfound, if_pos (by simpa using hmany)]
  simp only [Store.write_of_allOrNothing (Collections.allOrNothing_deleteUnambiguous _ _ _),
    hrefused] at hends hsame
  change (ends (h.deleteMatching answerer session filter true).run s).1 = _ ∧
    ∀ viewer, (ends (h.deleteMatching answerer session filter true).run s).2.store.view viewer = _
  rw [hends]
  exact ⟨rfl, hsame.view⟩

end Handle

/-- A service that takes note of its deletions. -/
def noted : Service where
  name := "Noted"
  collection := "c"
  key := .objectId
  rules := (({} : Rules)
    |>.deleteRule "note" .deny (fun d =>
      Program.record (.deletion "Noted" "note" d.ids d.depth d.inTransaction))
    |>.deleteRule "tally" .post fun _ => do
      let _ ← Program.request (.tick "deletions"))

theorem passive_noted (levels depth : Nat) (deadline : Option Nat) :
    noted.rules.Passive (Answerer.of (Family.performWithin (fun _ => noted) levels)) depth
      deadline := by
  refine .deleteRule (.deleteRule .empty _ _ ?_) _ _ ?_
  · intro keys inside id s hs
    exact ⟨_, rfl, hs, .refl s.store⟩
  · intro keys inside id s hs
    exact ⟨_, rfl, hs, .refl s.store⟩

/-- A store with three documents, two of which are marked. -/
def threeDocuments : State where
  store := { collections := [("c", [
    [(idField, .objectId ⟨1⟩), ("marked", .boolean true)],
    [(idField, .objectId ⟨2⟩)],
    [(idField, .objectId ⟨3⟩), ("marked", .boolean true)]])] }

theorem objectIds_threeDocuments :
    ObjectIds ((threeDocuments.store.view none).documents "c") := by
  refine ⟨fun d hd => ?_, by decide +kernel⟩
  have hcases : d ∈ [_, _, _] := hd
  simp only [List.mem_cons, List.not_mem_nil, or_false] at hcases
  obtain rfl | rfl | rfl := hcases <;> exact ⟨_, rfl⟩

/-- The marked documents are deleted together, and none of them as a single one. -/
theorem Handle.passive_deletion_agrees_noted :
    let h : Handle := ⟨noted, 0⟩
    let answerer := Answerer.of (Family.performWithin (fun _ => noted) 1)
    let filter : Document := [("marked", .boolean true)]
    let plain (many : Bool) :=
      ends (ask none (.delete h.service.collection filter many)).run threeDocuments
    let all := ends (h.answer answerer none (.deleteMany filter)).run threeDocuments
    let one := ends (h.answer answerer none (.deleteOne filter)).run threeDocuments
    let selected := (threeDocuments.store.view none).select h.service.collection filter
    h.service.key = .objectId ∧ h.service.rules.hasDeleteRules = true ∧
    h.depth < h.service.config.maxCascadeDepth.toNat ∧
    all.1.toOption.bind (·.toOption) = some 2 ∧
    Agree all (plain true) ∧
    ((∀ found, selected = .ok found → found.length ≤ 1) → Agree one (plain false)) ∧
    ∀ found, selected = .ok found → 1 < found.length →
      one.1 = .ok (.error (.invalidQuery (.ambiguousDelete found.length h.service.collection))) ∧
      ∀ viewer, one.2.store.view viewer = threeDocuments.store.view viewer :=
  ⟨rfl, rfl, by decide, by decide +kernel,
    Handle.passive_deletion_agrees rfl rfl (passive_noted 1 1 none) (by decide) rfl rfl (by simp)
      objectIds_threeDocuments _⟩

end DocumentStore
