import DocumentStore.Catalog
import DocumentStore.Proofs.Catalog.Levels
import DocumentStore.Proofs.Process.Transactions
import DocumentStore.Proofs.Service.Run

/-!
# Cascading deletions

Deleting nodes deletes the nodes below them, one level inside of the other, all in one
transaction. On the way down nothing is deleted yet, so every level is found among all nodes. If
the limit is met before a level is empty everything is undone, as it is on any cycle.
-/
namespace DocumentStore.Catalog.Tree

open Process

/-! ## Services of trees -/

/-- Whether a name of a family stands for a service with the rules of trees. -/
structure IsTree (family : Family) (name : String) : Prop where
  key : (family name).key = .objectId
  rules : (family name).rules = Tree.rules name

/-- How many deletions of a service may be nested. -/
abbrev limitOf (service : Service) : Nat := service.config.maxCascadeDepth.toNat

variable {family : Family} {self : String} {id : SessionId} {s : State} {ds : List Document}

namespace IsTree

theorem deleteRulesIn_deny (h : IsTree family self) :
    (family self).rules.deleteRulesIn .deny = [⟨"deny_root", .deny, denyRoot self⟩] := by
  rw [h.rules]
  rfl

theorem deleteRulesIn_pre (h : IsTree family self) :
    (family self).rules.deleteRulesIn .pre
      = [⟨"delete_children", .pre, deleteChildren self⟩] := by
  rw [h.rules]
  rfl

theorem deleteRulesIn_post (h : IsTree family self) :
    (family self).rules.deleteRulesIn .post = [] := by
  rw [h.rules]
  rfl

theorem hasDeleteRules (h : IsTree family self) :
    (family self).rules.hasDeleteRules = true := by
  rw [h.rules]
  rfl

end IsTree

/-! ## The rules -/

/-- The refusal of the rule that keeps roots. -/
def rootRefusal : ServiceError := .rejected "root nodes cannot be deleted"

/-- The check passes unless a root is among the nodes. -/
theorem ends_denyRoot (h : Nodes ds)
    (hds : (s.store.view (some id)).documents (family self).collection = ds)
    (found : List ObjectId) {levels : Nat} (hlevels : 0 < levels) (depth : Nat) (inside : Bool) :
    ends ((denyRoot self ⟨found.map .objectId, depth, inside⟩).run
        (Answerer.of (family.performWithin levels) depth (some id)) : Process (Result Unit)) s
      = (.ok (if ∃ d ∈ ds, isAmong found d && isRoot d then .error rootRefusal else .ok ()),
        s) := by
  have hcount : ends (Answerer.of (family.performWithin levels) depth (some id)
      (.call self false (.count (rootsAmong found)))).run s
      = (.ok (.ok (ds.filter fun d => isAmong found d && isRoot d).length), s) := by
    obtain ⟨levels, rfl⟩ := Nat.exists_eq_add_of_lt hlevels
    subst hds
    exact ends_ask_count (some id) (family self).collection (decides_roots h found)
  unfold denyRoot
  rw [Program.ends_lift_bind, among_keys]
  simp only
  rw [Program.ends_bind, Program.call, Program.ends_request, hcount]
  simp only [gt_iff_lt, List.length_filter_pos_iff]
  split
  · rfl
  · rfl

/-- The nodes below are deleted by a call to the service itself. -/
theorem ends_deleteChildren (found : List ObjectId) (levels depth : Nat) (inside : Bool) :
    ends ((deleteChildren self ⟨found.map .objectId, depth, inside⟩).run
        (Answerer.of (family.performWithin levels) depth (some id)) : Process (Result Unit)) s
      = let r := ends (family.performWithin levels depth (some id) self
          (.deleteMany (Key.filterIn parent.path (found.map .objectId)))).run s
        (r.1.map (Except.map fun _ => ()), r.2) := by
  unfold deleteChildren
  rw [Program.ends_lift_bind, childrenOf_keys]
  simp only
  rw [Program.ends_bind, Program.call, Program.ends_request]
  have hcall : ends (Answerer.of (family.performWithin levels) depth (some id)
      (.call self false (.deleteMany (Key.filterIn parent.path (found.map .objectId))))).run s
      = ends (family.performWithin levels depth (some id) self
        (.deleteMany (Key.filterIn parent.path (found.map .objectId)))).run s := rfl
  rw [hcall]
  cases ends (family.performWithin levels depth (some id) self
      (.deleteMany (Key.filterIn parent.path (found.map .objectId)))).run s with
  | mk result s' =>
    match result with
    | .error stop => rfl
    | .ok (.error e) => rfl
    | .ok (.ok value) => rfl

/-! ## One deletion -/

/-- A deletion of nodes on a session ends at once if there are none, if the limit is met or if a
root is among them. Otherwise it goes on in a transaction. -/
theorem ends_deleteOnSession (htree : IsTree family self) (h : Nodes ds)
    (hds : (s.store.view (some id)).documents (family self).collection = ds)
    {filter : Document} {found : List Document}
    (hfound : (s.store.view (some id)).select (family self).collection filter = .ok found)
    {levels depth : Nat} (hlevels : depth < limitOf (family self) → 0 < levels) :
    let handle : Handle := ⟨family self, depth⟩
    let answerer := Answerer.of (family.performWithin levels)
    ends (handle.deleteOnSession answerer id filter false).run s
      = if ids found = [] then (.ok (.ok 0), s)
        else if limitOf (family self) ≤ depth then
          (.ok (.error (.cascadeTooDeep (family self).collection (limitOf (family self)))), s)
        else if ∃ d ∈ found, isRoot d then
          (.ok (.error (.deleteDenied ((family self).name ++ "." ++ "deny_root") rootRefusal)), s)
        else ends (transact (family self).config.retry id
          (handle.deeper.deleteKeys answerer id ((ids found).map .objectId))).run s := by
  have hsub : found.Sublist ds := hds ▸ Collections.select_sublist hfound
  intro handle answerer
  have hkeys : ends (handle.findIds (some id) filter).run s
      = (.ok (.ok ((ids found).map .objectId)), s) :=
    Handle.ends_findIds htree.key hfound (h.sublist hsub).id
  unfold Handle.deleteOnSession
  rw [ends_run_action, hkeys]
  simp only [List.isEmpty_map, List.isEmpty_iff, Bool.false_and, Bool.false_eq_true, if_false]
  by_cases hnone : ids found = []
  · rw [if_pos hnone, if_pos hnone]
    rfl
  rw [if_neg hnone, if_neg hnone]
  by_cases hlimit : limitOf (family self) ≤ depth
  · rw [if_pos hlimit, if_pos (by exact hlimit)]
    rfl
  -- the rule that denies is asked one level deeper, but before there is a transaction
  have hrun : ends ((denyRoot self ⟨(ids found).map .objectId, handle.deeper.depth,
        s.store.inTransaction id⟩).run (answerer handle.deeper.depth (some id)) :
          Process (Result Unit)) s = _ :=
    ends_denyRoot h hds (ids found) (hlevels (Nat.lt_of_not_le hlimit)) (depth + 1) _
  have hdenied := Handle.ends_runDeleteRules_single (h := handle.deeper) htree.deleteRulesIn_deny
    .deleteDenied hrun
  rw [if_neg hlimit, if_neg (by exact hlimit), ends_run_action, hdenied]
  by_cases hroot : ∃ d ∈ found, isRoot d
  · simp only [exists_root_iff h hsub, if_pos hroot]
    rfl
  · simp only [exists_root_iff h hsub, if_neg hroot]
    rfl

/-- A call for deletion on a session is one on a handle, whose rules have a level less. -/
theorem ends_deleteMany_some (htree : IsTree family self) (levels depth : Nat) (filter : Document) :
    ends (family.performWithin (levels + 1) depth (some id) self (.deleteMany filter)).run s
      = ends ((⟨family self, depth⟩ : Handle).deleteOnSession
          (Answerer.of (family.performWithin levels)) id filter false).run s := by
  unfold Family.performWithin
  simp only [Handle.answer, Handle.deleteMatching, htree.hasDeleteRules, if_true]
  rfl

theorem ends_deleteMany_none (htree : IsTree family self) (levels depth : Nat) (filter : Document) :
    ends (family.performWithin (levels + 1) depth none self (.deleteMany filter)).run s
      = ends (withSession fun id => ((⟨family self, depth⟩ : Handle).deleteOnSession
          (Answerer.of (family.performWithin levels)) id filter false).run) s := by
  unfold Family.performWithin
  simp only [Handle.answer, Handle.deleteMatching, htree.hasDeleteRules, if_true]
  rfl

/-- Nodes below others have a parent, so their deletion is not denied, and in a transaction it
goes on in the same. -/
theorem ends_deleteMany_below (htree : IsTree family self) (h : Nodes ds)
    (hds : (s.store.view (some id)).documents (family self).collection = ds)
    (hin : s.store.inTransaction id = true) (above : List ObjectId) {levels depth : Nat}
    (hlevels : depth < limitOf (family self) → 0 < levels) :
    ends (family.performWithin (levels + 1) depth (some id) self
        (.deleteMany (Key.filterIn parent.path (above.map .objectId)))).run s
      = if below ds above = [] then (.ok (.ok 0), s)
        else if limitOf (family self) ≤ depth then
          (.ok (.error (.cascadeTooDeep (family self).collection (limitOf (family self)))), s)
        else ends ((⟨family self, depth + 1⟩ : Handle).deleteKeys
          (Answerer.of (family.performWithin levels)) id
          ((below ds above).map .objectId)).run s := by
  have hfound := hds ▸ Collections.select_of_decides (hds ▸ decides_children h above)
  have hroot : ¬ ∃ d ∈ ds.filter (isBelow above), isRoot d := by
    rintro ⟨d, hd, hroot⟩
    rw [isRoot_of_isBelow (List.mem_filter.mp hd).2] at hroot
    cases hroot
  rw [ends_deleteMany_some htree, ends_deleteOnSession htree h hds hfound hlevels,
    if_neg hroot, ends_transact_of_open hin, ids_filter_isBelow]
  rfl

/-! ## Levels in a transaction -/

/-- Whether an end of a process on a transaction is that of a deletion of nodes with a number of
levels left. If the last of these is empty, the nodes of all of them are gone and nothing else is;
otherwise the deletion has come too deep. -/
def Cascades (service : Service) (ds : List Document) (found : List ObjectId) (levels : Nat)
    (id : SessionId) (s : State) : Except Stop (Result Nat) × State → Prop
  | (result, ended) =>
    s.store.Within id ended.store ∧
      if level ds found levels = [] then
        (∃ count, result = .ok (.ok count)) ∧
          ∀ name, (ended.store.view (some id)).documents name
            = if name = service.collection then ds.filter (!isReached ds found levels ·)
              else (s.store.view (some id)).documents name
      else ∃ e, result = .ok (.error e) ∧
        e.rootCause = .cascadeTooDeep service.collection (limitOf service)

namespace Cascades

/-- Nothing is there to be deleted. -/
theorem none {service : Service}
    (hds : (s.store.view (some id)).documents service.collection = ds) (levels : Nat) :
    Cascades service ds [] levels id s (.ok (.ok 0), s) := by
  refine ⟨.refl id s.store, ?_⟩
  rw [if_pos (level_nil ds levels)]
  refine ⟨⟨0, rfl⟩, fun name => ?_⟩
  split
  · rename_i hname
    simp [hname, hds]
  · rfl

/-- Where the levels below some nodes are deleted by the rule before, the nodes are deleted after
them. -/
theorem deleteKeys (htree : IsTree family self) (h : Nodes ds)
    (hin : s.store.inTransaction id = true) {found : List ObjectId} {levels depth left : Nat}
    (hbelow : Cascades (family self) ds (below ds found) left id s
      (ends (family.performWithin levels depth (some id) self
        (.deleteMany (Key.filterIn parent.path (found.map .objectId)))).run s)) :
    Cascades (family self) ds found (left + 1) id s
      (ends ((⟨family self, depth⟩ : Handle).deleteKeys (Answerer.of (family.performWithin levels))
        id (found.map .objectId)).run s) := by
  have hrun : ends ((deleteChildren self ⟨found.map .objectId, depth, s.store.inTransaction id⟩).run
      (Answerer.of (family.performWithin levels) depth (some id)) : Process (Result Unit)) s = _ :=
    ends_deleteChildren found levels depth _
  let handle : Handle := ⟨family self, depth⟩
  cases hcall : ends (family.performWithin levels depth (some id) self
      (.deleteMany (Key.filterIn parent.path (found.map .objectId)))).run s with
  | mk result s' =>
    rw [hcall] at hbelow hrun
    obtain ⟨hwithin, hbelow⟩ := hbelow
    rw [level_below] at hbelow
    unfold Handle.deleteKeys
    rw [ends_run_action]
    by_cases hlast : level ds found (left + 1) = []
    · rw [if_pos hlast] at hbelow
      obtain ⟨⟨count, rfl⟩, hleft⟩ := hbelow
      -- the deletion finds what the levels below have left
      have hkept : (s'.store.view (some id)).documents (family self).collection
          = ds.filter (!isReached ds (below ds found) left ·) := by
        rw [hleft, if_pos rfl]
      obtain ⟨deleted, s'', hdelete, hwithin', hdocuments⟩ :=
        ends_ask_delete_inside (hwithin.inTransaction hin)
          (hkept ▸ decides_keys (h.sublist List.filter_sublist) found)
      rw [Handle.ends_runDeleteRules_single (h := handle) htree.deleteRulesIn_pre
        .deleteRuleFailed hrun]
      simp only [Except.map, Except.mapError]
      rw [ends_run_action, hdelete]
      simp only
      rw [ends_run_action, Handle.ends_runDeleteRules_nil (h := handle) htree.deleteRulesIn_post]
      refine ⟨hwithin.trans hwithin', ?_⟩
      rw [if_pos hlast]
      refine ⟨⟨deleted, rfl⟩, fun name => ?_⟩
      rw [hdocuments, hkept, hleft]
      split
      · rw [List.filter_filter]
        refine List.filter_congr fun d _ => ?_
        rw [isReached_succ, Bool.not_or]
      · rfl
    · rw [if_neg hlast] at hbelow
      obtain ⟨e, rfl, hcause⟩ := hbelow
      rw [Handle.ends_runDeleteRules_single (h := handle) htree.deleteRulesIn_pre
        .deleteRuleFailed hrun]
      refine ⟨hwithin, ?_⟩
      rw [if_neg hlast]
      -- the wrapper of the rule does not hide the cause
      exact ⟨_, rfl, hcause⟩

end Cascades

/-- A deletion of the nodes below others on a transaction, at any depth. -/
theorem cascades_below (htree : IsTree family self) (h : Nodes ds)
    (hds : (s.store.view (some id)).documents (family self).collection = ds)
    (hin : s.store.inTransaction id = true) (above : List ObjectId) (left : Nat)
    {levels depth : Nat} (hdepth : depth + left = limitOf (family self)) (hlevels : left ≤ levels) :
    Cascades (family self) ds (below ds above) left id s
      (ends (family.performWithin (levels + 1) depth (some id) self
        (.deleteMany (Key.filterIn parent.path (above.map .objectId)))).run s) := by
  -- every level is found in the same state, so only the nodes and the depth change on the way
  induction left generalizing above levels depth with
  | zero =>
    have hlimit : limitOf (family self) ≤ depth := Nat.le_of_eq hdepth.symm
    rw [ends_deleteMany_below htree h hds hin above fun hdeeper => by omega]
    by_cases hnone : below ds above = []
    · rw [if_pos hnone, hnone]
      exact .none hds 0
    · rw [if_neg hnone, if_pos hlimit]
      refine ⟨.refl id s.store, ?_⟩
      rw [level, if_neg hnone]
      exact ⟨_, rfl, rfl⟩
  | succ left ih =>
    obtain ⟨levels, rfl⟩ := Nat.exists_eq_add_one.mpr (Nat.zero_lt_of_lt hlevels)
    have hlimit : ¬ limitOf (family self) ≤ depth := by omega
    have hdeeper : depth + 1 + left = limitOf (family self) := by omega
    rw [ends_deleteMany_below htree h hds hin above fun _ => Nat.succ_pos levels]
    by_cases hnone : below ds above = []
    · rw [if_pos hnone, hnone]
      exact .none hds (left + 1)
    · rw [if_neg hnone, if_neg hlimit]
      exact .deleteKeys htree h hin (ih (below ds above) hdeeper (Nat.le_of_succ_le_succ hlevels))

/-! ## Whole deletions -/

/-- Coming too deep is final. -/
theorem not_isTransient_of_cascadeTooDeep {e : ServiceError} {collection : String} {limit : Nat}
    (h : e.rootCause = .cascadeTooDeep collection limit) : e.isTransient = false := by
  induction e with
  | validationFailed name source ih => exact ih h
  | deleteDenied name source ih => exact ih h
  | deleteRuleFailed name source ih => exact ih h
  | transientTransaction => cases h
  | _ => rfl

/-- What becomes of the nodes that a filter matched and of the levels below them when they are
deleted. The nodes that were matched are on the first level. -/
structure Outcome (service : Service) (before : Collections) (matched : List Document)
    (result : Result Nat) (after : Collections) : Prop where
  /-- A root is not deleted. -/
  denied : (∃ d ∈ matched, isRoot d) →
    (∃ rule source, result = .error (.deleteDenied rule source)) ∧ after = before
  /-- If no node is below as many levels as the limit allows, the nodes of these levels are removed,
  and no others. -/
  removed : (∀ d ∈ matched, isRoot d = false) →
    level (before.documents service.collection) (ids matched) (limitOf service) = [] →
    (∃ count, result = .ok count) ∧ ∀ name, after.documents name =
      if name = service.collection then
        (before.documents name).filter
          (!isReached (before.documents name) (ids matched) (limitOf service) ·)
      else before.documents name
  /-- If there are such nodes, nothing is removed. -/
  tooDeep : (∀ d ∈ matched, isRoot d = false) →
    level (before.documents service.collection) (ids matched) (limitOf service) ≠ [] →
    (∃ e, result = .error e ∧
      e.rootCause = .cascadeTooDeep service.collection (limitOf service)) ∧ after = before

namespace Outcome

variable {service : Service} {before : Collections}

/-- Nothing was matched. -/
theorem none (service : Service) (before : Collections) :
    Outcome service before [] (.ok 0) before := by
  refine ⟨fun ⟨d, hd, _⟩ => absurd hd List.not_mem_nil, fun _ _ => ⟨⟨0, rfl⟩, fun name => ?_⟩,
    fun _ hdeep => absurd (level_nil _ _) hdeep⟩
  split
  · simp [ids]
  · rfl

theorem of_root {matched : List Document} (hroot : ∃ d ∈ matched, isRoot d) (rule : String)
    (source : ServiceError) :
    Outcome service before matched (.error (.deleteDenied rule source)) before := by
  have hno (h : ∀ d ∈ matched, isRoot d = false) : False := by
    obtain ⟨d, hd, hd'⟩ := hroot
    rw [h d hd] at hd'
    cases hd'
  exact ⟨fun _ => ⟨⟨rule, source, rfl⟩, rfl⟩, fun h => (hno h).elim, fun h => (hno h).elim⟩

end Outcome

/-- What a deletion in a transaction of its own does is published if it succeeds. -/
theorem outcome_of_cascades {service : Service} (hfree : s.store.Free (some id))
    (hsupported : s.store.transactional = true) (hstarts : s.store.failingStarts = 0)
    (hcommits : s.store.failingCommits = 0) {matched : List Document}
    (hroot : ¬ ∃ d ∈ matched, isRoot d) {action : Action Nat}
    (hcascades : Cascades service (s.store.collections.documents service.collection) (ids matched)
      (limitOf service) id (begun id s) (ends action.run (begun id s))) (policy : RetryPolicy) :
    ∃ result after, ends (transact policy id action).run s = (.ok result, after) ∧
      Outcome service s.store.collections matched result after.store.collections := by
  have hcopied : (begun id s).store.view (some id) = s.store.collections :=
    Store.view_of_transaction? (transaction?_begun (hfree id rfl).1)
  cases hends : ends action.run (begun id s) with
  | mk result ended =>
    rw [hends] at hcascades
    obtain ⟨hwithin, hcascades⟩ := hcascades
    by_cases hlast : level (s.store.collections.documents service.collection) (ids matched)
        (limitOf service) = []
    · rw [if_pos hlast] at hcascades
      obtain ⟨⟨count, rfl⟩, hdocuments⟩ := hcascades
      obtain ⟨after, hafter, hpublished⟩ := ends_transact_of_body hsupported hfree hstarts hcommits
        hends hwithin (fun e he => by cases he) policy
      refine ⟨_, after, hafter, fun h => absurd h hroot, fun _ _ => ⟨⟨count, rfl⟩, fun name => ?_⟩,
        fun _ hdeep => absurd hlast hdeep⟩
      rw [hpublished, hdocuments, hcopied]
      split
      · rename_i hname
        rw [hname]
      · rfl
    · rw [if_neg hlast] at hcascades
      obtain ⟨e, rfl, hcause⟩ := hcascades
      -- no attempt is made again, so the cause is not lost in the error of exhausted retries
      have hfinal : ∀ e', (.error e : Result Nat) = .error e' → e'.isTransient = false := by
        rintro _ ⟨⟩
        exact not_isTransient_of_cascadeTooDeep hcause
      obtain ⟨after, hafter, hkept⟩ := ends_transact_of_body hsupported hfree hstarts hcommits
        hends hwithin hfinal policy
      exact ⟨_, after, hafter, fun h => absurd h hroot, fun _ h => absurd h hlast,
        fun _ _ => ⟨⟨e, rfl, hcause⟩, hkept⟩⟩

/-- A deletion on a session without a transaction, in a store that fails nothing. -/
theorem outcome_of_free (htree : IsTree family self) (hlimit : 0 < limitOf (family self))
    (hfree : s.store.Free (some id)) (hsupported : s.store.transactional = true)
    (hstarts : s.store.failingStarts = 0) (hcommits : s.store.failingCommits = 0)
    (hnodes : Nodes (s.store.collections.documents (family self).collection))
    {filter : Document} {matched : List Document}
    (hmatched : s.store.collections.select (family self).collection filter = .ok matched)
    {levels : Nat} (hlevels : limitOf (family self) ≤ levels) :
    ∃ result after, ends ((⟨family self, 0⟩ : Handle).deleteOnSession
          (Answerer.of (family.performWithin levels)) id filter false).run s = (.ok result, after) ∧
      Outcome (family self) s.store.collections matched result after.store.collections := by
  have hview := Store.view_of_free hfree
  rw [ends_deleteOnSession htree hnodes (congrArg (·.documents (family self).collection) hview)
    (hview ▸ hmatched) fun _ => Nat.lt_of_lt_of_le hlimit hlevels]
  by_cases hnone : ids matched = []
  · obtain rfl := eq_nil_of_ids (hnodes.sublist (Collections.select_sublist hmatched)) hnone
    rw [if_pos hnone]
    exact ⟨_, _, rfl, .none (family self) s.store.collections⟩
  rw [if_neg hnone, if_neg (Nat.not_le.mpr hlimit)]
  by_cases hroot : ∃ d ∈ matched, isRoot d
  · rw [if_pos hroot]
    exact ⟨_, _, rfl, .of_root hroot _ _⟩
  rw [if_neg hroot]
  have hbegun := transaction?_begun (hfree id rfl).1
  have hin : (begun id s).store.inTransaction id = true :=
    Store.inTransaction_eq_true.mpr ⟨_, hbegun⟩
  have hcopied := congrArg (·.documents (family self).collection)
    (Store.view_of_transaction? hbegun)
  -- the first level is deleted here, and one less is left for those below
  obtain ⟨left, hleft⟩ := Nat.exists_eq_add_one.mpr hlimit
  obtain ⟨levels, rfl⟩ := Nat.exists_eq_add_one.mpr (Nat.lt_of_lt_of_le hlimit hlevels)
  have hdepth : 0 + 1 + left = limitOf (family self) := by omega
  have hleft_le : left ≤ levels := by omega
  have hbelow := cascades_below htree hnodes hcopied hin (ids matched) left hdepth hleft_le
  have hcascades := Cascades.deleteKeys htree hnodes hin hbelow
  rw [← hleft] at hcascades
  exact outcome_of_cascades hfree hsupported hstarts hcommits hroot hcascades _

/-- Deleting the nodes that a filter matches, on a session of its own. If a root is among them,
the deletion is denied. Otherwise it goes down as many levels as the limit says, and unless nothing
is below the last of them it has come too deep. -/
theorem deleteMany_cascades (htree : IsTree family self) (hlimit : 0 < limitOf (family self))
    (hsupported : s.store.transactional = true) (hstarts : s.store.failingStarts = 0)
    (hcommits : s.store.failingCommits = 0)
    (hnodes : Nodes (s.store.collections.documents (family self).collection))
    {filter : Document} {matched : List Document}
    (hmatched : s.store.collections.select (family self).collection filter = .ok matched) :
    ∃ result after, ends (family.perform none self (.deleteMany filter)).run s
        = (.ok result, after) ∧
      Outcome (family self) s.store.collections matched result after.store.collections := by
  let opened : State := { s with store := s.store.openSession.2 }
  have hbound : limitOf (family self) ≤ Family.levels - 1 :=
    Nat.le_sub_one_of_lt (family self).config.maxCascadeDepth.toNat_lt
  obtain ⟨result, after, hends, houtcome⟩ :=
    outcome_of_free (s := opened) htree hlimit s.store.free_openSession hsupported hstarts hcommits
      hnodes hmatched hbound
  have hrun : ends (family.perform none self (.deleteMany filter)).run s
      = (.ok result, { after with store := after.store.dropSession s.store.openSession.1 }) := by
    unfold Family.perform
    rw [show Family.levels = Family.levels - 1 + 1 from rfl, ends_deleteMany_none htree,
      ends_withSession]
    rw [hends]
  refine ⟨result, _, hrun, ?_⟩
  simp only [Store.dropSession_collections]
  exact houtcome

/-- A node below another or below none. -/
def nodeBelow (above : Option ObjectId) (id : ObjectId) : Document :=
  [(idField, .objectId id), ("name", .string ""), ("parent", (above.map .objectId).getD .null)]

/-- A root with a branch that has a leaf. -/
def grown : State where
  store := { collections := [("tree_nodes", [nodeBelow none ⟨0⟩, nodeBelow (some ⟨0⟩) ⟨1⟩,
    nodeBelow (some ⟨1⟩) ⟨2⟩])] }

theorem nodes_grown : Nodes (grown.store.collections.documents "tree_nodes") := by
  have hshape : ∀ d ∈ grown.store.collections.documents "tree_nodes",
      ∃ above id, d = nodeBelow above id := by
    intro d hd
    simp [grown, Collections.documents, Collections.get?] at hd
    rcases hd with rfl | rfl | rfl
    · exact ⟨_, _, rfl⟩
    · exact ⟨_, _, rfl⟩
    · exact ⟨_, _, rfl⟩
  refine ⟨?_, ?_, by decide +kernel⟩
  · intro d hd
    obtain ⟨above, id, rfl⟩ := hshape d hd
    exact ⟨id, rfl⟩
  · intro d hd value hvalue
    obtain ⟨above, id, rfl⟩ := hshape d hd
    have hparent : some ((above.map Value.objectId).getD .null) = some value := hvalue
    cases hparent
    cases above with
    | none => exact .inl rfl
    | some id => exact .inr ⟨id, rfl⟩

/-- The branch goes with its leaf, and the root stays. -/
theorem deleteMany_cascades_grown :
    let filter := Key.filterAll [.objectId ⟨1⟩]
    IsTree Catalog.family "TreeNodeService" ∧
    Nodes (grown.store.collections.documents "tree_nodes") ∧
    grown.store.collections.select "tree_nodes" filter = .ok [nodeBelow (some ⟨0⟩) ⟨1⟩] ∧
    ∃ count after,
      ends (Catalog.family.perform none "TreeNodeService" (.deleteMany filter)).run grown
        = (.ok (.ok count), after) ∧
      after.store.collections.documents "tree_nodes" = [nodeBelow none ⟨0⟩] := by
  intro filter
  have htree : IsTree Catalog.family "TreeNodeService" := ⟨rfl, rfl⟩
  have hmatched : grown.store.collections.select "tree_nodes" filter
      = .ok [nodeBelow (some ⟨0⟩) ⟨1⟩] := rfl
  refine ⟨htree, nodes_grown, hmatched, ?_⟩
  obtain ⟨result, after, hends, houtcome⟩ := deleteMany_cascades (s := grown) htree
    (by decide +kernel) rfl rfl rfl nodes_grown hmatched
  obtain ⟨⟨count, rfl⟩, hdocuments⟩ := houtcome.removed (by decide +kernel) (by decide +kernel)
  refine ⟨count, after, hends, ?_⟩
  rw [hdocuments]
  rfl

end DocumentStore.Catalog.Tree
