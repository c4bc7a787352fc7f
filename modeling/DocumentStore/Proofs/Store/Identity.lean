import DocumentStore.Proofs.Store.Selection
import DocumentStore.Proofs.Update.Identifier

/-!
# Identifiers in a store

Every document that a store holds has an identifier, and no two documents of one collection have
the same one. This is so where a store is built, since a seed is given identifiers and checked, and
whatever a call inserts is. Deletions take documents away, and updates that do not write to an
identifier leave all of them as they are. A transaction starts with what was committed and commits
what it has made of it, so it holds of private documents as well.
-/
namespace DocumentStore

open Collections (idOf hasId checkNew)

/-! ## Documents with different identifiers -/

/-- Whether two values differ, whichever of them is compared with the other. That it does not matter
which can only be said of values whose documents name each field once. -/
def Value.Differs (a b : Value) : Prop :=
  a.same b = false ∧ (a.NamesOnce → b.NamesOnce → b.same a = false)

theorem Value.differs_of_same {a b : Value} (h : a.same b = false) : a.Differs b := by
  refine ⟨h, fun ha hb => ?_⟩
  rw [Bool.eq_false_iff] at h ⊢
  exact fun hback => h (same_symm b hb ha hback)

/-- Whether documents have identifiers, no two of them equal ones. -/
structure Identified (ds : List Document) : Prop where
  present : ∀ d ∈ ds, ∃ id, Document.get? d idField = some id
  different : ds.Pairwise fun d other => (idOf d).Differs (idOf other)

namespace Identified

variable {ds ds' new : List Document} {d : Document}

theorem nil : Identified [] := ⟨nofun, .nil⟩

theorem sublist (h : Identified ds) (hsub : ds'.Sublist ds) : Identified ds' :=
  ⟨fun d hd => h.present d (hsub.subset hd), h.different.sublist hsub⟩

/-- Documents with the same identifiers in the same places are identified as well. -/
theorem congr (h : Identified ds)
    (hids : ds'.map (Document.get? · idField) = ds.map (Document.get? · idField)) :
    Identified ds' := by
  refine ⟨fun d hd => ?_, ?_⟩
  · have hmem : Document.get? d idField ∈ ds.map (Document.get? · idField) :=
      hids ▸ List.mem_map_of_mem hd
    obtain ⟨other, hother, hsame⟩ := List.mem_map.mp hmem
    exact hsame ▸ h.present other hother
  · have hidOf : ds'.map idOf = ds.map idOf := by
      have hvalues := congrArg (List.map (·.getD .null)) hids
      rw [List.map_map, List.map_map] at hvalues
      exact hvalues
    exact List.pairwise_map.mp (hidOf ▸ List.pairwise_map.mpr h.different)

/-- A document whose identifier is free can be added. -/
theorem concat (h : Identified ds) (hd : ∃ id, Document.get? d idField = some id)
    (hfree : hasId ds (idOf d) = false) : Identified (ds ++ [d]) := by
  refine ⟨?_, List.pairwise_append.mpr ⟨h.different, List.pairwise_singleton .., ?_⟩⟩
  · intro other hother
    obtain hother | rfl := by simpa using hother
    · exact h.present other hother
    · exact hd
  · intro other hother last hlast
    rw [List.mem_singleton.mp hlast]
    obtain ⟨id, hid⟩ := h.present other hother
    have hdiffers := List.any_eq_false.mp hfree other hother
    simp only [hid, Bool.not_eq_true] at hdiffers
    exact Value.differs_of_same (by simpa [idOf, hid] using hdiffers)

/-- So can all that are accepted. -/
theorem append (h : Identified ds) (hnew : ∀ d ∈ new, ∃ id, Document.get? d idField = some id)
    {name : String} (hcheck : checkNew name ds new = .ok ()) : Identified (ds ++ new) := by
  induction new generalizing ds with
  | nil => simpa using h
  | cons d rest ih =>
    unfold checkNew at hcheck
    split at hcheck
    · cases hcheck
    · rename_i hfree
      have hconcat := h.concat (hnew d List.mem_cons_self) (Bool.not_eq_true _ ▸ hfree)
      rw [List.append_cons]
      exact ih hconcat (fun other hother => hnew other (List.mem_cons_of_mem _ hother)) hcheck

end Identified

/-! ## Documents that are given identifiers -/

theorem Document.exists_identify (fresh : ObjectId) (d : Document) :
    ∃ id, (identify fresh d).get? idField = some id := by
  unfold identify
  split
  · rename_i hcontains
    exact Option.isSome_iff_exists.mp hcontains
  · exact ⟨.objectId fresh, rfl⟩

theorem Store.exists_of_mem_identifyAll {fresh : Nat → ObjectId} {ds : List Document} {d : Document}
    (hd : d ∈ identifyAll fresh ds) : ∃ id, Document.get? d idField = some id := by
  obtain ⟨i, hi, rfl⟩ := List.mem_mapIdx.mp hd
  exact Document.exists_identify ..

/-! ## Updates that leave identifiers alone -/

namespace Update

/-- An entry that leads elsewhere keeps the identifier of a document. -/
theorem Entry.get?_idField {entry : Entry} {d d' : Document} (hpath : entry.path ≠ idField)
    (hbelow : ¬ Path.IsBelow entry.path idField) (h : entry.apply d = .ok d') :
    Document.get? d' idField = Document.get? d idField := by
  refine get?_apply_of_ne (fun hfirst => ?_) h
  cases hsegments : Path.segments entry.path with
  | mk first rest =>
    obtain rfl : idField = first := by rw [hfirst, hsegments]
    obtain ⟨-, heq⟩ | ⟨-, hin⟩ := Path.segments_cases hsegments
    · exact hpath heq
    · exact hbelow hin

theorem get?_idField {d d' update : Document}
    (hentries : ∀ entry ∈ entries update,
      entry.path ≠ idField ∧ ¬ Path.IsBelow entry.path idField)
    (h : apply d update = .ok d') : Document.get? d' idField = Document.get? d idField := by
  refine holds_of_apply (P := fun d' => Document.get? d' idField = Document.get? d idField) rfl
    (fun entry hentry next next' hsame hnext => ?_) h
  obtain ⟨hpath, hbelow⟩ := hentries entry hentry
  exact (entry.get?_idField hpath hbelow hnext).trans hsame

end Update

/-! ## Calls -/

namespace Store.Call

/-- Whether a call neither writes to an identifier nor into one. -/
def LeavesIds : Call → Prop
  | .update _ _ changes _ => ∀ entry ∈ Update.entries changes,
      entry.path ≠ idField ∧ ¬ Path.IsBelow entry.path idField
  | _ => True

/-- Such a call keeps documents identified. -/
theorem identified_rewrite {call : Call} {ds : List Document} (h : Identified ds)
    (hcall : call.LeavesIds) (fresh : Nat → ObjectId) : Identified (call.rewrite fresh ds) := by
  cases call with
  | insert name d =>
    refine Collections.holds_of_inserted h fun hcheck => h.append (fun other hother => ?_) hcheck
    rw [List.mem_singleton.mp hother]
    exact Document.exists_identify ..
  | insertMany name new =>
    exact Collections.holds_of_inserted h fun hcheck =>
      h.append (fun _ => exists_of_mem_identifyAll) hcheck
  | update name filter changes many =>
    have hkept := forall₂_rewrite_update
      (R := fun d d' => Document.get? d' idField = Document.get? d idField) (fun _ => rfl)
      (fun d (_ : d ∈ ds) _ happly => Update.get?_idField hcall happly) fresh name filter many
    exact h.congr (map_eq_of_forall₂ hkept)
  | delete name filter many =>
    refine holds_of_rewrite h fun ds' hdone => ?_
    obtain ⟨⟨count, left⟩, hdeleted, hdone⟩ := Result.bind_eq_ok hdone
    cases hdone
    obtain ⟨-, rfl, -⟩ := Collections.deleted_eq_ok.mp hdeleted
    exact h.sublist (Collections.remaining_sublist filter many ds)
  | _ => exact h

theorem identified_perform {call : Call} {cs : Collections}
    (h : ∀ name, Identified (cs.documents name)) (hcall : call.LeavesIds)
    (fresh : Nat → ObjectId) (name : String) :
    Identified ((call.perform fresh cs).documents name) := by
  rw [documents_perform]
  split
  · exact identified_rewrite (h call.collection) hcall fresh
  · exact h name

end Store.Call

/-! ## Building -/

/-- A seed with identifiers, the documents that lack one taking the one for their place. -/
def Store.identifySeed (fresh : Nat → Nat → ObjectId) (seed : List (String × List Document)) :
    List (String × List Document) :=
  seed.mapIdx fun i entry => (entry.1, identifyAll (fresh i) entry.2)

namespace Store

/-- A seed that is checked is checked collection by collection. -/
theorem checkNew_of_checkSeed {cs : Collections} (h : checkSeed cs = .ok ()) {name : String}
    {ds : List Document} (hget : cs.get? name = some ds) : checkNew name [] ds = .ok () := by
  induction cs with
  | nil => cases hget
  | cons entry rest ih =>
    obtain ⟨first, held⟩ := entry
    obtain ⟨⟨⟩, hcheck, hrest⟩ := Result.bind_eq_ok h
    unfold Collections.get? at hget
    split at hget
    · rename_i hname
      cases hget
      exact hname ▸ hcheck
    · exact ih hrest hget

/-- Collections that are put together from documents with identifiers hold nothing else. -/
theorem present_of_seed {seed : List (String × List Document)} {cs : Collections}
    (h : ∀ name, ∀ d ∈ cs.documents name, ∃ id, Document.get? d idField = some id)
    (hseed : ∀ entry ∈ seed, ∀ d ∈ entry.2, ∃ id, Document.get? d idField = some id)
    (name : String) :
    ∀ d ∈ Collections.documents (seed.foldl
        (fun cs entry => Collections.put cs entry.1 (Collections.documents cs entry.1 ++ entry.2))
        cs) name,
      ∃ id, Document.get? d idField = some id := by
  induction seed generalizing cs with
  | nil => exact h name
  | cons entry rest ih =>
    refine ih (fun other d hd => ?_) fun later hlater => hseed later (List.mem_cons_of_mem _ hlater)
    rw [Collections.documents_put] at hd
    split at hd
    · obtain hd | hd := List.mem_append.mp hd
      · exact h entry.1 d hd
      · exact hseed entry List.mem_cons_self d hd
    · exact h other d hd

/-- With identifiers, collections that are accepted are identified. -/
theorem identified_of_checkSeed {cs : Collections} (hcheck : checkSeed cs = .ok ())
    (hpresent : ∀ name, ∀ d ∈ cs.documents name, ∃ id, Document.get? d idField = some id)
    (name : String) : Identified (cs.documents name) := by
  specialize hpresent name
  cases hget : cs.get? name with
  | none =>
    rw [Collections.documents_of_missing hget]
    exact .nil
  | some ds =>
    rw [Collections.documents_of_get? hget] at hpresent ⊢
    exact Identified.nil.append hpresent (checkNew_of_checkSeed hcheck hget)

theorem identified_of_build {transactional : Bool} {fresh : Nat → Nat → ObjectId}
    {seed : List (String × List Document)} {s : Store}
    (h : build transactional (identifySeed fresh seed) = .ok s) (session : Option SessionId)
    (name : String) : Identified ((s.view session).documents name) := by
  have hseed : ∀ entry ∈ identifySeed fresh seed, ∀ d ∈ entry.2,
      ∃ id, Document.get? d idField = some id := by
    intro entry hentry d hd
    obtain ⟨i, hi, rfl⟩ := List.mem_mapIdx.mp hentry
    exact exists_of_mem_identifyAll hd
  obtain ⟨⟨⟩, hcheck, h⟩ := Result.bind_eq_ok h
  cases h
  -- nothing was opened on it yet, so all sessions see the seed
  rw [view_of_none (Option.bind_eq_none_iff.mpr fun _ _ => rfl)]
  exact identified_of_checkSeed hcheck (present_of_seed (fun _ => nofun) hseed) name

/-! ## Runs -/

/-- Through every run of a store that was built, as long as updates leave identifiers alone, all
documents have identifiers, and no two of a collection have the same one. That holds of what is
committed, and of what every open transaction works on. -/
theorem ids_unique {transactional : Bool} {fresh : Nat → Nat → ObjectId}
    {seed : List (String × List Document)} {s : Store}
    (hbuild : build transactional (identifySeed fresh seed) = .ok s) {events : List Event}
    (hcalls : ∀ session issued, .call session issued ∈ events → issued.call.LeavesIds) :
    (∀ name, Identified ((s.run events).collections.documents name)) ∧
      ∀ id snapshot, (s.run events).transaction? id = some snapshot →
        ∀ name, Identified (snapshot.collections.documents name) := by
  have hviews := holds_of_run (P := fun cs => ∀ name, Identified (cs.documents name))
    (identified_of_build hbuild) fun session issued hmem cs hcs =>
      Call.identified_perform hcs (hcalls session issued hmem) issued.fresh
  refine ⟨hviews none, fun id snapshot ht => ?_⟩
  rw [← view_of_transaction? ht]
  exact hviews (some id)

/-- A seed in which some documents have identifiers, -/
def residents : List (String × List Document) :=
  [("people", [[(idField, .int32 1)], [("name", .string "Tim")]]),
    ("people", [[("age", .int32 41)]])]

/-- and a transaction in which there are more, and all are changed. -/
def arrivals : List Event :=
  let newcomers : List Document := [[(idField, .int32 2)], [("name", .string "Jim")]]
  let age : Document := [("$inc", .document [("age", .int32 1)])]
  [.openSession, .start 1,
    .call (some 1) ⟨fun i => .generated (9 + i), .insertMany "people" newcomers⟩,
    .call (some 1) ⟨.generated, .update "people" [] age true⟩]

theorem ids_unique_arrivals :
    ∃ s snapshot,
      build true (identifySeed (fun i j => .generated (2 * i + j)) residents) = .ok s ∧
      (s.run arrivals).transaction? 1 = some snapshot ∧
      ((s.run arrivals).collections.documents "people").length = 3 ∧
      Identified ((s.run arrivals).collections.documents "people") ∧
      (snapshot.collections.documents "people").length = 5 ∧
      Identified (snapshot.collections.documents "people") := by
  have hcalls : ∀ session issued, .call session issued ∈ arrivals → issued.call.LeavesIds := by
    intro session issued hmem
    simp only [arrivals, List.mem_cons, reduceCtorEq, Event.call.injEq, List.not_mem_nil, or_false,
      false_or] at hmem
    obtain ⟨-, rfl⟩ | ⟨-, rfl⟩ := hmem
    · trivial
    · change ∀ entry ∈ Update.entries _, _
      decide
  have hbuild : build true (identifySeed (fun i j => .generated (2 * i + j)) residents) = .ok _ :=
    rfl
  obtain ⟨hcommitted, hprivate⟩ := ids_unique hbuild hcalls
  exact ⟨_, _, hbuild, rfl, rfl, hcommitted "people", rfl, hprivate 1 _ rfl "people"⟩

end Store

end DocumentStore
