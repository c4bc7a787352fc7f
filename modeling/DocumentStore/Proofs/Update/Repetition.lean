import DocumentStore.Proofs.Path.Frame
import DocumentStore.Proofs.Store.Writes
import DocumentStore.Proofs.Update.Entries

/-!
# Updates made twice

Fields that are set or removed at paths that keep apart do not disturb one another: when an update
has been applied, each of its entries still finds what it wrote and would write the same again. So
to apply the update again changes nothing, and neither does a call that updates every document that
its filter accepts. It may find fewer documents or fail, but those that it finds were found before.
-/
namespace DocumentStore

namespace Update

variable {d d' update : Document} {entry other : Entry} {all : List Entry}

/-! ## Entries that are done -/

/-- Whether an entry that sets or removes a field would leave a document as it is: the field holds
the operand already or is missing. -/
def Entry.Done (entry : Entry) (d : Document) : Prop :=
  match entry.op with
  | .set => Path.field d entry.path = some entry.operand
  | .unset => Path.field d entry.path = none
  | .increment => False

/-- Whether an entry sets or removes something outside of the identifier. -/
structure Entry.Settles (entry : Entry) : Prop where
  op : entry.op ≠ .increment
  outside : (Path.segments entry.path).1 ≠ idField

/-- The check of identifiers does not concern what begins elsewhere. -/
theorem Entry.apply_of_settles (h : entry.Settles) :
    entry.apply d = .ok d' ↔
      entry.op = .set ∧ Path.set d entry.path entry.operand = .ok d' ∨
        entry.op = .unset ∧ Path.unset d entry.path = d' := by
  have hpath : entry.path ≠ idField := by
    intro hpath
    refine h.outside ?_
    rw [hpath]
    rfl
  obtain ⟨op, path, operand⟩ := entry
  have hguard : ¬ (path = idField && !Value.sameOption (Document.get? d idField) (some operand)) :=
    by simp [show path ≠ idField from hpath]
  unfold Entry.apply applyAt
  rw [if_neg hguard]
  cases op with
  | set => simp
  | unset => simp
  | increment => exact absurd rfl h.op

theorem Entry.done_of_apply (hentry : entry.Settles) (h : entry.apply d = .ok d') :
    entry.Done d' := by
  unfold Entry.Done
  obtain ⟨hop, hset⟩ | ⟨hop, rfl⟩ := (apply_of_settles hentry).mp h
  · rw [hop]
    exact Path.field_set hset
  · rw [hop]
    exact Path.field_unset d entry.path

/-- An entry that is done stays done while another one is applied that keeps apart from it. -/
theorem Entry.Done.apply_other (hd : entry.Done d) (hother : other.Settles)
    (hapart : Path.Apart other.path entry.path) (h : other.apply d = .ok d') : entry.Done d' := by
  have hfield : Path.field d' entry.path = Path.field d entry.path := by
    obtain ⟨-, hset⟩ | ⟨-, rfl⟩ := (apply_of_settles hother).mp h
    · exact Path.field_set_of_apart hapart hset
    · exact Path.field_unset_of_apart hapart d
  unfold Entry.Done at hd ⊢
  rwa [hfield]

theorem Entry.Done.apply (hd : entry.Done d) (hentry : entry.Settles) : entry.apply d = .ok d := by
  refine (apply_of_settles hentry).mpr ?_
  unfold Entry.Done at hd
  split at hd
  · next hop => exact .inl ⟨hop, Path.set_of_field hd⟩
  · next hop => exact .inr ⟨hop, Path.unset_of_field hd⟩
  · cases hd

/-! ## Updates that settle -/

/-- Whether an update only sets and removes fields, none of them in the identifier, at paths that
keep apart. -/
structure Settling (update : Document) : Prop where
  settles : ∀ entry ∈ entries update, entry.Settles
  apart : (entries update).Pairwise fun a b => Path.Apart a.path b.path

theorem Entry.Done.foldlM (hd : entry.Done d) (hall : ∀ other ∈ all, other.Settles)
    (hapart : ∀ other ∈ all, Path.Apart entry.path other.path)
    (h : all.foldlM (fun d other => other.apply d) d = .ok d') : entry.Done d' := by
  induction all generalizing d with
  | nil =>
    cases h
    exact hd
  | cons other rest ih =>
    obtain ⟨next, hnext, h⟩ := Result.bind_eq_ok h
    obtain ⟨hother, hrest⟩ := List.forall_mem_cons.mp hall
    obtain ⟨hfirst, hlater⟩ := List.forall_mem_cons.mp hapart
    exact ih (hd.apply_other hother hfirst.symm hnext) hrest hlater h

/-- After an update all its entries are done. -/
theorem done_of_foldlM (hall : ∀ entry ∈ all, entry.Settles)
    (hapart : all.Pairwise fun a b => Path.Apart a.path b.path)
    (h : all.foldlM (fun d entry => entry.apply d) d = .ok d') : ∀ entry ∈ all, entry.Done d' := by
  induction all generalizing d with
  | nil => nofun
  | cons first rest ih =>
    obtain ⟨next, hnext, h⟩ := Result.bind_eq_ok h
    obtain ⟨hfirst, hrest⟩ := List.forall_mem_cons.mp hall
    obtain ⟨hbeside, hapart⟩ := List.pairwise_cons.mp hapart
    have hdone := (first.done_of_apply hfirst hnext).foldlM hrest hbeside h
    exact List.forall_mem_cons.mpr ⟨hdone, ih hrest hapart h⟩

theorem foldlM_of_done (hall : ∀ entry ∈ all, entry.Settles) (hdone : ∀ entry ∈ all, entry.Done d) :
    all.foldlM (fun d entry => entry.apply d) d = .ok d := by
  induction all with
  | nil => rfl
  | cons first rest ih =>
    obtain ⟨hfirst, hrest⟩ := List.forall_mem_cons.mp hall
    obtain ⟨hdone, hlater⟩ := List.forall_mem_cons.mp hdone
    rw [List.foldlM_cons, hdone.apply hfirst]
    exact ih hrest hlater

/-- An update that settles finds nothing left to do in a document that it was applied to. -/
theorem Settling.apply_again (hupdate : Settling update) (h : apply d update = .ok d') :
    apply d' update = .ok d' := by
  rw [apply_eq_foldlM] at h ⊢
  exact foldlM_of_done hupdate.settles (done_of_foldlM hupdate.settles hupdate.apart h)

end Update

/-! ## Calls -/

variable {filter update : Document} {ds ds' ds'' : List Document} {outcome again : Update.Outcome}

/-- Of two updates in succession the second changes no document: one that its filter accepts was
accepted before, since a document that was not is what it was. -/
theorem Update.Settling.effect_again (hupdate : Settling update)
    (h : Effect update (Filter.addresses filter true ds) ds ds' outcome)
    (hagain : Effect update (Filter.addresses filter true ds') ds' ds'' again) : ds'' = ds' := by
  refine List.ext_getElem? fun i => ?_
  cases htarget : Filter.addresses filter true ds' i with
  | false => exact hagain.kept i htarget
  | true =>
    have hbefore : Filter.addresses filter true ds i = true := by
      by_contra hnot
      have hkept := h.kept i (Bool.not_eq_true _ ▸ hnot)
      simp only [Filter.addresses, hkept, Bool.true_or, Bool.and_true] at htarget hnot
      exact hnot htarget
    cases hd' : ds'[i]? with
    | none => simp [Filter.addresses, hd'] at htarget
    | some d' =>
      have hlength : i < ds.length := by
        rw [← h.length]
        exact (List.getElem?_eq_some_iff.mp hd').1
      obtain ⟨first, hfirst, hwritten⟩ :=
        h.changed i ds[i] hbefore (List.getElem?_eq_getElem hlength)
      obtain rfl : first = d' := Option.some.inj (hwritten.symm.trans hd')
      obtain ⟨second, hsecond, hlast⟩ := hagain.changed i first htarget hd'
      obtain rfl : first = second :=
        Except.ok.inj ((hupdate.apply_again hfirst).symm.trans hsecond)
      exact hlast

namespace Collections

variable {cs written : Collections} {name : String}

/-- So an update that settles can be made again, and leaves all documents as it left them. -/
theorem update_again (hupdate : Update.Settling update)
    (h : (Collections.update name filter update true).runOn cs = (.ok outcome, written)) :
    Agree ((Collections.update name filter update true).runOn written).2 written := by
  intro other
  by_cases hother : other = name
  · subst hother
    cases hagain : (Collections.update other filter update true).runOn written with
    | mk result left =>
      cases result with
      | error e =>
        have hkept := allOrNothing_update other filter update true written e (by rw [hagain])
        rw [hagain] at hkept
        rw [hkept]
      | ok _ => exact hupdate.effect_again (effect_update h) (effect_update hagain)
  · rw [documents_update, if_neg hother]

end Collections

namespace Store

variable {s : Store} {session : Option SessionId} {name : String}

/-- An update that settles and succeeds leaves nothing to do for a second one. Whatever that
answers, every collection is the same after it as before, in the view of every session. -/
theorem update_idempotent (hupdate : Update.Settling update) {fresh fresh' : Nat → ObjectId}
    {outcome : Update.Outcome}
    (h : (s.answer session fresh (.update name filter update true)).1 = .ok outcome) :
    let after := (s.answer session fresh (.update name filter update true)).2
    let again := (after.answer session fresh' (.update name filter update true)).2
    ∀ seen, Collections.Agree (again.view seen) (after.view seen) := by
  intro after again seen
  cases hcheck : Update.check update with
  | error e =>
    simp only [answer, hcheck] at h
    cases h
  | ok =>
    have hdone : (Collections.update name filter update true).runOn (s.view session)
        = (.ok outcome, after.view session) := by
      simp only [after, answer, hcheck] at h ⊢
      exact write_of_allOrNothing_of_ok (Collections.allOrNothing_update _ _ _ _) h
    obtain ⟨hview, hsame⟩ | hview := @view_answer_cases after session _ fresh'
      (.update name filter update true) seen
    · rw [hview, hsame]
      simp only [Call.perform, hcheck]
      exact Collections.update_again hupdate hdone
    · rw [hview]

/-- Somebody by the name of Tim at a place, -/
def timsPlace : Store :=
  { collections := [("people", [[(idField, .int32 1), ("name", .string "Tim"),
      ("at", .document [("x", .string "left"), ("y", .string "up")])]])] }

/-- and the move of all people by that name to the right, where they are called Jim. -/
def move : Document :=
  [("$set", .document [("at.x", .string "right"), ("name", .string "Jim")]),
    ("$unset", .document [("at.y", .null)])]

/-- When it is made again, it finds nobody. -/
theorem update_idempotent_tim :
    let call : Call := .update "people" [("name", .string "Tim")] move true
    let after := (timsPlace.answer none .generated call).2
    Update.Settling move ∧ (timsPlace.answer none .generated call).1 = .ok ⟨1, 1⟩ ∧
      (after.view none).documents "people" = [[(idField, .int32 1), ("name", .string "Jim"),
        ("at", .document [("x", .string "right")])]] ∧
      (after.answer none .generated call).1 = .ok ⟨0, 0⟩ ∧
      ∀ seen, Collections.Agree ((after.answer none .generated call).2.view seen)
        (after.view seen) := by
  intro call after
  have hentries : ∀ entry ∈ Update.entries move,
      entry.op ≠ .increment ∧ (Path.segments entry.path).1 ≠ idField := by decide
  have hmove : Update.Settling move := by
    refine ⟨fun entry hentry => ?_, by decide⟩
    obtain ⟨hop, houtside⟩ := hentries entry hentry
    exact ⟨hop, houtside⟩
  have hcall : (timsPlace.answer none .generated call).1 = .ok ⟨1, 1⟩ := by rfl
  exact ⟨hmove, hcall, by rfl, by rfl, update_idempotent hmove hcall⟩

end Store

end DocumentStore
