import DocumentStore.Proofs.Store.Deletion
import DocumentStore.Proofs.Store.History
import DocumentStore.Proofs.Store.Unmoved

/-!
# What updates and deletions leave

An update or a deletion addresses the documents that its filter accepts, or the first of them. All
of them are found before any is written, and an update is applied to each of them before any takes
its place. So a filter or an update that fails on a single document leaves the store as it is.
Otherwise the documents that are addressed become what the update makes of them, or are gone, and
all others stay, in the same order.
-/
namespace DocumentStore

variable {filter update : Document} {many : Bool}

section Effects

variable [Pattern.Engine] {cs written : Collections} {name : String}

namespace Collections

theorem decided_of_select {found : List Document} (h : cs.select name filter = .ok found) :
    ∀ d ∈ cs.documents name, Filter.evaluate d filter = .ok (Filter.accepts filter d) := by
  obtain ⟨hdecided, -⟩ := select_eq_ok.mp h
  cases hget : cs.get? name with
  | none =>
    rw [documents_of_missing hget]
    nofun
  | some ds => simpa [tried, hget, documents_of_get? hget] using hdecided

/-! ## Updates -/

/-- An update succeeds if its filter does and it can be applied to all documents addressed. -/
theorem exists_update :
    (∃ outcome, ((Collections.update name filter update many).runOn cs).1 = .ok outcome) ↔
      (∃ found, cs.select name filter = .ok found) ∧
        ∀ i d, Filter.addresses filter many (cs.documents name) i = true →
          (cs.documents name)[i]? = some d → ∃ d', Update.apply d update = .ok d' := by
  have hselected : (∃ found, cs.select name filter = .ok found) ↔
      ∀ d ∈ cs.tried name, Filter.evaluate d filter = .ok (Filter.accepts filter d) := by
    simp [select_eq_ok]
  rw [hselected]
  cases hget : cs.get? name with
  | none =>
    rw [runOn_update_of_missing hget, documents_of_missing hget, tried, hget, Option.getD_none,
      List.forall_mem_singleton]
    cases heval : Filter.evaluate [] filter with
    | error e => simp [Except.map]
    | ok met => simp [Except.map, Filter.accepts_of_evaluate heval]
  | some ds =>
    rw [runOn_update_of_get? hget, documents_of_get? hget, tried, hget, Option.getD_some,
      ← exists_updated, replacing_fst]
    cases updated filter update many ds <;> simp [Except.map]

theorem effect_update {outcome : Update.Outcome}
    (h : (Collections.update name filter update many).runOn cs = (.ok outcome, written)) :
    Update.Effect update (Filter.addresses filter many (cs.documents name)) (cs.documents name)
      (written.documents name) outcome := by
  cases hget : cs.get? name with
  | none =>
    rw [runOn_update_of_missing hget] at h
    cases heval : Filter.evaluate [] filter with
    | error e =>
      rw [heval] at h
      cases h
    | ok met =>
      rw [heval] at h
      cases h
      -- where nothing is there, the effect is that on no documents
      rw [documents_of_missing hget]
      exact effect_updated (updated_nil filter update many)
  | some ds =>
    rw [runOn_update_of_get? hget] at h
    cases hdone : updated filter update many ds with
    | error e =>
      rw [hdone] at h
      cases h
    | ok done =>
      rw [hdone] at h
      cases h
      rw [documents_put, if_pos rfl, documents_of_get? hget]
      exact effect_updated hdone

/-! ## Deletions -/

/-- A deletion succeeds if its filter does. -/
theorem exists_delete :
    (∃ count, ((Collections.delete name filter many).runOn cs).1 = .ok count) ↔
      ∃ found, cs.select name filter = .ok found := by
  cases hselect : cs.select name filter with
  | error e => simp [runOn_delete_of_select_error hselect]
  | ok found => simp [runOn_delete_of_select hselect]

/-- It leaves the other documents and tells how many are gone. If all were deleted that the filter
accepts, it finds none any more. -/
theorem delete_eq_ok {count : Nat}
    (h : (Collections.delete name filter many).runOn cs = (.ok count, written)) :
    written.documents name = remaining filter many (cs.documents name) ∧
      count + (written.documents name).length = (cs.documents name).length ∧
      (many = true → written.count name filter = .ok 0) := by
  obtain ⟨found, hselect⟩ := exists_delete.mp ⟨count, by rw [h]⟩
  have hdecided := (select_eq_ok.mp hselect).1
  rw [runOn_delete_of_select hselect] at h
  cases h
  have hleft : (cs.edit name (remaining filter many)).documents name
      = remaining filter many (cs.documents name) := by
    cases hget : cs.get? name with
    | some ds => rw [edit_of_get? hget, documents_put, if_pos rfl, documents_of_get? hget]
    | none =>
      simp only [edit, hget, documents_of_missing hget]
      cases many <;> rfl
  have hlength := (remaining_sublist filter many (cs.documents name)).length_le
  refine ⟨hleft, by rw [hleft]; omega, ?_⟩
  rintro rfl
  -- the filter decides on the documents that are left as it did before, and accepts none of them
  have hnone : (cs.edit name (remaining filter true)).matching name filter = .ok [] := by
    refine matching_eq_ok.mpr ⟨fun d hd => ?_, ?_⟩
    · refine hdecided d ?_
      cases hget : cs.get? name with
      | some ds =>
        rw [tried, edit_of_get? hget, get?_put, if_pos rfl] at hd
        rw [tried, hget]
        exact (remaining_sublist filter true ds).subset hd
      | none => simpa only [tried, edit, hget] using hd
    · rw [hleft]
      refine (List.findIdxs_eq_nil_iff.mpr fun d hd => ?_).symm
      simpa using (List.mem_filter.mp hd).2
  rw [Collections.count, hnone]
  rfl

end Collections

end Effects

/-! ## Calls -/

namespace Store

variable {s s' : Store} {session : Option SessionId} {name : String}

/-- What a call on a session leaves alone: in its view all other collections, the transactions of
other sessions and, if it is made in a transaction, the committed documents. -/
structure Framed (session : Option SessionId) (name : String) (s s' : Store) : Prop where
  elsewhere : ∀ other, other ≠ name →
    (s'.view session).documents other = (s.view session).documents other
  transactions : ∀ id, session ≠ some id → s'.transaction? id = s.transaction? id
  committed : session.bind s.transaction? ≠ none → s'.collections = s.collections

theorem framed_answer [Pattern.Engine] (s : Store) (session : Option SessionId)
    (fresh : Nat → ObjectId) (call : Call) :
    Framed session call.collection s (s.answer session fresh call).2 where
  elsewhere other hother := by
    rw [view_answer_self, Call.documents_perform, if_neg hother]
  transactions id hid := transaction?_answer_ne fresh call hid
  committed hsome := by
    obtain ⟨id, snapshot, rfl, ht, -⟩ | ⟨hnone, -⟩ := s.view_cases session
    · obtain ⟨indexes, heq⟩ := answer_inside ht fresh call
      rw [heq]
      rfl
    · exact absurd hnone hsome

/-- Updates are all or nothing. One succeeds exactly if it is well formed, its filter is not
rejected and it can be applied to every document that it addresses. If it fails, the store is as it
was. If it succeeds, the documents that it addresses have become what it makes of them and all
others have stayed, which the outcome counts, and nothing else is touched. -/
theorem update_exact [Pattern.Engine] (s : Store) (session : Option SessionId)
    (fresh : Nat → ObjectId) (name : String) (filter update : Document) (many : Bool) :
    let answered := s.answer session fresh (.update name filter update many)
    let ds := (s.view session).documents name
    ((∃ outcome, answered.1 = .ok outcome) ↔
      Update.check update = .ok () ∧ (∃ found, (s.view session).select name filter = .ok found) ∧
        ∀ i d, Filter.addresses filter many ds i = true → ds[i]? = some d →
          ∃ d', Update.apply d update = .ok d') ∧
    (∀ e, answered.1 = .error e → answered.2 = s) ∧
    ∀ outcome, answered.1 = .ok outcome →
      (∀ d ∈ ds, Filter.evaluate d filter = .ok (Filter.accepts filter d)) ∧
        Update.Effect update (Filter.addresses filter many ds) ds
          ((answered.2.view session).documents name) outcome ∧
        Framed session name s answered.2 := by
  intro answered ds
  have hframed : Framed session name s answered.2 :=
    framed_answer s session fresh (.update name filter update many)
  cases hcheck : Update.check update with
  | error e =>
    have hanswered : answered = (.error e, s) := by simp only [answered, answer, hcheck]
    simp [hanswered]
  | ok =>
    -- the documents are staged, so a failure leaves the store as it was
    have hwork := Collections.allOrNothing_update name filter update many
    have hanswered : answered
        = s.write session (Collections.update name filter update many).runOn := by
      simp only [answered, answer, hcheck]
    rw [hanswered] at hframed ⊢
    refine ⟨?_, fun e => write_of_allOrNothing_of_error hwork, fun outcome h => ?_⟩
    · rw [write_fst, Collections.exists_update, and_iff_right rfl]
    · have hdone := write_of_allOrNothing_of_ok hwork h
      obtain ⟨⟨found, hselect⟩, -⟩ := Collections.exists_update.mp ⟨outcome, by rw [hdone]⟩
      exact ⟨Collections.decided_of_select hselect, Collections.effect_update hdone, hframed⟩

/-- Two documents that count, the second of them up to the limit already. -/
def counting : Store :=
  { collections := [("c", [[(idField, .int32 1), ("n", .int32 1)],
      [(idField, .int32 2), ("n", .int32 2147483647)]])] }

/-- To count on in both fails and leaves the first one alone, to count on in the first does not. -/
theorem update_exact_counting :
    let increase : Document := [("$inc", .document [("n", .int32 1)])]
    let all := counting.answer none ObjectId.generated (.update "c" [] increase true)
    let one := counting.answer none ObjectId.generated (.update "c" [] increase false)
    all.1 = .error (.invalidQuery (.notANumber "n")) ∧ all.2 = counting ∧
      one.1 = .ok ⟨1, 1⟩ ∧
      Update.Effect increase (Filter.addresses [] false (counting.collections.documents "c"))
        (counting.collections.documents "c") ((one.2.view none).documents "c") ⟨1, 1⟩ := by
  intro increase all one
  obtain ⟨-, hfailed, -⟩ := update_exact counting none ObjectId.generated "c" [] increase true
  obtain ⟨-, -, hdone⟩ := update_exact counting none ObjectId.generated "c" [] increase false
  exact ⟨rfl, hfailed _ rfl, rfl, (hdone ⟨1, 1⟩ rfl).2.1⟩

/-- Deletions remove exactly what matches. One succeeds exactly if its filter is not rejected. If it
fails, the store is as it was. If it succeeds, the documents that the filter accepts are gone, or
the first of them, and the others are left in the same order; it tells how many are gone, finds none
with the same filter any more if all were to go, and touches nothing else. -/
theorem delete_exact [Pattern.Engine] (s : Store) (session : Option SessionId)
    (fresh : Nat → ObjectId) (name : String) (filter : Document) (many : Bool) :
    let answered := s.answer session fresh (.delete name filter many)
    let ds := (s.view session).documents name
    ((∃ count, answered.1 = .ok count) ↔
      ∃ found, (s.view session).select name filter = .ok found) ∧
    (∀ e, answered.1 = .error e → answered.2 = s) ∧
    ∀ count, answered.1 = .ok count →
      let left := (answered.2.view session).documents name
      (∀ d ∈ ds, Filter.evaluate d filter = .ok (Filter.accepts filter d)) ∧
        left = (if many then ds.filter (!Filter.accepts filter ·)
          else ds.eraseP (Filter.accepts filter)) ∧
        count + left.length = ds.length ∧
        (many = true → (answered.2.answer session fresh (.count name filter)).1 = .ok 0) ∧
        Framed session name s answered.2 := by
  intro answered ds
  have hframed : Framed session name s answered.2 :=
    framed_answer s session fresh (.delete name filter many)
  have hwork := Collections.allOrNothing_delete name filter many
  refine ⟨?_, fun e => write_of_allOrNothing_of_error hwork, fun count h => ?_⟩
  · simp only [answered, answer, write_fst]
    exact Collections.exists_delete
  · have hdone := write_of_allOrNothing_of_ok hwork h
    obtain ⟨found, hselect⟩ := Collections.exists_delete.mp ⟨count, by rw [hdone]⟩
    obtain ⟨hleft, hcount, hnone⟩ := Collections.delete_eq_ok hdone
    exact ⟨Collections.decided_of_select hselect, hleft, hcount, hnone, hframed⟩

/-- Three documents, of which the second and the third have a name. -/
def partlyNamed : Store :=
  { collections := [("c", [[(idField, .int32 1)], [(idField, .int32 2), ("name", .string "Tim")],
      [(idField, .int32 3), ("name", .string "Jim")]])] }

/-- With those that have a name one is left, and two with the first of them. -/
theorem delete_exact_partlyNamed :
    let named : Document := [("name", .document [("$exists", .boolean true)])]
    let all := partlyNamed.answer none ObjectId.generated (.delete "c" named true)
    let one := partlyNamed.answer none ObjectId.generated (.delete "c" named false)
    all.1 = .ok 2 ∧ (all.2.view none).documents "c" = [[(idField, .int32 1)]] ∧
      (all.2.answer none ObjectId.generated (.count "c" named)).1 = .ok 0 ∧
      one.1 = .ok 1 ∧ (one.2.view none).documents "c"
        = [[(idField, .int32 1)], [(idField, .int32 3), ("name", .string "Jim")]] := by
  intro named all one
  obtain ⟨-, -, hall⟩ := delete_exact partlyNamed none ObjectId.generated "c" named true
  obtain ⟨-, -, hone⟩ := delete_exact partlyNamed none ObjectId.generated "c" named false
  obtain ⟨-, hleft, -, hcount, -⟩ := hall 2 rfl
  obtain ⟨-, hleft', -⟩ := hone 1 rfl
  exact ⟨rfl, hleft, hcount rfl, rfl, hleft'⟩

end Store

end DocumentStore
