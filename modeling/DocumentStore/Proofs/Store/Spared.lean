import DocumentStore.Proofs.Store.Views

/-!
# Documents that writes pass over

An update or a deletion writes to documents that meet its filter, and leaves every other document
where it is. So a document stays in its collection as long as it meets no filter of a write, also
while transactions are started, committed and aborted.
-/
namespace DocumentStore

variable {d : Document} {ds : List Document}

/-! ## Calls -/

namespace Store

namespace Call

/-- Whether a document does not meet the filter of a call, if the call writes to documents. -/
def Spares (d : Document) : Call → Prop
  | .update _ filter _ _ | .delete _ filter _ => Filter.evaluate d filter = .ok false
  | _ => True

theorem mem_rewrite {call : Call} (hcall : call.Spares d) (hd : d ∈ ds) (fresh : Nat → ObjectId) :
    d ∈ call.rewrite fresh ds := by
  cases call with
  | insert | insertMany =>
    exact Collections.holds_of_inserted hd fun _ => List.mem_append_left _ hd
  | update name filter changes many =>
    refine holds_of_rewrite hd fun ds' hdone => ?_
    obtain ⟨-, -, hdone⟩ := Result.bind_eq_ok hdone
    obtain ⟨⟨outcome, _⟩, hupdated, hdone⟩ := Result.bind_eq_ok hdone
    cases hdone
    obtain ⟨i, hi⟩ := List.mem_iff_getElem?.mp hd
    have hspared : Filter.addresses filter many ds i = false := by
      simp [Filter.addresses, hi, Filter.accepts_of_evaluate hcall]
    exact List.mem_of_getElem? (((Collections.effect_updated hupdated).kept i hspared).trans hi)
  | delete name filter many =>
    refine holds_of_rewrite hd fun ds' hdone => ?_
    obtain ⟨⟨count, _⟩, hdeleted, hdone⟩ := Result.bind_eq_ok hdone
    cases hdone
    obtain ⟨-, hleft, -⟩ := Collections.deleted_eq_ok.mp hdeleted
    rw [hleft]
    exact Collections.mem_remaining (Filter.accepts_of_evaluate hcall) hd
  | _ => exact hd

theorem mem_perform {call : Call} (hcall : call.Spares d) {cs : Collections} {name : String}
    (hd : d ∈ cs.documents name) (fresh : Nat → ObjectId) :
    d ∈ (call.perform fresh cs).documents name := by
  rw [documents_perform]
  split
  · rename_i hname
    exact mem_rewrite hcall (hname ▸ hd) fresh
  · exact hd

end Call

/-! ## Stores that hold a document -/

/-- Whether a session sees a document of a collection: in a transaction that the session has joined,
or else among the committed documents too. -/
structure Holding (session : Option SessionId) (joined : Bool) (name : String) (d : Document)
    (s : Store) : Prop where
  isOpen : ∀ id ∈ session, s.IsOpen id
  seen : d ∈ (s.view session).documents name
  elsewhere : if joined then ∃ id ∈ session, s.inTransaction id = true
    else d ∈ (s.view none).documents name

namespace Holding

variable {session : Option SessionId} {joined : Bool} {name : String} {s : Store}

/-- What a session sees is private to its transaction or committed. -/
theorem exists_of_seen (hopen : ∀ id ∈ session, s.IsOpen id)
    (hd : d ∈ (s.view session).documents name) : ∃ joined, Holding session joined name d s := by
  obtain ⟨id, snapshot, rfl, ht, -⟩ | ⟨-, hview⟩ := s.view_cases session
  · exact ⟨true, hopen, hd, id, rfl, inTransaction_eq_true.mpr ⟨snapshot, ht⟩⟩
  · have hcommitted : d ∈ (s.view none).documents name := by rwa [hview] at hd
    exact ⟨false, hopen, hd, hcommitted⟩

theorem answer (h : Holding session joined name d s) {call : Call} (hcall : call.Spares d)
    (fresh : Nat → ObjectId) : Holding session joined name d (s.answer session fresh call).2 := by
  have hseen := Call.mem_perform hcall h.seen fresh
  refine ⟨fun id hid => (isOpen_answer fresh call id).mpr (h.isOpen id hid), ?_, ?_⟩
  · rw [view_answer_self]
    exact hseen
  · cases joined with
    | true =>
      obtain ⟨id, hid, hin⟩ := h.elsewhere
      exact ⟨id, hid, (inTransaction_answer fresh call id).trans hin⟩
    | false =>
      obtain hperformed | hkept := @view_answer_other s session _ fresh call none
      · exact hperformed ▸ hseen
      · exact hkept ▸ h.elsewhere

/-- Without a session there is no transaction to join. -/
theorem joined_none (h : Holding none joined name d s) : joined = false := by
  cases joined with
  | false => rfl
  | true =>
    obtain ⟨id, hid, -⟩ := h.elsewhere
    cases hid

theorem openSession (h : Holding none joined name d s) :
    Holding (some s.openSession.1) false name d s.openSession.2 := by
  have hview := view_of_none s.free_openSession.bind_transaction?
  refine ⟨?_, hview ▸ h.seen, h.seen⟩
  rintro _ ⟨⟩
  exact s.isOpen_openSession

theorem dropSession {id : SessionId} (h : Holding (some id) false name d s) :
    Holding none false name d (s.dropSession id) := by
  have hcommitted : d ∈ ((s.dropSession id).view none).documents name := by
    have hview : (s.dropSession id).view none = s.view none := dropSession_collections s id
    rw [hview]
    exact h.elsewhere
  exact ⟨nofun, hcommitted, hcommitted⟩

/-- Where a session and all others see what one of the two has seen, the document is still there. -/
theorem of_views {id : SessionId} {s' : Store} (h : Holding (some id) false name d s)
    (hopen : s'.IsOpen id)
    (hviews : ∀ viewer ∈ [some id, none], ∃ other ∈ [some id, none],
      s'.view viewer = s.view other) : Holding (some id) false name d s' := by
  have hkept (viewer : Option SessionId) (hviewer : viewer ∈ [some id, none]) :
      d ∈ (s'.view viewer).documents name := by
    obtain ⟨other, hother, hview⟩ := hviews viewer hviewer
    rw [hview]
    obtain rfl | rfl : other = some id ∨ other = none := by simpa using hother
    · exact h.seen
    · exact h.elsewhere
  refine ⟨?_, hkept _ (by simp), hkept _ (by simp)⟩
  rintro _ ⟨⟩
  exact hopen

end Holding

/-! ## Transactions that start and end -/

section Views

variable (s : Store) (id : SessionId)

theorem view_abort_self : (s.abort id).view (some id) = s.view none := by
  refine (view_of_none ?_).trans (abort_collections s id)
  exact (transaction?_abort s id id).trans (if_pos rfl)

theorem views_abort (viewer : Option SessionId) (hviewer : viewer ∈ [some id, none]) :
    ∃ other ∈ [some id, none], (s.abort id).view viewer = s.view other := by
  refine ⟨none, by simp, ?_⟩
  obtain rfl | rfl : viewer = some id ∨ viewer = none := by simpa using hviewer
  · exact view_abort_self s id
  · exact abort_collections s id

theorem views_start (viewer : Option SessionId) (hviewer : viewer ∈ [some id, none]) :
    ∃ other ∈ [some id, none], (s.start id).2.view viewer = s.view other := by
  obtain ⟨e, failingStarts, heq⟩ | ⟨-, -, heq⟩ := s.start_cases id
  · rw [heq]
    exact ⟨viewer, hviewer, rfl⟩
  · rw [heq]
    refine ⟨none, by simp, ?_⟩
    obtain ⟨other, snapshot, rfl, ht, hview⟩ | ⟨-, hview⟩ :=
      (s.setTransaction id (some ⟨s.version, s.collections⟩)).view_cases viewer
    · obtain rfl : other = id := by simpa using hviewer
      have hopen := (setTransaction_isOpen s other other _).mp (isOpen_of_transaction? ht)
      rw [transaction?_setTransaction_self hopen] at ht
      cases ht
      exact hview
    · exact hview

theorem views_commit (viewer : Option SessionId) (hviewer : viewer ∈ [some id, none]) :
    ∃ other ∈ [some id, none], (s.commit id).2.view viewer = s.view other := by
  obtain ⟨e, -, heq⟩ | ⟨e, failingCommits, heq⟩ | ⟨snapshot, ht, -, heq⟩ := s.commit_cases id
  · rw [heq]
    exact ⟨viewer, hviewer, rfl⟩
  · rw [heq]
    exact views_abort s id viewer hviewer
  · rw [heq]
    refine ⟨some id, by simp, ?_⟩
    -- what the session has seen is committed, and its transaction is over
    have hover := (transaction?_setTransaction_none s id id).trans (if_pos rfl)
    have hseen := (view_of_transaction? ht).symm
    obtain rfl | rfl : viewer = some id ∨ viewer = none := by simpa using hviewer
    · refine (view_of_none ?_).trans hseen
      exact hover
    · exact hseen

end Views

end Store

end DocumentStore
