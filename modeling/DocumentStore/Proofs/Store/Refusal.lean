import DocumentStore.Proofs.Filter.Forecast
import DocumentStore.Proofs.Store.Writes

/-!
# Filters that are refused

A call tries its filter on the documents of its collection, or on the empty document if the
collection is not there, and is refused if the filter fails on one of them. Where something is
forecast for the filter, one that fails on any document at all fails on each, so it is refused
whatever the documents are, as long as there is one to try it on. A collection that is there without
documents has none and accepts every filter, and a filter with a condition in front of its malformed
part is accepted by documents that the condition settles.
-/
namespace DocumentStore

variable {filter d : Document} {e : ServiceError}

/-- A filter that fails on a document that it is tried on selects nothing. -/
theorem Collections.select_of_tried [Pattern.Engine] {cs : Collections} {name : String}
    (hd : d ∈ cs.tried name) (hfails : Filter.evaluate d filter = .error e) :
    ∃ e', cs.select name filter = .error e' := by
  cases hselect : cs.select name filter with
  | error e' => exact ⟨e', rfl⟩
  | ok found => cases hfails.symm.trans ((select_eq_ok.mp hselect).1 d hd)

/-! ## Calls that are refused -/

namespace Store

variable {s : Store} {session : Option SessionId} {fresh : Nat → ObjectId} {name : String}

/-- A filter that fails on a document is refused by every call that tries it on this document, and
if something is forecast for it by every call that tries it on any. An update document that is
itself malformed is refused before. -/
theorem refused_of_fails [Pattern.Engine] (hfails : Filter.evaluate d filter = .error e)
    (htried : d ∈ (s.view session).tried name ∨
      Filter.forecast filter ≠ .uncertain ∧ (s.view session).tried name ≠ []) :
    ∃ e', (∀ options, (s.answer session fresh (.find name filter options)).1 = .error e') ∧
      (s.answer session fresh (.count name filter)).1 = .error e' ∧
      ∀ many, (s.answer session fresh (.delete name filter many)).1 = .error e' ∧
        ∀ update, (s.answer session fresh (.update name filter update many)).1
          = (Update.check update).bind fun _ => .error e' := by
  -- whichever way, there is a document that the filter is tried on and fails on
  obtain ⟨d', hd', e, hfails⟩ : ∃ d' ∈ (s.view session).tried name, ∃ e,
      Filter.evaluate d' filter = .error e := by
    obtain htried | ⟨hforecast, htried⟩ := htried
    · exact ⟨d, htried, e, hfails⟩
    · obtain ⟨d', rest, heq⟩ := List.exists_cons_of_ne_nil htried
      exact ⟨d', heq ▸ List.mem_cons_self, e, Filter.fails_of_forecast hforecast hfails d'⟩
  obtain ⟨e', hselect⟩ := Collections.select_of_tried hd' hfails
  refine ⟨e', fun options => ?_, ?_, fun many => ⟨?_, fun update => ?_⟩⟩
  · simp only [answer, Collections.find, hselect, bind, Except.bind]
  · simp only [answer, Collections.count, Collections.matching_of_select_error hselect, bind,
      Except.bind]
  · simp only [answer, write_fst, Collections.runOn_delete_of_select_error hselect]
  · simp only [answer]
    cases Update.check update with
    | error e => rfl
    | ok _ =>
      simp only [write_fst, Collections.runOn_update_of_select_error hselect]
      rfl

/-- A filter that fails on the empty document, and before it asks for a name. -/
theorem refused_of_fails_near :
    let filter : Document := [("age", .document [("$near", .int32 1)]), ("name", .string "Tim")]
    let s : Store := { collections := Collections.put [] "people" [[("name", .string "Ada")]] }
    Filter.evaluate [] filter = .error (.invalidQuery (.unknownOperator "$near")) ∧
      Filter.forecast filter ≠ .uncertain ∧ (s.view none).tried "people" ≠ [] ∧
      ∃ e, (∀ options, (s.answer none ObjectId.generated (.find "people" filter options)).1
          = .error e) ∧
        (s.answer none ObjectId.generated (.count "people" filter)).1 = .error e ∧
        ∀ many, (s.answer none ObjectId.generated (.delete "people" filter many)).1 = .error e ∧
          ∀ update, (s.answer none ObjectId.generated (.update "people" filter update many)).1
            = (Update.check update).bind fun _ => .error e := by
  have hfails : Filter.evaluate []
      [("age", .document [("$near", .int32 1)]), ("name", .string "Tim")]
        = .error (.invalidQuery (.unknownOperator "$near")) := rfl
  exact ⟨hfails, nofun, nofun, refused_of_fails hfails (.inr ⟨nofun, nofun⟩)⟩

/-- A filter that fails on the empty document is accepted by a collection that has no documents, and
one that fails on some documents by a collection whose documents it turns down before. -/
theorem malformed_accepted :
    let unknown : Document := [("$foo", .int32 1)]
    let late : Document := [("name", .string "Tim"), ("age", .document [("$near", .int32 1)])]
    let rename : Document := [("$set", .document [("name", .string "Tom")])]
    let s : Store :=
      { collections := Collections.put (Collections.put [] "empty" []) "people"
          [[("name", .string "Ada")]] }
    Filter.evaluate [] unknown = .error (.invalidQuery (.unknownJunction "$foo")) ∧
      Filter.evaluate [("name", .string "Tim")] late
        = .error (.invalidQuery (.unknownOperator "$near")) ∧
      ∀ asked ∈ [("empty", unknown), ("people", late)],
        (s.answer none ObjectId.generated (.find asked.1 asked.2 {})).1 = .ok [] ∧
        (s.answer none ObjectId.generated (.count asked.1 asked.2)).1 = .ok 0 ∧
        (s.answer none ObjectId.generated (.update asked.1 asked.2 rename true)).1
          = .ok ⟨0, 0⟩ ∧
        (s.answer none ObjectId.generated (.delete asked.1 asked.2 true)).1 = .ok 0 := by
  refine ⟨rfl, rfl, fun asked hasked => ?_⟩
  obtain rfl | rfl : asked = ("empty", _) ∨ asked = ("people", _) := by simpa using hasked
  · exact ⟨rfl, rfl, rfl, rfl⟩
  · exact ⟨rfl, rfl, rfl, rfl⟩

end Store

end DocumentStore
