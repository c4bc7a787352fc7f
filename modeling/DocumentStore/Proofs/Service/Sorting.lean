import DocumentStore.Proofs.Query.Sort
import DocumentStore.Proofs.Service.Run

/-!
# Documents in the order of a query

The sort keys of a query are written to a document, in which every path has one place and one value:
the place of the first key with the path and the direction of the last. Later keys with a path
decide nothing, since their documents are level on it, so the document sorts like the list of keys
if the first and the last key of each path are the same.
-/
namespace DocumentStore.Document

/-! ## Fields that are written more than once -/

variable {p : String → Bool}

/-- Writing a field does not change which names come first. -/
theorem find?_insert (d : Document) (key : String) (value : Value) :
    (d.insert key value).find? (p ·.1) = match d.find? (p ·.1) with
      | some field => some (if field.1 = key then (key, value) else field)
      | none => if p key then some (key, value) else none := by
  induction d with
  | nil => cases h : p key <;> simp [insert, h]
  | cons field rest ih =>
    obtain ⟨name, old⟩ := field
    by_cases hname : name = key
    · subst hname
      cases h : p name with
      | true => simp [insert, h]
      | false =>
        -- the field that is written is not looked for, and no other one has its name
        rw [insert, if_pos rfl, List.find?_cons_of_neg (by simp [h]),
          List.find?_cons_of_neg (by simp [h])]
        cases hfind : rest.find? (p ·.1) with
        | none => simp
        | some field =>
          have hne : field.1 ≠ name := by
            rintro rfl
            simpa [h] using List.find?_some hfind
          simp [hne]
    · cases h : p name <;> simp [insert, hname, h, ih]

/-- What is written with several fields of a name is the last one, in the place of the first. -/
theorem find?_ofFields (fields : List (String × Value)) :
    (ofFields fields).find? (p ·.1)
      = (fields.find? (p ·.1)).bind fun first => fields.reverse.find? (·.1 = first.1) := by
  induction fields using List.reverseRecOn with
  | nil => rfl
  | append_singleton fields field ih =>
    obtain ⟨name, value⟩ := field
    have hinsert : ofFields (fields ++ [(name, value)]) = (ofFields fields).insert name value := by
      simp only [ofFields, List.foldl_append, List.foldl_cons, List.foldl_nil]
    rw [hinsert, find?_insert, ih, List.find?_append, List.reverse_append]
    cases hfirst : fields.find? (p ·.1) with
    -- the last field comes first only where it is the only one that is looked for
    | none => cases h : p name <;> simp [h]
    | some first =>
      obtain ⟨last, hlast⟩ : ∃ last, fields.reverse.find? (·.1 = first.1) = some last := by
        refine Option.isSome_iff_exists.mp (List.find?_isSome.mpr ⟨first, ?_, by simp⟩)
        exact List.mem_reverse.mpr (List.mem_of_find?_eq_some hfirst)
      have hname : last.1 = first.1 := by simpa using List.find?_some hlast
      by_cases h : name = first.1
      · simp [hlast, hname, h]
      · simp [hlast, hname, h, Ne.symm h]

end DocumentStore.Document

namespace DocumentStore.Sort

/-! ## Sort documents -/

variable {keys : List (String × Value)} {a b : Document}

/-- The first key that tells two documents apart decides. -/
theorem compareBy_eq_find (keys : List (String × Value)) (a b : Document) :
    compareBy keys a b
      = (keys.find? fun key => !decide (Level key.1 a b)).elim .eq (compareAt · a b) := by
  induction keys with
  | nil => rfl
  | cons key rest ih =>
    rw [compareBy_cons]
    by_cases h : Level key.1 a b
    · rw [compareAt_eq_eq.mpr h, List.find?_cons_of_neg (by simpa using h), ← ih]
      rfl
    · rw [List.find?_cons_of_pos (by simpa using h)]
      cases hcmp : compareAt key a b with
      | eq => exact absurd (compareAt_eq_eq.mp hcmp) h
      | lt | gt => exact hcmp.symm

/-- Whether the first and the last key with a path are the same. -/
def Agreeing (keys : List (String × Value)) : Prop :=
  ∀ key ∈ keys, keys.find? (·.1 = key.1) = keys.reverse.find? (·.1 = key.1)

/-- The document that such keys are written to sorts like their list. -/
theorem compareBy_ofFields (h : Agreeing keys) (a b : Document) :
    compareBy (Document.ofFields keys) a b = compareBy keys a b := by
  rw [compareBy_eq_find, compareBy_eq_find,
    Document.find?_ofFields (p := fun path => !decide (Level path a b)) keys]
  cases hfirst : keys.find? fun key => !decide (Level key.1 a b) with
  | none => rfl
  | some first =>
    -- the first key that decides is the first with its path
    have hpath : keys.find? (·.1 = first.1) = some first := by
      obtain ⟨hapart, before, after, rfl, hbefore⟩ := List.find?_eq_some_iff_append.mp hfirst
      refine List.find?_eq_some_iff_append.mpr ⟨by simp, before, after, rfl, fun key hkey => ?_⟩
      have hlevel := hbefore key hkey
      simp only [Bool.not_not, decide_eq_true_eq] at hlevel
      simp only [Bool.not_eq_true', decide_eq_false_iff_not] at hapart ⊢
      exact fun hsame => hapart (hsame ▸ hlevel)
    simp only [Option.bind_some, ← h first (List.mem_of_find?_eq_some hfirst), hpath]

theorem documents_ofFields (h : Agreeing keys) (ds : List Document) :
    documents (Document.ofFields keys) ds = documents keys ds :=
  stable_congr fun a _ b _ => by rw [compareBy_ofFields h]

/-- Without keys documents stay as they are. -/
theorem documents_nil (ds : List Document) : documents [] ds = ds := by
  induction ds using List.reverseRecOn with
  | nil => rfl
  | append_singleton ds d ih =>
    have hlast (l : List Document) :
        insertBehind (fun a b => compareBy [] a b == .lt) d l = d :: l := by
      cases l <;> rfl
    refine List.reverse_inj.mp ?_
    rw [documents, reverse_stable_concat, hlast, ← documents, ih, List.reverse_append]
    rfl

end DocumentStore.Sort

namespace DocumentStore

open Process

/-! ## Queries -/

theorem Collections.arrange_eq (options : FindOptions) (ds : List Document) :
    arrange options ds
      = (takeLimit options.limit
          ((options.sort.elim ds (Sort.documents · ds)).drop (options.skip.getD 0))).map
            fun d => options.projection.elim d (Projection.apply · d) := by
  unfold arrange
  cases options.sort <;> cases options.projection <;> simp

namespace Query

variable {q : Query}

/-- The keys of a query as they are written to a sort document. -/
def keys (q : Query) : List (String × Value) :=
  q.sort.map fun key => (key.path, key.direction.value)

def projected (q : Query) (d : Document) : Document := q.projection.elim d (Projection.apply · d)

/-- Whether the first and the last key of each path are the same. -/
def Agreeing (q : Query) : Prop :=
  ∀ key ∈ q.sort, q.sort.find? (·.path = key.path) = q.sort.reverse.find? (·.path = key.path)

instance : Decidable q.Agreeing := inferInstanceAs (Decidable (∀ key ∈ q.sort, _))

theorem Agreeing.keys (h : q.Agreeing) : Sort.Agreeing q.keys := by
  intro field hfield
  obtain ⟨key, hkey, rfl⟩ := List.mem_map.mp hfield
  rw [Query.keys, ← List.map_reverse, List.find?_map, List.find?_map]
  exact congrArg (Option.map _) (h key hkey)

/-- Without offset and limit, all documents are given in the order of the keys. -/
theorem arrange_options (hoffset : q.offset = none) (hlimit : q.limit = none) (hkeys : q.Agreeing)
    (ds : List Document) :
    Collections.arrange q.options ds = (Sort.documents q.keys ds).map q.projected := by
  have hsorted : q.sortDocument?.elim ds (Sort.documents · ds) = Sort.documents q.keys ds := by
    unfold sortDocument?
    cases hsort : q.sort with
    | nil => rw [keys, hsort]; exact (Sort.documents_nil ds).symm
    | cons key rest =>
      rw [← Sort.documents_ofFields hkeys.keys, Document.ofFields, keys, List.foldl_map, hsort]
      rfl
  rw [Collections.arrange_eq]
  simp only [options, hoffset, hlimit, hsorted, Collections.takeLimit, Option.getD_none,
    List.drop_zero]
  rfl

end Query

/-! ## Finding documents -/

/-- Documents are found in the lexicographic order of the sort keys, ties in the order in which they
are stored, if the first and the last key of each path are the same. -/
theorem Handle.findDocuments_sorted (h : Handle) (session : Option SessionId) (s : State)
    {q : Query} (hoffset : q.offset = none) (hlimit : q.limit = none) (hkeys : q.Agreeing)
    (hcomparable :
      Sort.Comparable q.keys ((s.store.view session).documents h.service.collection)) :
    (∃ e, (s.store.view session).select h.service.collection q.filterDocument = .error e ∧
      ends (h.findDocuments session q).run s = (.ok (.error e), s)) ∨
    ∃ found sorted,
      (s.store.view session).select h.service.collection q.filterDocument = .ok found ∧
      found.Sublist ((s.store.view session).documents h.service.collection) ∧
      Sort.Sorted (Sort.Precedes q.keys) (Sort.Ties q.keys) found sorted ∧
      ends (h.findDocuments session q).run s = (.ok (.ok (sorted.map q.projected)), s) := by
  have hends : ends (h.findDocuments session q).run s
      = (.ok ((s.store.view session).find h.service.collection q.filterDocument q.options), s) :=
    rfl
  rw [hends, Collections.find]
  cases hselect : (s.store.view session).select h.service.collection q.filterDocument with
  | error e => exact .inl ⟨e, rfl, rfl⟩
  | ok found =>
    have hsub := Collections.select_sublist hselect
    refine .inr ⟨found, Sort.documents q.keys found, rfl, hsub, ?_, ?_⟩
    · exact Sort.documents_sorted fun d hd => hcomparable d (hsub.subset hd)
    · rw [← Query.arrange_options hoffset hlimit hkeys]
      rfl

/-- People by city and, within a city, from old to young. The city is asked for twice. -/
theorem Handle.findDocuments_sorted_people :
    let h : Handle := { service := { name := "People", collection := "people", key := .integer } }
    let s : State := { store := { collections := [("people", [
      [(idField, .int64 1), ("city", .string "Rome"), ("age", .int32 30)],
      [(idField, .int64 2), ("city", .string "Rome"), ("age", .int32 40)],
      [(idField, .int64 3), ("age", .null)],
      [(idField, .int64 4), ("city", .string "Rome"), ("age", .double (.ofInt 40))]])] } }
    let q : Query := { sort := [⟨"city", .ascending⟩, ⟨"age", .descending⟩, ⟨"city", .ascending⟩] }
    q.Agreeing ∧
      Sort.Comparable q.keys ((s.store.view none).documents "people") ∧
      ((∃ e, (s.store.view none).select "people" q.filterDocument = .error e ∧
        ends (h.findDocuments none q).run s = (.ok (.error e), s)) ∨
      ∃ found sorted, (s.store.view none).select "people" q.filterDocument = .ok found ∧
        found.Sublist ((s.store.view none).documents "people") ∧
        Sort.Sorted (Sort.Precedes q.keys) (Sort.Ties q.keys) found sorted ∧
        ends (h.findDocuments none q).run s = (.ok (.ok (sorted.map q.projected)), s)) ∧
      (ends (h.findDocuments none q).run s).1.toOption.bind (·.toOption.map
        (·.map (Document.get? · idField))) = some ([3, 2, 4, 1].map (some <| .int64 ·)) := by
  intro h s q
  have hkeys : q.Agreeing := by decide
  have hcomparable : Sort.Comparable q.keys ((s.store.view none).documents "people") := by decide
  exact ⟨hkeys, hcomparable, h.findDocuments_sorted none s rfl rfl hkeys hcomparable, rfl⟩

/-- A path that is asked for in both directions is sorted in the last one, though the first key
alone would put the documents in the other order. -/
theorem Handle.findDocuments_turned :
    let h : Handle := { service := { name := "Alpha", collection := "alphas", key := .integer } }
    let first : Document := [(idField, .int64 1), ("a", .int32 1)]
    let second : Document := [(idField, .int64 2), ("a", .int32 2)]
    let s : State := { store := { collections := [("alphas", [first, second])] } }
    let q : Query := { sort := [⟨"a", .ascending⟩, ⟨"a", .descending⟩] }
    Sort.Comparable q.keys ((s.store.view none).documents "alphas") ∧
      (s.store.view none).select "alphas" q.filterDocument = .ok [first, second] ∧
      ends (h.findDocuments none q).run s = (.ok (.ok [second, first]), s) ∧
      Sort.Precedes q.keys first second ∧
      ¬ Sort.Sorted (Sort.Precedes q.keys) (Sort.Ties q.keys) [first, second] [second, first] := by
  intro h first second s q
  have hprecedes : Sort.Precedes q.keys first second := Sort.compareBy_eq_lt.mp rfl
  -- in order, nothing would stand behind what it precedes
  refine ⟨by decide, rfl, rfl, hprecedes, fun hsorted => ?_⟩
  exact List.rel_of_pairwise_cons hsorted.pairwise List.mem_cons_self hprecedes

end DocumentStore
