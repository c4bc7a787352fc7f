import DocumentStore.Store.Collections
import Mathlib.Data.List.Basic

/-!
# Positions of documents that a filter accepts

A filter is tried on one document after the other, and the first one that it fails on ends the
search. Searches, counts and writes keep the positions of the documents that were accepted, while a
pipeline keeps the documents themselves. The two come to the same, errors included.
-/
namespace DocumentStore

variable [Pattern.Engine]

variable {filter d : Document} {ds : List Document} {positions : List Nat} {e : ServiceError}

namespace Filter

/-- Whether a filter accepts a document. -/
def accepts (filter d : Document) : Bool := (evaluate d filter).toOption.getD false

theorem accepts_of_evaluate {met : Bool} (h : evaluate d filter = .ok met) :
    accepts filter d = met := by
  rw [accepts, h]
  rfl

/-! ## What is found -/

theorem positionsFrom_cons_of_ok {met : Bool} (h : evaluate d filter = .ok met) (start : Nat)
    (rest : List Document) :
    positionsFrom filter start (d :: rest)
      = (positionsFrom filter (start + 1) rest).map fun others =>
          if met then start :: others else others := by
  rw [positionsFrom, h]
  cases positionsFrom filter (start + 1) rest <;> rfl

theorem positionsFrom_cons_of_error (h : evaluate d filter = .error e) (start : Nat)
    (rest : List Document) : positionsFrom filter start (d :: rest) = .error e := by
  rw [positionsFrom, h]
  rfl

theorem positionsFrom_eq_ok {start : Nat} :
    positionsFrom filter start ds = .ok positions ↔
      (∀ d ∈ ds, evaluate d filter = .ok (accepts filter d)) ∧
        positions = ds.findIdxs (accepts filter) start := by
  induction ds generalizing start positions with
  | nil => simp [positionsFrom, eq_comm]
  | cons d rest ih =>
    rw [List.forall_mem_cons, List.findIdxs_cons]
    cases heval : evaluate d filter with
    | error e =>
      rw [positionsFrom_cons_of_error heval]
      simp
    | ok met =>
      obtain rfl := accepts_of_evaluate heval
      rw [positionsFrom_cons_of_ok heval, and_iff_right rfl]
      -- past a document on which it decides, the filter is tried on the rest from the next position
      constructor
      · intro h
        cases hrest : positionsFrom filter (start + 1) rest with
        | error e =>
          rw [hrest] at h
          cases h
        | ok others =>
          rw [hrest] at h
          obtain ⟨hdecided, rfl⟩ := ih.mp hrest
          exact ⟨hdecided, (Except.ok.inj h).symm⟩
      · rintro ⟨hdecided, rfl⟩
        rw [ih.mpr ⟨hdecided, rfl⟩]
        rfl

/-- The positions are found if the filter decides on every document, and are those of the
documents that it accepts. -/
theorem positions_eq_ok :
    Filter.positions filter ds = .ok positions ↔
      (∀ d ∈ ds, evaluate d filter = .ok (accepts filter d)) ∧
        positions = ds.findIdxs (accepts filter) :=
  positionsFrom_eq_ok

theorem exists_positions :
    (∃ positions, Filter.positions filter ds = .ok positions) ↔
      ∀ d ∈ ds, evaluate d filter = .ok (accepts filter d) := by
  simp [positions_eq_ok]

/-- Filters that no document tells apart find the same positions. -/
theorem positionsFrom_congr {other : Document} (h : ∀ d, evaluate d filter = evaluate d other)
    (start : Nat) (ds : List Document) :
    positionsFrom filter start ds = positionsFrom other start ds := by
  induction ds generalizing start with
  | nil => rfl
  | cons d rest ih => rw [positionsFrom, positionsFrom, h d, ih]

/-- So they select the same documents of every collection. -/
theorem select_congr {other : Document} (h : ∀ d, evaluate d filter = evaluate d other)
    (cs : Collections) (name : String) : cs.select name filter = cs.select name other := by
  have hmatching : cs.matching name filter = cs.matching name other := by
    unfold Collections.matching
    rw [h []]
    cases cs.get? name with
    | none => rfl
    | some ds => exact positionsFrom_congr h 0 ds
  rw [Collections.select, Collections.select, hmatching]

/-! ## Documents at positions -/

omit [Pattern.Engine] in
/-- The documents at the positions are those that were accepted. -/
theorem filterMap_findIdxs (p : Document → Bool) (before ds : List Document) :
    (ds.findIdxs p before.length).filterMap ((before ++ ds)[·]?) = ds.filter p := by
  induction ds generalizing before with
  | nil => rfl
  | cons d rest ih =>
    have hrest := ih (before ++ [d])
    rw [List.append_assoc, List.singleton_append, List.length_append,
      List.length_singleton] at hrest
    cases hd : p d with
    | false =>
      rw [List.findIdxs_cons, hd, List.filter_cons_of_neg (by simp [hd]), ← hrest]
      rfl
    | true =>
      rw [List.findIdxs_cons, hd, if_pos rfl, List.filter_cons_of_pos hd, ← hrest,
        List.filterMap_cons_some (b := d) (by simp)]

/-- What a pipeline keeps are the documents at the positions that a search finds, and where one of
the two fails, so does the other, with the same error. -/
theorem keepMatching_eq_positionsFrom (filter : Document) (before ds : List Document) :
    Pipeline.keepMatching filter ds
      = (positionsFrom filter before.length ds).map (·.filterMap ((before ++ ds)[·]?)) := by
  induction ds generalizing before with
  | nil => rfl
  | cons d rest ih =>
    -- the document has its position behind those that were tried before
    have hrest := ih (before ++ [d])
    rw [List.append_assoc, List.singleton_append, List.length_append,
      List.length_singleton] at hrest
    rw [Pipeline.keepMatching, hrest]
    cases heval : evaluate d filter with
    | error e =>
      rw [positionsFrom_cons_of_error heval]
      rfl
    | ok met =>
      rw [positionsFrom_cons_of_ok heval]
      cases positionsFrom filter (before.length + 1) rest with
      | error e => cases met <;> rfl
      | ok others =>
        cases met with
        | false => rfl
        | true =>
          refine congrArg Except.ok (List.filterMap_cons_some (b := d) ?_).symm
          simp

theorem keepMatching_eq_positions (filter : Document) (ds : List Document) :
    Pipeline.keepMatching filter ds
      = (Filter.positions filter ds).map (·.filterMap (ds[·]?)) :=
  keepMatching_eq_positionsFrom filter [] ds

/-! ## Documents that are addressed -/

/-- Whether a write addresses the document at a position: the filter accepts it, and none before it
if one document is to be written. -/
def addresses (filter : Document) (many : Bool) (ds : List Document) (i : Nat) : Bool :=
  ds[i]?.any (accepts filter) && (many || !(ds.take i).any (accepts filter))

section

variable {many : Bool}

@[simp] theorem addresses_cons_zero :
    addresses filter many (d :: ds) 0 = accepts filter d := by
  simp [addresses]

@[simp] theorem addresses_cons_succ (i : Nat) :
    addresses filter many (d :: ds) (i + 1)
      = (addresses filter many ds i && (many || !accepts filter d)) := by
  simp only [addresses, List.getElem?_cons_succ, List.take_succ_cons, List.any_cons, Bool.not_or]
  cases many <;> cases accepts filter d <;> simp

end

omit [Pattern.Engine] in
theorem filter_range_cons (p : Nat → Bool) (d : Document) (rest : List Document) :
    (List.range (d :: rest).length).filter p
      = (if p 0 then [0] else [])
        ++ ((List.range rest.length).filter fun i => p (i + 1)).map (· + 1) := by
  rw [List.length_cons, List.range_succ_eq_map, List.filter_cons, List.filter_map]
  cases p 0 <;> rfl

omit [Pattern.Engine] in
theorem chosen_map_succ (many : Bool) (positions : List Nat) :
    Collections.chosen many (positions.map (· + 1))
      = (Collections.chosen many positions).map (· + 1) := by
  cases many with
  | true => rfl
  | false => exact (List.map_take ..).symm

/-- The positions that are chosen for a write are those that it addresses. -/
theorem chosen_findIdxs (filter : Document) (many : Bool) (ds : List Document) :
    Collections.chosen many (ds.findIdxs (accepts filter))
      = (List.range ds.length).filter (addresses filter many ds) := by
  induction ds with
  | nil => cases many <;> rfl
  | cons d rest ih =>
    rw [List.findIdxs_cons, List.findIdxs_start, filter_range_cons]
    simp only [addresses_cons_zero, addresses_cons_succ]
    cases hd : accepts filter d with
    | false => simpa [chosen_map_succ] using congrArg (List.map (· + 1)) ih
    | true =>
      cases many with
      | true => simpa [Collections.chosen] using congrArg (List.map (· + 1)) ih
      -- once a document is addressed, none after it is
      | false => simp [Collections.chosen]

/-! ## Filters that accept or refuse every document -/

/-- Whether a filter decides on all documents of a list, and on the empty document, against which
it is checked where a collection is not there. -/
structure Decides (filter : Document) (p : Document → Bool) (ds : List Document) : Prop where
  evaluate : ∀ d ∈ ds, Filter.evaluate d filter = .ok (p d)
  empty : Filter.evaluate [] filter = .ok (p [])

namespace Decides

variable {p : Document → Bool}

theorem of_cons (h : Decides filter p (d :: ds)) : Decides filter p ds :=
  ⟨fun d hd => h.evaluate d (List.mem_cons_of_mem _ hd), h.empty⟩

theorem accepts (h : Decides filter p ds) (hd : d ∈ ds) : Filter.accepts filter d = p d :=
  accepts_of_evaluate (h.evaluate d hd)

theorem decided (h : Decides filter p ds) :
    ∀ d ∈ ds, Filter.evaluate d filter = .ok (Filter.accepts filter d) :=
  fun d hd => (h.accepts hd).symm ▸ h.evaluate d hd

end Decides

end Filter

end DocumentStore
