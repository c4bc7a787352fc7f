import DocumentStore.Proofs.Path.Way

/-!
# Writing in place

A value can be written to a document in place, one dot of the path after the other. Documents that
are missing on the way are then made before the rest of the path is tried. In what was made just now
every path can be written, so a write that fails has made nothing, and the document is left as it
was. A write that succeeds can be read, moves no field from its place, and is not seen where the
path does not lead.
-/
namespace DocumentStore

/-! ## Places of fields -/

theorem Document.keys_prefix_insert (d : Document) (key : String) (value : Value) :
    d.keys <+: (d.insert key value).keys := by
  rw [keys_insert]
  split
  · exact List.prefix_rfl
  · exact List.prefix_append _ _

namespace Path

variable {d d' : Document} {path seen name next : String} {rest level : List String} {value : Value}

/-! ## One dot at a time -/

/-- What stands before the first dot of a text and what stands behind it. -/
def cut? : List Char → Option (List Char × List Char)
  | [] => none
  | c :: rest =>
    if c = '.' then some ([], rest) else (cut? rest).map fun (head, tail) => (c :: head, tail)

theorem length_of_cut? {cs head tail : List Char} (h : cut? cs = some (head, tail)) :
    tail.length < cs.length := by
  induction cs generalizing head with
  | nil => cases h
  | cons c rest ih =>
    rw [cut?] at h
    split at h
    · cases h
      exact Nat.lt_succ_self _
    · obtain ⟨⟨front, back⟩, hrest, h⟩ := Option.map_eq_some_iff.mp h
      cases h
      exact Nat.lt_succ_of_lt (ih hrest)

/-- The segments of a path are what its first dot cuts off and the segments of the rest. -/
theorem segmentsOf_of_cut? (cs : List Char) : segmentsOf cs = match cut? cs with
    | none => (cs, [])
    | some (head, tail) => (head, (segmentsOf tail).1 :: (segmentsOf tail).2) := by
  induction cs with
  | nil => rfl
  | cons c rest ih =>
    rw [segmentsOf, cut?]
    by_cases hdot : c = '.'
    · simp only [hdot, if_true]
    · simp only [hdot, if_false, ih]
      cases cut? rest with
      | none => rfl
      | some parts => rfl

/-- Puts an empty document into a field that is missing. -/
def ensure (d : Document) (name : String) : Document :=
  if d.contains name then d else d.insert name (.document [])

/-- Writes a value in place. A document that is missing on the way is made before the rest of the
path is tried. Answers whether the value could be written, and what the document is then. -/
def writeIn (value : Value) (d : Document) (path : List Char) : Result Unit × Document :=
  match _hcut : cut? path with
  | none => (.ok (), d.insert (String.ofList path) value)
  | some (head, tail) =>
    let name := String.ofList head
    match (ensure d name).get? name with
    | some (.document inner) =>
      let (result, written) := writeIn value inner tail
      (result, (ensure d name).insert name (.document written))
    | _ => (.error (.invalidQuery (.notADocument name (String.ofList tail))), ensure d name)
termination_by path.length
decreasing_by exact length_of_cut? ‹_›

/-- Writes a value at a path in place. -/
def write (d : Document) (path : String) (value : Value) : Result Unit × Document :=
  writeIn value d path.toList

/-! ## What a write leaves -/

theorem ensure_cases (d : Document) (name : String) :
    d.get? name = none ∧ ensure d name = d.insert name (.document []) ∨
      (∃ held, d.get? name = some held) ∧ ensure d name = d := by
  rw [ensure, Document.contains]
  cases d.get? name with
  | none => exact .inl ⟨rfl, rfl⟩
  | some held => exact .inr ⟨⟨held, rfl⟩, rfl⟩

/-- A field that was made leads into a document exactly if the field could have been made. -/
theorem get?_ensure {inner : Document} :
    (ensure d name).get? name = some (.document inner) ↔ within? d name = some inner := by
  rw [within?]
  obtain ⟨hget, hmade⟩ | ⟨⟨held, hget⟩, hmade⟩ := ensure_cases d name
  · simp [hget, hmade, Document.get?_insert]
  · rw [hmade, hget]
    cases held <;> simp

theorem insert_ensure (d : Document) (name : String) (value : Value) :
    (ensure d name).insert name value = d.insert name value := by
  obtain ⟨-, hmade⟩ | ⟨-, hmade⟩ := ensure_cases d name
  · rw [hmade, Document.insert_insert]
  · rw [hmade]

/-- In a document without fields every path can be written. -/
theorem exists_setAt_nil (value : Value) (name : String) (rest : List String) :
    ∃ d', setAt value [] name rest = .ok d' := by
  induction rest generalizing name with
  | nil => exact ⟨_, rfl⟩
  | cons next rest ih =>
    obtain ⟨written, hwritten⟩ := ih next
    exact ⟨_, setAt_cons_eq_ok.mpr ⟨[], written, rfl, hwritten, rfl⟩⟩

/-! ## Writing and writing in place -/

theorem intercalate_cons (dot first : List Char) (others : List (List Char)) :
    dot.intercalate (first :: others) = first ++ others.flatMap (dot ++ ·) := by
  induction others generalizing first with
  | nil => simp
  | cons next others ih =>
    simp only [List.intercalate_cons_cons, ih, List.flatMap_cons, List.append_assoc]

/-- The segments of a text make it up again. -/
theorem text_segmentsOf (cs : List Char) :
    text (String.ofList (segmentsOf cs).1 :: (segmentsOf cs).2.map String.ofList)
      = String.ofList cs := by
  have hmap (others : List (List Char)) :
      (others.map String.ofList).map String.toList = others := by
    simp [Function.comp_def]
  refine String.toList_inj.mp ?_
  simp only [text, String.toList_intercalate, List.map_cons, hmap, String.toList_ofList,
    intercalate_cons]
  exact segmentsOf_flatMap cs

theorem set_of_cut?_none {cs : List Char} (hcut : cut? cs = none) (d : Document) (value : Value) :
    set d (String.ofList cs) value = .ok (d.insert (String.ofList cs) value) := by
  simp only [set, segments, String.toList_ofList, segmentsOf_of_cut? cs, hcut]
  rfl

/-- To write at a path is to write at what is behind its first dot, in the document that the field
before the dot leads into. -/
theorem set_of_cut? {cs head tail : List Char} (hcut : cut? cs = some (head, tail)) (d : Document)
    (value : Value) :
    set d (String.ofList cs) value = match within? d (String.ofList head) with
      | some inner => do
        return d.insert (String.ofList head) (.document (← set inner (String.ofList tail) value))
      | none =>
        .error (.invalidQuery (.notADocument (String.ofList head) (String.ofList tail))) := by
  have hsegments : set d (String.ofList cs) value = setAt value d (String.ofList head)
      (String.ofList (segmentsOf tail).1 :: (segmentsOf tail).2.map String.ofList) := by
    simp only [set, segments, String.toList_ofList, segmentsOf_of_cut? cs, hcut, List.map_cons]
  rw [hsegments, setAt_cons]
  cases within? d (String.ofList head) with
  | none => simp only [text_segmentsOf]
  | some inner => simp only [set, segments, String.toList_ofList]

/-- Where a write fails below a field, the field was there before. -/
theorem insert_of_set_error {inner : Document} {e : ServiceError}
    (hinner : within? d name = some inner) (h : set inner path value = .error e) :
    d.insert name (.document inner) = d := by
  rw [within?] at hinner
  split at hinner
  · cases hinner
    obtain ⟨written, hwritten⟩ := exists_setAt_nil value _ _
    cases h.symm.trans hwritten
  · next hget =>
    cases hinner
    exact Document.insert_of_get? hget
  · cases hinner

/-- To write in place is to write, and to leave the document as it was where that fails. -/
theorem writeIn_eq_set (value : Value) (d : Document) (cs : List Char) :
    writeIn value d cs = match set d (String.ofList cs) value with
      | .ok d' => (.ok (), d')
      | .error e => (.error e, d) := by
  fun_induction writeIn value d cs with
  | case1 d cs hcut => rw [set_of_cut?_none hcut]
  | case2 d cs head tail hcut name inner hinner result written hwritten ih =>
    have hwithin : within? d name = some inner := get?_ensure.mp hinner
    rw [hwritten] at ih
    simp only [insert_ensure, set_of_cut? hcut, show within? d (.ofList head) = _ from hwithin]
    cases hset : set inner (String.ofList tail) value with
    | ok changed =>
      rw [hset] at ih
      cases ih
      rfl
    | error e =>
      rw [hset] at ih
      cases ih
      rw [insert_of_set_error hwithin hset]
      rfl
  | case3 d cs head tail hcut name hnone =>
    have hwithin : within? d name = none :=
      Option.eq_none_iff_forall_ne_some.mpr fun inner h => hnone inner (get?_ensure.mpr h)
    obtain ⟨hget, -⟩ | ⟨-, hmade⟩ := ensure_cases d name
    · rw [within?, hget] at hwithin
      cases hwithin
    · rw [hmade, set_of_cut? hcut, show within? d (.ofList head) = _ from hwithin]

theorem write_eq_set (d : Document) (path : String) (value : Value) :
    write d path value = match set d path value with
      | .ok d' => (.ok (), d')
      | .error e => (.error e, d) := by
  rw [write, writeIn_eq_set, String.ofList_toList]

/-! ## What a write keeps -/

/-- Whether the fields of a document stand where they stood, in it and in every document inside of
it that is not found at the end of nested segments or below. Fields that are new come last. -/
def KeepsPlaces (segments : List String) (d d' : Document) : Prop :=
  ∀ (level : List String) (inner : Document), ¬ segments <+: level →
    lookupIn (.document d) level = some (.document inner) →
    ∃ inner' : Document, lookupIn (.document d') level = some (.document inner') ∧
      inner.keys <+: inner'.keys

theorem keys_prefix_setAt (h : setAt value d name rest = .ok d') : d.keys <+: d'.keys := by
  cases rest with
  | nil =>
    cases h
    exact d.keys_prefix_insert name value
  | cons next rest =>
    obtain ⟨inner, written, -, -, rfl⟩ := setAt_cons_eq_ok.mp h
    exact d.keys_prefix_insert name _

/-- What is read below a field is read in the document that it leads into. -/
theorem lookupIn_of_within? {inner : Document} (hinner : within? d name = some inner)
    (h : lookupIn (.document d) (name :: level) = some value) :
    lookupIn (.document inner) level = some value := by
  rw [lookupIn_document] at h
  rw [within?] at hinner
  split at hinner
  · next hget =>
    rw [hget] at h
    cases h
  · next hget =>
    cases hinner
    rwa [hget] at h
  · cases hinner

theorem keepsPlaces_setAt (h : setAt value d name rest = .ok d') :
    KeepsPlaces (name :: rest) d d' := by
  intro level
  induction level generalizing d d' name rest with
  | nil =>
    intro inner _ hlookup
    cases hlookup
    exact ⟨d', rfl, keys_prefix_setAt h⟩
  | cons other level ih =>
    intro inner hlevel hlookup
    by_cases hother : other = name
    · subst hother
      rw [List.prefix_cons_inj] at hlevel
      cases rest with
      | nil => exact absurd List.nil_prefix hlevel
      | cons next rest =>
        obtain ⟨held, written, hheld, hwritten, rfl⟩ := setAt_cons_eq_ok.mp h
        obtain ⟨inner', hlookup', hkeys⟩ :=
          ih hwritten inner hlevel (lookupIn_of_within? hheld hlookup)
        refine ⟨inner', ?_, hkeys⟩
        rw [lookupIn_document, Document.get?_insert, if_pos rfl, Option.bind_some, hlookup']
    · refine ⟨inner, ?_, List.prefix_rfl⟩
      rw [lookupIn_document, get?_setAt_of_ne h hother, ← lookupIn_document, hlookup]

/-! ## The laws of writing -/

theorem lookup_of_field (h : field d path = some value) : lookup d path = some value := by
  rw [lookup_eq_field fun held hheld => by rw [type_of_onWay h hheld]; decide, h]

theorem lookup_unset_of_apart (hapart : Apart path seen) (d : Document) :
    lookup (unset d path) seen = lookup d seen :=
  read_unsetAt_of_diverge lookupIn_followsDocuments hapart

/-- Writes are lawful. What was written is read at its path, also through arrays. What is read at a
path that keeps apart is as it was, and all fields that were there stand where they stood, in every
document that the path leads through or does not reach. A write in place leaves the same document,
and leaves it as it was where the path cannot be written. What is read at a path that keeps apart
from one that was removed is as it was, too. -/
theorem set_lawful (d : Document) (path : String) (value : Value) :
    (∀ d', set d path value = .ok d' →
      write d path value = (.ok (), d') ∧
      lookup d' path = some value ∧
      (∀ seen, Apart path seen → lookup d' seen = lookup d seen) ∧
      KeepsPlaces (names path) d d') ∧
    (∀ e, set d path value = .error e → write d path value = (.error e, d)) ∧
    ∀ seen, Apart path seen → lookup (unset d path) seen = lookup d seen := by
  refine ⟨fun d' hset => ⟨?_, lookup_of_field (field_set hset), fun seen hapart =>
    lookup_set_of_apart hapart hset, keepsPlaces_setAt hset⟩, fun e hset => ?_,
    fun seen hapart => lookup_unset_of_apart hapart d⟩
  · rw [write_eq_set, hset]
  · rw [write_eq_set, hset]

/-- A document with a field two documents below it, beside an array of documents and a number. -/
def parcel : Document :=
  [("to", .document [("name", .string "Tim"), ("place", .document [("city", .string "Szeged")])]),
    ("lines", .array [.document [("count", .int32 2)]]), ("total", .int32 2)]

/-- A street is written into the inner document and read there, the line of the parcel is as it was,
and the fields beside the new ones stand where they stood. Nothing can be written below the
total. -/
theorem set_lawful_parcel :
    let street : Value := .string "Tisza"
    let place : Document := [("city", .string "Szeged"), ("street", .document [("name", street)])]
    let written : Document :=
      [("to", .document [("name", .string "Tim"), ("place", .document place)]),
        ("lines", .array [.document [("count", .int32 2)]]), ("total", .int32 2)]
    let refused : ServiceError := .invalidQuery (.notADocument "total" "net.eur")
    (set parcel "to.place.street.name" street = .ok written ∧
      write parcel "to.place.street.name" street = (.ok (), written) ∧
      lookup written "to.place.street.name" = some street ∧
      Apart "to.place.street.name" "lines.0.count" ∧
      lookup written "lines.0.count" = lookup parcel "lines.0.count" ∧
      ∃ inner : Document, lookupIn (.document written) ["to", "place"] = some (.document inner) ∧
        ["city"] <+: inner.keys) ∧
    (set parcel "total.net.eur" street = .error refused ∧
      write parcel "total.net.eur" street = (.error refused, parcel)) ∧
    lookup (unset parcel "to.place.street.name") "lines.0.count"
      = lookup parcel "lines.0.count" := by
  intro street place written refused
  obtain ⟨hset, -, hunset⟩ := set_lawful parcel "to.place.street.name" street
  have hapart : Apart "to.place.street.name" "lines.0.count" := by decide
  obtain ⟨hwrite, hlookup, hframe, hplaces⟩ := hset written rfl
  obtain ⟨-, hrefused, -⟩ := set_lawful parcel "total.net.eur" street
  exact ⟨⟨rfl, hwrite, hlookup, hapart, hframe _ hapart,
      hplaces ["to", "place"] [("city", .string "Szeged")] (by decide) rfl⟩,
    ⟨rfl, hrefused _ rfl⟩, hunset _ hapart⟩

end Path

end DocumentStore
