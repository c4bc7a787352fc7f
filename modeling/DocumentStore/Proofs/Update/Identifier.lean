import DocumentStore.Proofs.Path
import DocumentStore.Proofs.Store.Views
import DocumentStore.Proofs.Update.Entries
import DocumentStore.Proofs.Value.Equality

/-!
# Identifiers under updates

An update is refused where it writes to the identifier of a document with an operand that does not
equal it. The check does not look at the operator, though, nor at paths that lead into the
identifier: an equal operand removes it or is added to it, and one that is a document can be
changed field by field. An update that does nothing of this keeps the identifier.
-/
namespace DocumentStore.Update

open DocumentStore.Path (IsBelow)

variable {d d' update : Document} {entry : Entry} {id : Value}

/-! ## Entries that keep an identifier -/

/-- Whether an entry spares an identifier: it does not remove it, adds to it only where it is no
number, and reaches into it only where it is no document. -/
structure Entry.Spares (entry : Entry) (id : Value) : Prop where
  removed : entry.path = idField → entry.op ≠ .unset
  added : entry.path = idField → entry.op = .increment → id.type.isNumber = false
  inside : IsBelow entry.path idField → id.type ≠ .document

/-- Whether a document has an identifier, or one that equals it. -/
def Identifies (id : Value) (d : Document) : Prop :=
  ∃ found, Document.get? d idField = some found ∧ (found = id ∨ id.same found = true)

/-- An entry whose path begins elsewhere does not touch a field. -/
theorem Entry.get?_apply_of_ne {key : String} (hkey : key ≠ (Path.segments entry.path).1)
    (h : entry.apply d = .ok d') : Document.get? d' key = Document.get? d key := by
  obtain ⟨op, path, operand⟩ := entry
  unfold Entry.apply applyAt at h
  split at h
  · cases h
  · cases op with
    | set => exact Path.get?_setAt_of_ne h hkey
    | unset =>
      cases h
      exact Path.get?_unsetAt_of_ne hkey
    | increment =>
      simp only [increment] at h
      split at h
      · exact Path.get?_setAt_of_ne h hkey
      · cases h

/-- Inside of something else than a document an entry does nothing, unless it fails. -/
theorem Entry.apply_of_type {first : String} {rest : List String} {found : Value}
    (hpath : Path.segments entry.path = (first, rest)) (hrest : rest ≠ [])
    (hget : Document.get? d first = some found) (htype : found.type ≠ .document)
    (h : entry.apply d = .ok d') : d' = d := by
  obtain ⟨op, path, operand⟩ := entry
  have hset (value : Value) : Path.set d path value ≠ .ok d' := by
    obtain ⟨e, he⟩ := Path.setAt_of_type hget htype hrest value
    simp only [Path.set, hpath, he]
    exact nofun
  unfold Entry.apply applyAt at h
  split at h
  · cases h
  · cases op with
    | set => exact absurd h (hset operand)
    | unset =>
      cases h
      simp only [Path.unset, hpath]
      exact Path.unsetAt_of_type hget htype hrest
    | increment =>
      simp only [increment] at h
      split at h
      · exact absurd h (hset _)
      · cases h

/-- To set an identifier is to write one that equals it. -/
theorem Entry.get?_apply_of_set (hpath : entry.path = idField) (hop : entry.op = .set)
    (h : entry.apply d = .ok d') :
    Document.get? d' idField = some entry.operand ∧
      Value.sameOption (Document.get? d idField) (some entry.operand) = true := by
  obtain ⟨op, path, operand⟩ := entry
  obtain rfl : path = idField := hpath
  obtain rfl : op = .set := hop
  unfold Entry.apply applyAt at h
  split at h
  · cases h
  · rename_i hsame
    have hinsert : Path.set d idField operand = .ok (Document.insert d idField operand) := rfl
    rw [hinsert] at h
    cases h
    exact ⟨by rw [Document.get?_insert, if_pos rfl], by simpa using hsame⟩

theorem sum?_of_type {a : Value} (h : a.type.isNumber = false) (b : Value) : sum? a b = none := by
  cases a with
  | int32 | int64 | double => cases h
  | _ => rfl

/-- To add to an identifier that is no number fails. -/
theorem Entry.apply_of_increment {found : Value} (hpath : entry.path = idField)
    (hop : entry.op = .increment) (hget : Document.get? d idField = some found)
    (htype : found.type.isNumber = false) : entry.apply d ≠ .ok d' := by
  obtain ⟨op, path, operand⟩ := entry
  obtain rfl : path = idField := hpath
  obtain rfl : op = .increment := hop
  have hfield : Path.field d idField = some found := hget
  unfold Entry.apply applyAt
  split
  · exact nofun
  · simp only [increment, hfield, Option.getD_some, sum?_of_type htype]
    exact nofun

/-- An entry that spares an identifier keeps it. -/
theorem Identifies.apply (hd : Identifies id d) (hspares : entry.Spares id)
    (h : entry.apply d = .ok d') : Identifies id d' := by
  obtain ⟨found, hfound, hkept⟩ := hd
  have htype : found.type = id.type := by
    obtain rfl | hkept := hkept
    · rfl
    · exact Value.type_eq_of_same hkept
  cases hsegments : Path.segments entry.path with
  | mk first rest =>
    -- an entry is about the identifier itself, about something inside of it, or elsewhere
    by_cases hfirst : first = idField
    · subst hfirst
      obtain ⟨-, hpath⟩ | ⟨hrest, hbelow⟩ := Path.segments_cases hsegments
      · cases hop : entry.op with
        | unset => exact absurd hop (hspares.removed hpath)
        | increment =>
          exact absurd h (Entry.apply_of_increment hpath hop hfound
            (htype ▸ hspares.added hpath hop))
        | set =>
          obtain ⟨hget, hsame⟩ := Entry.get?_apply_of_set hpath hop h
          rw [hfound] at hsame
          refine ⟨entry.operand, hget, .inr ?_⟩
          obtain rfl | hkept := hkept
          · exact hsame
          · exact Value.same_trans id hkept hsame
      · rw [Entry.apply_of_type hsegments hrest hfound (htype ▸ hspares.inside hbelow) h]
        exact ⟨found, hfound, hkept⟩
    · have hne : idField ≠ (Path.segments entry.path).1 := by
        rw [hsegments]
        exact Ne.symm hfirst
      exact ⟨found, (Entry.get?_apply_of_ne hne h).trans hfound, hkept⟩

/-! ## Updates -/

/-- An update all of whose entries spare the identifier of a document keeps it. Whatever session it
is made on, a call that updates documents keeps the identifiers of all that it spares. -/
theorem identifier_kept (update : Document) :
    (∀ (d d' : Document) (id : Value), Document.get? d idField = some id →
      (∀ entry ∈ entries update, entry.Spares id) → apply d update = .ok d' → Identifies id d') ∧
    ∀ (s : Store) (session : Option SessionId) (fresh : Nat → ObjectId) (name : String)
      (filter : Document) (many : Bool),
      (∀ d ∈ (s.view session).documents name, ∀ id, Document.get? d idField = some id →
        ∀ entry ∈ entries update, entry.Spares id) →
      ∀ other, List.Forall₂
        (fun d d' => ∀ id, Document.get? d idField = some id → Identifies id d')
        ((s.view session).documents other)
        (((s.answer session fresh (.update name filter update many)).2.view session).documents
          other) := by
  have hdocument {d d' : Document} {id : Value} (hget : Document.get? d idField = some id)
      (hspares : ∀ entry ∈ entries update, entry.Spares id) (h : apply d update = .ok d') :
      Identifies id d' :=
    holds_of_apply (P := Identifies id) ⟨id, hget, .inl rfl⟩
      (fun entry hentry _ _ hd => hd.apply (hspares entry hentry)) h
  refine ⟨fun d d' id => hdocument, ?_⟩
  intro s session fresh name filter many hspares other
  have hrefl (d : Document) : ∀ id, Document.get? d idField = some id → Identifies id d :=
    fun id hget => ⟨id, hget, .inl rfl⟩
  -- only the documents of the collection that is updated can change
  rw [Store.view_answer_self, Store.Call.documents_perform]
  split
  · rename_i hother
    subst hother
    exact Store.Call.forall₂_rewrite_update hrefl
      (fun d hd d' happly id hget => hdocument hget (hspares d hd id hget) happly) ..
  · exact List.forall₂_same.mpr fun d _ => hrefl d

def tim : Document := [(idField, .int32 1), ("age", .int32 41)]

/-- and an update that sets its identifier to what it is, and removes something from inside of it
that is not there. -/
def birthday : Document :=
  [("$set", .document [(idField, .int32 1), ("name", .string "Tim")]),
    ("$unset", .document [("_id.a", .null)]), ("$inc", .document [("age", .int32 1)])]

theorem identifier_kept_birthday :
    let after : Document := tim.insert "age" (.int32 42) ++ [("name", .string "Tim")]
    let s : Store := { collections := [("people", [tim])] }
    let updated := (s.answer none .generated (.update "people" [] birthday true)).2
    apply tim birthday = .ok after ∧ Identifies (.int32 1) after ∧
      (updated.view none).documents "people" = [after] ∧
      List.Forall₂ (fun d d' => ∀ id, Document.get? d idField = some id → Identifies id d')
        [tim] ((updated.view none).documents "people") := by
  intro after s updated
  have hspares : ∀ entry ∈ entries birthday, entry.Spares (.int32 1) := by
    have hset : ∀ entry ∈ entries birthday, entry.path = idField → entry.op = .set := by decide
    intro entry hentry
    refine ⟨fun hpath => ?_, fun hpath => ?_, fun _ => nofun⟩ <;> simp [hset entry hentry hpath]
  obtain ⟨hdocument, hcall⟩ := identifier_kept birthday
  refine ⟨rfl, hdocument tim after _ rfl hspares rfl, rfl,
    hcall s none .generated "people" [] true ?_ "people"⟩
  intro d hd id hid
  obtain rfl : d = tim := List.mem_singleton.mp hd
  obtain rfl : Value.int32 1 = id := Option.some.inj hid
  exact hspares

/-- The check is not enough to spare an identifier: one that is named with its own value is removed,
or added to, and one that is a document is written into. -/
theorem identifier_lost :
    let unset : Document := [("$unset", .document [(idField, .int32 1)])]
    let increment : Document := [("$inc", .document [(idField, .int32 1)])]
    let inside : Document := [("$set", .document [("_id.a", .int32 2)])]
    let embedded : Value := .document [("a", .int32 1)]
    let s : Store := { collections := [("c", [[(idField, .int32 1)]])] }
    (check unset = .ok () ∧ apply [(idField, .int32 1)] unset = .ok [] ∧
      ¬ Identifies (.int32 1) []) ∧
    (check increment = .ok () ∧
      apply [(idField, .int32 1)] increment = .ok [(idField, .int32 2)] ∧
      ¬ Identifies (.int32 1) [(idField, .int32 2)]) ∧
    (check inside = .ok () ∧
      apply [(idField, embedded)] inside = .ok [(idField, .document [("a", .int32 2)])] ∧
      ¬ Identifies embedded [(idField, .document [("a", .int32 2)])]) ∧
    ((s.answer none .generated (.update "c" [] unset true)).2.view none).documents "c" = [[]] := by
  refine ⟨⟨rfl, rfl, ?_⟩, ⟨rfl, rfl, ?_⟩, ⟨rfl, rfl, ?_⟩, rfl⟩
  · rintro ⟨found, ⟨⟩, -⟩
  · rintro ⟨found, ⟨⟩, hkept | hkept⟩ <;> cases hkept
  · rintro ⟨found, ⟨⟩, hkept | hkept⟩ <;> cases hkept

end DocumentStore.Update
