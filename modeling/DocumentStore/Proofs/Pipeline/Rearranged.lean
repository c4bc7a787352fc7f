import DocumentStore.Proofs.Path.Frame
import DocumentStore.Proofs.Pipeline.Expression

/-!
# Fields in another order

Fields that are written one after the other stand in this order, if they are new. So writes that do
not meet can be exchanged up to the order of fields, in the document and in those inside of it, and
an exchange never turns a failure into a success. Equality of values does not look at this order.
-/
namespace DocumentStore

namespace Value

/-- Whether a value is another one with the fields of its documents, and of those inside of them,
in another order. -/
inductive Rearranged : Value → Value → Prop
  | refl (v : Value) : Rearranged v v
  | document {d d' : Document} (keys : d.keys.Perm d'.keys)
      (fields : ∀ key a b, d.get? key = some a → d'.get? key = some b → Rearranged a b) :
      Rearranged (.document d) (.document d')

end Value

namespace Document

variable {d d' d'' : Document} {a b : Value}

theorem exists_get? {key : String} (h : key ∈ d.keys) : ∃ value, d.get? key = some value := by
  induction d with
  | nil => cases h
  | cons field rest ih =>
    rw [get?]
    split
    · exact ⟨field.2, rfl⟩
    · next hne => exact ih ((List.mem_cons.mp h).resolve_left (Ne.symm hne))

theorem mem_keys_of_get? {key : String} (h : d.get? key = some a) : key ∈ d.keys :=
  List.mem_map.mpr ⟨_, mem_of_get? h, rfl⟩

/-- Whether a document is another one with fields in another order. -/
def Rearranged (d d' : Document) : Prop := Value.Rearranged (.document d) (.document d')

theorem rearranged_iff : Rearranged d d' ↔ d.keys.Perm d'.keys ∧
    ∀ key a b, d.get? key = some a → d'.get? key = some b → a.Rearranged b := by
  constructor
  · intro h
    cases h with
    | refl =>
      refine ⟨.refl _, fun key a b ha hb => ?_⟩
      obtain rfl : a = b := Option.some.inj (ha.symm.trans hb)
      exact .refl a
    | document keys fields => exact ⟨keys, fields⟩
  · exact fun ⟨keys, fields⟩ => .document keys fields

theorem Rearranged.refl (d : Document) : Rearranged d d := Value.Rearranged.refl _

/-- A field is missing in both of two documents, or they hold values that are rearranged. -/
theorem Rearranged.get? (h : Rearranged d d') (key : String) :
    d.get? key = none ∧ d'.get? key = none ∨
      ∃ a b, d.get? key = some a ∧ d'.get? key = some b ∧ a.Rearranged b := by
  obtain ⟨hkeys, hfields⟩ := rearranged_iff.mp h
  cases ha : d.get? key with
  | none =>
    cases hb : d'.get? key with
    | none => exact .inl ⟨rfl, rfl⟩
    | some b =>
      obtain ⟨a, hget⟩ := exists_get? (hkeys.mem_iff.mpr (mem_keys_of_get? hb))
      rw [ha] at hget
      cases hget
  | some a =>
    obtain ⟨b, hb⟩ := exists_get? (hkeys.mem_iff.mp (mem_keys_of_get? ha))
    exact .inr ⟨a, b, rfl, hb, hfields key a b ha hb⟩

/-- Rearranged documents are rearranged after a write as well. -/
theorem Rearranged.insert (h : Rearranged d d') (key : String) (hvalue : a.Rearranged b) :
    Rearranged (d.insert key a) (d'.insert key b) := by
  obtain ⟨hkeys, hfields⟩ := rearranged_iff.mp h
  refine rearranged_iff.mpr ⟨?_, fun other x y hx hy => ?_⟩
  · rw [keys_insert, keys_insert]
    simp only [hkeys.mem_iff]
    split
    · exact hkeys
    · exact hkeys.append_right [key]
  · rw [get?_insert] at hx hy
    split at hx
    · next hother =>
      rw [if_pos hother] at hy
      cases hx
      cases hy
      exact hvalue
    · next hother =>
      rw [if_neg hother] at hy
      exact hfields other x y hx hy

/-- Two fields may be written in either order. -/
theorem insert_comm {key other : String} (hne : key ≠ other) (d : Document) (a b : Value) :
    Rearranged ((d.insert key a).insert other b) ((d.insert other b).insert key a) := by
  refine rearranged_iff.mpr ⟨?_, fun name x y hx hy => ?_⟩
  · have hswap : (d.keys ++ [key, other]).Perm (d.keys ++ [other, key]) :=
      (List.Perm.swap other key []).append_left d.keys
    by_cases hkey : key ∈ d.keys <;> by_cases hother : other ∈ d.keys <;>
      simp [keys_insert, hkey, hother, hne, hne.symm, hswap]
  · have hsame : ((d.insert key a).insert other b).get? name
        = ((d.insert other b).insert key a).get? name := by
      by_cases hkey : name = key <;> by_cases hother : name = other <;>
        simp_all [get?_insert]
    rw [hsame, hy] at hx
    cases hx
    exact .refl _

end Document

namespace Value

variable {a b c : Value}

theorem Rearranged.trans (h : a.Rearranged b) (h' : b.Rearranged c) : a.Rearranged c := by
  induction h generalizing c with
  | refl => exact h'
  | @document d d' keys fields ih =>
    cases h' with
    | refl => exact .document keys fields
    | @document _ d'' keys' fields' =>
      refine .document (keys.trans keys') fun key x z hx hz => ?_
      obtain ⟨y, hy⟩ :=
        Document.exists_get? (keys.mem_iff.mp (Document.mem_keys_of_get? hx))
      exact ih key x y hx hy (fields' key y z hy hz)

theorem holdsNaN_of_mem {fields : Document} (h : fieldsHoldNaN fields = false) {name : String}
    {v : Value} (hmem : (name, v) ∈ fields) : v.holdsNaN = false := by
  induction fields with
  | nil => cases hmem
  | cons field rest ih =>
    simp only [fieldsHoldNaN, Bool.or_eq_false_iff] at h
    obtain rfl | hmem := List.mem_cons.mp hmem
    · exact h.1
    · exact ih h.2 hmem

theorem Whole.of_mem {fields : Document} (h : (document fields).Whole) {name : String} {v : Value}
    (hmem : (name, v) ∈ fields) : v.Whole :=
  ⟨namesOnce_of_mem h.namesOnce.2 hmem, holdsNaN_of_mem h.noNaN hmem⟩

/-- Equality does not look at the order of fields. -/
theorem Rearranged.same (h : a.Rearranged b) (ha : a.Whole) : a.same b = true := by
  induction h with
  | refl => exact ha.same_self
  | @document d d' keys fields ih =>
    have hfields : sameFields d d' = true := sameFields_of_forall fun name v hmem => by
      have hget := Document.get?_of_mem ha.namesOnce.1 hmem
      obtain ⟨other, hother⟩ :=
        Document.exists_get? (keys.mem_iff.mp (Document.mem_keys_of_get? hget))
      exact ⟨other, hother, ih name v other hget hother (ha.of_mem hmem)⟩
    have hlength : d.length = d'.length := by simpa [Document.keys] using keys.length_eq
    simpa [Value.same] using ⟨hlength, hfields⟩

end Value

/-! ## Failures in both -/

/-- Whether two results are both failures, or both there and related. -/
inductive Result.Both {α β : Type} (related : α → β → Prop) : Result α → Result β → Prop
  | error (e e' : ServiceError) : Both related (.error e) (.error e')
  | ok {a : α} {b : β} (h : related a b) : Both related (.ok a) (.ok b)

namespace Result.Both

variable {α β γ δ : Type} {related : α → β → Prop} {related' : γ → δ → Prop}

theorem bind {x : Result α} {y : Result β} {f : α → Result γ} {g : β → Result δ}
    (h : Both related x y) (hnext : ∀ a b, related a b → Both related' (f a) (g b)) :
    Both related' (x >>= f) (y >>= g) := by
  cases h with
  | error e e' => exact .error e e'
  | ok h => exact hnext _ _ h

theorem refl {R : α → α → Prop} (hR : ∀ a, R a a) (x : Result α) : Both R x x := by
  cases x with
  | error e => exact .error e e
  | ok a => exact .ok (hR a)

theorem trans {R : α → α → Prop} (hR : ∀ {a b c}, R a b → R b c → R a c) {x y z : Result α}
    (h : Both R x y) (h' : Both R y z) : Both R x z := by
  cases h with
  | error e => cases h' with | error _ e' => exact .error e e'
  | ok h => cases h' with | ok h' => exact .ok (hR h h')

theorem imp {related' : α → β → Prop} {x : Result α} {y : Result β} (h : Both related x y)
    (himp : ∀ {a b}, related a b → related' a b) : Both related' x y := by
  cases h with
  | error e e' => exact .error e e'
  | ok h => exact .ok (himp h)

end Result.Both

/-! ## Writes that are exchanged -/

namespace Path

open Document (Rearranged)

variable {d d' : Document} {a b value : Value} {name other : String} {rest tail : List String}

theorem within?_of_rearranged (h : Rearranged d d') (name : String) :
    within? d name = none ∧ within? d' name = none ∨ ∃ inner inner',
      within? d name = some inner ∧ within? d' name = some inner' ∧ Rearranged inner inner' := by
  unfold within?
  obtain ⟨hget, hget'⟩ | ⟨v, v', hget, hget', hheld⟩ := h.get? name
  · rw [hget, hget']
    exact .inr ⟨[], [], rfl, rfl, .refl _⟩
  · rw [hget, hget']
    cases hheld with
    | document keys fields => exact .inr ⟨_, _, rfl, rfl, .document keys fields⟩
    | refl =>
      cases v with
      | document inner => exact .inr ⟨inner, inner, rfl, rfl, .refl _⟩
      | _ => exact .inl ⟨rfl, rfl⟩

/-- A write to rearranged documents fails in both or leaves them rearranged. -/
theorem setAt_of_rearranged (h : Rearranged d d') :
    Result.Both Rearranged (setAt value d name rest) (setAt value d' name rest) := by
  induction rest generalizing d d' name with
  | nil => exact .ok (h.insert name (.refl value))
  | cons next rest ih =>
    rw [setAt_cons, setAt_cons]
    obtain ⟨hinner, hinner'⟩ | ⟨inner, inner', hinner, hinner', hwithin⟩ :=
      within?_of_rearranged h name
    · rw [hinner, hinner']
      exact .error ..
    · rw [hinner, hinner']
      exact (ih hwithin).bind fun written written' hwritten => .ok (h.insert name hwritten)

/-- A write changes one field, and what it writes depends on what this field held. -/
theorem exists_setAt (value : Value) (d : Document) (name : String) (rest : List String) :
    ∃ put : Result Value, ∀ d' : Document, d'.get? name = d.get? name →
      setAt value d' name rest = (do return d'.insert name (← put)) := by
  cases rest with
  | nil => exact ⟨.ok value, fun d' _ => rfl⟩
  | cons next rest =>
    have hwithin {d' : Document} (h : d'.get? name = d.get? name) :
        within? d' name = within? d name := by rw [within?, within?, h]
    cases hinner : within? d name with
    | none =>
      refine ⟨.error (.invalidQuery (.notADocument name (text (next :: rest)))), fun d' h => ?_⟩
      rw [setAt_cons, hwithin h, hinner]
      rfl
    | some inner =>
      refine ⟨do return .document (← setAt value inner next rest), fun d' h => ?_⟩
      rw [setAt_cons, hwithin h, hinner]
      cases hwritten : setAt value inner next rest <;> simp only [hwritten] <;> rfl

theorem setAt_comm_of_ne (hne : other ≠ name) (d : Document) (rest tail : List String) :
    Result.Both Rearranged (setAt a d name rest >>= (setAt b · other tail))
      (setAt b d other tail >>= (setAt a · name rest)) := by
  obtain ⟨put, hput⟩ := exists_setAt a d name rest
  obtain ⟨put', hput'⟩ := exists_setAt b d other tail
  -- neither of the two fields changes with a write to the other
  have hother (x : Value) := hput' (d.insert name x) (by rw [Document.get?_insert, if_neg hne])
  have hname (y : Value) := hput (d.insert other y) (by rw [Document.get?_insert, if_neg hne.symm])
  rw [hput d rfl, hput' d rfl]
  cases put with
  | error e =>
    cases put' with
    | error e' => exact .error e e'
    | ok y =>
      change Result.Both Rearranged (.error e) (setAt a (d.insert other y) name rest)
      rw [hname y]
      exact .error e e
  | ok x =>
    cases put' with
    | error e' =>
      change Result.Both Rearranged (setAt b (d.insert name x) other tail) (.error e')
      rw [hother x]
      exact .error e' e'
    | ok y =>
      change Result.Both Rearranged (setAt b (d.insert name x) other tail)
        (setAt a (d.insert other y) name rest)
      rw [hother x, hname y]
      exact .ok (Document.insert_comm hne.symm d x y)

/-- Two writes below one field go on in the document that it leads into. -/
theorem setAt_bind_cons (a b : Value) (d : Document) (name next next' : String)
    (rest tail : List String) :
    (setAt a d name (next :: rest) >>= (setAt b · name (next' :: tail)))
      = match within? d name with
        | some inner => do
          return Document.insert d name (.document
            (← setAt a inner next rest >>= (setAt b · next' tail)))
        | none => .error (.invalidQuery (.notADocument name (text (next :: rest)))) := by
  rw [setAt_cons]
  cases within? d name with
  | none => rfl
  | some inner =>
    cases hwritten : setAt a inner next rest with
    | error e =>
      simp only [hwritten]
      rfl
    | ok written =>
      have hsecond : setAt b (d.insert name (.document written)) name (next' :: tail) = (do
          return Document.insert d name (.document (← setAt b written next' tail))) := by
        rw [setAt_cons, within?_insert]
        simp only [Document.insert_insert]
      simp only [hwritten]
      exact hsecond

/-- Writes that diverge can be exchanged. -/
theorem setAt_comm (hdiverge : Diverge (name :: rest) (other :: tail)) (d : Document) :
    Result.Both Rearranged (setAt a d name rest >>= (setAt b · other tail))
      (setAt b d other tail >>= (setAt a · name rest)) := by
  induction rest generalizing d name other tail with
  | nil =>
    obtain hne | ⟨-, next, _, _, _, hrest, -⟩ := hdiverge.cases
    · exact setAt_comm_of_ne hne d [] tail
    · cases hrest
  | cons next rest ih =>
    obtain hne | ⟨rfl, _, _, next', tail, ⟨⟩, rfl, hinside⟩ := hdiverge.cases
    · exact setAt_comm_of_ne hne d (next :: rest) tail
    · rw [setAt_bind_cons, setAt_bind_cons]
      cases within? d other with
      | none => exact .error ..
      | some inner =>
        exact (ih hinside inner).bind fun written written' hwritten =>
          .ok ((Rearranged.refl d).insert other hwritten)

end Path

end DocumentStore
