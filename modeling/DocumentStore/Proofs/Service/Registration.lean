import DocumentStore.Service.Rule
import Mathlib.Data.List.Induction
import Mathlib.Data.List.Nodup

/-!
# Registered rules

What a sequence of registrations and removals leaves of the rules of a service can be read off the
sequence itself. A name is there if it was registered and not removed again, its place is that of
the first registration since it was last removed, and what it does is what the last one says. So a
rule that is overridden keeps its place, also when it goes over to another phase.
-/

namespace DocumentStore

/-! ## Lists without repeats -/

section EraseDups

variable {α : Type} [DecidableEq α]

theorem eraseDups_concat (l : List α) (a : α) :
    (l ++ [a]).eraseDups = if a ∈ l then l.eraseDups else l.eraseDups ++ [a] := by
  rw [List.eraseDups_append]
  by_cases ha : a ∈ l <;> simp [List.removeAll, List.eraseDups_cons, ha]

theorem nodup_eraseDups (l : List α) : l.eraseDups.Nodup := by
  induction l using List.reverseRecOn with
  | nil => exact .nil
  | append_singleton l a ih =>
    rw [eraseDups_concat]
    split
    · exact ih
    · next ha => exact List.nodup_append_comm.mp (ih.cons (mt List.mem_eraseDups.mp ha))

theorem filter_eraseDups (p : α → Bool) (l : List α) :
    (l.filter p).eraseDups = l.eraseDups.filter p := by
  induction l using List.reverseRecOn with
  | nil => rfl
  | append_singleton l a ih =>
    rw [eraseDups_concat, List.filter_append]
    cases hp : p a with
    | true =>
      rw [List.filter_cons_of_pos hp, List.filter_nil, eraseDups_concat, ih]
      by_cases ha : a ∈ l <;> simp [List.mem_filter, hp, ha]
    | false =>
      rw [List.filter_cons_of_neg (by simp [hp]), List.filter_nil, List.append_nil, ih]
      split <;> simp [hp]

end EraseDups

namespace Rule

variable {Tag Hook : Type} {rules registered : List (Rule Tag Hook)}

/-! ## A list of rules that changes -/

/-- A change to a list of rules. -/
inductive Change (Tag Hook : Type) where
  | register (rule : Rule Tag Hook)
  | remove (name : String)

namespace Change

/-- Makes a change. -/
def apply (rules : List (Rule Tag Hook)) : Change Tag Hook → List (Rule Tag Hook)
  | .register rule => Rule.register rules rule
  | .remove name => Rule.remove rules name

def removes (name : String) : Change Tag Hook → Bool
  | .register _ => false
  | .remove other => other == name

end Change

/-- The registrations of a history whose name was not removed afterwards, in order. -/
def standing : List (Change Tag Hook) → List (Rule Tag Hook)
  | [] => []
  | .register rule :: later =>
    if later.any (Change.removes rule.name) then standing later else rule :: standing later
  | .remove _ :: later => standing later

theorem standing_register (changes : List (Change Tag Hook)) (rule : Rule Tag Hook) :
    standing (changes ++ [.register rule]) = standing changes ++ [rule] := by
  induction changes with
  | nil => rfl
  | cons first later ih =>
    cases first with
    | register other =>
      simp only [List.cons_append, standing, List.any_append, List.any_cons, List.any_nil,
        Change.removes, Bool.or_false, ih]
      split <;> rfl
    | remove name => exact ih

theorem standing_remove (changes : List (Change Tag Hook)) (name : String) :
    standing (changes ++ [.remove name]) = (standing changes).filter (·.name != name) := by
  induction changes with
  | nil => rfl
  | cons first later ih =>
    cases first with
    | register other =>
      simp only [List.cons_append, standing, List.any_append, List.any_cons, List.any_nil,
        Change.removes, Bool.or_false, ih]
      by_cases hname : name = other.name
      · subst hname
        cases later.any (Change.removes other.name) <;> simp
      · cases later.any (Change.removes other.name) <;> simp [hname, Ne.symm hname]
    | remove other => exact ih

/-! ## The latest rules -/

/-- Whether rules are the latest of some registrations: each name is there once, in the order of the
first registrations, with what was registered last. -/
structure Latest (registered rules : List (Rule Tag Hook)) : Prop where
  names : rules.map (·.name) = (registered.map (·.name)).eraseDups
  last : ∀ rule ∈ rules, (registered.filter (·.name == rule.name)).getLast? = some rule

theorem Latest.nodup (h : Latest registered rules) : (rules.map (·.name)).Nodup := by
  rw [h.names]
  exact nodup_eraseDups _

/-- A new name goes to the end. -/
theorem register_of_new {rule : Rule Tag Hook} (h : rule.name ∉ rules.map (·.name)) :
    register rules rule = rules ++ [rule] := by
  induction rules with
  | nil => rfl
  | cons first rest ih =>
    rw [List.map_cons, List.mem_cons, not_or] at h
    rw [register, if_neg (Ne.symm h.1), ih h.2, List.cons_append]

/-- A name that is taken keeps its place. -/
theorem register_of_taken (rule : Rule Tag Hook) (hnodup : (rules.map (·.name)).Nodup)
    (h : rule.name ∈ rules.map (·.name)) :
    register rules rule
      = rules.map fun other => if other.name = rule.name then rule else other := by
  induction rules with
  | nil => cases h
  | cons first rest ih =>
    rw [List.map_cons] at hnodup h
    obtain ⟨hfirst, hnodup⟩ := List.nodup_cons.mp hnodup
    rw [register, List.map_cons]
    by_cases hname : first.name = rule.name
    · -- no other rule has the name
      have hrest : rest.map (fun other => if other.name = rule.name then rule else other)
          = rest.map id := by
        refine List.map_congr_left fun other hother => if_neg fun heq => hfirst ?_
        exact List.mem_map.mpr ⟨other, hother, heq.trans hname.symm⟩
      rw [if_pos hname, if_pos hname, hrest, List.map_id]
    · rw [if_neg hname, if_neg hname, ih hnodup ((List.mem_cons.mp h).resolve_left (Ne.symm hname))]

/-- What was registered last under other names is not affected by a registration. -/
theorem filter_concat_of_ne {rule other : Rule Tag Hook} (h : other.name ≠ rule.name) :
    (registered ++ [rule]).filter (·.name == other.name)
      = registered.filter (·.name == other.name) := by
  simp [List.filter_append, Ne.symm h]

theorem getLast?_filter_concat (registered : List (Rule Tag Hook)) (rule : Rule Tag Hook) :
    ((registered ++ [rule]).filter (·.name == rule.name)).getLast? = some rule := by
  simp [List.filter_append]

theorem Latest.register (h : Latest registered rules) (rule : Rule Tag Hook) :
    Latest (registered ++ [rule]) (Rule.register rules rule) := by
  have hmem : rule.name ∈ rules.map (·.name) ↔ rule.name ∈ registered.map (·.name) := by
    rw [h.names, List.mem_eraseDups]
  -- a name that is taken keeps its place, and a new one comes last
  by_cases htaken : rule.name ∈ rules.map (·.name)
  · rw [register_of_taken rule h.nodup htaken]
    refine ⟨?_, fun other hother => ?_⟩
    · have hnames : (rules.map fun other => if other.name = rule.name then rule else other).map
          (·.name) = rules.map (·.name) := by
        rw [List.map_map]
        refine List.map_congr_left fun other _ => ?_
        by_cases hname : other.name = rule.name <;> simp [hname]
      rw [hnames, List.map_append, List.map_singleton, eraseDups_concat,
        if_pos (hmem.mp htaken), h.names]
    · obtain ⟨old, hold, rfl⟩ := List.mem_map.mp hother
      by_cases hname : old.name = rule.name
      · rw [if_pos hname]
        exact getLast?_filter_concat registered rule
      · rw [if_neg hname, filter_concat_of_ne hname]
        exact h.last old hold
  · rw [register_of_new htaken]
    refine ⟨?_, fun other hother => ?_⟩
    · rw [List.map_append, List.map_append, List.map_singleton, eraseDups_concat,
        if_neg (mt hmem.mpr htaken), h.names]
    · obtain hold | hother := List.mem_append.mp hother
      · have hname : other.name ≠ rule.name := fun heq =>
          htaken (heq ▸ List.mem_map_of_mem hold)
        rw [filter_concat_of_ne hname]
        exact h.last other hold
      · obtain rfl := List.mem_singleton.mp hother
        exact getLast?_filter_concat registered other

theorem Latest.remove (h : Latest registered rules) (name : String) :
    Latest (registered.filter (·.name != name)) (Rule.remove rules name) := by
  refine ⟨?_, fun rule hrule => ?_⟩
  · have hfilter (all : List (Rule Tag Hook)) :
        (all.filter (·.name != name)).map (·.name) = (all.map (·.name)).filter (· != name) := by
      rw [List.filter_map]
      rfl
    rw [Rule.remove, hfilter, hfilter, filter_eraseDups, h.names]
  · obtain ⟨hrule, hname⟩ := List.mem_filter.mp hrule
    rw [List.filter_filter, ← h.last rule hrule]
    congr 1
    refine List.filter_congr fun other _ => ?_
    by_cases heq : other.name = rule.name
    · simp [heq, bne_iff_ne.mp hname]
    · simp [heq]

/-- After any history, the rules are the latest of the registrations that stand. -/
theorem latest_of_changes (changes : List (Change Tag Hook)) :
    Latest (standing changes) (changes.foldl Change.apply []) := by
  induction changes using List.reverseRecOn with
  | nil => exact ⟨rfl, nofun⟩
  | append_singleton changes change ih =>
    rw [List.foldl_append, List.foldl_cons, List.foldl_nil]
    cases change with
    | register rule =>
      rw [standing_register]
      exact ih.register rule
    | remove name =>
      rw [standing_remove]
      exact ih.remove name

end Rule

/-! ## Kinds of validators -/

/-- A write that validators apply to. -/
inductive Write where
  | insert
  | update

def ValidatorKind.covers : ValidatorKind → Write → Bool
  | .insert, .insert => true
  | .update, .update => true
  | .insertUpdate, _ => true
  | _, _ => false

/-- A validator applies to the kinds that have a write in common with its own. -/
theorem ValidatorKind.appliesTo_iff (kind operation : ValidatorKind) :
    kind.appliesTo operation = true ↔ ∃ write, kind.covers write ∧ operation.covers write := by
  constructor
  · intro h
    cases kind with
    | insert => exact ⟨.insert, rfl, by cases operation <;> trivial⟩
    | update => exact ⟨.update, rfl, by cases operation <;> trivial⟩
    | insertUpdate =>
      cases operation with
      | update => exact ⟨.update, rfl, rfl⟩
      | _ => exact ⟨.insert, rfl, rfl⟩
  · rintro ⟨write, hkind, hoperation⟩
    cases kind <;> cases operation <;> cases write <;> trivial

namespace RuleSet

variable {V D : Type}

/-! ## Sets of rules -/

/-- A call that registers a rule or removes those of a name. -/
inductive Registration (V D : Type) where
  | validator (name : String) (kind : ValidatorKind) (hook : V)
  | deleteRule (name : String) (phase : DeletePhase) (hook : D)
  | remove (name : String)

namespace Registration

/-- Makes a call. -/
def apply (rules : RuleSet V D) : Registration V D → RuleSet V D
  | .validator name kind hook => rules.validator name kind hook
  | .deleteRule name phase hook => rules.deleteRule name phase hook
  | .remove name => rules.remove name

/-- What a call changes about the validators. -/
def onValidators : Registration V D → Option (Rule.Change ValidatorKind V)
  | .validator name kind hook => some (.register ⟨name, kind, hook⟩)
  | .deleteRule _ _ _ => none
  | .remove name => some (.remove name)

def onDeleteRules : Registration V D → Option (Rule.Change DeletePhase D)
  | .validator _ _ _ => none
  | .deleteRule name phase hook => some (.register ⟨name, phase, hook⟩)
  | .remove name => some (.remove name)

end Registration

def build (calls : List (Registration V D)) : RuleSet V D := calls.foldl Registration.apply {}

theorem build_concat (calls : List (Registration V D)) (call : Registration V D) :
    build (calls ++ [call]) = call.apply (build calls) := by
  rw [build, List.foldl_append, List.foldl_cons, List.foldl_nil, build]

/-- Both lists of rules change on their own. -/
theorem build_eq (calls : List (Registration V D)) :
    build calls = ⟨(calls.filterMap (·.onValidators)).foldl Rule.Change.apply [],
      (calls.filterMap (·.onDeleteRules)).foldl Rule.Change.apply []⟩ := by
  induction calls using List.reverseRecOn with
  | nil => rfl
  | append_singleton calls call ih =>
    rw [build_concat, ih, List.filterMap_append, List.filterMap_append, List.foldl_append,
      List.foldl_append]
    cases call <;> rfl

/-- The validators that stand after some calls, in the order in which they were registered. -/
def standingValidators (calls : List (Registration V D)) : List (Rule ValidatorKind V) :=
  Rule.standing (calls.filterMap (·.onValidators))

def standingDeleteRules (calls : List (Registration V D)) : List (Rule DeletePhase D) :=
  Rule.standing (calls.filterMap (·.onDeleteRules))

theorem latest_validators (calls : List (Registration V D)) :
    Rule.Latest (standingValidators calls) (build calls).validators := by
  rw [build_eq]
  exact Rule.latest_of_changes _

theorem latest_deleteRules (calls : List (Registration V D)) :
    Rule.Latest (standingDeleteRules calls) (build calls).deleteRules := by
  rw [build_eq]
  exact Rule.latest_of_changes _

/-- A set of rules is an ordered map by name. Whatever calls build it, no name is there twice among
the validators or among the delete rules. Each list has the names that were registered since they
were last removed, in the order of the first registration since, with what the last one says. A
selection by kind or phase is a part of these lists in the same order, and a name that is registered
again keeps its place in them, whatever its new kind or phase is. -/
theorem build_ordered (calls : List (Registration V D)) :
    let rules := build calls
    ((rules.validators.map (·.name)).Nodup ∧ (rules.deleteRules.map (·.name)).Nodup) ∧
    (Rule.Latest (standingValidators calls) rules.validators ∧
      Rule.Latest (standingDeleteRules calls) rules.deleteRules) ∧
    (∀ kind, (rules.validatorsFor kind).Sublist rules.validators ∧
      ∀ rule, rule ∈ rules.validatorsFor kind ↔ rule ∈ rules.validators ∧
        ∃ write, rule.tag.covers write ∧ kind.covers write) ∧
    (∀ phase, (rules.deleteRulesIn phase).Sublist rules.deleteRules ∧
      ∀ rule, rule ∈ rules.deleteRulesIn phase ↔ rule ∈ rules.deleteRules ∧ rule.tag = phase) ∧
    (∀ name kind hook, name ∈ rules.validators.map (·.name) →
      (build (calls ++ [.validator name kind hook])).validators
        = rules.validators.map fun rule =>
          if rule.name = name then ⟨name, kind, hook⟩ else rule) ∧
    ∀ name phase hook, name ∈ rules.deleteRules.map (·.name) →
      (build (calls ++ [.deleteRule name phase hook])).deleteRules
        = rules.deleteRules.map fun rule =>
          if rule.name = name then ⟨name, phase, hook⟩ else rule := by
  intro rules
  have hvalidators := latest_validators calls
  have hdeleteRules := latest_deleteRules calls
  -- selections are filters of the lists; names that are taken are replaced in place
  refine ⟨⟨hvalidators.nodup, hdeleteRules.nodup⟩, ⟨hvalidators, hdeleteRules⟩, ?_, ?_, ?_, ?_⟩
  · refine fun kind => ⟨List.filter_sublist, fun rule => ?_⟩
    rw [← ValidatorKind.appliesTo_iff]
    exact List.mem_filter
  · refine fun phase => ⟨List.filter_sublist, fun rule => ?_⟩
    rw [← beq_iff_eq]
    exact List.mem_filter
  · intro name kind hook htaken
    rw [build_concat]
    exact Rule.register_of_taken ⟨name, kind, hook⟩ hvalidators.nodup htaken
  · intro name phase hook htaken
    rw [build_concat]
    exact Rule.register_of_taken ⟨name, phase, hook⟩ hdeleteRules.nodup htaken

/-- The rule that is registered again goes over to another phase in front of the other one. The
validator that was removed in between comes last. -/
theorem build_ordered_archive :
    let calls : List (Registration String String) :=
      [.deleteRule "archive" .pre "all", .deleteRule "locked" .pre "some",
        .validator "adult" .insert "18", .validator "named" .update "not blank", .remove "adult",
        .validator "adult" .insertUpdate "21"]
    let again := calls ++ [.deleteRule "archive" .post "none"]
    (build calls).validators
        = [⟨"named", .update, "not blank"⟩, ⟨"adult", .insertUpdate, "21"⟩] ∧
      "archive" ∈ (build calls).deleteRules.map (·.name) ∧
      (build again).deleteRules = [⟨"archive", .post, "none"⟩, ⟨"locked", .pre, "some"⟩] := by
  intro calls again
  obtain ⟨-, -, -, -, -, hmoved⟩ := build_ordered calls
  have htaken : "archive" ∈ (build calls).deleteRules.map (·.name) := by decide
  exact ⟨by decide, htaken, hmoved "archive" .post "none" htaken⟩

end RuleSet

end DocumentStore
