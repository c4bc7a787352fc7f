import DocumentStore.Character.Printable
import DocumentStore.Config

/-!
# Rules

A service has validators, which run before inserts and updates, and delete rules, which run
around deletes. Rules run in the order in which they were registered. Registering a rule under
a name that is taken replaces the earlier rule in place, which is how a service that takes over
the rules of another overrides one of them.
-/
namespace DocumentStore

/-- The writes that a validator applies to, and the kinds of writes. -/
inductive ValidatorKind where
  | insert
  | update
  | insertUpdate
  deriving DecidableEq, Repr

def ValidatorKind.appliesTo (kind operation : ValidatorKind) : Bool :=
  kind == operation || kind == .insertUpdate || operation == .insertUpdate

/-- The name of a kind in the description of a service. -/
def ValidatorKind.text : ValidatorKind → String
  | .insert => "Insert"
  | .update => "Update"
  | .insertUpdate => "InsertUpdate"

/-- When a delete rule runs. -/
inductive DeletePhase where
  /-- Before the transaction. -/
  | deny
  /-- In the transaction, before the documents are removed. -/
  | pre
  /-- In the transaction, after the documents are removed. -/
  | post
  deriving DecidableEq, Repr

/-- The name of a phase in the description of a service. -/
def DeletePhase.text : DeletePhase → String
  | .deny => "Deny"
  | .pre => "Pre"
  | .post => "Post"

/-- A named rule with a tag that tells when it runs. -/
structure Rule (Tag Hook : Type) where
  name : String
  tag : Tag
  hook : Hook
  deriving DecidableEq, Repr

namespace Rule

variable {Tag Hook : Type}

/-- Replaces the rule of the same name in place, or appends the rule. -/
def register : List (Rule Tag Hook) → Rule Tag Hook → List (Rule Tag Hook)
  | [], rule => [rule]
  | other :: rest, rule =>
    if other.name = rule.name then rule :: rest else other :: register rest rule

/-- Leaves out the rules of a name. -/
def remove (rules : List (Rule Tag Hook)) (name : String) : List (Rule Tag Hook) :=
  rules.filter (·.name != name)

def outline (rule : Rule Tag Hook) : Rule Tag Unit := { rule with hook := () }

end Rule

/-- The rules of a service. -/
structure RuleSet (Validator DeleteRule : Type) where
  validators : List (Rule ValidatorKind Validator) := []
  deleteRules : List (Rule DeletePhase DeleteRule) := []
  deriving DecidableEq, Repr

namespace RuleSet

variable {V D : Type}

/-! ## Registration -/

/-- Registers a validator. -/
def validator (rules : RuleSet V D) (name : String) (kind : ValidatorKind) (hook : V) :
    RuleSet V D :=
  { rules with validators := Rule.register rules.validators ⟨name, kind, hook⟩ }

def deleteRule (rules : RuleSet V D) (name : String) (phase : DeletePhase) (hook : D) :
    RuleSet V D :=
  { rules with deleteRules := Rule.register rules.deleteRules ⟨name, phase, hook⟩ }

def remove (rules : RuleSet V D) (name : String) : RuleSet V D :=
  ⟨Rule.remove rules.validators name, Rule.remove rules.deleteRules name⟩

/-! ## Selection -/

/-- The validators that apply to writes of a kind. -/
def validatorsFor (rules : RuleSet V D) (operation : ValidatorKind) :
    List (Rule ValidatorKind V) :=
  rules.validators.filter (·.tag.appliesTo operation)

def deleteRulesIn (rules : RuleSet V D) (phase : DeletePhase) : List (Rule DeletePhase D) :=
  rules.deleteRules.filter (·.tag == phase)

def hasDeleteRules (rules : RuleSet V D) : Bool := !rules.deleteRules.isEmpty

/-! ## Description -/

/-- The rules without what they do. -/
def outline (rules : RuleSet V D) : RuleSet Unit Unit :=
  ⟨rules.validators.map Rule.outline, rules.deleteRules.map Rule.outline⟩

/-- A character of a quoted name. Characters that cannot be printed are shown by their numbers. -/
def quotedChar (c : Char) : List Char :=
  if c = '"' then ['\\', '"']
  else if c = '\\' then ['\\', '\\']
  else if c = '\n' then ['\\', 'n']
  else if c = '\r' then ['\\', 'r']
  else if c = '\t' then ['\\', 't']
  else if c = '\x00' then ['\\', '0']
  else if Character.isPrintable c then [c]
  else "\\u\x7b".toList ++ Nat.toDigits 16 c.toNat ++ "\x7d".toList

def quoted (name : String) : String :=
  String.ofList ('"' :: name.toList.flatMap quotedChar ++ ['"'])

/-- The text of the rules in the description of a service. -/
def text (rules : RuleSet V D) : String :=
  let validators := rules.validators.map fun rule =>
    "Validator \x7b name: " ++ quoted rule.name ++ ", kind: " ++ rule.tag.text ++ ", .. \x7d"
  let deleteRules := rules.deleteRules.map fun rule =>
    "DeleteRule \x7b name: " ++ quoted rule.name ++ ", phase: " ++ rule.tag.text ++ ", .. \x7d"
  "RuleSet \x7b validators: [" ++ ", ".intercalate validators ++ "], delete_rules: ["
    ++ ", ".intercalate deleteRules ++ "] \x7d"

end RuleSet

end DocumentStore
