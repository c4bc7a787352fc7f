import DocumentStore.Pattern.CharSet

/-!
# Patterns

A pattern is a tree that describes a set of spans of a text. Trees are built by `sequence`,
`choice` and `times`, which leave out what has no effect: parts that match only the empty span
once, and counts above one for a part that cannot match more than the empty span.
-/
namespace DocumentStore.Pattern

/-- What stands on both sides of a position, as far as words go. -/
inductive WordEdge where
  | boundary
  | noBoundary
  | start
  | finish
  | noWordBefore
  | noWordAfter
  deriving DecidableEq, Repr

/-- A condition on a position of a text. Lines end with line feeds only, or with carriage returns as
well. Words are made of characters of all scripts, or of ASCII. -/
inductive Look where
  | textStart
  | textEnd
  | lineStart (returns : Bool)
  | lineEnd (returns : Bool)
  | word (edge : WordEdge) (unicode : Bool)
  deriving DecidableEq, Repr

/-- A pattern. -/
inductive Node where
  | empty
  /-- A character of a set. -/
  | one (s : CharSet)
  | look (l : Look)
  | seq (parts : List Node)
  | alt (branches : List Node)
  | loop (body : Node) (least : Nat) (most? : Option Nat)
  /-- A part whose span is kept. -/
  | group (body : Node)
  deriving Repr

namespace Node

/-! ## Lengths of spans -/

mutual

/-- Whether a pattern may match the empty span. -/
def isSkippable : Node → Bool
  | .empty | .look _ => true
  | .one _ => false
  | .seq parts => allSkippable parts
  | .alt branches => someSkippable branches
  | .loop body least _ => least == 0 || body.isSkippable
  | .group body => body.isSkippable

/-- Whether all parts may match the empty span. -/
def allSkippable : List Node → Bool
  | [] => true
  | part :: rest => part.isSkippable && allSkippable rest

/-- Whether one of the branches may match the empty span. -/
def someSkippable : List Node → Bool
  | [] => false
  | branch :: rest => branch.isSkippable || someSkippable rest

end

mutual

/-- Whether a pattern matches no span but empty ones. -/
def isWidthless : Node → Bool
  | .empty | .look _ => true
  | .one _ => false
  | .seq parts => allWidthless parts
  | .alt branches => allWidthless branches
  | .loop body _ most? => most? == some 0 || body.isWidthless
  | .group body => body.isWidthless

/-- Whether all parts match no span but empty ones. -/
def allWidthless : List Node → Bool
  | [] => true
  | part :: rest => part.isWidthless && allWidthless rest

end

/-! ## Characters -/

/-- The characters of a pattern that matches one text only. -/
def literal? : Node → Option (List Char)
  | .one s => do return [← s.char?]
  | .seq parts => parts.mapM fun
    | .one s => s.char?
    | _ => none
  | _ => none

/-- The set of a pattern of one character. -/
def set? : Node → Option CharSet
  | .one s => some s
  | _ => none

/-- The set of all branches, if they are all single characters or all proper sets. -/
def merged? (branches : List Node) : Option CharSet := do
  let sets ← branches.mapM set?
  let singles := sets.countP fun s => s.char?.isSome
  if singles = 0 || singles = sets.length then
    return .ofRanges (sets.flatMap (·.ranges))
  else none

/-! ## Construction -/

/-- The parts of a sequence within another one. -/
def parts : Node → List Node
  | .empty => []
  | .seq parts => parts
  | node => [node]

/-- Patterns one after the other. -/
def sequence (nodes : List Node) : Node :=
  match nodes.flatMap parts with
  | [] => .empty
  | [node] => node
  | parts => .seq parts

/-- The branches of a choice within another one. -/
def branches : Node → List Node
  | .alt branches => branches
  | node => [node]

/-- One of several patterns. -/
def choice (nodes : List Node) : Node :=
  match nodes.flatMap branches with
  | [node] => node
  | branches =>
    match merged? branches with
    | some s => .one s
    | none => .alt branches

/-- A pattern a number of times. -/
def times (body : Node) (least : Nat) (most? : Option Nat) : Node :=
  let (least, most?) :=
    if body.isWidthless then (min least 1, some (min (most?.getD 1) 1)) else (least, most?)
  if most? = some 0 then .empty
  else if least = 1 && most? = some 1 then body
  else .loop body least most?

end Node

end DocumentStore.Pattern
