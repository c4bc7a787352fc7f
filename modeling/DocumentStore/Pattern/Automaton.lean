import DocumentStore.Pattern.Node
import DocumentStore.Pattern.Property

/-!
# Automata

A pattern is run as an automaton whose states are numbered steps. Steps are laid out from the
end of a pattern to its beginning, each naming those that may come next. A text is read once, with
the set of all steps that may come next at each position, so the time is bounded by the length of
the text times the number of steps.
-/
namespace DocumentStore.Pattern

/-- Whether words have an edge between two characters that belong to words or not. -/
def WordEdge.lies (before after : Bool) : WordEdge → Bool
  | .boundary => before != after
  | .noBoundary => before == after
  | .start => !before && after
  | .finish => before && !after
  | .noWordBefore => !before
  | .noWordAfter => !after

/-- The characters of words. -/
def wordTable (unicode : Bool) : Array (Nat × Nat) :=
  if unicode then allScripts else ascii
where
  allScripts := CharSet.word.ranges.toArray
  ascii := CharSet.wordAscii.ranges.toArray

/-- Whether a condition holds before the character at a position. A carriage return and a line feed
after it end one line. -/
def Look.holds (text : Array Char) (position : Nat) : Look → Bool
  | .textStart => position == 0
  | .textEnd => position == text.size
  | .lineStart false => before == none || before == some '\n'
  | .lineEnd false => after == none || after == some '\n'
  | .lineStart true =>
    before == none || before == some '\n' || (before == some '\r' && after != some '\n')
  | .lineEnd true =>
    after == none || after == some '\r' || (after == some '\n' && before != some '\r')
  | .word edge unicode => edge.lies (isWord unicode before) (isWord unicode after)
where
  before : Option Char := if position = 0 then none else text[position - 1]?
  after : Option Char := text[position]?
  isWord (unicode : Bool) (c? : Option Char) : Bool :=
    (c?.map fun c => Character.inRanges (wordTable unicode) c.toNat).getD false

/-- A step of an automaton. -/
inductive Step where
  /-- The pattern has matched. -/
  | accept
  /-- Takes a character of the ranges. -/
  | take (ranges : Array (Nat × Nat)) (next : Nat)
  | check (l : Look) (next : Nat)
  | fork (first second : Nat)
  deriving Repr

/-- The steps of an automaton. -/
abbrev Steps := Array Step

/-- The number of a step that something begins with, and all steps so far. -/
abbrev Layout := Nat × Steps

namespace Layout

def add (step : Step) (steps : Steps) : Layout := (steps.size, steps.push step)

/-- Begins with a choice between what a layout begins with and another step. -/
def orElse (other : Nat) : Layout → Layout
  | (start, steps) => add (.fork start other) steps

/-- Applies a change a number of times. -/
def repeated {α : Type} (change : α → α) : Nat → α → α
  | 0, a => a
  | n + 1, a => repeated change n (change a)

/-- A part any number of times before what a layout begins with. A fork is reserved for the part
to come back to. -/
def star (body : Layout → Layout) : Layout → Layout
  | (next, steps) =>
    let again := steps.size
    let (start, steps) := body (again, steps.push (.fork next next))
    (again, steps.setIfInBounds again (.fork start next))

/-- A part a number of times before what a layout begins with. -/
def loop (body : Layout → Layout) (least : Nat) (most? : Option Nat) (l : Layout) : Layout :=
  let further := match most? with
    | some most => repeated (fun inner => (body inner).orElse l.1) (most - least) l
    | none => star body l
  repeated body least further

mutual

/-- A pattern before what a layout begins with. -/
def ofNode : Node → Layout → Layout
  | .empty, l => l
  | .one s, (next, steps) => add (.take s.ranges.toArray next) steps
  | .look look, (next, steps) => add (.check look next) steps
  | .seq parts, l => ofSequence parts l
  | .alt branches, l => ofChoice branches l
  | .loop body least most?, l => loop (ofNode body) least most? l
  | .group body, l => ofNode body l

/-- Patterns one after the other. -/
def ofSequence : List Node → Layout → Layout
  | [], l => l
  | part :: rest, l => ofNode part (ofSequence rest l)

/-- One of several patterns. Without any, there is no match: the step leads to itself. -/
def ofChoice : List Node → Layout → Layout
  | [], (_, steps) => add (.fork steps.size steps.size) steps
  | [branch], l => ofNode branch l
  | branch :: rest, l =>
    let (others, steps) := ofChoice rest l
    (ofNode branch (l.1, steps)).orElse others

end

end Layout

structure Automaton where
  steps : Steps
  start : Nat

namespace Automaton

/-- The automaton of a pattern. -/
def ofNode (node : Node) : Automaton :=
  let (start, steps) := Layout.ofNode node (Layout.add .accept #[])
  ⟨steps, start⟩

/-- Where an automaton is at a position: which steps were seen there, marked by the position, the
steps that wait for a character, and whether the pattern has matched. -/
structure Front where
  seen : Array Nat
  waiting : List (Array (Nat × Nat) × Nat)
  matched : Bool

/-- Follows steps up to those that wait for a character. A mark above the position says that a
step was seen at it. -/
def follow (steps : Steps) (text : Array Char) (position : Nat) : Nat → List Nat → Front → Front
  | 0, _, front => front
  | _, [], front => front
  | fuel + 1, i :: rest, ⟨seen, waiting, matched⟩ =>
    if seen[i]? == some (position + 1) then
      follow steps text position fuel rest ⟨seen, waiting, matched⟩
    else
      let seen := seen.setIfInBounds i (position + 1)
      match steps[i]? with
      | none => follow steps text position fuel rest ⟨seen, waiting, matched⟩
      | some .accept => follow steps text position fuel rest ⟨seen, waiting, true⟩
      | some (.take ranges next) =>
        follow steps text position fuel rest ⟨seen, (ranges, next) :: waiting, matched⟩
      | some (.check look next) =>
        let rest := if look.holds text position then next :: rest else rest
        follow steps text position fuel rest ⟨seen, waiting, matched⟩
      | some (.fork first second) =>
        follow steps text position fuel (first :: second :: rest) ⟨seen, waiting, matched⟩

/-- Reads a text from a position on. A match may begin anywhere. Every step is seen at most once
at a position and leads to at most two others, which bounds the steps to follow. -/
def search (a : Automaton) (text : Array Char) :
    (position : Nat) → List Char → List Nat → (seen : Array Nat) → Bool
  | position, cs, arrived, seen =>
    let fuel := arrived.length + 2 * a.steps.size + 2
    let front := follow a.steps text position fuel (a.start :: arrived) ⟨seen, [], false⟩
    if front.matched then true
    else
      match cs with
      | [] => false
      | c :: cs =>
        let arrived := front.waiting.filterMap fun (ranges, next) =>
          if Character.inRanges ranges c.toNat then some next else none
        search a text (position + 1) cs arrived front.seen
termination_by structural _ cs => cs

/-- Whether some span of a text matches. -/
def isMatch (a : Automaton) (text : String) : Bool :=
  a.search text.toList.toArray 0 text.toList [] (Array.replicate a.steps.size 0)

end Automaton

end DocumentStore.Pattern
