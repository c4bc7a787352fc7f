import DocumentStore.Pattern.Encoding
import DocumentStore.Pattern.Node
import Std.Data.HashMap

/-!
# Sizes of patterns

A pattern is refused if the automaton on bytes that stands for it would be too large. Automata
are not built for that; their sizes in bytes are summed up over the tree, for reading a text
forward and for reading it backward. A state takes thirty-two bytes, a transition out of a state
with several of them eight, and a way out of a fork four.
-/
namespace DocumentStore.Pattern

/-- The direction in which an automaton reads a text. -/
inductive Scan where
  | forward
  | backward
  deriving DecidableEq, Repr

namespace Size

/-- The bytes of a state. -/
def state : Nat := 32

/-- The bytes of a state with several transitions. -/
def sparse (transitions : Nat) : Nat := state + 8 * transitions

/-- The bytes of a fork. -/
def fork (ways : Nat) : Nat := state + 4 * ways

/-- The largest automaton. -/
def limit : Nat := 0xa00000

/-! ## Sets of characters -/

/-- The states that were built for the ends of encodings: the number of each by its transitions,
and their bytes altogether. -/
structure Ends where
  known : Std.HashMap (List (ByteRange × Nat)) Nat
  bytes : Nat

/-- The state with some transitions, which is built once. -/
def Ends.state (ends : Ends) (transitions : List (ByteRange × Nat)) : Nat × Ends :=
  match ends.known[transitions]? with
  | some number => (number, ends)
  | none =>
    let number := ends.known.size + 1
    (number, ⟨ends.known.insert transitions number, ends.bytes + sparse transitions.length⟩)

/-- The sequences by their first ranges, each with what follows. -/
def heads (sequences : List (List ByteRange)) : List (ByteRange × List (List ByteRange)) :=
  sequences.foldr (fun sequence groups =>
    match sequence, groups with
    | [], groups => groups
    | head :: tail, (other, tails) :: rest =>
      if head = other then (other, (tail :: tails)) :: rest
      else (head, [tail]) :: (other, tails) :: rest
    | head :: tail, [] => [(head, [tail])]) []

/-- Builds the states for sequences of at most a length. State zero is the end. -/
def Ends.build : (length : Nat) → Ends → List (List ByteRange) → Nat × Ends
  | 0, ends, _ => (0, ends)
  | length + 1, ends, sequences =>
    match heads sequences with
    | [] => (0, ends)
    | groups =>
      let (transitions, ends) := groups.foldl (fun (transitions, ends) (head, tails) =>
        let (number, ends) := Ends.build length ends tails
        ((head, number) :: transitions, ends)) ([], ends)
      ends.state transitions

/-- The number of leading ranges that two sequences share. -/
def shared : List ByteRange → List ByteRange → Nat
  | a :: as, b :: bs => if a = b then shared as bs + 1 else 0
  | _, _ => 0

/-- The states of sequences that are read backward, where those that begin alike share their
last states. -/
def chains (previous : List ByteRange) : List (List ByteRange) → Nat
  | [] => 0
  | sequence :: rest => sequence.length - shared previous sequence + chains sequence rest

/-- The bytes for a character of a set. -/
def ofSet (direction : Scan) (s : CharSet) : Nat :=
  match s.char? with
  | some c => state * c.utf8Size
  | none =>
    if s.isAscii then state + sparse s.ranges.length
    else
      let sequences := s.encodings
      match direction with
      | .forward => state + (Ends.build 4 ⟨{}, 0⟩ sequences).2.bytes
      | .backward => fork sequences.length + state + state * chains [] sequences

/-! ## Choices of texts -/

/-- The bytes for a choice among texts, which share what they begin with. A text that ends where
others go on is one more way out of the fork there. -/
def ofTexts : (length : Nat) → List (List UInt8) → Nat
  | 0, _ => 0
  | length + 1, texts =>
    let firsts := (texts.filterMap List.head?).eraseDups
    if firsts.isEmpty then 0
    else
      let ended := if texts.any List.isEmpty then 1 else 0
      let transitions := if firsts.length = 1 then state else sparse firsts.length
      fork (1 + ended) + transitions + firsts.foldl (fun bytes first =>
        bytes + ofTexts length (texts.filterMap fun
          | head :: tail => if head = first then some tail else none
          | [] => none)) 0

/-- The bytes of characters, in the order in which they are read. -/
def encoded (direction : Scan) (cs : List Char) : List UInt8 :=
  let bytes := (String.ofList cs).toUTF8.toList
  match direction with
  | .forward => bytes
  | .backward => bytes.reverse

/-! ## Patterns -/

/-- The bytes for a part a number of times. -/
def ofLoop (body : Nat) (skippable : Bool) (least : Nat) (most? : Option Nat) : Nat :=
  match least, most? with
  | 0, some 1 => fork 2 + state + body
  | 0, none => if skippable then fork 2 + fork 2 + state + body else fork 2 + body
  | least, none => least * body + fork 2
  | least, some most =>
    if least = most then least * body
    else (if least = 0 then state else least * body) + state + (most - least) * (fork 2 + body)

mutual

/-- The bytes for a pattern. -/
def ofNode (direction : Scan) : Node → Nat
  | .empty | .look _ => state
  | .one s => ofSet direction s
  | .seq parts => (ofNodes direction parts).foldl (· + ·) 0
  | .alt branches =>
    match branches.mapM Node.literal? with
    | some texts =>
      let texts := texts.map (encoded direction)
      state + ofTexts (texts.foldl (fun n text => max n text.length) 0 + 1) texts
    | none => fork branches.length + state + (ofNodes direction branches).foldl (· + ·) 0
  | .loop body least most? => ofLoop (ofNode direction body) body.isSkippable least most?
  | .group body => (if direction = .forward then 2 * state else 0) + ofNode direction body

/-- The bytes for each of several patterns. -/
def ofNodes (direction : Scan) : List Node → List Nat
  | [] => []
  | node :: rest => ofNode direction node :: ofNodes direction rest

end

/-- The bytes for what every automaton has: the end, the span of the whole match, and the search
for its beginning. -/
def around : Scan → Nat
  | .forward => 208
  | .backward => 144

/-- Whether the automata of a pattern are within the limit. -/
def isWithinLimit (node : Node) : Bool :=
  around .forward + ofNode .forward node ≤ limit
    && around .backward + ofNode .backward node ≤ limit

end Size

end DocumentStore.Pattern
