import DocumentStore.Character.Letter
import DocumentStore.Pattern.Automaton
import DocumentStore.Pattern.Property
import DocumentStore.Pattern.Size

/-!
# Reading patterns

A pattern is read from left to right with a stack of the groups that are open, and a bracketed
class with a stack of the brackets that are open. Every step takes at least one character, so
the length of what is left bounds the number of steps. Each part is read with the depth to which
its constructions are nested, and a pattern that is nested too deeply is refused.
-/
namespace DocumentStore.Pattern

/-- The options that change how a pattern is read. -/
structure Flags where
  ignoreCase : Bool
  multiLine : Bool
  dotAll : Bool
  /-- White space and comments are skipped. -/
  verbose : Bool
  /-- Classes and case are those of all scripts, not of ASCII. -/
  unicode : Bool := true
  /-- Carriage returns end lines too. -/
  returns : Bool := false
  deriving DecidableEq, Repr

/-- A failed reading gives its reason. -/
abbrev Reading (α : Type) := Except String α

/-! ## White space and comments -/

/-- Drops white space and comments, starting inside of a comment or not. -/
def dropBlank (inComment : Bool) : List Char → List Char
  | [] => []
  | c :: rest =>
    if inComment then dropBlank (c != '\n') rest
    else if Character.isSpace c then dropBlank false rest
    else if c == '#' then dropBlank true rest
    else c :: rest

/-- Drops white space and comments where they are skipped. -/
def Flags.skip (flags : Flags) (text : List Char) : List Char :=
  if flags.verbose then dropBlank false text else text

/-- The characters up to the first that is not wanted, and the rest, starting inside of a comment or
not. White space and comments are left out where they are skipped. -/
def Flags.spanFrom (flags : Flags) (wanted : Char → Bool) (inComment : Bool) :
    List Char → List Char × List Char
  | [] => ([], [])
  | c :: rest =>
    if inComment then flags.spanFrom wanted (c != '\n') rest
    else if flags.verbose && Character.isSpace c then flags.spanFrom wanted false rest
    else if flags.verbose && c == '#' then flags.spanFrom wanted true rest
    else if wanted c then
      let (cs, after) := flags.spanFrom wanted false rest
      (c :: cs, after)
    else ([], c :: rest)

/-- The characters up to the first that is not wanted, and the rest. -/
def Flags.span (flags : Flags) (wanted : Char → Bool) (text : List Char) :
    List Char × List Char :=
  flags.spanFrom wanted false text

/-- A number of characters and the rest. -/
def Flags.take (flags : Flags) : Nat → List Char → Reading (List Char × List Char)
  | 0, text => .ok ([], text)
  | n + 1, text =>
    match flags.skip text with
    | [] => .error "incomplete escape"
    | c :: rest => do
      let (cs, after) ← flags.take n rest
      return (c :: cs, after)

/-! ## Sets -/

/-- The set with the characters that differ only in case, where case is ignored. -/
def Flags.fold (flags : Flags) (s : CharSet) : CharSet :=
  if !flags.ignoreCase then s
  else if flags.unicode then s.folded
  else s.foldedAscii

/-- Refuses a set of bytes that are parts of characters. -/
def Flags.checked (flags : Flags) (s : CharSet) : Reading CharSet :=
  if flags.unicode || s.isAscii then .ok s else .error "matches parts of characters"

/-- A set or what is not in it. It is folded before it is negated. -/
def Flags.close (flags : Flags) (negated : Bool) (s : CharSet) : Reading CharSet :=
  flags.checked (if negated then (flags.fold s).complement else flags.fold s)

/-- A set of all scripts or of ASCII, or what is not in it. -/
def Flags.choose (flags : Flags) (negated : Bool) (s ascii : CharSet) : Reading CharSet :=
  let s := if flags.unicode then s else ascii
  flags.checked (if negated then s.complement else s)

/-! ## Escapes -/

/-- What a backslash and the characters after it stand for. -/
inductive Escape where
  | literal (c : Char)
  | set (s : CharSet)
  | look (l : Look)

/-- Punctuation with a meaning of its own. -/
def isMeta (c : Char) : Bool := "\\.+*?()|[]\x7b\x7d^$#&-~".toList.contains c

/-- Characters other than letters and digits may be escaped without need. -/
def isEscapable (c : Char) : Bool :=
  isMeta c || (c.toNat < 128 && !c.isAlphanum && c != '<' && c != '>')

/-- The character with the number that the digits denote. -/
def characterOf (digits : List Char) : Reading Char :=
  match hexDigitsOf digits with
  | some n =>
    if n < 0x110000 && !(0xd800 ≤ n && n < 0xe000) && !digits.isEmpty then .ok (Char.ofNat n)
    else .error "not a character"
  | none => .error "not a hexadecimal number"
where
  hexDigitsOf (digits : List Char) : Option Nat :=
    digits.foldl (fun n? c => do
      let n ← n?
      if '0' ≤ c && c ≤ '9' then some (n * 16 + (c.toNat - 48))
      else if 'a' ≤ c && c ≤ 'f' then some (n * 16 + (c.toNat - 87))
      else if 'A' ≤ c && c ≤ 'F' then some (n * 16 + (c.toNat - 55))
      else none) (some 0)

/-- Reads a character number of a fixed width, or of any width in braces. -/
def readNumbered (flags : Flags) (width : Nat) (text : List Char) :
    Reading (Char × List Char) :=
  match flags.skip text with
  | '\x7b' :: rest =>
    match flags.span (· != '\x7d') rest with
    | (digits, _ :: after) => do return (← characterOf digits, after)
    | (_, []) => .error "unclosed brace"
  | text => do
    let (digits, after) ← flags.take width text
    return (← characterOf digits, after)

/-- Reads the number of a byte or of a character. A byte that is a part of characters is refused. -/
def readByte (flags : Flags) (text : List Char) : Reading (Char × List Char) := do
  let (c, after) ← readNumbered flags 2 text
  if !flags.unicode && 128 ≤ c.toNat && (flags.skip text).head? != some '\x7b' then
    .error "matches parts of characters"
  else return (c, after)

/-- Reads what may follow a word boundary in braces. Braces with anything but letters and
hyphens are left to be read as a repetition. -/
def readBoundary (flags : Flags) (rest : List Char) : Reading (Escape × List Char) :=
  let isPart (d : Char) := d.isAlpha || d == '-'
  let look (edge : WordEdge) := Escape.look (.word edge flags.unicode)
  match rest with
  | '\x7b' :: inner =>
    if ((flags.skip inner).head?.map isPart).getD false then
      match flags.span isPart inner with
      | (name, '\x7d' :: after) =>
        match String.ofList name with
        | "start" => .ok (look .start, after)
        | "end" => .ok (look .finish, after)
        | "start-half" => .ok (look .noWordBefore, after)
        | "end-half" => .ok (look .noWordAfter, after)
        | _ => .error "unknown word boundary"
      | _ => .error "unclosed word boundary"
    else .ok (look .boundary, rest)
  | _ => .ok (look .boundary, rest)

/-- What stands before and after a separator. -/
def splitAt? (separator : List Char) : List Char → Option (List Char × List Char)
  | [] => none
  | c :: rest =>
    if separator.isPrefixOf (c :: rest) then some ([], (c :: rest).drop separator.length)
    else (splitAt? separator rest).map fun (before, after) => (c :: before, after)

/-- The set of a property, or of a property with a value. All separators mean the same. -/
def setOf? (name : List Char) : Option CharSet :=
  match splitAt? ['!', '='] name <|> splitAt? [':'] name <|> splitAt? ['='] name with
  | some (property, value) => CharSet.valued? property value
  | none => CharSet.named? name

/-- Reads the class of a property, after `\p` or `\P`: one letter, or a name in braces. -/
def readProperty (flags : Flags) (negated : Bool) (text : List Char) :
    Reading (Escape × List Char) := do
  let (name, after) ← match flags.skip text with
    | [] => .error "incomplete escape"
    | '\\' :: _ => .error "invalid class"
    | '\x7b' :: rest =>
      match flags.span (· != '\x7d') rest with
      | (name, _ :: after) => .ok (name, after)
      | (_, []) => .error "unclosed brace"
    | c :: rest => .ok ([c], rest)
  if !flags.unicode then .error "matches parts of characters"
  else
    match setOf? name with
    | some s => return (.set (← flags.close negated s), after)
    | none => .error "unknown property"

/-- Reads the characters after a backslash. -/
def readEscape (flags : Flags) : List Char → Reading (Escape × List Char)
  | [] => .error "incomplete escape"
  | c :: rest =>
    let literal (d : Char) : Reading (Escape × List Char) := .ok (.literal d, rest)
    let look (l : Look) : Reading (Escape × List Char) := .ok (.look l, rest)
    let set (negated : Bool) (s ascii : CharSet) : Reading (Escape × List Char) := do
      return (.set (← flags.choose negated s ascii), rest)
    match c with
    | 'x' => do let (d, after) ← readByte flags rest; return (.literal d, after)
    | 'u' => do let (d, after) ← readNumbered flags 4 rest; return (.literal d, after)
    | 'U' => do let (d, after) ← readNumbered flags 8 rest; return (.literal d, after)
    | 'p' => readProperty flags false rest
    | 'P' => readProperty flags true rest
    | 'd' => set false .digit .digitAscii
    | 'D' => set true .digit .digitAscii
    | 's' => set false .space .spaceAscii
    | 'S' => set true .space .spaceAscii
    | 'w' => set false .word .wordAscii
    | 'W' => set true .word .wordAscii
    | 'a' => literal '\x07'
    | 'f' => literal '\x0c'
    | 't' => literal '\t'
    | 'n' => literal '\n'
    | 'r' => literal '\r'
    | 'v' => literal '\x0b'
    | 'A' => look .textStart
    | 'z' => look .textEnd
    | 'b' => readBoundary flags rest
    | 'B' => look (.word .noBoundary flags.unicode)
    | '<' => look (.word .start flags.unicode)
    | '>' => look (.word .finish flags.unicode)
    | c => if isEscapable c then literal c else .error "unrecognized escape"

/-! ## Nesting -/

/-- Something that was read, with the depth to which constructions are nested in it. -/
structure Nested (α : Type) where
  value : α
  depth : Nat

/-- The deepest nesting of a pattern. -/
def deepest : Nat := 250

/-- Refuses what is nested too deeply. -/
def Nested.checked {α : Type} (n : Nested α) : Reading (Nested α) :=
  if n.depth ≤ deepest then .ok n else .error "nested too deeply"

/-- The depth of several parts side by side: that of a single one, and otherwise one more than
that of the deepest. -/
def depthOf : List Nat → Nat
  | [] => 0
  | [depth] => depth
  | depths => depths.foldl max 0 + 1

/-! ## Bracketed classes -/

/-- How two sets of one bracket are combined. -/
inductive SetOperation where
  | intersection
  | difference
  | symmetricDifference

/-- The set that an operation makes of two. -/
def SetOperation.apply (operation : SetOperation) (s t : CharSet) : CharSet :=
  match operation with
  | .intersection => s.intersection t
  | .difference => s.difference t
  | .symmetricDifference => s.symmetricDifference t

/-- A bracket that is open: what stands before its last operator and the items after it, from
the last. -/
structure Bracket where
  negated : Bool
  before : Option (Nested CharSet × SetOperation)
  items : List (Nested CharSet)

/-- The set of what stands after the last operator. -/
def Bracket.last (b : Bracket) : Nested CharSet :=
  ⟨.ofRanges (b.items.flatMap (·.value.ranges)), depthOf (b.items.map (·.depth))⟩

/-- The set of a bracket so far. The sides of an operator are folded before it is applied. -/
def Bracket.combined (flags : Flags) (b : Bracket) : Nested CharSet :=
  match b.before with
  | none => b.last
  | some (left, operation) =>
    let right := b.last
    ⟨operation.apply (flags.fold left.value) (flags.fold right.value),
      max left.depth right.depth + 1⟩

/-- The set of a bracket at its end. -/
def Bracket.close (flags : Flags) (b : Bracket) : Reading (Nested CharSet) := do
  let all := b.combined flags
  Nested.checked ⟨← flags.close b.negated all.value, all.depth + 1⟩

/-- Adds an item to what stands after the last operator. -/
def Bracket.add (b : Bracket) (item : Nested CharSet) : Bracket :=
  { b with items := item :: b.items }

/-- Adds a set without nesting. -/
def Bracket.addSet (b : Bracket) (s : CharSet) : Bracket := b.add ⟨s, 0⟩

/-- Starts the right side of an operator. -/
def Bracket.operate (flags : Flags) (b : Bracket) (operation : SetOperation) : Bracket :=
  { b with before := some (b.combined flags, operation), items := [] }

/-- Takes leading hyphens as literals. -/
def takeHyphens (flags : Flags) (b : Bracket) : Nat → List Char → Bracket × List Char × Bool
  | 0, text => (b, text, false)
  | fuel + 1, text =>
    match text with
    | '-' :: rest =>
      let (b, rest, _) := takeHyphens flags (b.addSet (.single '-')) fuel (flags.skip rest)
      (b, rest, true)
    | _ => (b, text, false)

/-- Reads the beginning of a bracket, after `[`. -/
def openBracket (flags : Flags) (text : List Char) : Bracket × List Char :=
  let text := flags.skip text
  let (negated, text) := match text with
    | '^' :: rest => (true, flags.skip rest)
    | _ => (false, text)
  let (b, text, hyphens) := takeHyphens flags ⟨negated, none, []⟩ text.length text
  match hyphens, text with
  | false, ']' :: rest => (b.addSet (.single ']'), flags.skip rest)
  | _, _ => (b, text)

/-- Reads a named class such as `[:digit:]`, after its `[`. -/
def readNamedClass? (flags : Flags) : List Char → Option (Reading CharSet × List Char)
  | ':' :: rest =>
    let (negated, rest) := match rest with
      | '^' :: rest => (true, rest)
      | _ => (false, rest)
    let name := String.ofList (rest.takeWhile (· != ':'))
    match rest.dropWhile (· != ':'), CharSet.ofName? name with
    | ':' :: ']' :: after, some s => some (flags.close negated s, after)
    | _, _ => none
  | _ => none

/-- Reads one item of a bracket: a character or a class. -/
def readItem (flags : Flags) (text : List Char) : Reading (Escape × List Char) := do
  let (item, after) ← match text with
    | '\\' :: rest => readEscape flags rest
    | c :: rest => .ok (.literal c, rest)
    | [] => .error "unclosed character class"
  match item with
  | .literal c =>
    if flags.unicode || c.toNat < 128 then return (item, after) else .error "not ASCII"
  | _ => return (item, after)

/-- Reads an item of a bracket or a range between two characters. -/
def readRange (flags : Flags) (text : List Char) : Reading (CharSet × List Char) := do
  let (item, rest) ← readItem flags text
  let rest := flags.skip rest
  let isRange := match rest with
    | '-' :: after =>
      !((flags.skip after).head? == some ']' || (flags.skip after).head? == some '-')
    | _ => false
  if rest.isEmpty then .error "unclosed character class"
  else if isRange then
    let (last, after) ← readItem flags (flags.skip (rest.drop 1))
    match item, last with
    | .literal a, .literal b =>
      if a ≤ b then return (.range a b, after) else .error "invalid range"
    | _, _ => .error "range between classes"
  else
    match item with
    | .literal c => return (.single c, rest)
    | .set s => return (s, rest)
    | .look _ => .error "escape without meaning in a class"

/-- Reads up to the end of the outermost bracket. The brackets that are open are listed from
the innermost. -/
def readBrackets (flags : Flags) :
    Nat → Bracket → List Bracket → List Char → Reading (Nested CharSet × List Char)
  | 0, _, _, _ => .error "unclosed character class"
  | fuel + 1, b, outer, text =>
    match flags.skip text with
    | [] => .error "unclosed character class"
    | '[' :: rest =>
      match readNamedClass? flags rest with
      | some (.ok s, after) => readBrackets flags fuel (b.addSet s) outer after
      | some (.error reason, _) => .error reason
      | none =>
        let (inner, after) := openBracket flags rest
        readBrackets flags fuel inner (b :: outer) after
    | ']' :: rest =>
      match b.close flags, outer with
      | .error reason, _ => .error reason
      | .ok s, [] => .ok (s, rest)
      | .ok s, parent :: outer => readBrackets flags fuel (parent.add s) outer rest
    | '&' :: '&' :: rest => readBrackets flags fuel (b.operate flags .intersection) outer rest
    | '-' :: '-' :: rest => readBrackets flags fuel (b.operate flags .difference) outer rest
    | '~' :: '~' :: rest =>
      readBrackets flags fuel (b.operate flags .symmetricDifference) outer rest
    | text =>
      match readRange flags text with
      | .ok (s, after) => readBrackets flags fuel (b.addSet s) outer after
      | .error reason => .error reason

/-- Reads a bracketed class, after its `[`. -/
def readClass (flags : Flags) (text : List Char) : Reading (Nested CharSet × List Char) :=
  let (b, rest) := openBracket flags text
  readBrackets flags (rest.length + 1) b [] rest

/-! ## Counted repetition -/

/-- Reads a decimal number of at most thirty-two bits between white space. -/
def readCount (text : List Char) : Option (Reading Nat × List Char) :=
  let text := text.dropWhile Character.isSpace
  let digits := text.takeWhile Char.isDigit
  let rest := (text.dropWhile Char.isDigit).dropWhile Character.isSpace
  if digits.isEmpty then none
  else
    let n := digits.foldl (fun n c => n * 10 + (c.toNat - 48)) 0
    some (if n < 0x100000000 then .ok n else .error "count too large", rest)

/-- Reads the counts of a repetition, after `{`, up to and including `}`. -/
def readCounts (flags : Flags) (text : List Char) : Reading (Nat × Option Nat × List Char) :=
  match readCount (flags.skip text) with
  | none => .error "missing count"
  | some (least, rest) => do
    let least ← least
    match rest with
    | '\x7d' :: after => return (least, some least, after)
    | ',' :: rest =>
      match flags.skip rest with
      | '\x7d' :: after => return (least, none, after)
      | rest =>
        match readCount rest with
        | none => .error "missing count"
        | some (most, rest) =>
          let most ← most
          match rest with
          | '\x7d' :: after =>
            if least ≤ most then return (least, some most, after) else .error "invalid counts"
          | _ => .error "unclosed repetition"
    | _ => .error "unclosed repetition"

/-! ## Groups -/

/-- What stands between `(?` and the end of the flags. -/
structure FlagItems where
  seen : List Char
  negated : Bool
  dangling : Bool
  flags : Flags

/-- Sets or clears the flag of a letter. Whether repetitions are lazy changes no match. -/
def Flags.set? (flags : Flags) (letter : Char) (on : Bool) : Option Flags :=
  match letter with
  | 'i' => some { flags with ignoreCase := on }
  | 'm' => some { flags with multiLine := on }
  | 's' => some { flags with dotAll := on }
  | 'x' => some { flags with verbose := on }
  | 'u' => some { flags with unicode := on }
  | 'R' => some { flags with returns := on }
  | 'U' => some flags
  | _ => none

/-- Reads flags up to `)` or `:`, which is left in the rest. -/
def readFlags (items : FlagItems) : List Char → Reading (FlagItems × List Char)
  | [] => .error "unclosed group"
  | c :: rest =>
    if c == ')' || c == ':' then
      if items.dangling then .error "dangling negation" else .ok (items, c :: rest)
    else if c == '-' then
      if items.negated then .error "repeated negation"
      else readFlags { items with negated := true, dangling := true } rest
    else if items.seen.contains c then .error "repeated flag"
    else
      match items.flags.set? c (!items.negated) with
      | some flags =>
        readFlags { items with seen := c :: items.seen, dangling := false, flags := flags } rest
      | none => .error "unrecognized flag"

/-- The beginning of a group. -/
inductive GroupStart where
  /-- Flags for the rest of the enclosing group. -/
  | setting (flags : Flags)
  /-- A group with flags of its own. The span of one that `keeps` it is kept. -/
  | group (flags : Flags) (keeps : Bool) (name : Option String)

/-- Whether a character may begin the name of a group, or continue it. -/
def isNamePart (first : Bool) (c : Char) : Bool :=
  c == '_' || Character.isLetter c
    || (!first && (Character.isNumber c || c == '.' || c == '[' || c == ']'))

/-- Reads the name of a group, up to and including `>`. -/
def readName (text : List Char) : Reading (String × List Char) :=
  let name := text.takeWhile (· != '>')
  match text.dropWhile (· != '>'), name with
  | [], _ => .error "unclosed group name"
  | _ :: _, [] => .error "empty group name"
  | _ :: after, first :: others =>
    if isNamePart true first && others.all (isNamePart false) then
      .ok (String.ofList name, after)
    else .error "invalid group name"

/-- Reads the beginning of a group, after `(`. -/
def readGroup (flags : Flags) (text : List Char) : Reading (GroupStart × List Char) :=
  match flags.skip text with
  | '?' :: '=' :: _ | '?' :: '!' :: _ | '?' :: '<' :: '=' :: _ | '?' :: '<' :: '!' :: _ =>
    .error "look-around is not supported"
  | '?' :: 'P' :: '<' :: rest | '?' :: '<' :: rest => do
    let (name, after) ← readName rest
    return (.group flags true (some name), after)
  | '?' :: rest => do
    let (items, after) ← readFlags ⟨[], false, false, flags⟩ rest
    match after with
    | ')' :: after =>
      if items.seen.isEmpty then .error "missing repetition operand"
      else return (.setting items.flags, after)
    | _ => return (.group items.flags false none, after.drop 1)
  | rest => .ok (.group flags true none, rest)

/-- A group that is open: the flags to go back to, whether its span is kept, the finished
alternatives and the items of the current one, each from the last. An item that sets flags has no
node. -/
structure Group where
  outer : Flags
  keeps : Bool
  branches : List (Nested Node)
  items : List (Nested (Option Node))

namespace Group

def start (outer : Flags) (keeps : Bool) : Group := ⟨outer, keeps, [], []⟩

def push (g : Group) (node : Nested Node) : Group :=
  { g with items := ⟨some node.value, node.depth⟩ :: g.items }

/-- Adds a node without nesting. -/
def pushNode (g : Group) (node : Node) : Group := g.push ⟨node, 0⟩

/-- Adds an item that sets flags. -/
def pushSetting (g : Group) : Group := { g with items := ⟨none, 0⟩ :: g.items }

/-- The items of the current alternative in sequence. -/
def sequence (g : Group) : Nested Node :=
  ⟨.sequence (g.items.reverse.filterMap (·.value)), depthOf (g.items.map (·.depth))⟩

/-- Ends the current alternative. -/
def branch (g : Group) : Group := { g with branches := g.sequence :: g.branches, items := [] }

/-- All alternatives of a group. -/
def alternatives (g : Group) : Nested Node :=
  let branches := (g.sequence :: g.branches).reverse
  ⟨.choice (branches.map (·.value)), depthOf (branches.map (·.depth))⟩

/-- The node of the whole group. -/
def close (g : Group) : Nested Node :=
  let inner := g.alternatives
  ⟨if g.keeps then .group inner.value else inner.value, inner.depth + 1⟩

/-- Repeats the last item. -/
def repeatLast (g : Group) (least : Nat) (most? : Option Nat) : Reading Group :=
  match g.items with
  | ⟨some node, depth⟩ :: rest => do
    let repeated ← Nested.checked ⟨some (node.times least most?), depth + 1⟩
    return { g with items := repeated :: rest }
  | _ => .error "missing repetition operand"

end Group

/-! ## Patterns -/

/-- Drops the mark that makes a repetition lazy. Whether a match exists does not depend on it. -/
def dropLazy : List Char → List Char
  | '?' :: rest => rest
  | text => text

/-- The node of a literal character. -/
def Flags.literal (flags : Flags) (c : Char) : Node := .one (flags.fold (.single c))

/-- The node of an escape. -/
def Flags.escape (flags : Flags) : Escape → Node
  | .literal c => flags.literal c
  | .set s => .one s
  | .look l => .look l

/-- Any character, or any that does not end a line. Any byte may be a part of a character. -/
def Flags.dot (flags : Flags) : Reading Node :=
  let ends := if flags.returns then CharSet.ofChars [('\n', '\n'), ('\r', '\r')] else .single '\n'
  if flags.unicode then .ok (.one (if flags.dotAll then .any else ends.complement))
  else .error "matches parts of characters"

/-- Reads to the end of the pattern. The groups that are open are listed from the innermost. -/
def readNodes :
    Nat → Flags → Group → List Group → List String → List Char → Reading (Nested Node)
  | 0, _, _, _, _, _ => .error "pattern not read to its end"
  | fuel + 1, flags, g, outer, names, text =>
    match flags.skip text with
    | [] => if outer.isEmpty then g.alternatives.checked else .error "unclosed group"
    | '(' :: rest =>
      match readGroup flags rest with
      | .error reason => .error reason
      | .ok (.setting inner, after) => readNodes fuel inner g.pushSetting outer names after
      | .ok (.group inner keeps none, after) =>
        readNodes fuel inner (.start flags keeps) (g :: outer) names after
      | .ok (.group inner keeps (some name), after) =>
        if names.contains name then .error "repeated group name"
        else readNodes fuel inner (.start flags keeps) (g :: outer) (name :: names) after
    | ')' :: rest =>
      match g.close.checked, outer with
      | .error reason, _ => .error reason
      | .ok _, [] => .error "unopened group"
      | .ok node, parent :: outer => readNodes fuel g.outer (parent.push node) outer names rest
    | '|' :: rest => readNodes fuel flags g.branch outer names rest
    | '[' :: rest =>
      match readClass flags rest with
      | .ok (s, after) =>
        readNodes fuel flags (g.push ⟨.one s.value, s.depth⟩) outer names after
      | .error reason => .error reason
    | '?' :: rest => do
      let g ← g.repeatLast 0 (some 1)
      readNodes fuel flags g outer names (dropLazy rest)
    | '*' :: rest => do
      let g ← g.repeatLast 0 none
      readNodes fuel flags g outer names (dropLazy rest)
    | '+' :: rest => do
      let g ← g.repeatLast 1 none
      readNodes fuel flags g outer names (dropLazy rest)
    | '\x7b' :: rest => do
      let _ ← g.repeatLast 0 none
      let (least, most?, after) ← readCounts flags rest
      let g ← g.repeatLast least most?
      readNodes fuel flags g outer names (dropLazy (flags.skip after))
    | '\\' :: rest =>
      match readEscape flags rest with
      | .ok (escape, after) =>
        readNodes fuel flags (g.pushNode (flags.escape escape)) outer names after
      | .error reason => .error reason
    | '.' :: rest => do readNodes fuel flags (g.pushNode (← flags.dot)) outer names rest
    | '^' :: rest =>
      let look := if flags.multiLine then .lineStart flags.returns else Look.textStart
      readNodes fuel flags (g.pushNode (.look look)) outer names rest
    | '$' :: rest =>
      let look := if flags.multiLine then .lineEnd flags.returns else Look.textEnd
      readNodes fuel flags (g.pushNode (.look look)) outer names rest
    | c :: rest => readNodes fuel flags (g.pushNode (flags.literal c)) outer names rest

/-- The flags that a string of option letters sets. Other letters are ignored. -/
def Flags.ofOptions (options : String) : Flags :=
  let letters := options.toList
  { ignoreCase := letters.contains 'i', multiLine := letters.contains 'm',
    dotAll := letters.contains 's', verbose := letters.contains 'x' }

def Node.ofText? (pattern options : String) : Reading Node := do
  let flags := Flags.ofOptions options
  let text := pattern.toList
  return (← readNodes (text.length + 1) flags (.start flags false) [] [] text).value

/-- The automaton of a pattern with its options. One that would be too large is refused. -/
def compile (pattern options : String) : Reading Automaton := do
  let node ← Node.ofText? pattern options
  if Size.isWithinLimit node then return .ofNode node else .error "too large"

end DocumentStore.Pattern
