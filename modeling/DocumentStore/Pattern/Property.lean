import DocumentStore.Character.Age
import DocumentStore.Character.Category
import DocumentStore.Character.Property
import DocumentStore.Character.Script
import DocumentStore.Character.Space
import DocumentStore.Pattern.CharSet

/-!
# Sets of characters with a property

A set of characters may be named by what these have in common: a general category, a script, an
age, or another property. The properties that divide a text into parts have no sets.
-/
namespace DocumentStore.Pattern.CharSet

open Character

def ofCategories (categories : List Category) : CharSet := ofRanges (categories.flatMap (·.ranges))

def ofRuns (runs : Runs) : CharSet := ofRanges runs.ranges

/-! ## Categories -/

/-- The code points that stand for a character. -/
def assigned : CharSet := ofCategories Category.all

def ofCategory? (name : String) : Option CharSet :=
  match name with
  | "any" => some any
  | "ascii" => some ascii
  | "assigned" => some assigned
  | "cn" | "unassigned" => some assigned.complement
  | "c" | "other" => some ((ofCategories Category.controls).union assigned.complement)
  | _ => do
    let (_, categories) ← Category.named.find? fun (names, _) => names.contains name
    return ofCategories categories

/-! ## Scripts -/

def ofScript? (name : String) : Option CharSet := do
  let script ← scripts.find? (·.names.contains name)
  return ofRuns script.runs

/-- The characters that are used in a script. What is shared by some scripts only is neither common
to all nor inherited from any. -/
def ofExtensions? (name : String) : Option CharSet := do
  let script ← scripts.find? (·.names.contains name)
  let own := ofRuns script.runs
  if script.names.contains "common" || script.names.contains "inherited" then
    return own.difference (ofRanges (scripts.flatMap (·.shared.ranges)))
  else return own.union (ofRuns script.shared)

/-! ## Ages -/

/-- The characters that a version of the standard knows: its own and those of earlier ones. -/
def ofAge? (name : String) : Option CharSet := do
  let age ← ages.findIdx? (·.1.contains name)
  return ofRanges ((ages.take (age + 1)).flatMap (·.2.ranges))

/-! ## Derived properties -/

def alphabetic : CharSet :=
  (ofCategories (.letterNumber :: Category.letters)).union (ofRuns otherAlphabetic)

def lowercase : CharSet := (ofCategories [.lowercaseLetter]).union (ofRuns otherLowercase)

def uppercase : CharSet := (ofCategories [.uppercaseLetter]).union (ofRuns otherUppercase)

def titlecase : CharSet := ofCategories [.titlecaseLetter]

def cased : CharSet := (lowercase.union uppercase).union titlecase

def caseIgnorable : CharSet :=
  (ofCategories [.nonspacingMark, .enclosingMark, .format, .modifierLetter, .modifierSymbol]).union
    (ofRuns midWord)

def changesInLowercase : CharSet := (uppercase.union titlecase).difference (ofRuns noLowercase)

def changesInUppercase : CharSet := (lowercase.union titlecase).difference (ofRuns noUppercase)

def changesInTitlecase : CharSet := changesInUppercase.symmetricDifference (ofRuns titlecaseApart)

def changesInFolding : CharSet := changesInLowercase.symmetricDifference (ofRuns foldingApart)

def changesInCase : CharSet :=
  (changesInLowercase.union changesInUppercase).union changesInTitlecase

def graphemeExtend : CharSet :=
  (ofCategories [.nonspacingMark, .enclosingMark]).union (ofRuns otherGraphemeExtend)

def graphemeBase : CharSet :=
  (assigned.difference
    (ofCategories ([.lineSeparator, .paragraphSeparator] ++ Category.controls))).difference
      graphemeExtend

/-- The characters that are reserved for the syntax of patterns, and white space in them. -/
def patternCharacters : CharSet := (ofRuns patternSyntax).union (ofRuns patternWhiteSpace)

def idStart : CharSet :=
  ((ofCategories (.letterNumber :: Category.letters)).union (ofRuns otherIdStart)).difference
    patternCharacters

def idContinue : CharSet :=
  (idStart.union (ofCategories
    [.nonspacingMark, .spacingMark, .decimalNumber, .connectorPunctuation])).union
      (ofRuns otherIdContinue)

def math : CharSet := (ofCategories [.mathSymbol]).union (ofRuns otherMath)

def ofProperty? (name : String) : Option CharSet :=
  match name with
  | "alphabetic" | "alpha" => some alphabetic
  | "cased" => some cased
  | "caseignorable" | "ci" => some caseIgnorable
  | "changeswhencasefolded" | "cwcf" => some changesInFolding
  | "changeswhencasemapped" | "cwcm" => some changesInCase
  | "changeswhenlowercased" | "cwl" => some changesInLowercase
  | "changeswhentitlecased" | "cwt" => some changesInTitlecase
  | "changeswhenuppercased" | "cwu" => some changesInUppercase
  | "graphemebase" | "grbase" => some graphemeBase
  | "graphemeextend" | "grext" => some graphemeExtend
  | "idcontinue" | "idc" => some idContinue
  | "idstart" | "ids" => some idStart
  | "lowercase" | "lower" => some lowercase
  | "math" => some math
  | "uppercase" | "upper" => some uppercase
  | "whitespace" | "wspace" | "space" => some (ofRanges spaceRanges.toList)
  | "xidcontinue" | "xidc" => some (idContinue.difference (ofRuns notContinue))
  | "xidstart" | "xids" => some (idStart.difference (ofRuns notStart))
  | _ => do
    let (_, runs) ← properties.find? fun (names, _) => names.contains name
    return ofRuns runs

/-! ## Names -/

/-- A name without what may be left out of it: its case, hyphens, underscores, blanks, characters
that are not ASCII, and a leading `is`. -/
def plainName (name : List Char) : String :=
  let plain (name : List Char) := String.ofList <| (name.map Char.toLower).filter fun c =>
    c.toNat < 128 && c != ' ' && c != '_' && c != '-'
  match name.map Char.toLower with
  | 'i' :: 's' :: rest =>
    -- the name of the comments on characters keeps its beginning
    if plain rest = "c" then "isc" else plain rest
  | _ => plain name

def named? (name : List Char) : Option CharSet :=
  let name := plainName name
  ofProperty? name <|> ofCategory? name <|> ofScript? name

def valued? (property value : List Char) : Option CharSet :=
  match plainName property with
  | "generalcategory" | "gc" => ofCategory? (plainName value)
  | "script" | "sc" => ofScript? (plainName value)
  | "scriptextensions" | "scx" => ofExtensions? (plainName value)
  | "age" => ofAge? (plainName value)
  | _ => none

/-! ## Kinds of characters -/

def digit : CharSet := ofCategories [.decimalNumber]

def space : CharSet := ofRanges spaceRanges.toList

/-- Letters, marks, digits, connecting punctuation and the two joining controls. -/
def word : CharSet :=
  (alphabetic.union
    (ofCategories (Category.marks ++ [.decimalNumber, .connectorPunctuation]))).union
      (ofRuns joinControl)

end DocumentStore.Pattern.CharSet
