import DocumentStore.Character.Range

/-!
# White space
-/
namespace DocumentStore.Character

/-- The ranges of blanks, line and paragraph ends, and the other characters that separate words. -/
def spaceRanges : Array (Nat × Nat) := #[
  (9, 13), (32, 32), (133, 133), (160, 160), (5760, 5760), (8192, 8202), (8232, 8233),
  (8239, 8239), (8287, 8287), (12288, 12288)]

def isSpace (c : Char) : Bool := inRanges spaceRanges c.toNat

/-- Whether a text has nothing but white space. -/
def isBlank (text : String) : Bool := text.toList.all isSpace

end DocumentStore.Character
