import DocumentStore.Pattern.Parser

/-!
# Engines

Filters search texts with an engine for regular expressions. They only hand it patterns and texts,
so what is said of them does not depend on the engine.
-/
namespace DocumentStore.Pattern

/-- A way to compile patterns with their options, or to refuse them with a reason, and to find what
was compiled in texts. -/
class Engine where
  Compiled : Type
  compile (pattern options : String) : Except String Compiled
  isMatch : Compiled → String → Bool

instance : Engine := ⟨Automaton, compile, Automaton.isMatch⟩

end DocumentStore.Pattern
