import Scenarist.Text.Basic

/-! # Patterns

A pattern is compiled once and then searched for in texts. The language of
patterns is not the program's own, so all that is known of a pattern is its text
and what its first group captures. -/

namespace Scenarist

structure Pattern where
  text : Text
  /-- What the first group captured in the leftmost match, if it took part in it. -/
  firstGroup : Text → Option Text

/-- A compiler of patterns. In a run it is given one pattern, so it needs one
complaint for the case that it refuses that. -/
class Pattern.Compiler where
  compile : Text → Option Pattern
  complaint : Text

end Scenarist
