import Dialogue.Pattern.Normal
import Dialogue.Pattern.Reader
/-!
# Input patterns

An authored pattern is normalized and then read; an input matches when the expression matches
somewhere in it.

## Main definitions

- `Pattern.compile` — the expression of an authored pattern
-/

namespace Dialogue.Pattern

/-- The expression of an authored pattern. -/
def compile (pattern : String) : Except Defect Regex := Regex.parse (normalize pattern)

end Dialogue.Pattern
