import Verdict.Pattern.Meaning
import Verdict.Pattern.Size

/-!
# Compiled patterns

`Pattern.compile?` refuses a text that is no pattern, one that needs Unicode where it is off, and
one that is too large.
-/

namespace Verdict.Pattern

def compile? (text : String) : Option Pattern := do
  let node ← parse? text.toList
  let (pattern, _) ← node.meaning {}
  if pattern.size ≤ maxSize then some pattern else none

/-- Whether a text is a pattern that matches somewhere in a subject. -/
def found (text subject : String) : Bool :=
  (compile? text).any fun pattern => pattern.occursIn subject.toList

end Verdict.Pattern
