import Verdict.Operator.Basic
import Verdict.Pattern.Compile

/-!
# Texts

Both sides must be texts.  A text that is no pattern matches nothing.
-/

namespace Verdict.Operator

def textsOf (actual : Option Json) (expected : Json) : Option (String × String) :=
  (actual.bind Json.string?).bind fun text => expected.string?.map fun other => (text, other)

/-- Whether a list starts with another one at some place. -/
def hasPart (part : List Char) : List Char → Bool
  | [] => part.isEmpty
  | c :: rest => part.isPrefixOf (c :: rest) || hasPart part rest

def contains : Test := fun actual expected _ =>
  (textsOf actual expected).any fun (text, part) => hasPart part.toList text.toList

def startsWith : Test := fun actual expected _ =>
  (textsOf actual expected).any fun (text, part) => part.toList.isPrefixOf text.toList

def endsWith : Test := fun actual expected _ =>
  (textsOf actual expected).any fun (text, part) => part.toList.isSuffixOf text.toList

def matchesPattern : Test := fun actual expected _ =>
  (textsOf actual expected).any fun (text, pattern) => Pattern.found pattern text

def textuals : List (String × Test) :=
  [("contains", contains), ("starts_with", startsWith), ("ends_with", endsWith),
    ("matches", matchesPattern)]

end Verdict.Operator
