/-!
# Files as texts

A file holds bytes, which have to be a text in UTF-8 to be read.
-/

namespace Verdict

/-- The bytes of a file, if there is such a file. -/
abbrev FileContent := Option ByteArray

inductive ReadError where
  | missing
  | notText
deriving DecidableEq

def ReadError.message : ReadError → String
  | missing => "No such file or directory (os error 2)"
  | notText => "stream did not contain valid UTF-8"

def FileContent.text? : FileContent → Except ReadError String
  | none => .error .missing
  | some bytes =>
    match String.fromUTF8? bytes with
    | some text => .ok text
    | none => .error .notText

end Verdict
