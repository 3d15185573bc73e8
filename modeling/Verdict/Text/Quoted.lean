import Verdict.Unicode.Property

/-!
# Quoted text

Quotes, backslashes and whatever would not be seen on its own are escaped.
-/

namespace Verdict.Text

/-- The characters that are shown by their code: controls, format marks, separators other than a
space, code points without a meaning of their own, and marks that join the character before them. -/
def hidden : CharSet :=
  let unseen := Unicode.ofCategories ["cc", "cf", "cn", "co", "cs", "zl", "zp", "zs"]
  (unseen.difference (.single ' ')).union ((Unicode.property? "graphemeextend").getD .empty)

def shown (c : Char) : List Char :=
  match c with
  | '"' => ['\\', '"']
  | '\\' => ['\\', '\\']
  | '\n' => ['\\', 'n']
  | '\r' => ['\\', 'r']
  | '\t' => ['\\', 't']
  | '\x00' => ['\\', '0']
  | c =>
    if c.toNat < 127 && 32 ≤ c.toNat then [c]
    else if hidden.contains c.toNat then
      '\\' :: 'u' :: '\x7b' :: Nat.toDigits 16 c.toNat ++ ['\x7d']
    else [c]

def quoted (text : String) : String :=
  String.ofList ('"' :: text.toList.flatMap shown ++ ['"'])

def quotedList (texts : List String) : String :=
  "[" ++ ", ".intercalate (texts.map quoted) ++ "]"

end Verdict.Text
