/-!
# Blanks

The characters with the property White_Space, and texts trimmed of them.
-/

namespace Verdict.Text

def isBlank (c : Char) : Bool :=
  let code := c.toNat
  (9 ≤ code && code ≤ 13) || code == 0x20 || code == 0x85 || code == 0xA0 || code == 0x1680 ||
    (0x2000 ≤ code && code ≤ 0x200A) || code == 0x2028 || code == 0x2029 || code == 0x202F ||
    code == 0x205F || code == 0x3000

def trimStart (text : List Char) : List Char :=
  text.dropWhile isBlank

def trimEnd (text : List Char) : List Char :=
  (trimStart text.reverse).reverse

def trim (text : List Char) : List Char :=
  trimEnd (trimStart text)

/-- Whether a text has a character that is not blank. -/
def hasInk (text : List Char) : Bool :=
  text.any fun c => !isBlank c

/-! ## Laws -/

theorem trimStart_cons_of_not_isBlank {c : Char} {text : List Char} (h : isBlank c = false) :
    trimStart (c :: text) = c :: text := by
  simp [trimStart, h]

theorem trimStart_cons_of_isBlank {c : Char} {text : List Char} (h : isBlank c = true) :
    trimStart (c :: text) = trimStart text := by
  simp [trimStart, h]

end Verdict.Text
