/-!
# Blank characters

The Unicode property White_Space, and two ways of cutting it off the ends of a text.
Submitted fields and settings lose the blanks at both ends.  The credentials of a
request header lose the four information separators as well.
-/

namespace AccountSessions.Text

def isBlank (c : Char) : Bool :=
  let code := c.toNat
  (0x9 ≤ code && code ≤ 0xD) || code == 0x20 || code == 0x85 || code == 0xA0 ||
    code == 0x1680 || (0x2000 ≤ code && code ≤ 0x200A) || code == 0x2028 || code == 0x2029 ||
    code == 0x202F || code == 0x205F || code == 0x3000

/-- A blank or one of the separators U+001C to U+001F, which part the words of a header. -/
def isWordBreak (c : Char) : Bool :=
  isBlank c || (0x1C ≤ c.toNat && c.toNat ≤ 0x1F)

def trimEnds (drop : Char → Bool) (cs : List Char) : List Char :=
  ((cs.dropWhile drop).reverse.dropWhile drop).reverse

def trim (s : String) : String :=
  String.ofList (trimEnds isBlank s.toList)

end AccountSessions.Text
