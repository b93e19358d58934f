import AccountSessions.Text.Blank

/-!
# Bearer credentials

The header `Authorization` carries a token behind the word `Bearer` and a blank.  What
surrounds the token is cut off, and nothing is left of no token.
-/

namespace AccountSessions.Http

def bearerScheme : List Char := ['B', 'e', 'a', 'r', 'e', 'r']

def bearerCredentials? (value : List Char) : Option (List Char) :=
  let token := Text.trimEnds Text.isWordBreak (value.dropWhile (· != ' '))
  if value.takeWhile (· != ' ') = bearerScheme ∧ token ≠ [] then some token else none

def bearerToken? (value : String) : Option String :=
  (bearerCredentials? value.toList).map String.ofList

end AccountSessions.Http
