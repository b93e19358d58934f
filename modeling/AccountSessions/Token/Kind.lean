/-!
# Kinds of token

An access token authenticates requests, and a refresh token is exchanged for access
tokens.  They differ only in this mark and in how long they live.
-/

namespace AccountSessions.Token

inductive Kind where
  | access
  | refresh
  deriving DecidableEq, Repr

def Kind.name : Kind → String
  | access => "access"
  | refresh => "refresh"

end AccountSessions.Token
