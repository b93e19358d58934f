/-!
# The log

A line has a level, the part of the service that wrote it, and a text.
-/

namespace AccountSessions.Log

inductive Level where
  | debug
  | info
  | warning
  | error
  deriving DecidableEq, Repr

inductive Source where
  | service
  | store
  | tokens
  | events
  | passwords
  | settings
  deriving DecidableEq, Repr

structure Line where
  level : Level
  source : Source
  text : String
  deriving DecidableEq, Repr

def Level.name : Level → String
  | debug => "DEBUG"
  | info => "INFO"
  | warning => "WARNING"
  | error => "ERROR"

def Source.name : Source → String
  | service => "mediashare.auth.service"
  | store => "mediashare.auth.store"
  | tokens => "mediashare.auth.tokens"
  | events => "mediashare.auth.events"
  | passwords => "mediashare.auth.passwords"
  | settings => "mediashare.config"

def Line.display (line : Line) : String :=
  line.level.name ++ " " ++ line.source.name ++ " " ++ line.text

end AccountSessions.Log
