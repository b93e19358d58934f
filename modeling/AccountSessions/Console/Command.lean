import AccountSessions.Console.Arguments

/-!
# Commands

The maintenance commands and their command lines.  A line that is no command is answered
with a help text or with what is wrong, below the usage of the form it does not fit.
-/

namespace AccountSessions.Console

inductive UserCommand where
  | verifyEmail
  | revokeSessions
  | listSessions
  | deactivateUser
  | activateUser
  deriving DecidableEq, Repr

inductive Command where
  | purgeSessions
  | forUser (command : UserCommand) (identifier : String)
  deriving DecidableEq, Repr

inductive CommandName where
  | purgeSessions
  | forUser (command : UserCommand)
  deriving DecidableEq, Repr

namespace CommandName

def all : List CommandName :=
  [purgeSessions, forUser .verifyEmail, forUser .revokeSessions, forUser .listSessions,
    forUser .deactivateUser, forUser .activateUser]

def text : CommandName → String
  | purgeSessions => "purge-sessions"
  | forUser .verifyEmail => "verify-email"
  | forUser .revokeSessions => "revoke-sessions"
  | forUser .listSessions => "list-sessions"
  | forUser .deactivateUser => "deactivate-user"
  | forUser .activateUser => "activate-user"

def purpose : CommandName → String
  | purgeSessions => "Delete expired and revoked refresh-token records"
  | forUser .verifyEmail => "Mark a user's email address as verified"
  | forUser .revokeSessions => "Revoke every live session of a user"
  | forUser .listSessions => "Show a user's session records (no token values)"
  | forUser .deactivateUser => "Block a user's logins and revoke their sessions"
  | forUser .activateUser => "Allow a deactivated user to log in again"

def ofText? (text : String) : Option CommandName :=
  all.find? (·.text == text)

def slot : CommandName → Slot
  | purgeSessions => .nothing
  | forUser _ => .single

end CommandName

/-! ### Texts -/

def program : String := "mediashare-identity"

abbrev Form := Option CommandName

namespace Form

def name : Form → String
  | none => program
  | some command => program ++ " " ++ command.text

def usage (form : Form) : String :=
  let places :=
    match form with
    | none => " COMMAND ..."
    | some .purgeSessions => ""
    | some (.forUser _) => " identifier"
  "usage: " ++ form.name ++ " [-h]" ++ places ++ "\n"

/-- A term and its explanation, which begins in the given column, on the next line if the
term reaches it. -/
def entry (indent column : Nat) (term explanation : String) : String :=
  let blanks := fun (count : Nat) => String.ofList (List.replicate count ' ')
  let width := column - indent - 2
  if term.length ≤ width then
    blanks indent ++ term ++ blanks (width - term.length + 2) ++ explanation ++ "\n"
  else blanks indent ++ term ++ "\n" ++ blanks column ++ explanation ++ "\n"

def helpEntry (column : Nat) : String :=
  "\noptions:\n" ++ entry 2 column "-h, --help" "show this help message and exit"

def examples : String :=
  "\nExamples:\n  python main.py purge-sessions\n  python main.py verify-email alice@example.com\n  python main.py list-sessions alice\n  python main.py deactivate-user alice\n        \n"

def help (form : Form) : String :=
  match form with
  | none =>
    form.usage ++ "\nMaintenance commands for the mediashare identity service.\n" ++
      "\npositional arguments:\n  COMMAND\n" ++
      String.join (CommandName.all.map fun command => entry 4 19 command.text command.purpose) ++
      helpEntry 19 ++ examples
  | some .purgeSessions => form.usage ++ helpEntry 14
  | some (.forUser _) =>
    form.usage ++ "\npositional arguments:\n" ++
      entry 2 14 "identifier" "Username or email of the user" ++ helpEntry 14

end Form

/-! ### Reading -/

inductive LineFault where
  | valueOfHelp (value : String)
  | unknownCommand (text : String)
  | missingIdentifier
  | unrecognized (arguments : List String)
  deriving DecidableEq, Repr

def LineFault.text : LineFault → String
  | valueOfHelp value =>
    "argument -h/--help: ignored explicit argument " ++ Text.Quoted.quote value
  | unknownCommand text =>
    "argument COMMAND: invalid choice: " ++ Text.Quoted.quote text ++ " (choose from " ++
      ", ".intercalate (CommandName.all.map fun command => Text.Quoted.quote command.text) ++ ")"
  | missingIdentifier => "the following arguments are required: identifier"
  | unrecognized arguments => "unrecognized arguments: " ++ " ".intercalate arguments

inductive Request where
  | command (command : Command)
  | nothing
  | help (form : Form)
  | faulty (form : Form) (fault : LineFault)
  deriving DecidableEq, Repr

namespace Request

def ofStop (form : Form) : Stop → Request
  | .help => .help form
  | .valueOfHelp value => .faulty form (.valueOfHelp value)

def unlessExtra (extra : List String) (request : Request) : Request :=
  if extra.isEmpty then request else .faulty none (.unrecognized extra)

def ofCommand (extra : List String) (name : CommandName) (arguments : List String) : Request :=
  match fill name.slot none [] (readings arguments) with
  | .error stop => ofStop (some name) stop
  | .ok filling =>
    match name, filling.taken with
    | .purgeSessions, _ => unlessExtra (extra ++ filling.extra) (.command .purgeSessions)
    | .forUser task, some [identifier] =>
      unlessExtra (extra ++ filling.extra) (.command (.forUser task identifier))
    | .forUser _, _ => .faulty (some name) .missingIdentifier

def ofArguments (arguments : List String) : Request :=
  match fill .rest none [] (readings arguments) with
  | .error stop => ofStop none stop
  | .ok ⟨some (text :: arguments), extra⟩ =>
    match CommandName.ofText? text with
    | some name => ofCommand extra name arguments
    | none => .faulty none (.unknownCommand text)
  | .ok ⟨_, extra⟩ => unlessExtra extra .nothing

end Request

end AccountSessions.Console
