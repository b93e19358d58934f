import AccountSessions.Console.Command
import AccountSessions.Service.Operations

/-!
# Running commands

A command finds its user by name or address and reports in one line, or in a table of
session records that never shows a token.
-/

namespace AccountSessions.Console

structure Outcome where
  exit : Nat
  output : String
  errors : String
  deriving DecidableEq, Repr

def Outcome.line (exit : Nat) (text : String) : Outcome :=
  ⟨exit, text ++ "\n", ""⟩

def Outcome.warning (text : String) : Outcome :=
  .line 1 ("  [!] " ++ text)

/-! ### The table of sessions -/

def padRight (width : Nat) (text : String) : String :=
  text ++ String.ofList (List.replicate (width - text.length) ' ')

def padLeft (width : Nat) (text : String) : String :=
  String.ofList (List.replicate (width - text.length) ' ') ++ text

def tableRow (id state created expires : String) : String :=
  padLeft 6 id ++ "  " ++ padRight 8 state ++ " " ++ padRight 26 created ++ " " ++ expires ++ "\n"

def recordRow (now : Moment) (record : SessionRecord) : String :=
  tableRow (toString record.id) (record.state now).name (MomentText.shown record.createdAt)
    (MomentText.shown record.expiresAt)

def table (now : Moment) (records : List SessionRecord) : String :=
  tableRow "ID" "STATE" "CREATED" "EXPIRES" ++ String.join (records.map (recordRow now))

/-! ### Commands -/

def runForUser (service : Service) (identifier : String) (id : Int) :
    UserCommand → Operation Outcome
  | .verifyEmail =>
    tryCatch
      (do
        let account ← Service.verifyEmail id
        return .line 0 ("Verified email for " ++ account.username ++ " <" ++ account.email ++ ">."))
      fun failure =>
        match failure with
        | .refused ⟨.userNotFound, _, _⟩ =>
          return .warning
            ("User " ++ toString id ++ " disappeared before it could be verified.")
        | failure => throw failure
  | .revokeSessions => do
    let count ← service.logoutAll id
    return .line 0 ("Revoked " ++ toString count ++ " session(s) for '" ++ identifier ++ "'.")
  | .listSessions => do
    match ← Service.listSessions id with
    | [] => return .line 0 ("No sessions for '" ++ identifier ++ "'.")
    | records => return ⟨0, table (← Operation.now) records, ""⟩
  | .deactivateUser => do
    let count ← Service.deactivate id
    return .line 0
      ("Deactivated '" ++ identifier ++ "' and revoked " ++ toString count ++ " session(s).")
  | .activateUser => do
    Service.activate id
    return .line 0 ("Activated '" ++ identifier ++ "'.")

def runCommand (service : Service) : Command → Operation Outcome
  | .purgeSessions => do
    let count ← Service.purge
    return .line 0 ("Deleted " ++ toString count ++ " expired or revoked session(s).")
  | .forUser command identifier => do
    match ← Store.accountByIdentifier identifier with
    | some account => runForUser service identifier account.id command
    | none => return .warning ("No user matches '" ++ identifier ++ "'.")

/-- Runs a command line; the service is built only for a command. -/
def run (service : Operation Service) (arguments : List String) : Operation Outcome :=
  match Request.ofArguments arguments with
  | .command command => do runCommand (← service) command
  | .nothing => return ⟨2, Form.help none, ""⟩
  | .help form => return ⟨0, form.help, ""⟩
  | .faulty form fault =>
    return ⟨2, "", form.usage ++ form.name ++ ": error: " ++ fault.text ++ "\n"⟩

end AccountSessions.Console
