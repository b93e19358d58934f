import AccountSessions.Console.Run
import AccountSessions.Service.Assembly
import Std.Time.DateTime.Timestamp

/-!
# The command line

Runs one command with the settings of the environment and of the file `.env` in the
working directory, at the time of the clock.  Nothing is kept between two runs.
-/

namespace AccountSessions.CommandLine

def settingNames : List String :=
  ["DEBUG", "SECRET_KEY", "DATABASE_URL", "DATABASE_TIMEOUT_SECONDS", "ACCESS_TOKEN_TTL_SECONDS",
    "REFRESH_TOKEN_TTL_SECONDS", "PASSWORD_MIN_LENGTH", "PASSWORD_MAX_LENGTH",
    "PASSWORD_REQUIRE_UPPER", "PASSWORD_REQUIRE_LOWER", "PASSWORD_REQUIRE_DIGIT",
    "PASSWORD_REQUIRE_SYMBOL", "BCRYPT_ROUNDS", "LOG_SESSION_EVENTS", "CORS_ORIGINS"]

def readEnvironment : IO (List (String × String)) :=
  settingNames.filterMapM fun name => do
    return (← IO.getEnv name).map (name, ·)

def readIfPresent (path : String) : IO String := do
  try IO.FS.readFile path
  catch _ => return ""

def freshSecret : IO String := do
  let bytes ← IO.getRandomBytes 32
  return String.join (bytes.toList.map Text.Utf8.hexByte)

def clock : IO Moment := do
  let time ← Std.Time.Timestamp.now
  let micros := time.toNanosecondsSinceUnixEpoch.val / 1000
  return (Moment.ofMicros? micros).getD .epoch

def complaint : Settings.Fault → String
  | .problems problems =>
    "\n".intercalate <| problems.map fun problem =>
      ": ".intercalate (problem.place.map Place.text ++ [problem.flaw.message])
  | .broken cause => cause.message

def failureText : Failure → String
  | .refused refusal => refusal.message
  | .broken cause => cause.message

def service (settings : Except Settings.Fault (Settings × List Log.Line)) : Operation Service :=
  match settings with
  | .ok (settings, _) => settings.buildService
  | .error fault => Operation.breakDown (.collaboratorFailed (complaint fault))

def run (arguments : List String) : IO UInt32 := do
  let sources : Settings.Sources := ⟨[], ← readEnvironment, ← readIfPresent ".env"⟩
  let settings := Settings.read sources (← freshSecret)
  match (Console.run (service settings) arguments).run (State.start (← clock)) with
  | (.ok outcome, _) =>
    IO.print outcome.output
    IO.eprint outcome.errors
    return outcome.exit.toUInt32
  | (.error failure, _) =>
    IO.eprintln (failureText failure)
    return 1

end AccountSessions.CommandLine

def main (arguments : List String) : IO UInt32 :=
  AccountSessions.CommandLine.run arguments
