import AccountSessions.Failure
import AccountSessions.Service.Log
import AccountSessions.Settings.Dotenv
import AccountSessions.Validation.Readers

/-!
# Settings

The settings of the service, their defaults and their bounds.  A value given directly
goes before one from the environment, which goes before one from an environment file.
All fields are checked and every problem is reported; only then are the secret and the
two bounds on passwords compared.
-/

namespace AccountSessions

structure Settings where
  debug : Bool
  secretKey : String
  databaseUrl : String
  databaseTimeout : Binary64
  accessTtlSeconds : Int
  refreshTtlSeconds : Int
  passwordMinLength : Int
  passwordMaxLength : Int
  requireUpper : Bool
  requireLower : Bool
  requireDigit : Bool
  requireSymbol : Bool
  bcryptRounds : Int
  logSessionEvents : Bool
  corsOrigins : List String
  deriving DecidableEq, Repr

namespace Settings

open Validation

structure Sources where
  given : List (String × Json)
  environment : List (String × String)
  file : String

def smallLetter (c : Char) : Char :=
  if c = 'K' then 'k' else c.toLower

/-- The names of settings are the same in capital and small letters. -/
def normalName (name : String) : String :=
  String.ofList (name.toList.map smallLetter)

def latest? (name : String) (entries : List (String × α)) : Option α :=
  (entries.reverse.find? fun entry => normalName entry.1 == name).map Prod.snd

def isStructured (name : String) : Bool :=
  name == "cors_origins"

def decodeText (source name text : String) : Except Breakdown (Option Json) :=
  if isStructured name then
    match Json.read text.toList with
    | .ok .null => .ok none
    | .ok value => .ok (some value)
    | .error _ => .error (.unreadableSetting name source)
  else .ok (some (.text text))

def decodeEntry (source name : String) : Option String → Except Breakdown (Option Json)
  | some text => decodeText source name text
  | none => .ok none

def environmentSource : String := "EnvSettingsSource"

def fileSource : String := "DotEnvSettingsSource"

def Sources.fileTexts (sources : Sources) : List (String × Option String) :=
  Dotenv.read sources.environment sources.file

/-- The value of a field.  The texts of both sources are read even when a value given
directly goes before them. -/
def Sources.value? (sources : Sources) (name : String) : Except Breakdown (Option Json) := do
  let fromEnvironment ←
    decodeEntry environmentSource name (latest? name sources.environment)
  let fromFile ← decodeEntry fileSource name (latest? name sources.fileTexts).join
  let given := (sources.given.find? (·.1 == name)).map Prod.snd
  return given.or (fromEnvironment.or fromFile)

/-! ### Fields -/

def defaultDatabaseUrl : String := "sqlite:///<ROOT>/auth/mediashare_auth.db"

def defaultOrigins : List String :=
  ["http://localhost", "http://localhost:3000", "http://127.0.0.1"]

def field (sources : Sources) (name : String) (default : α) (check : Json → Checked α) :
    Except Breakdown (Checked α) := do
  return ((← sources.value? name).map check).getD (.sound default)

def checkOrigins : Json → Checked (List String)
  | .list items =>
    .all (items.zipIdx.map fun (item, index) =>
      .ofFlaw [.field "cors_origins", .item index] (readText item))
  | _ => .flawed [⟨.notAList, [.field "cors_origins"]⟩]

inductive Fault where
  | problems (problems : List Problem)
  | broken (cause : Breakdown)
  deriving Repr

def contradiction (text : String) : Fault :=
  .problems [⟨.contradiction text, []⟩]

def missingSecret : String :=
  "SECRET_KEY is required in production mode. Set SECRET_KEY in your environment or .env file. To run in development mode, set DEBUG=true."

def shortSecret : String :=
  "SECRET_KEY must be at least 32 characters."

def secretLength : Nat := 32

def crossedLengths : String :=
  "PASSWORD_MIN_LENGTH must not exceed PASSWORD_MAX_LENGTH."

/-- The secret to use: in debug mode a fresh one stands in for a missing one. -/
def chooseSecret (debug : Bool) (secret fresh : String) :
    Except Fault (String × List Log.Line) := do
  let (secret, log) ←
    if !secret.isEmpty then pure (secret, [])
    else if debug then
      pure (fresh, [⟨.warning, .settings,
        "Using auto-generated SECRET_KEY. Issued tokens will not survive a restart."⟩])
    else throw (contradiction missingSecret)
  if secret.length < secretLength then throw (contradiction shortSecret)
  return (secret, log)

def readTimeout (value : Json) : Except Flaw Binary64 := do
  let seconds ← readNumber value
  if seconds.isPositive then return seconds else throw (.notAbove 0)

def checkFields (sources : Sources) : Except Breakdown (Checked Settings) := do
  let text := fun (name default : String) =>
    field sources name default (.field name <| readText ·)
  let switch := fun (name : String) (default : Bool) =>
    field sources name default (.field name <| readSwitch ·)
  let whole := fun (name : String) (default : Int) (above atLeast atMost : Option Int) =>
    field sources name default (.field name <| within above atLeast atMost <| readWhole ·)
  let debug ← switch "debug" false
  let secret ← text "secret_key" ""
  let url ← text "database_url" defaultDatabaseUrl
  let timeout ← field sources "database_timeout_seconds" (Binary64.ofRatio false 5 1)
    (.field "database_timeout_seconds" <| readTimeout ·)
  let accessTtl ← whole "access_token_ttl_seconds" 900 (some 0) none none
  let refreshTtl ← whole "refresh_token_ttl_seconds" 604800 (some 0) none none
  let minLength ← whole "password_min_length" 8 none (some 1) none
  let maxLength ← whole "password_max_length" 72 none none (some 72)
  let upper ← switch "password_require_upper" true
  let lower ← switch "password_require_lower" true
  let digit ← switch "password_require_digit" true
  let symbol ← switch "password_require_symbol" true
  let rounds ← whole "bcrypt_rounds" 12 none (some 4) (some 31)
  let logEvents ← switch "log_session_events" false
  let origins ← field sources "cors_origins" defaultOrigins checkOrigins
  return Settings.mk <$> debug <*> secret <*> url <*> timeout <*> accessTtl <*> refreshTtl <*>
    minLength <*> maxLength <*> upper <*> lower <*> digit <*> symbol <*> rounds <*> logEvents <*>
    origins

/-- The settings of all sources, and what is said about them in the log; a fresh secret
is at hand. -/
def read (sources : Sources) (fresh : String) : Except Fault (Settings × List Log.Line) := do
  match checkFields sources with
  | .error cause => throw (.broken cause)
  | .ok (.flawed problems) => throw (.problems problems)
  | .ok (.sound settings) =>
    let (secretKey, log) ← chooseSecret settings.debug settings.secretKey fresh
    if settings.passwordMaxLength < settings.passwordMinLength then
      throw (contradiction crossedLengths)
    return ({ settings with secretKey }, log)

/-! ### Derived values -/

def accessTtl (settings : Settings) : Except Breakdown Duration :=
  (Duration.ofSecondsChecked settings.accessTtlSeconds).mapError .badDuration

def refreshTtl (settings : Settings) : Except Breakdown Duration :=
  (Duration.ofSecondsChecked settings.refreshTtlSeconds).mapError .badDuration

end Settings

end AccountSessions
