import AccountSessions.Service.Basic
import AccountSessions.Settings.Basic

/-!
# Assembling the service

The service that the settings describe.
-/

namespace AccountSessions.Settings

def policy (settings : Settings) : Password.Policy where
  minLength := settings.passwordMinLength
  maxLength := settings.passwordMaxLength
  requireUpper := settings.requireUpper
  requireLower := settings.requireLower
  requireDigit := settings.requireDigit
  requireSymbol := settings.requireSymbol

def publisher (settings : Settings) : Publisher :=
  if settings.logSessionEvents then .logging else .absent

def buildService (settings : Settings) : Operation Service := do
  let accessTtl ← Operation.ofBreakdown settings.accessTtl
  let refreshTtl ← Operation.ofBreakdown settings.refreshTtl
  Service.build settings.secretKey accessTtl refreshTtl settings.bcryptRounds settings.policy
    settings.publisher

end AccountSessions.Settings
