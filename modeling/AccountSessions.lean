import AccountSessions.Http.Application
import AccountSessions.Main
import AccountSessions.Proofs.Breakdowns
import AccountSessions.Proofs.Disclosures
import AccountSessions.Proofs.FailureBodies
import AccountSessions.Proofs.Failures
import AccountSessions.Proofs.HandedBack
import AccountSessions.Proofs.HashWarnings
import AccountSessions.Proofs.HiddenHashes
import AccountSessions.Proofs.Identifiers
import AccountSessions.Proofs.Isolation
import AccountSessions.Proofs.Lifetimes
import AccountSessions.Proofs.PolicyVerdicts
import AccountSessions.Proofs.Publishers
import AccountSessions.Proofs.RecordOwners
import AccountSessions.Proofs.RefusedRecords
import AccountSessions.Proofs.Registrations
import AccountSessions.Proofs.RenamedTokens
import AccountSessions.Proofs.Renewals
import AccountSessions.Proofs.ReturnedTokens
import AccountSessions.Proofs.SessionAccounts
import AccountSessions.Proofs.SessionLifecycle
import AccountSessions.Proofs.SessionLists
import AccountSessions.Proofs.SessionViews
import AccountSessions.Proofs.SigningSecrets
import AccountSessions.Proofs.StoreRuns
import AccountSessions.Proofs.StoredHashes
import AccountSessions.Proofs.StoredTimes
import AccountSessions.Proofs.SubmittedNames
import AccountSessions.Proofs.Sweeps
import AccountSessions.Proofs.TokenAcceptance
import AccountSessions.Proofs.TokenRoundTrip
import AccountSessions.Proofs.UntrustedTokens
