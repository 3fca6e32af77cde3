import AcademicCredential.Lib.Program
import AcademicCredential.Lib.History
import AcademicCredential.Lib.Hex
import AcademicCredential.Contract.Registry
import AcademicCredential.Contract.Verdict
import AcademicCredential.Core
import AcademicCredential.Lib.ThreeValued
import AcademicCredential.Chain
import AcademicCredential.Database.Schema
import AcademicCredential.Database.Constraints
import AcademicCredential.Database.Session
import AcademicCredential.Database.Direct
import AcademicCredential.Blockchain.Service
import AcademicCredential.Repositories
import AcademicCredential.Services.Issuance
import AcademicCredential.Services.Verification
import AcademicCredential.Database.Validity
import AcademicCredential.Services.Revocation
import AcademicCredential.RepositoryRuns
import AcademicCredential.Blockchain.Answers
import AcademicCredential.Database.Journal
import AcademicCredential.Footprints
import AcademicCredential.Database.CertificateRows
import AcademicCredential.Services.StatusWrites
import AcademicCredential.Services.IssuanceEffect
import AcademicCredential.Services.RevocationEffect
import AcademicCredential.Services.StatusSurvival
import AcademicCredential.ServiceFootprints
import AcademicCredential.Database.Decide
import AcademicCredential.Services.Lifecycle
import AcademicCredential.Services.StatusMachine
import AcademicCredential.Services.VerificationRuns
import AcademicCredential.Services.VerificationPaths
import AcademicCredential.Services.GoldenRule
import AcademicCredential.Services.LogRows
import AcademicCredential.Contract.Access
import AcademicCredential.Contract.Counters
import AcademicCredential.Services.SourceOfTruth
import AcademicCredential.Services.AuditTrail
import AcademicCredential.ChainHistory
import AcademicCredential.Services.TransactionRows
import AcademicCredential.Services.RetriedRevocation
import AcademicCredential.Services.LedgerEffect
import AcademicCredential.Services.Provenance
import AcademicCredential.Services.Interference
import AcademicCredential.Security
import AcademicCredential.Services.Auth
import AcademicCredential.Services.StudentCredentials
import AcademicCredential.Services.Ownership
import AcademicCredential.Database.Isolation
import AcademicCredential.Lib.Interleaving
import AcademicCredential.Blockchain.CircuitBreaker
import AcademicCredential.Blockchain.Views
import AcademicCredential.Database.Triggers
import AcademicCredential.Services.LoginRuns
import AcademicCredential.Services.Lockout
import AcademicCredential.Services.Enumeration
import AcademicCredential.Services.VerificationDetail
import AcademicCredential.Services.RowsEffect
import AcademicCredential.Services.RowAgreement
import AcademicCredential.Lib.Interruption
import AcademicCredential.Services.Scannable
import AcademicCredential.Database.Concurrency
import AcademicCredential.Services.Wallets
import AcademicCredential.Services.UidSequence
import AcademicCredential.Outlines
import AcademicCredential.Services.Dashboards
import AcademicCredential.Services.TamperEvidence
import AcademicCredential.Services.RevocationReason
import AcademicCredential.Services.RevocationInstants
import AcademicCredential.Services.Registration
import AcademicCredential.Services.UploadRuns
import AcademicCredential.Services.UploadAtomicity
import AcademicCredential.Services.UidRuns
import AcademicCredential.Services.UploadForm
import AcademicCredential.Services.QrCalls
import AcademicCredential.Services.ScanCounting
import AcademicCredential.Services.QrLifecycle
import AcademicCredential.Services.RequestSessions
import AcademicCredential.Lib.Regex
import AcademicCredential.Services.TextFormats
import AcademicCredential.Lib.Paging
import AcademicCredential.Services.CertificateListing
import AcademicCredential.Services.FailureCounter
import AcademicCredential.Services.LogListing
import AcademicCredential.Database.Updates
import AcademicCredential.Services.ConfirmationRaces
import AcademicCredential.Services.RevocationRaces
import AcademicCredential.Services.SignIns
import AcademicCredential.Services.TokenRotation
import AcademicCredential.Services.ChainAgreement
import AcademicCredential.Services.ConcurrentUploads
import AcademicCredential.Contract.EventLog
import AcademicCredential.Database.AuditLog
import AcademicCredential.Database.Runs
import AcademicCredential.Lib.Neighbours
import AcademicCredential.Services.Custody
import AcademicCredential.Services.GenuineDocuments
import AcademicCredential.Services.SharedLinks
import AcademicCredential.Services.VerificationTrail
import AcademicCredential.Database.Companions
import AcademicCredential.Services.Profiles
import AcademicCredential.Services.StoreRows
import AcademicCredential.Dependencies
import AcademicCredential.Services.UploadRequests
import AcademicCredential.Services.UploadOutcomes
