import WaService.Correctness.DealReadiness
import WaService.Correctness.TenantIsolation
import WaService.Correctness.SendOnce
import WaService.Correctness.DrainOnce
import WaService.Correctness.Provenance
import WaService.Correctness.Resumption
import WaService.Correctness.SenderIdentity
import WaService.Correctness.MediaLimit
import WaService.Correctness.MediaLoss
import WaService.Correctness.Confirmations
import WaService.Correctness.FinalFiles
import WaService.Correctness.ForgedWebhooks
import WaService.Correctness.SessionRace
import WaService.Correctness.TaskAlone
import WaService.Correctness.TenantCoherence
import WaService.Correctness.StoredEvidence
import WaService.Correctness.StrandedWebhooks
import WaService.Correctness.JobsCommit
import WaService.Correctness.PollEndings
import WaService.Correctness.SessionOutcome
import WaService.Correctness.SessionStates
import WaService.Correctness.PollMarks
import WaService.Correctness.RowSecurity
import WaService.Correctness.MessagingWindow
import WaService.Correctness.Repetition
import WaService.Media.Fetch
import WaService.Media.Store
import WaService.Correctness.BookingFacts
import WaService.Correctness.SettledFiles
import WaService.Correctness.OpenSessions
import WaService.Correctness.FileCounts
import WaService.System.DealRuns
import WaService.System.FileRetries
import WaService.System.FileRuns
import WaService.Correctness.FileRetries
import WaService.Correctness.FileFrames
import WaService.Correctness.IdleSessions
import WaService.Correctness.ChecklistRace
import WaService.Correctness.IdempotencyTable
import WaService.Correctness.OutboxAttempts
import WaService.Correctness.SessionAlone
import WaService.Correctness.SentRecords
import WaService.Correctness.FlushNudge
import WaService.Correctness.ConfirmedItems
import WaService.Correctness.AmbiguousReviews
import WaService.Correctness.ReplyDedup
import WaService.Correctness.FileOrder
import WaService.Correctness.RecordedSends
import WaService.Correctness.DrainBatches
import WaService.Correctness.ResentForms
import WaService.Correctness.DealLookup
import WaService.Correctness.DealFrame
import WaService.Correctness.IntakeJourney
import WaService.Correctness.WebhookAnswers
import WaService.Correctness.KeyReuse
import WaService.Correctness.GapMessages
import WaService.Correctness.BookingFlags
import WaService.Correctness.Redaction
import WaService.Correctness.PhoneNumbers
import WaService.Correctness.Callers
import WaService.Correctness.FactsRoundTrip
import WaService.Correctness.Writes
import WaService.Correctness.RowStates
import WaService.Correctness.BlankDeals
import WaService.Correctness.CompleteSessions
import WaService.Correctness.DrainSchedule
import WaService.Correctness.ShippedCopy
import WaService.Correctness.DirectoryRefined
import WaService.Correctness.Attribution
import WaService.Correctness.Pages
