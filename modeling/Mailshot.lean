import Mailshot.Main
import Mailshot.Proofs.Audience.Index
import Mailshot.Proofs.Dispatch.Deed
import Mailshot.Proofs.Dispatch.Path
import Mailshot.Proofs.Dispatch.Account
import Mailshot.Proofs.Dispatch.Report
import Mailshot.Proofs.Dispatch.Log
import Mailshot.Proofs.Dispatch.Effect
import Mailshot.Proofs.Dispatch.Lawful
import Mailshot.Proofs.Dispatch.System
import Mailshot.Proofs.Dispatch.Hand
import Mailshot.Proofs.Dispatch.Exclusive
import Mailshot.Proofs.Dispatch.Completion
import Mailshot.Proofs.Dispatch.Watch
import Mailshot.Proofs.Dispatch.Lifetime
import Mailshot.Proofs.Store.Lifecycle
import Mailshot.Proofs.Dispatch.Sequence
import Mailshot.Proofs.Store.Agreement
import Mailshot.Proofs.Dispatch.Twins
import Mailshot.Proofs.Dispatch.Outside
import Mailshot.Proofs.Dispatch.Recipients
import Mailshot.Proofs.Dispatch.Tenancy
import Mailshot.Proofs.Dispatch.Calm
import Mailshot.Proofs.Dispatch.Alone
import Mailshot.Proofs.Dispatch.Isolation
import Mailshot.Proofs.Dispatch.Due
import Mailshot.Proofs.Dispatch.Concurrency
import Mailshot.Proofs.Json.RoundTrip
import Mailshot.Proofs.Audience.Meaning
import Mailshot.Proofs.Audience.Resolution
import Mailshot.Proofs.Store.Reached
import Mailshot.Proofs.Dispatch.Preview
import Mailshot.Proofs.Store.Request
import Mailshot.Proofs.Dispatch.Chronicle
import Mailshot.Proofs.Dispatch.Cancellation
import Mailshot.Proofs.Store.EventLog
import Mailshot.Proofs.Store.Answers
import Mailshot.Proofs.Mail.Relay
import Mailshot.Proofs.Audience.Entries
import Mailshot.Proofs.Text.ByteOrder
import Mailshot.Proofs.Store.ContactTable
import Mailshot.Proofs.Store.Segments
import Mailshot.Proofs.Dispatch.Tally
import Mailshot.Proofs.Dispatch.Owner
import Mailshot.Proofs.Dispatch.History
import Mailshot.Proofs.Campaign.Template
import Mailshot.Proofs.Mail.Failover
import Mailshot.Proofs.Dispatch.Unclaimed
import Mailshot.Proofs.Dispatch.Told
import Mailshot.Proofs.Audience.Problems
import Mailshot.Proofs.Audience.Operators
import Mailshot.Proofs.Text.Lowercase
import Mailshot.Proofs.Audience.Containing
import Mailshot.Proofs.Campaign.RawToken
import Mailshot.Proofs.Text.Words
import Mailshot.Proofs.Mail.Secret
import Mailshot.Proofs.Mail.Redaction
import Mailshot.Proofs.Mail.BearerToken
import Mailshot.Proofs.Mail.Answer
import Mailshot.Proofs.Store.Audiences
import Mailshot.Proofs.Store.Operation
import Mailshot.Proofs.Dispatch.Moment
import Mailshot.Proofs.Settings.Transport
import Mailshot.Proofs.Number.Value
import Mailshot.Proofs.Audience.Comparison
import Mailshot.Proofs.Audience.Insertion
