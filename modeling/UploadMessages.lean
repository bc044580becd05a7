import UploadMessages.Message.Notification
import UploadMessages.Message.Request
import UploadMessages.Message.Response
import UploadMessages.Session
import UploadMessages.Proofs.Json.Grammar
import UploadMessages.Proofs.Json.Completeness
import UploadMessages.Proofs.Json.OpenTokens
import UploadMessages.Proofs.Json.Soundness
import UploadMessages.Proofs.Json.Integers
import UploadMessages.Proofs.Json.Writer
import UploadMessages.Proofs.Payload
import UploadMessages.Proofs.Inbound
import UploadMessages.Proofs.Malformed
import UploadMessages.Proofs.Fields
import UploadMessages.Proofs.LastValues
import UploadMessages.Proofs.FaultOrder
import UploadMessages.Proofs.RoundTrip
import UploadMessages.Proofs.Text.Order
import UploadMessages.Proofs.Time.Calendar
import UploadMessages.Proofs.Time.CivilTimes
import UploadMessages.Proofs.Timestamp.Heads
import UploadMessages.Proofs.Steps
import UploadMessages.Proofs.LatestReport
import UploadMessages.Proofs.Secrets
import UploadMessages.Proofs.Journal
import UploadMessages.Proofs.Timestamp.Forms
import UploadMessages.Proofs.Timestamp.Agreement
import UploadMessages.Proofs.Timestamp.Range
import UploadMessages.Proofs.Json.OneLine
import UploadMessages.Proofs.Outbound
import UploadMessages.Proofs.Timestamp.Readings
import UploadMessages.Proofs.Timestamp.ZonedReadings
import UploadMessages.Proofs.FirstFault
import UploadMessages.Proofs.FirstMistyped
import UploadMessages.Proofs.Json.Slots
import UploadMessages.Proofs.ExactIntegers
import UploadMessages.Proofs.Surroundings
import UploadMessages.Proofs.Timestamp.Fractions
import UploadMessages.Proofs.RejectionTexts
import UploadMessages.Proofs.Updates
