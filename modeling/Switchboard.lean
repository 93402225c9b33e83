import Switchboard.Json.Printer
import Switchboard.Outbound.Document
import Switchboard.Recorder
import Switchboard.Service.Routes
import Switchboard.Service.Startup
import Switchboard.Proofs.Desk.Cards
import Switchboard.Proofs.Desk.Growth
import Switchboard.Proofs.Service.History
import Switchboard.Proofs.Dialogue.Shape
import Switchboard.Proofs.Dialogue.Path
import Switchboard.Proofs.Dialogue.Standing
import Switchboard.Proofs.Dialogue.Continuation
import Switchboard.Proofs.Desk.Contacts
import Switchboard.Proofs.Desk.Register
import Switchboard.Proofs.Desk.OneCard
import Switchboard.Proofs.Dialogue.AutomaticPath
import Switchboard.Proofs.Dialogue.Lines
import Switchboard.Proofs.Dialogue.Values
import Switchboard.Proofs.Json.Members
import Switchboard.Proofs.Dialogue.Taps
import Switchboard.Proofs.Desk.Deliveries
import Switchboard.Proofs.Service.Batches
import Switchboard.Proofs.Service.Refusals
import Switchboard.Proofs.Service.Serving
import Switchboard.Proofs.Dialogue.Presses
import Switchboard.Proofs.Service.Restarts
import Switchboard.Proofs.Service.Resumptions
import Switchboard.Proofs.Service.Replies
import Switchboard.Proofs.Service.OperatorReplies
import Switchboard.Proofs.Service.Admission
import Switchboard.Proofs.Service.Independence
import Switchboard.Proofs.Service.Widgets
import Switchboard.Proofs.Roster
import Switchboard.Proofs.Flow.Documents
import Switchboard.Proofs.Dialogue.Conversations
import Switchboard.Proofs.Desk.Numbers
import Switchboard.Proofs.Inbound.Forms
import Switchboard.Proofs.Outbound.Failures
import Switchboard.Proofs.Dialogue.Receipts
import Switchboard.Proofs.Dialogue.Steps
import Switchboard.Proofs.Service.Counters
import Switchboard.Proofs.Service.Accounts
import Switchboard.Proofs.Dialogue.Placeholders
import Switchboard.Proofs.Text.Trimming
import Switchboard.Proofs.Dialogue.Answers
import Switchboard.Proofs.Dialogue.Captures
import Switchboard.Proofs.Inbound.Labels
import Switchboard.Proofs.Dialogue.Spellings
import Switchboard.Proofs.Service.Recollections
import Switchboard.Proofs.Flow.Scans
import Switchboard.Proofs.Flow.Options
import Switchboard.Proofs.Outbound.Limits
import Switchboard.Proofs.Inbound.Extraction
import Switchboard.Proofs.Desk.Frames
import Switchboard.Proofs.Desk.Lookup
import Switchboard.Proofs.Desk.Lanes
import Switchboard.Proofs.Text.Words
import Switchboard.Proofs.Dialogue.Names
import Switchboard.Proofs.Dialogue.Mailboxes
import Switchboard.Proofs.Dialogue.Pauses
import Switchboard.Proofs.Service.Environment
