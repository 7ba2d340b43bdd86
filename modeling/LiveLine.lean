import LiveLine.Debouncer.Timeline
import LiveLine.Main
import LiveLine.Presenter.Replay
import LiveLine.Proofs.Annotated
import LiveLine.Proofs.Disposal
import LiveLine.Proofs.Ownership
import LiveLine.Proofs.Phases
import LiveLine.Proofs.LastWriter
import LiveLine.Proofs.Cancelling
import LiveLine.Proofs.Silence
import LiveLine.Proofs.Lines
import LiveLine.Proofs.Snippets
import LiveLine.Proofs.Debouncing
import LiveLine.Proofs.Failures
import LiveLine.Proofs.Isolation
import LiveLine.Proofs.Watching
import LiveLine.Proofs.Alerts
import LiveLine.Proofs.Places
import LiveLine.Proofs.Drafts
import LiveLine.Proofs.AtOnce
import LiveLine.Proofs.Accounts
import LiveLine.Proofs.Overlaps
import LiveLine.Proofs.Styling
import LiveLine.Proofs.Replays
import LiveLine.Proofs.CallShapes
import LiveLine.Proofs.Messages
import LiveLine.Proofs.References
import LiveLine.Proofs.Cursors
import LiveLine.Proofs.Rest
import LiveLine.Proofs.Routing
import LiveLine.Proofs.Cuts
import LiveLine.Proofs.Configurations
