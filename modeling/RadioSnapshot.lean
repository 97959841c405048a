import RadioSnapshot.Link.Serial
import RadioSnapshot.Main
import RadioSnapshot.Proofs.Frame.Delivery
import RadioSnapshot.Proofs.Frame.Resynchronisation
import RadioSnapshot.Proofs.Frame.Sending
import RadioSnapshot.Proofs.Frame.Bounds
import RadioSnapshot.Proofs.Link.Writing
import RadioSnapshot.Proofs.Console.Segments
import RadioSnapshot.Proofs.Radio.Compatibility
import RadioSnapshot.Proofs.Radio.Extent
import RadioSnapshot.Proofs.Radio.Truncation
import RadioSnapshot.Proofs.Session.Independence
import RadioSnapshot.Proofs.Snapshot.ClosedForm
import RadioSnapshot.Proofs.Session.Reordering
import RadioSnapshot.Proofs.Session.Completion
import RadioSnapshot.Proofs.CommandLine.Replaying
import RadioSnapshot.Proofs.Session.Onlookers
import RadioSnapshot.Proofs.Schema.Concealment
import RadioSnapshot.Proofs.Snapshot.Secrets
import RadioSnapshot.Proofs.CommandLine.Secrets
import RadioSnapshot.Proofs.Radio.Joining
import RadioSnapshot.Proofs.Snapshot.Readiness
import RadioSnapshot.Proofs.Schema.Equality
import RadioSnapshot.Proofs.Snapshot.Effect
import RadioSnapshot.Proofs.Session.Accounting
import RadioSnapshot.Proofs.CommandLine.DurationText
import RadioSnapshot.Proofs.Report.Summary
import RadioSnapshot.Proofs.Session.SingleLines
import RadioSnapshot.Proofs.Report.ReadBack
import RadioSnapshot.Proofs.Session.Following
