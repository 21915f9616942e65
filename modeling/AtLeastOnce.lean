import AtLeastOnce.Handling.Batch
import AtLeastOnce.Main
import AtLeastOnce.Shutdown.Grace
import AtLeastOnce.Shutdown.Timeline
import AtLeastOnce.Proofs.Backoff.Growth
import AtLeastOnce.Proofs.Config.Precedence
import AtLeastOnce.Proofs.Ensemble.OneFlag
import AtLeastOnce.Proofs.Handling.Separation
import AtLeastOnce.Proofs.Handling.Telling
import AtLeastOnce.Proofs.Http.BoundedStop
import AtLeastOnce.Proofs.Order.Acceptance
import AtLeastOnce.Proofs.Receiver.Abandoned
import AtLeastOnce.Proofs.Receiver.Crashing
import AtLeastOnce.Proofs.Receiver.DeadLetterCopies
import AtLeastOnce.Proofs.Receiver.Deadline
import AtLeastOnce.Proofs.Receiver.DrainAnnouncement
import AtLeastOnce.Proofs.Receiver.HandleBlindness
import AtLeastOnce.Proofs.Receiver.LogTotals
import AtLeastOnce.Proofs.Receiver.ReceiveSchedule
import AtLeastOnce.Proofs.Receiver.WorkerTrace
import AtLeastOnce.Proofs.Settings.Fields
import AtLeastOnce.Proofs.Settings.Partial
import AtLeastOnce.Proofs.Settings.Precedence
import AtLeastOnce.Proofs.Settings.Texts
