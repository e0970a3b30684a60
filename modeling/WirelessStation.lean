import WirelessStation.Simulation.Mailbox
import WirelessStation.Simulation.Networks
import WirelessStation.Simulation.Session
import WirelessStation.Simulation.Watching
import WirelessStation.Text.Decimal
import WirelessStation.Proofs.Turn
import WirelessStation.Proofs.Refusal
import WirelessStation.Proofs.Answers
import WirelessStation.Proofs.Connection
import WirelessStation.Proofs.Attempts
import WirelessStation.Proofs.Outstanding
import WirelessStation.Proofs.Tables
import WirelessStation.Proofs.Calls
import WirelessStation.Proofs.Negotiation
import WirelessStation.Proofs.Offered
import WirelessStation.Proofs.Rekeying
import WirelessStation.Proofs.Keeping
import WirelessStation.Proofs.Blame
import WirelessStation.Proofs.Advertised
import WirelessStation.Proofs.Grouping
import WirelessStation.Proofs.Courses
import WirelessStation.Proofs.Transitions
import WirelessStation.Proofs.Replay
import WirelessStation.Proofs.Signals
import WirelessStation.Proofs.Enrolling
import WirelessStation.Proofs.Isolation
import WirelessStation.Proofs.Pursuit
import WirelessStation.Proofs.Repetition
import WirelessStation.Proofs.Reordering
import WirelessStation.Proofs.BackgroundScan
import WirelessStation.Proofs.Sticking
import WirelessStation.Proofs.Resetting
import WirelessStation.Proofs.Provisioning
import WirelessStation.Proofs.Rounds
import WirelessStation.Proofs.Powering
import WirelessStation.Proofs.Sessions
import WirelessStation.Proofs.Weighing
import WirelessStation.Proofs.Recency
import WirelessStation.Proofs.Watches
import WirelessStation.Proofs.PushButton
import WirelessStation.Proofs.Tidings
import WirelessStation.Proofs.Scanning
import WirelessStation.Proofs.Arrivals
import WirelessStation.Proofs.Seeking
import WirelessStation.Proofs.Layout
