import Throttle.Main
import Throttle.Redis.Client
import Throttle.Proofs.CommandReading
import Throttle.Proofs.ExtraRequests
import Throttle.Proofs.FailedCalls
import Throttle.Proofs.FullAllowance
import Throttle.Proofs.HeldSlots
import Throttle.Proofs.Isolation
import Throttle.Proofs.Observation
import Throttle.Proofs.PublishedRules
import Throttle.Proofs.RollingCount
import Throttle.Proofs.WellTyped
import Throttle.Proofs.ExactSettlement
import Throttle.Proofs.Sweeps
import Throttle.Proofs.Publications
