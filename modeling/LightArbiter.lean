import LightArbiter.OwnershipLine
import LightArbiter.Check
import LightArbiter.Flicker
import LightArbiter.Main
import LightArbiter.Proofs.Safety
import LightArbiter.Proofs.Vacancy
import LightArbiter.Proofs.Departure
import LightArbiter.Proofs.Timing
import LightArbiter.Proofs.Isolation
import LightArbiter.Proofs.Delivery
import LightArbiter.Proofs.Reassembly
import LightArbiter.Proofs.Mirror
import LightArbiter.Proofs.Framing
import LightArbiter.Proofs.Settlement
import LightArbiter.Proofs.Waking
import LightArbiter.Proofs.Simultaneity
import LightArbiter.Proofs.Rivalry
import LightArbiter.Proofs.Neutrality
import LightArbiter.Proofs.Lateness
import LightArbiter.Proofs.Words
import LightArbiter.Proofs.Coloring
import LightArbiter.Proofs.Grammar
import LightArbiter.Proofs.Breakdown
import LightArbiter.Proofs.Encoding
import LightArbiter.Proofs.RoundTrip
import LightArbiter.Proofs.Granting
import LightArbiter.Proofs.Renewal
import LightArbiter.Proofs.Repetition
import LightArbiter.Proofs.Attendance
import LightArbiter.Proofs.Precedence
import LightArbiter.Proofs.Reporting
import LightArbiter.Proofs.Waiting
import LightArbiter.Proofs.Prompting
import LightArbiter.Proofs.Serving
