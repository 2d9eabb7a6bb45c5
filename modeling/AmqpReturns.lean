import AmqpReturns.Proofs.RoundTrip
import AmqpReturns.Rehearsal.Run
import AmqpReturns.Settings.Reader
import AmqpReturns.Proofs.Binding
import AmqpReturns.Proofs.Readiness
import AmqpReturns.Proofs.Isolation
import AmqpReturns.Proofs.Survival
import AmqpReturns.Proofs.Chains
import AmqpReturns.Proofs.Nesting
import AmqpReturns.Proofs.ByteOrder
import AmqpReturns.Proofs.Tracing
import AmqpReturns.Proofs.Mandatory
import AmqpReturns.Proofs.Rejection
import AmqpReturns.Proofs.Tally
import AmqpReturns.Proofs.Rounds
import AmqpReturns.Proofs.Values
import AmqpReturns.Proofs.Outgoing
import AmqpReturns.Proofs.Precedence
import AmqpReturns.Proofs.Exits
import AmqpReturns.Proofs.Tags
import AmqpReturns.Proofs.HeaderText
import AmqpReturns.Proofs.Settings.Recovery
import AmqpReturns.Proofs.Settings.Refusal
import AmqpReturns.Proofs.Settings.Uri
import AmqpReturns.Proofs.Blame
