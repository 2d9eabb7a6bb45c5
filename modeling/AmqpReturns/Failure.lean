import AmqpReturns.Text.Quoted

/-!
# Failures

Why an operation of the bus did not succeed.  `Failure.message` is the text people read,
`Failure.name` the cause alone, `Failure.inspect` the cause with its detail.
-/

namespace AmqpReturns

/-- Why an operation did not succeed. -/
inductive Failure where
  | internal
  | connection
  | channel
  | confirmSelect
  | publishing
  | missingEndpoint
  | configuration (reason : String)
  | unboundListener
  | listenerAlreadyBound
  | processorsAlreadyConfigured
  | conversion (reason : String)
  | transformer (reason : String)
  | processor (reason : String)
  /-- A message without a delivery tag, and what was to be done with it. -/
  | missingDeliveryTag (action : String)
  /-- A message without a channel, and what was to be done with it. -/
  | missingChannel (action : String)
  /-- The delivery tag of the message that could not be rejected. -/
  | rejectMessage (tag : UInt64)
  deriving DecidableEq, Inhabited, Repr

namespace Failure

/-- The text of a failure. -/
def message : Failure → String
  | .internal => "internal error"
  | .connection => "failure to connect"
  | .channel => "failure to create a channel"
  | .confirmSelect => "failure to enable publisher confirms"
  | .publishing => "failure to publish"
  | .missingEndpoint => "no endpoint to publish to"
  | .configuration reason => "invalid configuration `" ++ reason ++ "`"
  | .unboundListener => "return listener invoked before a connector was bound"
  | .listenerAlreadyBound => "return listener already bound to a connector"
  | .processorsAlreadyConfigured => "return processors already configured"
  | .conversion reason => "failure to convert returned message `" ++ reason ++ "`"
  | .transformer reason => "failure to transform message `" ++ reason ++ "`"
  | .processor reason => "failure to process message `" ++ reason ++ "`"
  | .missingDeliveryTag action => "no delivery tag found to `" ++ action ++ "` message"
  | .missingChannel action => "no channel found to `" ++ action ++ "` message"
  | .rejectMessage tag =>
    "failure to reject message with delivery tag `" ++ toString tag.toNat ++ "`"

/-- The name of a failure's cause. -/
def name : Failure → String
  | .internal => "InternalError"
  | .connection => "ConnectionError"
  | .channel => "ChannelError"
  | .confirmSelect => "ConfirmSelectError"
  | .publishing => "PublishingError"
  | .missingEndpoint => "MissingEndpoint"
  | .configuration _ => "ConfigurationError"
  | .unboundListener => "UnboundListener"
  | .listenerAlreadyBound => "ListenerAlreadyBound"
  | .processorsAlreadyConfigured => "ProcessorsAlreadyConfigured"
  | .conversion _ => "ConversionError"
  | .transformer _ => "TransformerError"
  | .processor _ => "ProcessorError"
  | .missingDeliveryTag _ => "MissingDeliveryTag"
  | .missingChannel _ => "MissingChannel"
  | .rejectMessage _ => "RejectMessageError"

/-- A failure's cause and its detail. -/
def inspect (f : Failure) : String :=
  match f with
  | .configuration s | .conversion s | .transformer s | .processor s | .missingDeliveryTag s
  | .missingChannel s => f.name ++ "(" ++ Text.Quoted.quote s ++ ")"
  | .rejectMessage tag => f.name ++ "(" ++ toString tag.toNat ++ ")"
  | _ => f.name

end Failure

end AmqpReturns
