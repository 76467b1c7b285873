import AgentLink.Client.Api
import AgentLink.Event.Decode

/-!
# Events and streamed replies

The server pushes events on a stream at `/event`. Each subscription opens a stream of its own,
on a fresh transport with the client's settings, so a closed client can still subscribe. The
events of the stream's records go into a channel (`Client.subscription`); a record that breaks
the protocol or cannot be read is dropped. The channel closes with the stream, keeping the
stream's error, and stays open while the server holds the stream open; its first close stops
and closes the transport of the subscription (`Subscription.close`).

A streamed send (`Client.sendStreaming`) subscribes before it sends, then sends the message and
waits for the complete reply, handing on the parts of the session that the stream carries.

Records are read on the stream's worker, apart from the caller, so how deeply their data may
nest depends only on the calls of that worker (`subscriptionReadCalls`,
`streamedPartReadCalls`).
-/

namespace AgentLink

/-- The calls that lead to the reading of a record's data when a subscription hands its event
on: those above the record's handler, the handler, the handing on and the decoding of the
event, the reading of its payload, and the reading itself. -/
def subscriptionReadCalls : Nat := Http.recordHandlerDepth + 4 + Json.readerCalls

/-- The calls that lead to the reading of a record's data when a streamed send looks for a
part in it: those above the record's handler, the handler, the reading of the payload, and the
reading itself. -/
def streamedPartReadCalls : Nat := Http.recordHandlerDepth + 2 + Json.readerCalls

/-- How many calls deeper than a plain send the send of a streamed send is made: the streamed
send, the collecting of its parts and outcome (two calls), its run beside the stream, and the
deferred send. -/
def streamedSendDepth : Nat := 5

/-- The events of a stream's records, in order: a record that breaks the protocol or cannot be
read gives none. -/
def subscriptionEvents (records : List Sse.Record) : List Event :=
  records.filterMap fun r =>
    match Event.dispatchAt subscriptionReadCalls r with
    | .ok (some e) => some e
    | _ => none

/-- A subscription to the events of the server: the channel its events go into, and the
transport of its own that the stream runs on. -/
structure Subscription where
  channel : Channel Event
  transport : Http.Transport

/-- Closes the subscription's channel with an error, or none. The first close runs the channel's
hook, which stops the stream of the transport and closes it. -/
def Subscription.close (s : Subscription) (error : Option String := none) : Subscription :=
  { channel := s.channel.close error
    transport := if s.channel.closed || !s.channel.hooked then s.transport
      else s.transport.close.1 }

/-- The subscription a stream leaves on its transport: the events of its records, and a
channel closed with the stream's error once the stream has closed. -/
def Subscription.ofRun (t : Http.Transport) (run : Http.StreamRun) : Subscription :=
  let s : Subscription :=
    { channel := { items := subscriptionEvents run.records, hooked := true }
      transport := { t with live := true } }
  match run.ending with
  | .closed err => s.close err
  | .opened => s

/-- Subscribes to the events of the server on a fresh transport. -/
def Client.subscription (c : Client) : Http.Net Subscription := do
  let t := c.transport.renewed
  Subscription.ofRun t <$> t.openStream "/event" []

/-- Opens a stream of events on a fresh transport. -/
def Client.openEvents (c : Client) : Http.Net (Channel Event) :=
  Subscription.channel <$> c.subscription

/-- Opens a stream of events the client keeps, and its index among the client's streams. -/
def Client.subscribe (c : Client) : Http.Net (Nat × Client) := do
  let ch ← c.openEvents
  return (c.streams.size, { c with streams := c.streams.push ch })

end AgentLink
