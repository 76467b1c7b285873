import AgentLink.Client.Events
import AgentLink.Proofs.Channel
import AgentLink.Proofs.Sse.Chunking
import AgentLink.Proofs.Event.Outcome
import AgentLink.Proofs.Http.Handlers

/-!
# A subscription hands on the events of its stream, then ends

A subscription (`Client.subscription`) sends one request for the stream of events and reads the
response in three layers, and each has its lemma here.

* The transport (`Http.Transport.openStream_of_reply`): a response that ends, well or with a
  failure, leaves the records of its body for a success and none otherwise, and closes the
  stream with no error exactly when the status is a success and the body complete; a rejection
  names its status, and every error has a text.
* The subscription (`Subscription.ofRun_closed`): the events of those records fill its channel,
  which closes with the stream's error, and the close hook stops and closes the transport of the
  subscription.
* The channel (`Channel.answers_nexts`): a consumer that takes again and again gets the events in
  order, and then nothing.

`subscription_delivers` puts the three together for every response that ends: the consumer gets
the events of the records a fresh parser reads from all the bytes of the body, those whose event
can be read, and then the subscription has ended.

The transport reads the stream of a subscription in one go, where its own streams have a worker
(`AgentLink.Proofs.Http.Handlers`). The two agree: the reading comes to what the worker of the
same answer comes to with no stop asked for (`Http.Transport.openStream_eq_outcome`), and for a
body that ends the worker, run to its end, hands on the same records and reports the error the
stream closes with (`Http.Transport.openStream_as_worker`).
-/

namespace AgentLink

namespace Http

/-- A failure on the network always leaves a text: a timeout says so, and a failure with no
message gives its kind's name. -/
theorem NetError.text_ne_empty (e : NetError) : e.text ≠ "" := by
  unfold NetError.text
  split
  · intro h
    exact absurd (String.append_eq_empty_iff.1 h).1 (by decide)
  · split
    · cases e.fault <;> decide
    · next h => simpa using h

theorem reason_text (e : NetError) : reason e.text = some e.text := by
  simp [reason, e.text_ne_empty]

/-- Sending a request and going on with the reply is going on from the server's answer. -/
theorem run_send_bind {α : Type} (req : Request) (k : Reply → Net α) (s : Script) :
    (send req >>= k).run s = (k (s.answer req).1).run (s.answer req).2 := rfl

/-- A stream whose request the server answers with a response that ends: a success leaves the
records of the body's chunks, anything else none, and the stream closes, with no error exactly
when the status is a success and the body complete. A rejection names its status, and every
error the stream closes with has a text. -/
theorem Transport.openStream_of_reply {t : Transport} {path : String} {hs' : Headers}
    {script : Script} {status : Nat} {hs : Headers} {body : Body}
    (h : ∃ req, t.prepare .get path (streamHeaders ++ t.scoped hs') none = .ok req ∧
      (script.answer req).1 = .respond status hs body)
    (hend : body.ending ≠ .held) :
    ∃ err, ((t.openStream path hs').run script).1 =
        { records := if 200 ≤ status ∧ status < 300 then Sse.parseRecords (body.chunks.map .bytes)
            else []
          ending := .closed err } ∧
      (err = none ↔ (200 ≤ status ∧ status < 300) ∧ body.ending = .complete) ∧
      (¬ (200 ≤ status ∧ status < 300) →
        err = some ("Stream rejected with HTTP " ++ toString status)) ∧
      ∀ m, err = some m → m ≠ "" := by
  obtain ⟨req, hreq, hreply⟩ := h
  simp only [Transport.openStream, hreq, run_send_bind, hreply]
  by_cases ok : 200 ≤ status ∧ status < 300
  · cases hb : body.ending with
    | complete =>
      refine ⟨none, ?_, by simp [ok], by simp [ok], by simp⟩
      simp [ok]; rfl
    | broken e =>
      refine ⟨some e.text, ?_, by simp, by simp [ok], ?_⟩
      · simp [ok, reason_text]; rfl
      · intro m hm
        cases hm
        exact e.text_ne_empty
    | held => exact absurd hb hend
  · refine ⟨some ("Stream rejected with HTTP " ++ toString status), ?_, by simp [ok], fun _ => rfl, ?_⟩
    · have rejected : status < 200 ∨ 300 ≤ status := by omega
      simp [rejected, ok]; rfl
    · intro m hm h
      cases hm
      exact absurd (String.append_eq_empty_iff.1 h).1 (by decide)

/-- What the worker of a stream comes to with no stop asked for: the records it hands on, and the
stream closed with the error it ends with, or open while the server holds the body. -/
def Stream.Setup.outcome (setup : Stream.Setup) : StreamRun :=
  { records := setup.records, ending := if setup.holds then .opened else .closed setup.error }

/-- With no stop asked for, the worker reads a body that ends to its end, and hands on the records
and the error of its outcome. -/
theorem Stream.Setup.ends_unstopped (setup : Stream.Setup) (hh : setup.holds = false) :
    ∃ n, (Stream.run setup {} (List.replicate n .worker)).worker = .ended ∧
      Stream.recordsOf (Stream.run setup {} (List.replicate n .worker)).log = setup.records ∧
      Stream.errorsOf (Stream.run setup {} (List.replicate n .worker)).log = setup.error.toList := by
  obtain ⟨n, hn⟩ : ∃ n, (Stream.run setup {} (List.replicate n .worker)).worker = .ended :=
    Stream.ends [] (.inl hh)
  have hs : (Stream.run setup {} (List.replicate n .worker)).stop = false :=
    Stream.run_stop_of_not_mem (by simp) {}
  obtain ⟨reported, finished⟩ := (Stream.fits_run _).ended hn
  exact ⟨n, hn, finished.unstopped hs, reported.unstopped hs⟩

/-- A stream the transport opens and reads in one go comes to what the worker of the same
request comes to with no stop asked for, the server's answer being the one the worker meets. -/
theorem Transport.openStream_eq_outcome (t : Transport) (path : String) (headers : Headers)
    (s : Script) :
    (t.openStream path headers).run s =
      (({ answer := ((t.streamAnswer path headers).run s).1 } : Stream.Setup).outcome,
        ((t.streamAnswer path headers).run s).2) := by
  unfold Transport.openStream Transport.streamAnswer
  cases hp : t.prepare .get path (streamHeaders ++ t.scoped headers) none with
  | error e => rfl
  | ok req =>
    simp only [run_send_bind]
    cases hr : (s.answer req).1 with
    | unwritable e => rfl
    | fail e => rfl
    | respond status hs body =>
      change _ = (({ answer := .responded status body } : Stream.Setup).outcome, (s.answer req).2)
      have ha : ({ answer := .responded status body } : Stream.Setup).answer =
          .responded status body := rfl
      -- a rejected status, then the three ways a body ends
      cases ok : Stream.success status with
      | false =>
        have rejected : (!(decide (200 ≤ status) && decide (status < 300))) = true := by
          rw [← Stream.success, ok, Bool.not_false]
        simp only [rejected, if_true, Stream.Setup.outcome, Stream.Setup.records_rejected ha ok,
          Stream.Setup.holds_rejected ha ok, Stream.Setup.error_rejected ha ok]
        rfl
      | true =>
        have accepted : (!(decide (200 ≤ status) && decide (status < 300))) = false := by
          rw [← Stream.success, ok, Bool.not_true]
        simp only [accepted, Bool.false_eq_true, if_false, Stream.Setup.outcome,
          Stream.Setup.records_accepted ha ok, Stream.Setup.holds_accepted ha ok]
        cases hb : body.ending with
        | complete =>
          simp only [Stream.Setup.error_complete ha ok hb, BodyEnd.trailer, List.append_nil,
            BodyEnd.isHeld, Bool.false_eq_true, if_false]
          rfl
        | broken e =>
          simp only [Stream.Setup.error_broken ha ok hb, BodyEnd.trailer, List.append_nil,
            BodyEnd.isHeld, Bool.false_eq_true, if_false]
          rfl
        | held =>
          simp only [BodyEnd.trailer, BodyEnd.isHeld, if_true]
          rfl

/-- The transport reads a stream that ends in one go as its worker reads it: the worker of the
same answer, run with no stop asked for, ends having handed on exactly the records the reading
gives, and having reported the error the stream closes with. -/
theorem Transport.openStream_as_worker {t : Transport} {path : String} {headers : Headers}
    {s s' : Script} {answer : Stream.Answer} (ha : (t.streamAnswer path headers).run s = (answer, s'))
    (hh : ({ answer } : Stream.Setup).holds = false) :
    ∃ n err, (t.openStream path headers).run s =
        ({ records := Stream.recordsOf (Stream.run { answer } {} (List.replicate n .worker)).log,
           ending := .closed err }, s') ∧
      (Stream.run { answer } {} (List.replicate n .worker)).worker = .ended ∧
      Stream.errorsOf (Stream.run { answer } {} (List.replicate n .worker)).log = err.toList := by
  obtain ⟨n, hend, hrec, herr⟩ := Stream.Setup.ends_unstopped { answer } hh
  refine ⟨n, ({ answer } : Stream.Setup).error, ?_, hend, herr⟩
  rw [Transport.openStream_eq_outcome, ha, hrec]
  simp [Stream.Setup.outcome, hh]

end Http

/-- The events a subscription hands on, read from its records as a dispatch reads them: those
whose event can be read, in order. -/
theorem subscriptionEvents_eq (rs : List Sse.Record) :
    subscriptionEvents rs =
      rs.filterMap fun r => (Event.decodeAt subscriptionReadCalls r).toOption := by
  unfold subscriptionEvents
  congr 1
  funext r
  cases hd : Event.decodeAt subscriptionReadCalls r with
  | ok ev => simp [Event.dispatchAt_eq_some_iff.2 hd, Except.toOption]
  | error e =>
    cases hx : Event.dispatchAt subscriptionReadCalls r with
    | ok o =>
      cases o with
      | none => simp [Except.toOption]
      | some ev =>
        rw [Event.dispatchAt_eq_some_iff, hd] at hx
        cases hx
    | error e' => simp [Except.toOption]

/-- A subscription whose stream has closed: its channel holds the events of the records, is
closed with the stream's error and has run its hook once, and the transport of the subscription
is stopped and closed. -/
theorem Subscription.ofRun_closed (t : Http.Transport) (rs : List Sse.Record)
    (err : Option String) :
    (Subscription.ofRun t { records := rs, ending := .closed err }).channel =
        { items := subscriptionEvents rs, closed := true, error := err, hookCalls := 1 } ∧
      (Subscription.ofRun t { records := rs, ending := .closed err }).transport.closed = true ∧
      (Subscription.ofRun t { records := rs, ending := .closed err }).transport.live = false :=
  ⟨rfl, rfl, rfl⟩

/-- The events a subscription hands on for a response: for a success, the events of the records
that a fresh parser reads from all the bytes of the body, in order, leaving out each record
whose event cannot be read; for any other status, none. -/
def responseEvents (status : Nat) (body : Http.Body) : List Event :=
  if 200 ≤ status ∧ status < 300 then
    (Sse.parseRecords [.bytes body.bytes]).filterMap fun r =>
      (Event.decodeAt subscriptionReadCalls r).toOption
  else []

/-- A subscription to a server that answers its request with a response that ends, well or with
a failure. A consumer that takes from the channel again and again gets the events of the
response in order and then nothing, as the channel is closed; its error is none exactly when the
status is a success and the body complete, names the status of a rejection, and otherwise is a
text; and the close hook has run once, stopping and closing the transport of the
subscription. -/
theorem subscription_delivers (c : Client) (script : Http.Script) (status : Nat)
    (hs : Http.Headers) (body : Http.Body)
    (hreply : ∃ req, c.transport.renewed.prepare .get "/event"
        (Http.streamHeaders ++ c.transport.renewed.scoped []) none = .ok req ∧
      (script.answer req).1 = .respond status hs body)
    (hend : body.ending ≠ .held) :
    (∀ k, (c.subscription.run script).1.channel.answers
        (List.replicate ((responseEvents status body).length + k) .next) =
      (responseEvents status body).map (fun e => .next (some e)) ++
        List.replicate k (.next none)) ∧
    (c.subscription.run script).1.channel.closed = true ∧
    ((c.subscription.run script).1.channel.error = none ↔
      (200 ≤ status ∧ status < 300) ∧ body.ending = .complete) ∧
    (¬ (200 ≤ status ∧ status < 300) →
      (c.subscription.run script).1.channel.error =
        some ("Stream rejected with HTTP " ++ toString status)) ∧
    (∀ m, (c.subscription.run script).1.channel.error = some m → m ≠ "") ∧
    (c.subscription.run script).1.channel.hookCalls = 1 ∧
    (c.subscription.run script).1.transport.closed = true ∧
    (c.subscription.run script).1.transport.live = false := by
  obtain ⟨err, hrun, hnone, hrejected, htext⟩ := Http.Transport.openStream_of_reply hreply hend
  have hsub : (c.subscription.run script).1 =
      Subscription.ofRun c.transport.renewed
        ((c.transport.renewed.openStream "/event" []).run script).1 := rfl
  rw [hrun] at hsub
  obtain ⟨hch, hclosed, hlive⟩ := Subscription.ofRun_closed c.transport.renewed _ err
  -- the channel's items are the events of the response, read from one chunk of all the bytes
  have hevents : subscriptionEvents
      (if 200 ≤ status ∧ status < 300 then Sse.parseRecords (body.chunks.map .bytes) else []) =
      responseEvents status body := by
    unfold responseEvents
    split
    · rw [subscriptionEvents_eq, Sse.parseRecords_flatten]; rfl
    · rfl
  rw [hsub, hch]
  refine ⟨fun k => ?_, rfl, hnone, hrejected, htext, rfl, hsub ▸ hclosed, hsub ▸ hlive⟩
  have drained := Channel.answers_nexts
    ({ items := responseEvents status body, closed := true, error := err, hookCalls := 1 } :
      Channel Event) k
  rw [← hevents] at drained ⊢
  exact drained

/-- A client of the server at port 4096 of the local machine. -/
def localClient : Client :=
  { transport :=
      (Http.Transport.make .reference "127.0.0.1" 4096 none none none).toOption.getD default }

/-- A transport drives the library it was made with. -/
theorem Http.Transport.make_library {lib : Http.Library} {host : String} {port : Int}
    {user password directory : Option String} {t : Http.Transport}
    (h : Http.Transport.make lib host port user password directory = .ok t) : t.library = lib := by
  unfold Http.Transport.make at h
  dsimp only at h
  split at h
  · cases h
    rfl
  · cases h

theorem localClient_library : localClient.transport.library = .reference := by
  unfold localClient
  cases h : Http.Transport.make .reference "127.0.0.1" 4096 none none none with
  | ok t => exact Http.Transport.make_library h
  | error e => rfl

/-- The greeting of a server cut inside its data, on a connection that breaks after it. -/
def brokenGreeting : Http.Body :=
  { chunks := ["data: \x7b\"type\":\"ser".toUTF8.toList, "ver.connected\"\x7d\n\n".toUTF8.toList]
    ending := .broken { fault := .readError, message := "" } }

/-- A server that answers every request with the broken greeting. -/
def greetingServer : Http.Script :=
  { fallback := .respond 200 [] brokenGreeting }

/-- The local client can build its request for the stream of events. -/
theorem localClient_event_request :
    ∃ req, localClient.transport.renewed.prepare .get "/event"
      (Http.streamHeaders ++ localClient.transport.renewed.scoped []) none = .ok req := by
  have built : (localClient.transport.renewed.prepare .get "/event"
      (Http.streamHeaders ++ localClient.transport.renewed.scoped []) none).toBool = true := by
    decide +kernel
  revert built
  cases localClient.transport.renewed.prepare .get "/event"
      (Http.streamHeaders ++ localClient.transport.renewed.scoped []) none with
  | ok req => exact fun _ => ⟨req, rfl⟩
  | error e => intro h; cases h

/-- The local client subscribed to a server whose greeting arrives cut in two, on a connection
that then breaks. -/
theorem subscription_delivers_broken_greeting :
    (∃ req, localClient.transport.renewed.prepare .get "/event"
        (Http.streamHeaders ++ localClient.transport.renewed.scoped []) none = .ok req ∧
      (greetingServer.answer req).1 = .respond 200 [] brokenGreeting) ∧
    brokenGreeting.ending ≠ .held ∧
    (∀ k, (localClient.subscription.run greetingServer).1.channel.answers
        (List.replicate ((responseEvents 200 brokenGreeting).length + k) .next) =
      (responseEvents 200 brokenGreeting).map (fun e => .next (some e)) ++
        List.replicate k (.next none)) ∧
    (localClient.subscription.run greetingServer).1.channel.closed = true ∧
    ((localClient.subscription.run greetingServer).1.channel.error = none ↔
      (200 ≤ 200 ∧ 200 < 300) ∧ brokenGreeting.ending = .complete) ∧
    (¬ (200 ≤ 200 ∧ 200 < 300) →
      (localClient.subscription.run greetingServer).1.channel.error =
        some ("Stream rejected with HTTP " ++ toString 200)) ∧
    (∀ m, (localClient.subscription.run greetingServer).1.channel.error = some m → m ≠ "") ∧
    (localClient.subscription.run greetingServer).1.channel.hookCalls = 1 ∧
    (localClient.subscription.run greetingServer).1.transport.closed = true ∧
    (localClient.subscription.run greetingServer).1.transport.live = false := by
  obtain ⟨req, hreq⟩ := localClient_event_request
  have answered : ∃ req, localClient.transport.renewed.prepare .get "/event"
      (Http.streamHeaders ++ localClient.transport.renewed.scoped []) none = .ok req ∧
      (greetingServer.answer req).1 = .respond 200 [] brokenGreeting := ⟨req, hreq, rfl⟩
  have ends : brokenGreeting.ending ≠ .held := fun h => by cases h
  exact ⟨answered, ends, subscription_delivers localClient greetingServer 200 [] brokenGreeting answered ends⟩

end AgentLink
