import AgentLink.Client.Api
import AgentLink.Proofs.Resource.Numbers
import AgentLink.Proofs.Event.Outcome
import AgentLink.Proofs.Client.Subscription
import AgentLink.Proofs.Text.Utf8Replace
import Mathlib.Data.List.DropRight

/-!
# What a call of the client comes to

Every operation of the client (`Operation`) sends one request and reads the reply in layers,
and each layer has its lemmas here.

* The transport turns the server's reply into an answer (`Http.Answer.ofReply`): a failure on
  the network, or a body that breaks off, leaves its text, marked as a timeout or not
  (`Http.Answer.ofReply_of_netError`); a response that arrives whole leaves its status and
  body (`Http.Answer.ofReply_of_received`).
* The check of the answer (`checkAnswer`) makes no response a timeout or a failed connection,
  `404` a missing resource and any other status that is no success an error of the API, each
  carrying the status and the body.
* The body of a success is read as JSON (`readReply`) and then as the resource the operation
  expects (`Operation.finish`). Within the limits of the reader (`bodyWithinLimits`: the body
  nests no deeper than the reader follows, and every number in it fits the readers), every
  failure of the two is a malformed response (`readReply_malformed`,
  `Operation.finish_malformed`).

`perform_classified` puts the layers together: whatever the server does, an operation whose
request can be sent (`Client.Sends`) fails with the error of the library that the reply calls
for, or, on a success within the limits, returns the resource read from the body or fails as a
malformed response. Outside the limits the family of errors is left:
`getSession_deep_brackets` is a session given as two thousand opening brackets, and the call
fails with nesting too deep, which is no error of the library.
-/

namespace AgentLink

/-! ## Readings that fail only for the shape of what they read -/

/-- A reading whose every failure `p` accepts. -/
def FailsOnly {α : Type} (p : DecodeError → Bool) (x : Except DecodeError α) : Prop :=
  ∀ e, x = .error e → p e = true

namespace FailsOnly

variable {α β : Type} {p : DecodeError → Bool} {x : Except DecodeError α}

theorem of_ok {a : α} (h : x = .ok a) : FailsOnly p x := by
  intro e he
  rw [h] at he
  cases he

theorem bind {f : α → Except DecodeError β} (hx : FailsOnly p x) (hf : ∀ a, FailsOnly p (f a)) :
    FailsOnly p (x >>= f) := by
  intro e h
  cases hx' : x with
  | error e' =>
    rw [hx'] at h
    cases h
    exact hx _ hx'
  | ok a =>
    rw [hx'] at h
    exact hf a e h

theorem throw {e : DecodeError} (h : p e = true) :
    FailsOnly p (MonadExcept.throw e : Except DecodeError α) := by
  intro e' he
  cases he
  exact h

end FailsOnly

theorem requireObject_shaped (v : Json.Value) (what : String) :
    FailsOnly DecodeError.isProtocol (v.requireObject what) := by
  intro e h
  unfold Json.Value.requireObject at h
  split at h
  · cases h
  · cases h; rfl

theorem Timestamps.decodeField_ok {v : Json.Value} (hv : v.numbersFit = true) :
    ∃ t, Timestamps.decodeField v = .ok t :=
  Timestamps.decode_ok (Json.Value.numbersFit_getD hv rfl)

theorem HealthInfo.decode_shaped (v : Json.Value) :
    FailsOnly DecodeError.isProtocol (HealthInfo.decode v) :=
  .bind (requireObject_shaped v _) fun _ => .of_ok rfl

theorem SessionInfo.decode_shaped {v : Json.Value} (hv : v.numbersFit = true) :
    FailsOnly DecodeError.isProtocol (SessionInfo.decode v) :=
  let ⟨_, ht⟩ := Timestamps.decodeField_ok hv
  .bind (requireObject_shaped v _) fun _ => .bind (.of_ok ht) fun _ => .of_ok rfl

theorem Project.decode_shaped {v : Json.Value} (hv : v.numbersFit = true) :
    FailsOnly DecodeError.isProtocol (Project.decode v) :=
  let ⟨_, ht⟩ := Timestamps.decodeField_ok hv
  .bind (requireObject_shaped v _) fun _ => .bind (.of_ok ht) fun _ => .of_ok rfl

theorem PermissionRequest.decode_shaped {v : Json.Value} (hv : v.numbersFit = true) :
    FailsOnly DecodeError.isProtocol (PermissionRequest.decode v) :=
  let ⟨_, ht⟩ := Timestamps.decodeField_ok hv
  .bind (requireObject_shaped v _) fun _ => .bind (.of_ok ht) fun _ => .of_ok rfl

/-- A message whose numbers fit fails, if at all, for being no object or for a role the client
does not know. -/
theorem Message.decode_shaped {v : Json.Value} (hv : v.numbersFit = true) :
    FailsOnly DecodeError.isProtocol (Message.decode v) := by
  obtain ⟨t, ht⟩ := Timestamps.decodeField_ok hv
  obtain ⟨c, hc⟩ := costOf_ok (o := v.get? "cost") fun w h => Json.Value.numbersFit_get hv h
  obtain ⟨k, hk⟩ :=
    TokenInfo.decode_ok (Json.Value.numbersFit_getD (k := "tokens") (d := .null) hv rfl)
  refine .bind (requireObject_shaped v _) fun _ => ?_
  split
  · exact .bind (.of_ok (by simp [UserMessage.decode, ht]; rfl)) fun _ => .of_ok rfl
  · exact .bind (.of_ok (by simp [AssistantMessage.decode, ht, hc, hk]; rfl)) fun _ => .of_ok rfl
  · exact .throw rfl

theorem MessageWithParts.decode_shaped {v : Json.Value} (hv : v.numbersFit = true) :
    FailsOnly DecodeError.isProtocol (MessageWithParts.decode v) := by
  refine .bind (requireObject_shaped v _) fun _ => ?_
  dsimp only
  -- the `info` is missing or null, or a message read on its own
  split
  · exact .bind (.of_ok rfl) fun _ => .of_ok rfl
  · exact .bind (.of_ok rfl) fun _ => .of_ok rfl
  · next i _ hi =>
    exact .bind (Message.decode_shaped (Json.Value.numbersFit_get hv hi)) fun _ => .of_ok rfl

/-! ## Reading the resource an operation expects -/

theorem Json.numbersFit_of_mem_items {xs : List Json.Value} {x : Json.Value}
    (hxs : Json.numbersFitItems xs = true) (h : x ∈ xs) : x.numbersFit = true := by
  induction xs with
  | nil => cases h
  | cons y xs ih =>
    simp only [Json.numbersFitItems, Bool.and_eq_true] at hxs
    rcases List.mem_cons.1 h with rfl | h
    · exact hxs.1
    · exact ih hxs.2 h

theorem mapM_error {α β ε : Type} {f : α → Except ε β} {xs : List α} {e : ε}
    (h : xs.mapM f = .error e) : ∃ x ∈ xs, f x = .error e := by
  induction xs with
  | nil => cases h
  | cons x xs ih =>
    rw [List.mapM_cons] at h
    cases hx : f x with
    | error e' =>
      rw [hx] at h
      cases h
      exact ⟨x, List.mem_cons_self .., hx⟩
    | ok b =>
      rw [hx] at h
      cases hxs : xs.mapM f with
      | error e' =>
        rw [hxs] at h
        cases h
        obtain ⟨y, hy, hfy⟩ := ih hxs
        exact ⟨y, List.mem_cons_of_mem x hy, hfy⟩
      | ok bs =>
        rw [hxs] at h
        cases h

/-- A resource whose reader fails only for its shape is unexpected, a malformed response, when
it cannot be read. -/
theorem expectOne_malformed {α : Type} {decode : Json.Value → Except DecodeError α}
    {what : String} {v : Json.Value} {err : ClientError}
    (hd : FailsOnly DecodeError.isProtocol (decode v)) (h : expectOne decode what v = .error err) :
    err.kind? = some .malformedResponse := by
  unfold expectOne at h
  cases hx : decode v with
  | ok a =>
    rw [hx] at h
    cases h
  | error e =>
    rw [hx] at h
    cases h
    simp [ClientError.ofDecode, hd e hx, ClientError.kind?]

/-- A list whose items' reader fails only for their shape is a malformed response when it
cannot be read: no list, or an item that is unexpected. -/
theorem expectList_malformed {α : Type} {decode : Json.Value → Except DecodeError α}
    {what : String} {v : Json.Value} {err : ClientError}
    (hd : ∀ w, w.numbersFit = true → FailsOnly DecodeError.isProtocol (decode w))
    (hv : v.numbersFit = true) (h : expectList decode what v = .error err) :
    err.kind? = some .malformedResponse := by
  unfold expectList at h
  split at h
  · next xs =>
    obtain ⟨x, hx, hfx⟩ := mapM_error h
    exact expectOne_malformed (hd x (Json.numbersFit_of_mem_items hv hx)) hfx
  · cases h
    rfl

/-- Every operation reads a value whose numbers fit as its resource, or fails as a malformed
response. -/
theorem Operation.finish_malformed (op : Operation) {v : Json.Value} {err : ClientError}
    (hv : v.numbersFit = true) (h : op.finish v = .error err) :
    err.kind? = some .malformedResponse := by
  cases op with
  | health => exact expectOne_malformed (HealthInfo.decode_shaped v) h
  | listSessions => exact expectList_malformed (fun _ hw => SessionInfo.decode_shaped hw) hv h
  | createSession _ => exact expectOne_malformed (SessionInfo.decode_shaped hv) h
  | getSession _ => exact expectOne_malformed (SessionInfo.decode_shaped hv) h
  | deleteSession _ => cases h
  | abortSession _ => cases h
  | sendMessage _ _ _ _ => exact expectOne_malformed (MessageWithParts.decode_shaped hv) h
  | getMessages _ _ =>
    exact expectList_malformed (fun _ hw => MessageWithParts.decode_shaped hw) hv h
  | listPermissions =>
    exact expectList_malformed (fun _ hw => PermissionRequest.decode_shaped hw) hv h
  | replyPermission _ => cases h
  | listProjects => exact expectList_malformed (fun _ hw => Project.decode_shaped hw) hv h
  | currentProject => exact expectOne_malformed (Project.decode_shaped hv) h

/-! ## From the reply to the answer -/

namespace Http

/-- The failure a body breaks off with, if it does. -/
def BodyEnd.broken? : BodyEnd → Option NetError
  | .broken e => some e
  | _ => none

/-- The failure on the network a reply comes to: a failure, or a body that breaks off after its
chunks. -/
def Reply.netError? : Reply → Option NetError
  | .fail e => some e
  | .respond _ _ body => body.ending.broken?
  | .unwritable _ => none

/-- The status of a response that arrives whole, and its body as a library reads it. -/
def Reply.received? (lib : Library) : Reply → Option (Nat × String)
  | .respond status hs body =>
    if body.ending.broken?.isSome then none else some (status, lib.bodyText hs body.bytes)
  | _ => none

theorem Answer.ofReply_of_netError {lib : Library} {r : Reply} {e : NetError}
    (h : r.netError? = some e) : Answer.ofReply lib r = .ok (Answer.ofNetError e) := by
  cases r with
  | fail e' =>
    cases h
    rfl
  | respond status hs body =>
    obtain ⟨chunks, ending⟩ := body
    cases ending with
    | broken e' =>
      cases h
      rfl
    | complete => cases h
    | held => cases h
  | unwritable _ => cases h

theorem Answer.ofReply_of_received {lib : Library} {r : Reply} {status : Nat} {body : String}
    (h : r.received? lib = some (status, body)) :
    ∃ hs, Answer.ofReply lib r = .ok { status, body, headers := hs } := by
  cases r with
  | respond status' hs b =>
    obtain ⟨chunks, ending⟩ := b
    -- a body that breaks off is no response that arrives whole
    cases ending with
    | broken e => simp [Reply.received?, BodyEnd.broken?] at h
    | complete | held =>
      simp only [Reply.received?, BodyEnd.broken?, Option.isSome_none, Bool.false_eq_true,
        if_false, Option.some.injEq, Prod.mk.injEq] at h
      obtain ⟨rfl, rfl⟩ := h
      exact ⟨_, rfl⟩
  | fail _ => cases h
  | unwritable _ => cases h

theorem NetError.text_isEmpty (e : NetError) : e.text.isEmpty = false := by
  simpa [String.isEmpty_iff] using e.text_ne_empty

/-! ## Answers given before anything is sent -/

theorem append_ne_empty_left {s t : String} (h : s ≠ "") : s ++ t ≠ "" :=
  fun he => h (String.append_eq_empty_iff.1 he).1

/-- The text of an error of a kind with a name is never empty. -/
theorem errorText_ne_empty (message : String) {kind : String} (h : kind ≠ "") :
    errorText message kind ≠ "" := by
  unfold errorText
  split
  · exact h
  · next full => simpa [String.isEmpty_iff] using full

theorem Transport.settle_answer {t : Transport} {x : Except BuildError Request} {a : Answer}
    (h : t.settle x = .ok (.error a)) : a.timedOut = false ∧ a.error ≠ "" := by
  unfold Transport.settle at h
  split at h
  · cases h
    exact ⟨rfl, errorText_ne_empty _ (by decide)⟩
  · cases h
  · cases h
  · cases h
  · by_cases hc : t.closed
    · simp only [hc, if_true, Except.ok.injEq, Except.error.injEq] at h
      subst h
      exact ⟨rfl, errorText_ne_empty _ (by decide)⟩
    · simp [hc] at h

/-- An answer given before anything is sent, for a method the transport does not speak, a target
that is no URL or a closed transport, is a failure with a text and no timeout. -/
theorem Transport.build_answer {t : Transport} {call : Call} {a : Answer}
    (h : t.build call = .ok (.error a)) : a.timedOut = false ∧ a.error ≠ "" := by
  unfold Transport.build at h
  split at h
  · cases h
    exact ⟨rfl, append_ne_empty_left (by decide)⟩
  · dsimp only at h
    split at h
    · cases h
    · exact Transport.settle_answer h

theorem Transport.request_run_answer {t : Transport} {call : Call} {a : Answer} (s : Script)
    (h : t.build call = .ok (.error a)) : (t.request call).run s = (.ok a, s) := by
  unfold Transport.request
  rw [h]
  rfl

theorem Transport.request_run_request {t : Transport} {call : Call} {req : Request} (s : Script)
    (h : t.build call = .ok (.ok req)) :
    (t.request call).run s = (Answer.ofReply t.library (s.answer req).1, (s.answer req).2) := by
  unfold Transport.request
  rw [h]
  rfl

end Http

/-! ## Checking the answer and reading the body -/

theorem checkAnswer_ofNetError (name : String) (e : Http.NetError) :
    ∃ err, checkAnswer name (Http.Answer.ofNetError e) = .error err ∧
      err.kind? = some (if e.fault.isTimeout then .transportTimeout else .connectionFailed) := by
  cases ht : e.fault.isTimeout
  · exact ⟨.unreachable name e.text, by
      simp [checkAnswer, Http.Answer.ofNetError, ht, e.text_isEmpty, bind, Except.bind, throw,
        throwThe, MonadExceptOf.throw], rfl⟩
  · exact ⟨.timedOut name e.text, by
      simp [checkAnswer, Http.Answer.ofNetError, ht, bind, Except.bind, throw, throwThe,
        MonadExceptOf.throw], rfl⟩

theorem checkAnswer_unreachable {name : String} {a : Http.Answer} (ht : a.timedOut = false)
    (he : a.error ≠ "") : checkAnswer name a = .error (.unreachable name a.error) := by
  have hempty : a.error.isEmpty = false := by simpa [String.isEmpty_iff] using he
  simp [checkAnswer, ht, hempty, bind, Except.bind, throw, throwThe, MonadExceptOf.throw]

theorem checkAnswer_notFound (name body : String) (hs : Http.Headers) :
    checkAnswer name { status := 404, body, headers := hs } = .error (.notFound name body) := by
  simp [checkAnswer, bind, Except.bind, throw, throwThe, MonadExceptOf.throw]

theorem checkAnswer_rejected {name body : String} {hs : Http.Headers} {status : Nat}
    (h404 : status ≠ 404) (hok : ¬ (200 ≤ status ∧ status < 300)) :
    checkAnswer name { status, body, headers := hs } = .error (.rejected name status body) := by
  have failed : Http.Answer.ok { status, body, headers := hs } = false := by
    simp [Http.Answer.ok]
    omega
  simp [checkAnswer, failed, h404, throw, throwThe, MonadExceptOf.throw]

theorem checkAnswer_success {name body : String} {hs : Http.Headers} {status : Nat}
    (hok : 200 ≤ status ∧ status < 300) :
    checkAnswer name { status, body, headers := hs } = .ok () := by
  have h404 : status ≠ 404 := by omega
  simp [checkAnswer, Http.Answer.ok, h404, hok, pure, Except.pure]

/-- A success is read from its body alone. -/
theorem receive_success {name : String} {calls status : Nat} {body : String} {hs : Http.Headers}
    (hok : 200 ≤ status ∧ status < 300) :
    ((Except.ok { status, body, headers := hs } : Except Http.CallError Http.Answer).mapError
        ClientError.stopped >>= fun a => do
          checkAnswer name a
          readReply name calls a.body) = readReply name calls body := by
  simp only [Except.mapError, bind, Except.bind, checkAnswer_success hok]

/-- Whether a body reads, `calls` calls deep, without nesting deeper than the reader follows,
and every number in what it reads fits the readers. -/
def bodyWithinLimits (calls : Nat) (body : String) : Bool :=
  match readBody calls body with
  | .ok v => v.numbersFit
  | .error e => !e.isTooDeep

theorem readReply_eq_ok (name : String) {calls : Nat} {body : String} {v : Json.Value} :
    readReply name calls body = .ok v ↔ readBody calls body = .ok v := by
  unfold readReply
  cases readBody calls body <;> simp [Except.mapError]

/-- Within the limits, a body that does not read as JSON is a malformed response. -/
theorem readReply_malformed {name : String} {calls : Nat} {body : String} {err : ClientError}
    (hl : bodyWithinLimits calls body = true) (h : readReply name calls body = .error err) :
    err.kind? = some .malformedResponse := by
  unfold bodyWithinLimits at hl
  unfold readReply at h
  cases hb : readBody calls body with
  | ok v =>
    rw [hb] at h
    cases h
  | error e =>
    rw [hb, Bool.not_eq_true'] at hl
    rw [hb] at h
    cases h
    simp [hl, ClientError.kind?]

theorem numbersFit_of_readBody {calls : Nat} {body : String} {v : Json.Value}
    (hl : bodyWithinLimits calls body = true) (h : readBody calls body = .ok v) :
    v.numbersFit = true := by
  unfold bodyWithinLimits at hl
  rwa [h] at hl

/-! ## A whole operation -/

theorem Client.call_run_answer (c : Client) (depth : Nat) (m : Http.Method) (path : String)
    (payload : Option Json.Value) (s : Http.Script) {a : Http.Answer}
    (h : c.transport.build (jsonCall m path payload) = .ok (.error a)) :
    (c.call depth m path payload).run.run s =
      ((do
          checkAnswer (m.name ++ " " ++ path) a
          readReply (m.name ++ " " ++ path) (Json.replyCalls + depth) a.body), s) := by
  have hr := Http.Transport.request_run_answer s h
  unfold Client.call
  simp only [ExceptT.run_bind, ExceptT.run_mk, StateT.run_bind, StateT.run_map, hr]
  rfl

theorem Client.call_run_request (c : Client) (depth : Nat) (m : Http.Method) (path : String)
    (payload : Option Json.Value) (s : Http.Script) {req : Http.Request}
    (h : c.transport.build (jsonCall m path payload) = .ok (.ok req)) :
    (c.call depth m path payload).run.run s =
      ((Http.Answer.ofReply c.transport.library (s.answer req).1).mapError ClientError.stopped >>=
        fun a => do
          checkAnswer (m.name ++ " " ++ path) a
          readReply (m.name ++ " " ++ path) (Json.replyCalls + depth) a.body,
        (s.answer req).2) := by
  have hr := Http.Transport.request_run_request s h
  unfold Client.call
  simp only [ExceptT.run_bind, ExceptT.run_mk, StateT.run_bind, StateT.run_map, hr]
  cases Http.Answer.ofReply c.transport.library (s.answer req).1 <;> rfl

theorem Client.perform_run (c : Client) {op : Operation} {path : String} {depth : Nat}
    {s s' : Http.Script} {x : Except ClientError Json.Value} (h : op.target = .ok path)
    (hc : (c.call depth op.method path (op.payload c)).run.run s = (x, s')) :
    (c.perform op depth).run.run s = (x >>= op.finish, s') := by
  unfold Client.perform
  rw [h]
  change ((c.call depth op.method path (op.payload c) >>= fun v =>
    Attempt.ofExcept (op.finish v)).run).run s = _
  simp only [ExceptT.run_bind, StateT.run_bind, hc]
  cases x <;> rfl

/-- Whether an operation's request can be sent: the ids in its path encode in UTF-8, and the
transport builds the request, every header in ASCII and the host name with a Unicode form. -/
def Client.Sends (c : Client) (op : Operation) : Prop :=
  ∃ path, op.target = .ok path ∧ ∃ r, c.transport.build (jsonCall op.method path (op.payload c)) = .ok r

/-- What the client promises of the outcome `x` of an operation whose request the server
answered with the reply `r`, read by the HTTP library `lib`, its body read `calls` calls
deep. -/
structure Operation.Classified (op : Operation) (lib : Http.Library) (calls : Nat)
    (r : Http.Reply) (x : Except ClientError op.Result) : Prop where
  /-- A failure on the network fails as a timeout or as a failed connection, by its kind. -/
  failure : ∀ e, r.netError? = some e → ∃ err, x = .error err ∧
    err.kind? = some (if e.fault.isTimeout then .transportTimeout else .connectionFailed)
  /-- `404` fails as a missing resource, with the status and the body. -/
  notFound : ∀ body, r.received? lib = some (404, body) →
    ∃ err, x = .error err ∧ err.kind? = some .notFound ∧ err.response? = some (404, body)
  /-- Any other status that is no success fails as an error of the API, with the status and
  the body. -/
  rejected : ∀ status body, r.received? lib = some (status, body) → status ≠ 404 →
    ¬ (200 ≤ status ∧ status < 300) →
    ∃ err, x = .error err ∧ err.kind? = some .api ∧ err.response? = some (status, body)
  /-- A success whose body reads within the limits returns exactly the resource read from the
  body, and fails otherwise as a malformed response. -/
  success : ∀ status body, r.received? lib = some (status, body) → 200 ≤ status ∧ status < 300 →
    bodyWithinLimits calls body = true →
    (∀ a, x = .ok a ↔ ∃ v, readBody calls body = .ok v ∧ op.finish v = .ok a) ∧
    ∀ err, x = .error err → err.kind? = some .malformedResponse

/-- Whatever the server replies, the outcome of reading the reply is the one the client
promises. -/
theorem Operation.classified_of_reply (op : Operation) (lib : Http.Library) (name : String)
    (calls : Nat) (r : Http.Reply) :
    op.Classified lib calls r
      (((Http.Answer.ofReply lib r).mapError ClientError.stopped >>= fun a => do
          checkAnswer name a
          readReply name calls a.body) >>= op.finish) := by
  constructor
  · intro e he
    obtain ⟨err, hc, hk⟩ := checkAnswer_ofNetError name e
    rw [Http.Answer.ofReply_of_netError he]
    exact ⟨err, by simp [Except.mapError, bind, Except.bind, hc], hk⟩
  · intro body hr
    obtain ⟨hs, ha⟩ := Http.Answer.ofReply_of_received hr
    rw [ha]
    exact ⟨.notFound name body, by simp [Except.mapError, bind, Except.bind, checkAnswer_notFound],
      rfl, rfl⟩
  · intro status body hr h404 hok
    obtain ⟨hs, ha⟩ := Http.Answer.ofReply_of_received hr
    rw [ha]
    exact ⟨.rejected name status body,
      by simp [Except.mapError, bind, Except.bind, checkAnswer_rejected h404 hok], rfl, rfl⟩
  · intro status body hr hok hl
    obtain ⟨hs, ha⟩ := Http.Answer.ofReply_of_received hr
    rw [ha]
    rw [receive_success hok]
    -- the body reads as JSON or not, and the JSON as the resource or not
    cases hb : readReply name calls body with
    | error err =>
      refine ⟨fun a => ⟨fun h => (by cases h), fun ⟨v, hv, _⟩ => ?_⟩, fun err' h => ?_⟩
      · rw [← readReply_eq_ok name, hb] at hv
        cases hv
      · cases h
        exact readReply_malformed hl hb
    | ok v =>
      have hv := (readReply_eq_ok name).1 hb
      refine ⟨fun a => ⟨fun h => ⟨v, hv, h⟩, fun ⟨w, hw, hf⟩ => ?_⟩, fun err h =>
        op.finish_malformed (numbersFit_of_readBody hl hv) h⟩
      rw [hv] at hw
      cases hw
      exact hf

/-- The calls of the client form a closed classification. Whatever the server does, an
operation whose request can be sent either fails before anything is sent, as a failed connection
(its target is no URL, or the transport is closed), or sends its request and comes to the outcome
the library promises for the server's reply: a timeout or a failed connection for a failure on
the network, a missing resource or an error of the API with the status and the body for a status
that is no success, and for a success whose body reads within the limits the resource read from
the body or a malformed response. -/
theorem perform_classified (c : Client) (op : Operation) (depth : Nat) (s : Http.Script)
    (hs : c.Sends op) :
    (((c.perform op depth).run.run s).2 = s ∧
      ∃ err, ((c.perform op depth).run.run s).1 = .error err ∧
        err.kind? = some .connectionFailed) ∨
    ∃ path req, op.target = .ok path ∧
      c.transport.build (jsonCall op.method path (op.payload c)) = .ok (.ok req) ∧
      ((c.perform op depth).run.run s).2 = (s.answer req).2 ∧
      op.Classified c.transport.library (Json.replyCalls + depth) (s.answer req).1
        ((c.perform op depth).run.run s).1 := by
  obtain ⟨path, hpath, built, hbuilt⟩ := hs
  cases built with
  | error a =>
    -- answered at once: nothing reaches the server
    obtain ⟨ht, he⟩ := Http.Transport.build_answer hbuilt
    rw [Client.perform_run c hpath (Client.call_run_answer c depth _ _ _ s hbuilt)]
    refine .inl ⟨rfl, .unreachable (op.method.name ++ " " ++ path) a.error, ?_, rfl⟩
    simp [checkAnswer_unreachable ht he, bind, Except.bind]
  | ok req =>
    rw [Client.perform_run c hpath (Client.call_run_request c depth _ _ _ s hbuilt)]
    exact .inr ⟨path, req, hpath, hbuilt, rfl, op.classified_of_reply _ _ _ _⟩

/-- The local client can build its request for the session `s`. -/
theorem localClient_getSession_request :
    ∃ req, localClient.transport.build (jsonCall .get "/session/s" none) = .ok (.ok req) := by
  have built : (localClient.transport.build (jsonCall .get "/session/s" none)).toOption.map
      Except.toBool = some true := by
    decide +kernel
  revert built
  cases localClient.transport.build (jsonCall .get "/session/s" none) with
  | ok r =>
    cases r with
    | ok req => exact fun _ => ⟨req, rfl⟩
    | error a => intro h; cases h
  | error e => intro h; cases h

theorem localClient_sends_getSession : localClient.Sends (.getSession "s") :=
  let ⟨req, h⟩ := localClient_getSession_request
  ⟨"/session/s", rfl, .ok req, h⟩

/-- The classification for the local client reading the session `s` from a server that has no
such session. -/
theorem perform_classified_getSession :
    localClient.Sends (.getSession "s") ∧
    ((((localClient.perform (.getSession "s") 0).run.run {}).2 = {} ∧
      ∃ err, ((localClient.perform (.getSession "s") 0).run.run {}).1 = .error err ∧
        err.kind? = some .connectionFailed) ∨
    ∃ path req, (Operation.getSession "s").target = .ok path ∧
      localClient.transport.build (jsonCall (Operation.getSession "s").method path
        ((Operation.getSession "s").payload localClient)) = .ok (.ok req) ∧
      ((localClient.perform (.getSession "s") 0).run.run {}).2 = (Http.Script.answer req {}).2 ∧
      (Operation.getSession "s").Classified localClient.transport.library (Json.replyCalls + 0)
        (Http.Script.answer req {}).1 ((localClient.perform (.getSession "s") 0).run.run {}).1) :=
  ⟨localClient_sends_getSession,
    perform_classified localClient (.getSession "s") 0 {} localClient_sends_getSession⟩

/-! ## Outside the limits -/

theorem Text.stripList_eq_nil_iff {cs : List Char} :
    Text.stripList cs = [] ↔ ∀ c ∈ cs, Text.isBlank c = true := by
  unfold Text.stripList Text.dropBlankEnd
  rw [List.reverse_eq_nil_iff, List.dropWhile_eq_nil_iff]
  simp only [List.mem_reverse]
  rw [← List.dropWhile_eq_nil_iff, List.dropWhile_idempotent, List.dropWhile_eq_nil_iff]

/-- A body with a character that is no blank is read as JSON. -/
theorem readBody_of_not_blank {calls : Nat} {body : String} {c : Char} (hc : c ∈ body.toList)
    (hb : Text.isBlank c = false) : readBody calls body = Json.readAt calls body := by
  have hs : Text.stripList body.toList ≠ [] := fun h => by
    rw [Text.stripList_eq_nil_iff] at h
    rw [h c hc] at hb
    cases hb
  simp [readBody, Text.strip, hs]

theorem Utf8.replaces_replicate_ascii (n : Nat) {b : UInt8} (hb : b.toNat < 0x80) :
    Utf8.Replaces (List.replicate n b) (List.replicate n b.toNat) := by
  have one : Utf8.pointBytes b.toNat = [b] := Utf8.pointBytes_one hb rfl
  have scalar : Utf8.IsScalar b.toNat := Utf8.isScalar_iff.2 (by omega)
  induction n with
  | zero => exact .nil
  | succ n ih =>
    have step := Utf8.Replaces.scalar scalar ih
    rwa [one, List.singleton_append] at step

theorem Text.writeCodePoints_brackets (n : Nat) :
    Text.writeCodePoints (List.replicate n 0x5B) = List.replicate n '[' := by
  induction n with
  | zero => rfl
  | succ n ih =>
    rw [List.replicate_succ, Text.writeCodePoints, List.flatMap_cons, ← Text.writeCodePoints, ih]
    rfl

theorem Utf8.decodeAll_brackets (n : Nat) :
    Utf8.decodeAll (List.replicate n 0x5B) = String.ofList (List.replicate n '[') := by
  rw [Utf8.decodeAll_replaces (Utf8.replaces_replicate_ascii n (b := 0x5B) (by decide))]
  exact congrArg String.ofList (Text.writeCodePoints_brackets n)

/-- A server that answers every request with two thousand opening brackets. -/
def bracketServer : Http.Script :=
  { fallback := .respond 200 [] { chunks := [List.replicate 2000 0x5B] } }

/-- A session given as two thousand opening brackets nests deeper than the reader follows, and
reading it fails with an error that belongs to no family of the library. -/
theorem getSession_deep_brackets :
    ((localClient.perform (.getSession "s")).run.run bracketServer).1 =
      .error (.tooDeep (.tooDeep .array)) ∧
    ClientError.kind? (.tooDeep (.tooDeep .array)) = none := by
  obtain ⟨req, hreq⟩ := localClient_getSession_request
  have hreply : (bracketServer.answer req).1.received? localClient.transport.library =
      some (200, String.ofList (List.replicate 2000 '[')) := by
    rw [localClient_library]
    show Http.Reply.received? .reference (.respond 200 [] { chunks := [List.replicate 2000 0x5B] }) =
      _
    simp only [Http.Reply.received?, Http.Library.reference, Http.Body.bytes, Http.BodyEnd.broken?,
      List.flatten_singleton, Utf8.decodeAll_brackets]
    rfl
  obtain ⟨hs, ha⟩ := Http.Answer.ofReply_of_received hreply
  have hbracket : '[' ∈ (String.ofList (List.replicate 2000 '[')).toList := by
    rw [String.toList_ofList]
    exact List.mem_replicate.2 ⟨by decide, rfl⟩
  have hread : readBody (Json.replyCalls + 0) (String.ofList (List.replicate 2000 '[')) =
      .error (.tooDeep .array) := by
    rw [readBody_of_not_blank hbracket (by decide)]
    exact Json.readAt_brackets (by decide) (by decide)
  have hpath : (Operation.getSession "s").target = .ok "/session/s" := rfl
  refine ⟨?_, rfl⟩
  -- rewrite step by step: unfolding the reading in one simp makes the kernel run the reader
  -- over the brackets
  rw [Client.perform_run localClient hpath
      (Client.call_run_request localClient 0 .get "/session/s" none bracketServer hreq), ha,
    receive_success (by decide), readReply, hread]
  rfl

end AgentLink
