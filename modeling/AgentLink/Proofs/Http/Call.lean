import AgentLink.Proofs.Client.Calls
import AgentLink.Proofs.Http.Refusals

/-!
# A call raises only for what it cannot encode

A call of the transport (`Http.Transport.request`) is built first (`Http.Transport.build`), and
building stops the call only for a reason the call itself gives (`Http.Transport.Unsendable`):
a header of its own, the directory or the content type beyond ASCII, a body it sends or a path
with a lone surrogate, or a host in ASCII Punycode with no Unicode form where the path leads.
That holds through any library that refuses only what its documentation says
(`Http.Library.Refusals`), by `Http.Transport.build_error_unsendable`. Nothing reaches the
server then. A method the transport does not speak, a target that is no URL and a closed
transport are answered at once, again with nothing sent. Everything else is sent, and whatever
the network does comes back as an answer (`Http.Answer.ofReply_eq_ok`); only a server that
cannot write its response makes the call raise (`Http.Answer.ofReply_eq_error`).

`request_raises_only_unencodable` states the whole: a call raises only for a reason it gives,
before anything is sent, or for a server that cannot write; and an answer carries an error
exactly when no response came, is marked as a timeout exactly when a timeout was the failure,
and is a success exactly when it has no error and a status from 200 to 299. So a call is not
safe from raising for every request: `request_raises_on_wide_header` is a header whose value is
not ASCII.
-/

namespace AgentLink.Http

/-- What stops a call of a transport before anything is sent. -/
inductive Transport.Unsendable (t : Transport) (c : Call) : Prop where
  /-- A header of the call's own has a name or a value beyond ASCII. -/
  | header {h : String × String} (mem : h ∈ c.headers)
      (wide : Text.isAscii h.1 = false ∨ Text.isAscii h.2 = false)
  /-- The directory the transport names is beyond ASCII. -/
  | directory {d : String} (named : t.directory = some d) (wide : Text.isAscii d = false)
  /-- The call has a body, and its content type is beyond ASCII. -/
  | contentType (sent : c.body ≠ "") (wide : Text.isAscii c.typeOfBody = false)
  /-- The call's method sends a body, and the body has a lone surrogate. -/
  | body {m : Method} {e : Utf8.EncodeError} (method : Method.ofName? c.method = some m)
      (sends : m.sendsBody = true) (lone : Utf8.encode c.body = .error e)
  /-- The path has a lone surrogate. -/
  | path {e : Utf8.EncodeError} (lone : Utf8.encode c.path = .error e)
  /-- The call names no `Host`, and the URL its path names has a host in ASCII Punycode with
  no Unicode form. -/
  | punycode {url : Url} {e : Idna.DecodeError} (noHost : c.headers.has "host" = false)
      (resolved : t.library.resolve t.base c.path = .ok url)
      (ace : url.host.startsWith "xn--" = true) (undecodable : t.library.toUnicode url.host = .error e)

/-! ## Building a call -/

/-- The headers a transport adds to a call's own name no `Host`. -/
theorem Transport.callHeaders_has_host (t : Transport) (c : Call) (withBody : Bool) :
    (t.callHeaders c withBody).has "host" = c.headers.has "host" := by
  have single : ∀ n v, sameName n "host" = false → Headers.has [(n, v)] "host" = false := by
    intro n v hn
    simp [Headers.has, hn]
  have accept := single "Accept" "application/json" (by decide)
  have type : Headers.has (if withBody then [("Content-Type", c.typeOfBody)] else []) "host" =
      false := by
    split
    · exact single _ _ (by decide)
    · rfl
  unfold Transport.callHeaders Transport.scoped
  split
  · split
    · simp only [Headers.has_append, accept, type, Bool.or_false]
    · simp only [Headers.has_append, single directoryHeader _ (by decide), accept, type,
        Bool.or_false]
  · simp only [Headers.has_append, accept, type, Bool.or_false]

/-- A header beyond ASCII among those a call is sent with is one of the call's own, the
directory's, or the content type of a body. -/
theorem Transport.callHeaders_wide {t : Transport} {c : Call} {withBody : Bool}
    (hbody : withBody = true → c.body ≠ "") {h : String × String}
    (mem : h ∈ t.callHeaders c withBody) (wide : Text.isAscii h.1 = false ∨ Text.isAscii h.2 = false) :
    t.Unsendable c := by
  have named : Text.isAscii directoryHeader = true := by decide
  unfold Transport.callHeaders Transport.scoped at mem
  simp only [List.mem_append, List.mem_cons, List.not_mem_nil, or_false] at mem
  rcases mem with (own | accept) | typed
  · -- the call's own headers, then the directory's when there is one
    split at own
    · next d hd =>
      split at own
      · exact .header own wide
      · rcases List.mem_append.1 own with own | own
        · exact .header own wide
        · rw [List.mem_singleton] at own
          subst own
          rcases wide with wide | wide
          · rw [named] at wide
            cases wide
          · exact .directory hd wide
    · exact .header own wide
  · have ascii : Text.isAscii "Accept" = true ∧ Text.isAscii "application/json" = true := by
      decide
    subst accept
    simp [ascii] at wide
  · split at typed
    · next hw =>
      rw [List.mem_singleton] at typed
      subst typed
      rcases wide with wide | wide
      · have ascii : Text.isAscii "Content-Type" = true := by decide
        simp [ascii] at wide
      · exact .contentType (hbody hw) wide
    · cases typed

/-- A built request stops the call only for an encoding or a host name, with the library's
error. -/
theorem Transport.settle_error {t : Transport} {x : Except BuildError Request} {e : CallError}
    (h : t.settle x = .error e) :
    (∃ e', x = .error (.unencodable e') ∧ e = .unencodable e') ∨
    (∃ e', x = .error (.ascii e') ∧ e = .ascii e') ∨
    (∃ e', x = .error (.idna e') ∧ e = .idna e') := by
  unfold Transport.settle at h
  split at h
  · cases h
  · cases h
    exact .inl ⟨_, rfl, rfl⟩
  · cases h
    exact .inr (.inl ⟨_, rfl, rfl⟩)
  · cases h
    exact .inr (.inr ⟨_, rfl, rfl⟩)
  · cases h

/-- Through a library that refuses only what its documentation says, building a call stops it
only for a reason the call gives. -/
theorem Transport.build_error_unsendable {t : Transport} (hlib : t.library.Refusals) {c : Call}
    {e : CallError} (h : t.build c = .error e) : t.Unsendable c := by
  unfold Transport.build at h
  split at h
  · cases h
  · next m hm =>
    dsimp only at h
    split at h
    · next e' he =>
      -- the body, when the method sends one, did not encode
      split at he
      · next hw =>
        simp only [Bool.and_eq_true, Bool.not_eq_true', String.isEmpty_eq_false_iff] at hw
        cases hb : Utf8.encode c.body with
        | ok b => simp [hb, discard, Functor.mapConst, Except.map] at he
        | error e'' => exact .body hm hw.2 hb
      · cases he
    · rcases Transport.settle_error h with ⟨e', hx, -⟩ | ⟨e', hx, -⟩ | ⟨e', hx, -⟩
      · obtain ⟨_, lone⟩ := hlib.unencodable t.made hx
        exact .path lone
      · obtain ⟨h', mem, wide⟩ := hlib.ascii t.made hx
        refine Transport.callHeaders_wide (fun hw => ?_) mem wide
        simp only [Bool.and_eq_true, Bool.not_eq_true', String.isEmpty_eq_false_iff] at hw
        exact hw.1
      · obtain ⟨noHost, url, resolved, ace, undecodable⟩ := hlib.idna t.made hx
        rw [Transport.callHeaders_has_host] at noHost
        exact .punycode noHost resolved ace undecodable

theorem Transport.request_run_error {t : Transport} {c : Call} {e : CallError} (s : Script)
    (h : t.build c = .error e) : (t.request c).run s = (.error e, s) := by
  unfold Transport.request
  rw [h]
  rfl

theorem Answer.ok_iff (a : Answer) :
    a.ok = true ↔ a.error = "" ∧ 200 ≤ a.status ∧ a.status < 300 := by
  simp [Answer.ok, String.isEmpty_iff, and_assoc]

/-- The answer a reply gives carries an error exactly when the reply is a failure on the
network, and is marked as a timeout exactly when that failure was one. -/
theorem Answer.ofReply_eq_ok {lib : Library} {r : Reply} {a : Answer}
    (h : Answer.ofReply lib r = .ok a) :
    (a.error ≠ "" ↔ ∃ e, r.netError? = some e) ∧
    (a.timedOut = true ↔ ∃ e, r.netError? = some e ∧ e.fault.isTimeout = true) := by
  cases hn : r.netError? with
  | some e =>
    rw [Answer.ofReply_of_netError hn] at h
    cases h
    exact ⟨⟨fun _ => ⟨e, rfl⟩, fun _ => e.text_ne_empty⟩,
      ⟨fun ht => ⟨e, rfl, ht⟩, fun ⟨_, he, ht⟩ => by cases he; exact ht⟩⟩
  | none =>
    -- a reply that is no failure is a response received whole, or one that cannot be written
    cases r with
    | fail e => cases hn
    | unwritable w => cases h
    | respond status hs body =>
      obtain ⟨chunks, ending⟩ := body
      cases ending with
      | broken e => cases hn
      | complete | held =>
        cases h
        simp

/-- A reply makes the call raise only when the server cannot write its response. -/
theorem Answer.ofReply_eq_error {lib : Library} {r : Reply} {e : CallError}
    (h : Answer.ofReply lib r = .error e) :
    ∃ w, r = .unwritable w ∧ e = .unwritable w := by
  cases r with
  | unwritable w =>
    cases h
    exact ⟨w, rfl, rfl⟩
  | fail _ => cases h
  | respond status hs body =>
    obtain ⟨chunks, ending⟩ := body
    cases ending <;> cases h

/-- What a call comes to, through a library that refuses only what its documentation says. It
raises only for a reason the call gives (`Http.Transport.Unsendable`), with nothing sent, or
for a server that cannot write its response; never for the network. Its answer carries an error
exactly when no response came (a method the transport does not speak, a target that is no URL
or a closed transport, all answered with nothing sent, or a failure on the network, a body that
breaks off included), is marked as a timeout exactly when a timeout was the failure, and is a
success exactly when it has no error and a status from 200 to 299. -/
theorem request_raises_only_unencodable (t : Transport) (hlib : t.library.Refusals) (c : Call)
    (s : Script) :
    (∀ e, ((t.request c).run s).1 = .error e →
      (((t.request c).run s).2 = s ∧ t.Unsendable c) ∨
      ∃ req w, t.build c = .ok (.ok req) ∧ (s.answer req).1 = .unwritable w ∧ e = .unwritable w) ∧
    ∀ a, ((t.request c).run s).1 = .ok a →
      (a.error ≠ "" ↔ (∃ a', t.build c = .ok (.error a')) ∨
        ∃ req e, t.build c = .ok (.ok req) ∧ (s.answer req).1.netError? = some e) ∧
      (a.timedOut = true ↔ ∃ req e, t.build c = .ok (.ok req) ∧
        (s.answer req).1.netError? = some e ∧ e.fault.isTimeout = true) ∧
      (a.ok = true ↔ a.error = "" ∧ 200 ≤ a.status ∧ a.status < 300) ∧
      ((∃ a', t.build c = .ok (.error a')) → ((t.request c).run s).2 = s) := by
  cases hb : t.build c with
  | error e =>
    rw [Transport.request_run_error s hb]
    refine ⟨fun e' he' => .inl ?_, fun a ha => by cases ha⟩
    cases he'
    exact ⟨rfl, Transport.build_error_unsendable hlib hb⟩
  | ok built =>
    cases built with
    | error a =>
      -- answered at once: nothing is sent
      rw [Transport.request_run_answer s hb]
      obtain ⟨ht, he⟩ := Transport.build_answer hb
      refine ⟨fun e h => (by cases h), fun a' ha' => ?_⟩
      cases ha'
      refine ⟨⟨fun _ => .inl ⟨a, rfl⟩, fun _ => he⟩, ⟨fun h => (by simp [ht] at h), ?_⟩,
        Answer.ok_iff a, fun _ => rfl⟩
      rintro ⟨req, e, hreq, -⟩
      cases hreq
    | ok req =>
      rw [Transport.request_run_request s hb]
      refine ⟨fun e he => .inr ?_, fun a ha => ?_⟩
      · obtain ⟨w, hw, rfl⟩ := Answer.ofReply_eq_error he
        exact ⟨req, w, rfl, hw, rfl⟩
      · obtain ⟨herr, hto⟩ := Answer.ofReply_eq_ok ha
        -- the request was sent, so only the reply decides
        refine ⟨?_, ?_, Answer.ok_iff a, fun ⟨_, h⟩ => by cases h⟩
        · rw [herr]
          constructor
          · exact fun ⟨e, he⟩ => .inr ⟨req, e, rfl, he⟩
          · rintro (⟨_, h⟩ | ⟨req', e, h, he⟩)
            · cases h
            · cases h
              exact ⟨e, he⟩
        · rw [hto]
          constructor
          · exact fun ⟨e, he, ht⟩ => ⟨req, e, rfl, he, ht⟩
          · rintro ⟨req', e, h, he, ht⟩
            cases h
            exact ⟨e, he, ht⟩

/-- The client of a local server drives the reference library, which refuses only what its
documentation says: a call of it raises only for what the call cannot encode, or for a reply that
cannot be written back. -/
theorem request_raises_only_unencodable_local :
    localClient.transport.library.Refusals ∧
      ∀ e, ((localClient.transport.request
          { method := "GET", path := "/session", headers := [("X-Bad", "é")] }).run {}).1 =
          .error e →
        (((localClient.transport.request
            { method := "GET", path := "/session", headers := [("X-Bad", "é")] }).run {}).2 = {} ∧
          localClient.transport.Unsendable
            { method := "GET", path := "/session", headers := [("X-Bad", "é")] }) ∨
        ∃ req w, localClient.transport.build
            { method := "GET", path := "/session", headers := [("X-Bad", "é")] } = .ok (.ok req) ∧
          (({} : Script).answer req).1 = .unwritable w ∧ e = .unwritable w := by
  have refusals : localClient.transport.library.Refusals := by
    rw [localClient_library]
    exact Library.reference_refusals
  exact ⟨refusals, (request_raises_only_unencodable localClient.transport refusals _ {}).1⟩

/-- A header whose value is not ASCII stops the call with the encoding's error, before anything
is sent: a call can raise. -/
theorem request_raises_on_wide_header :
    ((localClient.transport.request
        { method := "GET", path := "/session", headers := [("X-Bad", "é")] }).run {}).1 =
      .error (.ascii { first := 0xE9, start := 0, stop := 1 }) := by
  have built : (localClient.transport.build
      { method := "GET", path := "/session", headers := [("X-Bad", "é")] }).map (fun _ => ()) =
      .error (.ascii { first := 0xE9, start := 0, stop := 1 }) := by
    decide +kernel
  revert built
  cases hb : localClient.transport.build
      { method := "GET", path := "/session", headers := [("X-Bad", "é")] } with
  | error e =>
    intro h
    cases h
    rw [Transport.request_run_error {} hb]
  | ok r => intro h; cases h

end AgentLink.Http
