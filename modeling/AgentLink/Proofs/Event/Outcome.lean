import AgentLink.Event.Decode
import AgentLink.Proofs.Resource.Numbers

/-!
# What reading a record's event can give

A record's event is read in two stages: its data as JSON (`Json.readAt`), then the properties by
the reader of the kind the payload names (`decodeProperties`). Each reader gives an event of its
own kind (`decodeProperties_type`), so an event read from a record always has the type its
payload names (`Event.decodeAt_type`). A failure is a malformed record exactly when the data is
no JSON object (`Event.decodeAt_malformed_iff`).

Only two failures lie outside the protocol, and `Event.dispatchAt` passes them on instead of
dropping the record: data nested deeper than the reader can follow, and a whole number that is
an infinite float or an integer beyond the largest float. `Event.dispatchAt_within_limits`
states that a record free of both (`Event.readsWithinLimits`) is handed on or dropped, never
failed. `Event.dispatch_deep_brackets` shows the first failure: two thousand opening brackets
(`Json.readAt_brackets`) make both the reading of the event and its dispatch fail with nesting
too deep, which is no protocol error.
-/

namespace AgentLink

namespace Json

/-- A text of opening brackets holds an opening bracket at every place before its end. -/
theorem getD_brackets {n i : Nat} (h : i < n) : (Array.replicate n '[').getD i ' ' = '[' := by
  simp [Array.getD, h]

/-- The same, in the form `simp` leaves the lookup in. -/
theorem getElem?_getD_brackets {n i : Nat} (h : i < n) :
    (Array.replicate n '[')[i]?.getD ' ' = '[' := by
  simp [h]

/-- No blank stands among opening brackets. -/
theorem skipGap_brackets {n i : Nat} (h : i ≤ n) : skipGap (Array.replicate n '[') i = i := by
  rw [skipGap]
  rcases Nat.lt_or_ge i n with hi | hi
  · simp [hi, isGap]
  · simp; omega

/-- An opening bracket met when the calls and containers open fill the budget stops reading. -/
theorem scanValue_bracket_full {n d i fuel : Nat} (hi : i < n) (hd : callBudget ≤ d) :
    scanValue (Array.replicate n '[') d (fuel + 1) i = .error (.tooDeep .array) := by
  simp [scanValue, hi, hd]

/-- Reading opening brackets from depth `d` fills the budget at most `k` brackets later and
stops there, as long as the text and the fuel hold out that long. -/
theorem scanValue_brackets {n : Nat} :
    ∀ k d i fuel, i + k < n → callBudget ≤ d + k → 2 * k < fuel →
      scanValue (Array.replicate n '[') d fuel i = .error (.tooDeep .array) := by
  intro k
  -- each bracket opens one array and costs two steps of fuel: the value, then its first item
  induction k with
  | zero =>
    intro d i fuel hi hd hf
    obtain ⟨fuel, rfl⟩ : ∃ f, fuel = f + 1 := ⟨fuel - 1, by omega⟩
    exact scanValue_bracket_full (by omega) (by omega)
  | succ k ih =>
    intro d i fuel hi hd hf
    obtain ⟨fuel, rfl⟩ : ∃ f, fuel = f + 2 := ⟨fuel - 2, by omega⟩
    by_cases full : callBudget ≤ d
    · exact scanValue_bracket_full (by omega) full
    have hsize : ¬ (Array.replicate n '[').size ≤ i := by simp; omega
    have inner := ih (d + 1) (i + 1) fuel (by omega) (by omega) (by omega)
    have opening : (Array.replicate n '[')[i + 1]?.getD ' ' ≠ ']' := by
      rw [getElem?_getD_brackets (by omega)]; decide
    simp only [scanValue, if_neg hsize, getD_brackets (by omega : i < n), if_neg full,
      skipGap_brackets (by omega : i + 1 ≤ n)]
    simp [scanArray, opening, inner]

/-- A text of more opening brackets than the calls leave room for cannot be read: it nests too
deep. -/
theorem readAt_brackets {calls n : Nat} (hn : 0 < n) (h : callBudget < calls + n) :
    readAt calls (String.ofList (List.replicate n '[')) = .error (.tooDeep .array) := by
  have deep := scanValue_brackets (n := n) (n - 1) calls 0 (2 * n + 2) (by omega) (by omega)
    (by omega)
  have first : (Array.replicate n '[')[0]?.getD ' ' ≠ '﻿' := by
    rw [getElem?_getD_brackets hn]; decide
  simp only [readAt, String.toList_ofList, List.toArray_replicate, skipGap_brackets (Nat.zero_le n)]
  simp [first, deep]

/-- The data of a record, read inside `calls` calls, is no JSON object: it is no JSON text, for a
reason other than its nesting, or the JSON text of something other than an object. -/
def NoObject (calls : Nat) (data : String) : Prop :=
  (∃ e, readAt calls data = .error e ∧ e.isTooDeep = false) ∨
    (∃ v, readAt calls data = .ok v ∧ v.obj? = none)

end Json

/-! ## Each reader gives an event of its own kind -/

theorem exists_of_map {α : Type} {f : α → Event} {d : Except DecodeError α} {ev : Event}
    (h : f <$> d = .ok ev) : ∃ a, f a = ev := by
  cases d with
  | error e => cases h
  | ok a => exact ⟨a, Except.ok.inj h⟩

theorem decodePartUpdate_type {p : Json.Value} {ev : Event} (h : decodePartUpdate p = .ok ev) :
    ev.type = "message.part.updated" := by
  unfold decodePartUpdate at h
  split at h
  · simp only [bind, Except.bind] at h
    split at h
    · cases h
    · cases h; rfl
  · cases h

/-- The reader of a kind gives an event of that kind. -/
theorem decodeProperties_type {kind : String} {p : Json.Value} {ev : Event}
    (h : decodeProperties kind p = some (.ok ev)) : ev.type = kind := by
  unfold decodeProperties at h
  split at h <;> simp only [Option.some.injEq, reduceCtorEq] at h
  case h_13 => exact decodePartUpdate_type h
  -- the kinds whose event is made from the properties at once
  case h_1 | h_2 | h_3 | h_4 | h_9 | h_10 | h_12 | h_14 | h_16 | h_18 | h_19 | h_20 =>
    cases h; rfl
  -- the kinds that read a resource from the properties first
  case h_5 | h_6 | h_7 | h_8 | h_11 | h_15 | h_17 =>
    obtain ⟨_, rfl⟩ := exists_of_map h; rfl

theorem Event.type_ne_empty (ev : Event) : ev.type ≠ "" := by
  cases ev <;> simp [Event.type]

theorem get?_of_textOr {v : Json.Value} {k s : String} (h : v.textOr k = s) (hs : s ≠ "") :
    v.get? k = some (.str s) := by
  unfold Json.Value.textOr at h
  split at h
  · next t ht => rw [ht, h]
  · exact absurd h.symm hs

/-! ## Readers that never fail for arithmetic -/

theorem deletedSessionId_noOverflow (p : Json.Value) : NoOverflow (deletedSessionId p) := by
  intro e h
  unfold deletedSessionId at h
  by_cases hd : (p.textOr "sessionID").isEmpty
  · simp only [hd, Bool.not_true, Bool.false_eq_true, if_false] at h
    -- no `info`, an `info` that counts as false, an object, or a value with no fields
    split at h
    · cases h
    · split at h
      · cases h
      · split at h
        · cases h
        · cases h; rfl
  · simp [hd, pure, Except.pure] at h

theorem decodePartUpdate_noOverflow (p : Json.Value) : NoOverflow (decodePartUpdate p) := by
  unfold decodePartUpdate
  split
  · exact .bind (Part.decode_noOverflow _) fun _ => .pure _
  · exact .throw rfl

/-- The readers of every kind fail only for the shape of the properties when their numbers
fit. -/
theorem decodeProperties_noOverflow {kind : String} {p : Json.Value}
    {x : Except DecodeError Event} (hp : p.numbersFit = true)
    (h : decodeProperties kind p = some x) : NoOverflow x := by
  have info : (infoOf p).numbersFit = true := Json.Value.numbersFit_getD hp hp
  unfold decodeProperties at h
  split at h <;> simp only [Option.some.injEq, reduceCtorEq] at h <;> subst h
  case h_5 | h_6 => exact .map (SessionInfo.decode_noOverflow info)
  case h_7 => exact .map (deletedSessionId_noOverflow p)
  case h_8 => exact .map (SessionStatus.decode_noOverflow _)
  case h_11 => exact .map (Message.decode_noOverflow info)
  case h_13 => exact decodePartUpdate_noOverflow p
  case h_15 => exact .map (PermissionRequest.decode_noOverflow hp)
  case h_17 => exact .map (Project.decode_noOverflow info)
  all_goals exact .pure _

/-! ## Reading the event of a record -/

/-- Whether an event error is a malformed record: data that is no JSON text, or JSON that is no
object. -/
def EventError.isMalformed : EventError → Bool
  | .notJson _ | .notObject => true
  | _ => false

theorem EventError.ofDecode_isMalformed (kind : String) (e : DecodeError) :
    (EventError.ofDecode kind e).isMalformed = false := by
  unfold EventError.ofDecode
  split
  · rfl
  · split <;> rfl

/-- A reading error that does not come from arithmetic is filed as an error of the protocol. -/
theorem EventError.ofDecode_isProtocol {kind : String} {e : DecodeError}
    (h : e.isOverflow = false) : (EventError.ofDecode kind e).isProtocol = true := by
  unfold EventError.ofDecode
  split
  · rfl
  · split
    · simp [DecodeError.isOverflow] at h
    · simp [DecodeError.isOverflow] at h
    · rfl

namespace Event

/-- Whether a record's data reads, inside `calls` calls, without nesting too deep, and every
number in what it reads fits the readers. -/
def readsWithinLimits (calls : Nat) (r : Sse.Record) : Bool :=
  match Json.readAt calls r.data with
  | .ok v => v.numbersFit
  | .error e => !e.isTooDeep

/-- What reading a record's event gives, by the shape of its data: the error of data that
cannot be read, the outcome of the reader of the kind the payload names, or the error of JSON
that is no object. -/
theorem decodeAt_cases {calls : Nat} {r : Sse.Record} {x : Except EventError Event}
    (h : Event.decodeAt calls r = x) :
    (∃ e, Json.readAt calls r.data = .error e ∧
      x = .error (if e.isTooDeep then .tooDeep e else .notJson (e.message r.data))) ∨
    (∃ fs, Json.readAt calls r.data = .ok (.obj fs) ∧
      ((decodeProperties ((Json.Value.obj fs).textOr "type")
          ((Json.Value.obj fs).objOr "properties") = none ∧
        x = .error (.unknownType ((Json.Value.obj fs).textOr "type"))) ∨
      (∃ ev, decodeProperties ((Json.Value.obj fs).textOr "type")
          ((Json.Value.obj fs).objOr "properties") = some (.ok ev) ∧ x = .ok ev) ∨
      (∃ e, decodeProperties ((Json.Value.obj fs).textOr "type")
          ((Json.Value.obj fs).objOr "properties") = some (.error e) ∧
        x = .error (EventError.ofDecode ((Json.Value.obj fs).textOr "type") e)))) ∨
    (∃ v, Json.readAt calls r.data = .ok v ∧ v.obj? = none ∧ x = .error .notObject) := by
  unfold Event.decodeAt at h
  split at h
  · next e hread => exact .inl ⟨e, hread, h.symm⟩
  · next fs hread =>
    refine .inr (.inl ⟨fs, hread, ?_⟩)
    dsimp only at h
    split at h
    · next hp => exact .inl ⟨hp, h.symm⟩
    · next ev hp => exact .inr (.inl ⟨ev, hp, h.symm⟩)
    · next e hp => exact .inr (.inr ⟨e, hp, h.symm⟩)
  · next v hnot hread =>
    refine .inr (.inr ⟨v, hread, ?_, h.symm⟩)
    cases v with
    | obj fs => exact absurd rfl (hnot fs)
    | _ => rfl

/-- Data that reads as an object is not short of one. -/
theorem not_noObject {calls : Nat} {data : String} {fs : List (String × Json.Value)}
    (h : Json.readAt calls data = .ok (.obj fs)) : ¬ Json.NoObject calls data := by
  rintro (⟨_, he, _⟩ | ⟨_, hv, hnone⟩)
  · rw [h] at he; cases he
  · rw [h] at hv; cases hv; cases hnone

/-- An event read from a record has the type its payload names. -/
theorem decodeAt_type {calls : Nat} {r : Sse.Record} {ev : Event}
    (h : Event.decodeAt calls r = .ok ev) :
    ∃ fs, Json.readAt calls r.data = .ok (.obj fs) ∧
      (Json.Value.obj fs).get? "type" = some (.str ev.type) := by
  obtain ⟨_, -, hx⟩ | ⟨fs, hread, ⟨-, hx⟩ | ⟨ev', hp, hx⟩ | ⟨_, -, hx⟩⟩ | ⟨_, -, -, hx⟩ :=
    decodeAt_cases h
  · cases hx
  · cases hx
  · cases hx
    exact ⟨fs, hread, get?_of_textOr (decodeProperties_type hp).symm (Event.type_ne_empty ev)⟩
  · cases hx
  · cases hx

/-- A record fails as malformed exactly when its data is no JSON object. -/
theorem decodeAt_malformed_iff {calls : Nat} {r : Sse.Record} {e : EventError}
    (h : Event.decodeAt calls r = .error e) :
    e.isMalformed = true ↔ Json.NoObject calls r.data := by
  obtain ⟨e', hread, hx⟩ | ⟨fs, hread, ⟨-, hx⟩ | ⟨_, -, hx⟩ | ⟨d, -, hx⟩⟩ | ⟨v, hread, hv, hx⟩ :=
    decodeAt_cases h
  · -- data that cannot be read: malformed unless it nests too deep
    cases hdeep : e'.isTooDeep
    · rw [hdeep] at hx
      cases hx
      exact ⟨fun _ => .inl ⟨e', hread, hdeep⟩, fun _ => rfl⟩
    · rw [hdeep] at hx
      cases hx
      refine ⟨fun hm => (by cases hm), ?_⟩
      rintro (⟨_, he, hshallow⟩ | ⟨_, hv, _⟩)
      · rw [hread] at he
        cases he
        rw [hdeep] at hshallow
        cases hshallow
      · rw [hread] at hv
        cases hv
  · cases hx
    exact ⟨fun hm => (by cases hm), fun hno => absurd hno (not_noObject hread)⟩
  · cases hx
  · cases hx
    refine ⟨fun hm => ?_, fun hno => absurd hno (not_noObject hread)⟩
    rw [EventError.ofDecode_isMalformed] at hm
    cases hm
  · cases hx
    exact ⟨fun _ => .inr ⟨v, hread, hv⟩, fun _ => rfl⟩

/-- Within the limits, every failure of reading a record's event is an error of the
protocol. -/
theorem decodeAt_isProtocol {calls : Nat} {r : Sse.Record} {e : EventError}
    (hl : readsWithinLimits calls r = true) (h : Event.decodeAt calls r = .error e) :
    e.isProtocol = true := by
  unfold readsWithinLimits at hl
  obtain ⟨e', hread, hx⟩ | ⟨fs, hread, ⟨-, hx⟩ | ⟨_, -, hx⟩ | ⟨d, hp, hx⟩⟩ | ⟨_, -, -, hx⟩ :=
    decodeAt_cases h
  · rw [hread, Bool.not_eq_true'] at hl
    rw [hl] at hx
    cases hx
    rfl
  · cases hx
    rfl
  · cases hx
  · rw [hread] at hl
    cases hx
    -- the properties are a part of the payload, or the empty object
    have props := Json.Value.numbersFit_objOr (k := "properties") hl
    exact EventError.ofDecode_isProtocol (decodeProperties_noOverflow props hp d rfl)
  · cases hx
    rfl

theorem dispatchAt_eq_some_iff {calls : Nat} {r : Sse.Record} {ev : Event} :
    Event.dispatchAt calls r = .ok (some ev) ↔ Event.decodeAt calls r = .ok ev := by
  unfold Event.dispatchAt
  split
  · simp_all
  · split <;> simp_all

theorem dispatchAt_eq_none_iff {calls : Nat} {r : Sse.Record} :
    Event.dispatchAt calls r = .ok none ↔
      ∃ e, Event.decodeAt calls r = .error e ∧ e.isProtocol = true := by
  unfold Event.dispatchAt
  split
  · simp_all
  · split <;> simp_all

theorem dispatchAt_eq_error_iff {calls : Nat} {r : Sse.Record} {e : EventError} :
    Event.dispatchAt calls r = .error e ↔
      Event.decodeAt calls r = .error e ∧ e.isProtocol = false := by
  unfold Event.dispatchAt
  split
  · simp_all
  · split <;> simp_all <;> grind

/-- Within the limits, reading a record's event gives the event of the type the payload names,
or an error of the protocol, malformed exactly when the data is no JSON object; and dispatching
the record hands on exactly that event, drops it on an error, and never fails. -/
theorem dispatchAt_within_limits (calls : Nat) (r : Sse.Record)
    (h : readsWithinLimits calls r = true) :
    (∀ ev, Event.decodeAt calls r = .ok ev →
      ∃ fs, Json.readAt calls r.data = .ok (.obj fs) ∧
        (Json.Value.obj fs).get? "type" = some (.str ev.type)) ∧
    (∀ e, Event.decodeAt calls r = .error e →
      e.isProtocol = true ∧ (e.isMalformed = true ↔ Json.NoObject calls r.data)) ∧
    (∀ ev, Event.dispatchAt calls r = .ok (some ev) ↔ Event.decodeAt calls r = .ok ev) ∧
    (Event.dispatchAt calls r = .ok none ↔ ∃ e, Event.decodeAt calls r = .error e) ∧
    ∀ e, Event.dispatchAt calls r ≠ .error e := by
  refine ⟨fun _ => decodeAt_type, fun _ he => ⟨decodeAt_isProtocol h he, decodeAt_malformed_iff he⟩,
    fun _ => dispatchAt_eq_some_iff, ?_, fun e he => ?_⟩
  · rw [dispatchAt_eq_none_iff]
    exact ⟨fun ⟨e, he, _⟩ => ⟨e, he⟩, fun ⟨e, he⟩ => ⟨e, he, decodeAt_isProtocol h he⟩⟩
  · obtain ⟨he, hp⟩ := dispatchAt_eq_error_iff.1 he
    rw [decodeAt_isProtocol h he] at hp
    cases hp

/-- The record a server greets a subscriber with. -/
def greetingRecord : Sse.Record := { data := "\x7b\"type\":\"server.connected\"\x7d" }

/-- The server's greeting, read one call deeper than an event is read for itself, as dispatch
reads it: within the limits, so its event is the greeting and dispatch hands it on. -/
theorem dispatchAt_within_limits_greeting :
    readsWithinLimits (Event.readCalls + 1) greetingRecord = true ∧
    (∀ ev, Event.decodeAt (Event.readCalls + 1) greetingRecord = .ok ev →
      ∃ fs, Json.readAt (Event.readCalls + 1) greetingRecord.data = .ok (.obj fs) ∧
        (Json.Value.obj fs).get? "type" = some (.str ev.type)) ∧
    (∀ e, Event.decodeAt (Event.readCalls + 1) greetingRecord = .error e →
      e.isProtocol = true ∧
        (e.isMalformed = true ↔ Json.NoObject (Event.readCalls + 1) greetingRecord.data)) ∧
    (∀ ev, Event.dispatchAt (Event.readCalls + 1) greetingRecord = .ok (some ev) ↔
      Event.decodeAt (Event.readCalls + 1) greetingRecord = .ok ev) ∧
    (Event.dispatchAt (Event.readCalls + 1) greetingRecord = .ok none ↔
      ∃ e, Event.decodeAt (Event.readCalls + 1) greetingRecord = .error e) ∧
    ∀ e, Event.dispatchAt (Event.readCalls + 1) greetingRecord ≠ .error e :=
  ⟨by decide +kernel, dispatchAt_within_limits _ _ (by decide +kernel)⟩

/-- A record of more opening brackets than the calls leave room for fails with nesting too
deep. -/
theorem decodeAt_brackets {calls n : Nat} (hn : 0 < n) (h : Json.callBudget < calls + n) :
    Event.decodeAt calls { data := String.ofList (List.replicate n '[') } =
      .error (.tooDeep (.tooDeep .array)) := by
  unfold Event.decodeAt
  rw [Json.readAt_brackets hn h]
  rfl

/-- Two thousand opening brackets: reading the record's event fails with nesting too deep, which
is no error of the protocol, and dispatching the record fails in the same way instead of dropping
it. -/
theorem dispatch_deep_brackets :
    Event.decode { data := String.ofList (List.replicate 2000 '[') } =
      .error (.tooDeep (.tooDeep .array)) ∧
    Event.dispatch { data := String.ofList (List.replicate 2000 '[') } =
      .error (.tooDeep (.tooDeep .array)) ∧
    (EventError.tooDeep (.tooDeep .array)).isProtocol = false := by
  have decoded : ∀ calls, Event.decodeAt calls { data := String.ofList (List.replicate 2000 '[') } =
      .error (.tooDeep (.tooDeep .array)) :=
    fun calls => decodeAt_brackets (by decide) (by unfold Json.callBudget; omega)
  exact ⟨decoded _, dispatchAt_eq_error_iff.2 ⟨decoded _, rfl⟩, rfl⟩

end Event

end AgentLink
