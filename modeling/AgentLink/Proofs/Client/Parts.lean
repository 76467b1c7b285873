import Mathlib.Logic.Function.Iterate
import AgentLink.Proofs.Client.Streaming
import AgentLink.Proofs.Event.Outcome

/-!
# The parts a streamed send hands on

The record handler of a streamed send reads a record's data, its type and, for a part update,
the update's properties itself (`Streaming.handleAt`), instead of reading the record's event
with `Event.decodeAt`. The two readings agree: at the same depth, the handler takes a record
for a part update of a session with a part exactly when the event read from the record is that
update (`Streaming.handleAt_eq_update_iff`), and the part is the one the update's part object
reads to, with a text delta in place of the text of a text part (`decodePartUpdate_eq_ok`,
`Part.withDelta`).

The handler passes no failure of a record's reading on but one: data nested deeper than the
reader follows (`Streaming.handleAt_eq_error_iff`, `Streaming.handler_raises_on_deep_record`).
The worker catches it, and such a record is handed on to no one.

So, while the send is not done, the worker hands on exactly the parts of the session that the
events of its records carry, once each and in the order of the records, each from the start of
the part callback to its return (`Streaming.run_workers_log`). The caller moving in between
changes none of this: in every interleaving of the two threads the parts handed on are those of
a prefix of the records (`Streaming.Handing`, kept by a step of either thread and so by a whole
run, `Streaming.Handing.run`).
-/

namespace AgentLink

/-- A part as a part update hands it on: with a delta, a text part takes the delta as its text
and is marked as a delta; any other part is handed on as it reads. -/
def Part.withDelta : Option String → Part → Part
  | some d, .text p => .text { p with text := d, isDelta := true }
  | _, p => p

/-- What reading the properties of a part update gives: the event of the part object, whose part
is the one the object reads to, with the update's delta. -/
theorem decodePartUpdate_eq_ok {props : Json.Value} {ev : Event} :
    decodePartUpdate props = .ok ev ↔
      ∃ fs q, props.get? "part" = some (.obj fs) ∧ Part.decode (.obj fs) = .ok q ∧
        ev = .messagePartUpdated ((Json.Value.obj fs).textOr "sessionID")
          ((Json.Value.obj fs).textOr "messageID") (q.withDelta (props.optText "delta"))
          (props.optText "delta") := by
  unfold decodePartUpdate
  split
  · next fs hp =>
    cases hq : Part.decode (.obj fs) with
    | error e => simp [hp, hq, bind, Except.bind]
    | ok q =>
      simp only [hp, hq, bind, Except.bind, pure, Except.pure, Except.ok.injEq,
        Option.some.injEq, Json.Value.obj.injEq, exists_and_left, exists_eq_left']
      -- the decoder's own match on the delta and the part is `Part.withDelta`
      cases props.optText "delta" <;> cases q <;> exact eq_comm
  · next hp =>
    simp only [throw, throwThe, MonadExceptOf.throw, reduceCtorEq, false_iff, not_exists, not_and]
    intro fs q h
    exact absurd h (hp fs)

theorem decodeProperties_partUpdated (props : Json.Value) :
    decodeProperties "message.part.updated" props = some (decodePartUpdate props) :=
  rfl

namespace Streaming

variable {calls : Nat} {session : String} {r : Sse.Record} {p : Part}

/-- A payload is a part update of a session with a part exactly when it is an object of that
type whose properties read as an update of the session with that part. -/
theorem roleOfPayload_eq_update_iff {v : Json.Value} :
    roleOfPayload session v = .update (some p) ↔
      ∃ fs, v = .obj fs ∧ v.textOr "type" = "message.part.updated" ∧
        ∃ mid d, decodePartUpdate (v.objOr "properties") =
          .ok (.messagePartUpdated session mid p d) := by
  unfold roleOfPayload
  split
  · next fs =>
    split
    · next hk => simp [hk]
    · next hk =>
      simp only [hk, Role.update.injEq, Json.Value.obj.injEq, exists_eq_left', true_and]
      split
      · next sid mid q d hd =>
        rw [hd]
        by_cases hs : sid = session
        · subst hs
          simp
        · simp [hs]
      · next hd =>
        simp only [reduceCtorEq, false_iff, not_exists]
        intro mid d h
        exact hd _ _ _ _ h
    · next hk1 hk2 =>
      simp only [reduceCtorEq, Json.Value.obj.injEq, exists_eq_left', false_iff, not_and]
      intro h
      exact absurd h hk2
  · next hv =>
    simp only [reduceCtorEq, false_iff, not_exists, not_and]
    intro fs h
    exact absurd h (hv fs)

/-- The event of a record is a part update exactly when its data reads as an object of that
type whose properties read as that update. -/
theorem decodeAt_eq_partUpdated_iff {sid mid : String} {d : Option String} :
    Event.decodeAt calls r = .ok (.messagePartUpdated sid mid p d) ↔
      ∃ fs, Json.readAt calls r.data = .ok (.obj fs) ∧
        (Json.Value.obj fs).textOr "type" = "message.part.updated" ∧
        decodePartUpdate ((Json.Value.obj fs).objOr "properties") =
          .ok (.messagePartUpdated sid mid p d) := by
  constructor
  · intro h
    obtain ⟨_, -, hx⟩ | ⟨fs, hread, ⟨-, hx⟩ | ⟨ev, hp, hx⟩ | ⟨_, -, hx⟩⟩ | ⟨_, -, -, hx⟩ :=
      Event.decodeAt_cases h
    · cases hx
    · cases hx
    · cases hx
      -- the reader of the payload's type gave a part update, so the type is that of one
      have hk : "message.part.updated" = (Json.Value.obj fs).textOr "type" :=
        decodeProperties_type hp
      rw [← hk, decodeProperties_partUpdated] at hp
      exact ⟨fs, hread, hk.symm, Option.some.inj hp⟩
    · cases hx
    · cases hx
  · rintro ⟨fs, hread, hk, hd⟩
    unfold Event.decodeAt
    rw [hread]
    dsimp only
    rw [hk, decodeProperties_partUpdated, hd]

/-- The handler raises exactly when the record's data nests deeper than the reader follows. -/
theorem handleAt_eq_error_iff {e : Json.ReadError} :
    handleAt calls session r = .error e ↔
      Json.readAt calls r.data = .error e ∧ e.isTooDeep = true := by
  unfold handleAt
  split
  · next v hread => simp [hread]
  · next e' hread =>
    split
    · next hdeep =>
      simp only [Except.error.injEq, hread]
      constructor
      · rintro rfl
        exact ⟨rfl, hdeep⟩
      · rintro ⟨rfl, -⟩
        rfl
    · next hdeep =>
      simp only [reduceCtorEq, hread, Except.error.injEq, false_iff, not_and]
      rintro rfl
      simpa using hdeep

/-- The handler takes a record for a part update of a session with a part exactly when the
event read from the record at the same depth is that update. -/
theorem handleAt_eq_update_iff :
    handleAt calls session r = .ok (.update (some p)) ↔
      ∃ mid d, Event.decodeAt calls r = .ok (.messagePartUpdated session mid p d) := by
  have read : handleAt calls session r = .ok (.update (some p)) ↔
      ∃ v, Json.readAt calls r.data = .ok v ∧ roleOfPayload session v = .update (some p) := by
    unfold handleAt
    split
    · next v hread => simp [hread]
    · next e hread =>
      split <;> simp [hread]
  simp only [read, roleOfPayload_eq_update_iff, decodeAt_eq_partUpdated_iff]
  constructor
  · rintro ⟨_, hread, fs, rfl, hk, mid, d, hd⟩
    exact ⟨mid, d, fs, hread, hk, hd⟩
  · rintro ⟨mid, d, fs, hread, hk, hd⟩
    exact ⟨_, hread, fs, rfl, hk, mid, d, hd⟩

/-- A part update read from a record carries the part its part object reads to, with the
update's delta, and the session its part object names. -/
theorem decodeAt_partUpdated_delta {sid mid : String} {d : Option String}
    (h : Event.decodeAt calls r = .ok (.messagePartUpdated sid mid p d)) :
    ∃ fs part q, Json.readAt calls r.data = .ok (.obj fs) ∧
      ((Json.Value.obj fs).objOr "properties").get? "part" = some (.obj part) ∧
      Part.decode (.obj part) = .ok q ∧
      d = ((Json.Value.obj fs).objOr "properties").optText "delta" ∧
      p = q.withDelta d ∧ sid = (Json.Value.obj part).textOr "sessionID" := by
  obtain ⟨fs, hread, -, hd⟩ := decodeAt_eq_partUpdated_iff.1 h
  obtain ⟨part, q, hpart, hq, hev⟩ := decodePartUpdate_eq_ok.1 hd
  obtain ⟨rfl, -, rfl, rfl⟩ := Event.messagePartUpdated.inj hev
  exact ⟨fs, part, q, hread, hpart, hq, rfl, rfl, rfl⟩

theorem handleAt_brackets {n : Nat} (hn : 0 < n) (h : Json.callBudget < calls + n) :
    handleAt calls session { data := String.ofList (List.replicate n '[') } =
      .error (.tooDeep .array) := by
  unfold handleAt
  rw [Json.readAt_brackets hn h]
  rfl

/-- Data of two thousand opening brackets nests deeper than the handler's reader follows, and
the handler raises. -/
theorem handler_raises_on_deep_record :
    handleAt streamedPartReadCalls "s" { data := String.ofList (List.replicate 2000 '[') } =
      .error (.tooDeep .array) :=
  handleAt_brackets (by decide) (by unfold Json.callBudget; omega)

/-! ## What the worker hands on -/

/-- The part a streamed send for a session is to hand on from a record: that of the part update
the record's event is, read where the worker reads it, when the update is of the session. -/
def forwardedPart (session : String) (r : Sse.Record) : Option Part :=
  match Event.decodeAt streamedPartReadCalls r with
  | .ok (.messagePartUpdated sid _ p _) => if sid = session then some p else none
  | _ => none

theorem forwardedPart_eq_some_iff :
    forwardedPart session r = some p ↔
      ∃ mid d, Event.decodeAt streamedPartReadCalls r =
        .ok (.messagePartUpdated session mid p d) := by
  unfold forwardedPart
  split
  · next sid mid q d hd =>
    rw [hd]
    by_cases hs : sid = session
    · subst hs
      simp
    · simp [hs]
  · next hd =>
    simp only [reduceCtorEq, false_iff, not_exists]
    intro mid d h
    exact hd _ _ _ _ h

/-- The worker takes a record for a part to hand on exactly when the record's event carries a
part of its session. -/
theorem roleOf_eq_update_iff :
    roleOf session r = .update (some p) ↔ forwardedPart session r = some p := by
  rw [forwardedPart_eq_some_iff, ← handleAt_eq_update_iff]
  unfold roleOf
  split
  · next role h => simp [h]
  · next e h => simp [h]

theorem forwardedPart_eq_none (h : ∀ p, roleOf session r ≠ .update (some p)) :
    forwardedPart session r = none := by
  cases hf : forwardedPart session r with
  | none => rfl
  | some p => exact absurd (roleOf_eq_update_iff.2 hf) (h p)

/-- What the part callback sees of parts handed on: each one's start and its return. -/
def partCalls (ps : List Part) : List Happening :=
  ps.flatMap fun p => [.partStarted p, .partEnded]

@[simp]
theorem startedParts_partCalls (ps : List Part) :
    (partCalls ps).filterMap Happening.startedPart? = ps := by
  induction ps with
  | nil => rfl
  | cons p ps ih => simp [partCalls, Happening.startedPart?] at ih ⊢; exact ih

/-- The worker's turns over one record while the send is not done and the stream not stopped:
one for a record it passes over, two for a part update it drops, four for a part it hands
on. -/
def Role.turns : Role → Nat
  | .update (some _) => 4
  | .update none => 2
  | _ => 1

theorem Role.turns_le (role : Role) : role.turns ≤ 4 := by
  cases role with
  | update part => cases part <;> simp [Role.turns]
  | _ => simp [Role.turns]

/-- The worker is delivering records, the send is not done and the stream not stopped. -/
structure Undisturbed (rs : List Sse.Record) (st : State) : Prop where
  worker : st.worker = .delivering rs
  done : st.done = false
  stop : st.stop = false

theorem undisturbed_iff {rs : List Sse.Record} {st : State} :
    Undisturbed rs st ↔ st.worker = .delivering rs ∧ st.done = false ∧ st.stop = false :=
  ⟨fun ⟨hw, hd, hs⟩ => ⟨hw, hd, hs⟩, fun ⟨hw, hd, hs⟩ => ⟨hw, hd, hs⟩⟩

/-- The worker's turns over one record hand on the part the record's event carries for the
session, if any, and leave it delivering the records after. -/
theorem Undisturbed.record (setup : Setup) {st : State} {rest : List Sse.Record}
    (h : Undisturbed (r :: rest) st) :
    Undisturbed rest ((workerStep setup)^[(roleOf setup.session r).turns] st) ∧
      ((workerStep setup)^[(roleOf setup.session r).turns] st).log =
        st.log ++ partCalls (forwardedPart setup.session r).toList := by
  obtain ⟨hw, hd, hs⟩ := h
  cases hrole : roleOf setup.session r with
  | update part =>
    cases part with
    | some p =>
      have hf := roleOf_eq_update_iff.1 hrole
      simp [undisturbed_iff, Role.turns, workerStep, hw, hd, hs, hrole, hf, partCalls]
    | none =>
      have hf : forwardedPart setup.session r = none := forwardedPart_eq_none (by simp [hrole])
      simp [undisturbed_iff, Role.turns, workerStep, hw, hd, hs, hrole, hf, partCalls]
  | greeting | other =>
    have hf : forwardedPart setup.session r = none := forwardedPart_eq_none (by simp [hrole])
    simp [undisturbed_iff, Role.turns, workerStep, hw, hd, hs, hrole, hf, partCalls]

/-- Whether the worker has delivered every record. -/
def Worker.delivered : Worker → Bool
  | .delivering [] | .ended => true
  | _ => false

variable {setup : Setup} {st : State}

/-- The caller never moves the worker. -/
theorem callerStep_worker (t : Bool) : (callerStep setup t st).worker = st.worker := by
  unfold callerStep
  split <;> (try split) <;> rfl

theorem SendOutcome.report_startedPart (o : SendOutcome) : o.report.startedPart? = none := by
  cases o <;> rfl

/-- The caller never starts the part callback: it adds only the stop of the stream, the close
of the transport and the report to the log. -/
theorem callerStep_startedParts (t : Bool) :
    (callerStep setup t st).log.filterMap Happening.startedPart? =
      st.log.filterMap Happening.startedPart? := by
  unfold callerStep
  split
  case h_7 => simp [SendOutcome.report_startedPart]
  all_goals (try split) <;> simp [Happening.startedPart?]

/-- A worker that has delivered every record adds nothing to the log, and stays so. -/
theorem workerStep_of_delivered (h : st.worker.delivered = true) :
    (workerStep setup st).worker.delivered = true ∧ (workerStep setup st).log = st.log := by
  cases hw : st.worker with
  | delivering rs =>
    cases rs with
    | cons => simp [hw, Worker.delivered] at h
    | nil =>
      simp only [workerStep, hw]
      -- how the stream ends: closed, or held open until it is stopped
      split
      · simp [State.finish, Worker.delivered]
      · split <;> simp [State.finish, Worker.delivered, hw]
  | ended => simp [workerStep, hw, Worker.delivered]
  | _ => simp [hw, Worker.delivered] at h

theorem iterate_of_delivered (h : st.worker.delivered = true) (k : Nat) :
    ((workerStep setup)^[k] st).worker.delivered = true ∧
      ((workerStep setup)^[k] st).log = st.log := by
  induction k generalizing st with
  | zero => exact ⟨h, rfl⟩
  | succ k ih =>
    obtain ⟨hd, hl⟩ := @workerStep_of_delivered setup st h
    obtain ⟨hd', hl'⟩ := ih hd
    rw [Function.iterate_succ_apply]
    exact ⟨hd', hl'.trans hl⟩

/-- A worker that has delivered every record hands nothing more on: a step of either thread
adds no start of the part callback to the log. -/
theorem step_of_delivered (h : st.worker.delivered = true) (turn : Turn) :
    (step setup st turn).worker.delivered = true ∧
      (step setup st turn).log.filterMap Happening.startedPart? =
        st.log.filterMap Happening.startedPart? := by
  cases turn with
  | worker =>
    obtain ⟨hd, hl⟩ := @workerStep_of_delivered setup st h
    exact ⟨hd, by rw [step, hl]⟩
  | caller t =>
    exact ⟨(callerStep_worker t).symm ▸ h, callerStep_startedParts t⟩

theorem run_of_delivered (h : st.worker.delivered = true) (turns : List Turn) :
    (run setup st turns).worker.delivered = true ∧
      (run setup st turns).log.filterMap Happening.startedPart? =
        st.log.filterMap Happening.startedPart? := by
  induction turns generalizing st with
  | nil => exact ⟨h, rfl⟩
  | cons turn turns ih =>
    obtain ⟨hd, hl⟩ := @step_of_delivered setup st h turn
    obtain ⟨hd', hl'⟩ := ih hd
    exact ⟨hd', hl'.trans hl⟩

/-- Turns of the worker alone are steps of the worker, one after another. -/
theorem run_workers (k : Nat) :
    run setup st (List.replicate k .worker) = (workerStep setup)^[k] st := by
  induction k generalizing st with
  | zero => rfl
  | succ k ih =>
    rw [List.replicate_succ, run, List.foldl_cons, ← run, ih, Function.iterate_succ_apply]
    rfl

/-- Undisturbed, four turns a record are enough for the worker to deliver them all: it then has
handed on, in order, the parts the records' events carry for the session. -/
theorem Undisturbed.deliver {rs : List Sse.Record} (h : Undisturbed rs st) {k : Nat}
    (hk : 4 * rs.length ≤ k) :
    ((workerStep setup)^[k] st).worker.delivered = true ∧
      ((workerStep setup)^[k] st).log =
        st.log ++ partCalls (rs.filterMap (forwardedPart setup.session)) := by
  -- on the records, each taking the turns of its role and the rest taking at most four each
  induction rs generalizing st k with
  | nil =>
    have hd : st.worker.delivered = true := by simp [h.worker, Worker.delivered]
    simpa [partCalls] using @iterate_of_delivered setup st hd k
  | cons r rest ih =>
    obtain ⟨hrest, hlog⟩ := h.record setup
    have hturns := (roleOf setup.session r).turns_le
    obtain ⟨k', rfl⟩ : ∃ k', k = k' + (roleOf setup.session r).turns :=
      ⟨k - (roleOf setup.session r).turns, by simp at hk; omega⟩
    rw [Function.iterate_add_apply]
    obtain ⟨hd, hl⟩ := ih hrest (k := k') (by simp at hk; omega)
    refine ⟨hd, ?_⟩
    rw [hl, hlog, List.filterMap_cons]
    cases forwardedPart setup.session r <;> simp [partCalls]

/-- Worker turns alone, four a record or more: the log is the part callback starting and
returning on each part the records' events carry for the session, in order. -/
theorem run_workers_log (k : Nat) (hk : 4 * setup.records.length ≤ k) :
    (run setup (start setup) (List.replicate k .worker)).worker.delivered = true ∧
      (run setup (start setup) (List.replicate k .worker)).log =
        partCalls (setup.records.filterMap (forwardedPart setup.session)) := by
  have h : Undisturbed setup.records (start setup) := ⟨rfl, rfl, rfl⟩
  rw [run_workers]
  simpa [start] using h.deliver hk

/-- In the order a scripted server imposes, the parts a streamed send returns are those the
records' events carry for the session, in order. -/
theorem serverOrder_parts (setup : Setup) :
    (reply setup (run setup (start setup) (serverOrder setup))).parts =
      setup.records.filterMap (forwardedPart setup.session) := by
  obtain ⟨hd, hlog⟩ := @run_workers_log setup (4 * setup.records.length + 1) (by omega)
  -- the caller's turns and the worker's last one come after every record was delivered
  have rest := @run_of_delivered setup _ hd (List.replicate 4 (.caller true) ++ [.worker] ++
    List.replicate 3 (.caller false))
  simp only [serverOrder, List.append_assoc] at rest ⊢
  rw [run_append, reply, rest.2, hlog, startedParts_partCalls]

/-! ## Every interleaving -/

/-- Where the worker stands in the records, `passed` being those it is done with: the record it
is checking or is about to hand on comes next, with its part. -/
def Placed (setup : Setup) (st : State) (passed : List Sse.Record) : Prop :=
  match st.worker with
  | .delivering rest => setup.records = passed ++ rest
  | .checking part rest =>
    ∃ r, setup.records = passed ++ r :: rest ∧ part = forwardedPart setup.session r
  | .calling p rest =>
    ∃ r, setup.records = passed ++ r :: rest ∧ forwardedPart setup.session r = some p
  | .inPart rest => setup.records = passed ++ rest
  | .ended => ∃ rest, setup.records = passed ++ rest ∧ (st.stop = false → rest = [])

/-- What the part callback was started on, whatever the two threads did: the parts of `handed`,
records of a prefix of those the worker passed, all of them while the send is not done and
while the worker is in the part callback or about to call it. The stream is stopped only after
the send is done. -/
structure Handing (setup : Setup) (st : State) : Prop where
  placed : ∃ passed handed, Placed setup st passed ∧ handed <+: passed ∧
    st.log.filterMap Happening.startedPart? = handed.filterMap (forwardedPart setup.session) ∧
    (st.done = false ∨ st.worker.inCallback = true → handed = passed)
  stop : st.stop = true → st.done = true
  stopping : st.caller = .stopping → st.done = true

theorem handing_start (setup : Setup) : Handing setup (start setup) where
  placed := ⟨[], [], rfl, List.prefix_refl _, rfl, fun _ => rfl⟩
  stop h := by cases h
  stopping h := by cases h

theorem workerStep_stop : (workerStep setup st).stop = st.stop := by
  unfold workerStep
  split <;> (repeat' split) <;> rfl

/-- The part of a record's update is the part the worker hands on for the record. -/
theorem forwardedPart_of_role {r : Sse.Record} {part : Option Part}
    (h : roleOf setup.session r = .update part) : part = forwardedPart setup.session r := by
  cases part with
  | some p => exact (roleOf_eq_update_iff.1 h).symm
  | none => exact (forwardedPart_eq_none (by simp [h])).symm

/-- The worker passes over a record to deliver the rest: while the send is not done the record
carries no part of the session, so the parts started stay those of the records handed, and
these cover all the records passed. -/
theorem pass_over {st' : State} {passed handed rest : List Sse.Record} {r : Sse.Record}
    (hw : st'.worker = .delivering rest) (hlog' : st'.log = st.log) (hdone : st'.done = st.done)
    (hrec : setup.records = passed ++ r :: rest) (hpre : handed <+: passed)
    (hlog : st.log.filterMap Happening.startedPart? = handed.filterMap (forwardedPart setup.session))
    (hall : st.done = false → handed = passed)
    (hnone : st.done = false → forwardedPart setup.session r = none) :
    ∃ passed handed, Placed setup st' passed ∧ handed <+: passed ∧
      st'.log.filterMap Happening.startedPart? = handed.filterMap (forwardedPart setup.session) ∧
      (st'.done = false ∨ st'.worker.inCallback = true → handed = passed) := by
  have hplaced : Placed setup st' (passed ++ [r]) := by simpa [Placed, hw] using hrec
  cases hd : st.done with
  | false =>
    obtain rfl := hall hd
    refine ⟨handed ++ [r], handed ++ [r], hplaced, List.prefix_refl _, ?_, fun _ => rfl⟩
    simp [hlog', hlog, hnone hd]
  | true =>
    refine ⟨passed ++ [r], handed, hplaced, hpre.trans (List.prefix_append _ _),
      by rw [hlog']; exact hlog, fun h => ?_⟩
    simp [hdone, hd, hw, Worker.inCallback] at h

/-- The worker ends its stream where it stands in the records, leaving some unread only when the
stream was asked to stop. -/
theorem end_here {passed handed rest : List Sse.Record} (err : Option String)
    (hrec : setup.records = passed ++ rest) (hrest : st.stop = false → rest = [])
    (hpre : handed <+: passed)
    (hlog : st.log.filterMap Happening.startedPart? = handed.filterMap (forwardedPart setup.session))
    (hall : st.done = false → handed = passed) :
    ∃ passed handed, Placed setup (st.finish err) passed ∧ handed <+: passed ∧
      (st.finish err).log.filterMap Happening.startedPart? =
        handed.filterMap (forwardedPart setup.session) ∧
      ((st.finish err).done = false ∨ (st.finish err).worker.inCallback = true →
        handed = passed) :=
  ⟨passed, handed, by simp only [Placed, State.finish]; exact ⟨rest, hrec, hrest⟩, hpre, hlog,
    fun h => hall (by simpa [State.finish, Worker.inCallback] using h)⟩

/-- A step of the worker keeps the parts started those of a prefix of the records it passed. -/
theorem Handing.placed_workerStep {passed handed : List Sse.Record}
    (hplaced : Placed setup st passed) (hpre : handed <+: passed)
    (hlog : st.log.filterMap Happening.startedPart? = handed.filterMap (forwardedPart setup.session))
    (hall : st.done = false ∨ st.worker.inCallback = true → handed = passed) :
    ∃ passed handed, Placed setup (workerStep setup st) passed ∧ handed <+: passed ∧
      (workerStep setup st).log.filterMap Happening.startedPart? =
        handed.filterMap (forwardedPart setup.session) ∧
      ((workerStep setup st).done = false ∨ (workerStep setup st).worker.inCallback = true →
        handed = passed) := by
  have hall' : st.done = false → handed = passed := fun h => hall (.inl h)
  unfold Placed at hplaced
  cases hw : st.worker with
  | delivering rs =>
    rw [hw] at hplaced
    simp only at hplaced
    cases rs with
    | nil =>
      simp only [Streaming.workerStep, hw]
      -- the stream ends, with its error or after a stop, or stays held open
      split
      · exact end_here _ hplaced (fun _ => rfl) hpre hlog hall'
      · split
        · exact end_here none hplaced (fun _ => rfl) hpre hlog hall'
        · exact ⟨passed, handed, by simpa [Placed, hw] using hplaced, hpre, hlog, hall⟩
    | cons r rest =>
      simp only [Streaming.workerStep, hw]
      split
      · -- stopped: the worker ends where it stands
        next hs =>
        exact end_here none hplaced (fun h => by simp [hs] at h) hpre hlog hall'
      · split
        · -- the greeting carries no part
          next hrole =>
          exact pass_over rfl rfl rfl hplaced hpre hlog hall' fun _ =>
            forwardedPart_eq_none fun _ => by simp [hrole]
        · -- a part update is checked next
          next part hrole =>
          exact ⟨passed, handed, by simpa [Placed] using ⟨r, hplaced, forwardedPart_of_role hrole⟩,
            hpre, hlog, fun h => hall' (by simpa [Worker.inCallback] using h)⟩
        · next hrole =>
          exact pass_over rfl rfl rfl hplaced hpre hlog hall' fun _ =>
            forwardedPart_eq_none fun _ => by simp [hrole]
  | checking part rest =>
    rw [hw] at hplaced
    obtain ⟨r, hrec, hpart⟩ := hplaced
    simp only [Streaming.workerStep, hw]
    split
    · -- the send is done: the record is passed over, whatever it carries
      next hd =>
      exact pass_over rfl rfl rfl hrec hpre hlog hall' fun h => absurd hd (by simpa using h)
    · next hd =>
      split
      · -- a part of the session: the worker is about to hand it on
        next p =>
        exact ⟨passed, handed, by simpa [Placed] using ⟨r, hrec, hpart.symm⟩, hpre, hlog,
          fun _ => hall' (by simpa using hd)⟩
      · exact pass_over rfl rfl rfl hrec hpre hlog hall' fun _ => hpart.symm
  | calling p rest =>
    rw [hw] at hplaced
    obtain ⟨r, hrec, hpart⟩ := hplaced
    -- the worker was about to hand on every part of the records passed, and now this one
    obtain rfl : handed = passed := hall (.inr (by simp [hw, Worker.inCallback]))
    simp only [Streaming.workerStep, hw]
    refine ⟨handed ++ [r], handed ++ [r], by simpa [Placed] using hrec, List.prefix_refl _, ?_,
      fun _ => rfl⟩
    simp [hlog, hpart, Happening.startedPart?]
  | inPart rest =>
    rw [hw] at hplaced
    obtain rfl : handed = passed := hall (.inr (by simp [hw, Worker.inCallback]))
    simp only [Streaming.workerStep, hw]
    exact ⟨handed, handed, by simpa [Placed] using hplaced, List.prefix_refl _,
      by simp [hlog, Happening.startedPart?], fun _ => rfl⟩
  | ended =>
    simp only [Streaming.workerStep, hw]
    exact ⟨passed, handed, by simpa [Placed, hw] using hplaced, hpre, hlog,
      fun h => hall (by rwa [hw])⟩

theorem Handing.workerStep (h : Handing setup st) : Handing setup (workerStep setup st) := by
  obtain ⟨⟨passed, handed, hplaced, hpre, hlog, hall⟩, hstop, hstopping⟩ := h
  obtain ⟨hcaller, hdone, -⟩ := @workerStep_cases setup st
  refine ⟨placed_workerStep hplaced hpre hlog hall, fun hs => ?_, fun hc => ?_⟩
  · rw [hdone]
    exact hstop (workerStep_stop ▸ hs)
  · rw [hdone]
    exact hstopping (hcaller ▸ hc)

/-- Where the worker stands depends on the worker and on whether the stream is asked to stop. -/
theorem Placed.of_worker {st' : State} {passed : List Sse.Record} (h : Placed setup st passed)
    (hw : st'.worker = st.worker) (hs : st'.stop = false → st.stop = false) :
    Placed setup st' passed := by
  unfold Placed at h ⊢
  rw [hw]
  cases hst : st.worker <;> rw [hst] at h <;> simp only at h ⊢
  case ended =>
    obtain ⟨rest, hrec, hrest⟩ := h
    exact ⟨rest, hrec, fun h' => hrest (hs h')⟩
  all_goals exact h

/-- The records the worker passed are the first ones. -/
theorem Placed.prefix {passed : List Sse.Record} (h : Placed setup st passed) :
    passed <+: setup.records := by
  unfold Placed at h
  split at h
  case h_2 | h_3 =>
    obtain ⟨r, hrec, -⟩ := h
    exact ⟨_, hrec.symm⟩
  case h_5 =>
    obtain ⟨rest, hrec, -⟩ := h
    exact ⟨rest, hrec.symm⟩
  all_goals exact ⟨_, h.symm⟩

/-- The caller raises the flags it shares with the worker and never lowers them: it marks the
send done, and in its next step asks the stream to stop. -/
theorem callerStep_flags (t : Bool) :
    (st.done = true → (callerStep setup t st).done = true) ∧
      (st.stop = true → (callerStep setup t st).stop = true) ∧
      ((callerStep setup t st).stop = true → st.stop = true ∨ st.caller = .stopping) ∧
      ((callerStep setup t st).caller = .stopping → (callerStep setup t st).done = true) := by
  unfold callerStep
  split <;> (try split) <;> simp_all

theorem Handing.callerStep (h : Handing setup st) (t : Bool) :
    Handing setup (callerStep setup t st) := by
  obtain ⟨⟨passed, handed, hplaced, hpre, hlog, hall⟩, hstop, hstopping⟩ := h
  obtain ⟨hdone, hkeep, hraised, hcaller⟩ := @callerStep_flags setup st t
  -- a send not done after the step was not done before it
  have hundone : (Streaming.callerStep setup t st).done = false → st.done = false := by
    intro h
    cases hd : st.done
    · rfl
    · simp [hdone hd] at h
  refine ⟨⟨passed, handed, hplaced.of_worker (callerStep_worker t) fun hs => ?_, hpre,
    by rw [callerStep_startedParts, hlog], fun hc => hall ?_⟩, fun hs => ?_, hcaller⟩
  · cases hst : st.stop
    · rfl
    · simp [hkeep hst] at hs
  · rw [callerStep_worker] at hc
    exact hc.imp hundone id
  · rcases hraised hs with hst | hst
    · exact hdone (hstop hst)
    · exact hdone (hstopping hst)

theorem Handing.step (h : Handing setup st) : ∀ turn, Handing setup (step setup st turn)
  | .worker => h.workerStep
  | .caller t => h.callerStep t

theorem Handing.run (h : Handing setup st) (turns : List Turn) :
    Handing setup (run setup st turns) := by
  induction turns generalizing st with
  | nil => exact h
  | cons turn turns ih => exact ih (h.step turn)

/-- The parts handed on are those of the first records, in order, each once; once the worker
has delivered every record before the send is done, those of all the records. -/
theorem Handing.handed (h : Handing setup st) :
    ∃ handed, handed <+: setup.records ∧
      st.log.filterMap Happening.startedPart? = handed.filterMap (forwardedPart setup.session) ∧
      (st.done = false → st.worker.delivered = true → handed = setup.records) := by
  obtain ⟨⟨passed, handed, hplaced, hpre, hlog, hall⟩, hstop, -⟩ := h
  refine ⟨handed, hpre.trans hplaced.prefix, hlog, fun hd hdel => ?_⟩
  rw [hall (.inl hd)]
  -- a stream asked to stop belongs to a send that is done
  have hs : st.stop = false := by
    cases hst : st.stop
    · rfl
    · simp [hstop hst] at hd
  unfold Placed at hplaced
  cases hw : st.worker with
  | delivering rest =>
    rw [hw] at hplaced hdel
    cases rest with
    | nil => simpa using hplaced.symm
    | cons => simp [Worker.delivered] at hdel
  | ended =>
    rw [hw] at hplaced
    obtain ⟨rest, hrec, hrest⟩ := hplaced
    simpa [hrest hs] using hrec.symm
  | _ => simp [hw, Worker.delivered] at hdel

/-- What a streamed send hands on. Its record handler, reading at any depth, takes a record for
a part of the session exactly when the event read from the record at that depth is an update of
the session with that part, and that part is the one the update's part object reads to, with a
text delta in place of a text part's text. The handler raises exactly when the record's data
nests deeper than its reader follows. Until the send is done, the worker hands on exactly the
parts of the session that the records' events carry at the worker's depth, each once and in
order, the part callback returning before the next starts; in the order a scripted server
imposes, these are the parts the send returns. However the two threads interleave, the parts
handed on are those of the first records, in order and each once, and when the worker has
delivered every record before the send is done, those of all the records. -/
theorem streamed_send_forwards_session_parts (setup : Setup) :
    (∀ calls r p, handleAt calls setup.session r = .ok (.update (some p)) ↔
      ∃ mid d, Event.decodeAt calls r = .ok (.messagePartUpdated setup.session mid p d)) ∧
    (∀ calls r sid mid p d, Event.decodeAt calls r = .ok (.messagePartUpdated sid mid p d) →
      ∃ fs part q, Json.readAt calls r.data = .ok (.obj fs) ∧
        ((Json.Value.obj fs).objOr "properties").get? "part" = some (.obj part) ∧
        Part.decode (.obj part) = .ok q ∧
        d = ((Json.Value.obj fs).objOr "properties").optText "delta" ∧
        p = q.withDelta d ∧ sid = (Json.Value.obj part).textOr "sessionID") ∧
    (∀ calls r e, handleAt calls setup.session r = .error e ↔
      Json.readAt calls r.data = .error e ∧ e.isTooDeep = true) ∧
    (∀ k, 4 * setup.records.length ≤ k →
      (run setup (start setup) (List.replicate k .worker)).log =
        partCalls (setup.records.filterMap (forwardedPart setup.session))) ∧
    (reply setup (run setup (start setup) (serverOrder setup))).parts =
      setup.records.filterMap (forwardedPart setup.session) ∧
    (∀ turns, ∃ handed, handed <+: setup.records ∧
      (run setup (start setup) turns).log.filterMap Happening.startedPart? =
        handed.filterMap (forwardedPart setup.session) ∧
      ((run setup (start setup) turns).done = false →
        (run setup (start setup) turns).worker.delivered = true → handed = setup.records)) :=
  ⟨fun _ _ _ => handleAt_eq_update_iff, fun _ _ _ _ _ _ => decodeAt_partUpdated_delta,
    fun _ _ _ => handleAt_eq_error_iff, fun k hk => (run_workers_log k hk).2,
    serverOrder_parts setup, fun turns => ((handing_start setup).run turns).handed⟩

end Streaming

end AgentLink
