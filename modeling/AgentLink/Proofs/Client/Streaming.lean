import AgentLink.Client.Streaming

/-!
# A streamed send reports once, after its stream is stopped and its transport closed

What the caller of a streamed send does is seen in the log through the happenings that only it
causes (`Streaming.Happening.byCaller`): the stop of the stream, the close of the transport, and
the report. The worker only starts and ends part callbacks, and never moves the caller
(`Streaming.workerStep_frame`). Each place of the caller fixes
what it has caused so far (`Streaming.Caller.reported`), and every step keeps the log to that
(`Streaming.Reports`, `Streaming.reports_step`), so along every interleaving the caller has
caused a start of the stop, close, report sequence, and all of it once it has returned
(`Streaming.reports_run`).

The waits of the caller are bounded: each of its turns with a timeout moves it one place on
(`Streaming.callerStep_remaining`), so seven of them after any run end the send
(`Streaming.run_timeouts`).

`streamedSend_reports_once` puts these together: in every interleaving with the stream's worker,
whatever the stream delivers and however it ends, the caller reports the send's outcome exactly
once, after the stream was stopped and the transport closed, and returns the reply exactly when
the send returned one.

The part callbacks are another matter. The worker lets go of the done flag before it calls the
part callback, and the join may give up on it, so a part callback can start after the report
(`part_started_after_report`). It cannot when every join that gives up finds the worker neither
in nor about to call the part callback (`parts_settle_when_join_waits`).
-/

namespace AgentLink

namespace Streaming

/-- Whether the caller causes a happening: the stop of the stream, the close of the transport,
or a report. -/
def Happening.byCaller : Happening → Bool
  | .partStarted _ | .partEnded => false
  | _ => true

/-- The happenings the caller caused, in order. -/
def callerLog (log : List Happening) : List Happening :=
  log.filter Happening.byCaller

/-- What the caller has caused by the time it stands at a place. -/
def Caller.reported (setup : Setup) : Caller → List Happening
  | .closing => [.streamStopped]
  | .reporting => [.streamStopped, .transportClosed]
  | .finished _ => [.streamStopped, .transportClosed, setup.outcome.report]
  | _ => []

/-- The caller's part of the log is what its place says, and a returned caller returned the
send's reply, if any. -/
def Reports (setup : Setup) (st : State) : Prop :=
  callerLog st.log = st.caller.reported setup ∧
    ∀ r, st.caller = .finished r → r = setup.outcome.result

section

variable {setup : Setup} {st : State}

@[simp]
theorem callerLog_append (log more : List Happening) :
    callerLog (log ++ more) = callerLog log ++ callerLog more :=
  List.filter_append _ _

/-- Whether the worker is inside the part callback or about to call it. -/
def Worker.inCallback : Worker → Bool
  | .calling _ _ | .inPart _ => true
  | _ => false

/-- Whether the worker is inside the part callback. -/
def Worker.isInPart : Worker → Bool
  | .inPart _ => true
  | _ => false

/-- What one step of the worker can do. It never moves the caller or touches the done flag; and
it either leaves the log as it is, outside the part callback, going to call it only while the send
is not done, or it starts the part callback it was about to call, or it returns from it. -/
theorem workerStep_cases :
    (workerStep setup st).caller = st.caller ∧ (workerStep setup st).done = st.done ∧
    ((workerStep setup st).log = st.log ∧ st.worker.inCallback = false ∧
        (workerStep setup st).worker.isInPart = false ∧
        ((workerStep setup st).worker.inCallback = true → st.done = false) ∨
      (∃ p rest, st.worker = .calling p rest ∧ (workerStep setup st).worker = .inPart rest ∧
        (workerStep setup st).log = st.log ++ [.partStarted p]) ∨
      (∃ rest, st.worker = .inPart rest ∧ (workerStep setup st).worker = .delivering rest ∧
        (workerStep setup st).log = st.log ++ [.partEnded])) := by
  unfold workerStep
  split
  · -- a record: the stream stopped, or the record's role
    split
    · simp_all [State.finish, Worker.inCallback, Worker.isInPart]
    · split <;> simp_all [Worker.inCallback, Worker.isInPart]
  · -- no record left: how the stream ends
    split
    · simp_all [State.finish, Worker.inCallback, Worker.isInPart]
    · split <;> simp_all [State.finish, Worker.inCallback, Worker.isInPart]
  · -- the done flag, then the part
    split
    · simp_all [Worker.inCallback, Worker.isInPart]
    · split <;> simp_all [Worker.inCallback, Worker.isInPart]
  · next hw => exact ⟨rfl, rfl, .inr (.inl ⟨_, _, hw, rfl, rfl⟩)⟩
  · next hw => exact ⟨rfl, rfl, .inr (.inr ⟨_, hw, rfl, rfl⟩)⟩
  · simp_all [Worker.inCallback, Worker.isInPart]

/-- The worker never moves the caller, and adds nothing the caller causes to the log: it only
starts and ends part callbacks. -/
theorem workerStep_frame :
    (workerStep setup st).caller = st.caller ∧
      callerLog (workerStep setup st).log = callerLog st.log := by
  obtain ⟨hcaller, -, ⟨hlog, -⟩ | ⟨p, rest, -, -, hlog⟩ | ⟨rest, -, -, hlog⟩⟩ :=
    @workerStep_cases setup st
  · exact ⟨hcaller, by rw [hlog]⟩
  · exact ⟨hcaller, by simp [hlog, callerLog, Happening.byCaller]⟩
  · exact ⟨hcaller, by simp [hlog, callerLog, Happening.byCaller]⟩

theorem reports_workerStep (h : Reports setup st) : Reports setup (workerStep setup st) := by
  obtain ⟨hcaller, hlog⟩ := @workerStep_frame setup st
  rw [Reports, hlog, hcaller]
  exact h

/-- Each step of the caller causes what its next place says. -/
theorem reports_callerStep (t : Bool) (h : Reports setup st) :
    Reports setup (callerStep setup t st) := by
  obtain ⟨hlog, hres⟩ := h
  unfold callerStep
  split
  case h_1 hc => split <;> simp_all [Reports, Caller.reported]
  case h_2 hc => simp_all [Reports, Caller.reported]
  case h_3 hc => simp_all [Reports, Caller.reported]
  case h_4 hc => simp_all [Reports, Caller.reported]
  case h_5 hc =>
    split
    · refine ⟨?_, fun r hr => by cases hr⟩
      simp only [callerLog_append, hlog, hc, Caller.reported]
      rfl
    · simp_all [Reports, Caller.reported]
  case h_6 hc =>
    refine ⟨?_, fun r hr => by cases hr⟩
    simp only [callerLog_append, hlog, hc, Caller.reported]
    rfl
  case h_7 hc =>
    refine ⟨?_, fun r hr => ?_⟩
    · simp only [callerLog_append, hlog, hc, Caller.reported]
      cases setup.outcome <;> rfl
    · cases hr; rfl
  case h_8 r hc => exact ⟨hlog, hres⟩

theorem reports_step (h : Reports setup st) (turn : Turn) : Reports setup (step setup st turn) := by
  cases turn with
  | worker => exact reports_workerStep h
  | caller t => exact reports_callerStep t h

/-- Every interleaving keeps the caller's part of the log to its place. -/
theorem reports_run (turns : List Turn) (h : Reports setup st) :
    Reports setup (run setup st turns) := by
  induction turns generalizing st with
  | nil => exact h
  | cons turn turns ih => exact ih (reports_step h turn)

theorem reports_start : Reports setup (start setup) :=
  ⟨rfl, fun _ h => by cases h⟩

/-- How many places the caller has still to pass before it returns. -/
def Caller.remaining : Caller → Nat
  | .handshake => 7
  | .sending => 6
  | .marking => 5
  | .stopping => 4
  | .joining => 3
  | .closing => 2
  | .reporting => 1
  | .finished _ => 0

theorem Caller.remaining_eq_zero {c : Caller} (h : c.remaining = 0) : ∃ r, c = .finished r := by
  cases c <;> simp_all [Caller.remaining]

/-- A turn of the caller with a timeout moves it one place on: its waits are bounded. -/
theorem callerStep_remaining :
    (callerStep setup true st).caller.remaining = st.caller.remaining - 1 := by
  unfold callerStep
  split <;> simp_all [Caller.remaining]

/-- After `k` turns of the caller with a timeout, it has `k` places fewer to pass. -/
theorem run_timeouts (k : Nat) :
    (run setup st (List.replicate k (.caller true))).caller.remaining =
      st.caller.remaining - k := by
  induction k generalizing st with
  | zero => rfl
  | succ k ih =>
    rw [List.replicate_succ, run, List.foldl_cons, ← run, ih, step, callerStep_remaining]
    omega

theorem run_append (turns more : List Turn) :
    run setup st (turns ++ more) = run setup (run setup st turns) more :=
  List.foldl_append

end

/-- A streamed send reports its outcome exactly once, after its stream is stopped and its
transport closed. In every interleaving of the caller with the stream's worker, whatever records
the stream delivers and however it ends, the happenings the caller causes are a start of the
stop of the stream, the close of the transport and the report of the send's outcome, and all
three once the caller has returned, with the reply exactly when the send returned one. The
report is the completion callback with the reply when the send returned one, and otherwise the
error callback, with the text of an error of the library, or the text or else the class's name
of any other exception; so the stream never changes which callback runs. Seven more turns of the
caller with a timeout, after any interleaving, end the send. -/
theorem streamedSend_reports_once (setup : Setup) (turns : List Turn) :
    callerLog (run setup (start setup) turns).log <+:
      [.streamStopped, .transportClosed, setup.outcome.report] ∧
    (∀ r, (run setup (start setup) turns).caller = .finished r →
      r = setup.outcome.result ∧
      callerLog (run setup (start setup) turns).log =
        [.streamStopped, .transportClosed, setup.outcome.report]) ∧
    (run setup (start setup) (turns ++ List.replicate 7 (.caller true))).caller =
      .finished setup.outcome.result := by
  obtain ⟨hlog, hres⟩ := reports_run turns (reports_start : Reports setup (start setup))
  refine ⟨?_, fun r hr => ⟨hres r hr, by rw [hlog, hr]; rfl⟩, ?_⟩
  · -- each place of the caller has caused a start of the whole sequence
    rw [hlog]
    cases (run setup (start setup) turns).caller <;> simp [Caller.reported]
  · have hend := reports_run (turns ++ List.replicate 7 (.caller true))
      (reports_start : Reports setup (start setup))
    have left : (run setup (start setup) (turns ++ List.replicate 7 (.caller true))).caller.remaining
        = 0 := by
      rw [run_append, run_timeouts]
      have : (run setup (start setup) turns).caller.remaining ≤ 7 := by
        cases (run setup (start setup) turns).caller <;> simp [Caller.remaining]
      omega
    obtain ⟨r, hr⟩ := Caller.remaining_eq_zero left
    rw [hr, hend.2 r hr]

/-! ## A part callback after the report

The worker reads the done flag and lets go of it before it calls the part callback, and the
caller's join of the worker may give up. Between the two, the caller can run to its report: the
part callback then starts after it.
-/

/-- Whether, from a point where `running` part callbacks have started and not returned, no part
callback is running when the report starts and none starts after it. -/
def partsSettledFrom (running : Nat) : List Happening → Bool
  | [] => true
  | .partStarted _ :: hs => partsSettledFrom (running + 1) hs
  | .partEnded :: hs => partsSettledFrom (running - 1) hs
  | .completed _ :: hs | .failed _ :: hs =>
    running == 0 && hs.all fun h => h.startedPart?.isNone
  | _ :: hs => partsSettledFrom running hs

/-- A record that updates a text part of the session `s`. -/
def partUpdate : Sse.Record :=
  { data := "\x7b\"type\":\"message.part.updated\",\"properties\":\x7b\"part\":\x7b\"id\":\"p\",\"sessionID\":\"s\",\"type\":\"text\",\"text\":\"hi\"\x7d\x7d\x7d" }

/-- A streamed send for the session `s` whose stream carries one part update and ends, and whose
send returns. -/
def lateSetup : Setup :=
  { session := "s", records := [partUpdate], ending := .closed none
    outcome := .returned { info := .user {} } }

/-- The worker reads the update and finds the send not done; the caller then sends, marks the
send done, stops the stream, gives up waiting for the worker, closes the transport and reports;
and only then does the worker call the part callback. -/
def lateOrder : List Turn :=
  [.worker, .worker] ++ List.replicate 7 (.caller true) ++ [.worker]

/-- A part callback can start after the report: in this interleaving the caller stops the
stream, closes the transport and reports the reply, and the part callback starts after all
three. -/
theorem part_started_after_report :
    (run lateSetup (start lateSetup) lateOrder).log.map Happening.byCaller =
      [true, true, true, false] ∧
    ((run lateSetup (start lateSetup) lateOrder).log.filterMap Happening.startedPart?).length = 1 ∧
    partsSettledFrom 0 (run lateSetup (start lateSetup) lateOrder).log = false := by
  decide +kernel

/-! ## Part callbacks before the report, when the join waits

The done flag stops every part callback the worker has not yet decided on, so only a callback
already past the flag can run late, and only if the join gives up on it. When it never does
(`joinWaits`), every part callback has returned when the report starts and none starts after
(`parts_settle_when_join_waits`). The invariant (`Settles`) counts the part callbacks running
(`openAfter`) against the worker's place.
-/

/-- Whether a happening is a report. -/
def Happening.isReport : Happening → Bool
  | .completed _ | .failed _ => true
  | _ => false

/-- The number of part callbacks running after a log, from `running` before it. -/
def openAfter (running : Nat) : List Happening → Nat
  | [] => running
  | .partStarted _ :: hs => openAfter (running + 1) hs
  | .partEnded :: hs => openAfter (running - 1) hs
  | _ :: hs => openAfter running hs

theorem openAfter_append (running : Nat) (log more : List Happening) :
    openAfter running (log ++ more) = openAfter (openAfter running log) more := by
  induction log generalizing running with
  | nil => rfl
  | cons h log ih => cases h <;> exact ih _

/-- Before its first report, a log leaves the check of the part callbacks to what follows, with
the callbacks it leaves running. -/
theorem partsSettledFrom_append {running : Nat} {log : List Happening}
    (h : log.all (fun h => !h.isReport) = true) (rest : List Happening) :
    partsSettledFrom running (log ++ rest) = partsSettledFrom (openAfter running log) rest := by
  induction log generalizing running with
  | nil => rfl
  | cons x log ih =>
    simp only [List.all_cons, Bool.and_eq_true] at h
    cases x with
    | completed m => simp [Happening.isReport] at h
    | failed msg => simp [Happening.isReport] at h
    | partStarted p => exact ih h.2
    | partEnded => exact ih h.2
    | streamStopped => exact ih h.2
    | transportClosed => exact ih h.2

/-- Whether the caller's join, whenever it gives up in a run of turns, finds no part callback
running or about to start. -/
def joinWaits (setup : Setup) : State → List Turn → Bool
  | _, [] => true
  | st, .caller true :: turns =>
    !(st.caller.remaining == 3 && st.worker.inCallback) &&
      joinWaits setup (callerStep setup true st) turns
  | st, turn :: turns => joinWaits setup (step setup st turn) turns

/-- What keeps the part callbacks before the report while the join waits: before the report
the log holds no report and as many running part callbacks as the worker is inside; from the
stop of the stream on, the send is done; once the join has returned, the worker is neither in
nor about to call the part callback; and a returned caller's log ends with its report, with no
part callback running at it. -/
structure Settles (setup : Setup) (st : State) : Prop where
  before : 0 < st.caller.remaining →
    st.log.all (fun h => !h.isReport) = true ∧
      openAfter 0 st.log = if st.worker.isInPart then 1 else 0
  done : st.caller.remaining ≤ 4 → st.done = true
  joined : st.caller.remaining ≤ 2 → st.worker.inCallback = false
  after : st.caller.remaining = 0 → ∃ pre, st.log = pre ++ [setup.outcome.report] ∧
    pre.all (fun h => !h.isReport) = true ∧ openAfter 0 pre = 0

section

variable {setup : Setup} {st : State}

theorem Worker.isInPart_of_inCallback {w : Worker} (h : w.inCallback = false) :
    w.isInPart = false := by
  cases w <;> simp_all [Worker.inCallback, Worker.isInPart]

theorem settles_start : Settles setup (start setup) where
  before _ := ⟨rfl, rfl⟩
  done h := by simp [start, Caller.remaining] at h
  joined h := by simp [start, Caller.remaining] at h
  after h := by simp [start, Caller.remaining] at h

/-- A step of the worker keeps the part callbacks counted; one it starts comes before the join
returns, as it was past the done flag before the send was done. -/
theorem settles_workerStep (h : Settles setup st) : Settles setup (workerStep setup st) := by
  obtain ⟨hcaller, hdone, quiet | ⟨p, rest, hw, hw', hlog⟩ | ⟨rest, hw, hw', hlog⟩⟩ :=
    @workerStep_cases setup st
  · obtain ⟨hlog, hout, hnew, hcall⟩ := quiet
    refine ⟨fun hr => ?_, fun hr => ?_, fun hr => ?_, fun hr => ?_⟩
    · rw [hcaller] at hr
      obtain ⟨hall, hopen⟩ := h.before hr
      rw [hlog, hnew, hopen, Worker.isInPart_of_inCallback hout]
      exact ⟨hall, rfl⟩
    · exact hdone.trans (h.done (hcaller ▸ hr))
    · -- a callback about to start would have found the send not done
      rw [hcaller] at hr
      cases hin : (workerStep setup st).worker.inCallback
      · rfl
      · have := h.done (by omega)
        rw [hcall hin] at this
        cases this
    · rw [hlog]; exact h.after (hcaller ▸ hr)
  all_goals
    -- inside or about to call the part callback, so the join has not returned
    have busy : 2 < st.caller.remaining := by
      refine Nat.lt_of_not_le fun hle => ?_
      have := h.joined hle
      simp [hw, Worker.inCallback] at this
    obtain ⟨hall, hopen⟩ := h.before (by omega)
    refine ⟨fun _ => ?_, fun hr => hdone.trans (h.done (hcaller ▸ hr)),
      fun hr => absurd (hcaller ▸ hr) (by omega), fun hr => absurd (hcaller ▸ hr) (by omega)⟩
    rw [hlog, hw', openAfter_append, hopen, List.all_append, hall]
    simp [hw, Worker.isInPart, Happening.isReport, openAfter]

/-- Until the join returns, the part callbacks are kept before the report by their count alone
and, from the stop of the stream on, by the done flag. -/
theorem Settles.of_unjoined {st' : State} (hr : 2 < st'.caller.remaining)
    (hbefore : st'.log.all (fun h => !h.isReport) = true ∧
      openAfter 0 st'.log = if st'.worker.isInPart then 1 else 0)
    (hdone : st'.caller.remaining ≤ 4 → st'.done = true) : Settles setup st' :=
  ⟨fun _ => hbefore, hdone, fun h2 => absurd h2 (by omega), fun h0 => absurd h0 (by omega)⟩

/-- The caller appending a stop or a close keeps the count of running part callbacks. -/
theorem openAfter_caller_append (log : List Happening) {x : Happening}
    (hx : x = .streamStopped ∨ x = .transportClosed) :
    openAfter 0 (log ++ [x]) = openAfter 0 log ∧
      ((log ++ [x]).all fun h => !h.isReport) = (log.all fun h => !h.isReport) := by
  rcases hx with rfl | rfl <;> simp [openAfter_append, openAfter, Happening.isReport]

/-- A step of the caller keeps the part callbacks before the report, as long as a join that
gives up finds no part callback running or about to start. -/
theorem settles_callerStep (t : Bool)
    (hsafe : t = true → ¬(st.caller.remaining = 3 ∧ st.worker.inCallback = true))
    (h : Settles setup st) : Settles setup (callerStep setup t st) := by
  unfold callerStep
  split
  case h_1 hc =>
    split
    · exact .of_unjoined (by simp [Caller.remaining]) (h.before (by rw [hc]; decide))
        fun hr => by simp [Caller.remaining] at hr
    · exact h
  case h_2 hc =>
    exact .of_unjoined (by simp [Caller.remaining]) (h.before (by rw [hc]; decide))
      fun hr => by simp [Caller.remaining] at hr
  case h_3 hc =>
    -- the send is marked done
    exact .of_unjoined (by simp [Caller.remaining]) (h.before (by rw [hc]; decide)) fun _ => rfl
  case h_4 hc =>
    exact .of_unjoined (by simp [Caller.remaining]) (h.before (by rw [hc]; decide))
      fun _ => h.done (by rw [hc]; decide)
  case h_5 hc =>
    split
    · next hjoin =>
      -- the join returns on an ended worker, or gives up on one outside the part callback
      obtain ⟨hall, hopen⟩ := h.before (by rw [hc]; decide)
      obtain ⟨happ, hall'⟩ := openAfter_caller_append st.log (.inl rfl)
      have idle : st.worker.inCallback = false := by
        cases hend : st.worker.isEnded
        · rw [hend, Bool.false_or] at hjoin
          cases hin : st.worker.inCallback
          · rfl
          · exact absurd ⟨by rw [hc]; rfl, hin⟩ (hsafe hjoin)
        · cases hw : st.worker <;> simp_all [Worker.isEnded, Worker.inCallback]
      exact ⟨fun _ => ⟨hall' ▸ hall, happ ▸ hopen⟩, fun _ => h.done (by rw [hc]; decide),
        fun _ => idle, fun hr => (by simp [Caller.remaining] at hr)⟩
    · exact h
  case h_6 hc =>
    obtain ⟨hall, hopen⟩ := h.before (by rw [hc]; decide)
    obtain ⟨happ, hall'⟩ := openAfter_caller_append st.log (.inr rfl)
    exact ⟨fun _ => ⟨hall' ▸ hall, happ ▸ hopen⟩, fun _ => h.done (by rw [hc]; decide),
      fun _ => h.joined (by rw [hc]; decide), fun hr => (by simp [Caller.remaining] at hr)⟩
  case h_7 hc =>
    -- the report: no part callback is running, since the join has returned
    obtain ⟨hall, hopen⟩ := h.before (by rw [hc]; decide)
    have idle := h.joined (by rw [hc]; decide)
    rw [Worker.isInPart_of_inCallback idle] at hopen
    exact ⟨fun hr => (by simp [Caller.remaining] at hr), fun _ => h.done (by rw [hc]; decide),
      fun _ => idle, fun _ => ⟨st.log, rfl, hall, hopen⟩⟩
  case h_8 => exact h

/-- Every run whose join never gives up on a part callback keeps the part callbacks before the
report. -/
theorem settles_run (turns : List Turn) (hw : joinWaits setup st turns = true)
    (h : Settles setup st) : Settles setup (run setup st turns) := by
  induction turns generalizing st with
  | nil => exact h
  | cons turn turns ih =>
    cases turn with
    | worker => exact ih hw (settles_workerStep h)
    | caller t =>
      cases t with
      | false => exact ih hw (settles_callerStep false (fun hf => by cases hf) h)
      | true =>
        simp only [joinWaits, Bool.and_eq_true] at hw
        refine ih hw.2 (settles_callerStep true (fun _ ⟨h3, hin⟩ => ?_) h)
        simp [h3, hin] at hw

end

/-- When the join never gives up on a part callback, the part callbacks come before the report.
In every interleaving of the caller with the stream's worker in which each join that gives up
finds the worker neither inside the part callback nor about to call it, no part callback is
running when the report starts and none starts after it. -/
theorem parts_settle_when_join_waits (setup : Setup) (turns : List Turn)
    (hwait : joinWaits setup (start setup) turns = true) :
    partsSettledFrom 0 (run setup (start setup) turns).log = true := by
  have h := settles_run turns hwait settles_start
  by_cases hfin : (run setup (start setup) turns).caller.remaining = 0
  · -- the caller has reported, with no part callback running
    obtain ⟨pre, hlog, hall, hopen⟩ := h.after hfin
    rw [hlog, partsSettledFrom_append hall, hopen]
    cases setup.outcome <;> rfl
  · -- no report yet
    obtain ⟨hall, -⟩ := h.before (Nat.pos_of_ne_zero hfin)
    rw [← List.append_nil (run setup (start setup) turns).log, partsSettledFrom_append hall]
    rfl

/-- In the order a scripted server imposes, the join waits, and the part callback of the
stream's update returns before the report. -/
theorem parts_settle_in_server_order :
    joinWaits lateSetup (start lateSetup) (serverOrder lateSetup) = true ∧
    partsSettledFrom 0 (run lateSetup (start lateSetup) (serverOrder lateSetup)).log = true :=
  ⟨by decide +kernel, parts_settle_when_join_waits _ _ (by decide +kernel)⟩


end Streaming

end AgentLink
