import Mathlib
import AgentLink.Proofs.Http.KeepAlive

/-!
# What one step of a stream's worker keeps

A stream's worker moves by `Stream.workerStep`, and `Stream.Moves` says place by place all that
one of its steps does (`Stream.moves`, `Stream.Moves.workerStep_eq`); every lemma below reads a
step through it and never unfolds the step itself. A stop (`Stream.stopStep`) only raises the
stop flag and marks the subscription closing.

Three invariants are kept by every step of either kind.

* `Stream.StateFits`: where the subscription stands against how far the worker has come. It
  is closed once the worker marked it so, closing after a stop before then, and connecting or
  open otherwise; hence the state never moves back (`Stream.StateFits.rank_le`).
* `Stream.LogFits`: the handlers' calls are the records, then the error, then the close, which
  comes only as the worker ends (`Stream.Worker.stage`), and no error before the report.
* `Stream.PlaceFits`: what the worker's place says of the log against the server's answer.
  Reading a body (`Stream.Feeding`), the records handed on are a prefix of those the chunks read
  complete, and all of them but the ones still pending when no stop was asked for; once reading
  is over (`Stream.Finished`) they are a prefix of the answer's records (`Stream.Setup.records`),
  all of them without a stop; the error the worker ends with is the answer's
  (`Stream.Setup.error`), or none after a stop (`Stream.Carries`); and the error handler was
  called with it, or not at all after a stop (`Stream.Reported`).

The keep-alive comments of a held body complete no record twice
(`Http.feed_keepAlive_again`), which is what lets a held body be read forever within
`Stream.Feeding`.
-/

namespace AgentLink.Http

/-- Whether the server holds a body open after its chunks. -/
def BodyEnd.isHeld : BodyEnd → Bool
  | .held => true
  | _ => false

theorem StreamState.rank_le_closed (s : StreamState) : s.rank ≤ StreamState.closed.rank := by
  cases s <;> decide

namespace Stream

/-! ## Reading the log -/

/-- The record a call of the record handler hands on. -/
def Happening.record? : Happening → Option Sse.Record
  | .record r => some r
  | _ => none

/-- The message a call of the error handler hands on. -/
def Happening.error? : Happening → Option String
  | .error m => some m
  | _ => none

/-- The records handed to the record handler, in order. -/
def recordsOf (log : List Happening) : List Sse.Record :=
  log.filterMap Happening.record?

/-- The messages the error handler was called with, in order. -/
def errorsOf (log : List Happening) : List String :=
  log.filterMap Happening.error?

@[simp] theorem recordsOf_nil : recordsOf [] = [] := rfl

@[simp] theorem errorsOf_nil : errorsOf [] = [] := rfl

@[simp] theorem recordsOf_append (l₁ l₂ : List Happening) :
    recordsOf (l₁ ++ l₂) = recordsOf l₁ ++ recordsOf l₂ :=
  List.filterMap_append

@[simp] theorem errorsOf_append (l₁ l₂ : List Happening) :
    errorsOf (l₁ ++ l₂) = errorsOf l₁ ++ errorsOf l₂ :=
  List.filterMap_append

@[simp] theorem recordsOf_record (r : Sse.Record) : recordsOf [.record r] = [r] := rfl

@[simp] theorem recordsOf_error (m : String) : recordsOf [.error m] = [] := rfl

@[simp] theorem recordsOf_close : recordsOf [.close] = [] := rfl

@[simp] theorem errorsOf_record (r : Sse.Record) : errorsOf [.record r] = [] := rfl

@[simp] theorem errorsOf_error (m : String) : errorsOf [.error m] = [m] := rfl

@[simp] theorem errorsOf_close : errorsOf [.close] = [] := rfl

@[simp] theorem recordsOf_map_record (rs : List Sse.Record) : recordsOf (rs.map .record) = rs := by
  induction rs with
  | nil => rfl
  | cons r rs ih => simpa [recordsOf, Happening.record?] using ih

@[simp] theorem errorsOf_map_record (rs : List Sse.Record) : errorsOf (rs.map .record) = [] := by
  induction rs with
  | nil => rfl
  | cons r rs ih => simp [errorsOf, Happening.error?]

@[simp] theorem recordsOf_map_error (ms : List String) : recordsOf (ms.map .error) = [] := by
  induction ms with
  | nil => rfl
  | cons m ms ih => simp [recordsOf, Happening.record?]

@[simp] theorem errorsOf_map_error (ms : List String) : errorsOf (ms.map .error) = ms := by
  induction ms with
  | nil => rfl
  | cons m ms ih => simpa [errorsOf, Happening.error?] using ih

/-! ## What one step does -/

/-- How far the worker has come: sending the request (0), checking the response (1), reading the
body (2), marking the subscription closed (3), reporting its error (4), calling the close handler
(5), ended (6). -/
def Worker.stage : Worker → Nat
  | .connecting => 0
  | .checking _ _ => 1
  | .reading _ _ _ | .delivering _ _ _ _ | .calling _ _ _ _ _ | .inRecord _ _ _ _ => 2
  | .finishing _ => 3
  | .reporting _ => 4
  | .closing => 5
  | .ended => 6

/-- What one step of the worker does, place by place: `Moves setup st st'` when the step takes
`st` to `st'`. -/
inductive Moves (setup : Setup) (st : State) : State → Prop
  | failed {e : String} : st.worker = .connecting → setup.answer = .failed e →
      Moves setup st { st with worker := .finishing (reason e) }
  | responded {status : Nat} {body : Body} : st.worker = .connecting →
      setup.answer = .responded status body →
      Moves setup st
        { st with worker := .checking status body, state := if st.stop then st.state else .open }
  | checkStopped {status : Nat} {body : Body} : st.worker = .checking status body →
      st.stop = true → Moves setup st { st with worker := .finishing none }
  | rejected {status : Nat} {body : Body} : st.worker = .checking status body →
      st.stop = false → success status = false →
      Moves setup st { st with worker := .finishing (some (rejectedText status)) }
  | accepted {status : Nat} {body : Body} : st.worker = .checking status body →
      st.stop = false → success status = true →
      Moves setup st { st with worker := .reading body.chunks body.ending {} }
  | readStopped {c : List UInt8} {cs : List (List UInt8)} {e : BodyEnd} {p : Sse.Parser} :
      st.worker = .reading (c :: cs) e p → st.stop = true →
      Moves setup st { st with worker := .finishing none }
  | fed {c : List UInt8} {cs : List (List UInt8)} {e : BodyEnd} {p : Sse.Parser} :
      st.worker = .reading (c :: cs) e p → st.stop = false →
      Moves setup st
        { st with worker := .delivering (p.feed (.bytes c)).1 cs e (p.feed (.bytes c)).2 }
  | completed {p : Sse.Parser} : st.worker = .reading [] .complete p →
      Moves setup st { st with worker := .finishing none }
  | broke {er : NetError} {p : Sse.Parser} : st.worker = .reading [] (.broken er) p →
      Moves setup st { st with worker := .finishing (reason er.text) }
  | heldStopped {p : Sse.Parser} : st.worker = .reading [] .held p → st.stop = true →
      Moves setup st { st with worker := .finishing none }
  | keptAlive {p : Sse.Parser} : st.worker = .reading [] .held p → st.stop = false →
      Moves setup st
        { st with worker := .delivering (p.feed (.bytes keepAlive)).1 [] .held
                                        (p.feed (.bytes keepAlive)).2 }
  | skipped {r : Sse.Record} {rs : List Sse.Record} {cs : List (List UInt8)} {e : BodyEnd}
      {p : Sse.Parser} : st.worker = .delivering (r :: rs) cs e p → st.stop = true →
      Moves setup st { st with worker := .delivering rs cs e p }
  | checked {r : Sse.Record} {rs : List Sse.Record} {cs : List (List UInt8)} {e : BodyEnd}
      {p : Sse.Parser} : st.worker = .delivering (r :: rs) cs e p → st.stop = false →
      Moves setup st { st with worker := .calling r rs cs e p }
  | delivered {cs : List (List UInt8)} {e : BodyEnd} {p : Sse.Parser} :
      st.worker = .delivering [] cs e p → Moves setup st { st with worker := .reading cs e p }
  | called {r : Sse.Record} {rs : List Sse.Record} {cs : List (List UInt8)} {e : BodyEnd}
      {p : Sse.Parser} : st.worker = .calling r rs cs e p →
      Moves setup st
        { st.call (.record r) setup.handlers.record recordFailedText with
          worker := .inRecord rs cs e p }
  | returned {rs : List Sse.Record} {cs : List (List UInt8)} {e : BodyEnd} {p : Sse.Parser} :
      st.worker = .inRecord rs cs e p → Moves setup st { st with worker := .delivering rs cs e p }
  | finished {err : Option String} : st.worker = .finishing err →
      Moves setup st { st with worker := .reporting err, state := .closed }
  | reportStopped {m : String} : st.worker = .reporting (some m) → st.stop = true →
      Moves setup st { st with worker := .closing }
  | reported {m : String} : st.worker = .reporting (some m) → st.stop = false →
      Moves setup st { st.call (.error m) setup.handlers.error errorFailedText with worker := .closing }
  | unreported : st.worker = .reporting none → Moves setup st { st with worker := .closing }
  | closed : st.worker = .closing →
      Moves setup st { st.call .close setup.handlers.close closeFailedText with worker := .ended }
  | ended : st.worker = .ended → Moves setup st st

/-- The worker's step moves as `Moves` says. -/
theorem moves (setup : Setup) (st : State) : Moves setup st (workerStep setup st) := by
  fun_cases workerStep setup st
  case case1 hw _ ha => exact .failed hw ha
  case case2 hw _ _ ha => exact .responded hw ha
  case case3 hw hs => exact .checkStopped hw hs
  case case4 hw hs hr => exact .rejected hw (by simpa using hs) (by simpa using hr)
  case case5 hw hs hr => exact .accepted hw (by simpa using hs) (by simpa using hr)
  case case6 hw hs => exact .readStopped hw hs
  case case7 hw hs => exact .fed hw (by simpa using hs)
  case case8 hw => exact .completed hw
  case case9 hw => exact .broke hw
  case case10 hw hs => exact .heldStopped hw hs
  case case11 hw hs => exact .keptAlive hw (by simpa using hs)
  case case12 hw hs => exact .skipped hw hs
  case case13 hw hs => exact .checked hw (by simpa using hs)
  case case14 hw => exact .delivered hw
  case case15 => exact .called ‹_›
  case case16 hw => exact .returned hw
  case case17 hw => exact .finished hw
  case case18 hw hs => exact .reportStopped hw hs
  case case19 => exact .reported ‹_› (by simpa using ‹¬st.stop = true›)
  case case20 hw => exact .unreported hw
  case case21 => exact .closed ‹_›
  case case22 hw => exact .ended hw

namespace Moves

variable {setup : Setup} {st st' : State}

/-- The worker's step is the one `Moves` names: `Moves` says all that a step does. -/
theorem workerStep_eq (h : Moves setup st st') : workerStep setup st = st' := by
  cases h <;> simp [workerStep, *]

theorem stop_eq (h : Moves setup st st') : st'.stop = st.stop := by
  cases h <;> rfl

end Moves

/-! ## Runs -/

section Runs

variable {setup : Setup}

@[simp] theorem run_nil (st : State) : run setup st [] = st := rfl

@[simp] theorem run_cons (st : State) (t : Turn) (ts : List Turn) :
    run setup st (t :: ts) = run setup (step setup st t) ts := rfl

theorem run_append (st : State) (ts₁ ts₂ : List Turn) :
    run setup st (ts₁ ++ ts₂) = run setup (run setup st ts₁) ts₂ :=
  List.foldl_append

/-- What every step keeps, every run keeps. -/
theorem run_preserves {P : State → Prop} (h : ∀ st t, P st → P (step setup st t)) :
    ∀ (turns : List Turn) (st : State), P st → P (run setup st turns)
  | [], _, hp => hp
  | t :: ts, st, hp => run_preserves h ts (step setup st t) (h st t hp)

@[simp] theorem stopStep_worker (st : State) : (stopStep st).worker = st.worker := rfl

@[simp] theorem stopStep_log (st : State) : (stopStep st).log = st.log := rfl

@[simp] theorem stopStep_stop (st : State) : (stopStep st).stop = true := rfl

@[simp] theorem workerStep_stop (st : State) : (workerStep setup st).stop = st.stop :=
  (moves setup st).stop_eq

/-- A stop, once asked for, stays asked for. -/
theorem step_stop {st : State} (h : st.stop = true) (t : Turn) : (step setup st t).stop = true := by
  cases t <;> simp [step, h]

/-- A worker that ended stays ended, and calls no handler again. -/
theorem run_ended {st : State} (h : st.worker = .ended) (turns : List Turn) :
    (run setup st turns).worker = .ended ∧ (run setup st turns).log = st.log := by
  refine run_preserves (P := fun s => s.worker = .ended ∧ s.log = st.log) (fun s t hs => ?_) turns
    st ⟨h, rfl⟩
  cases t with
  | stop => exact hs
  | worker => rw [step, (Moves.ended hs.1).workerStep_eq]; exact hs

end Runs

/-! ## Where the subscription stands -/

/-- Where the subscription stands, against how far the worker has come and whether a stop was
asked for: closed once the worker marked it so, closing after a stop until then, and otherwise
connecting or open. -/
structure StateFits (st : State) : Prop where
  closed : 4 ≤ st.worker.stage → st.state = .closed
  stopped : st.worker.stage < 4 → st.stop = true → st.state = .closing
  early : st.worker.stage < 4 → st.stop = false → st.state.rank ≤ 1

namespace StateFits

variable {setup : Setup} {st st' : State}

theorem init : StateFits {} :=
  ⟨fun h => by simp [Worker.stage] at h, fun _ h => by simp at h, fun _ _ => by decide⟩

/-- A step that leaves the state and the stop alone, and the worker on the same side of its
mark, keeps the fit. -/
theorem of_frame (h : StateFits st) (hs : st'.state = st.state) (hstop : st'.stop = st.stop)
    (hlt : st'.worker.stage < 4 ↔ st.worker.stage < 4) : StateFits st' := by
  refine ⟨fun h4 => ?_, fun h4 hst => ?_, fun h4 hst => ?_⟩
  · rw [hs]; exact h.closed (by omega)
  · rw [hs]; exact h.stopped (hlt.1 h4) (hstop ▸ hst)
  · rw [hs]; exact h.early (hlt.1 h4) (hstop ▸ hst)

theorem moves (h : StateFits st) (hm : Moves setup st st') : StateFits st' := by
  cases hm
  case responded hw _ =>
    have h0 : st.worker.stage = 0 := by simp [hw, Worker.stage]
    refine ⟨fun h4 => by simp [Worker.stage] at h4, fun _ hs => ?_, fun _ hs => ?_⟩
    · simp only at hs ⊢
      rw [if_pos hs]
      exact h.stopped (by omega) hs
    · simp only at hs ⊢
      rw [if_neg (by simp [hs])]
      decide
  case finished =>
    exact ⟨fun _ => rfl, fun h4 => by simp [Worker.stage] at h4,
      fun h4 => by simp [Worker.stage] at h4⟩
  all_goals exact h.of_frame rfl rfl (by simp [Worker.stage, *])

theorem stopStep (h : StateFits st) : StateFits (stopStep st) := by
  refine ⟨fun h4 => ?_, fun h4 _ => ?_, fun _ hs => by simp at hs⟩
  · simp [Stream.stopStep, h.closed h4]
  · -- before the worker marks it closed, the subscription is not closed
    have hne : st.state ≠ .closed := by
      cases hs : st.stop
      · have := h.early h4 hs
        intro hc
        simp [hc, StreamState.rank] at this
      · simp [h.stopped h4 hs]
    simp [Stream.stopStep, hne]

theorem step (h : StateFits st) (t : Turn) : StateFits (Stream.step setup st t) := by
  cases t with
  | worker => exact h.moves (Stream.moves setup st)
  | stop => exact h.stopStep

theorem rank_le_moves (h : StateFits st) (hm : Moves setup st st') :
    st.state.rank ≤ st'.state.rank := by
  cases hm
  case responded hw _ =>
    -- the worker marks the subscription open only where it is connecting or open
    have h0 : st.worker.stage = 0 := by simp [hw, Worker.stage]
    cases hs : st.stop
    · have := h.early (by omega) hs
      simp only [Bool.false_eq_true, if_false]
      exact this
    · simp
  case finished => exact StreamState.rank_le_closed _
  all_goals exact le_refl _

/-- The subscription's state never moves back. -/
theorem rank_le (h : StateFits st) (t : Turn) :
    st.state.rank ≤ (Stream.step setup st t).state.rank := by
  cases t with
  | stop => cases hc : st.state <;> simp [Stream.step, Stream.stopStep, hc, StreamState.rank]
  | worker => exact h.rank_le_moves (Stream.moves setup st)

end StateFits

/-! ## The order of the handlers' calls -/

/-- The handlers' calls stand in the order the contract asks: the records, then the error once the
worker reported it, then the close once the worker ended. -/
structure LogFits (st : State) : Prop where
  shape : st.log = (recordsOf st.log).map .record ++ (errorsOf st.log).map .error ++
    (if st.worker.stage = 6 then [.close] else [])
  unreported : st.worker.stage < 5 → errorsOf st.log = []

namespace LogFits

variable {setup : Setup} {st st' : State}

theorem init : LogFits {} :=
  ⟨rfl, fun _ => rfl⟩

theorem of_frame (h : LogFits st) (hl : st'.log = st.log)
    (h6 : st'.worker.stage = 6 ↔ st.worker.stage = 6)
    (h5 : st'.worker.stage < 5 → st.worker.stage < 5) : LogFits st' := by
  refine ⟨?_, fun hlt => hl ▸ h.unreported (h5 hlt)⟩
  rw [hl, if_congr h6 rfl rfl]
  exact h.shape

/-- Before the worker ends, the log holds the records handed on and then the errors reported. -/
theorem shape_of_unended (h : LogFits st) (h6 : st.worker.stage ≠ 6) :
    st.log = (recordsOf st.log).map .record ++ (errorsOf st.log).map .error := by
  have hshape := h.shape
  rwa [if_neg h6, List.append_nil] at hshape

/-- Before the worker reports its error, the log holds only the records handed on. -/
theorem shape_of_unreported (h : LogFits st) (h5 : st.worker.stage < 5) :
    st.log = (recordsOf st.log).map .record := by
  have hshape := h.shape_of_unended (by omega)
  rwa [h.unreported h5, List.map_nil, List.append_nil] at hshape

theorem moves (h : LogFits st) (hm : Moves setup st st') : LogFits st' := by
  cases hm
  case called hw =>
    have h2 : st.worker.stage = 2 := by simp [hw, Worker.stage]
    have hshape := h.shape_of_unreported (by omega)
    have herr := h.unreported (by omega)
    refine ⟨?_, fun _ => ?_⟩
    · simp only [State.call, recordsOf_append, recordsOf_record, errorsOf_append, errorsOf_record,
        herr, Worker.stage]
      conv_lhs => rw [hshape]
      simp
    · simp [State.call, herr]
  case reported hw _ =>
    have h4 : st.worker.stage = 4 := by simp [hw, Worker.stage]
    have hshape := h.shape_of_unreported (by omega)
    have herr := h.unreported (by omega)
    refine ⟨?_, fun h5 => by simp [Worker.stage] at h5⟩
    simp only [State.call, recordsOf_append, recordsOf_error, errorsOf_append, errorsOf_error, herr,
      Worker.stage]
    conv_lhs => rw [hshape]
    simp
  case closed hw =>
    have h5 : st.worker.stage = 5 := by simp [hw, Worker.stage]
    have hshape := h.shape_of_unended (by omega)
    refine ⟨?_, fun h5 => by simp [Worker.stage] at h5⟩
    simp only [State.call, recordsOf_append, recordsOf_close, errorsOf_append, errorsOf_close,
      Worker.stage]
    conv_lhs => rw [hshape]
    simp
  all_goals exact h.of_frame rfl (by simp [Worker.stage, *]) (by simp [Worker.stage, *])

theorem step (h : LogFits st) (t : Turn) : LogFits (Stream.step setup st t) := by
  cases t with
  | worker => exact h.moves (Stream.moves setup st)
  | stop => exact h.of_frame rfl Iff.rfl id

end LogFits

/-! ## What the answer carries -/

/-- The server holds the body open: the response has a success status and a held body. -/
def Setup.holds (setup : Setup) : Bool :=
  match setup.answer with
  | .failed _ => false
  | .responded status body => success status && body.ending.isHeld

/-- The error the worker ends with when no stop is asked for: the request's failure, the
rejection of a status that is no success, or the failure that broke the body off. -/
def Setup.error (setup : Setup) : Option String :=
  match setup.answer with
  | .failed e => reason e
  | .responded status body =>
    if !success status then some (rejectedText status)
    else match body.ending with
      | .broken e => reason e.text
      | _ => none

/-- What a fresh parser makes of byte chunks read in turn: the records they complete, and the
parser after them. -/
def parsed (read : List (List UInt8)) : List Sse.Record × Sse.Parser :=
  Sse.Parser.feedAll {} (read.map .bytes)

theorem parsed_append_single (read : List (List UInt8)) (c : List UInt8) :
    parsed (read ++ [c]) =
      ((parsed read).1 ++ ((parsed read).2.feed (.bytes c)).1,
        ((parsed read).2.feed (.bytes c)).2) := by
  simp [parsed, Sse.Parser.feedAll_append, Sse.Parser.feedAll]

/-- Reading more chunks only adds records. -/
theorem parsed_prefix {read read' : List (List UInt8)} (h : read <+: read') :
    (parsed read).1 <+: (parsed read').1 := by
  obtain ⟨t, rfl⟩ := h
  simp only [parsed, List.map_append, Sse.Parser.feedAll_append]
  exact List.prefix_append _ _

namespace Setup

variable {setup : Setup}

section Failed

variable {e : String} (ha : setup.answer = .failed e)
include ha

theorem error_failed : setup.error = reason e := by simp [Setup.error, ha]

theorem records_failed : setup.records = [] := by simp [Setup.records, ha]

theorem holds_failed : setup.holds = false := by simp [Setup.holds, ha]

end Failed

section Responded

variable {status : Nat} {body : Body} (ha : setup.answer = .responded status body)
include ha

theorem error_rejected (hs : success status = false) : setup.error = some (rejectedText status) := by
  simp [Setup.error, ha, hs]

theorem records_rejected (hs : success status = false) : setup.records = [] := by
  simp [Setup.records, ha, hs]

theorem holds_rejected (hs : success status = false) : setup.holds = false := by
  simp [Setup.holds, ha, hs]

theorem records_accepted (hs : success status = true) :
    setup.records = (parsed (body.chunks ++ body.ending.trailer)).1 := by
  simp [Setup.records, ha, hs, parsed, Sse.parseRecords]

theorem holds_accepted (hs : success status = true) : setup.holds = body.ending.isHeld := by
  simp [Setup.holds, ha, hs]

theorem error_complete (hs : success status = true) (he : body.ending = .complete) :
    setup.error = none := by
  simp [Setup.error, ha, hs, he]

theorem error_broken (hs : success status = true) {er : NetError} (he : body.ending = .broken er) :
    setup.error = reason er.text := by
  simp [Setup.error, ha, hs, he]

end Responded

end Setup

/-! ## What the worker hands on -/

/-- The worker reads the body of a response with a success status: `read` are the chunks it read,
with the keep-alive comment of a held body once its own chunks are read, and `cs` those left. It
handed on a prefix of the records the chunks read complete, and all of them but the `pending`
ones when no stop was asked for. -/
structure Feeding (setup : Setup) (st : State) (pending : List Sse.Record)
    (cs : List (List UInt8)) (e : BodyEnd) (p : Sse.Parser) (read : List (List UInt8)) : Prop where
  answer : ∃ status body, setup.answer = .responded status body ∧ success status = true ∧
    e = body.ending ∧ (read ++ cs = body.chunks ∨ cs = [] ∧ read = body.chunks ++ e.trailer)
  parser : p = (parsed read).2
  handed : recordsOf st.log <+: (parsed read).1
  unstopped : st.stop = false → recordsOf st.log ++ pending = (parsed read).1

/-- The worker has read all it reads: it handed on a prefix of the records the body carries, all
of them when no stop was asked for, and without a stop it got here only from a body that ends. -/
structure Finished (setup : Setup) (st : State) : Prop where
  handed : recordsOf st.log <+: setup.records
  unstopped : st.stop = false → recordsOf st.log = setup.records
  ends : st.stop = false → setup.holds = false

/-- The error the worker ended with: none after a stop, and otherwise the error of the answer. -/
structure Carries (setup : Setup) (st : State) (err : Option String) : Prop where
  either : err = none ∨ err = setup.error
  unstopped : st.stop = false → err = setup.error

/-- The error handler was called at most with the answer's error, and with it when no stop was
asked for. -/
structure Reported (setup : Setup) (st : State) : Prop where
  either : errorsOf st.log = [] ∨ errorsOf st.log = setup.error.toList
  unstopped : st.stop = false → errorsOf st.log = setup.error.toList

/-- What the worker's place says of the log against the answer. -/
def PlaceFits (setup : Setup) (st : State) : Prop :=
  match st.worker with
  | .connecting => recordsOf st.log = []
  | .checking status body => setup.answer = .responded status body ∧ recordsOf st.log = []
  | .reading cs e p => ∃ read, Feeding setup st [] cs e p read
  | .delivering rs cs e p => ∃ read, Feeding setup st rs cs e p read
  | .calling r rs cs e p =>
    ∃ read, Feeding setup st (r :: rs) cs e p read ∧ recordsOf st.log ++ r :: rs = (parsed read).1
  | .inRecord rs cs e p => ∃ read, Feeding setup st rs cs e p read
  | .finishing err => Carries setup st err ∧ Finished setup st
  | .reporting err => Carries setup st err ∧ Finished setup st
  | .closing => Reported setup st ∧ Finished setup st
  | .ended => Reported setup st ∧ Finished setup st

section Fits

variable {setup : Setup} {st st' : State}

namespace Feeding

variable {pending : List Sse.Record} {cs : List (List UInt8)} {e : BodyEnd} {p : Sse.Parser}
  {read : List (List UInt8)}

/-- The same reading, seen from a state with the same records and at most more stops. -/
theorem mono (h : Feeding setup st pending cs e p read)
    (hl : recordsOf st'.log = recordsOf st.log) (hs : st'.stop = false → st.stop = false) :
    Feeding setup st' pending cs e p read :=
  ⟨h.answer, h.parser, hl ▸ h.handed, fun h' => hl ▸ h.unstopped (hs h')⟩

/-- The chunks read complete a prefix of the records the body carries. -/
theorem parsed_prefix_records (h : Feeding setup st pending cs e p read) :
    (parsed read).1 <+: setup.records := by
  obtain ⟨status, body, ha, hs, rfl, hread⟩ := h.answer
  rw [Setup.records_accepted ha hs]
  apply parsed_prefix
  rcases hread with hread | ⟨-, rfl⟩
  · rw [← hread, List.append_assoc]
    exact List.prefix_append _ _
  · exact List.prefix_refl _

theorem handed_records (h : Feeding setup st pending cs e p read) :
    recordsOf st.log <+: setup.records :=
  h.handed.trans h.parsed_prefix_records

/-- After a stop the worker reads nothing more, and has read all it reads. -/
theorem finished_of_stop (h : Feeding setup st pending cs e p read) (hs : st.stop = true) :
    Finished setup st :=
  ⟨h.handed_records, fun h' => by simp [hs] at h', fun h' => by simp [hs] at h'⟩

/-- A body that ends has been read to its end once no chunk is left. -/
theorem finished_of_end (h : Feeding setup st [] [] e p read) (he : e.isHeld = false) :
    Finished setup st := by
  obtain ⟨status, body, ha, hs, rfl, hread⟩ := h.answer
  have htrailer : body.ending.trailer = [] := by
    cases hb : body.ending <;> simp_all [BodyEnd.isHeld, BodyEnd.trailer]
  have hread' : read = body.chunks := by
    rcases hread with hread | ⟨-, hread⟩
    · simpa using hread
    · simpa [htrailer] using hread
  refine ⟨h.handed_records, fun hstop => ?_, fun _ => ?_⟩
  · rw [Setup.records_accepted ha hs, htrailer, List.append_nil, ← hread']
    simpa using h.unstopped hstop
  · rw [Setup.holds_accepted ha hs, he]

/-- Reading the next chunk: its records are the ones to hand on next. -/
theorem feed {c : List UInt8} (h : Feeding setup st [] (c :: cs) e p read) (hs : st.stop = false) :
    Feeding setup st (p.feed (.bytes c)).1 cs e (p.feed (.bytes c)).2 (read ++ [c]) := by
  obtain ⟨status, body, ha, hsucc, he, hread⟩ := h.answer
  have hnext := parsed_append_single read c
  rw [← h.parser] at hnext
  refine ⟨⟨status, body, ha, hsucc, he, ?_⟩, by rw [hnext], ?_, fun _ => ?_⟩
  · rcases hread with hread | ⟨hnil, -⟩
    · exact .inl (by simpa using hread)
    · simp at hnil
  · rw [hnext, ← List.append_nil (recordsOf st.log), h.unstopped hs]
    exact List.prefix_append _ _
  · rw [hnext, ← h.unstopped hs, List.append_nil]

/-- A keep-alive comment of a held body: the first one is read as a chunk after the body's own,
and any later one hands on nothing and leaves the parser as it was. -/
theorem feed_keepAlive (h : Feeding setup st [] [] .held p read) (hs : st.stop = false) :
    ∃ read', Feeding setup st (p.feed (.bytes keepAlive)).1 [] .held
      (p.feed (.bytes keepAlive)).2 read' := by
  obtain ⟨status, body, ha, hsucc, he, hread⟩ := h.answer
  rcases hread with hread | ⟨-, hread⟩
  · -- the body's own chunks are read: the keep-alive comment is the next chunk
    have hnext := parsed_append_single read keepAlive
    rw [← h.parser] at hnext
    refine ⟨read ++ [keepAlive], ⟨status, body, ha, hsucc, he, .inr ⟨rfl, ?_⟩⟩, by rw [hnext], ?_,
      fun _ => ?_⟩
    · simpa [BodyEnd.trailer] using hread
    · rw [hnext, ← List.append_nil (recordsOf st.log), h.unstopped hs]
      exact List.prefix_append _ _
    · rw [hnext, ← h.unstopped hs, List.append_nil]
  · -- a keep-alive comment was read already: this one changes nothing
    have hagain : p.feed (.bytes keepAlive) = ([], p) := by
      rw [h.parser, hread]
      exact feed_keepAlive_again body.chunks
    rw [hagain]
    exact ⟨read, h⟩

theorem skip {r : Sse.Record} {rs : List Sse.Record} (h : Feeding setup st (r :: rs) cs e p read)
    (hs : st.stop = true) : Feeding setup st rs cs e p read :=
  ⟨h.answer, h.parser, h.handed, fun h' => by simp [hs] at h'⟩

end Feeding

theorem Carries.none_of_stop (hs : st.stop = true) : Carries setup st none :=
  ⟨.inl rfl, fun h => by simp [hs] at h⟩

theorem Carries.of_error {err : Option String} (he : err = setup.error) : Carries setup st err :=
  ⟨.inr he, fun _ => he⟩

/-- Before the worker reads a body, it handed on nothing; where the answer has no body to read,
that is all it hands on. -/
theorem Finished.of_nothing (hr : recordsOf st.log = []) (hrec : setup.records = [])
    (hheld : setup.holds = false) : Finished setup st :=
  ⟨hr ▸ List.nil_prefix, fun _ => hr.trans hrec.symm, fun _ => hheld⟩

theorem Finished.of_stop (hr : recordsOf st.log <+: setup.records) (hs : st.stop = true) :
    Finished setup st :=
  ⟨hr, fun h => by simp [hs] at h, fun h => by simp [hs] at h⟩

/-- The place of a worker that ended its reading carries over to a state with the same log and
stop. -/
theorem Finished.frame (h : Finished setup st) (hl : recordsOf st'.log = recordsOf st.log)
    (hs : st'.stop = st.stop) : Finished setup st' :=
  ⟨hl ▸ h.handed, fun h' => hl ▸ h.unstopped (hs ▸ h'), fun h' => h.ends (hs ▸ h')⟩

theorem Carries.frame {err : Option String} (h : Carries setup st err) (hs : st'.stop = st.stop) :
    Carries setup st' err :=
  ⟨h.either, fun h' => h.unstopped (hs ▸ h')⟩

theorem placeFits_connecting (hw : st.worker = .connecting) :
    PlaceFits setup st ↔ recordsOf st.log = [] := by
  simp [PlaceFits, hw]

theorem placeFits_checking {status : Nat} {body : Body} (hw : st.worker = .checking status body) :
    PlaceFits setup st ↔ setup.answer = .responded status body ∧ recordsOf st.log = [] := by
  simp [PlaceFits, hw]

theorem placeFits_reading {cs : List (List UInt8)} {e : BodyEnd} {p : Sse.Parser}
    (hw : st.worker = .reading cs e p) :
    PlaceFits setup st ↔ ∃ read, Feeding setup st [] cs e p read := by
  simp [PlaceFits, hw]

theorem placeFits_delivering {rs : List Sse.Record} {cs : List (List UInt8)} {e : BodyEnd}
    {p : Sse.Parser} (hw : st.worker = .delivering rs cs e p) :
    PlaceFits setup st ↔ ∃ read, Feeding setup st rs cs e p read := by
  simp [PlaceFits, hw]

theorem placeFits_calling {r : Sse.Record} {rs : List Sse.Record} {cs : List (List UInt8)}
    {e : BodyEnd} {p : Sse.Parser} (hw : st.worker = .calling r rs cs e p) :
    PlaceFits setup st ↔
      ∃ read, Feeding setup st (r :: rs) cs e p read ∧
        recordsOf st.log ++ r :: rs = (parsed read).1 := by
  simp [PlaceFits, hw]

theorem placeFits_inRecord {rs : List Sse.Record} {cs : List (List UInt8)} {e : BodyEnd}
    {p : Sse.Parser} (hw : st.worker = .inRecord rs cs e p) :
    PlaceFits setup st ↔ ∃ read, Feeding setup st rs cs e p read := by
  simp [PlaceFits, hw]

theorem placeFits_finishing {err : Option String} (hw : st.worker = .finishing err) :
    PlaceFits setup st ↔ Carries setup st err ∧ Finished setup st := by
  simp [PlaceFits, hw]

theorem placeFits_reporting {err : Option String} (hw : st.worker = .reporting err) :
    PlaceFits setup st ↔ Carries setup st err ∧ Finished setup st := by
  simp [PlaceFits, hw]

theorem placeFits_closing (hw : st.worker = .closing) :
    PlaceFits setup st ↔ Reported setup st ∧ Finished setup st := by
  simp [PlaceFits, hw]

theorem placeFits_ended (hw : st.worker = .ended) :
    PlaceFits setup st ↔ Reported setup st ∧ Finished setup st := by
  simp [PlaceFits, hw]

end Fits

namespace PlaceFits

variable {setup : Setup} {st st' : State}

theorem init : PlaceFits setup {} :=
  (placeFits_connecting rfl).2 rfl

/-- Every step of the worker keeps what its place says. The report needs the log's own order:
before the report, no error was handed on. -/
theorem moves (h : PlaceFits setup st) (hl : LogFits st) (hm : Moves setup st st') :
    PlaceFits setup st' := by
  cases hm with
  | failed hw ha =>
    have hr := (placeFits_connecting hw).1 h
    exact (placeFits_finishing rfl).2 ⟨.of_error (Setup.error_failed ha).symm,
      .of_nothing hr (Setup.records_failed ha) (Setup.holds_failed ha)⟩
  | responded hw ha => exact (placeFits_checking rfl).2 ⟨ha, (placeFits_connecting hw).1 h⟩
  | checkStopped hw hs =>
    have hr := ((placeFits_checking hw).1 h).2
    exact (placeFits_finishing rfl).2 ⟨.none_of_stop hs, .of_stop (hr ▸ List.nil_prefix) hs⟩
  | rejected hw _ hsucc =>
    obtain ⟨ha, hr⟩ := (placeFits_checking hw).1 h
    exact (placeFits_finishing rfl).2 ⟨.of_error (Setup.error_rejected ha hsucc).symm,
      .of_nothing hr (Setup.records_rejected ha hsucc) (Setup.holds_rejected ha hsucc)⟩
  | accepted hw _ hsucc =>
    obtain ⟨ha, hr⟩ := (placeFits_checking hw).1 h
    refine ⟨[], ⟨_, _, ha, hsucc, rfl, .inl (by simp)⟩, rfl, ?_, fun _ => ?_⟩
    · simp [hr, parsed, Sse.Parser.feedAll]
    · simp [hr, parsed, Sse.Parser.feedAll]
  | readStopped hw hs | heldStopped hw hs =>
    obtain ⟨read, hf⟩ := (placeFits_reading hw).1 h
    exact (placeFits_finishing rfl).2 ⟨.none_of_stop hs, (hf.finished_of_stop hs).frame rfl rfl⟩
  | fed hw hs =>
    obtain ⟨read, hf⟩ := (placeFits_reading hw).1 h
    exact ⟨_, (hf.feed hs).mono rfl id⟩
  | completed hw =>
    obtain ⟨read, hf⟩ := (placeFits_reading hw).1 h
    obtain ⟨status, body, ha, hsucc, he, -⟩ := hf.answer
    exact (placeFits_finishing rfl).2
      ⟨.of_error (Setup.error_complete ha hsucc he.symm).symm, (hf.finished_of_end rfl).frame rfl rfl⟩
  | broke hw =>
    obtain ⟨read, hf⟩ := (placeFits_reading hw).1 h
    obtain ⟨status, body, ha, hsucc, he, -⟩ := hf.answer
    exact (placeFits_finishing rfl).2
      ⟨.of_error (Setup.error_broken ha hsucc he.symm).symm, (hf.finished_of_end rfl).frame rfl rfl⟩
  | keptAlive hw hs =>
    obtain ⟨read, hf⟩ := (placeFits_reading hw).1 h
    obtain ⟨read', hf'⟩ := hf.feed_keepAlive hs
    exact ⟨read', hf'.mono rfl id⟩
  | skipped hw hs =>
    obtain ⟨read, hf⟩ := (placeFits_delivering hw).1 h
    exact ⟨read, (hf.skip hs).mono rfl id⟩
  | checked hw hs =>
    obtain ⟨read, hf⟩ := (placeFits_delivering hw).1 h
    exact ⟨read, hf.mono rfl id, hf.unstopped hs⟩
  | delivered hw =>
    obtain ⟨read, hf⟩ := (placeFits_delivering hw).1 h
    exact ⟨read, hf.mono rfl id⟩
  | @called r rs cs e p hw =>
    obtain ⟨read, hf, heq⟩ := (placeFits_calling hw).1 h
    -- the record handed on is the next of those the chunks read complete
    have hlog : recordsOf (st.call (.record r) setup.handlers.record recordFailedText).log =
        recordsOf st.log ++ [r] := by simp [State.call]
    refine ⟨read, hf.answer, hf.parser, ?_, fun _ => ?_⟩
    · rw [hlog, ← heq]
      exact ⟨rs, by simp⟩
    · rw [hlog, ← heq]
      simp
  | returned hw =>
    obtain ⟨read, hf⟩ := (placeFits_inRecord hw).1 h
    exact ⟨read, hf.mono rfl id⟩
  | finished hw =>
    obtain ⟨hc, hfin⟩ := (placeFits_finishing hw).1 h
    exact (placeFits_reporting rfl).2 ⟨hc.frame rfl, hfin.frame rfl rfl⟩
  | reportStopped hw hs =>
    obtain ⟨-, hfin⟩ := (placeFits_reporting hw).1 h
    have herr := hl.unreported (by simp [hw, Worker.stage])
    exact (placeFits_closing rfl).2 ⟨⟨.inl herr, fun h' => by simp [hs] at h'⟩, hfin.frame rfl rfl⟩
  | @reported m hw hs =>
    obtain ⟨hc, hfin⟩ := (placeFits_reporting hw).1 h
    have herr := hl.unreported (by simp [hw, Worker.stage])
    have hlog : errorsOf (st.call (.error m) setup.handlers.error errorFailedText).log =
        setup.error.toList := by simp [State.call, herr, ← hc.unstopped hs]
    exact (placeFits_closing rfl).2 ⟨⟨.inr hlog, fun _ => hlog⟩,
      hfin.frame (by simp [State.call]) rfl⟩
  | unreported hw =>
    obtain ⟨hc, hfin⟩ := (placeFits_reporting hw).1 h
    have herr := hl.unreported (by simp [hw, Worker.stage])
    exact (placeFits_closing rfl).2
      ⟨⟨.inl herr, fun hs => by simp [herr, ← hc.unstopped hs]⟩, hfin.frame rfl rfl⟩
  | closed hw =>
    obtain ⟨hrep, hfin⟩ := (placeFits_closing hw).1 h
    have hlog : errorsOf (st.call .close setup.handlers.close closeFailedText).log =
        errorsOf st.log := by
      simp [State.call]
    exact (placeFits_ended rfl).2 ⟨⟨hlog ▸ hrep.either, fun hs => hlog ▸ hrep.unstopped hs⟩,
      hfin.frame (by simp [State.call]) rfl⟩
  | ended hw => exact h

/-- What the place says carries over to a state at the same place with the same log and at
most more stops: what it says without a stop it need no longer say. -/
theorem mono (h : PlaceFits setup st) (hw : st'.worker = st.worker) (hl : st'.log = st.log)
    (hs : st'.stop = false → st.stop = false) : PlaceFits setup st' := by
  have hcar {err : Option String} (hc : Carries setup st err) : Carries setup st' err :=
    ⟨hc.either, fun h' => hc.unstopped (hs h')⟩
  have hfin (hf : Finished setup st) : Finished setup st' :=
    ⟨hl ▸ hf.handed, fun h' => hl ▸ hf.unstopped (hs h'), fun h' => hf.ends (hs h')⟩
  have hrep (hr : Reported setup st) : Reported setup st' :=
    ⟨hl ▸ hr.either, fun h' => hl ▸ hr.unstopped (hs h')⟩
  have hrec : recordsOf st'.log = recordsOf st.log := by rw [hl]
  unfold PlaceFits at h ⊢
  rw [hw]
  cases hw' : st.worker <;> simp only [hw'] at h ⊢
  · exact hrec.trans h
  · exact ⟨h.1, hrec.trans h.2⟩
  · obtain ⟨read, hf⟩ := h; exact ⟨read, hf.mono hrec hs⟩
  · obtain ⟨read, hf⟩ := h; exact ⟨read, hf.mono hrec hs⟩
  · obtain ⟨read, hf, heq⟩ := h; exact ⟨read, hf.mono hrec hs, hrec ▸ heq⟩
  · obtain ⟨read, hf⟩ := h; exact ⟨read, hf.mono hrec hs⟩
  · exact ⟨hcar h.1, hfin h.2⟩
  · exact ⟨hcar h.1, hfin h.2⟩
  · exact ⟨hrep h.1, hfin h.2⟩
  · exact ⟨hrep h.1, hfin h.2⟩

theorem stopStep (h : PlaceFits setup st) : PlaceFits setup (Stream.stopStep st) :=
  h.mono rfl rfl fun h' => by simp at h'

end PlaceFits

end Stream

end AgentLink.Http
