import Mathlib
import AgentLink.Proofs.Http.Stream

/-!
# The contract of a stream's handlers, over every interleaving

The step lemmas of `AgentLink.Proofs.Http.Stream` say what one step keeps: where the subscription
stands (`Stream.StateFits`), the order of the handlers' calls (`Stream.LogFits`) and what the
worker's place says of the records and the error against the server's answer
(`Stream.PlaceFits`). Together they are `Stream.Fits`, which holds of the fresh state and which
every turn keeps (`Stream.Fits.step`), so it holds after every run (`Stream.fits_run`).

Two facts are about what no later step can undo. Once a stop is asked for, no error is handed on
(`Stream.errorsOf_run_of_stop`): the worker reports only what it finds with no stop asked. And a
stop asked for while the worker is not about to call the record handler, as one from inside the
record handler is, lets no record through (`Stream.recordsOf_run_of_quiet`).

The worker ends. Once a stop is asked for it takes at most `Stream.Worker.left` steps
(`Stream.ends_of_stop`), and with no stop a body that ends is read to its end and the worker
ends too (`Stream.ends_of_unstopped`), each step lowering a measure (`Stream.Worker.rest`).

`handlers_keep_contract` assembles these into the contract of `Stream.Contract`.
-/

namespace AgentLink.Http.Stream

/-- Whether the worker has ended. -/
def Worker.isEnded : Worker → Bool
  | .ended => true
  | _ => false

/-- Whether the worker is inside the record handler. -/
def Worker.isInRecord : Worker → Bool
  | .inRecord _ _ _ _ => true
  | _ => false

/-- Whether the worker is about to call the record handler, its check for a stop made. -/
def Worker.isCalling : Worker → Bool
  | .calling _ _ _ _ _ => true
  | _ => false

theorem Worker.isEnded_iff {w : Worker} : w.isEnded = true ↔ w = .ended := by
  cases w <;> simp [Worker.isEnded]

theorem Worker.stage_eq_six_iff {w : Worker} : w.stage = 6 ↔ w.isEnded = true := by
  cases w <;> simp [Worker.stage, Worker.isEnded]

theorem Worker.isCalling_of_isInRecord {w : Worker} (h : w.isInRecord = true) :
    w.isCalling = false := by
  cases w <;> simp_all [Worker.isInRecord, Worker.isCalling]

/-- A body that is not held open sends nothing after its chunks. -/
theorem BodyEnd.trailer_of_not_held {e : BodyEnd} (h : e.isHeld = false) : e.trailer = [] := by
  cases e <;> simp_all [BodyEnd.isHeld, BodyEnd.trailer]

theorem reason_ne_empty {s m : String} (h : reason s = some m) : m ≠ "" := by
  unfold reason at h
  split at h
  · cases h
  · cases h
    rename_i hs
    simpa using hs

theorem rejectedText_ne_empty (status : Nat) : rejectedText status ≠ "" := by
  unfold rejectedText
  -- the status's digits play no part, and reading them out is slow
  generalize toString status = digits
  simp

/-- The error a worker can end with names itself: it is never the empty text. -/
theorem Setup.error_ne_empty {setup : Setup} {m : String} (h : setup.error = some m) : m ≠ "" := by
  cases ha : setup.answer with
  | failed e => rw [Setup.error_failed ha] at h; exact reason_ne_empty h
  | responded status body =>
    rcases Bool.eq_false_or_eq_true (success status) with hs | hs
    · cases he : body.ending with
      | complete => rw [Setup.error_complete ha hs he] at h; cases h
      | broken er => rw [Setup.error_broken ha hs he] at h; exact reason_ne_empty h
      | held => simp [Setup.error, ha, hs, he] at h
    · rw [Setup.error_rejected ha hs] at h
      cases h
      exact rejectedText_ne_empty status

/-! ## Runs keep the invariant -/

section Fits

variable {setup : Setup} {st st' : State}

/-- All that a step keeps. -/
structure Fits (setup : Setup) (st : State) : Prop where
  state : StateFits st
  log : LogFits st
  place : PlaceFits setup st

theorem Fits.init : Fits setup {} :=
  ⟨StateFits.init, LogFits.init, PlaceFits.init⟩

theorem Fits.step (h : Fits setup st) (t : Turn) : Fits setup (step setup st t) := by
  cases t with
  | worker => exact ⟨h.state.step .worker, h.log.step .worker, h.place.moves h.log (moves setup st)⟩
  | stop => exact ⟨h.state.step .stop, h.log.step .stop, h.place.stopStep⟩

theorem fits_run (turns : List Turn) : Fits setup (run setup {} turns) :=
  run_preserves (fun _ t h => h.step t) turns {} Fits.init

/-- The records handed on are, in order, a prefix of those the answer carries. -/
theorem Fits.handed (h : Fits setup st) : recordsOf st.log <+: setup.records := by
  have hp := h.place
  unfold PlaceFits at hp
  split at hp
  · rw [hp]; exact List.nil_prefix
  · rw [hp.2]; exact List.nil_prefix
  · obtain ⟨read, hf⟩ := hp; exact hf.handed_records
  · obtain ⟨read, hf⟩ := hp; exact hf.handed_records
  · obtain ⟨read, hf, -⟩ := hp; exact hf.handed_records
  · obtain ⟨read, hf⟩ := hp; exact hf.handed_records
  all_goals exact hp.2.handed

/-- The error handler was called with the answer's error, or not at all. -/
theorem Fits.errors (h : Fits setup st) :
    errorsOf st.log = [] ∨ errorsOf st.log = setup.error.toList := by
  by_cases h5 : st.worker.stage < 5
  · exact .inl (h.log.unreported h5)
  · cases hw : st.worker with
    | closing => exact ((placeFits_closing hw).1 h.place).1.either
    | ended => exact ((placeFits_ended hw).1 h.place).1.either
    | _ => simp [hw, Worker.stage] at h5

/-- A worker that ended with no stop asked for handed on every record the answer carries, and
the error handler its error. -/
theorem Fits.ended (h : Fits setup st) (hw : st.worker = .ended) :
    Reported setup st ∧ Finished setup st :=
  (placeFits_ended hw).1 h.place

end Fits

/-! ## What no later step undoes -/

section Stops

variable {setup : Setup} {st st' : State}

theorem run_stop_of_stop (hs : st.stop = true) (turns : List Turn) :
    (run setup st turns).stop = true :=
  run_preserves (P := fun s => s.stop = true) (fun _ t h => step_stop h t) turns st hs

theorem run_stop_of_mem {turns : List Turn} (h : Turn.stop ∈ turns) (st : State) :
    (run setup st turns).stop = true := by
  obtain ⟨ts₁, ts₂, rfl⟩ := List.append_of_mem h
  rw [run_append, run_cons]
  exact run_stop_of_stop rfl ts₂

theorem run_stop_of_not_mem {turns : List Turn} (h : Turn.stop ∉ turns) (st : State) :
    (run setup st turns).stop = st.stop := by
  induction turns generalizing st with
  | nil => rfl
  | cons t ts ih =>
    simp only [List.mem_cons, not_or] at h
    rw [run_cons, ih h.2]
    cases t with
    | worker => exact workerStep_stop st
    | stop => exact absurd rfl h.1

/-- With a stop asked for, no step hands on an error. -/
theorem Moves.errorsOf_eq (hm : Moves setup st st') (hs : st.stop = true) :
    errorsOf st'.log = errorsOf st.log := by
  cases hm <;> simp_all [State.call]

theorem errorsOf_run_of_stop (hs : st.stop = true) (turns : List Turn) :
    errorsOf (run setup st turns).log = errorsOf st.log := by
  refine (run_preserves (P := fun s => s.stop = true ∧ errorsOf s.log = errorsOf st.log)
    (fun s t h => ⟨step_stop h.1 t, ?_⟩) turns st ⟨hs, rfl⟩).2
  cases t with
  | stop => exact h.2
  | worker => exact ((moves setup s).errorsOf_eq h.1).trans h.2

/-- With a stop asked for, a worker that is not about to call the record handler never gets
there again, and calls it no more. -/
theorem Moves.quiet (hm : Moves setup st st') (hs : st.stop = true)
    (hc : st.worker.isCalling = false) :
    st'.worker.isCalling = false ∧ recordsOf st'.log = recordsOf st.log := by
  cases hm <;> simp_all [Worker.isCalling, State.call]

theorem recordsOf_run_of_quiet (hs : st.stop = true) (hc : st.worker.isCalling = false)
    (turns : List Turn) : recordsOf (run setup st turns).log = recordsOf st.log := by
  refine (run_preserves (P := fun s => s.stop = true ∧ s.worker.isCalling = false ∧
      recordsOf s.log = recordsOf st.log) (fun s t h => ?_) turns st ⟨hs, hc, rfl⟩).2.2
  refine ⟨step_stop h.1 t, ?_⟩
  cases t with
  | stop => exact h.2
  | worker =>
    obtain ⟨hc', hr⟩ := (moves setup s).quiet h.1 h.2.1
    exact ⟨hc', hr.trans h.2.2⟩

/-- The subscription's state never moves back along a run. -/
theorem rank_run (h : StateFits st) (turns : List Turn) :
    st.state.rank ≤ (run setup st turns).state.rank :=
  (run_preserves (P := fun s => StateFits s ∧ st.state.rank ≤ s.state.rank)
    (fun _ t hs => ⟨hs.1.step t, hs.2.trans (hs.1.rank_le t)⟩) turns st ⟨h, le_refl _⟩).2

end Stops

/-! ## The worker ends -/

section Ends

variable {setup : Setup} {st st' : State}

/-- A worker whose every step, while it has not ended, keeps `P` and lowers `μ`, has ended after
`μ` steps. -/
theorem ended_within {P : State → Prop} (μ : State → Nat)
    (hstep : ∀ s, P s → s.worker ≠ .ended →
      P (step setup s .worker) ∧ μ (step setup s .worker) < μ s) :
    ∀ n s, P s → μ s ≤ n → (run setup s (List.replicate n .worker)).worker = .ended := by
  intro n
  induction n with
  | zero =>
    intro s hp hμ
    by_contra hne
    have := (hstep s hp hne).2
    omega
  | succ n ih =>
    intro s hp hμ
    by_cases hne : s.worker = .ended
    · exact (run_ended hne _).1
    · obtain ⟨hp', hlt⟩ := hstep s hp hne
      rw [List.replicate_succ, run_cons]
      exact ih _ hp' (by omega)

/-- With a stop asked for, each step brings the worker closer to its end. -/
theorem Moves.left_lt (hm : Moves setup st st') (hs : st.stop = true) (hne : st.worker ≠ .ended) :
    st'.worker.left < st.worker.left := by
  cases hm <;> simp_all [Worker.left]

/-- Once a stop is asked for, the worker ends within `Worker.left` of its steps. -/
theorem ends_of_stop (hs : st.stop = true) :
    (run setup st (List.replicate st.worker.left .worker)).worker = .ended :=
  ended_within (P := fun s => s.stop = true) (fun s => s.worker.left)
    (fun s hp hne => ⟨step_stop hp .worker, (moves setup s).left_lt hp hne⟩)
    _ st hs le_rfl

/-- The records a parser completes from the chunks left. -/
def unread (p : Sse.Parser) (cs : List (List UInt8)) : Nat :=
  (p.feedAll (cs.map .bytes)).1.length

theorem unread_cons (p : Sse.Parser) (c : List UInt8) (cs : List (List UInt8)) :
    unread p (c :: cs) = (p.feed (.bytes c)).1.length + unread (p.feed (.bytes c)).2 cs := by
  simp [unread, Sse.Parser.feedAll]

/-- How many steps a worker with no stop asked for has left, at most, once its body ends: two
for each chunk left, three for each record still to hand on, and four to end. -/
def Worker.rest (setup : Setup) : Worker → Nat
  | .connecting =>
    match setup.answer with
    | .failed _ => 4
    | .responded _ body => 2 * body.chunks.length + 3 * unread {} body.chunks + 6
  | .checking _ body => 2 * body.chunks.length + 3 * unread {} body.chunks + 5
  | .reading cs _ p => 2 * cs.length + 3 * unread p cs + 4
  | .delivering rs cs _ p => 3 * rs.length + 2 * cs.length + 3 * unread p cs + 5
  | .calling _ rs cs _ p => 3 * rs.length + 2 * cs.length + 3 * unread p cs + 7
  | .inRecord rs cs _ p => 3 * rs.length + 2 * cs.length + 3 * unread p cs + 6
  | .finishing _ => 3
  | .reporting _ => 2
  | .closing => 1
  | .ended => 0

/-- With no stop asked for, each step brings the worker closer to its end, unless it waits on a
body held open. -/
theorem Moves.rest_lt (hm : Moves setup st st') (hs : st.stop = false)
    (hheld : ∀ p, st.worker ≠ .reading [] .held p) (hne : st.worker ≠ .ended) :
    st'.worker.rest setup < st.worker.rest setup := by
  cases hm with
  | failed hw ha | responded hw ha => simp only [hw, ha, Worker.rest]; omega
  | fed hw _ => simp only [hw, Worker.rest, List.length_cons, unread_cons]; omega
  | keptAlive hw _ => exact absurd hw (hheld _)
  | ended hw => exact absurd hw hne
  | checkStopped _ h | readStopped _ h | heldStopped _ h | skipped _ h | reportStopped _ h =>
    simp [hs] at h
  | rejected hw | accepted hw | completed hw | broke hw | checked hw | delivered hw | called hw
  | returned hw | finished hw | reported hw | unreported hw | closed hw =>
    simp only [hw, Worker.rest, List.length_cons, List.length_nil]; omega

/-- A worker that reads a body reads one that ends, when the answer does not hold it open. -/
theorem Fits.not_held (h : Fits setup st) (hh : setup.holds = false) :
    ∀ p, st.worker ≠ .reading [] .held p := by
  intro p hw
  obtain ⟨read, hf⟩ : ∃ read, Feeding setup st [] [] .held p read := by
    simpa [PlaceFits, hw] using h.place
  obtain ⟨status, body, ha, hsucc, he, -⟩ := hf.answer
  rw [Setup.holds_accepted ha hsucc, ← he] at hh
  simp [BodyEnd.isHeld] at hh

/-- With no stop asked for, a worker whose body ends ends too. -/
theorem ends_of_unstopped (h : Fits setup st) (hs : st.stop = false) (hh : setup.holds = false) :
    (run setup st (List.replicate (st.worker.rest setup) .worker)).worker = .ended :=
  ended_within (P := fun s => Fits setup s ∧ s.stop = false) (fun s => s.worker.rest setup)
    (fun s hp hne => ⟨⟨hp.1.step .worker, (workerStep_stop s).trans hp.2⟩,
      (moves setup s).rest_lt hp.2 (hp.1.not_held hh) hne⟩)
    _ st ⟨h, hs⟩ le_rfl

/-- Every run can be carried on until the worker ends, once a stop is asked for or when the body
ends. -/
theorem ends (turns : List Turn) (h : setup.holds = false ∨ Turn.stop ∈ turns) :
    ∃ n, (run setup {} (turns ++ List.replicate n .worker)).worker = .ended := by
  cases hs : (run setup {} turns).stop with
  | true => exact ⟨_, by rw [run_append]; exact ends_of_stop hs⟩
  | false =>
    have hh : setup.holds = false := h.resolve_right fun hm => by
      simp [run_stop_of_mem hm] at hs
    exact ⟨_, by rw [run_append]; exact ends_of_unstopped (fits_run turns) hs hh⟩

end Ends

/-! ## The contract -/

/-- The contract a stream's handlers are called by, whatever the server answers and wherever
stops are asked for: by any thread, and by the record handler itself while the worker is inside
it. It holds whichever handlers raise, so a record handler that raises stops neither the stream
nor the records after it. -/
structure Contract (setup : Setup) : Prop where
  /-- The handlers are called with the records, then the error, then the close, which comes
  once the worker has ended. -/
  calls : ∀ turns, (run setup {} turns).log =
    (recordsOf (run setup {} turns).log).map .record ++
      (errorsOf (run setup {} turns).log).map .error ++
      (if (run setup {} turns).worker.isEnded then [.close] else [])
  /-- The worker ends once a stop is asked for, and without one when the body ends. -/
  ends : ∀ turns, setup.holds = false ∨ Turn.stop ∈ turns →
    ∃ n, (run setup {} (turns ++ List.replicate n .worker)).worker.isEnded
  /-- The error handler is called at most once, with the error the answer ends with. -/
  errorOnce : ∀ turns, errorsOf (run setup {} turns).log = [] ∨
    errorsOf (run setup {} turns).log = setup.error.toList
  /-- The error handler is never called with the empty text. -/
  errorNamed : ∀ turns, ∀ m ∈ errorsOf (run setup {} turns).log, m ≠ ""
  /-- With no stop, the error handler has been called once the worker has ended, exactly when
  the answer ends with an error. -/
  errorUnstopped : ∀ turns, Turn.stop ∉ turns → (run setup {} turns).worker.isEnded →
    errorsOf (run setup {} turns).log = setup.error.toList
  /-- Once a stop is asked for before any error was handed on, none is. -/
  errorAfterStop : ∀ turns more, Turn.stop ∈ turns → errorsOf (run setup {} turns).log = [] →
    errorsOf (run setup {} (turns ++ more)).log = []
  /-- The records handed on are, in order, a prefix of those the answer carries. -/
  recordsInOrder : ∀ turns, recordsOf (run setup {} turns).log <+: setup.records
  /-- With no stop, a worker that has ended handed on every record of a body with a success
  status, as the parser reads its chunks. -/
  recordsUnstopped : ∀ turns status body, setup.answer = .responded status body →
    success status = true → Turn.stop ∉ turns → (run setup {} turns).worker.isEnded →
    recordsOf (run setup {} turns).log = Sse.parseRecords (body.chunks.map .bytes)
  /-- A stop asked for from inside the record handler lets no later record through. -/
  recordsAfterInnerStop : ∀ turns more, (run setup {} turns).worker.isInRecord →
    recordsOf (run setup {} (turns ++ .stop :: more)).log = recordsOf (run setup {} turns).log
  /-- The subscription's state only moves forward along connecting, open, closing, closed. -/
  stateForward : ∀ turns more,
    (run setup {} turns).state.rank ≤ (run setup {} (turns ++ more)).state.rank
  /-- Once the worker has ended, the subscription is closed. -/
  closedAtEnd : ∀ turns, (run setup {} turns).worker.isEnded → (run setup {} turns).state = .closed

theorem handlers_keep_contract (setup : Setup) : Contract setup where
  calls turns := by
    have h := (@fits_run setup turns).log.shape
    simpa only [Worker.stage_eq_six_iff] using h
  ends turns h := by
    obtain ⟨n, hn⟩ := ends turns h
    exact ⟨n, Worker.isEnded_iff.2 hn⟩
  errorOnce turns := (fits_run turns).errors
  errorNamed turns m hm := by
    rcases (@fits_run setup turns).errors with h | h
    · simp [h] at hm
    · rw [h] at hm
      exact Setup.error_ne_empty (Option.mem_toList.1 hm)
  errorUnstopped turns hs he :=
    ((fits_run turns).ended (Worker.isEnded_iff.1 he)).1.unstopped (run_stop_of_not_mem hs {})
  errorAfterStop turns more hs h := by
    rw [run_append, errorsOf_run_of_stop (run_stop_of_mem hs _)]
    exact h
  recordsInOrder turns := (fits_run turns).handed
  recordsUnstopped turns status body ha hsucc hs he := by
    obtain ⟨-, hfin⟩ := (fits_run turns).ended (Worker.isEnded_iff.1 he)
    have hstop := @run_stop_of_not_mem setup turns hs {}
    have hheld := hfin.ends hstop
    rw [Setup.holds_accepted ha hsucc] at hheld
    rw [hfin.unstopped hstop, Setup.records_accepted ha hsucc, BodyEnd.trailer_of_not_held hheld]
    simp [parsed, Sse.parseRecords]
  recordsAfterInnerStop turns more h := by
    rw [run_append, run_cons]
    exact @recordsOf_run_of_quiet setup (stopStep (run setup {} turns)) rfl
      (Worker.isCalling_of_isInRecord h) more
  stateForward turns more := by
    rw [run_append]
    exact rank_run (fits_run turns).state more
  closedAtEnd turns he :=
    (fits_run turns).state.closed (by rw [Worker.isEnded_iff.1 he]; decide)

end AgentLink.Http.Stream
