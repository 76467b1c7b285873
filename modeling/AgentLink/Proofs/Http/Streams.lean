import AgentLink.Http.Streams
import AgentLink.Proofs.Http.Stream

/-!
# One live stream per transport, when the calls wait for each other

A transport's stream calls (`Http.Streams`) are meant to leave at most one worker running at a
time, and every subscription the transport no longer holds asked to stop. They do not, for three
reasons (`streams_outlive_their_stop`):

- a start stops the stream and installs its subscription in two critical sections, so two starts
  that overlap both find nothing to stop, and the second one installed leaves the first running,
  never asked to stop;
- a start made from a worker's own record handler does not wait for that worker, which goes on;
- the wait for a worker is bounded, and a start that gives up on it starts the next worker while
  the last one still runs.

What holds is the case the three leave out (`Streams.Machine.orderlyRun`): each call moves only
while no other call is under way, and a call waiting for a worker goes on only once that worker
has ended, never from the worker's own thread. Then the transport's streams stay calm
(`Streams.Machine.Calm`): each place of the call under way fixes which worker may run, and with
no call under way only the held one may (`Streams.Machine.Fits`). Every orderly step keeps that
(`Streams.Machine.Calm.step`), so at every moment of an orderly run at most one worker runs,
and every subscription whose worker was started, other than the held one, was asked to stop
(`one_live_stream_when_calls_wait`).
-/

namespace AgentLink.Http

namespace Streams

/-! ## Running workers -/

/-- The worker of subscription `i` is running. -/
def Machine.Running (m : Machine) (i : Nat) : Prop :=
  ∃ s, m.subs[i]? = some s ∧ s.running = true

/-- At most one worker runs. -/
def Machine.OneRunning (m : Machine) : Prop :=
  ∀ i j, m.Running i → m.Running j → i = j

/-- Every subscription whose worker was started, other than the held one, was asked to stop. -/
def Machine.OthersStopped (m : Machine) : Prop :=
  ∀ i s, m.subs[i]? = some s → s.started = true → m.held ≠ some i → s.worker.stop = true

/-! ## Three runs with two workers running -/

/-- A stream whose request is refused. -/
def refusedSetup : Stream.Setup := { answer := .failed "refused" }

/-- A stream whose body carries one record, `data: x`. -/
def oneRecordSetup : Stream.Setup :=
  { answer := .responded 200 { chunks := [[100, 97, 116, 97, 58, 32, 120, 10, 10]] } }

/-- Two starts from threads of their own: each finds nothing to stop before either installs its
subscription. -/
def overlappingStarts : List Turn :=
  [.call 0 false, .call 1 false, .call 0 false, .call 0 false, .call 0 false,
    .call 1 false, .call 1 false, .call 1 false]

/-- A start, its worker in the record handler, and a second start made from that handler. -/
def restartFromHandler : List Turn :=
  List.replicate 4 (Turn.call 0 false) ++ List.replicate 5 (Turn.worker 0) ++
    List.replicate 5 (Turn.call 1 false)

/-- A start, then a second one whose wait for the first worker gives up. -/
def joinGivesUp : List Turn :=
  List.replicate 4 (Turn.call 0 false) ++ [Turn.call 1 false, Turn.call 1 true] ++
    List.replicate 3 (Turn.call 1 false)

theorem not_oneRunning {m : Machine} {s t : Sub} (hs : m.subs[0]? = some s)
    (ht : m.subs[1]? = some t) (hrs : s.running = true) (hrt : t.running = true) :
    ¬ m.OneRunning :=
  fun h => absurd (h 0 1 ⟨s, hs, hrs⟩ ⟨t, ht, hrt⟩) (by decide)

/-- Three interleavings leave two workers running: two starts that overlap, which also leave
the first subscription running with no stop asked for; a start made from the first worker's
record handler; and a start whose wait for the first worker gives up. -/
theorem streams_outlive_their_stop :
    ¬ (run (Machine.init [(.start refusedSetup, none), (.start refusedSetup, none)])
        overlappingStarts).OneRunning ∧
    ¬ (run (Machine.init [(.start refusedSetup, none), (.start refusedSetup, none)])
        overlappingStarts).OthersStopped ∧
    ¬ (run (Machine.init [(.start oneRecordSetup, none), (.start refusedSetup, some 0)])
        restartFromHandler).OneRunning ∧
    ¬ (run (Machine.init [(.start refusedSetup, none), (.start refusedSetup, none)])
        joinGivesUp).OneRunning := by
  refine ⟨not_oneRunning rfl rfl (by decide) (by decide), fun h => ?_,
    not_oneRunning rfl rfl (by decide) (by decide), not_oneRunning rfl rfl (by decide) (by decide)⟩
  -- the first subscription is started, no longer held, and was never asked to stop
  have stopped := h 0 _ rfl (by decide) (by decide)
  exact absurd stopped (by decide)

/-! ## Calls that wait for each other -/

/-- Whether a call has not moved yet, or is done. -/
def Place.idle : Place → Bool
  | .taking | .returned | .raised => true
  | _ => false

/-- Call `c` is under way. -/
def Machine.Active (m : Machine) (c : Nat) : Prop :=
  ∃ call, m.calls[c]? = some call ∧ call.place.idle = false

/-- Subscription `i` was made and its worker's thread not started. -/
def Machine.Unstarted (m : Machine) (i : Nat) : Prop :=
  ∃ s, m.subs[i]? = some s ∧ s.started = false

/-- What the place of the call under way says of the streams: while it waits for a worker,
nothing is held and no other worker runs; from then until it starts a worker, none runs; and the
subscription it installs and starts is one whose thread was not started. -/
def Machine.Fits (m : Machine) : Place → Prop
  | .joining i => m.held = none ∧ ∀ j, m.Running j → j = i
  | .creating | .closingCalls => m.held = none ∧ ∀ j, ¬ m.Running j
  | .installing i => m.held = none ∧ (∀ j, ¬ m.Running j) ∧ m.Unstarted i
  | .launching i => m.held = some i ∧ (∀ j, ¬ m.Running j) ∧ m.Unstarted i
  | .taking | .returned | .raised => True

/-- The transport's streams are calm: every started subscription but the held one was asked to
stop, at most one call is under way and its place fits the streams, and with no call under way
only the held worker may run. -/
structure Machine.Calm (m : Machine) : Prop where
  stopped : m.OthersStopped
  oneActive : ∀ c d : Nat, m.Active c → m.Active d → c = d
  fits : ∀ (c : Nat) (call : Call), m.calls[c]? = some call → m.Fits call.place
  quiet : (∀ c, ¬ m.Active c) → ∀ j, m.Running j → m.held = some j

/-- Whether every call but `c` has not moved yet or is done. -/
def Machine.othersIdle (m : Machine) (c : Nat) : Bool :=
  (List.range m.calls.length).all fun d =>
    d == c || (m.calls[d]?.map fun call => call.place.idle).getD true

/-- Whether a call's step waits as it should: a call waiting for a worker goes on only once the
worker has ended, and never from that worker's own thread. -/
def Machine.waits (m : Machine) (call : Call) (timedOut : Bool) : Bool :=
  match call.place with
  | .joining i => call.thread != some i && (!timedOut || (m.subs[i]?.map Sub.ended).getD true)
  | _ => true

/-- Whether a turn keeps the calls waiting for each other: a call moves only while no other call
is under way, and waits as it should. -/
def Machine.orderly (m : Machine) : Turn → Bool
  | .worker _ => true
  | .call c timedOut =>
    m.othersIdle c && match m.calls[c]? with
      | some call => m.waits call timedOut
      | none => true

/-- Whether every turn of a run keeps the calls waiting for each other. -/
def Machine.orderlyRun (m : Machine) : List Turn → Bool
  | [] => true
  | t :: ts => m.orderly t && (step m t).orderlyRun ts

section Calm

variable {m : Machine} {c : Nat} {call : Call}

@[simp] theorem moveCall_subs (p : Place) : (m.moveCall c call p).subs = m.subs := rfl

@[simp] theorem moveCall_held (p : Place) : (m.moveCall c call p).held = m.held := rfl

theorem fits_of_idle {p : Place} (hp : p.idle = true) : m.Fits p := by
  cases p <;> simp_all [Place.idle, Machine.Fits]

theorem not_active_of_othersIdle (h : m.othersIdle c = true) {d : Nat} (hd : d ≠ c) :
    ¬ m.Active d := by
  rintro ⟨call', hd', hidle⟩
  have hlt : d < m.calls.length := (List.getElem?_eq_some_iff.1 hd').1
  have := List.all_eq_true.1 h d (List.mem_range.2 hlt)
  simp [hd, hd', hidle] at this

/-- With the call about to move idle and every other one idle too, no call is under way. -/
theorem not_active_of_idle (h : m.othersIdle c = true) (hc : m.calls[c]? = some call)
    (hp : call.place.idle = true) (d : Nat) : ¬ m.Active d := by
  by_cases hd : d = c
  · subst hd
    rintro ⟨call', hd', hidle⟩
    rw [hc] at hd'
    cases hd'
    simp [hp] at hidle
  · exact not_active_of_othersIdle h hd

/-- Moving the one call under way to a place that fits the streams keeps them calm. -/
theorem calm_of_move {m' : Machine} {p : Place} (hc : m.calls[c]? = some call)
    (hidle : m.othersIdle c = true) (hcalls : m'.calls = (m.moveCall c call p).calls)
    (hfits : m'.Fits p) (hstop : m'.OthersStopped)
    (hquiet : p.idle = true → ∀ j, m'.Running j → m'.held = some j) : m'.Calm := by
  have hlt : c < m.calls.length := (List.getElem?_eq_some_iff.1 hc).1
  -- every call but `c` kept its place, and those are idle
  have other : ∀ d call', d ≠ c → m'.calls[d]? = some call' → call'.place.idle = true := by
    intro d call' hd hd'
    rw [hcalls, Machine.moveCall, List.getElem?_set_ne (Ne.symm hd)] at hd'
    by_contra hnot
    exact not_active_of_othersIdle hidle hd ⟨call', hd', by simpa using hnot⟩
  have here : m'.calls[c]? = some { call with place := p } := by
    rw [hcalls, Machine.moveCall, List.getElem?_set_self hlt]
  have active : ∀ d, m'.Active d → d = c := by
    rintro d ⟨call', hd', hbusy⟩
    by_contra hd
    simp [other d call' hd hd'] at hbusy
  refine ⟨hstop, fun d d' hd hd' => (active d hd).trans (active d' hd').symm, ?_, ?_⟩
  · intro d call' hd'
    by_cases hdc : d = c
    · subst hdc
      rw [here] at hd'
      cases hd'
      exact hfits
    · exact fits_of_idle (other d call' hdc hd')
  · intro hnone
    apply hquiet
    by_contra hbusy
    exact hnone c ⟨_, here, by simpa using hbusy⟩

/-! ### What the steps do to the subscriptions -/

theorem streamStep_of_ended {setup : Stream.Setup} {st : Stream.State}
    (h : st.worker = .ended) : Stream.workerStep setup st = st := by
  simp [Stream.workerStep, h]

@[simp] theorem Sub.advance_started (s : Sub) : s.advance.started = s.started := by
  unfold Sub.advance; split <;> rfl

@[simp] theorem Sub.advance_stop (s : Sub) : s.advance.worker.stop = s.worker.stop := by
  unfold Sub.advance; split
  · exact Stream.workerStep_stop _
  · rfl

/-- A worker that ended stays ended, so a step never makes a worker run. -/
theorem Sub.running_of_advance {s : Sub} (h : s.advance.running = true) : s.running = true := by
  unfold Sub.advance at h
  split at h
  · next hs =>
    simp only [Sub.running, hs, Bool.true_and, Bool.not_eq_true'] at h ⊢
    cases hw : s.worker.worker with
    | ended =>
      have : Stream.workerStep s.setup s.worker = s.worker := streamStep_of_ended hw
      simp [Sub.ended, this, hw] at h
    | _ => simp [Sub.ended, hw]
  · exact h

@[simp] theorem Sub.askStop_running (s : Sub) : s.askStop.running = s.running := rfl

@[simp] theorem Sub.askStop_started (s : Sub) : s.askStop.started = s.started := rfl

@[simp] theorem Sub.askStop_stop (s : Sub) : s.askStop.worker.stop = true := rfl

theorem workerStep_subs (i : Nat) : (workerStep m i).subs = m.subs.modify i Sub.advance := rfl

/-- A subscription of a list where one was changed: the one there before, changed if it is the
one changed. -/
theorem exists_of_modify {l : List Sub} {i j : Nat} {f : Sub → Sub} {s' : Sub}
    (h : (l.modify i f)[j]? = some s') :
    ∃ s, l[j]? = some s ∧ (if i = j then f s else s) = s' := by
  rw [List.getElem?_modify, Option.map_eq_map] at h
  exact Option.map_eq_some_iff.1 h

/-- Changing one subscription in a way that never makes a worker run makes none run. -/
theorem running_of_modify {m' : Machine} {i j : Nat} {f : Sub → Sub}
    (hf : ∀ s, (f s).running = true → s.running = true) (hsubs : m'.subs = m.subs.modify i f)
    (h : m'.Running j) : m.Running j := by
  obtain ⟨s', hs', hr⟩ := h
  rw [hsubs] at hs'
  obtain ⟨s, hs, rfl⟩ := exists_of_modify hs'
  refine ⟨s, hs, ?_⟩
  split at hr
  · exact hf s hr
  · exact hr

/-- Changing one subscription in a way that starts no thread leaves unstarted ones so. -/
theorem unstarted_of_modify {m' : Machine} {i j : Nat} {f : Sub → Sub}
    (hf : ∀ s, (f s).started = s.started) (hsubs : m'.subs = m.subs.modify i f)
    (h : m.Unstarted j) : m'.Unstarted j := by
  obtain ⟨s, hs, hst⟩ := h
  refine ⟨if i = j then f s else s, by simp [hsubs, List.getElem?_modify, hs], ?_⟩
  split <;> simp [hf, hst]

/-- Changing one subscription in a way that starts no thread and asks no stop keeps the
started ones other than the held one asked to stop. -/
theorem othersStopped_of_modify {m' : Machine} {i : Nat} {f : Sub → Sub} (h : m.OthersStopped)
    (hheld : m'.held = m.held)
    (hf : ∀ s, (f s).started = s.started ∧ (f s).worker.stop = s.worker.stop)
    (hsubs : m'.subs = m.subs.modify i f) : m'.OthersStopped := by
  intro j s' hs' hst hne
  rw [hsubs] at hs'
  obtain ⟨s, hs, rfl⟩ := exists_of_modify hs'
  rw [hheld] at hne
  by_cases hij : i = j
  · simp only [hij, if_true, (hf s).1, (hf s).2] at hst ⊢
    exact h j s hs hst hne
  · simp only [hij, if_false] at hst ⊢
    exact h j s hs hst hne

theorem Machine.Fits.mono {m' : Machine} {p : Place} (hf : m.Fits p) (hheld : m'.held = m.held)
    (hrun : ∀ j, m'.Running j → m.Running j) (hun : ∀ j, m.Unstarted j → m'.Unstarted j) :
    m'.Fits p := by
  cases p with
  | joining i => exact ⟨hheld ▸ hf.1, fun j hj => hf.2 j (hrun j hj)⟩
  | creating | closingCalls => exact ⟨hheld ▸ hf.1, fun j hj => hf.2 j (hrun j hj)⟩
  | installing i | launching i =>
    exact ⟨hheld ▸ hf.1, fun j hj => hf.2.1 j (hrun j hj), hun i hf.2.2⟩
  | taking | returned | raised => trivial

/-- A worker's step keeps the streams calm: it never starts a thread or asks for a stop, and a
worker that ended does not run again. -/
theorem Machine.Calm.workerStep (h : m.Calm) (i : Nat) : (Streams.workerStep m i).Calm := by
  have run : ∀ j, (Streams.workerStep m i).Running j → m.Running j :=
    fun j => running_of_modify (fun s => Sub.running_of_advance) (workerStep_subs i)
  have unstarted : ∀ j, m.Unstarted j → (Streams.workerStep m i).Unstarted j :=
    fun j => unstarted_of_modify Sub.advance_started (workerStep_subs i)
  refine ⟨othersStopped_of_modify h.stopped rfl (fun s => ⟨by simp, by simp⟩) (workerStep_subs i),
    h.oneActive, fun c call hc => Machine.Fits.mono (h.fits c call hc) rfl run unstarted,
    fun hn j hj => h.quiet hn j (run j hj)⟩

/-! ### What a call's step does to calm streams -/

section Step

variable (h : m.Calm) (hc : m.calls[c]? = some call) (hidle : m.othersIdle c = true)
include h hc hidle

/-- A call that finds nothing held goes on past its stop. -/
theorem Machine.Calm.take_none (hp : call.place = .taking) (hheld : m.held = none) :
    (m.moveCall c call call.op.afterStop).Calm := by
  -- no call is under way, so only the held worker may run, and none is held
  have noneRun : ∀ j, ¬ m.Running j := fun j hj => by
    have := h.quiet (not_active_of_idle hidle hc (by simp [hp, Place.idle])) j hj
    simp [hheld] at this
  refine calm_of_move hc hidle rfl ?_ h.stopped fun _ j hj => absurd hj (noneRun j)
  cases call.op with
  | start _ | close => exact ⟨hheld, noneRun⟩
  | stop => trivial

/-- A call that takes the held subscription asks its worker to stop and waits for it, the only
worker that may run. -/
theorem Machine.Calm.take_some (hp : call.place = .taking) {i : Nat} (hheld : m.held = some i) :
    ({ m.moveCall c call (.joining i) with
        held := none, subs := m.subs.modify i Sub.askStop } : Machine).Calm := by
  have onlyHeld : ∀ j, m.Running j → j = i := fun j hj => by
    have := h.quiet (not_active_of_idle hidle hc (by simp [hp, Place.idle])) j hj
    rw [hheld] at this
    exact (Option.some.inj this).symm
  refine calm_of_move hc hidle rfl ⟨rfl, fun j hj => onlyHeld j ?_⟩ ?_ (by simp [Place.idle])
  · exact running_of_modify (fun s hs => by simpa using hs) rfl hj
  · -- the held subscription is now asked to stop, and the others were already
    intro j s' hs' hst _
    obtain ⟨s, hs, rfl⟩ := exists_of_modify hs'
    by_cases hij : i = j
    · simp [hij]
    · simp only [hij, if_false] at hst ⊢
      exact h.stopped j s hs hst (by rw [hheld]; simpa using hij)

omit hidle in
/-- A call waiting for a worker that does not run finds no worker running. -/
theorem Machine.Calm.noneRunning_of_joining {i : Nat} {s : Sub} (hp : call.place = .joining i)
    (hs : m.subs[i]? = some s) (hr : s.running = false) (j : Nat) : ¬ m.Running j := by
  intro hj
  have hf : m.Fits (.joining i) := hp ▸ h.fits c call hc
  obtain rfl := hf.2 j hj
  obtain ⟨s', hs', hr'⟩ := hj
  rw [hs] at hs'
  cases hs'
  simp [hr] at hr'

/-- Waiting for a worker whose thread was not started raises. -/
theorem Machine.Calm.join_raise {i : Nat} {s : Sub} (hp : call.place = .joining i)
    (hs : m.subs[i]? = some s) (hst : s.started = false) :
    (m.moveCall c call .raised).Calm :=
  calm_of_move hc hidle rfl trivial h.stopped fun _ j hj =>
    absurd hj (h.noneRunning_of_joining hc hp hs (by simp [Sub.running, hst]) j)

/-- A call whose worker has ended goes on past its stop, with no worker running. -/
theorem Machine.Calm.join_done {i : Nat} {s : Sub} (hp : call.place = .joining i)
    (hs : m.subs[i]? = some s) (hend : s.ended = true) :
    (m.moveCall c call call.op.afterStop).Calm := by
  have noneRun := h.noneRunning_of_joining hc hp hs (by simp [Sub.running, hend])
  have hheld : m.held = none := (hp ▸ h.fits c call hc : m.Fits (.joining i)).1
  refine calm_of_move hc hidle rfl ?_ h.stopped fun _ j hj => absurd hj (noneRun j)
  cases call.op with
  | start _ | close => exact ⟨hheld, noneRun⟩
  | stop => trivial

/-- A start makes its subscription, with no thread started. -/
theorem Machine.Calm.create (hp : call.place = .creating) (setup : Stream.Setup) :
    ({ m.moveCall c call (.installing m.subs.length) with
        subs := m.subs ++ [{ setup := setup }] } : Machine).Calm := by
  have hf : m.Fits .creating := hp ▸ h.fits c call hc
  -- the new subscription is the last one, and the others are as they were
  have sub : ∀ (j : Nat) (s' : Sub), (m.subs ++ [{ setup := setup }])[j]? = some s' →
      m.subs[j]? = some s' ∨ s' = { setup := setup } := by
    intro j s' hs'
    rcases Nat.lt_or_ge j m.subs.length with hj | hj
    · rw [List.getElem?_append_left hj] at hs'
      exact .inl hs'
    · rw [List.getElem?_append_right hj, List.getElem?_singleton] at hs'
      split at hs'
      · exact .inr (Option.some.inj hs').symm
      · cases hs'
  have noneRun : ∀ j, ¬ Machine.Running { m.moveCall c call (.installing m.subs.length) with
      subs := m.subs ++ [{ setup := setup }] } j := by
    rintro j ⟨s', hs', hr⟩
    rcases sub j s' hs' with hs | rfl
    · exact hf.2 j ⟨s', hs, hr⟩
    · simp [Sub.running] at hr
  refine calm_of_move (p := .installing m.subs.length) hc hidle rfl
    ⟨hf.1, noneRun, ⟨{ setup := setup }, by simp, rfl⟩⟩ ?_ (by simp [Place.idle])
  intro j s' hs' hst hne
  rcases sub j s' hs' with hs | rfl
  · exact h.stopped j s' hs hst hne
  · simp at hst

/-- A start installs its subscription where nothing was held. -/
theorem Machine.Calm.install {i : Nat} (hp : call.place = .installing i) :
    ({ m.moveCall c call (.launching i) with held := some i } : Machine).Calm := by
  have hf : m.Fits (.installing i) := hp ▸ h.fits c call hc
  refine calm_of_move hc hidle rfl ⟨rfl, hf.2.1, hf.2.2⟩ ?_ (by simp [Place.idle])
  -- nothing was held, so every started subscription had been asked to stop
  intro j s hs hst _
  exact h.stopped j s hs hst (by simp [hf.1])

/-- A start starts the thread of the subscription it holds, the only worker that then runs. -/
theorem Machine.Calm.launch {i : Nat} (hp : call.place = .launching i) :
    ({ m.moveCall c call .returned with
        subs := m.subs.modify i fun s => { s with started := true } } : Machine).Calm := by
  have hf : m.Fits (.launching i) := hp ▸ h.fits c call hc
  have other : ∀ j s', j ≠ i → (m.subs.modify i fun s => { s with started := true })[j]? = some s' →
      m.subs[j]? = some s' := by
    intro j s' hj hs'
    simpa [List.getElem?_modify, Ne.symm hj] using hs'
  refine calm_of_move hc hidle rfl trivial ?_ ?_
  · intro j s' hs' hst hne
    have hj : j ≠ i := fun hj => hne (by simp [hj, hf.1])
    exact h.stopped j s' (other j s' hj hs') hst (by simpa [hf.1] using Ne.symm hj)
  · rintro - j ⟨s', hs', hr⟩
    by_contra hne
    have hj : j ≠ i := fun hj => hne (by simp [hj, hf.1])
    exact hf.2.1 j ⟨s', other j s' hj hs', hr⟩

/-- A close closes the transport's own calls, with no worker running. -/
theorem Machine.Calm.closeCalls (hp : call.place = .closingCalls) :
    ({ m.moveCall c call .returned with callsClosed := true } : Machine).Calm := by
  have hf : m.Fits .closingCalls := hp ▸ h.fits c call hc
  exact calm_of_move hc hidle rfl trivial h.stopped fun _ j hj => absurd hj (hf.2 j)

end Step

/-- Every orderly step of a call keeps the streams calm. -/
theorem Machine.Calm.callStep (h : m.Calm) {t : Bool} (ho : m.orderly (.call c t) = true) :
    (callStep m c t).Calm := by
  simp only [Machine.orderly, Bool.and_eq_true] at ho
  obtain ⟨hidle, hwait⟩ := ho
  unfold Streams.callStep
  split
  · exact h
  · next call hc =>
    rw [hc] at hwait
    -- one case for each place of the call
    split
    · next hp =>
      split
      · next hheld => exact h.take_none hc hidle hp hheld
      · next i hheld => exact h.take_some hc hidle hp hheld
    · next i hp =>
      simp only [Machine.waits, hp, Bool.and_eq_true, bne_iff_ne, ne_eq, Bool.or_eq_true,
        Bool.not_eq_true'] at hwait
      split
      · next hown => exact absurd hown hwait.1
      · split
        · exact h
        · next s hs =>
          split
          · next hst => exact h.join_raise hc hidle hp hs (by simpa using hst)
          · split
            · next hgo =>
              -- an orderly wait gives up only on a worker that has ended
              have hend : s.ended = true := by
                simp only [Bool.or_eq_true] at hgo
                rcases hgo with hend | ht
                · exact hend
                · simpa [hs, ht] using hwait.2
              exact h.join_done hc hidle hp hs hend
            · exact h
    · next hp =>
      split
      · next setup _ => exact h.create hc hidle hp setup
      · exact h
    · next i hp => exact h.install hc hidle hp
    · next i hp => exact h.launch hc hidle hp
    · next hp => exact h.closeCalls hc hidle hp
    · exact h
    · exact h

theorem Machine.Calm.step (h : m.Calm) {t : Turn} (ho : m.orderly t = true) :
    (step m t).Calm := by
  cases t with
  | call c timedOut => exact h.callStep ho
  | worker i => exact h.workerStep i

/-- Every orderly run keeps the streams calm. -/
theorem Machine.Calm.run (h : m.Calm) {turns : List Turn} (ho : m.orderlyRun turns = true) :
    (run m turns).Calm := by
  induction turns generalizing m with
  | nil => exact h
  | cons t ts ih =>
    simp only [Machine.orderlyRun, Bool.and_eq_true] at ho
    exact ih (h.step ho.1) ho.2

/-- The first turns of an orderly run are an orderly run. -/
theorem orderlyRun_take {turns : List Turn} (h : m.orderlyRun turns = true) (n : Nat) :
    m.orderlyRun (turns.take n) = true := by
  induction turns generalizing m n with
  | nil => simp [Machine.orderlyRun]
  | cons t ts ih =>
    simp only [Machine.orderlyRun, Bool.and_eq_true] at h
    cases n with
    | zero => rfl
    | succ n => simp [Machine.orderlyRun, h.1, ih h.2 n]

/-- Calls that have not moved yet, with no subscription made, are calm. -/
theorem calm_init (ops : List (Op × Option Nat)) : (Machine.init ops).Calm := by
  have idle : ∀ c, ¬ (Machine.init ops).Active c := by
    rintro c ⟨call, hc, hbusy⟩
    simp only [Machine.init, List.getElem?_map] at hc
    obtain ⟨_, -, rfl⟩ := Option.map_eq_some_iff.1 hc
    simp [Place.idle] at hbusy
  refine ⟨fun i s hs => by simp [Machine.init] at hs, fun c _ hc => absurd hc (idle c), ?_,
    fun _ j ⟨s, hs, _⟩ => by simp [Machine.init] at hs⟩
  intro c call hc
  simp only [Machine.init, List.getElem?_map] at hc
  obtain ⟨_, -, rfl⟩ := Option.map_eq_some_iff.1 hc
  trivial

/-- Calm streams have at most one worker running: the one the call under way waits for, or the
held one when no call is under way. -/
theorem Machine.Calm.oneRunning (h : m.Calm) : m.OneRunning := by
  intro i j hi hj
  by_cases hact : ∃ c, m.Active c
  · obtain ⟨c, call, hc, hbusy⟩ := hact
    have hf := h.fits c call hc
    cases hp : call.place with
    | joining k =>
      rw [hp] at hf
      exact (hf.2 i hi).trans (hf.2 j hj).symm
    | creating | closingCalls =>
      rw [hp] at hf
      exact absurd hi (hf.2 i)
    | installing k | launching k =>
      rw [hp] at hf
      exact absurd hi (hf.2.1 i)
    | taking | returned | raised => simp [hp, Place.idle] at hbusy
  · simp only [not_exists] at hact
    have := (h.quiet hact i hi).symm.trans (h.quiet hact j hj)
    exact Option.some.inj this

end Calm

/-- At most one live stream per transport, when the calls wait for each other. In every run in
which each call moves only while no other call is under way, and a call waiting for a worker
goes on only once that worker has ended and never from its own thread, at every moment at most
one of the transport's workers runs, and every subscription whose worker was started, other than
the one the transport holds, was asked to stop. -/
theorem one_live_stream_when_calls_wait (ops : List (Op × Option Nat)) (turns : List Turn)
    (h : (Machine.init ops).orderlyRun turns = true) (n : Nat) :
    (run (Machine.init ops) (turns.take n)).OneRunning ∧
      (run (Machine.init ops) (turns.take n)).OthersStopped := by
  -- a moment of the run is the end of one of its first parts, itself orderly
  have calm := (calm_init ops).run (orderlyRun_take h n)
  exact ⟨calm.oneRunning, calm.stopped⟩

/-- A start, then a second one that waits for the first worker to end before it makes its own. -/
def waitingRestart : List Turn :=
  List.replicate 4 (Turn.call 0 false) ++ [Turn.call 1 false] ++
    List.replicate 4 (Turn.worker 0) ++ List.replicate 4 (Turn.call 1 false)

/-- Two starts that wait for each other: while the second waits for the first worker, that
worker is the only one that runs, and it was asked to stop. -/
theorem one_live_stream_waiting_restart :
    (Machine.init [(.start refusedSetup, none), (.start refusedSetup, none)]).orderlyRun
        waitingRestart = true ∧
      (run (Machine.init [(.start refusedSetup, none), (.start refusedSetup, none)])
        (waitingRestart.take 7)).OneRunning ∧
      (run (Machine.init [(.start refusedSetup, none), (.start refusedSetup, none)])
        (waitingRestart.take 7)).OthersStopped :=
  ⟨by decide, one_live_stream_when_calls_wait _ _ (by decide) 7⟩

end Streams

end AgentLink.Http
