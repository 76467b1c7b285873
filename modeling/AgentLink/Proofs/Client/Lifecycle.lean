import AgentLink.Client.Lifecycle

/-!
# A closed client and the streams it gave back

A client's close is meant to leave no stream it gave back open. It does not: a stream given back
after the close began is never reached (`streams_outlive_close`). The close takes the registry
once, under the lock, and a subscription registers its stream after making it and starting its
worker, so a subscription made after the close, and one whose stream is registered after the
close took the registry, keep their streams open with nothing left to close them.

What holds is the case the two leave out (`closed_client_settles`): whatever the interleaving,
once every call has returned and one of them was a close, every stream a subscription gave back
while the client was still open is closed, and its transport stopped or being stopped by its
worker; and the client's own transport was closed exactly once, however many closes there were.

The argument has two parts. `Machine.Tracked i` says that stream `i` is closed, or kept by the
open client, or still to be closed by a close under way; every step keeps it
(`Machine.Tracked.step`), so a stream given back while the client was open stays tracked to the
end. `Machine.Sound` says what holds of every state a run reaches
(`Machine.Sound.run`): a closed channel's hook ran or its taker is about to run it, a stream
given back while the client is open is tracked, and the client's own transport is closed by the
one close that gets past its start. Once every call has returned, a tracked stream is settled.
-/

namespace AgentLink.Lifecycle

/-! ## Returned calls and settled streams -/

/-- Where each call is, in order. -/
def Machine.places (m : Machine) : List Place :=
  m.calls.map Call.place

/-- Whether a place is one a call returned at. -/
def Place.done : Place → Bool
  | .returned | .gave _ => true
  | _ => false

/-- Every call has returned. -/
def Machine.Finished (m : Machine) : Prop :=
  ∀ p ∈ m.places, p.done = true

/-- Whether a stream's channel is closed and its transport stopped, or about to be stopped by
its worker, which took the hook. -/
def Sub.settled (s : Sub) : Bool :=
  s.channel.closed && (s.stopped || s.worker == .hooking)

/-- Stream `i` was made, and it is closed with its transport stopped or being stopped. -/
def Machine.Settled (m : Machine) (i : Nat) : Prop :=
  ∃ s, m.subs[i]? = some s ∧ s.settled = true

instance (m : Machine) : Decidable m.Finished :=
  inferInstanceAs (Decidable (∀ p ∈ m.places, p.done = true))

instance (m : Machine) (i : Nat) : Decidable (m.Settled i) :=
  decidable_of_iff _ (Option.any_eq_true Sub.settled m.subs[i]?)

/-! ## Two runs that leave a given-back stream open -/

/-- A close, then a subscription. -/
def closeThenSubscribe : List Turn :=
  [.call 0, .call 0, .call 1, .call 1]

/-- A subscription makes its stream; a close takes the registry, still empty, and returns; then
the subscription registers its stream. -/
def registerAfterTaking : List Turn :=
  [.call 0, .call 1, .call 1, .call 0]

/-- A subscription whose stream ends at once, its worker closing the channel and taking the
hook; then a close, which finds the channel closed. -/
def workerClosesFirst : List Turn :=
  [.call 0, .worker 0, .call 0, .call 1, .call 1, .call 1]

/-- Two runs end with every call returned and the stream a subscription gave back open: one
where the subscription comes after the close, and one where it began before the close and
registered its stream after the close took the registry. In a third, every call has returned
and the stream is closed, but its transport is not stopped yet: its worker, which closed it, is
about to. -/
theorem streams_outlive_close :
    let late := run (Machine.init [.close, .subscribe]) closeThenSubscribe
    let raced := run (Machine.init [.subscribe, .close]) registerAfterTaking
    let hooking := run (Machine.init [.subscribe, .close]) workerClosesFirst
    late.Finished ∧ Place.gave 0 ∈ late.places ∧ ¬ late.Settled 0 ∧
      (run (Machine.init [.subscribe, .close]) (registerAfterTaking.take 1)).places =
        [.registering 0, .start] ∧
      raced.Finished ∧ Place.gave 0 ∈ raced.places ∧ ¬ raced.Settled 0 ∧
      hooking.Finished ∧ Place.gave 0 ∈ hooking.places ∧
      hooking.subs[0]?.map (fun s => (s.channel.closed, s.stopped)) = some (true, false) := by
  decide

/-! ## What a call's move changes -/

section Move

variable {m m' : Machine} {c : Nat} {call : Call} {p : Place}

@[simp] theorem moveCall_calls :
    (m.moveCall c call p).calls = m.calls.set c { call with place := p } := rfl

@[simp] theorem moveCall_subs : (m.moveCall c call p).subs = m.subs := rfl

@[simp] theorem moveCall_closed : (m.moveCall c call p).closed = m.closed := rfl

@[simp] theorem moveCall_register : (m.moveCall c call p).register = m.register := rfl

@[simp] theorem moveCall_ownCloses : (m.moveCall c call p).ownCloses = m.ownCloses := rfl

theorem places_of_set (hcalls : m'.calls = m.calls.set c { call with place := p }) :
    m'.places = m.places.set c p := by
  simp [Machine.places, hcalls, List.map_set]

theorem place_of_calls (hc : m.calls[c]? = some call) : m.places[c]? = some call.place := by
  simp [Machine.places, hc]

theorem mem_places_of_set (hcalls : m'.calls = m.calls.set c { call with place := p })
    {q : Place} (hq : q ∈ m'.places) : q ∈ m.places ∨ q = p :=
  List.mem_or_eq_of_mem_set (places_of_set hcalls ▸ hq)

/-- The moved call is at its new place. -/
theorem mem_places_set (hc : m.calls[c]? = some call)
    (hcalls : m'.calls = m.calls.set c { call with place := p }) : p ∈ m'.places := by
  rw [places_of_set hcalls]
  exact List.mem_set (List.getElem?_eq_some_iff.1 (place_of_calls hc)).1 p

/-- Every place but the moved call's old one is still taken. -/
theorem mem_places_set_of_ne (hc : m.calls[c]? = some call)
    (hcalls : m'.calls = m.calls.set c { call with place := p }) {q : Place}
    (hq : q ∈ m.places) (hne : q ≠ call.place) : q ∈ m'.places := by
  rw [places_of_set hcalls]
  obtain ⟨j, hj⟩ := List.mem_iff_getElem?.1 hq
  have hcj : c ≠ j := by
    rintro rfl
    rw [place_of_calls hc] at hj
    exact hne (Option.some.inj hj).symm
  exact List.mem_iff_getElem?.2 ⟨j, by rw [List.getElem?_set_ne hcj, hj]⟩

theorem mem_calls_of_set (hcalls : m'.calls = m.calls.set c { call with place := p })
    {d : Call} (hd : d ∈ m'.calls) : d ∈ m.calls ∨ d = { call with place := p } :=
  List.mem_or_eq_of_mem_set (hcalls ▸ hd)

/-- How many calls are at places of a kind, after a move: one less for the old place, one more
for the new. -/
theorem countP_places_of_set (hc : m.calls[c]? = some call)
    (hcalls : m'.calls = m.calls.set c { call with place := p }) (f : Place → Bool) :
    m'.places.countP f + (if f call.place then 1 else 0) =
      m.places.countP f + (if f p then 1 else 0) := by
  have hlt := List.getElem?_eq_some_iff.1 (place_of_calls hc)
  have hold : (if f call.place then 1 else 0) ≤ m.places.countP f := by
    split
    · exact List.countP_pos_iff.2 ⟨_, List.mem_of_getElem? (place_of_calls hc), ‹_›⟩
    · exact Nat.zero_le _
  rw [places_of_set hcalls, List.countP_set hlt.1, hlt.2]
  omega

end Move

/-! ## What the steps do to a stream -/

namespace Sub

variable (s : Sub)

@[simp] theorem shut_closed : s.shut.channel.closed = true := by
  unfold shut Channel.close
  split <;> simp_all

theorem shut_of_closed {s : Sub} (h : s.channel.closed = true) : s.shut = s := by
  simp [shut, Channel.close, h]

@[simp] theorem shut_stopped : s.shut.stopped = s.stopped := rfl

@[simp] theorem stop_channel : s.stop.channel = s.channel := rfl

@[simp] theorem stop_stopped : s.stop.stopped = true := rfl

/-- Closing an open channel whose hook waits takes the hook. -/
theorem takesHook_of_open {s : Sub} (hh : s.channel.closed = false → s.channel.hooked = true)
    (ho : s.channel.closed = false) : s.takesHook = true := by
  simp [takesHook, ho, hh ho]

/-- A channel that is closed, or whose hook waits, is closed by whoever takes no hook. -/
theorem closed_of_not_takesHook {s : Sub}
    (hh : s.channel.closed = false → s.channel.hooked = true) (ht : s.takesHook = false) :
    s.channel.closed = true := by
  cases ho : s.channel.closed
  · simp [takesHook_of_open hh ho] at ht
  · rfl

/-- What a worker's step does, by where the worker is. -/
theorem workerStep_cases :
    (s.worker = .reading ∧
        s.workerStep = { s.shut with worker := if s.takesHook then .hooking else .ended }) ∨
      (s.worker = .hooking ∧ s.workerStep = { s.stop with worker := .ended }) ∨
      (s.worker = .ended ∧ s.workerStep = s) := by
  unfold workerStep
  cases s.worker <;> simp

/-- A closed channel stays closed under its worker's step. -/
theorem workerStep_closed {s : Sub} (h : s.channel.closed = true) :
    s.workerStep.channel.closed = true := by
  rcases workerStep_cases s with ⟨-, hw⟩ | ⟨-, hw⟩ | ⟨-, hw⟩ <;> simp [hw, h]

theorem workerStep_hooked {s : Sub} (h : s.channel.closed = false → s.channel.hooked = true)
    (ho : s.workerStep.channel.closed = false) : s.workerStep.channel.hooked = true := by
  rcases workerStep_cases s with ⟨-, hw⟩ | ⟨-, hw⟩ | ⟨-, hw⟩ <;> simp_all

end Sub

/-- A stream of a list where stream `j` was changed: stream `j` changed, or another one as it
was. -/
theorem modify_cases {l : List Sub} {i j : Nat} {f : Sub → Sub} {s' : Sub}
    (h : (l.modify j f)[i]? = some s') :
    (j = i ∧ ∃ s, l[i]? = some s ∧ s' = f s) ∨ (j ≠ i ∧ l[i]? = some s') := by
  by_cases hji : j = i
  · subst hji
    rw [List.getElem?_modify_eq] at h
    obtain ⟨s, hs, rfl⟩ := Option.map_eq_some_iff.1 h
    exact .inl ⟨rfl, s, hs, rfl⟩
  · rw [List.getElem?_modify_ne _ _ hji] at h
    exact .inr ⟨hji, h⟩

/-- A stream of a list with a fresh one added: one there before, or the fresh one. -/
theorem exists_of_append {l : List Sub} {j : Nat} {s' : Sub}
    (h : (l ++ [({} : Sub)])[j]? = some s') : l[j]? = some s' ∨ s' = ({} : Sub) := by
  rcases Nat.lt_or_ge j l.length with hj | hj
  · rw [List.getElem?_append_left hj] at h
    exact .inl h
  · rw [List.getElem?_append_right hj, List.getElem?_singleton] at h
    split at h
    · exact .inr (Option.some.inj h).symm
    · cases h

/-! ## What a call's step can do -/

/-- A call's step does nothing, or moves the call from one of seven places. -/
theorem callStep_cases (m : Machine) (c : Nat) :
    callStep m c = m ∨ ∃ call, m.calls[c]? = some call ∧
      ((call.place = .start ∧ call.op = .subscribe ∧
          callStep m c = { m.moveCall c call (.registering m.subs.length) with
            subs := m.subs ++ [{}] }) ∨
        (call.place = .start ∧ call.op = .close ∧ m.closed = true ∧
          callStep m c = m.moveCall c call .returned) ∨
        (call.place = .start ∧ call.op = .close ∧ m.closed = false ∧
          callStep m c = { m.moveCall c call (.closing m.register) with
            closed := true, register := [] }) ∨
        (∃ i, call.place = .registering i ∧
          callStep m c = { m.moveCall c call (.gave i) with
            register := m.register.filter m.isOpen ++ [i] }) ∨
        (call.place = .closing [] ∧
          callStep m c = { m.moveCall c call .returned with ownCloses := m.ownCloses + 1 }) ∨
        (∃ i left, call.place = .closing (i :: left) ∧
          callStep m c = { m.moveCall c call
              (if m.subs[i]?.any Sub.takesHook then .hooking i left else .closing left) with
            subs := m.subs.modify i Sub.shut }) ∨
        (∃ i left, call.place = .hooking i left ∧
          callStep m c = { m.moveCall c call (.closing left) with
            subs := m.subs.modify i Sub.stop })) := by
  unfold callStep
  split
  · exact .inl rfl
  · next call hc =>
    split
    · next hq =>
      cases hop : call.op
      · exact .inr ⟨call, hc, .inl ⟨hq, hop, rfl⟩⟩
      · cases hcl : m.closed
        · exact .inr ⟨call, hc, .inr (.inr (.inl ⟨hq, hop, rfl, rfl⟩))⟩
        · exact .inr ⟨call, hc, .inr (.inl ⟨hq, hop, rfl, rfl⟩)⟩
    · next i hq => exact .inr ⟨call, hc, .inr (.inr (.inr (.inl ⟨i, hq, rfl⟩)))⟩
    · next hq => exact .inr ⟨call, hc, .inr (.inr (.inr (.inr (.inl ⟨hq, rfl⟩))))⟩
    · next i left hq =>
      exact .inr ⟨call, hc, .inr (.inr (.inr (.inr (.inr (.inl ⟨i, left, hq, rfl⟩)))))⟩
    · next i left hq =>
      exact .inr ⟨call, hc, .inr (.inr (.inr (.inr (.inr (.inr ⟨i, left, hq, rfl⟩)))))⟩
    · exact .inl rfl
    · exact .inl rfl

/-! ## Streams the client will close -/

/-- Stream `i` was made and its channel is closed. -/
def Machine.Shut (m : Machine) (i : Nat) : Prop :=
  ∃ s, m.subs[i]? = some s ∧ s.channel.closed = true

/-- The streams a close at a place has still to close. -/
def Place.pending : Place → List Nat
  | .closing left | .hooking _ left => left
  | _ => []

/-- Stream `i` was made, and it is closed, or kept by the open client, or still to be closed by
a close under way. -/
def Machine.Tracked (m : Machine) (i : Nat) : Prop :=
  i < m.subs.length ∧
    (m.Shut i ∨ (m.closed = false ∧ i ∈ m.register) ∨ ∃ p ∈ m.places, i ∈ p.pending)

section Tracked

variable {m m' : Machine} {i : Nat}

/-- A closed stream stays closed when one stream is changed in a way that keeps closed ones
closed. -/
theorem Machine.Shut.modify {j : Nat} {f : Sub → Sub}
    (hf : ∀ s, s.channel.closed = true → (f s).channel.closed = true)
    (hsubs : m'.subs = m.subs.modify j f) (h : m.Shut i) : m'.Shut i := by
  obtain ⟨s, hs, hcl⟩ := h
  refine ⟨if j = i then f s else s, by simp [hsubs, List.getElem?_modify, hs], ?_⟩
  split
  · exact hf s hcl
  · exact hcl

theorem Machine.Shut.append (hsubs : m'.subs = m.subs ++ [({} : Sub)]) (h : m.Shut i) :
    m'.Shut i := by
  obtain ⟨s, hs, hcl⟩ := h
  refine ⟨s, ?_, hcl⟩
  rw [hsubs, List.getElem?_append_left (List.getElem?_eq_some_iff.1 hs).1, hs]

/-- A call's move keeps a stream tracked when streams stay made and closed, a stream the client
keeps stays tracked, and a stream the moved call had still to close it still has, or is closed.
-/
theorem Machine.Tracked.of_set {c : Nat} {call : Call} {p : Place}
    (hc : m.calls[c]? = some call) (hcalls : m'.calls = m.calls.set c { call with place := p })
    (hlen : m.subs.length ≤ m'.subs.length) (hshut : m.Shut i → m'.Shut i)
    (hkept : i < m.subs.length → m.closed = false → i ∈ m.register → m'.Tracked i)
    (hmoved : i ∈ call.place.pending → i ∈ p.pending ∨ m'.Shut i) (h : m.Tracked i) :
    m'.Tracked i := by
  obtain ⟨hi, hsh | ⟨hcl, hreg⟩ | ⟨q, hq, hpend⟩⟩ := h
  · exact ⟨by omega, .inl (hshut hsh)⟩
  · exact hkept hi hcl hreg
  · by_cases hne : q = call.place
    · rw [hne] at hpend
      rcases hmoved hpend with hp | hsh
      · exact ⟨by omega, .inr (.inr ⟨p, mem_places_set hc hcalls, hp⟩)⟩
      · exact ⟨by omega, .inl hsh⟩
    · exact ⟨by omega, .inr (.inr ⟨q, mem_places_set_of_ne hc hcalls hq hne, hpend⟩)⟩

/-- Every call's step keeps a stream tracked. -/
theorem Machine.Tracked.callStep (h : m.Tracked i) (c : Nat) : (callStep m c).Tracked i := by
  -- a stream the client keeps stays so when the client, its registry and its streams stay
  have kept : ∀ m' : Machine, m'.closed = m.closed → m'.register = m.register →
      m'.subs.length = m.subs.length → i < m.subs.length → m.closed = false →
      i ∈ m.register → m'.Tracked i := fun m' hcl hreg hlen hi ho hi' =>
    ⟨hlen ▸ hi, .inr (.inl ⟨hcl ▸ ho, hreg ▸ hi'⟩)⟩
  rcases callStep_cases m c with hm | ⟨call, hc, ⟨hq, -, hm⟩ | ⟨hq, -, -, hm⟩ | ⟨hq, -, -, hm⟩ |
      ⟨j, hq, hm⟩ | ⟨hq, hm⟩ | ⟨j, left, hq, hm⟩ | ⟨j, left, hq, hm⟩⟩ <;> rw [hm]
  · exact h
  · refine h.of_set hc rfl (by simp) (Machine.Shut.append rfl) ?_ (by simp [hq, Place.pending])
    intro hi ho hi'
    exact ⟨by simp; omega, .inr (.inl ⟨ho, hi'⟩)⟩
  · exact h.of_set hc rfl (Nat.le_refl _) id (kept _ rfl rfl rfl) (by simp [hq, Place.pending])
  · -- the close takes the registry, and has every stream in it still to close
    refine h.of_set hc rfl (Nat.le_refl _) id ?_ (by simp [hq, Place.pending])
    exact fun hi _ hi' => ⟨hi, .inr (.inr ⟨_, mem_places_set hc rfl, hi'⟩)⟩
  · -- the registry drops only closed streams
    refine h.of_set hc rfl (Nat.le_refl _) id (fun hi ho hi' => ⟨hi, ?_⟩) (by simp [hq, Place.pending])
    cases hopen : m.isOpen i
    · obtain ⟨s, hs⟩ : ∃ s, m.subs[i]? = some s := ⟨_, List.getElem?_eq_getElem hi⟩
      exact .inl ⟨s, hs, by simpa [Machine.isOpen, hs] using hopen⟩
    · exact .inr (.inl ⟨ho, List.mem_append_left _ (List.mem_filter.2 ⟨hi', hopen⟩)⟩)
  · exact h.of_set hc rfl (Nat.le_refl _) id (kept _ rfl rfl rfl) (by simp [hq, Place.pending])
  · -- the close shuts stream `j`, and keeps the rest to close
    refine h.of_set hc rfl (by simp) (Machine.Shut.modify (fun s _ => Sub.shut_closed s) rfl)
      (kept _ rfl rfl (by simp)) ?_
    rw [hq]
    intro hi
    rcases List.mem_cons.1 hi with rfl | hi
    · obtain ⟨s, hs⟩ : ∃ s, m.subs[i]? = some s := ⟨_, List.getElem?_eq_getElem h.1⟩
      exact .inr ⟨s.shut, by simp [List.getElem?_modify_eq, hs], Sub.shut_closed s⟩
    · left
      split <;> exact hi
  · -- the close stops the transport of stream `j`, and keeps the rest to close
    refine h.of_set hc rfl (by simp) (Machine.Shut.modify (f := Sub.stop) (fun _ hs => hs) rfl)
      (kept _ rfl rfl (by simp)) ?_
    rw [hq]
    exact .inl

/-- A worker's step keeps a stream tracked. -/
theorem Machine.Tracked.workerStep (h : m.Tracked i) (j : Nat) :
    (workerStep m j).Tracked i := by
  obtain ⟨hi, hrest⟩ := h
  refine ⟨by simpa [Lifecycle.workerStep] using hi, ?_⟩
  rcases hrest with hsh | hreg | hpend
  · exact .inl (hsh.modify (fun _ => Sub.workerStep_closed) rfl)
  · exact .inr (.inl hreg)
  · exact .inr (.inr hpend)

theorem Machine.Tracked.step (h : m.Tracked i) : ∀ t, (step m t).Tracked i
  | .call c => h.callStep c
  | .worker j => h.workerStep j

/-- A tracked stream stays tracked to the end of any run. -/
theorem Machine.Tracked.run (h : m.Tracked i) (turns : List Turn) : (run m turns).Tracked i := by
  induction turns generalizing m with
  | nil => exact h
  | cons t ts ih => exact ih (h.step t)

end Tracked

/-! ## What every run keeps -/

/-- A close has taken the hook of stream `i` and is about to stop its transport. -/
def Machine.Hooking (m : Machine) (i : Nat) : Prop :=
  ∃ left, Place.hooking i left ∈ m.places

/-- Whether a place is one of a close at work: past its start and not returned. -/
def Place.working : Place → Bool
  | .closing _ | .hooking _ _ => true
  | _ => false

/-- What holds of every state a run reaches. -/
structure Machine.Sound (m : Machine) : Prop where
  /-- An open channel's hook still waits. -/
  hooked : ∀ (i : Nat) (s : Sub), m.subs[i]? = some s → s.channel.closed = false → s.channel.hooked = true
  /-- A closed channel's hook ran, or the worker or the close that took it is about to run it. -/
  settling : ∀ (i : Nat) (s : Sub), m.subs[i]? = some s → s.channel.closed = true →
    s.stopped = true ∨ s.worker = .hooking ∨ m.Hooking i
  /-- A subscription about to register its stream made it. -/
  registering : ∀ i, Place.registering i ∈ m.places → i < m.subs.length
  /-- While the client is open, every stream a subscription gave back is tracked. -/
  gave : ∀ i, Place.gave i ∈ m.places → m.closed = false → m.Tracked i
  /-- A close that moved left the client closed. -/
  closes : ∀ call ∈ m.calls, call.op = .close → call.place ≠ .start → m.closed = true
  /-- Once the client is closed, its own transport was closed once or one close is at work to
  close it; before, neither. -/
  once : m.ownCloses + m.places.countP Place.working = if m.closed then 1 else 0

theorem sound_init (ops : List Op) : (Machine.init ops).Sound where
  hooked i s hs := by simp [Machine.init] at hs
  settling i s hs := by simp [Machine.init] at hs
  registering i hi := by simp [Machine.places, Machine.init] at hi
  gave i hi := by simp [Machine.places, Machine.init] at hi
  closes call hc := by
    simp only [Machine.init, List.mem_map] at hc
    obtain ⟨op, -, rfl⟩ := hc
    simp
  once := by simp [Machine.places, Machine.init, List.countP_eq_zero, Place.working]

section Move

variable {m m' : Machine} {c : Nat} {call : Call} {p : Place} (h : m.Sound)
  (hc : m.calls[c]? = some call) (hcalls : m'.calls = m.calls.set c { call with place := p })
include hc hcalls

/-- A close about to stop a transport is still there when another call moves. -/
theorem hooking_of_set {i : Nat} (hq : ∀ left, call.place ≠ .hooking i left)
    (hi : m.Hooking i) : m'.Hooking i := by
  obtain ⟨left, hl⟩ := hi
  exact ⟨left, mem_places_set_of_ne hc hcalls hl (hq left).symm⟩

include h

/-- A stream a move leaves as it was stays settling, when the moved call was not the one about
to stop its transport. -/
theorem Machine.Sound.settling_of_set {i : Nat} {s : Sub}
    (hq : ∀ left, call.place ≠ .hooking i left) (hs : m.subs[i]? = some s)
    (hcl : s.channel.closed = true) : s.stopped = true ∨ s.worker = .hooking ∨ m'.Hooking i := by
  rcases h.settling i s hs hcl with hst | hw | hk
  · exact .inl hst
  · exact .inr (.inl hw)
  · exact .inr (.inr (hooking_of_set hc hcalls hq hk))

/-- A move that leaves the streams as they were keeps them sound, when the moved call was not
one about to stop a transport. -/
theorem Machine.Sound.streams_of_set (hsubs : m'.subs = m.subs)
    (hq : ∀ i left, call.place ≠ .hooking i left) :
    (∀ (i : Nat) (s : Sub), m'.subs[i]? = some s → s.channel.closed = false →
        s.channel.hooked = true) ∧
      ∀ (i : Nat) (s : Sub), m'.subs[i]? = some s → s.channel.closed = true →
        s.stopped = true ∨ s.worker = .hooking ∨ m'.Hooking i :=
  ⟨fun i s hs => h.hooked i s (hsubs ▸ hs),
    fun i _ hs => h.settling_of_set hc hcalls (hq i) (hsubs ▸ hs)⟩

omit hc in
theorem Machine.Sound.registering_of_set (hlen : m.subs.length ≤ m'.subs.length)
    (hnew : ∀ i, p = .registering i → i < m'.subs.length) :
    ∀ i, Place.registering i ∈ m'.places → i < m'.subs.length := by
  intro i hi
  rcases mem_places_of_set hcalls hi with hi | hi
  · exact Nat.lt_of_lt_of_le (h.registering i hi) hlen
  · exact hnew i hi.symm

omit hc in
theorem Machine.Sound.gave_of_set (hmono : m.closed = true → m'.closed = true)
    (tracked : ∀ i, m.Tracked i → m'.Tracked i)
    (hnew : ∀ i, p = .gave i → m'.closed = false → m'.Tracked i) :
    ∀ i, Place.gave i ∈ m'.places → m'.closed = false → m'.Tracked i := by
  intro i hi ho
  have hopen : m.closed = false := by
    cases hcl : m.closed
    · rfl
    · simp [hmono hcl] at ho
  rcases mem_places_of_set hcalls hi with hi | hi
  · exact tracked i (h.gave i hi hopen)
  · exact hnew i hi.symm ho

theorem Machine.Sound.closes_of_set (hmono : m.closed = true → m'.closed = true)
    (hstart : call.op = .close → call.place = .start → m'.closed = true) :
    ∀ d ∈ m'.calls, d.op = .close → d.place ≠ .start → m'.closed = true := by
  intro d hd hop hq
  rcases mem_calls_of_set hcalls hd with hd | rfl
  · exact hmono (h.closes d hd hop hq)
  · by_cases hs : call.place = .start
    · exact hstart hop hs
    · exact hmono (h.closes call (List.mem_of_getElem? hc) hop hs)

/-- The count of closes at work changes by what the move does to the client's own transport and
to whether the client is closed. -/
theorem Machine.Sound.once_of_set
    (hown : m'.ownCloses + (if p.working then 1 else 0) + (if m.closed then 1 else 0) =
      m.ownCloses + (if call.place.working then 1 else 0) + (if m'.closed then 1 else 0)) :
    m'.ownCloses + m'.places.countP Place.working = if m'.closed then 1 else 0 := by
  have hcount := countP_places_of_set hc hcalls Place.working
  have hbefore := h.once
  omega

end Move

/-! ### What each step does to a sound state -/

section Step

variable {m : Machine} {c : Nat} {call : Call} (h : m.Sound) (hc : m.calls[c]? = some call)
include h hc

/-- A subscription makes its stream, open with its hook waiting, and starts its worker. -/
theorem Machine.Sound.subscribe (hq : call.place = .start) (hop : call.op = .subscribe)
    (hm : callStep m c =
      { m.moveCall c call (.registering m.subs.length) with subs := m.subs ++ [{}] }) :
    (callStep m c).Sound := by
  have hcalls : (callStep m c).calls =
      m.calls.set c { call with place := .registering m.subs.length } := by rw [hm]; rfl
  have hsubs : (callStep m c).subs = m.subs ++ [({} : Sub)] := by rw [hm]
  refine ⟨?_, ?_, h.registering_of_set hcalls (by simp [hsubs]) ?_,
    h.gave_of_set hcalls (by simp [hm]) (fun i hi => hi.callStep c) (by simp),
    h.closes_of_set hc hcalls (by simp [hm]) (by simp [hop]),
    h.once_of_set hc hcalls (by simp [hm, hq, Place.working])⟩
  · intro i s hs ho
    rw [hsubs] at hs
    rcases exists_of_append hs with hs | rfl
    · exact h.hooked i s hs ho
    · rfl
  · intro i s hs hcl
    rw [hsubs] at hs
    rcases exists_of_append hs with hs | rfl
    · exact h.settling_of_set hc hcalls (by simp [hq]) hs hcl
    · cases hcl
  · intro i hi
    simp only [Place.registering.injEq] at hi
    simp [hsubs, ← hi]

/-- A close that finds the client closed returns at once. -/
theorem Machine.Sound.closeAgain (hq : call.place = .start) (hcl : m.closed = true)
    (hm : callStep m c = m.moveCall c call .returned) : (callStep m c).Sound := by
  have hcalls : (callStep m c).calls = m.calls.set c { call with place := .returned } := by
    rw [hm]; rfl
  obtain ⟨hooked, settling⟩ := h.streams_of_set hc hcalls (by rw [hm]; rfl) (by simp [hq])
  refine ⟨hooked, settling,
    h.registering_of_set hcalls (by simp [hm]) (by simp),
    h.gave_of_set hcalls (by simp [hm]) (fun i hi => hi.callStep c) (by simp),
    h.closes_of_set hc hcalls (by simp [hm]) (fun _ _ => by simp [hm, hcl]),
    h.once_of_set hc hcalls (by simp [hm, hq, Place.working])⟩

/-- The first close marks the client closed and takes the registry. -/
theorem Machine.Sound.closeFirst (hq : call.place = .start) (hcl : m.closed = false)
    (hm : callStep m c = { m.moveCall c call (.closing m.register) with
      closed := true, register := [] }) : (callStep m c).Sound := by
  have hcalls : (callStep m c).calls = m.calls.set c { call with place := .closing m.register } :=
    by rw [hm]; rfl
  obtain ⟨hooked, settling⟩ := h.streams_of_set hc hcalls (by rw [hm]; rfl) (by simp [hq])
  refine ⟨hooked, settling,
    h.registering_of_set hcalls (by simp [hm]) (by simp),
    h.gave_of_set hcalls (by simp [hm]) (fun i hi => hi.callStep c) (by simp),
    h.closes_of_set hc hcalls (by simp [hm]) (fun _ _ => by simp [hm]),
    h.once_of_set hc hcalls (by simp [hm, hq, hcl, Place.working])⟩

/-- A subscription registers its stream, dropping the closed ones, and gives it back. -/
theorem Machine.Sound.register {i : Nat} (hq : call.place = .registering i)
    (hm : callStep m c = { m.moveCall c call (.gave i) with
      register := m.register.filter m.isOpen ++ [i] }) : (callStep m c).Sound := by
  have hcalls : (callStep m c).calls = m.calls.set c { call with place := .gave i } := by
    rw [hm]; rfl
  -- the stream it gives back was made, and is in the registry
  have hnew : ∀ j, Place.gave i = .gave j → (callStep m c).closed = false →
      (callStep m c).Tracked j := by
    intro j hj ho
    simp only [Place.gave.injEq] at hj
    subst hj
    have hi := h.registering i (hq ▸ List.mem_of_getElem? (place_of_calls hc))
    exact ⟨by simpa [hm] using hi, .inr (.inl ⟨ho, by simp [hm]⟩)⟩
  obtain ⟨hooked, settling⟩ := h.streams_of_set hc hcalls (by rw [hm]; rfl) (by simp [hq])
  refine ⟨hooked, settling,
    h.registering_of_set hcalls (by simp [hm]) (by simp),
    h.gave_of_set hcalls (by simp [hm]) (fun i hi => hi.callStep c) hnew,
    h.closes_of_set hc hcalls (by simp [hm]) (by simp [hq]),
    h.once_of_set hc hcalls (by simp [hm, hq, Place.working])⟩

/-- A close with no stream left to close closes the client's own transport and returns. -/
theorem Machine.Sound.closeOwn (hq : call.place = .closing [])
    (hm : callStep m c = { m.moveCall c call .returned with ownCloses := m.ownCloses + 1 }) :
    (callStep m c).Sound := by
  have hcalls : (callStep m c).calls = m.calls.set c { call with place := .returned } := by
    rw [hm]; rfl
  obtain ⟨hooked, settling⟩ := h.streams_of_set hc hcalls (by rw [hm]; rfl) (by simp [hq])
  refine ⟨hooked, settling,
    h.registering_of_set hcalls (by simp [hm]) (by simp),
    h.gave_of_set hcalls (by simp [hm]) (fun i hi => hi.callStep c) (by simp),
    h.closes_of_set hc hcalls (by simp [hm]) (by simp [hq]),
    h.once_of_set hc hcalls (by simp [hm, hq, Place.working])⟩

/-- A close closes the next stream it took, and goes to stop its transport if it took the
hook. -/
theorem Machine.Sound.closeStream {j : Nat} {left : List Nat}
    (hq : call.place = .closing (j :: left))
    (hm : callStep m c = { m.moveCall c call
        (if m.subs[j]?.any Sub.takesHook then .hooking j left else .closing left) with
      subs := m.subs.modify j Sub.shut }) : (callStep m c).Sound := by
  have hcalls : (callStep m c).calls = m.calls.set c { call with place :=
      (if m.subs[j]?.any Sub.takesHook then .hooking j left else .closing left) } := by
    rw [hm]; rfl
  have hsubs : (callStep m c).subs = m.subs.modify j Sub.shut := by rw [hm]
  have hwork : (if m.subs[j]?.any Sub.takesHook then Place.hooking j left
      else .closing left).working = true := by
    split <;> rfl
  refine ⟨?_, ?_, h.registering_of_set hcalls (by simp [hsubs]) (by split <;> simp),
    h.gave_of_set hcalls (by simp [hm]) (fun i hi => hi.callStep c) (by split <;> simp),
    h.closes_of_set hc hcalls (by simp [hm]) (by simp [hq]),
    h.once_of_set hc hcalls (by rw [hwork, hq]; simp [hm, Place.working])⟩
  · intro i s' hs ho
    rw [hsubs] at hs
    rcases modify_cases hs with ⟨rfl, s, -, rfl⟩ | ⟨-, hs⟩
    · simp at ho
    · exact h.hooked i s' hs ho
  · intro i s' hs hcl
    rw [hsubs] at hs
    rcases modify_cases hs with ⟨rfl, s, hs0, rfl⟩ | ⟨-, hs⟩
    · cases ht : s.takesHook
      · -- the close took no hook: the channel was closed already, and is as it was
        have hshut := Sub.closed_of_not_takesHook (h.hooked j s hs0) ht
        rw [Sub.shut_of_closed hshut]
        exact h.settling_of_set hc hcalls (by simp [hq]) hs0 hshut
      · -- the close took the hook, and is about to stop the transport
        have hnew := mem_places_set hc hcalls
        simp only [hs0, Option.any_some, ht, if_true] at hnew
        exact .inr (.inr ⟨left, hnew⟩)
    · exact h.settling_of_set hc hcalls (by simp [hq]) hs hcl

/-- A close that took a stream's hook stops its transport. -/
theorem Machine.Sound.stopStream {j : Nat} {left : List Nat} (hq : call.place = .hooking j left)
    (hm : callStep m c = { m.moveCall c call (.closing left) with
      subs := m.subs.modify j Sub.stop }) : (callStep m c).Sound := by
  have hcalls : (callStep m c).calls = m.calls.set c { call with place := .closing left } := by
    rw [hm]; rfl
  have hsubs : (callStep m c).subs = m.subs.modify j Sub.stop := by rw [hm]
  refine ⟨?_, ?_, h.registering_of_set hcalls (by simp [hsubs]) (by simp),
    h.gave_of_set hcalls (by simp [hm]) (fun i hi => hi.callStep c) (by simp),
    h.closes_of_set hc hcalls (by simp [hm]) (by simp [hq]),
    h.once_of_set hc hcalls (by simp [hm, hq, Place.working])⟩
  · intro i s' hs ho
    rw [hsubs] at hs
    rcases modify_cases hs with ⟨rfl, s, hs0, rfl⟩ | ⟨-, hs⟩
    · exact h.hooked j s hs0 ho
    · exact h.hooked i s' hs ho
  · intro i s' hs hcl
    rw [hsubs] at hs
    rcases modify_cases hs with ⟨rfl, s, -, rfl⟩ | ⟨hji, hs⟩
    · exact .inl rfl
    · -- another stream: the close that stops `j`'s transport is not the one about to stop `i`'s
      exact h.settling_of_set hc hcalls (by simp [hq, hji]) hs hcl

end Step

/-- Every call's step keeps the client sound. -/
theorem Machine.Sound.callStep {m : Machine} (h : m.Sound) (c : Nat) : (callStep m c).Sound := by
  rcases callStep_cases m c with hm | ⟨call, hc, ⟨hq, hop, hm⟩ | ⟨hq, -, hcl, hm⟩ |
      ⟨hq, -, hcl, hm⟩ | ⟨j, hq, hm⟩ | ⟨hq, hm⟩ | ⟨j, left, hq, hm⟩ | ⟨j, left, hq, hm⟩⟩
  · rw [hm]
    exact h
  · exact h.subscribe hc hq hop hm
  · exact h.closeAgain hc hq hcl hm
  · exact h.closeFirst hc hq hcl hm
  · exact h.register hc hq hm
  · exact h.closeOwn hc hq hm
  · exact h.closeStream hc hq hm
  · exact h.stopStream hc hq hm

/-- A worker's step keeps the client sound: a worker that closes an open channel takes its hook,
and one that took it stops the transport. -/
theorem Machine.Sound.workerStep {m : Machine} (h : m.Sound) (j : Nat) :
    (workerStep m j).Sound := by
  have hsubs : (Lifecycle.workerStep m j).subs = m.subs.modify j Sub.workerStep := rfl
  refine ⟨?_, ?_, fun i hi => by simpa [hsubs] using h.registering i hi,
    fun i hi ho => (h.gave i hi ho).workerStep j, h.closes, h.once⟩
  · intro i s' hs ho
    rw [hsubs] at hs
    rcases modify_cases hs with ⟨rfl, s, hs0, rfl⟩ | ⟨-, hs⟩
    · exact Sub.workerStep_hooked (h.hooked j s hs0) ho
    · exact h.hooked i s' hs ho
  · intro i s' hs hcl
    rw [hsubs] at hs
    rcases modify_cases hs with ⟨rfl, s, hs0, rfl⟩ | ⟨-, hs⟩
    · rcases Sub.workerStep_cases s with ⟨hw, he⟩ | ⟨-, he⟩ | ⟨-, he⟩
      · cases ht : s.takesHook
        · -- the worker took no hook: the channel was closed already, by a close
          have hshut := Sub.closed_of_not_takesHook (h.hooked j s hs0) ht
          rcases h.settling j s hs0 hshut with hst | hw' | hk
          · exact .inl (by simp [he, hst])
          · simp [hw] at hw'
          · exact .inr (.inr hk)
        · exact .inr (.inl (by simp [he, ht]))
      · exact .inl (by simp [he])
      · rw [he] at hcl ⊢
        exact h.settling j s hs0 hcl
    · exact h.settling i s' hs hcl

theorem Machine.Sound.step {m : Machine} (h : m.Sound) : ∀ t, (step m t).Sound
  | .call c => h.callStep c
  | .worker j => h.workerStep j

/-- Every run keeps the client sound. -/
theorem Machine.Sound.run {m : Machine} (h : m.Sound) (turns : List Turn) :
    (run m turns).Sound := by
  induction turns generalizing m with
  | nil => exact h
  | cons t ts ih => exact ih (h.step t)

/-! ## Once every call has returned -/

/-- The calls keep what they do. -/
theorem ops_step (m : Machine) (t : Turn) :
    (step m t).calls.map Call.op = m.calls.map Call.op := by
  cases t with
  | worker j => rfl
  | call c =>
    rcases callStep_cases m c with hm | ⟨call, hc, hcase⟩
    · simp only [step, hm]
    · -- the moved call keeps its operation, and every other call is as it was
      have hcalls : ∃ p, (callStep m c).calls = m.calls.set c { call with place := p } := by
        rcases hcase with ⟨-, -, hm⟩ | ⟨-, -, -, hm⟩ | ⟨-, -, -, hm⟩ | ⟨_, -, hm⟩ | ⟨-, hm⟩ |
          ⟨_, _, -, hm⟩ | ⟨_, _, -, hm⟩ <;> exact ⟨_, by rw [hm]; rfl⟩
      obtain ⟨p, hcalls⟩ := hcalls
      simp only [step, hcalls, List.map_set]
      apply List.ext_getElem?
      intro d
      rw [List.getElem?_set]
      split
      · next hcd =>
        subst hcd
        obtain ⟨hlt, heq⟩ := List.getElem?_eq_some_iff.1 hc
        simp [hlt, heq]
      · rfl

theorem ops_run (m : Machine) (turns : List Turn) :
    (run m turns).calls.map Call.op = m.calls.map Call.op := by
  induction turns generalizing m with
  | nil => rfl
  | cons t ts ih => exact (ih (step m t)).trans (ops_step m t)

/-- A returned call is at no place of a close at work. -/
theorem Place.not_working {p : Place} (h : p.done = true) : p.working = false ∧ p.pending = [] := by
  cases p <;> simp_all [Place.done, Place.working, Place.pending]

section Finished

variable {m : Machine} (h : m.Sound) (hdone : m.Finished)
include h hdone

/-- Once every call has returned, the client is closed if one of them was a close. -/
theorem Machine.Sound.closed_of_finished (hop : Op.close ∈ m.calls.map Call.op) :
    m.closed = true := by
  obtain ⟨call, hmem, hclose⟩ := List.mem_map.1 hop
  have hd := hdone call.place (List.mem_map_of_mem hmem)
  exact h.closes call hmem hclose (fun hs => by simp [hs, Place.done] at hd)

/-- Once every call has returned, the client's own transport was closed once if the client is
closed, and never otherwise. -/
theorem Machine.Sound.ownCloses_of_finished : m.ownCloses = if m.closed then 1 else 0 := by
  have hnone : m.places.countP Place.working = 0 :=
    List.countP_eq_zero.2 fun p hp => by simp [(Place.not_working (hdone p hp)).1]
  simpa [hnone] using h.once

/-- Once every call has returned and the client is closed, a tracked stream is settled. -/
theorem Machine.Sound.settled_of_tracked (hclosed : m.closed = true) {i : Nat}
    (ht : m.Tracked i) : m.Settled i := by
  obtain ⟨-, ⟨s, hs, hcl⟩ | ⟨ho, -⟩ | ⟨p, hp, hpend⟩⟩ := ht
  · refine ⟨s, hs, ?_⟩
    rcases h.settling i s hs hcl with hst | hw | ⟨left, hl⟩
    · simp [Sub.settled, hcl, hst]
    · simp [Sub.settled, hcl, hw]
    · -- no close is at work any more
      have hwork := (Place.not_working (hdone _ hl)).1
      simp [Place.working] at hwork
  · simp [hclosed] at ho
  · simp [(Place.not_working (hdone p hp)).2] at hpend

end Finished

/-- However the calls interleave, once every call has returned and one of them was a close:
every stream a subscription gave back while the client was still open is closed, with its
transport stopped or being stopped by its worker; and the client's own transport was closed
exactly once. -/
theorem closed_client_settles (ops : List Op) (turns : List Turn) (hclose : Op.close ∈ ops)
    (hdone : (run (Machine.init ops) turns).Finished) :
    (∀ k i, (run (Machine.init ops) (turns.take k)).closed = false →
        Place.gave i ∈ (run (Machine.init ops) (turns.take k)).places →
        (run (Machine.init ops) turns).Settled i) ∧
      (run (Machine.init ops) turns).ownCloses = 1 := by
  have hsound := (sound_init ops).run turns
  have hops : Op.close ∈ (run (Machine.init ops) turns).calls.map Call.op := by
    rw [ops_run]
    simpa [Machine.init] using hclose
  have hclosed := hsound.closed_of_finished hdone hops
  refine ⟨fun k i ho hgave => ?_, by simpa [hclosed] using hsound.ownCloses_of_finished hdone⟩
  -- the stream is tracked from the moment it was given back, and stays so to the end
  have htracked := ((sound_init ops).run (turns.take k)).gave i hgave ho
  have hsplit : run (Machine.init ops) turns =
      run (run (Machine.init ops) (turns.take k)) (turns.drop k) := by
    rw [run, run, run, ← List.foldl_append, List.take_append_drop]
  rw [hsplit] at hdone hclosed hsound ⊢
  exact hsound.settled_of_tracked hdone hclosed (htracked.run _)

/-- Two subscriptions and two closes: the second stream ends on its own before it is registered,
and the second close finds the client closed. -/
def twoOfEach : List Turn :=
  [.call 0, .call 1, .call 0, .worker 1, .call 1, .call 2, .call 3, .call 2, .call 2, .call 2,
    .call 2, .worker 1]

theorem closed_client_settles_twoOfEach :
    Op.close ∈ [Op.subscribe, .subscribe, .close, .close] ∧
      (run (Machine.init [.subscribe, .subscribe, .close, .close]) twoOfEach).Finished ∧
      (run (Machine.init [.subscribe, .subscribe, .close, .close]) twoOfEach).Settled 0 ∧
      (run (Machine.init [.subscribe, .subscribe, .close, .close]) twoOfEach).Settled 1 ∧
      (run (Machine.init [.subscribe, .subscribe, .close, .close]) twoOfEach).ownCloses = 1 := by
  have hclose : Op.close ∈ [Op.subscribe, .subscribe, .close, .close] := by decide
  have hdone : (run (Machine.init [.subscribe, .subscribe, .close, .close]) twoOfEach).Finished :=
    by decide
  obtain ⟨settles, once⟩ := closed_client_settles _ _ hclose hdone
  exact ⟨hclose, hdone, settles 5 0 (by decide) (by decide), settles 5 1 (by decide) (by decide),
    once⟩

end AgentLink.Lifecycle
