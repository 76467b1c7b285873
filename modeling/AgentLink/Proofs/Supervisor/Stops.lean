import AgentLink.Supervisor.Server
import AgentLink.Proofs.Supervisor.Machine

/-!
# Stops from several threads

A call of `stop` or `force_stop` takes the server's finalizer under the server's lock, shuts the
process down outside it, and takes the lock again to mark the server stopped (`StopCall`). Run
alone, such a call is `Server.shutdown` (`Stops.run_alone`).

Calls made on the owner of a process from several threads interleave between these steps
(`Stops`). Whatever the schedule, they stay where `Stops.Stage` says: no call has taken the
finalizer yet, or exactly one has and is shutting the process down, has shut it down, or has
marked the server stopped, every other call waiting for the lock or gone. A step of any call
keeps to it (`Stops.Stage.step`), and so does every run (`Stops.Stage.run`).

What this gives (`Stops.Settled`): at most one call takes the finalizer, the shutdown procedure
runs at most once on the process, and the call that took the finalizer returns only once the
process has exited, its status has been collected and the server is stopped. Every other call
finds no finalizer and returns at once, changing neither the process nor the server, even while
the process is still being shut down and the server is stopping.
-/

namespace AgentLink

namespace StopCall

/-- A call waiting for the lock, or one that gave up. -/
def idle : StopCall → Bool
  | .called _ | .gaveUp => true
  | _ => false

/-- A call that took the live finalizer of the server. -/
def tookFinalizer : StopCall → Bool
  | .shutting _ _ | .finishing | .stopped => true
  | _ => false

/-- A call that took the finalizer and has not yet marked the server stopped. -/
def busy : StopCall → Bool
  | .shutting _ _ | .finishing => true
  | _ => false

theorem idle_of_tookFinalizer {c : StopCall} (h : c.tookFinalizer = true) : c.idle = false := by
  cases c <;> simp_all [tookFinalizer, idle]

theorem tookFinalizer_of_busy {c : StopCall} (h : c.busy = true) : c.tookFinalizer = true := by
  cases c <;> simp_all [busy, tookFinalizer]

variable {s : Server} {m : Machine}

/-- A call that finds no finalizer gives up, and nothing changes. -/
theorem step_idle {c : StopCall} (hc : c.idle = true) (h : s.finalizer = none) :
    c.step s m = (s, m, .gaveUp) := by
  cases c <;> simp_all [idle, step]

/-- A call that finds the owner's live finalizer takes it, and the server is stopping. -/
theorem step_called_owner {a p : Nat} (hf : s.finalizer = some a) (ht : m.target a = some p)
    (g : Bool) :
    (StopCall.called g).step s m =
      ({ s with finalizer := none, state := .stopping }, m, .shutting g a) := by
  simp [step, hf, Machine.isAlive, ht]

/-- The call holding the live finalizer detaches it and shuts its process down. -/
theorem step_shutting {a p : Nat} (ht : m.target a = some p) (g : Bool) :
    (StopCall.shutting g a).step s m = (s, (m.detach a).2.shutdown g p, .finishing) := by
  simp [step, Machine.detach, ht]

end StopCall

namespace Stops

/-! ## One step of one call -/

variable {st : Stops} {k : Nat}

theorem step_of_get {c : StopCall} (h : st.calls[k]? = some c) :
    st.step k = { server := (c.step st.server st.machine).1,
                  machine := (c.step st.server st.machine).2.1,
                  calls := st.calls.set k (c.step st.server st.machine).2.2 } := by
  simp [step, h]

theorem step_of_none (h : st.calls[k]? = none) : st.step k = st := by
  simp [step, h]

/-- Every call but call `k` is waiting for the lock or gone. -/
def IdleExcept (calls : List StopCall) (k : Nat) : Prop :=
  ∀ j c, j ≠ k → calls[j]? = some c → c.idle = true

/-- Setting call `k` itself, or another call to an idle one, keeps the others idle. -/
theorem IdleExcept.set {calls : List StopCall} {j : Nat} {c : StopCall}
    (h : IdleExcept calls k) (hc : j = k ∨ c.idle = true) : IdleExcept (calls.set j c) k := by
  intro i d hi hd
  rw [List.getElem?_set] at hd
  by_cases hji : j = i
  · subst hji
    rcases hc with rfl | hc
    · exact absurd rfl hi
    · rw [if_pos rfl] at hd
      split at hd
      · obtain rfl := Option.some.inj hd
        exact hc
      · cases hd
  · rw [if_neg hji] at hd
    exact h i d hi hd

/-- A call that is not idle is call `k`. -/
theorem IdleExcept.eq {calls : List StopCall} {j : Nat} {c : StopCall} (h : IdleExcept calls k)
    (hj : calls[j]? = some c) (hc : c.idle = false) : j = k :=
  Classical.byContradiction fun hne => by simp [h j c hne hj] at hc

/-- An idle call steps on a server with no finalizer: it gives up, and only it changes. -/
theorem step_idle {c : StopCall} (hk : st.calls[k]? = some c) (hc : c.idle = true)
    (h : st.server.finalizer = none) :
    st.step k = { st with calls := st.calls.set k .gaveUp } := by
  rw [step_of_get hk, StopCall.step_idle hc h]

/-! ## Where the calls can be -/

/-- Where calls on the owner `s` of the process `p`, through its live finalizer `a` on the
machine `m`, can be. The call that took the finalizer, if any, and where it is fix the server
and the machine; every other call is waiting for the lock or gave up. -/
inductive Stage (s : Server) (m : Machine) (a p : Nat) : Stops → Prop where
  /-- No call has taken the finalizer. -/
  | untouched {calls : List StopCall} (idle : ∀ c ∈ calls, c.idle = true) :
    Stage s m a p ⟨s, m, calls⟩
  /-- Call `k` took the finalizer and is about to shut the process down. -/
  | taken {calls : List StopCall} {k : Nat} {g : Bool} (hk : calls[k]? = some (.shutting g a))
    (idle : IdleExcept calls k) :
    Stage s m a p ⟨{ s with finalizer := none, state := .stopping }, m, calls⟩
  /-- Call `k` shut the process down and is about to mark the server stopped. -/
  | shut {calls : List StopCall} {k : Nat} (g : Bool) (hk : calls[k]? = some .finishing)
    (idle : IdleExcept calls k) :
    Stage s m a p ⟨{ s with finalizer := none, state := .stopping },
      (m.detach a).2.shutdown g p, calls⟩
  /-- Call `k` marked the server stopped and returned. -/
  | done {calls : List StopCall} {k : Nat} (g : Bool) (hk : calls[k]? = some .stopped)
    (idle : IdleExcept calls k) :
    Stage s m a p ⟨{ s with finalizer := none, state := .stopped },
      (m.detach a).2.shutdown g p, calls⟩

section Stage

variable {s : Server} {m : Machine} {a p : Nat}

theorem stage_begin (gs : List Bool) : Stage s m a p (begin s m gs) :=
  .untouched fun c hc => by
    obtain ⟨g, -, rfl⟩ := List.mem_map.1 hc
    rfl

/-- Once a call has taken the finalizer, another call that steps gives up, and the stage stays
as it is. -/
theorem Stage.step_other {calls : List StopCall} {k0 : Nat} {srv : Server} {mc : Machine}
    (hsrv : srv.finalizer = none) (hk0 : k ≠ k0) (hidle : IdleExcept calls k0)
    (hstage : ∀ calls', calls'[k0]? = calls[k0]? → IdleExcept calls' k0 →
      Stage s m a p ⟨srv, mc, calls'⟩) :
    Stage s m a p ((⟨srv, mc, calls⟩ : Stops).step k) := by
  cases hk : calls[k]? with
  | none =>
    rw [step_of_none hk]
    exact hstage calls rfl hidle
  | some c =>
    rw [step_idle hk (hidle k c hk0 hk) hsrv]
    exact hstage _ (List.getElem?_set_ne hk0) (hidle.set (.inr rfl))

/-- A step of any call keeps the calls where `Stage` says. -/
theorem Stage.step (hf : s.finalizer = some a) (ht : m.target a = some p) {st : Stops}
    (h : Stage s m a p st) (k : Nat) : Stage s m a p (st.step k) := by
  cases h with
  | untouched idle =>
    cases hk : ‹List StopCall›[k]? with
    | none => rw [step_of_none hk]; exact .untouched idle
    | some c =>
      have hlt : k < ‹List StopCall›.length := (List.getElem?_eq_some_iff.1 hk).1
      rw [step_of_get hk]
      cases c with
      | called g =>
        -- the first call to take the lock takes the live finalizer
        simp only [StopCall.step_called_owner hf ht]
        refine .taken (List.getElem?_set_self hlt) fun j d hj hd => ?_
        rw [List.getElem?_set_ne (Ne.symm hj)] at hd
        exact idle d (List.mem_of_getElem? hd)
      | gaveUp =>
        simp only [StopCall.step]
        refine .untouched fun d hd => ?_
        rcases List.mem_or_eq_of_mem_set hd with hd | rfl
        · exact idle d hd
        · rfl
      | _ => exact absurd (idle _ (List.mem_of_getElem? hk)) (by simp [StopCall.idle])
  | taken hk0 idle =>
    by_cases hkk : k = ‹Nat›
    · subst hkk
      rw [step_of_get hk0, StopCall.step_shutting ht]
      exact .shut _ (List.getElem?_set_self (List.getElem?_eq_some_iff.1 hk0).1)
        (idle.set (.inl rfl))
    · exact Stage.step_other rfl hkk idle fun _ h1 h2 => .taken (h1.trans hk0) h2
  | shut g hk0 idle =>
    by_cases hkk : k = ‹Nat›
    · subst hkk
      rw [step_of_get hk0]
      exact .done g (List.getElem?_set_self (List.getElem?_eq_some_iff.1 hk0).1)
        (idle.set (.inl rfl))
    · exact Stage.step_other rfl hkk idle fun _ h1 h2 => .shut g (h1.trans hk0) h2
  | done g hk0 idle =>
    by_cases hkk : k = ‹Nat›
    · subst hkk
      rw [step_of_get hk0]
      exact .done g (List.getElem?_set_self (List.getElem?_eq_some_iff.1 hk0).1)
        (idle.set (.inl rfl))
    · exact Stage.step_other rfl hkk idle fun _ h1 h2 => .done g (h1.trans hk0) h2

theorem Stage.run (hf : s.finalizer = some a) (ht : m.target a = some p) {st : Stops}
    (h : Stage s m a p st) (ks : List Nat) : Stage s m a p (st.run ks) := by
  induction ks generalizing st with
  | nil => exact h
  | cons k ks ih => exact ih (h.step hf ht k)

/-! ## What the calls have done -/

/-- What calls of `stop` and `force_stop` on the owner of the process `p`, interleaved, have
done at a point of their run. -/
structure Settled (st : Stops) (p : Nat) : Prop where
  /-- At most one call took the finalizer. -/
  oneTaker : ∀ (j k : Nat) (c d : StopCall), st.calls[j]? = some c → st.calls[k]? = some d →
    c.tookFinalizer = true → d.tookFinalizer = true → j = k
  /-- The shutdown procedure ran on the process at most once. -/
  once : st.machine.shutdowns.count p ≤ 1
  /-- The call that took the finalizer returned once the process had exited and its status was
  collected, leaving the server stopped and owning nothing. -/
  stoppedOnReturn : ∀ k : Nat, st.calls[k]? = some StopCall.stopped →
    (∃ c, st.machine.processes p = some (.exited c)) ∧ st.server.state = .stopped ∧
      st.server.finalizer = none
  /-- While the call that took the finalizer is at work, the server is stopping and owns
  nothing. -/
  stopping : ∀ (k : Nat) (c : StopCall), st.calls[k]? = some c → c.busy = true →
    st.server.state = .stopping ∧ st.server.finalizer = none
  /-- A call gives up only once another call took the finalizer, and changes neither the
  machine nor the server. -/
  givesUp : ∀ (k : Nat) (g : Bool), st.calls[k]? = some (.called g) → (st.step k).calls[k]? = some .gaveUp →
    (st.step k).machine = st.machine ∧ (st.step k).server = st.server ∧
      ∃ (j : Nat) (c : StopCall), j ≠ k ∧ st.calls[j]? = some c ∧ c.tookFinalizer = true

section Settled

variable {calls : List StopCall} {srv : Server} {mc : Machine}

/-- Before any call took the finalizer, a call that steps takes it. -/
theorem settled_untouched (hf : s.finalizer = some a) (ht : m.target a = some p)
    (hzero : m.shutdowns.count p = 0) (idle : ∀ c ∈ calls, c.idle = true) :
    Settled ⟨s, m, calls⟩ p := by
  -- no call has left the lock's first step
  have hidle : ∀ (k : Nat) (c : StopCall), calls[k]? = some c → c.idle = true := fun _ c hk =>
    idle c (List.mem_of_getElem? hk)
  refine ⟨fun j _ c _ hj _ hc _ => ?_, by simp [hzero], fun k hk => ?_, fun k c hk hc => ?_,
    fun k g hk hgave => ?_⟩
  · exact absurd (hidle j c hj) (by simp [StopCall.idle_of_tookFinalizer hc])
  · exact absurd (hidle k _ hk) (by simp [StopCall.idle])
  · exact absurd (hidle k c hk)
      (by simp [StopCall.idle_of_tookFinalizer (StopCall.tookFinalizer_of_busy hc)])
  · have hlt : k < calls.length := (List.getElem?_eq_some_iff.1 hk).1
    rw [step_of_get hk, StopCall.step_called_owner hf ht] at hgave
    simp [List.getElem?_set_self hlt] at hgave

/-- Once call `k0` took the finalizer, what the calls have done follows from where `k0` is. -/
theorem settled_of_taker {k0 : Nat} {c0 : StopCall} (hk0 : calls[k0]? = some c0)
    (hc0 : c0.tookFinalizer = true) (hidle : IdleExcept calls k0) (hsrv : srv.finalizer = none)
    (honce : mc.shutdowns.count p ≤ 1)
    (hstopped : c0 = .stopped → (∃ c, mc.processes p = some (.exited c)) ∧ srv.state = .stopped)
    (hbusy : c0.busy = true → srv.state = .stopping) :
    Settled ⟨srv, mc, calls⟩ p := by
  -- a call that is not idle is the one that took the finalizer
  have htaker : ∀ (k : Nat) (c : StopCall), calls[k]? = some c → c.idle = false → k = k0 ∧ c = c0 := by
    intro k c hk hc
    obtain rfl := hidle.eq hk hc
    exact ⟨rfl, Option.some.inj (hk.symm.trans hk0)⟩
  refine ⟨fun j k c d hj hk hc hd => ?_, honce, fun k hk => ?_, fun k c hk hc => ?_,
    fun k g hk _ => ?_⟩
  · rw [(htaker j c hj (StopCall.idle_of_tookFinalizer hc)).1,
      (htaker k d hk (StopCall.idle_of_tookFinalizer hd)).1]
  · obtain ⟨-, rfl⟩ := htaker k _ hk rfl
    exact ⟨(hstopped rfl).1, (hstopped rfl).2, hsrv⟩
  · obtain ⟨-, rfl⟩ :=
      htaker k c hk (StopCall.idle_of_tookFinalizer (StopCall.tookFinalizer_of_busy hc))
    exact ⟨hbusy hc, hsrv⟩
  · have hne : k ≠ k0 := by
      rintro rfl
      obtain rfl := Option.some.inj (hk.symm.trans hk0)
      cases hc0
    rw [step_idle hk rfl hsrv]
    exact ⟨rfl, rfl, k0, c0, hne.symm, hk0, hc0⟩

/-- Where `Stage` puts the calls, they have done what `Settled` says. -/
theorem Stage.settled (hf : s.finalizer = some a) (ht : m.target a = some p)
    (hunshut : p ∉ m.shutdowns) (hlaunched : (m.processes p).isSome) {st : Stops}
    (h : Stage s m a p st) : st.Settled p := by
  have hzero : m.shutdowns.count p = 0 := List.count_eq_zero.2 hunshut
  -- the shutdown procedure that ran since is the taker's
  have honce : ∀ g, ((m.detach a).2.shutdown g p).shutdowns.count p ≤ 1 := fun g => by
    simp [List.count_append, hzero]
  cases h with
  | untouched idle => exact settled_untouched hf ht hzero idle
  | taken hk idle =>
    exact settled_of_taker hk rfl idle rfl (by omega) (fun h => by cases h) fun _ => rfl
  | shut g hk idle =>
    exact settled_of_taker hk rfl idle rfl (honce g) (fun h => by cases h) fun _ => rfl
  | done g hk idle =>
    refine settled_of_taker hk rfl idle rfl (honce g) (fun _ => ⟨?_, rfl⟩) fun h => by cases h
    exact Machine.processes_shutdown_self _ _ _ (by simpa using hlaunched)

end Settled

end Stage

/-- Calls of `stop` and `force_stop` on the owner of a process, through its live finalizer, run
on any schedule: at every point they have done what `Settled` says. -/
theorem settled_run {s : Server} {m : Machine} {a p : Nat} (hf : s.finalizer = some a)
    (ht : m.target a = some p) (hunshut : p ∉ m.shutdowns) (hlaunched : (m.processes p).isSome)
    (gs : List Bool) (ks : List Nat) : ((begin s m gs).run ks).Settled p :=
  ((stage_begin gs).run hf ht ks).settled hf ht hunshut hlaunched

/-- A call run alone takes the finalizer, shuts the process down and marks the server stopped,
as `Server.shutdown` does in one go. -/
theorem run_alone (s : Server) (m : Machine) (g : Bool) :
    ((begin s m [g]).run [0, 0, 0]).server = (s.shutdown g m).1 ∧
      ((begin s m [g]).run [0, 0, 0]).machine = (s.shutdown g m).2 := by
  cases hf : s.finalizer with
  | none => simp [begin, run, step, StopCall.step, Server.shutdown, hf]
  | some a =>
    cases ht : m.target a with
    | none => simp [begin, run, step, StopCall.step, Server.shutdown, hf, Machine.isAlive, ht]
    | some p =>
      simp [begin, run, step, StopCall.step, Server.shutdown, hf, Machine.isAlive, ht,
        Machine.detach]

end Stops

end AgentLink
