import AgentLink.Supervisor.Machine

/-!
# What each step of a machine changes

One lemma for each part of the machine that a step changes, and one for each part it leaves
alone, so that later proofs never unfold a step.

* Finalizers: registering adds one, alive and for the given process, under a new number
  (`target_register_self`, `target_register_of_lt`); detaching kills the one detached and no
  other (`target_detach_self`, `target_detach_ne`); nothing else touches them.
* Registrations: detaching keeps the process of every finalizer (`registered_detach`),
  registering adds one (`registered_register`), and a dead finalizer detached again changes
  nothing (`detach_dead`).
* Runs of the shutdown procedure: only `Machine.shutdown` records one (`shutdowns_shutdown`).
* Processes: every step changes at most the process it names (`processes_shutdown_ne`, …), and
  a process once launched stays known (`isSome_processes_shutdown`, …). The shutdown procedure
  leaves its process exited, its status collected (`processes_shutdown_self`).
-/

namespace AgentLink.Machine

variable (m : Machine) (pid q : Nat)

/-! ## Process statuses -/

@[simp] theorem setStatus_finalizers (st : ProcessStatus) :
    (m.setStatus pid st).finalizers = m.finalizers := rfl

@[simp] theorem setStatus_shutdowns (st : ProcessStatus) :
    (m.setStatus pid st).shutdowns = m.shutdowns := rfl

@[simp] theorem setStatus_nextPid (st : ProcessStatus) :
    (m.setStatus pid st).nextPid = m.nextPid := rfl

@[simp] theorem processes_setStatus (st : ProcessStatus) :
    (m.setStatus pid st).processes q = if q = pid then some st else m.processes q := rfl

theorem isRunning_iff : m.isRunning pid = true ↔ m.processes pid = some .alive := by
  simp [isRunning]

@[simp] theorem exit_finalizers (c : Int) : (m.exit pid c).finalizers = m.finalizers := by
  unfold exit; split <;> rfl

@[simp] theorem exit_shutdowns (c : Int) : (m.exit pid c).shutdowns = m.shutdowns := by
  unfold exit; split <;> rfl

@[simp] theorem exit_nextPid (c : Int) : (m.exit pid c).nextPid = m.nextPid := by
  unfold exit; split <;> rfl

theorem processes_exit_ne (c : Int) (h : q ≠ pid) : (m.exit pid c).processes q = m.processes q := by
  unfold exit; split <;> simp [h]

/-- A process that exited by itself is no longer running. -/
@[simp] theorem isRunning_exit (c : Int) : (m.exit pid c).isRunning pid = false := by
  unfold exit
  split
  · simp [isRunning]
  · rename_i h; simpa using h

theorem isSome_processes_exit (c : Int) :
    ((m.exit pid c).processes q).isSome = (m.processes q).isSome := by
  unfold exit; split <;> simp_all [isRunning]; split <;> simp_all

@[simp] theorem waitFor_finalizers : (m.waitFor pid).1.finalizers = m.finalizers := by
  unfold waitFor; split <;> simp

@[simp] theorem waitFor_shutdowns : (m.waitFor pid).1.shutdowns = m.shutdowns := by
  unfold waitFor; split <;> simp

@[simp] theorem waitFor_nextPid : (m.waitFor pid).1.nextPid = m.nextPid := by
  unfold waitFor; split <;> simp

theorem processes_waitFor_ne (h : q ≠ pid) : (m.waitFor pid).1.processes q = m.processes q := by
  unfold waitFor; split <;> simp [processes_exit_ne _ _ _ _ h]

theorem isSome_processes_waitFor :
    ((m.waitFor pid).1.processes q).isSome = (m.processes q).isSome := by
  unfold waitFor; split <;> simp [isSome_processes_exit]

/-- Waiting for a process that exited gives the status it exited with. -/
theorem waitFor_exited {c : Int} (h : m.processes pid = some (.exited c)) :
    m.waitFor pid = (m, c) := by
  simp [waitFor, h]

/-! ## Launching -/

@[simp] theorem spawn_pid : m.spawn.1 = m.nextPid := rfl

@[simp] theorem spawn_finalizers : m.spawn.2.finalizers = m.finalizers := rfl

@[simp] theorem spawn_shutdowns : m.spawn.2.shutdowns = m.shutdowns := rfl

@[simp] theorem spawn_nextPid : m.spawn.2.nextPid = m.nextPid + 1 := rfl

theorem processes_spawn :
    m.spawn.2.processes q = if q = m.nextPid then some .alive else m.processes q := rfl

/-! ## The shutdown procedure -/

@[simp] theorem shutdown_finalizers (g : Bool) : (m.shutdown g pid).finalizers = m.finalizers := by
  unfold shutdown; split <;> rfl

@[simp] theorem shutdown_nextPid (g : Bool) : (m.shutdown g pid).nextPid = m.nextPid := by
  unfold shutdown; split <;> rfl

/-- Every run of the shutdown procedure is recorded. -/
@[simp] theorem shutdowns_shutdown (g : Bool) :
    (m.shutdown g pid).shutdowns = m.shutdowns ++ [pid] := by
  unfold shutdown; split <;> rfl

theorem processes_shutdown_ne (g : Bool) (h : q ≠ pid) :
    (m.shutdown g pid).processes q = m.processes q := by
  unfold shutdown; split <;> simp [h]

theorem isSome_processes_shutdown (g : Bool) :
    ((m.shutdown g pid).processes q).isSome = (m.processes q).isSome := by
  unfold shutdown
  split
  · rename_i hr
    by_cases hq : q = pid
    · subst hq; simp [(isRunning_iff _ _).1 hr]
    · simp [hq]
  · rfl

/-- After the shutdown procedure a launched process has exited, and its status is collected. -/
theorem processes_shutdown_self (g : Bool) (h : (m.processes pid).isSome) :
    ∃ c, (m.shutdown g pid).processes pid = some (.exited c) := by
  unfold shutdown
  split
  · exact ⟨if g then terminatedStatus else killedStatus, by simp⟩
  · rename_i hr
    show ∃ c, m.processes pid = some (.exited c)
    cases hp : m.processes pid with
    | none => simp [hp] at h
    | some st =>
      cases st with
      | alive => simp [isRunning, hp] at hr
      | exited c => exact ⟨c, rfl⟩

/-! ## Finalizers -/

/-- The process a finalizer is for depends on the registry alone. -/
theorem target_eq_of_finalizers {m' : Machine} (h : m'.finalizers = m.finalizers) (fid : Nat) :
    m'.target fid = m.target fid := by
  unfold target; rw [h]

@[simp] theorem register_fid : (m.register pid).1 = m.finalizers.length := rfl

@[simp] theorem register_shutdowns : (m.register pid).2.shutdowns = m.shutdowns := rfl

@[simp] theorem register_nextPid : (m.register pid).2.nextPid = m.nextPid := rfl

@[simp] theorem register_processes : (m.register pid).2.processes = m.processes := rfl

@[simp] theorem register_length :
    (m.register pid).2.finalizers.length = m.finalizers.length + 1 := by
  simp [register]

/-- A finalizer just registered is alive, for the process it was registered for. -/
theorem target_register_self : (m.register pid).2.target m.finalizers.length = some pid := by
  simp [register, target]

theorem target_register_of_lt {fid : Nat} (h : fid < m.finalizers.length) :
    (m.register pid).2.target fid = m.target fid := by
  simp [register, target, List.getElem?_append_left h]

@[simp] theorem detach_fst (fid : Nat) : (m.detach fid).1 = m.target fid := rfl

@[simp] theorem detach_shutdowns (fid : Nat) : (m.detach fid).2.shutdowns = m.shutdowns := rfl

@[simp] theorem detach_nextPid (fid : Nat) : (m.detach fid).2.nextPid = m.nextPid := rfl

@[simp] theorem detach_processes (fid : Nat) : (m.detach fid).2.processes = m.processes := rfl

@[simp] theorem detach_length (fid : Nat) :
    (m.detach fid).2.finalizers.length = m.finalizers.length := by
  simp [detach]

/-- A finalizer detached is dead. -/
@[simp] theorem target_detach_self (fid : Nat) : (m.detach fid).2.target fid = none := by
  unfold target detach
  simp only [List.getElem?_modify, if_pos]
  cases m.finalizers[fid]? <;> simp

theorem target_detach_ne {fid a : Nat} (h : fid ≠ a) :
    (m.detach fid).2.target a = m.target a := by
  unfold target detach
  simp [h]

theorem target_detach (m : Machine) (a b : Nat) :
    (m.detach a).2.target b = if b = a then none else m.target b := by
  split
  · rename_i h; subst h; exact target_detach_self m b
  · rename_i h; exact target_detach_ne m (Ne.symm h)

/-- Detaching a dead finalizer changes nothing. -/
theorem detach_dead {m : Machine} {fid : Nat} (h : m.target fid = none) : (m.detach fid).2 = m := by
  have hfin : m.finalizers.modify fid (fun f => { f with alive := false }) = m.finalizers := by
    apply List.ext_getElem?
    intro j
    rw [List.getElem?_modify]
    cases hf : m.finalizers[j]? with
    | none => rfl
    | some f =>
      by_cases hj : fid = j
      · subst hj
        have hdead : f.alive = false := by simpa [target, hf] using h
        cases f
        simp_all
      · simp [hj]
  simp [detach, hfin]

/-- Only a registered finalizer is alive. -/
theorem lt_of_target {m : Machine} {fid p : Nat} (h : m.target fid = some p) :
    fid < m.finalizers.length := by
  unfold target at h
  cases hf : m.finalizers[fid]? with
  | none => simp [hf] at h
  | some f => exact (List.getElem?_eq_some_iff.1 hf).1

theorem isAlive_iff (fid : Nat) : m.isAlive fid = true ↔ ∃ p, m.target fid = some p := by
  simp [isAlive, Option.isSome_iff_exists]

/-- Calling a finalizer is detaching it and, if it was alive, running the shutdown procedure
on its process. -/
theorem call_eq (fid : Nat) :
    m.call fid = match m.target fid with
      | some p => (m.detach fid).2.shutdown true p
      | none => (m.detach fid).2 := by
  unfold call
  cases h : m.target fid <;> simp [detach, h]

/-! ## Processes a finalizer was registered for -/

/-- A finalizer for the process `p` was registered at some point. -/
def Registered (m : Machine) (p : Nat) : Prop :=
  p ∈ m.finalizers.map (·.pid)

theorem registered_of_target {m : Machine} {fid p : Nat} (h : m.target fid = some p) :
    m.Registered p := by
  unfold target at h
  cases hf : m.finalizers[fid]? with
  | none => simp [hf] at h
  | some f =>
    have hp : f.pid = p := by
      simp only [hf] at h
      split at h <;> simp_all
    exact List.mem_map.2 ⟨f, List.mem_of_getElem? hf, hp⟩

theorem registered_of_finalizers {m m' : Machine} (h : m'.finalizers = m.finalizers) (p : Nat) :
    m'.Registered p ↔ m.Registered p := by
  unfold Registered; rw [h]

/-- Detaching keeps the process of every finalizer. -/
theorem registered_detach (m : Machine) (fid p : Nat) :
    (m.detach fid).2.Registered p ↔ m.Registered p := by
  have hpids : (m.detach fid).2.finalizers.map (·.pid) = m.finalizers.map (·.pid) := by
    apply List.ext_getElem?
    intro j
    simp only [detach, List.getElem?_map, List.getElem?_modify]
    cases m.finalizers[j]? <;> simp
    split <;> rfl
  unfold Registered; rw [hpids]

theorem registered_register (m : Machine) (q p : Nat) :
    (m.register q).2.Registered p ↔ m.Registered p ∨ p = q := by
  simp [Registered, register, eq_comm]

/-! ## Steps on one process -/

/-- The machine `m'` comes from `m` by steps on the process `pid` alone: the registry and the
next id are kept, every other process is untouched, `pid` stays launched if it was, and the
shutdown procedure ran on `pid` only. -/
structure Within (pid : Nat) (m m' : Machine) : Prop where
  finalizers : m'.finalizers = m.finalizers
  nextPid : m'.nextPid = m.nextPid
  others : ∀ q, q ≠ pid → m'.processes q = m.processes q
  launched : (m'.processes pid).isSome = (m.processes pid).isSome
  shutdowns : ∃ k, m'.shutdowns = m.shutdowns ++ List.replicate k pid

theorem Within.refl : Within pid m m :=
  ⟨rfl, rfl, fun _ _ => rfl, rfl, ⟨0, by simp⟩⟩

theorem Within.trans {m₁ m₂ : Machine} (h₁ : Within pid m m₁) (h₂ : Within pid m₁ m₂) :
    Within pid m m₂ where
  finalizers := h₂.finalizers.trans h₁.finalizers
  nextPid := h₂.nextPid.trans h₁.nextPid
  others q hq := (h₂.others q hq).trans (h₁.others q hq)
  launched := h₂.launched.trans h₁.launched
  shutdowns := by
    obtain ⟨k₁, e₁⟩ := h₁.shutdowns
    obtain ⟨k₂, e₂⟩ := h₂.shutdowns
    exact ⟨k₁ + k₂, by rw [e₂, e₁, List.append_assoc, List.replicate_append_replicate]⟩

theorem within_exit (c : Int) : Within pid m (m.exit pid c) :=
  ⟨by simp, by simp, fun q hq => processes_exit_ne m pid q c hq, isSome_processes_exit m pid pid c,
    ⟨0, by simp⟩⟩

theorem within_waitFor : Within pid m (m.waitFor pid).1 :=
  ⟨by simp, by simp, fun q hq => processes_waitFor_ne m pid q hq, isSome_processes_waitFor m pid pid,
    ⟨0, by simp⟩⟩

theorem within_shutdown (g : Bool) : Within pid m (m.shutdown g pid) :=
  ⟨by simp, by simp, fun q hq => processes_shutdown_ne m pid q g hq,
    isSome_processes_shutdown m pid pid g, ⟨1, by simp⟩⟩

end AgentLink.Machine
