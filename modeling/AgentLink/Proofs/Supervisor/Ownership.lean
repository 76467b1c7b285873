import AgentLink.Supervisor.Fleet
import AgentLink.Proofs.Supervisor.Start
import AgentLink.Proofs.Supervisor.Stops

/-!
# Ownership of a server process is exclusive

A server owns a process through a live finalizer (`Server.owned`). Stopping a server, collecting
it and transferring its process all read that finalizer: a server that owns nothing stops,
collects and hands over nothing (`Server.shutdown_idle`, `Server.collect_idle`,
`Server.transfer_idle`), and the owner detaches its finalizer before it shuts the process down
or registers a new finalizer for the server it hands the process to (`Server.shutdown_owner`,
`Server.collect_owner`, `Server.transfer_owner`). A start launches a process under a fresh id
and registers a finalizer for it only when it comes up (`Server.start_effect`).

Two invariants carry the proof. On the machine (`Machine.Ok`): at most one live finalizer for a
process, none for a process the shutdown procedure ran on, that procedure run at most once on a
process a finalizer was registered for, and no id from the next one on used yet. In the fleet
(`Fleet.Exclusive`): no two places hold one live finalizer, and an owner's process is the one
its finalizer is for. Each kind of change of the machine keeps the first (`Machine.Ok.release`,
`Machine.Ok.move`, `Machine.Ok.launch`, `Machine.Ok.abandon`), each command keeps the second
(`Fleet.Exclusive.apply`), and so does every run of commands (`Fleet.Exclusive.run`).

`exclusive_ownership` reads off what this gives at every point of every run from one unstarted
server (`Fleet.Ownership`): at most one owner per process, the shutdown procedure at most once
on it, stops of a server that owns nothing that change nothing, stops of the owner that leave
the process collected and the owner stopped, the same from several threads at once, where only
the call that takes the finalizer stops anything (`Stops.settled_run`), and transfers that hand
the process over from its owner and leave the source empty.
-/

namespace AgentLink

namespace Machine

variable {m : Machine}

/-! ## Registries that only grow -/

/-- The machine `m'` keeps the registry of `m`, but for finalizers that died, and may add to
it. -/
structure Extends (m m' : Machine) : Prop where
  length : m.finalizers.length ≤ m'.finalizers.length
  target : ∀ b q, b < m.finalizers.length → m'.target b = some q → m.target b = some q

theorem extends_of_finalizers {m m' : Machine} (h : m'.finalizers = m.finalizers) :
    m.Extends m' :=
  ⟨Nat.le_of_eq (congrArg List.length h).symm, fun b _ _ hb => target_eq_of_finalizers m h b ▸ hb⟩

theorem extends_detach (m : Machine) (a : Nat) : m.Extends (m.detach a).2 := by
  refine ⟨Nat.le_of_eq (detach_length m a).symm, fun b q _ hb => ?_⟩
  rw [target_detach] at hb
  split at hb
  · simp at hb
  · exact hb

theorem Extends.trans {m₁ m₂ m₃ : Machine} (h₁ : m₁.Extends m₂) (h₂ : m₂.Extends m₃) :
    m₁.Extends m₃ :=
  ⟨Nat.le_trans h₁.length h₂.length, fun b q hb hq =>
    h₁.target b q hb (h₂.target b q (Nat.lt_of_lt_of_le hb h₁.length) hq)⟩

theorem extends_register_of {m m' : Machine} {q : Nat}
    (h : m'.finalizers = (m.register q).2.finalizers) : m.Extends m' := by
  refine ⟨by simp [h], fun b p hb hp => ?_⟩
  rw [target_eq_of_finalizers _ h, target_register_of_lt _ _ hb] at hp
  exact hp

theorem extends_release (m : Machine) (a p : Nat) (g : Bool) :
    m.Extends ((m.detach a).2.shutdown g p) :=
  (extends_detach m a).trans (extends_of_finalizers (shutdown_finalizers _ _ _))

/-! ## The machine in order -/

/-- What keeps the ownership of processes exclusive on a machine: at most one live finalizer
for a process, and none for a process the shutdown procedure ran on; the shutdown procedure ran
at most once on a process a finalizer was registered for; no id from the next one on is used yet;
and a process with a live finalizer was launched. -/
structure Ok (m : Machine) : Prop where
  oneLive : ∀ a a' p, m.target a = some p → m.target a' = some p → a = a'
  unshut : ∀ a p, m.target a = some p → p ∉ m.shutdowns
  once : ∀ p, m.Registered p → m.shutdowns.count p ≤ 1
  fresh : ∀ p, m.nextPid ≤ p → p ∉ m.shutdowns ∧ ¬ m.Registered p
  launched : ∀ a p, m.target a = some p → (m.processes p).isSome

theorem Ok.lt_nextPid (h : m.Ok) {p : Nat} (hp : m.Registered p) : p < m.nextPid :=
  Nat.lt_of_not_le fun hle => (h.fresh p hle).2 hp

/-- A machine with no finalizer and no run of the shutdown procedure is in order. -/
theorem ok_of_empty (hfin : m.finalizers = []) (hsh : m.shutdowns = []) : m.Ok := by
  have htarget : ∀ a, m.target a = none := fun a => by simp [target, hfin]
  refine ⟨?_, ?_, ?_, ?_, ?_⟩ <;> simp [htarget, hsh, Registered, hfin]

/-- A step that keeps the registry, the runs of the shutdown procedure and the next id, and
launches or forgets no process, keeps the machine in order. -/
theorem Ok.of_quiet {m' : Machine} (h : m.Ok) (hfin : m'.finalizers = m.finalizers)
    (hsh : m'.shutdowns = m.shutdowns) (hnext : m'.nextPid = m.nextPid)
    (hproc : ∀ p, (m'.processes p).isSome = (m.processes p).isSome) : m'.Ok := by
  have htarget := target_eq_of_finalizers m hfin
  have hreg := registered_of_finalizers hfin
  refine ⟨?_, ?_, ?_, ?_, ?_⟩
  · intro a a' p ha ha'
    exact h.oneLive a a' p (htarget a ▸ ha) (htarget a' ▸ ha')
  · intro a p ha
    exact hsh ▸ h.unshut a p (htarget a ▸ ha)
  · intro p hp
    exact hsh ▸ h.once p ((hreg p).1 hp)
  · intro p hp
    rw [hsh, hreg]
    exact h.fresh p (hnext ▸ hp)
  · intro a p ha
    rw [hproc]
    exact h.launched a p (htarget a ▸ ha)

/-- Waiting for a process keeps the machine in order. -/
theorem Ok.waitFor (h : m.Ok) (q : Nat) : (m.waitFor q).1.Ok := by
  have hw := within_waitFor m q
  refine h.of_quiet hw.finalizers (waitFor_shutdowns m q) hw.nextPid fun p => ?_
  by_cases hp : p = q
  · subst hp; exact hw.launched
  · rw [hw.others p hp]

/-- Releasing a process, by detaching its live finalizer and running the shutdown procedure on
it, keeps the machine in order. -/
theorem Ok.release (h : m.Ok) {a p : Nat} (ht : m.target a = some p) (g : Bool) :
    ((m.detach a).2.shutdown g p).Ok := by
  -- the live finalizers after the release are those before it but the one detached
  have htarget : ∀ b q, ((m.detach a).2.shutdown g p).target b = some q →
      b ≠ a ∧ m.target b = some q := by
    intro b q hb
    rw [target_eq_of_finalizers _ (shutdown_finalizers _ _ _), target_detach] at hb
    split at hb
    · simp at hb
    · rename_i hba; exact ⟨hba, hb⟩
  have hreg : ∀ q, ((m.detach a).2.shutdown g p).Registered q ↔ m.Registered q := fun q =>
    (registered_of_finalizers (shutdown_finalizers _ _ _) q).trans (registered_detach m a q)
  have hp : p ∉ m.shutdowns := h.unshut a p ht
  have hlt : p < m.nextPid := h.lt_nextPid (registered_of_target ht)
  refine ⟨?_, ?_, ?_, ?_, ?_⟩
  · intro b b' q hb hb'
    exact h.oneLive b b' q (htarget b q hb).2 (htarget b' q hb').2
  · intro b q hb
    obtain ⟨hba, hb⟩ := htarget b q hb
    have hqp : q ≠ p := fun hqp => hba (h.oneLive b a p (hqp ▸ hb) ht)
    simp [h.unshut b q hb, hqp]
  · intro q hq
    rw [hreg] at hq
    by_cases hqp : q = p
    · subst hqp
      simp [List.count_eq_zero.2 hp]
    · simpa [List.count_append, List.count_cons, Ne.symm hqp] using h.once q hq
  · intro q hq
    obtain ⟨hsh, hfresh⟩ := h.fresh q (by simpa using hq)
    refine ⟨?_, by rwa [hreg]⟩
    have hqp : q ≠ p := by simp at hq; omega
    simp [hsh, hqp]
  · intro b q hb
    rw [isSome_processes_shutdown, detach_processes]
    exact h.launched b q (htarget b q hb).2

/-- Moving a process to a new finalizer, by detaching its live one and registering another,
keeps the machine in order. -/
theorem Ok.move (h : m.Ok) {a p : Nat} (ht : m.target a = some p) :
    ((m.detach a).2.register p).2.Ok := by
  -- the live finalizers after the move: the new one for `p`, and those before but the old one
  have htarget : ∀ b q, ((m.detach a).2.register p).2.target b = some q →
      (b = m.finalizers.length ∧ q = p) ∨ (b ≠ a ∧ m.target b = some q) := by
    intro b q hb
    have hlen := detach_length m a
    rcases Nat.lt_trichotomy b m.finalizers.length with hlt | heq | hgt
    · rw [target_register_of_lt _ _ (hlen ▸ hlt), target_detach] at hb
      split at hb
      · simp at hb
      · rename_i hba; exact Or.inr ⟨hba, hb⟩
    · subst heq
      rw [← hlen, target_register_self] at hb
      exact Or.inl ⟨rfl, (Option.some.inj hb).symm⟩
    · have := lt_of_target hb
      simp [hlen] at this
      omega
  have hreg : ∀ q, ((m.detach a).2.register p).2.Registered q ↔ m.Registered q := fun q => by
    rw [registered_register, registered_detach]
    constructor
    · rintro (hq | rfl)
      · exact hq
      · exact registered_of_target ht
    · exact Or.inl
  have hp : p ∉ m.shutdowns := h.unshut a p ht
  refine ⟨?_, ?_, ?_, ?_, ?_⟩
  · intro b b' q hb hb'
    rcases htarget b q hb with ⟨rfl, rfl⟩ | ⟨hba, hb⟩ <;>
      rcases htarget b' q hb' with ⟨rfl, hq⟩ | ⟨hba', hb'⟩
    · rfl
    · exact absurd (h.oneLive b' a _ hb' ht) hba'
    · exact absurd (h.oneLive b a _ (hq ▸ hb) ht) hba
    · exact h.oneLive b b' q hb hb'
  · intro b q hb
    simp only [register_shutdowns, detach_shutdowns]
    rcases htarget b q hb with ⟨-, rfl⟩ | ⟨-, hb⟩
    · exact hp
    · exact h.unshut b q hb
  · intro q hq
    simpa using h.once q ((hreg q).1 hq)
  · intro q hq
    rw [hreg]
    simpa using h.fresh q (by simpa using hq)
  · intro b q hb
    simp only [register_processes, detach_processes]
    rcases htarget b q hb with ⟨-, rfl⟩ | ⟨-, hb⟩
    · exact h.launched a _ ht
    · exact h.launched b q hb

/-- A launch that registers a finalizer for the new process keeps the machine in order. -/
theorem Ok.launch (h : m.Ok) {m' : Machine}
    (hfin : m'.finalizers = (m.register m.nextPid).2.finalizers) (hsh : m'.shutdowns = m.shutdowns)
    (hnext : m'.nextPid = m.nextPid + 1)
    (hothers : ∀ q, q ≠ m.nextPid → m'.processes q = m.processes q)
    (hself : (m'.processes m.nextPid).isSome) : m'.Ok := by
  -- the live finalizers after the launch: the new one, and those before
  have htarget : ∀ b q, m'.target b = some q →
      (b = m.finalizers.length ∧ q = m.nextPid) ∨ m.target b = some q := by
    intro b q hb
    rw [target_eq_of_finalizers _ hfin] at hb
    rcases Nat.lt_trichotomy b m.finalizers.length with hlt | rfl | hgt
    · rw [target_register_of_lt _ _ hlt] at hb
      exact Or.inr hb
    · rw [target_register_self] at hb
      exact Or.inl ⟨rfl, (Option.some.inj hb).symm⟩
    · have := lt_of_target hb
      simp at this
      omega
  have hreg : ∀ q, m'.Registered q ↔ m.Registered q ∨ q = m.nextPid := fun q =>
    (registered_of_finalizers hfin q).trans (registered_register m _ q)
  obtain ⟨hnsh, hnreg⟩ := h.fresh m.nextPid (Nat.le_refl _)
  have hne : ∀ b q, m.target b = some q → q ≠ m.nextPid := fun b q hb hq =>
    hnreg (hq ▸ registered_of_target hb)
  refine ⟨?_, ?_, ?_, ?_, ?_⟩
  · intro b b' q hb hb'
    rcases htarget b q hb with ⟨rfl, hq⟩ | hb <;> rcases htarget b' q hb' with ⟨rfl, hq'⟩ | hb'
    · rfl
    · exact absurd hq (hne b' q hb')
    · exact absurd hq' (hne b q hb)
    · exact h.oneLive b b' q hb hb'
  · intro b q hb
    rw [hsh]
    rcases htarget b q hb with ⟨-, rfl⟩ | hb
    · exact hnsh
    · exact h.unshut b q hb
  · intro q hq
    rw [hsh]
    rcases (hreg q).1 hq with hq | rfl
    · exact h.once q hq
    · simp [List.count_eq_zero.2 hnsh]
  · intro q hq
    obtain ⟨hqsh, hqreg⟩ := h.fresh q (by omega)
    refine ⟨hsh ▸ hqsh, fun hq' => ?_⟩
    rcases (hreg q).1 hq' with hq' | rfl
    · exact hqreg hq'
    · omega
  · intro b q hb
    rcases htarget b q hb with ⟨-, rfl⟩ | hb
    · exact hself
    · rw [hothers q (hne b q hb)]
      exact h.launched b q hb

/-- A launch that registers nothing, and after which the shutdown procedure ran on the new
process alone, keeps the machine in order. -/
theorem Ok.abandon (h : m.Ok) {m' : Machine} (hfin : m'.finalizers = m.finalizers)
    (hsh : ∃ k, m'.shutdowns = m.shutdowns ++ List.replicate k m.nextPid)
    (hnext : m'.nextPid = m.nextPid + 1)
    (hothers : ∀ q, q ≠ m.nextPid → m'.processes q = m.processes q) : m'.Ok := by
  have htarget := target_eq_of_finalizers m hfin
  have hreg := registered_of_finalizers hfin
  obtain ⟨k, hsh⟩ := hsh
  have hnreg := (h.fresh m.nextPid (Nat.le_refl _)).2
  have hne : ∀ q, m.Registered q → q ≠ m.nextPid := fun q hq hqn => hnreg (hqn ▸ hq)
  refine ⟨?_, ?_, ?_, ?_, ?_⟩
  · intro a a' p ha ha'
    exact h.oneLive a a' p (htarget a ▸ ha) (htarget a' ▸ ha')
  · intro a p ha
    rw [htarget] at ha
    simp [hsh, h.unshut a p ha, List.mem_replicate, hne p (registered_of_target ha)]
  · intro p hp
    rw [hreg] at hp
    simpa [hsh, List.count_append, List.count_replicate, Ne.symm (hne p hp)] using h.once p hp
  · intro p hp
    obtain ⟨hpsh, hpreg⟩ := h.fresh p (by omega)
    refine ⟨?_, by rwa [hreg]⟩
    have hpn : p ≠ m.nextPid := by omega
    simp [hsh, hpsh, List.mem_replicate, hpn]
  · intro a p ha
    rw [htarget] at ha
    rw [hothers p (hne p (registered_of_target ha))]
    exact h.launched a p ha

end Machine

/-! ## What a server's operations do to its process -/

namespace Server

/-- The process a server owns: the one its finalizer is for, while the finalizer is alive. -/
def owned (s : Server) (m : Machine) : Option Nat :=
  s.finalizer.bind m.target

theorem owned_eq_some {s : Server} {m : Machine} {p : Nat} :
    s.owned m = some p ↔ ∃ fid, s.finalizer = some fid ∧ m.target fid = some p := by
  simp [owned, Option.bind_eq_some_iff]

theorem owned_eq_none {s : Server} {m : Machine} :
    s.owned m = none ↔ ∀ fid, s.finalizer = some fid → m.target fid = none := by
  cases h : s.finalizer <;> simp [owned, h]

variable {s : Server} {m : Machine}

/-- A server that owns nothing stops nothing: it gives up its finalizer and nothing else
changes. -/
theorem shutdown_idle (h : s.owned m = none) (g : Bool) :
    s.shutdown g m = ({ s with finalizer := none }, m) := by
  unfold shutdown
  cases hf : s.finalizer with
  | none => cases s; simp_all
  | some fid =>
    have ht : m.target fid = none := owned_eq_none.1 h fid hf
    simp [Machine.isAlive, ht]

/-- The owner stops: its finalizer is detached, the shutdown procedure runs on its process, and
the server is stopped. -/
theorem shutdown_owner {fid p : Nat} (hf : s.finalizer = some fid) (ht : m.target fid = some p)
    (g : Bool) :
    s.shutdown g m = ({ s with finalizer := none, state := .stopped },
      (m.detach fid).2.shutdown g p) := by
  simp [shutdown, hf, Machine.isAlive, ht, Machine.detach]

theorem collect_idle (h : s.owned m = none) : s.collect m = m := by
  unfold collect
  cases hf : s.finalizer with
  | none => rfl
  | some fid =>
    have ht : m.target fid = none := owned_eq_none.1 h fid hf
    simp only [Machine.call_eq, ht]
    exact Machine.detach_dead ht

/-- Collecting the owner runs its finalizer: the shutdown procedure, with a grace period. -/
theorem collect_owner {fid p : Nat} (hf : s.finalizer = some fid) (ht : m.target fid = some p) :
    s.collect m = (m.detach fid).2.shutdown true p := by
  simp [collect, hf, Machine.call_eq, ht]

/-- A transfer from a server that owns nothing hands over a fresh server and changes nothing
on the machine. -/
theorem transfer_idle (h : s.owned m = none) :
    s.transfer m =
      ({ s with process := none, finalizer := none, url := "", hostname := "", port := 0,
                state := if s.state == .unstarted then .unstarted else .stopped },
        { options := s.options }, m) := by
  unfold transfer
  cases hf : s.finalizer with
  | none => rfl
  | some fid =>
    have ht : m.target fid = none := owned_eq_none.1 h fid hf
    simp [Machine.isAlive, ht]

/-- A transfer from the owner hands the process, its state and address to a new server, which
owns the process through a new finalizer; the old one is detached. -/
theorem transfer_owner {fid p : Nat} (hf : s.finalizer = some fid) (ht : m.target fid = some p) :
    s.transfer m =
      ({ s with process := none, finalizer := none, url := "", hostname := "", port := 0,
                state := if s.state == .unstarted then .unstarted else .stopped },
        { options := s.options, state := s.state, process := s.process,
          finalizer := some m.finalizers.length, url := s.url, hostname := s.hostname,
          port := s.port }, ((m.detach fid).2.register p).2) := by
  simp [transfer, hf, Machine.isAlive, ht, Machine.detach, Machine.register]

/-- What a start does, as far as ownership goes: nothing; or it launches a process under the
next id and registers for it one finalizer, which the server holds; or it launches a process and
registers nothing, and the shutdown procedure ran on that process alone. -/
inductive StartEffect (s : Server) (m : Machine) : Server × Machine → Prop
  | quiet {s' : Server} : s'.finalizer = s.finalizer → s'.process = s.process →
      StartEffect s m (s', m)
  | owned {s' : Server} {m' : Machine} : s'.finalizer = some m.finalizers.length →
      s'.process = some m.nextPid → m'.finalizers = (m.register m.nextPid).2.finalizers →
      m'.shutdowns = m.shutdowns → m'.nextPid = m.nextPid + 1 →
      (∀ q, q ≠ m.nextPid → m'.processes q = m.processes q) →
      (m'.processes m.nextPid).isSome → StartEffect s m (s', m')
  | abandoned {s' : Server} {m' : Machine} : s'.finalizer = s.finalizer →
      s'.process = s.process → m'.finalizers = m.finalizers →
      (∃ k, m'.shutdowns = m.shutdowns ++ List.replicate k m.nextPid) →
      m'.nextPid = m.nextPid + 1 → (∀ q, q ≠ m.nextPid → m'.processes q = m.processes q) →
      StartEffect s m (s', m')

theorem start_effect (host : Host) (s : Server) (m : Machine) :
    StartEffect s m ((s.start host m).1, (s.start host m).2.1) := by
  by_cases hs : s.state = .unstarted
  · cases hl : launchOn host s.options with
    | error e =>
      rw [start_of_launch_error hs hl]
      exact .quiet rfl rfl
    | ok b =>
      cases hw : awaitReady s.options b m.nextPid [] b.start b.rounds m.spawn.2 with
      | mk m₁ res =>
        obtain ⟨hfin, hothers, hnext, hlaunched, j, hwaited⟩ := within_spawn (spawn_within hw)
        cases res with
        | ok l =>
          obtain ⟨-, -, -, -, -, -, -, -, -, hsh⟩ := awaitReady_ok hw
          rw [start_of_ready hs hl hw]
          exact .owned rfl rfl (by simp [Machine.register, hfin]) (by simpa using hsh)
            (by simpa using hnext) hothers (by simpa using hlaunched)
        | error e =>
          rw [start_of_wait_error hs hl hw]
          refine .abandoned rfl rfl (by simp [hfin])
            ⟨j + 1, by simp [hwaited, List.replicate_succ']⟩ (by simpa using hnext) fun q hq => ?_
          rw [Machine.processes_shutdown_ne _ _ _ _ hq, hothers q hq]
  · have hstart : s.start host m = (s, m, .error (.cannotStart s.state)) := by
      simp [start, hs]
    rw [hstart]
    exact .quiet rfl rfl

end Server

namespace Machine

variable {m : Machine}

/-- A start keeps the machine in order: its process gets a fresh id, and a finalizer is
registered for it only when it announces itself. -/
theorem Ok.start (h : m.Ok) {s : Server} {w : Server × Machine} (he : Server.StartEffect s m w) :
    w.2.Ok := by
  cases he with
  | quiet => exact h
  | owned _ _ hfin hsh hnext hothers hself => exact h.launch hfin hsh hnext hothers hself
  | abandoned _ _ hfin hsh hnext hothers => exact h.abandon hfin hsh hnext hothers

end Machine

/-! ## Exclusive ownership in a fleet -/

namespace Fleet

variable {f : Fleet} {i : Nat} {s : Server}

theorem lt_of_server? (h : f.server? i = some s) : i < f.servers.length := by
  unfold server? at h
  cases hx : f.servers[i]? with
  | none => simp [hx] at h
  | some x => exact (List.getElem?_eq_some_iff.1 hx).1

theorem server?_set (hi : i < f.servers.length) (x : Option Server) (m : Machine) (j : Nat) :
    ({ servers := f.servers.set i x, machine := m } : Fleet).server? j =
      if j = i then x else f.server? j := by
  simp only [server?, List.getElem?_set, hi, if_true]
  by_cases hj : j = i
  · simp [hj]
  · simp [hj, Ne.symm hj]

theorem server?_set_append (hi : i < f.servers.length) (x : Option Server) (t : Server)
    (m : Machine) (j : Nat) :
    ({ servers := f.servers.set i x ++ [some t], machine := m } : Fleet).server? j =
      if j = f.servers.length then some t else if j = i then x else f.server? j := by
  have hnone : ∀ l : List (Option Server), l.length ≤ j → l[j]?.join = none := fun l hl => by
    simp [List.getElem?_eq_none hl]
  rcases Nat.lt_trichotomy j f.servers.length with hj | rfl | hj
  · rw [← server?_set hi x m j, if_neg (Nat.ne_of_lt hj)]
    simp only [server?]
    rw [List.getElem?_append_left (by simpa using hj)]
  · simp [server?]
  · rw [if_neg (Nat.ne_of_gt hj), if_neg (Nat.ne_of_gt (Nat.lt_trans hi hj))]
    simp only [server?]
    rw [hnone _ (by simp; omega), hnone _ (Nat.le_of_lt hj)]

theorem start_of_server? (h : f.server? i = some s) (host : Host) :
    (f.start host i).1 = f.put i (s.start host f.machine).1 (s.start host f.machine).2.1 := by
  simp [Fleet.start, h]

theorem shutdown_of_server? (h : f.server? i = some s) (g : Bool) :
    f.shutdown g i = f.put i (s.shutdown g f.machine).1 (s.shutdown g f.machine).2 := by
  simp [Fleet.shutdown, h]

theorem wait_of_server? (h : f.server? i = some s) :
    (f.wait i).1 = { f with machine := (s.wait f.machine).1 } := by
  simp [Fleet.wait, h]

theorem transfer_of_server? (h : f.server? i = some s) :
    f.transfer i = { servers := f.servers.set i (some (s.transfer f.machine).1) ++
      [some (s.transfer f.machine).2.1], machine := (s.transfer f.machine).2.2 } := by
  simp [Fleet.transfer, h]

theorem collect_of_server? (h : f.server? i = some s) :
    f.collect i = { servers := f.servers.set i none, machine := s.collect f.machine } := by
  simp [Fleet.collect, h]

/-- The server at place `i` owns the process `p`. -/
def Holds (f : Fleet) (i p : Nat) : Prop :=
  ∃ s, f.server? i = some s ∧ s.owned f.machine = some p

/-- What keeps ownership exclusive in a fleet: its machine is in order, every finalizer a server
holds was registered, no two places hold one live finalizer, and an owner's process is the one
its finalizer is for. -/
structure Exclusive (f : Fleet) : Prop where
  machine : f.machine.Ok
  registered : ∀ i s fid, f.server? i = some s → s.finalizer = some fid →
    fid < f.machine.finalizers.length
  distinct : ∀ i j s t fid, f.server? i = some s → f.server? j = some t →
    s.finalizer = some fid → t.finalizer = some fid → (f.machine.target fid).isSome → i = j
  consistent : ∀ i s p, f.server? i = some s → s.owned f.machine = some p → s.process = some p

/-- At most one place owns a process. -/
theorem Exclusive.holds_unique (h : f.Exclusive) {j p : Nat} (hi : f.Holds i p)
    (hj : f.Holds j p) : i = j := by
  obtain ⟨s, hs, hown⟩ := hi
  obtain ⟨t, ht, hown'⟩ := hj
  obtain ⟨a, ha, hta⟩ := Server.owned_eq_some.1 hown
  obtain ⟨a', ha', hta'⟩ := Server.owned_eq_some.1 hown'
  obtain rfl := h.machine.oneLive a a' p hta hta'
  exact h.distinct i j s t a hs ht ha ha' (by simp [hta])

/-- A step keeps ownership exclusive when it keeps the machine in order, only lets finalizers
die, and leaves every place holding its finalizer as before, with the same process, or holding
alone the one finalizer the step registered, for its own process. -/
theorem Exclusive.of_step {f' : Fleet} (h : f.Exclusive) (hok : f'.machine.Ok)
    (hext : f.machine.Extends f'.machine)
    (hslot : ∀ j t' fid, f'.server? j = some t' → t'.finalizer = some fid →
      (∃ t, f.server? j = some t ∧ t.finalizer = some fid ∧ t'.process = t.process) ∨
      (fid = f.machine.finalizers.length ∧ fid < f'.machine.finalizers.length ∧
        (∀ p, f'.machine.target fid = some p → t'.process = some p) ∧
        ∀ j' t'', f'.server? j' = some t'' → t''.finalizer = some fid → j' = j)) :
    f'.Exclusive := by
  refine ⟨hok, ?_, ?_, ?_⟩
  · intro j t' fid hj hfid
    rcases hslot j t' fid hj hfid with ⟨t, ht, hfid', -⟩ | ⟨-, hlt, -⟩
    · exact Nat.lt_of_lt_of_le (h.registered j t fid ht hfid') hext.length
    · exact hlt
  · intro j j' t' t'' fid hj hj' hfid hfid' hlive
    rcases hslot j t' fid hj hfid with ⟨t, ht, hfidt, -⟩ | ⟨-, -, -, huniq⟩
    · have hlt := h.registered j t fid ht hfidt
      rcases hslot j' t'' fid hj' hfid' with ⟨u, hu, hfidu, -⟩ | ⟨hnew, -⟩
      · obtain ⟨q, hq⟩ := Option.isSome_iff_exists.1 hlive
        exact h.distinct j j' t u fid ht hu hfidt hfidu (by simp [hext.target fid q hlt hq])
      · exact absurd hnew (Nat.ne_of_lt hlt)
    · exact (huniq j' t'' hj' hfid').symm
  · intro j t' p hj hown
    obtain ⟨fid, hfid, htp⟩ := Server.owned_eq_some.1 hown
    rcases hslot j t' fid hj hfid with ⟨t, ht, hfidt, hproc⟩ | ⟨-, -, hnew, -⟩
    · rw [hproc]
      have hlt := h.registered j t fid ht hfidt
      exact h.consistent j t p ht (Server.owned_eq_some.2 ⟨fid, hfidt, hext.target fid p hlt htp⟩)
    · exact hnew p htp

/-- The finalizer a step leaves at the place of `s`, held by `t`: none, the one held before with
the same process, or the new one, for its own process. -/
def Replaces (f : Fleet) (s t : Server) (m' : Machine) : Prop :=
  ∀ fid, t.finalizer = some fid →
    (s.finalizer = some fid ∧ t.process = s.process) ∨
    (fid = f.machine.finalizers.length ∧ fid < m'.finalizers.length ∧
      ∀ p, m'.target fid = some p → t.process = some p)

theorem replaces_of_none {t : Server} {m' : Machine} (h : t.finalizer = none) :
    f.Replaces s t m' := fun fid hfid => by simp [h] at hfid

/-- A new finalizer is held at no place yet. -/
theorem Exclusive.not_new (h : f.Exclusive) {j : Nat} {t : Server}
    (hj : f.server? j = some t) : t.finalizer ≠ some f.machine.finalizers.length := fun hfid =>
  Nat.lt_irrefl _ (h.registered j t _ hj hfid)

/-- A step on one place keeps ownership exclusive. -/
theorem Exclusive.of_set (h : f.Exclusive) (hi : f.server? i = some s) {x : Option Server}
    {m' : Machine} (hok : m'.Ok) (hext : f.machine.Extends m')
    (hx : ∀ t ∈ x, f.Replaces s t m') :
    ({ servers := f.servers.set i x, machine := m' } : Fleet).Exclusive := by
  have hpos := server?_set (lt_of_server? hi) x m'
  refine h.of_step hok hext fun j t' fid hj hfid => ?_
  rw [hpos] at hj
  split at hj
  · rename_i hji
    subst hji
    rcases hx t' hj fid hfid with ⟨hfid', hproc⟩ | ⟨rfl, hlt, hnew⟩
    · exact Or.inl ⟨s, hi, hfid', hproc⟩
    · refine Or.inr ⟨rfl, hlt, hnew, fun j' t'' hj' hfid' => ?_⟩
      rw [hpos] at hj'
      split at hj'
      · assumption
      · exact absurd hfid' (h.not_new hj')
  · exact Or.inl ⟨t', hj, hfid, rfl⟩

/-- A transfer from one place keeps ownership exclusive: the place is left without a finalizer,
and the server added at the end holds none or the new one. -/
theorem Exclusive.of_set_append (h : f.Exclusive) (hi : f.server? i = some s)
    {left t : Server} {m' : Machine} (hok : m'.Ok) (hext : f.machine.Extends m')
    (hleft : left.finalizer = none)
    (ht : ∀ fid, t.finalizer = some fid → fid = f.machine.finalizers.length ∧
      fid < m'.finalizers.length ∧ ∀ p, m'.target fid = some p → t.process = some p) :
    ({ servers := f.servers.set i (some left) ++ [some t], machine := m' } : Fleet).Exclusive := by
  have hpos := server?_set_append (lt_of_server? hi) (some left) t m'
  refine h.of_step hok hext fun j t' fid hj hfid => ?_
  rw [hpos] at hj
  split at hj
  · rename_i hjl
    obtain rfl := Option.some.inj hj
    obtain ⟨rfl, hlt, hnew⟩ := ht fid hfid
    refine Or.inr ⟨rfl, hlt, hnew, fun j' t'' hj' hfid' => ?_⟩
    rw [hpos] at hj'
    split at hj'
    · rename_i hj'l; rw [hj'l, hjl]
    · split at hj'
      · obtain rfl := Option.some.inj hj'
        simp [hleft] at hfid'
      · exact absurd hfid' (h.not_new hj')
  · split at hj
    · obtain rfl := Option.some.inj hj
      simp [hleft] at hfid
    · exact Or.inl ⟨t', hj, hfid, rfl⟩

/-! ## Each command keeps ownership exclusive -/

theorem Exclusive.of_startEffect (h : f.Exclusive) (hi : f.server? i = some s)
    {w : Server × Machine} (he : Server.StartEffect s f.machine w) :
    (f.put i w.1 w.2).Exclusive := by
  have hok := h.machine.start he
  cases he with
  | quiet hfin hproc =>
    refine h.of_set hi hok (Machine.extends_of_finalizers rfl) fun t ht fid hfid => ?_
    obtain rfl := Option.some.inj (Option.mem_def.1 ht)
    exact Or.inl ⟨hfin ▸ hfid, hproc⟩
  | owned hfid' hproc hfin _ _ _ _ =>
    refine h.of_set hi hok (Machine.extends_register_of hfin) fun t ht fid hfid => ?_
    obtain rfl := Option.some.inj (Option.mem_def.1 ht)
    rw [hfid'] at hfid
    obtain rfl := Option.some.inj hfid
    refine Or.inr ⟨rfl, by simp [hfin], fun p hp => ?_⟩
    rw [Machine.target_eq_of_finalizers _ hfin, Machine.target_register_self] at hp
    rw [hproc, hp]
  | abandoned hfin hproc hfin' _ _ _ =>
    refine h.of_set hi hok (Machine.extends_of_finalizers hfin') fun t ht fid hfid => ?_
    obtain rfl := Option.some.inj (Option.mem_def.1 ht)
    exact Or.inl ⟨hfin ▸ hfid, hproc⟩

theorem Exclusive.shutdown (h : f.Exclusive) (hi : f.server? i = some s) (g : Bool) :
    (f.shutdown g i).Exclusive := by
  rw [shutdown_of_server? hi]
  cases hown : s.owned f.machine with
  | none =>
    rw [Server.shutdown_idle hown]
    exact h.of_set hi h.machine (Machine.extends_of_finalizers rfl)
      fun t ht => Option.some.inj (Option.mem_def.1 ht) ▸ replaces_of_none rfl
  | some p =>
    obtain ⟨a, ha, hta⟩ := Server.owned_eq_some.1 hown
    rw [Server.shutdown_owner ha hta]
    exact h.of_set hi (h.machine.release hta g) (Machine.extends_release _ a p g)
      fun t ht => Option.some.inj (Option.mem_def.1 ht) ▸ replaces_of_none rfl

theorem Exclusive.collect (h : f.Exclusive) (hi : f.server? i = some s) :
    (f.collect i).Exclusive := by
  rw [collect_of_server? hi]
  cases hown : s.owned f.machine with
  | none =>
    rw [Server.collect_idle hown]
    exact h.of_set hi h.machine (Machine.extends_of_finalizers rfl) fun _ ht => by simp at ht
  | some p =>
    obtain ⟨a, ha, hta⟩ := Server.owned_eq_some.1 hown
    rw [Server.collect_owner ha hta]
    exact h.of_set hi (h.machine.release hta true) (Machine.extends_release _ a p true)
      fun _ ht => by simp at ht

theorem Exclusive.wait (h : f.Exclusive) (hi : f.server? i = some s) : (f.wait i).1.Exclusive := by
  rw [wait_of_server? hi]
  -- waiting moves no server and keeps the registry
  have hw : (s.wait f.machine).1.Ok ∧ (s.wait f.machine).1.finalizers = f.machine.finalizers := by
    unfold Server.wait
    cases s.process with
    | none => exact ⟨h.machine, rfl⟩
    | some q => exact ⟨h.machine.waitFor q, Machine.waitFor_finalizers _ _⟩
  exact h.of_step hw.1 (Machine.extends_of_finalizers hw.2) fun j t' fid hj hfid =>
    Or.inl ⟨t', hj, hfid, rfl⟩

theorem Exclusive.transfer (h : f.Exclusive) (hi : f.server? i = some s) :
    (f.transfer i).Exclusive := by
  rw [transfer_of_server? hi]
  cases hown : s.owned f.machine with
  | none =>
    rw [Server.transfer_idle hown]
    exact h.of_set_append hi h.machine (Machine.extends_of_finalizers rfl) rfl
      fun fid hfid => by simp at hfid
  | some p =>
    obtain ⟨a, ha, hta⟩ := Server.owned_eq_some.1 hown
    rw [Server.transfer_owner ha hta]
    have hext : f.machine.Extends ((f.machine.detach a).2.register p).2 :=
      (Machine.extends_detach _ a).trans (Machine.extends_register_of rfl)
    refine h.of_set_append hi (h.machine.move hta) hext rfl fun fid hfid => ?_
    obtain rfl := Option.some.inj hfid
    refine ⟨rfl, by simp, fun q hq => ?_⟩
    rw [← Machine.detach_length f.machine a, Machine.target_register_self] at hq
    rw [h.consistent i s p hi hown, hq]

/-- Every command keeps ownership exclusive. -/
theorem Exclusive.apply (h : f.Exclusive) (host : Host) (c : Command) :
    (f.apply host c).Exclusive := by
  -- a command on an empty place does nothing
  cases c with
  | start i =>
    cases hi : f.server? i with
    | none => simpa [Fleet.apply, Fleet.start, hi] using h
    | some s =>
      rw [Fleet.apply, start_of_server? hi]
      exact h.of_startEffect hi (Server.start_effect host s f.machine)
  | stop i =>
    cases hi : f.server? i with
    | none => simpa [Fleet.apply, Fleet.shutdown, hi] using h
    | some s => exact h.shutdown hi true
  | forceStop i =>
    cases hi : f.server? i with
    | none => simpa [Fleet.apply, Fleet.shutdown, hi] using h
    | some s => exact h.shutdown hi false
  | wait i =>
    cases hi : f.server? i with
    | none => simpa [Fleet.apply, Fleet.wait, hi] using h
    | some s => exact h.wait hi
  | transfer i =>
    cases hi : f.server? i with
    | none => simpa [Fleet.apply, Fleet.transfer, hi] using h
    | some s => exact h.transfer hi
  | collect i =>
    cases hi : f.server? i with
    | none => simpa [Fleet.apply, Fleet.collect, hi] using h
    | some s => exact h.collect hi

/-- Every run of commands keeps ownership exclusive. -/
theorem Exclusive.run (h : f.Exclusive) (host : Host) (cs : List Command) :
    (f.run host cs).Exclusive := by
  induction cs generalizing f with
  | nil => exact h
  | cons c cs ih => exact ih (h.apply host c)

/-- A fleet of one unstarted server, on a machine in order, is exclusive. -/
theorem exclusive_single (o : ServerOptions) {m : Machine} (hm : m.Ok) :
    (single o m).Exclusive := by
  have hslot : ∀ j t, (single o m).server? j = some t → t.finalizer = none := by
    intro j t hj
    cases j with
    | zero =>
      simp only [single, server?, List.getElem?_cons_zero, Option.join_some, Option.some.injEq] at hj
      rw [← hj]
    | succ j => simp [single, server?] at hj
  refine ⟨hm, ?_, ?_, ?_⟩
  · intro j t fid hj hfid
    simp [hslot j t hj] at hfid
  · intro j _ t _ fid hj _ hfid
    simp [hslot j t hj] at hfid
  · intro j t p hj hown
    simp [Server.owned, hslot j t hj] at hown

/-! ## What exclusive ownership gives -/

/-- What exclusive ownership of processes gives in a fleet, at its next command. -/
structure Ownership (f : Fleet) : Prop where
  /-- At most one place owns a process. -/
  oneOwner : ∀ p i j, f.Holds i p → f.Holds j p → i = j
  /-- The shutdown procedure ran at most once on a process a finalizer was registered for. -/
  shutdownOnce : ∀ p, f.machine.Registered p → f.machine.shutdowns.count p ≤ 1
  /-- Stopping a server that owns nothing changes neither the machine nor the server's state
  and process. -/
  idleStop : ∀ g i s, f.server? i = some s → s.owned f.machine = none →
    (f.shutdown g i).machine = f.machine ∧
      (f.shutdown g i).server? i = some { s with finalizer := none }
  /-- Stopping the owner leaves its process exited, its status collected, and the server
  stopped; then nobody owns the process. -/
  ownerStop : ∀ g i s p, f.server? i = some s → s.owned f.machine = some p →
    (∃ c, (f.shutdown g i).machine.processes p = some (.exited c)) ∧
      (f.shutdown g i).server? i = some { s with finalizer := none, state := .stopped } ∧
      ∀ j, ¬ (f.shutdown g i).Holds j p
  /-- Calls of `stop` and `force_stop` made on the owner from several threads, interleaved on
  any schedule: one of them takes the finalizer and shuts the process down, once, and returns
  with the process collected and the owner stopped; every other call returns at once and
  changes nothing, even while the owner is stopping. -/
  concurrentStops : ∀ i s p, f.server? i = some s → s.owned f.machine = some p →
    ∀ gs ks, ((Stops.begin s f.machine gs).run ks).Settled p
  /-- A transfer from the owner hands its state, address and process to the server added at
  the end, which owns the process from then on. -/
  ownerTransfer : ∀ i s p, f.server? i = some s → s.owned f.machine = some p →
    (f.transfer i).server? f.servers.length =
        some { options := s.options, state := s.state, process := some p,
               finalizer := some f.machine.finalizers.length, url := s.url,
               hostname := s.hostname, port := s.port } ∧
      (f.transfer i).Holds f.servers.length p
  /-- A transfer from a server that owns nothing adds a fresh, unstarted server. -/
  idleTransfer : ∀ i s, f.server? i = some s → s.owned f.machine = none →
    (f.transfer i).server? f.servers.length = some { options := s.options }
  /-- A transfer leaves its server without process, finalizer or address, and stopped unless
  it never started. -/
  transferLeaves : ∀ i s, f.server? i = some s →
    (f.transfer i).server? i =
      some { s with process := none, finalizer := none, url := "", hostname := "", port := 0,
                    state := if s.state == .unstarted then .unstarted else .stopped }

/-- No place owns a process the shutdown procedure ran on. -/
theorem Exclusive.not_holds (h : f.Exclusive) {p : Nat} (hp : p ∈ f.machine.shutdowns) (j : Nat) :
    ¬ f.Holds j p := by
  rintro ⟨t, -, hown⟩
  obtain ⟨a, -, hta⟩ := Server.owned_eq_some.1 hown
  exact h.machine.unshut a p hta hp

theorem Exclusive.ownership (h : f.Exclusive) : f.Ownership := by
  refine ⟨fun p i j => h.holds_unique, h.machine.once, ?_, ?_, ?_, ?_, ?_, ?_⟩
  · intro g i s hi hown
    rw [shutdown_of_server? hi, Server.shutdown_idle hown]
    exact ⟨rfl, by rw [put, server?_set (lt_of_server? hi), if_pos rfl]⟩
  · intro g i s p hi hown
    obtain ⟨a, ha, hta⟩ := Server.owned_eq_some.1 hown
    have hafter := h.shutdown hi g
    rw [shutdown_of_server? hi, Server.shutdown_owner ha hta] at hafter ⊢
    refine ⟨Machine.processes_shutdown_self _ _ _ ?_, ?_, hafter.not_holds (by simp [put])⟩
    · simpa using h.machine.launched a p hta
    · rw [put, server?_set (lt_of_server? hi), if_pos rfl]
  · intro i s p hi hown gs ks
    obtain ⟨a, ha, hta⟩ := Server.owned_eq_some.1 hown
    exact Stops.settled_run ha hta (h.machine.unshut a p hta) (h.machine.launched a p hta) gs ks
  · intro i s p hi hown
    obtain ⟨a, ha, hta⟩ := Server.owned_eq_some.1 hown
    have hpos := server?_set_append (lt_of_server? hi)
    rw [transfer_of_server? hi, Server.transfer_owner ha hta]
    refine ⟨by rw [hpos, if_pos rfl, h.consistent i s p hi hown], ?_⟩
    simp only [Holds, hpos, if_pos, Option.some.injEq, exists_eq_left', Server.owned_eq_some]
    rw [← Machine.detach_length f.machine a, Machine.target_register_self]
  · intro i s hi hown
    rw [transfer_of_server? hi, Server.transfer_idle hown, server?_set_append (lt_of_server? hi),
      if_pos rfl]
  · intro i s hi
    have hne : i ≠ f.servers.length := Nat.ne_of_lt (lt_of_server? hi)
    rw [transfer_of_server? hi, server?_set_append (lt_of_server? hi), if_neg hne, if_pos rfl]
    cases hown : s.owned f.machine with
    | none => rw [Server.transfer_idle hown]
    | some p =>
      obtain ⟨a, ha, hta⟩ := Server.owned_eq_some.1 hown
      rw [Server.transfer_owner ha hta]

end Fleet

/-- Ownership of server processes is exclusive. Start from one unstarted server and run any
commands on it and on the servers its transfers add: at every point at most one server owns a
process, the shutdown procedure ran at most once on a process a finalizer was ever registered
for, stopping a server that owns nothing changes nothing, stopping the owner leaves its process
exited and collected and the owner stopped, also when several threads stop it at once, where
only the call that takes the finalizer stops anything, and a transfer hands the process over
from its owner, or adds a fresh server, leaving the source empty. -/
theorem exclusive_ownership (host : Host) (o : ServerOptions) (cs : List Fleet.Command) :
    (Fleet.run host (Fleet.single o {}) cs).Ownership :=
  ((Fleet.exclusive_single o (Machine.ok_of_empty rfl rfl)).run host cs).ownership


end AgentLink
