import AgentLink.Supervisor.Server
import AgentLink.Proofs.Supervisor.Startup

/-!
# A start is all or nothing

A server starts from `unstarted` (`Server.start`) by launching its binary and waiting for the
process to announce where it listens. `StartEnds` lists how that ends, and
`Server.start_all_or_nothing` shows that every start ends in one of its ways:

* the binary is not launched, the error says why, and nothing on the machine changed;
* the server runs at the address of the first line that announces anything, read while the
  program runs and before the timeout and any interrupt, and owns its process, the next id of
  the machine, through one new finalizer;
* or the wait fails in one of the ways of `WaitFails`: then the server is stopped, no finalizer
  is registered, and the process it launched has exited and its status is collected.

In each way the server keeps everything but its state unless it runs, and no other process of
the machine is touched.
-/

namespace AgentLink

/-- A launch fails only because the binary could not be launched. -/
theorem launchOn_error {host : Host} {o : ServerOptions} {e : SupervisorError}
    (h : launchOn host o = .error e) :
    ∃ errno reason path, e = .spawnFailed o.binary errno reason path := by
  unfold launchOn at h
  -- the working directory is checked first, then what launching the binary does
  cases hd : o.workingDirectory with
  | none =>
    cases hx : host.launch o.binary <;>
      simp [hd, hx, throw, throwThe, MonadExceptOf.throw, pure, Except.pure] at h <;>
      exact ⟨_, _, _, h.symm⟩
  | some d =>
    cases hdir : host.isDirectory d
    · simp [hd, hdir, throw, throwThe, MonadExceptOf.throw, bind, Except.bind] at h
      exact ⟨_, _, _, h.symm⟩
    · cases hx : host.launch o.binary <;>
        simp [hd, hx, hdir, throw, throwThe, MonadExceptOf.throw, pure, Except.pure] at h <;>
        exact ⟨_, _, _, h.symm⟩

namespace Server

/-- The ways a start of the server `s` from `unstarted` on the machine `m` ends; the process it
launches gets the id `m.nextPid`. -/
inductive StartEnds (host : Host) (s : Server) (m : Machine) :
    Server × Machine × Except SupervisorError Unit → Prop
  /-- The binary is not launched: the server is stopped and the machine is as it was. -/
  | notLaunched {errno : Nat} {reason path : String} :
      launchOn host s.options = .error (.spawnFailed s.options.binary errno reason path) →
      StartEnds host s m
        ({ s with state := .stopped }, m, .error (.spawnFailed s.options.binary errno reason path))
  /-- The server runs at the address the first announcing line gives, read while the program
  runs and before the timeout and any interrupt, and owns the new process through a new live
  finalizer. -/
  | running {b : Behaviour} {k : Nat} {r : Round} {line : String} {l : Listening} {m' : Machine} :
      launchOn host s.options = .ok b → b.rounds[k]? = some r → r.line = some line →
      detectListening line s.options = .ok (some l) →
      (∀ x ∈ unread (b.rounds.take k), detectListening x s.options = .ok none) →
      (∀ r' ∈ b.rounds.take (k + 1), ¬ b.Overdue s.options r'.clock ∧ r'.interrupted = false) →
      m'.isRunning m.nextPid = true → m'.finalizers = m.finalizers ++ [{ pid := m.nextPid }] →
      (∀ q, q ≠ m.nextPid → m'.processes q = m.processes q) → m'.nextPid = m.nextPid + 1 →
      m'.shutdowns = m.shutdowns →
      StartEnds host s m
        ({ s with state := .running, process := some m.nextPid,
                  finalizer := some m.finalizers.length, url := l.url, hostname := l.hostname,
                  port := l.port }, m', .ok ())
  /-- The wait fails: the server is stopped, no finalizer is registered, and the process launched
  has exited, its status collected; the shutdown procedure ran on that process alone. -/
  | failed {b : Behaviour} {e : SupervisorError} {m' : Machine} :
      launchOn host s.options = .ok b → WaitFails s.options b [] b.start b.rounds e →
      m'.finalizers = m.finalizers → (∀ q, q ≠ m.nextPid → m'.processes q = m.processes q) →
      m'.nextPid = m.nextPid + 1 → (∃ c, m'.processes m.nextPid = some (.exited c)) →
      (∃ k, m'.shutdowns = m.shutdowns ++ List.replicate k m.nextPid) →
      StartEnds host s m ({ s with state := .stopped }, m', .error e)

variable {host : Host} {s : Server} {m : Machine}

/-- The machine after the launch, as the wait sees it: within it, only the new process moves. -/
theorem within_spawn {m₁ : Machine} (h : Machine.Within m.nextPid m.spawn.2 m₁) :
    m₁.finalizers = m.finalizers ∧ (∀ q, q ≠ m.nextPid → m₁.processes q = m.processes q) ∧
      m₁.nextPid = m.nextPid + 1 ∧ (m₁.processes m.nextPid).isSome ∧
      ∃ k, m₁.shutdowns = m.shutdowns ++ List.replicate k m.nextPid := by
  refine ⟨by simp [h.finalizers], fun q hq => ?_, by simp [h.nextPid], ?_, by simpa using h.shutdowns⟩
  · rw [h.others q hq, Machine.processes_spawn, if_neg hq]
  · rw [h.launched, Machine.processes_spawn, if_pos rfl]
    rfl

/-- The process just launched runs. -/
theorem exitsWith_spawn (c : Int) : m.spawn.2.ExitsWith m.nextPid c :=
  Or.inl (by rw [Machine.processes_spawn, if_pos rfl])

/-- The wait after the launch acts on the new process alone. -/
theorem spawn_within {b : Behaviour} {m₁ : Machine} {res : Except SupervisorError Listening}
    (hw : awaitReady s.options b m.nextPid [] b.start b.rounds m.spawn.2 = (m₁, res)) :
    Machine.Within m.nextPid m.spawn.2 m₁ := by
  have h := @awaitReady_within s.options b m.nextPid [] b.start b.rounds m.spawn.2
  rw [hw] at h
  exact h

theorem start_of_launch_error {e : SupervisorError} (hs : s.state = .unstarted)
    (hl : launchOn host s.options = .error e) :
    s.start host m = ({ s with state := .stopped }, m, .error e) := by
  simp only [start, hs, bne_self_eq_false, Bool.false_eq_true, if_false, hl]

/-- A start whose wait sees an announcement registers the one finalizer of the server. -/
theorem start_of_ready {b : Behaviour} {m₁ : Machine} {l : Listening}
    (hs : s.state = .unstarted) (hl : launchOn host s.options = .ok b)
    (hw : awaitReady s.options b m.nextPid [] b.start b.rounds m.spawn.2 = (m₁, .ok l)) :
    s.start host m =
      ({ s with state := .running, process := some m.nextPid,
                finalizer := some m.finalizers.length, url := l.url, hostname := l.hostname,
                port := l.port }, (m₁.register m.nextPid).2, .ok ()) := by
  have hfin := (within_spawn (spawn_within hw)).1
  simp only [start, hs, bne_self_eq_false, Bool.false_eq_true, if_false, hl, Machine.spawn_pid, hw,
    Machine.register_fid, hfin]

/-- A start whose wait fails shuts the new process down at once. -/
theorem start_of_wait_error {b : Behaviour} {m₁ : Machine} {e : SupervisorError}
    (hs : s.state = .unstarted) (hl : launchOn host s.options = .ok b)
    (hw : awaitReady s.options b m.nextPid [] b.start b.rounds m.spawn.2 = (m₁, .error e)) :
    s.start host m = ({ s with state := .stopped }, m₁.shutdown false m.nextPid, .error e) := by
  simp only [start, hs, bne_self_eq_false, Bool.false_eq_true, if_false, hl, Machine.spawn_pid, hw]

/-- A start from `unstarted` is all or nothing: the server runs and owns its new process, or
it is stopped, owns nothing, and the process it launched, if any, has exited and been
collected. -/
theorem start_all_or_nothing (host : Host) (s : Server) (m : Machine)
    (hs : s.state = .unstarted) : StartEnds host s m (s.start host m) := by
  cases hl : launchOn host s.options with
  | error e =>
    obtain ⟨errno, reason, path, rfl⟩ := launchOn_error hl
    rw [start_of_launch_error hs hl]
    exact .notLaunched hl
  | ok b =>
    cases hw : awaitReady s.options b m.nextPid [] b.start b.rounds m.spawn.2 with
    | mk m₁ res =>
      obtain ⟨hfin, hothers, hnext, hlaunched, j, hwaited⟩ := within_spawn (spawn_within hw)
      cases res with
      | ok l =>
        obtain ⟨k, r, line, hk, hline, hd, hbefore, hclock, hrun, hsh⟩ := awaitReady_ok hw
        rw [start_of_ready hs hl hw]
        refine .running hl hk hline hd hbefore hclock hrun ?_ hothers hnext ?_
        · simp [Machine.register, hfin]
        · simp [hsh]
      | error e =>
        have hfails := awaitReady_fails (exitsWith_spawn b.code) (congrArg Prod.snd hw)
        rw [start_of_wait_error hs hl hw]
        refine .failed hl hfails (by simp [hfin]) (fun q hq => ?_) (by simp [hnext]) ?_
          ⟨j + 1, ?_⟩
        · rw [Machine.processes_shutdown_ne _ _ _ _ hq, hothers q hq]
        · exact Machine.processes_shutdown_self _ _ _ hlaunched
        · simp [hwaited, List.replicate_succ']

/-- A host on which the binary says at once that it listens on the default port, and exits
thirty seconds later. -/
def announcingHost : Host where
  launch _ := .runs fun _ _ =>
    { rounds := [{ clock := 0, line := some "opencode server listening on http://127.0.0.1:4096\n" },
                 { clock := 30, exits := true }] }
  isDirectory _ := true

theorem start_all_or_nothing_announcing :
    StartEnds announcingHost { options := {} } {}
      (Server.start announcingHost { options := {} } {}) :=
  start_all_or_nothing announcingHost { options := {} } {} rfl

end Server

end AgentLink
