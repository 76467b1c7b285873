import AgentLink.Supervisor.Startup
import AgentLink.Proofs.Supervisor.Machine

/-!
# How the wait for a server ends

The wait goes round by round (`waitRound`). A round either lets the wait go on, after no
timeout, no interrupt and a line that announces nothing or no line while the program runs
(`waitRound_next`), or ends it in one of five ways (`RoundEnds`, `waitRound_done`).

Over a whole run of rounds, each result of `awaitReady` is told apart by the round that ended
the wait:

* an announcement comes from the first line read that announces anything, the program still
  running, with no timeout and no interrupt up to it (`awaitReady_ok`);
* a failure fails in one of the ways of `WaitFails` (`awaitReady_fails`): a timeout carries the
  lines read before it, none an announcement, and the clock then shows the timeout elapsed; an
  exit during startup carries the status the program exits with and all of its output; a port
  too long and an interrupt each come from a round of the behaviour;
* and the wait acts on its own process alone (`awaitReady_within`).
-/

namespace AgentLink

variable (o : ServerOptions) (b : Behaviour) (pid : Nat)

/-- The clock's reading `c` shows that the startup timeout has elapsed. -/
def Behaviour.Overdue (c : Float) : Prop :=
  o.startupTimeout ≤ c - b.start

/-- The machine after the program's doings in round `r`: it exits if the round says so. -/
def Round.after (r : Round) (m : Machine) : Machine :=
  if r.exits then m.exit pid b.code else m

/-- The program runs, or has exited by itself with the status of its behaviour. -/
def Machine.ExitsWith (code : Int) (m : Machine) : Prop :=
  m.processes pid = some .alive ∨ m.processes pid = some (.exited code)

/-- The ways a round ends the wait for the process `pid`, after the lines `read`, with the rounds
`rest` after it. -/
inductive RoundEnds (read : List String) (r : Round) (rest : List Round) (m : Machine) :
    Machine × Except SupervisorError Listening → Prop
  | timedOut : b.Overdue o r.clock → RoundEnds read r rest m (timedOut o pid read m)
  | interrupted : ¬ b.Overdue o r.clock → r.interrupted = true →
      RoundEnds read r rest m (r.after b pid m, .error .interrupted)
  | tooManyDigits {line e} : ¬ b.Overdue o r.clock → r.interrupted = false → r.line = some line →
      detectListening line o = .error e →
      RoundEnds read r rest m (r.after b pid m, .error (.tooManyDigits e))
  | ready {line l} : ¬ b.Overdue o r.clock → r.interrupted = false → r.line = some line →
      detectListening line o = .ok (some l) → (r.after b pid m).isRunning pid = true →
      RoundEnds read r rest m (r.after b pid m, .ok l)
  | exited : ¬ b.Overdue o r.clock → r.interrupted = false →
      (∀ line ∈ r.line, ∃ l, detectListening line o = .ok (some l)) →
      (r.after b pid m).isRunning pid = false →
      RoundEnds read r rest m (exitedDuring pid (read ++ r.line.toList) rest (r.after b pid m))

variable {o b pid}

theorem waitRound_eq (read : List String) (r : Round) (rest : List Round) (m : Machine) :
    waitRound o b pid read r rest m =
      if o.startupTimeout ≤ r.clock - b.start then .done (timedOut o pid read m)
      else if r.interrupted then .done (r.after b pid m, .error .interrupted)
      else
        match r.line with
        | some line =>
          match detectListening line o with
          | .error e => .done (r.after b pid m, .error (.tooManyDigits e))
          | .ok (some l) =>
            if (r.after b pid m).isRunning pid then .done (r.after b pid m, .ok l)
            else .done (exitedDuring pid (read ++ [line]) rest (r.after b pid m))
          | .ok none => .next (read ++ [line]) (r.after b pid m)
        | none =>
          if (r.after b pid m).isRunning pid then .next read (r.after b pid m)
          else .done (exitedDuring pid read rest (r.after b pid m)) := rfl

/-- A round that lets the wait go on: no timeout, no interrupt, and a line that announces
nothing, or no line while the program runs. -/
theorem waitRound_next {read read' : List String} {r : Round} {rest : List Round}
    {m m' : Machine} (h : waitRound o b pid read r rest m = .next read' m') :
    ¬ b.Overdue o r.clock ∧ r.interrupted = false ∧ read' = read ++ r.line.toList ∧
      (∀ line ∈ r.line, detectListening line o = .ok none) ∧ m' = r.after b pid m ∧
      (r.line = none → m'.isRunning pid = true) := by
  rw [waitRound_eq] at h
  by_cases hdue : o.startupTimeout ≤ r.clock - b.start
  · simp [hdue] at h
  by_cases hint : r.interrupted = true
  · simp [hdue, hint] at h
  simp only [hdue, hint, if_false] at h
  have hint' : r.interrupted = false := by simpa using hint
  cases hline : r.line with
  | some line =>
    simp only [hline] at h
    cases hd : detectListening line o with
    | error e => simp [hd] at h
    | ok x =>
      cases x with
      | some l =>
        by_cases hrun : (r.after b pid m).isRunning pid = true <;> simp [hd, hrun] at h
      | none =>
        simp only [hd] at h
        obtain ⟨rfl, rfl⟩ := h
        exact ⟨hdue, hint', by simp, by simp [hd], rfl, by simp⟩
  | none =>
    simp only [hline] at h
    by_cases hrun : (r.after b pid m).isRunning pid = true
    · simp only [hrun, if_true] at h
      obtain ⟨rfl, rfl⟩ := h
      exact ⟨hdue, hint', by simp, by simp, rfl, fun _ => hrun⟩
    · simp [hrun] at h

/-- A round that ends the wait ends it in one of the five ways. -/
theorem waitRound_done {read : List String} {r : Round} {rest : List Round} {m : Machine}
    {w : Machine × Except SupervisorError Listening}
    (h : waitRound o b pid read r rest m = .done w) : RoundEnds o b pid read r rest m w := by
  rw [waitRound_eq] at h
  by_cases hdue : o.startupTimeout ≤ r.clock - b.start
  · simp only [hdue, if_true, Turn.done.injEq] at h
    subst h
    exact .timedOut hdue
  by_cases hint : r.interrupted = true
  · simp only [hdue, hint, if_true, if_false, Turn.done.injEq] at h
    subst h
    exact .interrupted hdue hint
  have hint' : r.interrupted = false := by simpa using hint
  simp only [hdue, hint', Bool.false_eq_true, if_false] at h
  cases hline : r.line with
  | some line =>
    simp only [hline] at h
    cases hd : detectListening line o with
    | error e =>
      simp only [hd, Turn.done.injEq] at h
      subst h
      exact .tooManyDigits hdue hint' hline hd
    | ok x =>
      cases x with
      | some l =>
        by_cases hrun : (r.after b pid m).isRunning pid = true
        · simp only [hd, hrun, if_true, Turn.done.injEq] at h
          subst h
          exact .ready hdue hint' hline hd hrun
        · have hrun' : (r.after b pid m).isRunning pid = false := by simpa using hrun
          simp only [hd, hrun', Bool.false_eq_true, if_false, Turn.done.injEq] at h
          subst h
          have hexit := @RoundEnds.exited o b pid read r rest m hdue hint' (by simp [hline, hd])
            hrun'
          simpa [hline] using hexit
      | none => simp [hd] at h
  | none =>
    simp only [hline] at h
    by_cases hrun : (r.after b pid m).isRunning pid = true
    · simp [hrun] at h
    · have hrun' : (r.after b pid m).isRunning pid = false := by simpa using hrun
      simp only [hrun', Bool.false_eq_true, if_false, Turn.done.injEq] at h
      subst h
      have hexit := @RoundEnds.exited o b pid read r rest m hdue hint' (by simp [hline]) hrun'
      simpa [hline] using hexit

/-! ## The machine during the wait -/

theorem exitedDuring_eq (read : List String) (rest : List Round) (m : Machine) :
    exitedDuring pid read rest m = ((m.waitFor pid).1,
      .error (.exitedDuringStartup (m.waitFor pid).2 (String.join (read ++ unread rest)))) := rfl

theorem unread_cons (r : Round) (rs : List Round) : unread (r :: rs) = r.line.toList ++ unread rs := by
  cases h : r.line <;> simp [unread, h]

theorem within_after (r : Round) (m : Machine) : Machine.Within pid m (r.after b pid m) := by
  unfold Round.after
  split
  · exact Machine.within_exit m pid b.code
  · exact Machine.Within.refl m pid

@[simp] theorem after_shutdowns (r : Round) (m : Machine) :
    (r.after b pid m).shutdowns = m.shutdowns := by
  unfold Round.after; split <;> simp

theorem Machine.ExitsWith.after {r : Round} {m : Machine} (h : m.ExitsWith pid b.code) :
    (r.after b pid m).ExitsWith pid b.code := by
  unfold Round.after Machine.exit
  split
  · split
    · right; simp
    · exact h
  · exact h

theorem Machine.ExitsWith.exit {m : Machine} {c : Int} (h : m.ExitsWith pid c) :
    (m.exit pid c).ExitsWith pid c := by
  unfold Machine.exit
  split
  · right; simp
  · exact h

/-- A program that runs or exited by itself, and does not run, exited with its own status. -/
theorem Machine.ExitsWith.exited {m : Machine} {c : Int} (h : m.ExitsWith pid c)
    (hrun : m.isRunning pid = false) : m.processes pid = some (.exited c) := by
  rcases h with h | h
  · simp [Machine.isRunning, h] at hrun
  · exact h

/-- Every way a round ends the wait acts on its own process alone. -/
theorem RoundEnds.within {read : List String} {r : Round} {rest : List Round} {m : Machine}
    {w : Machine × Except SupervisorError Listening} (h : RoundEnds o b pid read r rest m w) :
    Machine.Within pid m w.1 := by
  cases h with
  | timedOut => exact Machine.within_shutdown m pid false
  | interrupted | tooManyDigits | ready => exact within_after r m
  | exited => exact (within_after r m).trans _ pid (Machine.within_waitFor _ pid)

/-! ## The wait, round by round -/

/-- Induction over the rounds of the wait: what holds of the wait once its rounds run out, of
every way a round ends it, and carries back over a round that lets it go on, holds of every
wait. -/
theorem awaitReady_induction
    (motive : List String → Float → List Round → Machine →
      Machine × Except SupervisorError Listening → Prop)
    (nil : ∀ read now m, motive read now [] m (awaitReady o b pid read now [] m))
    (done : ∀ read now r rs m w, RoundEnds o b pid read r rs m w → motive read now (r :: rs) m w)
    (next : ∀ read now r rs m read' m' w, waitRound o b pid read r rs m = .next read' m' →
      motive read' r.clock rs m' w → motive read now (r :: rs) m w)
    (read : List String) (now : Float) (rs : List Round) (m : Machine) :
    motive read now rs m (awaitReady o b pid read now rs m) := by
  induction rs generalizing read now m with
  | nil => exact nil read now m
  | cons r rs ih =>
    rw [awaitReady]
    cases hw : waitRound o b pid read r rs m with
    | done w => exact done read now r rs m w (waitRound_done hw)
    | next read' m' => exact next read now r rs m read' m' _ hw (ih read' r.clock m')

/-- The wait acts on its own process alone. -/
theorem awaitReady_within (read : List String) (now : Float) (rs : List Round) (m : Machine) :
    Machine.Within pid m (awaitReady o b pid read now rs m).1 := by
  refine awaitReady_induction (motive := fun _ _ _ m w => Machine.Within pid m w.1)
    ?_ ?_ ?_ read now rs m
  · intro read now m
    unfold awaitReady
    split
    · exact Machine.within_shutdown m pid false
    · exact (Machine.within_exit m pid b.code).trans _ pid (Machine.within_waitFor _ pid)
  · intro _ _ _ _ _ _ hend
    exact hend.within
  · intro _ _ r _ m _ m' _ hw ih
    obtain ⟨-, -, -, -, rfl, -⟩ := waitRound_next hw
    exact (within_after r m).trans _ pid ih

/-- A wait that ends with an announcement ends at the first line read that announces anything,
with no timeout and no interrupt up to it, while the program still runs; the shutdown procedure
did not run. -/
theorem awaitReady_ok {read : List String} {now : Float} {rs : List Round} {m m' : Machine}
    {l : Listening} (h : awaitReady o b pid read now rs m = (m', .ok l)) :
    ∃ k r line, rs[k]? = some r ∧ r.line = some line ∧ detectListening line o = .ok (some l) ∧
      (∀ x ∈ unread (rs.take k), detectListening x o = .ok none) ∧
      (∀ r' ∈ rs.take (k + 1), ¬ b.Overdue o r'.clock ∧ r'.interrupted = false) ∧
      m'.isRunning pid = true ∧ m'.shutdowns = m.shutdowns := by
  revert h
  refine awaitReady_induction (motive := fun _ _ rs m w => w = (m', .ok l) →
    ∃ k r line, rs[k]? = some r ∧ r.line = some line ∧ detectListening line o = .ok (some l) ∧
      (∀ x ∈ unread (rs.take k), detectListening x o = .ok none) ∧
      (∀ r' ∈ rs.take (k + 1), ¬ b.Overdue o r'.clock ∧ r'.interrupted = false) ∧
      m'.isRunning pid = true ∧ m'.shutdowns = m.shutdowns) ?_ ?_ ?_ read now rs m
  · intro read now m h
    unfold awaitReady at h
    split at h <;> simp [timedOut, exitedDuring_eq] at h
  · intro read now r rs m w hend h
    subst h
    cases hend with
    | ready hdue hint hline hd hrun =>
      exact ⟨0, r, _, rfl, hline, hd, by simp [unread], by simp [hdue, hint], hrun, by simp⟩
  · intro read now r rs m read' m₁ w hw ih h
    obtain ⟨hdue, hint, -, hnone, rfl, -⟩ := waitRound_next hw
    obtain ⟨k, r', line, hk, hline, hd, hbefore, hclock, hrun, hsh⟩ := ih h
    refine ⟨k + 1, r', line, by simpa using hk, hline, hd, ?_, ?_, hrun, by simpa using hsh⟩
    · simp only [List.take_succ_cons, unread_cons, List.mem_append]
      rintro x (hx | hx)
      · exact hnone x (by simpa using hx)
      · exact hbefore x hx
    · simp only [List.take_succ_cons, List.mem_cons]
      rintro r'' (rfl | hr)
      · exact ⟨hdue, hint⟩
      · exact hclock r'' hr

variable (o b) in
/-- The ways the wait for a program of behaviour `b`, after the lines `read` and the clock's
reading `now`, over the rounds `rs`, fails. -/
inductive WaitFails (read : List String) (now : Float) (rs : List Round) : SupervisorError → Prop
  /-- The clock shows the timeout elapsed before any line read announced anything; the output is
  the lines read. -/
  | timedOut (k : Nat) : (∀ x ∈ unread (rs.take k), detectListening x o = .ok none) →
      b.Overdue o (((rs.take (k + 1)).map (·.clock)).getLastD now) →
      WaitFails read now rs (.startupTimeout o.startupTimeout (String.join (read ++ unread (rs.take k))))
  /-- The program exited, with its own status; the output is all it printed. -/
  | exited : WaitFails read now rs (.exitedDuringStartup b.code (String.join (read ++ unread rs)))
  /-- A round's line names too long a port, after lines that announce nothing. -/
  | tooManyDigits {k : Nat} {r : Round} {line : String} {e : Text.Integer.TooManyDigits} :
      rs[k]? = some r → r.line = some line → detectListening line o = .error e →
      (∀ x ∈ unread (rs.take k), detectListening x o = .ok none) →
      WaitFails read now rs (.tooManyDigits e)
  /-- An interrupt arrived in a round. -/
  | interrupted {k : Nat} {r : Round} : rs[k]? = some r → r.interrupted = true →
      WaitFails read now rs .interrupted

/-- A program that runs or exited by itself has exited with its own status once it exits. -/
theorem Machine.ExitsWith.exit_self {m : Machine} {c : Int} (h : m.ExitsWith pid c) :
    (m.exit pid c).processes pid = some (.exited c) := by
  unfold Machine.exit
  split
  · simp
  · rename_i hrun
    exact h.exited (by simpa using hrun)

/-- The status an exit during startup carries is the program's own. -/
theorem exitedDuring_code {read : List String} {rest : List Round} {m : Machine} {c : Int}
    (h : m.processes pid = some (.exited c)) :
    exitedDuring pid read rest m =
      (m, .error (.exitedDuringStartup c (String.join (read ++ unread rest)))) := by
  rw [exitedDuring_eq, Machine.waitFor_exited m pid h]

/-- A timeout at the first reading of the clock: the output is the lines read before. -/
theorem WaitFails.timedOut_here {read : List String} {now : Float} {rs : List Round}
    (hdue : b.Overdue o ((rs.head?.map (·.clock)).getD now)) :
    WaitFails o b read now rs (.startupTimeout o.startupTimeout (String.join read)) := by
  have h := @WaitFails.timedOut o b read now rs 0 (by simp [unread])
    (by cases rs <;> simpa using hdue)
  simpa [unread] using h

/-- A failure of the wait over the rounds after `r` is one of the wait over `r` and them, when
`r` lets the wait go on. -/
theorem WaitFails.cons {read : List String} {now : Float} {r : Round} {rs : List Round}
    {e : SupervisorError} (hnone : ∀ line ∈ r.line, detectListening line o = .ok none)
    (h : WaitFails o b (read ++ r.line.toList) r.clock rs e) : WaitFails o b read now (r :: rs) e := by
  have hlines : ∀ k, (∀ x ∈ unread (rs.take k), detectListening x o = .ok none) →
      ∀ x ∈ unread ((r :: rs).take (k + 1)), detectListening x o = .ok none := by
    intro k hk x hx
    simp only [List.take_succ_cons, unread_cons, List.mem_append] at hx
    rcases hx with hx | hx
    · exact hnone x (by simpa using hx)
    · exact hk x hx
  cases h with
  | timedOut k hk hdue =>
    have hout : read ++ r.line.toList ++ unread (rs.take k) =
        read ++ unread ((r :: rs).take (k + 1)) := by
      simp [unread_cons]
    rw [hout]
    refine .timedOut (k + 1) (hlines k hk) ?_
    simpa only [List.take_succ_cons, List.map_cons, List.getLastD_cons] using hdue
  | exited =>
    have hout : read ++ r.line.toList ++ unread rs = read ++ unread (r :: rs) := by simp [unread_cons]
    rw [hout]
    exact .exited
  | tooManyDigits hk hline hd hbefore =>
    exact .tooManyDigits (k := _ + 1) (by simpa using hk) hline hd (hlines _ hbefore)
  | interrupted hk hint => exact .interrupted (k := _ + 1) (by simpa using hk) hint

/-- A round that ends the wait with an error ends it in one of the ways of `WaitFails`. -/
theorem RoundEnds.fails {read : List String} {now : Float} {r : Round} {rs : List Round}
    {m : Machine} {w : Machine × Except SupervisorError Listening} {e : SupervisorError}
    (hend : RoundEnds o b pid read r rs m w) (hm : m.ExitsWith pid b.code) (he : w.2 = .error e) :
    WaitFails o b read now (r :: rs) e := by
  cases hend with
  | timedOut hdue =>
    simp only [AgentLink.timedOut, Except.error.injEq] at he
    subst he
    exact .timedOut_here hdue
  | interrupted _ hint =>
    simp only [Except.error.injEq] at he
    subst he
    exact .interrupted (k := 0) rfl hint
  | tooManyDigits _ _ hline hd =>
    simp only [Except.error.injEq] at he
    subst he
    exact .tooManyDigits (k := 0) rfl hline hd (by simp [unread])
  | ready => simp at he
  | exited _ _ _ hrun =>
    rw [exitedDuring_code ((hm.after).exited hrun)] at he
    simp only [Except.error.injEq] at he
    subst he
    have hout : read ++ r.line.toList ++ unread rs = read ++ unread (r :: rs) := by simp [unread_cons]
    rw [hout]
    exact .exited

/-- A wait for a program that runs or exited by itself, and that fails, fails in one of the ways
of `WaitFails`: never for a reason that belongs to the launch or the server. -/
theorem awaitReady_fails {read : List String} {now : Float} {rs : List Round} {m : Machine}
    {e : SupervisorError} (hm : m.ExitsWith pid b.code)
    (h : (awaitReady o b pid read now rs m).2 = .error e) : WaitFails o b read now rs e := by
  revert hm h
  -- elaborated apart from the goal: unifying the motive with it first does not end
  refine (@awaitReady_induction o b pid (fun read now rs m w =>
    m.ExitsWith pid b.code → w.2 = .error e → WaitFails o b read now rs e) ?_ ?_ ?_ read now rs m :)
  · intro read now m hm h
    unfold awaitReady at h
    split at h
    · rename_i hdue
      simp only [timedOut, Except.error.injEq] at h
      subst h
      exact .timedOut_here hdue
    · rw [exitedDuring_code hm.exit_self] at h
      simp only [Except.error.injEq] at h
      subst h
      exact .exited
  · intro read now r rs m w hend hm h
    exact hend.fails hm h
  · intro read now r rs m read' m' w hw ih hm h
    obtain ⟨-, -, rfl, hnone, rfl, -⟩ := waitRound_next hw
    exact (ih hm.after h).cons hnone

end AgentLink
