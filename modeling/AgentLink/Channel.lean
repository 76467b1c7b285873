/-!
# Channels

A channel (`Channel`) carries items from a producer to a consumer, first in, first out. The
producer puts items (`Channel.put`) until the channel is closed, after which a put is refused;
the consumer takes them (`Channel.next`) and still gets every item put before the close.
`Channel.close` is idempotent: the first close fixes the error it was given, if any, and runs
the channel's close hook, which it takes away so that no later close runs it again
(`Channel.hookCalls` counts the runs).

The operations a user applies (`Channel.Op`) are run one after another by `Channel.apply` and
`Channel.run`; leaving a scope that the channel was opened in closes it without an error. The
consumer never waits in this model: taking from an empty channel gives nothing, whether the
channel is closed or its producer is merely idle.
-/

namespace AgentLink

/-- A first-in first-out channel. -/
structure Channel (α : Type) where
  /-- The items put and not yet taken, oldest first. -/
  items : List α := []
  /-- Whether the channel is closed. -/
  closed : Bool := false
  /-- Why the producer closed the channel, if it failed. -/
  error : Option String := none
  /-- Whether a close hook is still waiting to run. -/
  hooked : Bool := false
  /-- How many times the close hook has run. -/
  hookCalls : Nat := 0
  deriving Repr, Inhabited

namespace Channel

variable {α : Type}

/-- An open, empty channel, with a close hook or without one. -/
def fresh (hooked : Bool) : Channel α :=
  { hooked }

/-- Puts an item; `false` and no change when the channel is closed. -/
def put (c : Channel α) (x : α) : Bool × Channel α :=
  if c.closed then (false, c) else (true, { c with items := c.items ++ [x] })

/-- Takes the oldest item, if there is one. -/
def next (c : Channel α) : Option α × Channel α :=
  match c.items with
  | [] => (none, c)
  | x :: xs => (some x, { c with items := xs })

/-- Closes the channel with an error, or none, and runs the close hook if one is waiting; a
closed channel stays as it is. -/
def close (c : Channel α) (error : Option String := none) : Channel α :=
  if c.closed then c
  else { c with closed := true, error, hooked := false,
                hookCalls := if c.hooked then c.hookCalls + 1 else c.hookCalls }

/-- Takes every item left. -/
def drain (c : Channel α) : List α × Channel α :=
  (c.items, { c with items := [] })

/-- A channel with its items, closed with its error when `closed` holds. -/
def ofList (items : List α) (error : Option String) (closed : Bool) : Channel α :=
  { items, closed, error := if closed then error else none }

/-- An operation on a channel. -/
inductive Op (α : Type) where
  | put (x : α)
  | next
  | close (error : Option String)
  | drain
  /-- Opening the channel in a scope and leaving it, which closes it. -/
  | within
  deriving DecidableEq, Repr

/-- What an operation gives back. -/
inductive Answer (α : Type) where
  /-- Whether the item was accepted. -/
  | put (accepted : Bool)
  /-- The item taken, or none at the end. -/
  | next (item : Option α)
  | closed
  /-- The items taken. -/
  | drained (items : List α)
  | within
  deriving DecidableEq, Repr

/-- The error an operation closes the channel with, when it closes it. -/
def Op.closeError? : Op α → Option (Option String)
  | .close e => some e
  | .within => some none
  | _ => none

/-- Applies one operation. -/
def apply (c : Channel α) : Op α → Answer α × Channel α
  | .put x => let (ok, c) := c.put x; (.put ok, c)
  | .next => let (x, c) := c.next; (.next x, c)
  | .close e => (.closed, c.close e)
  | .drain => let (xs, c) := c.drain; (.drained xs, c)
  | .within => (.within, c.close)

/-- Applies operations in order. -/
def run (c : Channel α) : List (Op α) → Channel α
  | [] => c
  | o :: os => (c.apply o).2.run os

theorem close_close (c : Channel α) (e₁ e₂ : Option String) :
    (c.close e₁).close e₂ = c.close e₁ := by
  unfold close
  split <;> simp_all

theorem put_of_closed (c : Channel α) (x : α) (h : c.closed = true) : c.put x = (false, c) := by
  simp [put, h]

/-- An operation that does not close keeps whether the channel is closed, its error, its hook
and its count of hook runs. -/
theorem apply_keeps (c : Channel α) (o : Op α) (h : o.closeError? = none) :
    (c.apply o).2.closed = c.closed ∧ (c.apply o).2.error = c.error ∧
      (c.apply o).2.hooked = c.hooked ∧ (c.apply o).2.hookCalls = c.hookCalls := by
  cases o with
  | put x => cases hc : c.closed <;> simp [apply, put, hc]
  | next => cases hi : c.items <;> simp [apply, next, hi]
  | drain => simp [apply, drain]
  | close e | within => simp [Op.closeError?] at h

/-- Operations that do not close keep whether the channel is closed, its error, its hook and its
count of hook runs. -/
theorem run_keeps (c : Channel α) (os : List (Op α)) (h : ∀ o ∈ os, o.closeError? = none) :
    (c.run os).closed = c.closed ∧ (c.run os).error = c.error ∧
      (c.run os).hooked = c.hooked ∧ (c.run os).hookCalls = c.hookCalls := by
  induction os generalizing c with
  | nil => simp [run]
  | cons o os ih =>
    obtain ⟨h1, h2, h3, h4⟩ := apply_keeps c o (h o (by simp))
    obtain ⟨k1, k2, k3, k4⟩ := ih (c.apply o).2 (fun p hp => h p (by simp [hp]))
    simp only [run]
    exact ⟨k1.trans h1, k2.trans h2, k3.trans h3, k4.trans h4⟩

/-- Any operation on a closed channel keeps it closed, with its error and its count of hook
runs. -/
theorem apply_closed (c : Channel α) (o : Op α) (h : c.closed = true) :
    (c.apply o).2.closed = true ∧ (c.apply o).2.error = c.error ∧
      (c.apply o).2.hookCalls = c.hookCalls := by
  cases o with
  | put x => simp [apply, put, h]
  | next => cases hi : c.items <;> simp [apply, next, hi, h]
  | drain => simp [apply, drain, h]
  | close e => simp [apply, close, h]
  | within => simp [apply, close, h]

/-- Any operations on a closed channel keep it closed, with its error and its count of hook
runs. -/
theorem run_closed (c : Channel α) (os : List (Op α)) (h : c.closed = true) :
    (c.run os).closed = true ∧ (c.run os).error = c.error ∧
      (c.run os).hookCalls = c.hookCalls := by
  induction os generalizing c with
  | nil => simp [run, h]
  | cons o os ih =>
    obtain ⟨h1, h2, h3⟩ := apply_closed c o h
    obtain ⟨k1, k2, k3⟩ := ih (c.apply o).2 h1
    simp only [run]
    exact ⟨k1, k2.trans h2, k3.trans h3⟩

/-- A closing operation on an open channel closes it with its error and runs a waiting hook. -/
theorem apply_closing (c : Channel α) (o : Op α) (e : Option String) (hc : c.closed = false)
    (ho : o.closeError? = some e) :
    (c.apply o).2.closed = true ∧ (c.apply o).2.error = e ∧
      (c.apply o).2.hookCalls = (if c.hooked then c.hookCalls + 1 else c.hookCalls) := by
  cases o with
  | close e' | within =>
    simp only [Op.closeError?, Option.some.injEq] at ho
    subst ho
    simp [apply, close, hc]
  | put x | next | drain => simp [Op.closeError?] at ho

theorem run_append (c : Channel α) (os ps : List (Op α)) : c.run (os ++ ps) = (c.run os).run ps := by
  induction os generalizing c with
  | nil => rfl
  | cons o os ih => exact ih _

/-- The close hook of a channel runs exactly once, at the first close. Before the first
closing operation the channel is open, has no error and has run no hook; that operation runs
the hook, and from then on the channel stays closed with that operation's error, whatever
follows. -/
theorem close_runs_once (pre post : List (Op α)) (o : Op α) (e : Option String)
    (hpre : ∀ p ∈ pre, p.closeError? = none) (ho : o.closeError? = some e) :
    ((fresh true : Channel α).run pre).closed = false ∧
    ((fresh true : Channel α).run pre).error = none ∧
    ((fresh true : Channel α).run pre).hookCalls = 0 ∧
    ((fresh true : Channel α).run (pre ++ [o])).hookCalls = 1 ∧
    ((fresh true : Channel α).run (pre ++ o :: post)).closed = true ∧
    ((fresh true : Channel α).run (pre ++ o :: post)).error = e ∧
    ((fresh true : Channel α).run (pre ++ o :: post)).hookCalls = 1 := by
  obtain ⟨k1, k2, k3, k4⟩ := run_keeps (fresh true : Channel α) pre hpre
  obtain ⟨a1, a2, a3⟩ := apply_closing ((fresh true : Channel α).run pre) o e
    (by rw [k1]; rfl) ho
  have calls : (((fresh true : Channel α).run pre).apply o).2.hookCalls = 1 := by
    rw [a3, k3, k4]; simp [fresh]
  obtain ⟨b1, b2, b3⟩ := run_closed (((fresh true : Channel α).run pre).apply o).2 post a1
  refine ⟨by rw [k1]; rfl, by rw [k2]; rfl, by rw [k4]; rfl, ?_, ?_, ?_, ?_⟩
  · rw [run_append]; exact calls
  · rw [run_append]; exact b1
  · rw [run_append]; exact b2.trans a2
  · rw [run_append]; exact b3.trans calls

theorem close_runs_once_after_traffic :
    (∀ p ∈ [Op.put (1 : Nat), Op.next, Op.drain], p.closeError? = none) ∧
    (Op.within : Op Nat).closeError? = some none ∧
    ((fresh true : Channel Nat).run [Op.put 1, Op.next, Op.drain, Op.within,
      Op.close (some "late")]).error = none ∧
    ((fresh true : Channel Nat).run [Op.put 1, Op.next, Op.drain, Op.within,
      Op.close (some "late")]).hookCalls = 1 :=
  ⟨by decide, rfl,
   (close_runs_once [Op.put 1, Op.next, Op.drain] [Op.close (some "late")] Op.within none
     (by decide) rfl).2.2.2.2.2.1,
   (close_runs_once [Op.put 1, Op.next, Op.drain] [Op.close (some "late")] Op.within none
     (by decide) rfl).2.2.2.2.2.2⟩

end Channel

end AgentLink
