import AgentLink.Channel

/-!
# A channel hands over every accepted item once, in order

The answers a channel gives to a run of operations (`Channel.answers`) record what the producer
got accepted (`Channel.Op.accepted`) and what the consumer was handed (`Channel.Answer.delivered`),
by a take or by a drain. One operation hands over the oldest items and appends the item it
accepts (`Channel.delivered_apply`), so along any run the items handed over followed by the
items still queued are the items accepted, in the order they were put
(`Channel.delivered_answers`).

A put is accepted exactly when no operation before it closed the channel
(`Channel.closed_run`). A take that finds nothing on a closed channel leaves it closed and
empty, a state that answers every operation with a refusal and never leaves
(`Channel.answers_of_ended`). `Channel.fifo_delivery` puts these together for a fresh channel.
-/

namespace AgentLink

namespace Channel

variable {α : Type}

/-- The answers a channel gives to operations applied in order. -/
def answers (c : Channel α) : List (Op α) → List (Answer α)
  | [] => []
  | o :: os => (c.apply o).1 :: (c.apply o).2.answers os

/-- The items an answer hands to the consumer. -/
def Answer.delivered : Answer α → List α
  | .next x => x.toList
  | .drained xs => xs
  | _ => []

/-- The item an operation got into the channel, given the channel's answer to it. -/
def Op.accepted : Op α → Answer α → List α
  | .put x, .put true => [x]
  | _, _ => []

/-- The answer to an operation on a channel that is closed and has no items left. -/
def Op.ended : Op α → Answer α
  | .put _ => .put false
  | .next => .next none
  | .close _ => .closed
  | .drain => .drained []
  | .within => .within

/-- The items handed over by a run, in order. -/
def delivered (c : Channel α) (os : List (Op α)) : List α :=
  (c.answers os).flatMap Answer.delivered

/-- The items a run got into the channel, in order. -/
def accepted (c : Channel α) (os : List (Op α)) : List α :=
  (List.zipWith Op.accepted os (c.answers os)).flatten

@[simp]
theorem delivered_nil (c : Channel α) : c.delivered [] = [] := rfl

@[simp]
theorem accepted_nil (c : Channel α) : c.accepted [] = [] := rfl

theorem delivered_cons (c : Channel α) (o : Op α) (os : List (Op α)) :
    c.delivered (o :: os) = (c.apply o).1.delivered ++ (c.apply o).2.delivered os := rfl

theorem accepted_cons (c : Channel α) (o : Op α) (os : List (Op α)) :
    c.accepted (o :: os) = o.accepted (c.apply o).1 ++ (c.apply o).2.accepted os := rfl

/-- One operation hands over the oldest items and appends the item it accepts. -/
theorem delivered_apply (c : Channel α) (o : Op α) :
    (c.apply o).1.delivered ++ (c.apply o).2.items = c.items ++ o.accepted (c.apply o).1 := by
  cases o with
  | put x => cases hc : c.closed <;> simp [apply, put, hc, Answer.delivered, Op.accepted]
  | next => cases hi : c.items <;> simp [apply, next, hi, Answer.delivered, Op.accepted]
  | close e => simp [apply, close, Answer.delivered, Op.accepted]; split <;> rfl
  | drain => simp [apply, drain, Answer.delivered, Op.accepted]
  | within => simp [apply, close, Answer.delivered, Op.accepted]; split <;> rfl

/-- Along any run, the items handed over followed by the items still queued are the items
queued at the start followed by those the run accepted. -/
theorem delivered_answers (c : Channel α) (os : List (Op α)) :
    c.delivered os ++ (c.run os).items = c.items ++ c.accepted os := by
  induction os generalizing c with
  | nil => simp [run]
  | cons o os ih =>
    have step := delivered_apply c o
    rw [delivered_cons, accepted_cons, run, List.append_assoc, ih, ← List.append_assoc, step,
      List.append_assoc]

/-- One operation closes the channel exactly when it is a closing one or the channel was
closed. -/
theorem closed_apply (c : Channel α) (o : Op α) :
    (c.apply o).2.closed = (c.closed || (o.closeError?).isSome) := by
  cases o with
  | put x => cases hc : c.closed <;> simp [apply, put, hc, Op.closeError?]
  | next => cases hi : c.items <;> simp [apply, next, hi, Op.closeError?]
  | close e => simp only [apply, close, Op.closeError?]; split <;> simp_all
  | drain => simp [apply, drain, Op.closeError?]
  | within => simp only [apply, close, Op.closeError?]; split <;> simp_all

/-- After a run, the channel is closed exactly when it was or some operation of the run closed
it. -/
theorem closed_run (c : Channel α) (os : List (Op α)) :
    (c.run os).closed = (c.closed || os.any fun o => (o.closeError?).isSome) := by
  induction os generalizing c with
  | nil => simp [run]
  | cons o os ih => rw [run, ih, closed_apply, List.any_cons, Bool.or_assoc]

/-- A put is accepted exactly when the channel is open. -/
theorem apply_put (c : Channel α) (x : α) : (c.apply (.put x)).1 = .put !c.closed := by
  cases hc : c.closed <;> simp [apply, put, hc]

/-- Taking from a channel finds nothing exactly when no items are queued. -/
theorem apply_next_eq_none (c : Channel α) : (c.apply .next).1 = .next none ↔ c.items = [] := by
  cases hi : c.items <;> simp [apply, next, hi]

/-- A closed channel with no items answers every operation with a refusal and stays as it
is. -/
theorem apply_of_ended (c : Channel α) (o : Op α) (hc : c.closed = true) (hi : c.items = []) :
    c.apply o = (o.ended, c) := by
  cases o with
  | put x => simp [apply, put, hc, Op.ended]
  | next => simp [apply, next, hi, Op.ended]
  | close e => simp [apply, close, hc, Op.ended]
  | drain =>
    have hc' : ({ c with items := [] } : Channel α) = c := by cases c; simp_all
    simp [apply, drain, hi, hc', Op.ended]
  | within => simp [apply, close, hc, Op.ended]

/-- A closed channel with no items answers every run with refusals. -/
theorem answers_of_ended (c : Channel α) (os : List (Op α)) (hc : c.closed = true)
    (hi : c.items = []) : c.answers os = os.map Op.ended := by
  induction os with
  | nil => rfl
  | cons o os ih => simp [answers, apply_of_ended c o hc hi, ih]

/-- Takes from a channel with no items find nothing and change nothing. -/
theorem answers_nexts_empty (c : Channel α) (hi : c.items = []) (k : Nat) :
    c.answers (List.replicate k .next) = List.replicate k (.next none) := by
  induction k with
  | zero => rfl
  | succ k ih =>
    have step : c.apply .next = (.next none, c) := by simp [apply, next, hi]
    rw [List.replicate_succ, answers, step, ih, List.replicate_succ]

/-- Taking from a channel again and again hands over its items in order, and then finds
nothing. -/
theorem answers_nexts (c : Channel α) (k : Nat) :
    c.answers (List.replicate (c.items.length + k) .next) =
      c.items.map (fun x => .next (some x)) ++ List.replicate k (.next none) := by
  -- induction on the items queued, the channel after each take standing in for the one before
  obtain ⟨xs, hxs⟩ : ∃ xs, c.items = xs := ⟨_, rfl⟩
  induction xs generalizing c with
  | nil => simpa [hxs] using answers_nexts_empty c hxs k
  | cons x xs ih =>
    have step : c.apply .next = (.next (some x), { c with items := xs }) := by
      simp [apply, next, hxs]
    have rest := ih { c with items := xs } rfl
    rw [hxs, List.length_cons, Nat.add_right_comm, List.replicate_succ, answers, step, rest]
    rfl

/-- A channel hands over what it accepts, once and in order. Along every run of a fresh channel,
the items handed over followed by those still queued are the accepted items in the order they
were put; a put is accepted exactly when no operation before it closed the channel; and once
the channel is closed, a take that finds nothing comes only after every accepted item was handed
over, and from then on every operation is refused: a take finds nothing, a put is refused, a
drain hands over nothing. -/
theorem fifo_delivery (hooked : Bool) (pre post : List (Op α)) :
    (fresh hooked).delivered pre ++ ((fresh hooked).run pre).items = (fresh hooked).accepted pre ∧
    (∀ x, (((fresh hooked).run pre).apply (.put x)).1 = .put true ↔
      ∀ o ∈ pre, o.closeError? = none) ∧
    (((fresh hooked).run pre).closed = true →
      (((fresh hooked).run pre).apply .next).1 = .next none →
      (fresh hooked).delivered pre = (fresh hooked).accepted pre ∧
      (((fresh hooked).run pre).apply .next).2.answers post = post.map Op.ended) := by
  have start : (fresh hooked : Channel α).items = [] := rfl
  have flow := delivered_answers (fresh hooked : Channel α) pre
  rw [start, List.nil_append] at flow
  refine ⟨flow, fun x => ?_, fun hc hn => ?_⟩
  · rw [apply_put, closed_run]
    simp [fresh, Option.isSome_iff_ne_none]
  · have empty := (apply_next_eq_none _).1 hn
    rw [empty, List.append_nil] at flow
    refine ⟨flow, answers_of_ended _ post ?_ ?_⟩
    · simpa [apply, next, empty] using hc
    · simp [apply, next, empty]

end Channel

end AgentLink
