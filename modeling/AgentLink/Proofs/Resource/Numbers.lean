import AgentLink.Resource.Session
import AgentLink.Resource.Project
import AgentLink.Resource.Permission
import AgentLink.Resource.Message

/-!
# Numbers that every reader can take

The readers of resources read whole numbers from integers or from floats cut toward zero, and a
cost from an integer rounded to a float. Only two of their failures come from arithmetic rather
than from the shape of the JSON (`DecodeError.isOverflow`): a float with no integer part, and an
integer beyond the largest float. A value whose numbers all fit (`Json.Value.numbersFit`: every
float finite, every integer within the range of floats) gives neither, and the parts of such a
value fit too (`Json.Value.numbersFit_get`).

So the readers of timestamps, token counts and costs never fail on such a value
(`Timestamps.decode_ok`, `TokenInfo.decode_ok`, `costOf_ok`), and the readers of sessions,
statuses, projects, permission requests, messages and parts fail only for the shape of what
they read (`SessionInfo.decode_not_overflow` and its siblings).
-/

namespace AgentLink

namespace Json

mutual

/-- Whether every number in a value can be read as the readers read numbers: each float is
finite, and each integer lies within the range of floats. -/
def Value.numbersFit : Value → Bool
  | .float x => !x.isNaN && !x.isInf
  | .int n => (Decimal.floatOfInt? n).isSome
  | .arr xs => numbersFitItems xs
  | .obj fs => numbersFitFields fs
  | _ => true

/-- Whether the numbers of every item fit. -/
def numbersFitItems : List Value → Bool
  | [] => true
  | x :: xs => x.numbersFit && numbersFitItems xs

/-- Whether the numbers of every field's value fit. -/
def numbersFitFields : List (String × Value) → Bool
  | [] => true
  | (_, v) :: fs => v.numbersFit && numbersFitFields fs

end

theorem numbersFit_of_mem {fs : List (String × Value)} {k : String} {w : Value}
    (hfs : numbersFitFields fs = true) (h : (k, w) ∈ fs) : w.numbersFit = true := by
  induction fs with
  | nil => cases h
  | cons f fs ih =>
    obtain ⟨k', v⟩ := f
    simp only [numbersFitFields, Bool.and_eq_true] at hfs
    rcases List.mem_cons.1 h with h | h
    · cases h; exact hfs.1
    · exact ih hfs.2 h

/-- The value under a key of a value whose numbers fit has numbers that fit. -/
theorem Value.numbersFit_get {v w : Value} {k : String} (hv : v.numbersFit = true)
    (h : v.get? k = some w) : w.numbersFit = true := by
  cases v with
  | obj fs =>
    simp only [Value.get?, Option.map_eq_some_iff] at h
    obtain ⟨⟨k', w'⟩, hfind, rfl⟩ := h
    exact numbersFit_of_mem hv (List.mem_of_find?_eq_some hfind)
  | _ => simp [Value.get?] at h

/-- The value under a key, or a default whose numbers fit. -/
theorem Value.numbersFit_getD {v d : Value} {k : String} (hv : v.numbersFit = true)
    (hd : d.numbersFit = true) : ((v.get? k).getD d).numbersFit = true := by
  cases h : v.get? k with
  | none => exact hd
  | some w => exact numbersFit_get hv h

theorem Value.numbersFit_objOr {v : Value} {k : String} (hv : v.numbersFit = true) :
    (v.objOr k).numbersFit = true := by
  unfold Value.objOr
  split
  · next fs h => exact numbersFit_get hv h
  · rfl

/-- A finite float has an integer part. -/
theorem truncate_ok {x : Float} (hn : x.isNaN = false) (hi : x.isInf = false) :
    ∃ n, Decimal.truncate x = .ok n := by
  unfold Decimal.truncate
  rw [if_neg (by rw [hn]; decide), if_neg (by rw [hi]; decide)]
  exact ⟨_, rfl⟩

/-- A whole number under a key of a value whose numbers fit can be read. -/
theorem Value.optInt_ok {v : Value} (k : String) (hv : v.numbersFit = true) :
    ∃ n, v.optInt k = .ok n := by
  unfold Value.optInt
  split
  · exact ⟨_, rfl⟩
  · next x h =>
    have hx := numbersFit_get hv h
    simp only [Value.numbersFit, Bool.and_eq_true, Bool.not_eq_true'] at hx
    obtain ⟨n, hn⟩ := truncate_ok hx.1 hx.2
    rw [hn]
    exact ⟨_, rfl⟩
  · exact ⟨_, rfl⟩

theorem Value.intOr_ok {v : Value} (k : String) (hv : v.numbersFit = true) :
    ∃ n, v.intOr k = .ok n := by
  obtain ⟨n, hn⟩ := v.optInt_ok k hv
  exact ⟨n.getD 0, by simp [Value.intOr, hn, bind, Except.bind, pure, Except.pure]⟩

end Json

/-- Whether a reading error comes from arithmetic: a float with no integer part, or an integer
beyond the largest float. -/
def DecodeError.isOverflow : DecodeError → Bool
  | .infiniteToInt | .intTooLarge => true
  | _ => false

/-- A reading that fails, if at all, for the shape of what it reads and never for
arithmetic. -/
def NoOverflow {α : Type} (x : Except DecodeError α) : Prop :=
  ∀ e, x = .error e → e.isOverflow = false

namespace NoOverflow

variable {α β : Type} {x : Except DecodeError α}

theorem of_ok {a : α} (h : x = .ok a) : NoOverflow x := by
  intro e he
  rw [h] at he
  cases he

theorem pure (a : α) : NoOverflow (Pure.pure a : Except DecodeError α) :=
  of_ok rfl

theorem bind {f : α → Except DecodeError β} (hx : NoOverflow x) (hf : ∀ a, NoOverflow (f a)) :
    NoOverflow (x >>= f) := by
  intro e h
  cases hx' : x with
  | error e' =>
    rw [hx'] at h
    cases h
    exact hx _ hx'
  | ok a =>
    rw [hx'] at h
    exact hf a e h

theorem map {f : α → β} (hx : NoOverflow x) : NoOverflow (f <$> x) := by
  intro e h
  cases hx' : x with
  | error e' =>
    rw [hx'] at h
    cases h
    exact hx _ hx'
  | ok a =>
    rw [hx'] at h
    cases h

theorem throw {e : DecodeError} (h : e.isOverflow = false) :
    NoOverflow (MonadExcept.throw e : Except DecodeError α) := by
  intro e' he
  cases he
  exact h

end NoOverflow

theorem requireObject_noOverflow (v : Json.Value) (what : String) :
    NoOverflow (v.requireObject what) := by
  intro e h
  unfold Json.Value.requireObject at h
  split at h
  · cases h
  · cases h; rfl

/-- Timestamps read from a value whose numbers fit. -/
theorem Timestamps.decode_ok {v : Json.Value} (hv : v.numbersFit = true) :
    ∃ t, Timestamps.decode v = .ok t := by
  unfold Timestamps.decode
  split
  · obtain ⟨a, ha⟩ := Json.Value.intOr_ok "created" hv
    obtain ⟨b, hb⟩ := Json.Value.intOr_ok "updated" hv
    obtain ⟨c, hc⟩ := Json.Value.optInt_ok "compacting" hv
    obtain ⟨d, hd⟩ := Json.Value.optInt_ok "archived" hv
    obtain ⟨f, hf⟩ := Json.Value.optInt_ok "completed" hv
    simp only [ha, hb, hc, hd, hf, bind, Except.bind, Pure.pure, Except.pure]
    exact ⟨_, rfl⟩
  · exact ⟨_, rfl⟩

theorem Timestamps.decodeField_noOverflow {v : Json.Value} (hv : v.numbersFit = true) :
    NoOverflow (Timestamps.decodeField v) :=
  let ⟨_, h⟩ := Timestamps.decode_ok (Json.Value.numbersFit_getD hv rfl)
  .of_ok h

/-- Token counts read from a value whose numbers fit. -/
theorem TokenInfo.decode_ok {v : Json.Value} (hv : v.numbersFit = true) :
    ∃ t, TokenInfo.decode v = .ok t := by
  unfold TokenInfo.decode
  split
  · have hc := Json.Value.numbersFit_objOr (k := "cache") hv
    obtain ⟨a, ha⟩ := Json.Value.intOr_ok "input" hv
    obtain ⟨b, hb⟩ := Json.Value.intOr_ok "output" hv
    obtain ⟨c, hc'⟩ := Json.Value.intOr_ok "reasoning" hv
    obtain ⟨d, hd⟩ := Json.Value.intOr_ok "read" hc
    obtain ⟨f, hf⟩ := Json.Value.intOr_ok "write" hc
    simp only [ha, hb, hc', hd, hf, bind, Except.bind, Pure.pure, Except.pure]
    exact ⟨_, rfl⟩
  · exact ⟨_, rfl⟩

/-- A cost read from a field whose numbers fit. -/
theorem costOf_ok {o : Option Json.Value} (ho : ∀ w, o = some w → w.numbersFit = true) :
    ∃ x, costOf o = .ok x := by
  unfold costOf
  split
  · exact ⟨_, rfl⟩
  · next n =>
    have hn := ho _ rfl
    simp only [Json.Value.numbersFit, Option.isSome_iff_exists] at hn
    obtain ⟨x, hx⟩ := hn
    rw [hx]
    exact ⟨_, rfl⟩
  · exact ⟨_, rfl⟩
  · exact ⟨_, rfl⟩

theorem SessionInfo.decode_noOverflow {v : Json.Value} (hv : v.numbersFit = true) :
    NoOverflow (SessionInfo.decode v) :=
  .bind (requireObject_noOverflow v _) fun _ =>
    .bind (Timestamps.decodeField_noOverflow hv) fun _ => .pure _

theorem SessionStatus.decode_noOverflow (v : Json.Value) : NoOverflow (SessionStatus.decode v) := by
  unfold SessionStatus.decode
  split
  · exact .pure _
  · exact .bind (requireObject_noOverflow _ _) fun _ => .pure _

theorem Project.decode_noOverflow {v : Json.Value} (hv : v.numbersFit = true) :
    NoOverflow (Project.decode v) :=
  .bind (requireObject_noOverflow v _) fun _ =>
    .bind (Timestamps.decodeField_noOverflow hv) fun _ => .pure _

theorem PermissionRequest.decode_noOverflow {v : Json.Value} (hv : v.numbersFit = true) :
    NoOverflow (PermissionRequest.decode v) :=
  .bind (requireObject_noOverflow v _) fun _ =>
    .bind (Timestamps.decodeField_noOverflow hv) fun _ => .pure _

theorem Message.decode_noOverflow {v : Json.Value} (hv : v.numbersFit = true) :
    NoOverflow (Message.decode v) := by
  obtain ⟨t, ht⟩ :=
    Timestamps.decode_ok (Json.Value.numbersFit_getD (k := "time") (d := .null) hv rfl)
  obtain ⟨c, hc⟩ := costOf_ok (o := v.get? "cost") fun w h => Json.Value.numbersFit_get hv h
  obtain ⟨k, hk⟩ :=
    TokenInfo.decode_ok (Json.Value.numbersFit_getD (k := "tokens") (d := .null) hv rfl)
  refine .bind (requireObject_noOverflow v _) fun _ => ?_
  split
  · exact .bind (.of_ok (by simp [UserMessage.decode, Timestamps.decodeField, ht]; rfl)) fun _ => .pure _
  · exact .bind (.of_ok (by simp [AssistantMessage.decode, Timestamps.decodeField, ht, hc, hk]; rfl))
      fun _ => .pure _
  · exact .throw rfl

theorem Part.decode_noOverflow (v : Json.Value) : NoOverflow (Part.decode v) := by
  refine .bind (requireObject_noOverflow v _) fun _ => ?_
  split
  · exact .pure _
  · exact .pure _
  · exact .pure _
  · exact .pure _
  · exact .throw rfl

end AgentLink
