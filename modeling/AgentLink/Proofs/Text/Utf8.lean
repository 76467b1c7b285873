import Mathlib
import AgentLink.Text.Utf8

/-!
# How the decoder reads a character

A scalar value is a code point below `0x110000` that is not a surrogate (`Utf8.IsScalar`), and
its bytes are those `Utf8.pointBytes` writes. This module ties the incremental decoder to that
encoder.

A lead byte leaves the decoder waiting for one to three continuation bytes, the first in a range
that depends on the lead byte and the others in `0x80`..`0xBF` (`Utf8.Fits`). Whatever bytes in
those ranges follow, they complete the bytes of the scalar value that the decoder then holds
(`Utf8.Expects`, `Utf8.start_expects`): the ranges of the decoder's table admit no overlong form,
no surrogate and nothing above `0x10FFFF`. Conversely the bytes of every scalar value of two
bytes or more fit the ranges that their lead byte opens (`Utf8.pointBytes_reads`).

Hence the decoder reads the bytes of a scalar value as that value (`Utf8.feed_pointBytes`);
inside them it waits, and any byte it would take next continues the bytes of some scalar value
(`Utf8.feed_inside`); and a byte that starts the bytes of no scalar value is one replacement
character on its own (`Utf8.start_of_not_leading`).
-/

namespace AgentLink.Utf8


/-- A Unicode scalar value: a code point below `0x110000` that is not a surrogate. -/
def IsScalar (n : Nat) : Prop := n < 0x110000 ∧ Text.isSurrogate n = false

instance : DecidablePred IsScalar := fun _ => inferInstanceAs (Decidable (_ ∧ _))

theorem isScalar_iff {n : Nat} : IsScalar n ↔ n < 0x110000 ∧ (n < 0xD800 ∨ 0xDFFF < n) := by
  simp only [IsScalar, Text.isSurrogate, Bool.and_eq_false_iff, decide_eq_false_iff_not]
  omega

/-- The start of the bytes of some scalar value: none of them, some, or all. -/
def IsLeading (p : List UInt8) : Prop := ∃ n, IsScalar n ∧ p <+: pointBytes n

theorem IsLeading.mono {p q : List UInt8} (h : IsLeading q) (hp : p <+: q) :
    IsLeading p := by
  obtain ⟨n, hn, hq⟩ := h
  exact ⟨n, hn, hp.trans hq⟩

/-- Continuation bytes that a decoder waiting for a byte in `lo`..`hi` takes in turn: the first
in that range, the others in `0x80`..`0xBF`. -/
def Fits (lo hi : UInt8) : List UInt8 → Prop
  | [] => True
  | c :: q => lo ≤ c ∧ c ≤ hi ∧ Fits 0x80 0xBF q

/-- The bits that a decoder holding `bits` holds after the continuation bytes `q`. -/
def bitsOf (bits : Nat) (q : List UInt8) : Nat :=
  q.foldl (fun b c => b * 64 + (c.toNat - 0x80)) bits

@[simp] theorem bitsOf_nil (bits : Nat) : bitsOf bits [] = bits := by
  rw [bitsOf, List.foldl_nil]

@[simp] theorem bitsOf_cons (bits : Nat) (c : UInt8) (q : List UInt8) :
    bitsOf bits (c :: q) = bitsOf (bits * 64 + (c.toNat - 0x80)) q := by
  rw [bitsOf, List.foldl_cons, bitsOf]

/-- What a decoder stands for that has read the bytes `p` and waits for `needed` more, the first
in `lo`..`hi`: whichever such bytes follow, they complete the bytes of the scalar value that it
then holds. -/
def Expects (p : List UInt8) (bits needed : Nat) (lo hi : UInt8) : Prop :=
  ∀ q, q.length = needed → Fits lo hi q →
    IsScalar (bitsOf bits q) ∧ pointBytes (bitsOf bits q) = p ++ q

theorem toUInt8_eq {x : Nat} {b : UInt8} (h : b.toNat = x) : x.toUInt8 = b := by
  subst h
  simp

theorem exists_toNat_eq {x : Nat} (h : x < 256) : ∃ b : UInt8, b.toNat = x :=
  ⟨x.toUInt8, by simp only [Nat.toUInt8_eq, UInt8.toNat_ofNat']; omega⟩

/-! ## The bytes of a scalar value, by its length -/

theorem pointBytes_one {n : Nat} {b : UInt8} (h : n < 0x80) (hb : b.toNat = n) :
    pointBytes n = [b] := by
  rw [pointBytes, if_pos h, toUInt8_eq hb]

theorem pointBytes_two {n : Nat} {b c : UInt8} (h₁ : 0x80 ≤ n) (h₂ : n < 0x800)
    (hb : b.toNat = 0xC0 + n / 64) (hc : c.toNat = 0x80 + n % 64) : pointBytes n = [b, c] := by
  rw [pointBytes, if_neg (by omega), if_pos h₂, toUInt8_eq hb, toUInt8_eq hc]

theorem pointBytes_three {n : Nat} {b c d : UInt8} (h₁ : 0x800 ≤ n) (h₂ : n < 0x10000)
    (hb : b.toNat = 0xE0 + n / 4096) (hc : c.toNat = 0x80 + n / 64 % 64)
    (hd : d.toNat = 0x80 + n % 64) : pointBytes n = [b, c, d] := by
  rw [pointBytes, if_neg (by omega), if_neg (by omega), if_pos h₂, toUInt8_eq hb, toUInt8_eq hc,
    toUInt8_eq hd]

theorem pointBytes_four {n : Nat} {b c d e : UInt8} (h₁ : 0x10000 ≤ n)
    (hb : b.toNat = 0xF0 + n / 262144) (hc : c.toNat = 0x80 + n / 4096 % 64)
    (hd : d.toNat = 0x80 + n / 64 % 64) (he : e.toNat = 0x80 + n % 64) :
    pointBytes n = [b, c, d, e] := by
  rw [pointBytes, if_neg (by omega), if_neg (by omega), if_neg (by omega), toUInt8_eq hb,
    toUInt8_eq hc, toUInt8_eq hd, toUInt8_eq he]

theorem length_pointBytes (n : Nat) : 0 < (pointBytes n).length ∧ (pointBytes n).length ≤ 4 := by
  unfold pointBytes
  split
  · simp
  split
  · simp
  split <;> simp

/-! ## The decoder's table

What `start` does with a byte, class by class of the value of the byte: the rows of Table 3-7
of the Unicode Standard, with the range each lead byte allows for the byte after it. -/

section Table

variable {b : UInt8}

/-- The classes of bytes that `start` tells apart. -/
theorem byte_cases (b : UInt8) :
    b.toNat < 0x80 ∨ (0x80 ≤ b.toNat ∧ b.toNat < 0xC2 ∨ 0xF4 < b.toNat) ∨
      (0xC2 ≤ b.toNat ∧ b.toNat < 0xE0) ∨ b.toNat = 0xE0 ∨ b.toNat = 0xED ∨
      (0xE0 < b.toNat ∧ b.toNat < 0xF0 ∧ b.toNat ≠ 0xED) ∨ b.toNat = 0xF0 ∨
      (0xF0 < b.toNat ∧ b.toNat < 0xF4) ∨ b.toNat = 0xF4 := by
  omega

theorem start_ascii (h : b.toNat < 0x80) : start b = (Text.writeCodePoint b.toNat, .idle) := by
  unfold start
  rw [if_pos (by simpa only [UInt8.lt_iff_toNat_lt, UInt8.reduceToNat] using h)]

theorem start_invalid (h : 0x80 ≤ b.toNat ∧ b.toNat < 0xC2 ∨ 0xF4 < b.toNat) :
    start b = ([replacement], .idle) := by
  unfold start
  simp only [UInt8.lt_iff_toNat_lt, beq_iff_eq, ← UInt8.toNat_inj, UInt8.reduceToNat]
  rcases h with ⟨h₁, h₂⟩ | h
  · rw [if_neg (by omega), if_pos h₂]
  · rw [if_neg (by omega), if_neg (by omega), if_neg (by omega), if_neg (by omega),
      if_neg (by omega), if_neg (by omega), if_neg (by omega), if_neg (by omega), if_neg (by omega)]

theorem start_two (h₁ : 0xC2 ≤ b.toNat) (h₂ : b.toNat < 0xE0) :
    start b = ([], .pending (b.toNat - 0xC0) 1 0x80 0xBF) := by
  unfold start
  simp only [UInt8.lt_iff_toNat_lt, beq_iff_eq, ← UInt8.toNat_inj, UInt8.reduceToNat]
  rw [if_neg (by omega), if_neg (by omega), if_pos h₂]

theorem start_e0 (h : b.toNat = 0xE0) : start b = ([], .pending 0 2 0xA0 0xBF) := by
  unfold start
  simp only [UInt8.lt_iff_toNat_lt, beq_iff_eq, ← UInt8.toNat_inj, UInt8.reduceToNat]
  rw [if_neg (by omega), if_neg (by omega), if_neg (by omega), if_pos h]

theorem start_ed (h : b.toNat = 0xED) : start b = ([], .pending 0xD 2 0x80 0x9F) := by
  unfold start
  simp only [UInt8.lt_iff_toNat_lt, beq_iff_eq, ← UInt8.toNat_inj, UInt8.reduceToNat]
  rw [if_neg (by omega), if_neg (by omega), if_neg (by omega), if_neg (by omega), if_pos h]

theorem start_three (h₁ : 0xE0 < b.toNat) (h₂ : b.toNat < 0xF0) (h₃ : b.toNat ≠ 0xED) :
    start b = ([], .pending (b.toNat - 0xE0) 2 0x80 0xBF) := by
  unfold start
  simp only [UInt8.lt_iff_toNat_lt, beq_iff_eq, ← UInt8.toNat_inj, UInt8.reduceToNat]
  rw [if_neg (by omega), if_neg (by omega), if_neg (by omega), if_neg (by omega), if_neg h₃,
    if_pos h₂]

theorem start_f0 (h : b.toNat = 0xF0) : start b = ([], .pending 0 3 0x90 0xBF) := by
  unfold start
  simp only [UInt8.lt_iff_toNat_lt, beq_iff_eq, ← UInt8.toNat_inj, UInt8.reduceToNat]
  rw [if_neg (by omega), if_neg (by omega), if_neg (by omega), if_neg (by omega),
    if_neg (by omega), if_neg (by omega), if_pos h]

theorem start_four (h₁ : 0xF0 < b.toNat) (h₂ : b.toNat < 0xF4) :
    start b = ([], .pending (b.toNat - 0xF0) 3 0x80 0xBF) := by
  unfold start
  simp only [UInt8.lt_iff_toNat_lt, beq_iff_eq, ← UInt8.toNat_inj, UInt8.reduceToNat]
  rw [if_neg (by omega), if_neg (by omega), if_neg (by omega), if_neg (by omega),
    if_neg (by omega), if_neg (by omega), if_neg (by omega), if_pos h₂]

theorem start_f4 (h : b.toNat = 0xF4) : start b = ([], .pending 4 3 0x80 0x8F) := by
  unfold start
  simp only [UInt8.lt_iff_toNat_lt, beq_iff_eq, ← UInt8.toNat_inj, UInt8.reduceToNat]
  rw [if_neg (by omega), if_neg (by omega), if_neg (by omega), if_neg (by omega),
    if_neg (by omega), if_neg (by omega), if_neg (by omega), if_neg (by omega), if_pos h]

end Table

/-! ## What a lead byte opens -/

/-- The lead bytes of two-byte characters, `0xC2`..`0xDF`. -/
theorem expects_two {b : UInt8} {bits : Nat} (hb : b.toNat = 0xC0 + bits) (h₁ : 2 ≤ bits)
    (h₂ : bits < 0x20) : Expects [b] bits 1 0x80 0xBF := by
  intro q hq hf
  obtain ⟨c, rfl⟩ := List.length_eq_one_iff.1 hq
  simp only [Fits, UInt8.le_iff_toNat_le, UInt8.reduceToNat, and_true] at hf
  simp only [bitsOf_cons, bitsOf_nil, List.singleton_append]
  exact ⟨isScalar_iff.2 (by omega), pointBytes_two (by omega) (by omega) (by omega) (by omega)⟩

/-- The lead bytes of three-byte characters, `0xE0`..`0xEF`, each with the range of its second
byte: when every completion is a scalar value of three bytes. -/
theorem expects_three {b lo hi : UInt8} {bits : Nat} (hb : b.toNat = 0xE0 + bits)
    (h : bits < 0x10) (hlo : 0x80 ≤ lo.toNat) (hhi : hi.toNat ≤ 0xBF)
    (hmin : 0x800 ≤ bits * 4096 + (lo.toNat - 0x80) * 64)
    (hsur : bits * 4096 + (hi.toNat - 0x80) * 64 < 0xD800 ∨
      0xE000 ≤ bits * 4096 + (lo.toNat - 0x80) * 64) :
    Expects [b] bits 2 lo hi := by
  intro q hq hf
  obtain ⟨c, d, rfl⟩ := List.length_eq_two.1 hq
  simp only [Fits, UInt8.le_iff_toNat_le, UInt8.reduceToNat, and_true] at hf
  simp only [bitsOf_cons, bitsOf_nil, List.singleton_append]
  exact ⟨isScalar_iff.2 (by omega),
    pointBytes_three (by omega) (by omega) (by omega) (by omega) (by omega)⟩

/-- The lead bytes of four-byte characters, `0xF0`..`0xF4`, each with the range of its second
byte: when every completion is a scalar value of four bytes. -/
theorem expects_four {b lo hi : UInt8} {bits : Nat} (hb : b.toNat = 0xF0 + bits)
    (hlo : 0x80 ≤ lo.toNat) (hhi : hi.toNat ≤ 0xBF)
    (hmin : 0x10000 ≤ bits * 262144 + (lo.toNat - 0x80) * 4096)
    (hmax : bits * 262144 + (hi.toNat - 0x80) * 4096 < 0x110000) :
    Expects [b] bits 3 lo hi := by
  intro q hq hf
  obtain ⟨c, d, e, rfl⟩ := List.length_eq_three.1 hq
  simp only [Fits, UInt8.le_iff_toNat_le, UInt8.reduceToNat, and_true] at hf
  simp only [bitsOf_cons, bitsOf_nil, List.singleton_append]
  exact ⟨isScalar_iff.2 (by omega),
    pointBytes_four (by omega) (by omega) (by omega) (by omega) (by omega)⟩

/-- Every way the decoder opens a character at a lead byte stands for the scalar values whose
bytes start with that byte. -/
theorem start_expects {b : UInt8} {bits needed : Nat} {lo hi : UInt8}
    (h : start b = ([], .pending bits needed lo hi)) :
    Expects [b] bits needed lo hi ∧ 0 < needed ∧ lo ≤ hi := by
  rcases byte_cases b with hb | hb | ⟨h₁, h₂⟩ | hb | hb | ⟨h₁, h₂, h₃⟩ | hb | ⟨h₁, h₂⟩ | hb
  · simp [start_ascii hb] at h
  · simp [start_invalid hb] at h
  · rw [start_two h₁ h₂] at h
    simp only [Prod.mk.injEq, Decoder.pending.injEq, true_and] at h
    obtain ⟨rfl, rfl, rfl, rfl⟩ := h
    exact ⟨expects_two (by omega) (by omega) (by omega), by decide, by decide⟩
  · rw [start_e0 hb] at h
    simp only [Prod.mk.injEq, Decoder.pending.injEq, true_and] at h
    obtain ⟨rfl, rfl, rfl, rfl⟩ := h
    exact ⟨expects_three (by omega) (by omega) (by decide) (by decide) (by decide) (by decide),
      by decide, by decide⟩
  · rw [start_ed hb] at h
    simp only [Prod.mk.injEq, Decoder.pending.injEq, true_and] at h
    obtain ⟨rfl, rfl, rfl, rfl⟩ := h
    exact ⟨expects_three (by omega) (by omega) (by decide) (by decide) (by decide) (by decide),
      by decide, by decide⟩
  · rw [start_three h₁ h₂ h₃] at h
    simp only [Prod.mk.injEq, Decoder.pending.injEq, true_and] at h
    obtain ⟨rfl, rfl, rfl, rfl⟩ := h
    exact ⟨expects_three (by omega) (by omega) (by decide) (by decide)
      (by simp only [UInt8.reduceToNat]; omega) (by simp only [UInt8.reduceToNat]; omega),
      by decide, by decide⟩
  · rw [start_f0 hb] at h
    simp only [Prod.mk.injEq, Decoder.pending.injEq, true_and] at h
    obtain ⟨rfl, rfl, rfl, rfl⟩ := h
    exact ⟨expects_four (by omega) (by decide) (by decide) (by decide) (by decide), by decide,
      by decide⟩
  · rw [start_four h₁ h₂] at h
    simp only [Prod.mk.injEq, Decoder.pending.injEq, true_and] at h
    obtain ⟨rfl, rfl, rfl, rfl⟩ := h
    exact ⟨expects_four (by omega) (by decide) (by decide)
      (by simp only [UInt8.reduceToNat]; omega) (by simp only [UInt8.reduceToNat]; omega),
      by decide, by decide⟩
  · rw [start_f4 hb] at h
    simp only [Prod.mk.injEq, Decoder.pending.injEq, true_and] at h
    obtain ⟨rfl, rfl, rfl, rfl⟩ := h
    exact ⟨expects_four (by omega) (by decide) (by decide) (by decide) (by decide), by decide,
      by decide⟩

/-- A byte is an ASCII character, one replacement character on its own, or opens a
character. -/
theorem start_cases (b : UInt8) : b.toNat < 0x80 ∨ start b = ([replacement], .idle) ∨
    ∃ bits needed lo hi, start b = ([], .pending bits needed lo hi) := by
  rcases byte_cases b with hb | hb | ⟨h₁, h₂⟩ | hb | hb | ⟨h₁, h₂, h₃⟩ | hb | ⟨h₁, h₂⟩ | hb
  · exact .inl hb
  · exact .inr (.inl (start_invalid hb))
  · exact .inr (.inr ⟨_, _, _, _, start_two h₁ h₂⟩)
  · exact .inr (.inr ⟨_, _, _, _, start_e0 hb⟩)
  · exact .inr (.inr ⟨_, _, _, _, start_ed hb⟩)
  · exact .inr (.inr ⟨_, _, _, _, start_three h₁ h₂ h₃⟩)
  · exact .inr (.inr ⟨_, _, _, _, start_f0 hb⟩)
  · exact .inr (.inr ⟨_, _, _, _, start_four h₁ h₂⟩)
  · exact .inr (.inr ⟨_, _, _, _, start_f4 hb⟩)

/-! ## The bytes of a scalar value, read -/

/-- The bytes of a scalar value of two bytes or more: a lead byte that opens a character, then
continuation bytes that fit and complete that value. -/
theorem pointBytes_reads {n : Nat} (hn : IsScalar n) (h : 0x80 ≤ n) :
    ∃ b q bits lo hi, pointBytes n = b :: q ∧ q ≠ [] ∧
      start b = ([], .pending bits q.length lo hi) ∧ Fits lo hi q ∧ bitsOf bits q = n := by
  rw [isScalar_iff] at hn
  rcases (by omega : n < 0x800 ∨ (0x800 ≤ n ∧ n < 0x10000) ∨ 0x10000 ≤ n) with h₂ | h₃ | h₄
  · obtain ⟨b, hb⟩ := exists_toNat_eq (x := 0xC0 + n / 64) (by omega)
    obtain ⟨c, hc⟩ := exists_toNat_eq (x := 0x80 + n % 64) (by omega)
    refine ⟨b, [c], b.toNat - 0xC0, 0x80, 0xBF, pointBytes_two h h₂ hb hc, List.cons_ne_nil _ _,
      start_two (by omega) (by omega), ?_, ?_⟩
    · simp only [Fits, UInt8.le_iff_toNat_le, UInt8.reduceToNat, hc, and_true]
      omega
    · simp only [bitsOf_cons, bitsOf_nil, hb, hc]
      omega
  · obtain ⟨b, hb⟩ := exists_toNat_eq (x := 0xE0 + n / 4096) (by omega)
    obtain ⟨c, hc⟩ := exists_toNat_eq (x := 0x80 + n / 64 % 64) (by omega)
    obtain ⟨d, hd⟩ := exists_toNat_eq (x := 0x80 + n % 64) (by omega)
    -- the row of the lead byte: `0xE0` takes `0xA0`..`0xBF` next, `0xED` takes `0x80`..`0x9F`
    obtain ⟨bits, lo, hi, hs, hbits, hf⟩ : ∃ bits lo hi,
        start b = ([], .pending bits 2 lo hi) ∧ bits = n / 4096 ∧ Fits lo hi [c, d] := by
      rcases (by omega : n < 0x1000 ∨ (0xD000 ≤ n ∧ n < 0xD800) ∨
          (0x1000 ≤ n ∧ n < 0xD000 ∨ 0xE000 ≤ n)) with h₅ | h₅ | h₅ <;>
        [refine ⟨0, 0xA0, 0xBF, start_e0 (by omega), by omega, ?_⟩;
          refine ⟨0xD, 0x80, 0x9F, start_ed (by omega), by omega, ?_⟩;
          refine ⟨b.toNat - 0xE0, 0x80, 0xBF, start_three (by omega) (by omega) (by omega),
            by omega, ?_⟩] <;>
      · simp only [Fits, UInt8.le_iff_toNat_le, UInt8.reduceToNat, hc, hd, and_true]
        omega
    refine ⟨b, [c, d], bits, lo, hi, pointBytes_three h₃.1 h₃.2 hb hc hd, List.cons_ne_nil _ _,
      hs, hf, ?_⟩
    simp only [bitsOf_cons, bitsOf_nil, hbits, hc, hd]
    omega
  · obtain ⟨b, hb⟩ := exists_toNat_eq (x := 0xF0 + n / 262144) (by omega)
    obtain ⟨c, hc⟩ := exists_toNat_eq (x := 0x80 + n / 4096 % 64) (by omega)
    obtain ⟨d, hd⟩ := exists_toNat_eq (x := 0x80 + n / 64 % 64) (by omega)
    obtain ⟨e, he⟩ := exists_toNat_eq (x := 0x80 + n % 64) (by omega)
    -- the row of the lead byte: `0xF0` takes `0x90`..`0xBF` next, `0xF4` takes `0x80`..`0x8F`
    obtain ⟨bits, lo, hi, hs, hbits, hf⟩ : ∃ bits lo hi,
        start b = ([], .pending bits 3 lo hi) ∧ bits = n / 262144 ∧ Fits lo hi [c, d, e] := by
      rcases (by omega : n < 0x40000 ∨ 0x100000 ≤ n ∨ (0x40000 ≤ n ∧ n < 0x100000))
          with h₅ | h₅ | h₅ <;>
        [refine ⟨0, 0x90, 0xBF, start_f0 (by omega), by omega, ?_⟩;
          refine ⟨4, 0x80, 0x8F, start_f4 (by omega), by omega, ?_⟩;
          refine ⟨b.toNat - 0xF0, 0x80, 0xBF, start_four (by omega) (by omega), by omega, ?_⟩] <;>
      · simp only [Fits, UInt8.le_iff_toNat_le, UInt8.reduceToNat, hc, hd, he, and_true]
        omega
    refine ⟨b, [c, d, e], bits, lo, hi, pointBytes_four h₄ hb hc hd he, List.cons_ne_nil _ _,
      hs, hf, ?_⟩
    simp only [bitsOf_cons, bitsOf_nil, hbits, hc, hd, he]
    omega

/-! ## Reading continuation bytes -/

theorem feed_cons (d : Decoder) (b : UInt8) (bs : List UInt8) :
    d.feed (b :: bs) = ((d.step b).1 ++ ((d.step b).2.feed bs).1, ((d.step b).2.feed bs).2) :=
  rfl

/-- A byte in the range the decoder waits for continues the character. -/
theorem step_take {bits needed : Nat} {lo hi c : UInt8} (hlo : lo ≤ c) (hhi : c ≤ hi) :
    (Decoder.pending bits needed lo hi).step c =
      if needed ≤ 1 then (Text.writeCodePoint (bits * 64 + (c.toNat - 0x80)), .idle)
      else ([], .pending (bits * 64 + (c.toNat - 0x80)) (needed - 1) 0x80 0xBF) := by
  simp [Decoder.step, hlo, hhi]

/-- A byte out of that range ends the character as one replacement character, and is read again
from between characters. -/
theorem step_refuse {bits needed : Nat} {lo hi c : UInt8} (h : ¬ (lo ≤ c ∧ c ≤ hi)) :
    (Decoder.pending bits needed lo hi).step c = (replacement :: (start c).1, (start c).2) := by
  simp only [Decoder.step]
  rw [if_neg (by simpa only [Bool.and_eq_true, decide_eq_true_eq] using h)]

/-- A byte out of the range the decoder waits for: one replacement character, then the byte read
again from between characters. -/
theorem feed_refuse {bits needed : Nat} {lo hi c : UInt8} (h : ¬ (lo ≤ c ∧ c ≤ hi))
    (rest : List UInt8) :
    (Decoder.pending bits needed lo hi).feed (c :: rest) =
      (replacement :: (Decoder.idle.feed (c :: rest)).1, (Decoder.idle.feed (c :: rest)).2) := by
  rw [feed_cons, step_refuse h, feed_cons]
  rfl

theorem fits_replicate (k : Nat) : Fits 0x80 0xBF (List.replicate k 0x80) := by
  induction k with
  | zero => trivial
  | succ k ih => exact ⟨by decide, by decide, ih⟩

/-- A byte taken in range leaves a decoder that stands for the same completions. -/
theorem Expects.step {p : List UInt8} {bits needed : Nat} {lo hi c : UInt8}
    (he : Expects p bits (needed + 1) lo hi) (hlo : lo ≤ c) (hhi : c ≤ hi) :
    Expects (p ++ [c]) (bits * 64 + (c.toNat - 0x80)) needed 0x80 0xBF := by
  intro q hq hf
  have whole := he (c :: q) (by simp [hq]) ⟨hlo, hhi, hf⟩
  simpa using whole

/-- A byte in the range a decoder waits for continues the bytes of some scalar value. -/
theorem Expects.isLeading {p : List UInt8} {bits needed : Nat} {lo hi c : UInt8}
    (he : Expects p bits (needed + 1) lo hi) (hlo : lo ≤ c) (hhi : c ≤ hi) :
    IsLeading (p ++ [c]) := by
  obtain ⟨hn, hbytes⟩ := he (c :: List.replicate needed 0x80) (by simp)
    ⟨hlo, hhi, fits_replicate needed⟩
  exact ⟨_, hn, hbytes ▸ ⟨List.replicate needed 0x80, by simp⟩⟩

/-- Continuation bytes that fit complete the character. -/
theorem feed_fits {lo hi : UInt8} {q : List UInt8} (bits : Nat) (hq : Fits lo hi q)
    (hne : q ≠ []) :
    (Decoder.pending bits q.length lo hi).feed q = (Text.writeCodePoint (bitsOf bits q), .idle) := by
  induction q generalizing bits lo hi with
  | nil => exact absurd rfl hne
  | cons c q ih =>
    obtain ⟨hlo, hhi, hq⟩ := hq
    rw [feed_cons, step_take hlo hhi]
    cases q with
    | nil => simp [Decoder.feed]
    | cons d q =>
      have rest := ih (bits * 64 + (c.toNat - 0x80)) hq (List.cons_ne_nil _ _)
      simp only [List.length_cons] at rest ⊢
      rw [if_neg (by omega), Nat.add_sub_cancel, rest, bitsOf_cons bits c, List.nil_append]

/-- Continuation bytes that fit, short of the end of the character, leave a decoder waiting for
the rest that stands for the completions of all the bytes read. -/
theorem feed_expects {p q s : List UInt8} {bits : Nat} {lo hi : UInt8}
    (he : Expects p bits (q ++ s).length lo hi) (hf : Fits lo hi (q ++ s)) (hs : s ≠ []) :
    ∃ bits' lo' hi', (Decoder.pending bits (q ++ s).length lo hi).feed q =
        ([], .pending bits' s.length lo' hi') ∧ Expects (p ++ q) bits' s.length lo' hi' ∧
      Fits lo' hi' s := by
  induction q generalizing p bits lo hi with
  | nil => exact ⟨bits, lo, hi, rfl, by simpa using he, hf⟩
  | cons c q ih =>
    obtain ⟨hlo, hhi, hf⟩ := hf
    have hlen : (c :: q ++ s).length = (q ++ s).length + 1 := by simp
    have hmore : 0 < s.length := List.length_pos_iff.2 hs
    rw [hlen] at he ⊢
    obtain ⟨bits', lo', hi', hfeed, he', hf'⟩ := ih (he.step hlo hhi) hf
    refine ⟨bits', lo', hi', ?_, by simpa using he', hf'⟩
    rw [feed_cons, step_take hlo hhi, if_neg (by rw [List.length_append]; omega),
      Nat.add_sub_cancel, hfeed]
    rfl

/-! ## What the decoder does with the bytes of scalar values -/

/-- The decoder reads the bytes of a scalar value as that value, and is between characters
again after them. -/
theorem feed_pointBytes {n : Nat} (hn : IsScalar n) :
    Decoder.idle.feed (pointBytes n) = (Text.writeCodePoint n, .idle) := by
  by_cases h : n < 0x80
  · obtain ⟨b, hb⟩ := exists_toNat_eq (x := n) (by omega)
    rw [pointBytes_one h hb, feed_cons, Decoder.step, start_ascii (by omega), hb]
    simp [Decoder.feed]
  · obtain ⟨b, q, bits, lo, hi, hbytes, hq, hs, hf, hv⟩ := pointBytes_reads hn (by omega)
    rw [hbytes, feed_cons, Decoder.step, hs, feed_fits bits hf hq, hv]
    rfl

/-- Inside the bytes of a scalar value the decoder waits for more, and each byte in the range
it waits for continues the bytes of some scalar value. -/
theorem feed_inside {n : Nat} {p s : List UInt8} (hn : IsScalar n) (h : pointBytes n = p ++ s)
    (hp : p ≠ []) (hs : s ≠ []) :
    ∃ bits lo hi, Decoder.idle.feed p = ([], .pending bits s.length lo hi) ∧
      ∀ c, lo ≤ c → c ≤ hi → IsLeading (p ++ [c]) := by
  have long : 0x80 ≤ n := by
    by_contra hlt
    obtain ⟨b, hb⟩ := exists_toNat_eq (x := n) (by omega)
    have hlen := congrArg List.length h
    rw [pointBytes_one (by omega) hb, List.length_append, List.length_singleton] at hlen
    have := List.length_pos_iff.2 hp
    have := List.length_pos_iff.2 hs
    omega
  obtain ⟨b, q, bits, lo, hi, hbytes, -, hst, hf, -⟩ := pointBytes_reads hn long
  obtain ⟨b', q₁, rfl⟩ := List.exists_cons_of_ne_nil hp
  rw [hbytes, List.cons_append, List.cons.injEq] at h
  obtain ⟨rfl, rfl⟩ := h
  obtain ⟨he, -, -⟩ := start_expects hst
  obtain ⟨bits', lo', hi', hfeed, he', -⟩ := feed_expects he hf hs
  obtain ⟨k, hk⟩ := Nat.exists_eq_add_one_of_ne_zero (List.length_pos_iff.2 hs).ne'
  refine ⟨bits', lo', hi', ?_, fun c hlo hhi => ?_⟩
  · rw [feed_cons, Decoder.step, hst, hfeed]
    rfl
  · rw [hk] at he'
    simpa using he'.isLeading hlo hhi

/-- A byte that starts the bytes of no scalar value is one replacement character on its own. -/
theorem start_of_not_leading {b : UInt8} (h : ¬ IsLeading [b]) :
    start b = ([replacement], .idle) := by
  rcases start_cases b with ha | hr | ⟨bits, needed, lo, hi, hs⟩
  · exact absurd ⟨b.toNat, isScalar_iff.2 (by omega), by rw [pointBytes_one ha rfl]⟩ h
  · exact hr
  · obtain ⟨he, hpos, hlh⟩ := start_expects hs
    obtain ⟨k, rfl⟩ := Nat.exists_eq_add_one_of_ne_zero hpos.ne'
    exact absurd ((he.isLeading (UInt8.le_refl lo) hlh).mono (List.prefix_append _ _)) h

end AgentLink.Utf8
