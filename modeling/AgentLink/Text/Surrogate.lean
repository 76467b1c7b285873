/-!
# Texts of code points

A text of the protocol is a sequence of code points, and some code points are no characters: a
JSON text may name any UTF-16 code unit by an escape `\uhhhh`, and a surrogate (a code unit from
`0xD800` to `0xDFFF`) that is not half of a pair stays a lone surrogate in the text. Such texts
must come back out as the escapes they came in as. A Lean character cannot be a surrogate, so a
text here writes each code point as one or two characters (`Text.writeCodePoint`):

* a lone surrogate as its *carrier*, the code point `0xE0000` above it, in a block of plane 14
  that the Unicode standard leaves unassigned (`Text.surrogateCarrier`);
* a character of that block, and the mark `Text.escapeMark` itself, after the mark, so that
  they are not taken for carriers;
* every other character as itself.

Every sequence of code points has one writing, and `Text.codePoints` reads it back
(`Text.codePoints_writeCodePoints`). Being unassigned, the carriers and the mark are neither
printable nor cased, have no case mapping and are no blank or digit, just as a surrogate is
none of these; what counts characters, encodes a text or escapes it reads its code points.
-/

namespace AgentLink.Text

/-- How far above a surrogate its carrier lies. -/
def carrierOffset : Nat := 0xE0000

/-- Whether a number is a surrogate code unit. -/
def isSurrogate (n : Nat) : Bool :=
  0xD800 ≤ n && n ≤ 0xDFFF

/-- The character that carries the surrogate `n`. -/
def surrogateCarrier (n : Nat) : Char :=
  Char.ofNat (n + carrierOffset)

/-- The surrogate a character carries, if it is a carrier. -/
def carriedSurrogate? (c : Char) : Option Nat :=
  if isSurrogate (c.toNat - carrierOffset) && carrierOffset ≤ c.toNat then
    some (c.toNat - carrierOffset)
  else none

/-- The code point of the mark that writes a character of the carriers' block for what it is. -/
def escapeMarkCode : Nat := 0xEE000

/-- The mark that writes a character of the carriers' block, or the mark itself, for what it
is. -/
def escapeMark : Char := Char.ofNat escapeMarkCode

/-- Whether a character is written after the mark: a character of the carriers' block, or the
mark itself. -/
def needsMark (n : Nat) : Bool :=
  (carrierOffset ≤ n && isSurrogate (n - carrierOffset)) || n == escapeMarkCode

/-- The characters that write a code point. -/
def writeCodePoint (n : Nat) : List Char :=
  if isSurrogate n then [surrogateCarrier n]
  else if needsMark n then [escapeMark, Char.ofNat n]
  else [Char.ofNat n]

/-- The characters that write a sequence of code points. -/
def writeCodePoints (ns : List Nat) : List Char :=
  ns.flatMap writeCodePoint

/-- The code point a single character stands for: the surrogate it carries, or itself. -/
def codeOf (c : Char) : Nat :=
  (carriedSurrogate? c).getD c.toNat

/-- The code points a written text stands for. A mark stands with the character after it for
that character; a mark at the very end stands for itself. -/
def codePoints : List Char → List Nat
  | [] => []
  | [c] => [codeOf c]
  | c :: d :: rest =>
    if c == escapeMark then d.toNat :: codePoints rest
    else codeOf c :: codePoints (d :: rest)

/-- The text that writes the characters of a text of real characters: the characters the
carriers' block and the mark, which otherwise would read as something else, go after the
mark. -/
def ofChars (cs : List Char) : List Char :=
  writeCodePoints (cs.map Char.toNat)

/-- How many code points a written text stands for. -/
def size (s : String) : Nat :=
  (codePoints s.toList).length

theorem surrogateCarrier_toNat (n : Nat) (h : isSurrogate n = true) :
    (surrogateCarrier n).toNat = n + carrierOffset := by
  simp only [isSurrogate, Bool.and_eq_true, decide_eq_true_eq] at h
  have hv : (n + carrierOffset).isValidChar := by
    simp only [Nat.isValidChar, carrierOffset]
    omega
  unfold surrogateCarrier
  rw [Char.ofNat, dif_pos hv]
  rfl

/-- Every surrogate comes back from its carrier. -/
theorem carriedSurrogate_carrier (n : Nat) (h : isSurrogate n = true) :
    carriedSurrogate? (surrogateCarrier n) = some n := by
  unfold carriedSurrogate?
  rw [surrogateCarrier_toNat n h, Nat.add_sub_cancel]
  simp [h]

theorem escapeMark_toNat : escapeMark.toNat = escapeMarkCode := by
  have hv : escapeMarkCode.isValidChar := by
    simp only [Nat.isValidChar, escapeMarkCode]
    omega
  unfold escapeMark
  rw [Char.ofNat, dif_pos hv]
  rfl

/-- A character outside the carriers' block is no carrier. -/
theorem carriedSurrogate_none (c : Char) (h : needsMark c.toNat = false) :
    carriedSurrogate? c = none := by
  have hc : (isSurrogate (c.toNat - carrierOffset) && decide (carrierOffset ≤ c.toNat)) = false := by
    simp only [needsMark, Bool.or_eq_false_iff] at h
    rw [Bool.and_comm]
    exact h.1
  unfold carriedSurrogate?
  rw [hc]
  rfl

/-- A character that is neither a carrier nor the mark stands for itself. -/
theorem codeOf_plain (c : Char) (h : needsMark c.toNat = false) : codeOf c = c.toNat := by
  rw [codeOf, carriedSurrogate_none c h]
  rfl

/-- A character of a valid code point has that code point. -/
theorem ofNat_toNat_of_valid (n : Nat) (h : n.isValidChar) : (Char.ofNat n).toNat = n := by
  rw [Char.ofNat, dif_pos h]
  rfl

/-- A text that does not start with the mark reads its first character alone. -/
theorem codePoints_plain (c : Char) (h : c ≠ escapeMark) (rest : List Char) :
    codePoints (c :: rest) = codeOf c :: codePoints rest := by
  cases rest with
  | nil => rfl
  | cons d rest => simp [codePoints, h]

/-- The mark reads the character after it for what it is. -/
theorem codePoints_marked (d : Char) (rest : List Char) :
    codePoints (escapeMark :: d :: rest) = d.toNat :: codePoints rest := by
  simp [codePoints]

/-- A character written after the mark lies in the carriers' block or is the mark. -/
theorem carrierOffset_le_of_needsMark (n : Nat) (h : needsMark n = true) : carrierOffset ≤ n := by
  unfold needsMark at h
  rcases Bool.or_eq_true_iff.mp h with h | h
  · exact of_decide_eq_true (Bool.and_eq_true_iff.mp h).1
  · rw [beq_iff_eq.mp h]
    decide

/-- The writing of a code point reads back as that code point, whatever follows it. -/
theorem codePoints_writeCodePoint (n : Nat) (hn : n < 0x110000) (rest : List Char) :
    codePoints (writeCodePoint n ++ rest) = n :: codePoints rest := by
  unfold writeCodePoint
  by_cases hs : isSurrogate n = true
  · rw [if_pos hs]
    have hne : surrogateCarrier n ≠ escapeMark := by
      intro heq
      have hnat := congrArg Char.toNat heq
      rw [surrogateCarrier_toNat n hs, escapeMark_toNat] at hnat
      simp only [isSurrogate, Bool.and_eq_true, decide_eq_true_eq] at hs
      simp only [carrierOffset, escapeMarkCode] at hnat
      omega
    rw [List.singleton_append, codePoints_plain _ hne, codeOf, carriedSurrogate_carrier n hs]
    rfl
  · rw [if_neg hs]
    by_cases hm : needsMark n = true
    · rw [if_pos hm, List.cons_append, List.singleton_append, codePoints_marked]
      have hv : n.isValidChar := by
        have hle := carrierOffset_le_of_needsMark n hm
        simp only [carrierOffset] at hle
        simp only [Nat.isValidChar]
        omega
      rw [ofNat_toNat_of_valid n hv]
    · rw [if_neg hm, List.singleton_append]
      have hv : n.isValidChar := by
        simp only [isSurrogate, Bool.and_eq_true, decide_eq_true_eq] at hs
        simp only [Nat.isValidChar]
        omega
      have hc := ofNat_toNat_of_valid n hv
      have hne : Char.ofNat n ≠ escapeMark := by
        intro heq
        have hnat := congrArg Char.toNat heq
        rw [hc, escapeMark_toNat] at hnat
        simp [needsMark, hnat] at hm
      have hplain : needsMark (Char.ofNat n).toNat = false := by
        rw [hc]
        simpa using hm
      rw [codePoints_plain _ hne, codeOf_plain _ hplain, hc]

/-- Every sequence of code points reads back from its writing. -/
theorem codePoints_writeCodePoints (ns : List Nat) (h : ∀ n ∈ ns, n < 0x110000) :
    codePoints (writeCodePoints ns) = ns := by
  induction ns with
  | nil => rfl
  | cons n ns ih =>
    rw [writeCodePoints, List.flatMap_cons, ← writeCodePoints,
      codePoints_writeCodePoint n (h n (List.mem_cons_self ..)) _,
      ih (fun m hm => h m (List.mem_cons_of_mem n hm))]

end AgentLink.Text
