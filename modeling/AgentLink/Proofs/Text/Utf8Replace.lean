import AgentLink.Proofs.Text.Utf8

/-!
# Replacing maximal subparts

Decoding UTF-8 with replacement, as the Unicode Standard recommends (section 3.9, "U+FFFD
Substitution of Maximal Subparts"), reads a byte string from the front: the bytes of a scalar
value give that value, and at a point where the bytes of no scalar value start, the longest run
that starts the bytes of some scalar value, or one byte where none does, gives one U+FFFD
(`Utf8.IsMaximalSubpart`). `Utf8.Replaces bs ns` says that `ns` is such a reading of `bs`.

The decoder, finished at the end of the input, gives exactly such a reading
(`Utf8.feed_replaces`, `Utf8.decodeAll_replaces`), and every byte string has one
(`Utf8.exists_replaces`).
-/

namespace AgentLink.Utf8


/-- A maximal subpart of an ill-formed subsequence (the Unicode Standard, definition D93b): at a
point where the bytes of no scalar value start, the longest run that starts the bytes of some
scalar value, or one byte where none does. -/
structure IsMaximalSubpart (p rest : List UInt8) : Prop where
  ne_nil : p ≠ []
  unconvertible : ∀ n, IsScalar n → ¬ pointBytes n <+: p ++ rest
  leading_or_single : IsLeading p ∨ p.length = 1
  maximal : ∀ c, rest.head? = some c → ¬ IsLeading (p ++ [c])

/-- The code points of a byte string decoded as UTF-8 with each maximal subpart of an ill-formed
subsequence replaced by U+FFFD: the bytes of a scalar value give that value, and a maximal
subpart gives `0xFFFD`. -/
inductive Replaces : List UInt8 → List Nat → Prop
  | nil : Replaces [] []
  | scalar {n : Nat} {rest : List UInt8} {ns : List Nat} :
      IsScalar n → Replaces rest ns → Replaces (pointBytes n ++ rest) (n :: ns)
  | subpart {p rest : List UInt8} {ns : List Nat} :
      IsMaximalSubpart p rest → Replaces rest ns → Replaces (p ++ rest) (0xFFFD :: ns)

theorem writeCodePoint_replacement : Text.writeCodePoint 0xFFFD = [replacement] := by
  decide

theorem writeCodePoints_cons (n : Nat) (ns : List Nat) :
    Text.writeCodePoints (n :: ns) = Text.writeCodePoint n ++ Text.writeCodePoints ns :=
  List.flatMap_cons

/-- A maximal subpart reads as one replacement character, and the decoder goes on from between
characters. -/
theorem feed_subpart {p rest : List UInt8} (h : IsMaximalSubpart p rest) :
    (Decoder.idle.feed (p ++ rest)).1 ++ (Decoder.idle.feed (p ++ rest)).2.finish =
      replacement :: ((Decoder.idle.feed rest).1 ++ (Decoder.idle.feed rest).2.finish) := by
  by_cases hl : IsLeading p
  · -- `p` starts the bytes of a scalar value and, being unconvertible, is not all of them
    obtain ⟨n, hn, s, hs⟩ := hl
    have hs' : s ≠ [] := by
      rintro rfl
      rw [List.append_nil] at hs
      exact h.unconvertible n hn (hs ▸ List.prefix_append p rest)
    obtain ⟨bits, lo, hi, hfeed, hnext⟩ := feed_inside hn hs.symm h.ne_nil hs'
    rw [Decoder.feed_append, hfeed]
    cases rest with
    | nil => rfl
    | cons c rest =>
      have hc : ¬ (lo ≤ c ∧ c ≤ hi) := fun ⟨hlo, hhi⟩ => h.maximal c rfl (hnext c hlo hhi)
      rw [feed_refuse hc]
      rfl
  · -- a single byte that starts the bytes of no scalar value
    obtain ⟨b, hb⟩ := List.length_eq_one_iff.1 (h.leading_or_single.resolve_left hl)
    subst hb
    rw [List.singleton_append, feed_cons, Decoder.step, start_of_not_leading hl]
    rfl

/-- Decoding a byte string to its end gives its code points with each maximal subpart
replaced. -/
theorem feed_replaces {bs : List UInt8} {ns : List Nat} (h : Replaces bs ns) :
    (Decoder.idle.feed bs).1 ++ (Decoder.idle.feed bs).2.finish = Text.writeCodePoints ns := by
  induction h with
  | nil => rfl
  | scalar hn _ ih =>
    rw [Decoder.feed_append, feed_pointBytes hn, writeCodePoints_cons, ← ih]
    simp
  | subpart hp _ ih =>
    rw [feed_subpart hp, ih, writeCodePoints_cons, writeCodePoint_replacement]
    rfl

/-- The decoder of whole byte strings replaces each maximal subpart by U+FFFD. -/
theorem decodeAll_replaces {bs : List UInt8} {ns : List Nat} (h : Replaces bs ns) :
    decodeAll bs = String.ofList (Text.writeCodePoints ns) := by
  rw [← feed_replaces h]
  rfl

/-- Well-formed bytes, the bytes of scalar values one after another, read as those values. -/
theorem replaces_flatMap {ns : List Nat} (h : ∀ n ∈ ns, IsScalar n) :
    Replaces (ns.flatMap pointBytes) ns := by
  induction ns with
  | nil => exact .nil
  | cons n ns ih =>
    rw [List.flatMap_cons]
    exact .scalar (h n (List.mem_cons_self ..)) (ih fun m hm => h m (List.mem_cons_of_mem n hm))

theorem isLeading_nil : IsLeading [] :=
  ⟨0, isScalar_iff.2 (by omega), List.nil_prefix⟩

theorem IsLeading.length_le {p : List UInt8} (h : IsLeading p) : p.length ≤ 4 := by
  obtain ⟨n, -, hp⟩ := h
  exact hp.length_le.trans (length_pointBytes n).2

theorem take_append_head {bs : List UInt8} {m : Nat} {c : UInt8}
    (h : (bs.drop m).head? = some c) : bs.take m ++ [c] = bs.take (m + 1) := by
  rw [List.take_add_one, ← List.head?_drop, h]
  rfl

/-- Where the bytes of no scalar value start, a maximal subpart does. -/
theorem exists_maximalSubpart {bs : List UInt8} (hne : bs ≠ [])
    (h : ∀ n, IsScalar n → ¬ pointBytes n <+: bs) :
    ∃ p rest, bs = p ++ rest ∧ IsMaximalSubpart p rest := by
  classical
  -- the longest start of `bs`, of at most four bytes, that starts the bytes of a scalar value
  obtain ⟨k, hk, longest⟩ : ∃ k, IsLeading (bs.take k) ∧
      ∀ m, k < m → m ≤ 4 → ¬ IsLeading (bs.take m) :=
    ⟨Nat.findGreatest (fun k => IsLeading (bs.take k)) 4,
      Nat.findGreatest_spec (P := fun k => IsLeading (bs.take k)) (Nat.zero_le 4)
        (by simpa using isLeading_nil),
      fun _ hlt hle => Nat.findGreatest_is_greatest hlt hle⟩
  -- a longer start than that is no start of a scalar value's bytes
  have beyond : ∀ m c, k ≤ m → (bs.drop m).head? = some c → ¬ IsLeading (bs.take m ++ [c]) := by
    intro m c hkm hc hl
    rw [take_append_head hc] at hl
    have hlen : m + 1 ≤ bs.length := by
      have := List.length_pos_iff.2 (List.ne_nil_of_mem (List.mem_of_mem_head? hc))
      rw [List.length_drop] at this
      omega
    by_cases hm : m + 1 ≤ 4
    · exact longest (m + 1) (by omega) hm hl
    · have := hl.length_le
      rw [List.length_take] at this
      omega
  by_cases hk0 : k = 0
  · refine ⟨bs.take 1, bs.drop 1, (List.take_append_drop 1 bs).symm, ⟨?_, ?_, .inr ?_, ?_⟩⟩
    · simpa using hne
    · rw [List.take_append_drop]
      exact h
    · have := List.length_pos_iff.2 hne
      simp only [List.length_take]
      omega
    · intro c hc hl
      exact longest 1 (by omega) (by omega) (hl.mono (List.prefix_append _ _))
  · refine ⟨bs.take k, bs.drop k, (List.take_append_drop k bs).symm, ⟨?_, ?_, .inl hk, ?_⟩⟩
    · simp [hk0, hne]
    · rw [List.take_append_drop]
      exact h
    · exact fun c hc => beyond k c le_rfl hc

/-- Every byte string has a reading with its maximal subparts replaced. -/
theorem exists_replaces : ∀ bs : List UInt8, ∃ ns, Replaces bs ns
  | [] => ⟨[], .nil⟩
  | b :: bs => by
    by_cases hw : ∃ n, IsScalar n ∧ pointBytes n <+: b :: bs
    · obtain ⟨n, hn, rest, hrest⟩ := hw
      have shorter : rest.length < bs.length + 1 := by
        have hlen := congrArg List.length hrest
        rw [List.length_append, List.length_cons] at hlen
        have := (length_pointBytes n).1
        omega
      obtain ⟨ns, hns⟩ := exists_replaces rest
      exact ⟨n :: ns, hrest ▸ .scalar hn hns⟩
    · obtain ⟨p, rest, hsplit, hp⟩ :=
        exists_maximalSubpart (List.cons_ne_nil b bs) fun n hn hpre => hw ⟨n, hn, hpre⟩
      have shorter : rest.length < bs.length + 1 := by
        have hlen := congrArg List.length hsplit
        rw [List.length_append, List.length_cons] at hlen
        have := List.length_pos_iff.2 hp.ne_nil
        omega
      obtain ⟨ns, hns⟩ := exists_replaces rest
      exact ⟨0xFFFD :: ns, hsplit ▸ .subpart hp hns⟩
termination_by bs => bs.length

end AgentLink.Utf8
