import Mathlib
import AgentLink.Http.Url
import AgentLink.Proofs.Client.Segment
import AgentLink.Proofs.Config.Options
import AgentLink.Proofs.Supervisor.Readiness

/-!
# Lone surrogates in URLs

A text stands for its lone surrogates with carrier characters (`Text.codePoints`), and
`Text.HasLone` says that one of the code points it stands for is a surrogate. UTF-8 cannot
encode a text exactly when it has one (`Utf8.encode_error_iff`), and the URL reader refuses a
text as unencodable only then (`Http.Url.parse_unencodable`).

The argument follows the reader. Percent-encoding fails only on a lone surrogate of what it
encodes, and writes only ASCII (`Http.encodeKeeping_error`, `Http.encodeKeeping_ascii`). Every
part a URL is split into is cut from the text at ASCII delimiters, and an ASCII character never
changes what the characters around it stand for (`Text.hasLone_append_ascii`), so a lone
surrogate of a part is one of the text (`Http.Parts.split_hasLone`). Removing dot segments keeps
segments of the path, and neither the host, the port nor the shape of the path is refused as
unencodable.
-/

namespace AgentLink.Text

/-! ## Lone surrogates -/

/-- Whether written characters hold a lone surrogate among the code points they stand for. -/
def HasLone (cs : List Char) : Prop :=
  ∃ n ∈ codePoints cs, isSurrogate n = true

theorem not_hasLone_nil : ¬ HasLone [] := by
  simp [HasLone, codePoints]

theorem hasLone_plain {c : Char} (hc : c ≠ escapeMark) (r : List Char) :
    HasLone (c :: r) ↔ isSurrogate (codeOf c) = true ∨ HasLone r := by
  simp [HasLone, codePoints_plain c hc]

theorem hasLone_marked (d : Char) (r : List Char) :
    HasLone (escapeMark :: d :: r) ↔ isSurrogate d.toNat = true ∨ HasLone r := by
  simp [HasLone, codePoints_marked]

/-- An ASCII character is neither the mark nor a carrier, and no surrogate. -/
theorem ascii_plain {x : Char} (hx : x.toNat < 0x80) :
    x ≠ escapeMark ∧ codeOf x = x.toNat ∧ isSurrogate x.toNat = false := by
  have hne : x ≠ escapeMark := by
    rintro rfl
    rw [escapeMark_toNat, escapeMarkCode] at hx
    omega
  have plain : needsMark x.toNat = false := by
    have low : ¬ carrierOffset ≤ x.toNat := by
      simp only [carrierOffset]
      omega
    simp only [needsMark, low, decide_false, Bool.false_and, Bool.false_or, beq_eq_false_iff_ne,
      escapeMarkCode]
    omega
  refine ⟨hne, codeOf_plain x plain, ?_⟩
  simp only [isSurrogate, Bool.and_eq_false_iff, decide_eq_false_iff_not]
  omega

theorem hasLone_cons_ascii {x : Char} (hx : x.toNat < 0x80) (r : List Char) :
    HasLone (x :: r) ↔ HasLone r := by
  obtain ⟨hne, hcode, hsur⟩ := ascii_plain hx
  rw [hasLone_plain hne, hcode, hsur]
  simp

/-- The mark at the very end stands for itself, which is no surrogate. -/
theorem not_hasLone_mark : ¬ HasLone [escapeMark] := by
  simp only [HasLone, codePoints, List.mem_singleton, exists_eq_left]
  decide

/-- An ASCII character splits a text into two whose lone surrogates are the text's: it is
never read with the mark before it as anything but itself. -/
theorem hasLone_append_ascii {x : Char} (hx : x.toNat < 0x80) (xs ys : List Char) :
    HasLone (xs ++ x :: ys) ↔ HasLone xs ∨ HasLone ys := by
  induction xs using codePoints.induct with
  | case1 => simp [hasLone_cons_ascii hx, not_hasLone_nil]
  | case2 c =>
    by_cases hc : c = escapeMark
    · subst hc
      rw [List.singleton_append, hasLone_marked, (ascii_plain hx).2.2]
      simp [not_hasLone_mark]
    · rw [List.singleton_append, hasLone_plain hc, hasLone_cons_ascii hx, hasLone_plain hc]
      simp [not_hasLone_nil]
  | case3 c d rest hc ih =>
    simp only [beq_iff_eq] at hc
    subst hc
    rw [List.cons_append, List.cons_append, hasLone_marked, hasLone_marked, ih, or_assoc]
  | case4 c d rest hc ih =>
    simp only [beq_iff_eq] at hc
    rw [List.cons_append, hasLone_plain hc, ih, hasLone_plain hc, or_assoc]

/-- A text of ASCII characters holds no lone surrogate. -/
theorem not_hasLone_of_ascii : ∀ {cs : List Char}, (∀ c ∈ cs, c.toNat < 0x80) → ¬ HasLone cs
  | [], _ => not_hasLone_nil
  | c :: cs, h => by
    rw [hasLone_cons_ascii (h c List.mem_cons_self)]
    exact not_hasLone_of_ascii fun d hd => h d (List.mem_cons_of_mem c hd)

/-- Where the characters that end a run are ASCII, the lone surrogates of a text are those of
the run and of what follows it. -/
theorem hasLone_takeWhile {p : Char → Bool} (hp : ∀ c, p c = false → c.toNat < 0x80)
    (cs : List Char) : HasLone cs ↔ HasLone (cs.takeWhile p) ∨ HasLone (cs.dropWhile p) := by
  have stop := List.head?_dropWhile_not p cs
  conv_lhs => rw [← List.takeWhile_append_dropWhile (p := p) (l := cs)]
  cases hd : cs.dropWhile p with
  | nil => simp [not_hasLone_nil]
  | cons x r =>
    rw [hd] at stop
    have hx := hp x stop
    rw [hasLone_append_ascii hx, hasLone_cons_ascii hx]

/-- Texts joined by an ASCII character hold the lone surrogates of the texts. -/
theorem hasLone_intercalate {x : Char} (hx : x.toNat < 0x80) :
    ∀ L : List (List Char), HasLone (List.intercalate [x] L) ↔ ∃ l ∈ L, HasLone l
  | [] => by simp [List.intercalate_nil, not_hasLone_nil]
  | [l] => by simp [List.intercalate_singleton]
  | l :: l' :: rest => by
    rw [List.intercalate_cons_cons, List.append_assoc, List.singleton_append,
      hasLone_append_ascii hx, hasLone_intercalate hx (l' :: rest)]
    simp

end AgentLink.Text

namespace AgentLink.Utf8

theorem firstSurrogates_some {ns : List Nat} {pos : Nat} {e : EncodeError}
    (h : firstSurrogates ns pos = some e) : ∃ n ∈ ns, Text.isSurrogate n = true := by
  induction ns generalizing pos with
  | nil => cases h
  | cons n ns ih =>
    unfold firstSurrogates at h
    split at h
    · next hn => exact ⟨n, List.mem_cons_self, hn⟩
    · obtain ⟨m, hm, hs⟩ := ih h
      exact ⟨m, List.mem_cons_of_mem n hm, hs⟩

/-- UTF-8 cannot encode a text exactly when it holds a lone surrogate. -/
theorem encode_error_iff (s : String) : (∃ e, encode s = .error e) ↔ Text.HasLone s.toList := by
  unfold Text.HasLone
  cases h : firstSurrogates (Text.codePoints s.toList) 0 with
  | none =>
    have plain := Http.firstSurrogates_none h
    simp only [encode, h, reduceCtorEq, exists_false, false_iff, not_exists, not_and]
    intro n hn hs
    rw [plain n hn] at hs
    cases hs
  | some e => simpa [encode, h] using firstSurrogates_some h

end AgentLink.Utf8

namespace AgentLink.Http

open Text

/-! ## Percent-encoding -/

theorem hexDigitUpper_ascii {n : Nat} (h : n < 16) : (hexDigitUpper n).toNat < 0x80 := by
  unfold hexDigitUpper
  split
  · rw [ofNat_toNat_of_valid _ (by simp [Nat.isValidChar]; omega)]
    omega
  · rw [ofNat_toNat_of_valid _ (by simp [Nat.isValidChar]; omega)]
    omega

theorem percentByte_ascii (b : UInt8) : ∀ c ∈ (percentByte b).toList, c.toNat < 0x80 := by
  have hi : b.toNat / 16 < 16 := by have := b.toNat_lt; omega
  have lo : b.toNat % 16 < 16 := Nat.mod_lt _ (by decide)
  intro c hc
  simp only [percentByte, String.toList_ofList, List.mem_cons, List.not_mem_nil, or_false] at hc
  rcases hc with rfl | rfl | rfl
  · decide
  · exact hexDigitUpper_ascii hi
  · exact hexDigitUpper_ascii lo

theorem map_eq_error {ε α β : Type} {f : α → β} {x : Except ε α} {e : ε}
    (h : f <$> x = .error e) : x = .error e := by
  cases x with
  | error e' =>
    cases h
    rfl
  | ok a => cases h

theorem mapError_eq_error {ε ε' α : Type} {f : ε → ε'} {x : Except ε α} {e : ε'} :
    x.mapError f = .error e ↔ ∃ e₀, x = .error e₀ ∧ f e₀ = e := by
  cases x <;> simp [Except.mapError]

theorem mapError_eq_ok {ε ε' α : Type} {f : ε → ε'} {x : Except ε α} {a : α} :
    x.mapError f = .ok a ↔ x = .ok a := by
  cases x <;> simp [Except.mapError]

/-- A code point escaped on its own fails only as a lone surrogate. -/
theorem percentPoint_error {n : Nat} {e : Utf8.EncodeError} (h : percentPoint n = .error e) :
    isSurrogate n = true := by
  unfold percentPoint at h
  split at h
  · assumption
  · cases h

/-- Percent-encoding fails only on a lone surrogate. -/
theorem encodeKeeping_error {safe : Char → Bool} {ns : List Nat} {e : Utf8.EncodeError}
    (h : encodeKeeping safe ns = .error e) : ∃ n ∈ ns, isSurrogate n = true := by
  fun_induction encodeKeeping safe ns with
  | case1 => cases h
  | case2 a b more _ ih =>
    obtain ⟨n, hn, hs⟩ := ih (map_eq_error h)
    exact ⟨n, by simp [hn], hs⟩
  | case3 a b more _ ih =>
    obtain ⟨n, hn, hs⟩ := ih (map_eq_error h)
    exact ⟨n, List.mem_cons_of_mem 37 hn, hs⟩
  | case4 n rest _ jp _ ih =>
    -- a code point kept as it is: the failure is the rest's
    simp only [jp] at h
    cases ht : encodeKeeping safe rest with
    | ok tail => simp [ht, bind, Except.bind, pure, Except.pure] at h
    | error e' =>
      simp [ht, bind, Except.bind, pure, Except.pure] at h
      subst h
      obtain ⟨m, hm, hs⟩ := ih ht
      exact ⟨m, List.mem_cons_of_mem n hm, hs⟩
  | case5 n rest _ jp _ ih =>
    -- a code point escaped: the failure is its own, or the rest's
    simp only [jp] at h
    cases hp : percentPoint n with
    | error e' => exact ⟨n, List.mem_cons_self, percentPoint_error hp⟩
    | ok head =>
      cases ht : encodeKeeping safe rest with
      | ok tail => simp [hp, ht, bind, Except.bind, pure, Except.pure] at h
      | error e' =>
        simp [hp, ht, bind, Except.bind] at h
        subst h
        obtain ⟨m, hm, hs⟩ := ih ht
        exact ⟨m, List.mem_cons_of_mem n hm, hs⟩

theorem map_eq_ok {ε α β : Type} {f : α → β} {x : Except ε α} {b : β}
    (h : f <$> x = .ok b) : ∃ a, x = .ok a ∧ f a = b := by
  cases x with
  | error e => cases h
  | ok a =>
    cases h
    exact ⟨a, rfl, rfl⟩

theorem ofNat_ascii {n : Nat} (h : n < 0x80) : (Char.ofNat n).toNat < 0x80 := by
  rw [ofNat_toNat_of_valid n (by simp [Nat.isValidChar]; omega)]
  exact h

theorem percentSign_ascii (safe : Char → Bool) : ∀ c ∈ (percentSign safe).toList, c.toNat < 0x80 := by
  unfold percentSign
  split
  · intro c hc
    rw [show "%".toList = ['%'] from rfl, List.mem_singleton] at hc
    subst hc
    decide
  · exact percentByte_ascii 0x25

theorem percentPoint_ascii {n : Nat} {head : String} (h : percentPoint n = .ok head) :
    ∀ c ∈ head.toList, c.toNat < 0x80 := by
  unfold percentPoint at h
  split at h
  · cases h
  · cases h
    intro c hc
    rw [String.toList_join] at hc
    obtain ⟨l, hl, hc⟩ := List.mem_flatten.1 hc
    obtain ⟨s, hs, rfl⟩ := List.mem_map.1 hl
    obtain ⟨b, -, rfl⟩ := List.mem_map.1 hs
    exact percentByte_ascii b c hc

/-- What percent-encoding writes is ASCII. -/
theorem encodeKeeping_ascii {safe : Char → Bool} {ns : List Nat} {out : String}
    (h : encodeKeeping safe ns = .ok out) : ∀ c ∈ out.toList, c.toNat < 0x80 := by
  fun_induction encodeKeeping safe ns generalizing out with
  | case1 =>
    cases h
    simp
  | case2 a b more hab ih =>
    obtain ⟨tail, ht, rfl⟩ := map_eq_ok h
    simp only [Bool.and_eq_true, isHexCode, decide_eq_true_eq] at hab
    intro c hc
    simp only [String.toList_append, String.toList_ofList, List.cons_append, List.nil_append,
      List.mem_cons] at hc
    rcases hc with rfl | rfl | rfl | hc
    · decide
    · exact ofNat_ascii hab.1.1
    · exact ofNat_ascii hab.2.1
    · exact ih ht c hc
  | case3 a b more _ ih =>
    obtain ⟨tail, ht, rfl⟩ := map_eq_ok h
    intro c hc
    rcases List.mem_append.1 (by simpa using hc) with hc | hc
    · exact percentSign_ascii safe c hc
    · exact ih ht c hc
  | case4 n rest _ jp hk =>
    rename_i ih
    simp only [jp] at h
    cases ht : encodeKeeping safe rest with
    | error e => simp [ht, bind, Except.bind, pure, Except.pure] at h
    | ok tail =>
      simp [ht, bind, Except.bind, pure, Except.pure] at h
      subst h
      simp only [keeps, Bool.and_eq_true, decide_eq_true_eq] at hk
      intro c hc
      rcases (by simpa using hc : c = Char.ofNat n ∨ c ∈ tail.toList) with rfl | hc
      · exact ofNat_ascii hk.1
      · exact ih ht c hc
  | case5 n rest _ jp _ =>
    rename_i ih
    simp only [jp] at h
    cases hp : percentPoint n with
    | error e => simp [hp, bind, Except.bind] at h
    | ok head =>
      cases ht : encodeKeeping safe rest with
      | error e => simp [hp, ht, bind, Except.bind] at h
      | ok tail =>
        simp [hp, ht, bind, Except.bind, pure, Except.pure] at h
        subst h
        intro c hc
        rcases List.mem_append.1 (by simpa using hc) with hc | hc
        · exact percentPoint_ascii hp c hc
        · exact ih ht c hc

/-- Percent-encoding a text fails only on a lone surrogate of the text. -/
theorem encodeText_error {safe : Char → Bool} {s : String} {e : UrlError}
    (h : encodeText safe s = .error e) : HasLone s.toList := by
  obtain ⟨e', hk, -⟩ := mapError_eq_error.1 h
  exact encodeKeeping_error hk

/-! ## The parts of a written URL -/

/-- The characters after `n` of them, when those are the run that `p` holds for, are what
follows the run. -/
theorem drop_length_takeWhile {α : Type} (p : α → Bool) :
    ∀ l : List α, l.drop (l.takeWhile p).length = l.dropWhile p
  | [] => rfl
  | a :: l => by
    by_cases h : p a = true
    · simp [h, drop_length_takeWhile p l]
    · simp [h]

namespace Parts

/-- The scheme of written characters and what follows its colon; the characters themselves,
after an empty scheme, when they name none. -/
def schemeAndRest (cs : List Char) : String × List Char :=
  match cs with
  | ':' :: rest => ("", rest)
  | c :: rest =>
    if c.isAlpha then
      let tail := rest.takeWhile isSchemeChar
      match rest.drop tail.length with
      | ':' :: after => (String.ofList (c :: tail), after)
      | _ => ("", cs)
    else ("", cs)
  | [] => ("", [])

/-- The authority after `//`, and the characters after it. -/
def authorityAndRest (cs : List Char) : String × List Char :=
  match cs with
  | '/' :: '/' :: rest =>
    let a := rest.takeWhile fun c => c != '/' && c != '?' && c != '#'
    (String.ofList a, rest.drop a.length)
  | _ => ("", cs)

/-- The query after `?`, and the characters after it. -/
def queryAndRest (cs : List Char) : Option String × List Char :=
  match cs with
  | '?' :: rest =>
    let q := rest.takeWhile (· != '#')
    (some (String.ofList q), rest.drop q.length)
  | _ => (none, cs)

/-- The fragment after `#`. -/
def fragmentOf (cs : List Char) : Option String :=
  match cs with
  | '#' :: rest => some (String.ofList rest)
  | _ => none

/-- Splitting a text reads its parts one after another. -/
theorem split_eq (cs : List Char) :
    split cs =
      let (scheme, cs) := schemeAndRest cs
      let (authority, cs) := authorityAndRest cs
      let path := cs.takeWhile fun c => c != '?' && c != '#'
      let cs := cs.drop path.length
      let (query, cs) := queryAndRest cs
      { scheme, authority, path := String.ofList path, query, fragment := fragmentOf cs } :=
  rfl

/-- What follows a run whose stopping characters are ASCII holds only lone surrogates of the
whole. -/
theorem hasLone_of_drop {p : Char → Bool} (hp : ∀ c, p c = false → c.toNat < 0x80)
    {l : List Char} (h : HasLone (l.drop (l.takeWhile p).length)) : HasLone l := by
  rw [drop_length_takeWhile] at h
  exact (hasLone_takeWhile hp l).2 (.inr h)

theorem hasLone_of_takeWhile {p : Char → Bool} (hp : ∀ c, p c = false → c.toNat < 0x80)
    {l : List Char} (h : HasLone (l.takeWhile p)) : HasLone l :=
  (hasLone_takeWhile hp l).2 (.inl h)

theorem isAlpha_ascii {c : Char} (h : c.isAlpha = true) : c.toNat < 0x80 := by
  simp only [Char.isAlpha, Char.isUpper, Char.isLower, Bool.or_eq_true, Bool.and_eq_true,
    decide_eq_true_eq, UInt32.le_iff_toNat_le] at h
  have : c.toNat = c.val.toNat := rfl
  rcases h with h | h
  · have : 'Z'.val.toNat = 90 := rfl
    omega
  · have : 'z'.val.toNat = 122 := rfl
    omega

/-- The characters that end the authority, the path or the query are ASCII. -/
theorem stops_ascii : ∀ c, (c != '/' && c != '?' && c != '#') = false → c.toNat < 0x80 := by
  intro c hc
  simp only [Bool.and_eq_false_iff, bne_eq_false_iff_eq] at hc
  rcases hc with (rfl | rfl) | rfl <;> decide

theorem pathStops_ascii : ∀ c, (c != '?' && c != '#') = false → c.toNat < 0x80 := by
  intro c hc
  simp only [Bool.and_eq_false_iff, bne_eq_false_iff_eq] at hc
  rcases hc with rfl | rfl <;> decide

theorem queryStops_ascii : ∀ c, (c != '#') = false → c.toNat < 0x80 := by
  intro c hc
  simp only [bne_eq_false_iff_eq] at hc
  subst hc
  decide

theorem schemeAndRest_hasLone {cs : List Char} (h : HasLone (schemeAndRest cs).2) : HasLone cs := by
  unfold schemeAndRest at h
  split at h
  · exact (hasLone_cons_ascii (by decide) _).2 h
  · next c rest _ =>
    split at h
    · next alpha =>
      dsimp only at h
      split at h
      · next after hafter =>
        -- the rest is the scheme's letters, the colon, and what follows it
        have whole : rest = rest.takeWhile isSchemeChar ++ ':' :: after := by
          rw [← hafter, drop_length_takeWhile, List.takeWhile_append_dropWhile]
        rw [hasLone_cons_ascii (isAlpha_ascii alpha), whole,
          hasLone_append_ascii (by decide)]
        exact .inr h
      · exact h
    · exact h
  · exact h

theorem authorityAndRest_hasLone {cs : List Char}
    (h : HasLone (authorityAndRest cs).1.toList ∨ HasLone (authorityAndRest cs).2) :
    HasLone cs := by
  unfold authorityAndRest at h
  split at h
  · next rest =>
    rw [hasLone_cons_ascii (by decide), hasLone_cons_ascii (by decide)]
    rcases h with h | h
    · rw [String.toList_ofList] at h
      exact hasLone_of_takeWhile stops_ascii h
    · exact hasLone_of_drop stops_ascii h
  · rcases h with h | h
    · exact absurd h not_hasLone_nil
    · exact h

theorem queryAndRest_hasLone {cs : List Char}
    (h : (∃ q, (queryAndRest cs).1 = some q ∧ HasLone q.toList) ∨ HasLone (queryAndRest cs).2) :
    HasLone cs := by
  unfold queryAndRest at h
  split at h
  · next rest =>
    rw [hasLone_cons_ascii (by decide)]
    rcases h with ⟨q, hq, h⟩ | h
    · cases hq
      rw [String.toList_ofList] at h
      exact hasLone_of_takeWhile queryStops_ascii h
    · exact hasLone_of_drop queryStops_ascii h
  · rcases h with ⟨q, hq, _⟩ | h
    · cases hq
    · exact h

theorem fragmentOf_hasLone {cs : List Char} {f : String} (hf : fragmentOf cs = some f)
    (h : HasLone f.toList) : HasLone cs := by
  unfold fragmentOf at hf
  split at hf
  · cases hf
    rw [String.toList_ofList] at h
    exact (hasLone_cons_ascii (by decide) _).2 h
  · cases hf

/-- Every lone surrogate of a part of a written URL is one of the text. -/
theorem split_hasLone {cs : List Char}
    (h : HasLone (split cs).authority.toList ∨ HasLone (split cs).path.toList ∨
      (∃ q, (split cs).query = some q ∧ HasLone q.toList) ∨
      (∃ f, (split cs).fragment = some f ∧ HasLone f.toList)) : HasLone cs := by
  rw [split_eq] at h
  rcases h1 : schemeAndRest cs with ⟨scheme, c1⟩
  rcases h2 : authorityAndRest c1 with ⟨authority, c2⟩
  rcases h4 : queryAndRest (c2.drop (c2.takeWhile fun c => c != '?' && c != '#').length) with
    ⟨query, c4⟩
  simp only [h1, h2, h4, String.toList_ofList] at h
  -- each stage's lone surrogates are those of the characters it read
  have back1 : HasLone c1 → HasLone cs := fun h => schemeAndRest_hasLone (by rw [h1]; exact h)
  have back2 : HasLone authority.toList ∨ HasLone c2 → HasLone c1 := fun h =>
    authorityAndRest_hasLone (by rw [h2]; exact h)
  have back3 : HasLone (c2.takeWhile fun c => c != '?' && c != '#') ∨
      HasLone (c2.drop (c2.takeWhile fun c => c != '?' && c != '#').length) → HasLone c2 := by
    rintro (h | h)
    · exact hasLone_of_takeWhile pathStops_ascii h
    · exact hasLone_of_drop pathStops_ascii h
  have back4 : (∃ q, query = some q ∧ HasLone q.toList) ∨ HasLone c4 →
      HasLone (c2.drop (c2.takeWhile fun c => c != '?' && c != '#').length) := fun h =>
    queryAndRest_hasLone (by rw [h4]; exact h)
  rcases h with h | h | h | ⟨f, hf, h⟩
  · exact back1 (back2 (.inl h))
  · exact back1 (back2 (.inr (back3 (.inl h))))
  · exact back1 (back2 (.inr (back3 (.inr (back4 (.inl h))))))
  · exact back1 (back2 (.inr (back3 (.inr (back4 (.inr (fragmentOf_hasLone hf h)))))))

end Parts

/-! ## The authority, the host and the path -/

/-- A list cut at the last occurrence of `x`: what comes before it, and after it what holds no
`x`. -/
theorem split_at_last {x : Char} {l : List Char} {i : Nat}
    (h : l.reverse.findIdx? (· == x) = some i) :
    l = l.take (l.length - 1 - i) ++ x :: l.drop (l.length - i) ∧ x ∉ l.drop (l.length - i) := by
  obtain ⟨hi, hx, before⟩ := List.findIdx?_eq_some_iff_getElem.1 h
  rw [List.length_reverse] at hi
  have found : l[l.length - 1 - i] = x := by
    rw [List.getElem_reverse] at hx
    simpa using hx
  refine ⟨?_, ?_⟩
  · conv_lhs => rw [← List.take_append_drop (l.length - 1 - i) l]
    rw [List.drop_eq_getElem_cons (by omega), found,
      show l.length - 1 - i + 1 = l.length - i by omega]
  · -- the characters after it are the first `i` of the reversed list, none of them `x`
    intro hmem
    rw [← List.mem_reverse, ← List.take_reverse] at hmem
    obtain ⟨j, hj, hget⟩ := List.getElem_of_mem hmem
    rw [List.length_take, List.length_reverse] at hj
    have := before j (by omega)
    rw [List.getElem_take] at hget
    simp [hget] at this

/-- The user part of an authority holds only lone surrogates of the authority. -/
theorem splitAuthority_user_hasLone {a : String} (h : HasLone (splitAuthority a).1.toList) :
    HasLone a.toList := by
  unfold splitAuthority at h
  cases hi : a.toList.reverse.findIdx? (· == '@') with
  | none =>
    simp only [hi] at h
    exact absurd h not_hasLone_nil
  | some i =>
    simp only [hi, String.toList_ofList] at h
    rw [(split_at_last hi).1, hasLone_append_ascii (by decide)]
    exact .inl h

/-- No host has a part that percent-encoding refuses: a name beyond ASCII is refused as no IDNA
name, and an ASCII one has no lone surrogate. -/
theorem encodeHost_ne_unencodable (h : String) (e : Utf8.EncodeError) :
    encodeHost h ≠ .error (.unencodable e) := by
  intro he
  unfold encodeHost at he
  dsimp only at he
  split_ifs at he with h0 h4 h4' hb h6 ha
  all_goals try cases he
  · -- an ASCII name stays ASCII in lower case
    have lower : ∀ c ∈ (String.ofList (h.toList.map Char.toLower)).toList, c.toNat < 0x80 := by
      simp only [List.all_eq_true, decide_eq_true_eq] at ha
      intro c hc
      rw [String.toList_ofList, List.mem_map] at hc
      obtain ⟨d, hd, rfl⟩ := hc
      have := ha d hd
      have lower := Readiness.toNat_toLower d
      split_ifs at lower <;> omega
    exact not_hasLone_of_ascii lower (encodeText_error he)
  · split at he <;> cases he

/-- Each segment the fold keeps is one it was given or had already. -/
theorem mem_foldl_of_step {f : List String → String → List String}
    (hf : ∀ out seg s, s ∈ f out seg → s ∈ out ∨ s = seg) :
    ∀ (segs out : List String) (s : String), s ∈ segs.foldl f out → s ∈ out ∨ s ∈ segs
  | [], _, _, h => .inl h
  | seg :: segs, out, s, h => by
    rcases mem_foldl_of_step hf segs (f out seg) s h with h | h
    · rcases hf out seg s h with h | rfl
      · exact .inl h
      · exact .inr List.mem_cons_self
    · exact .inr (List.mem_cons_of_mem seg h)

/-- Removing dot segments leaves only lone surrogates of the path. -/
theorem normalizePath_hasLone {path : String} (h : HasLone (normalizePath path).toList) :
    HasLone path.toList := by
  unfold normalizePath at h
  dsimp only at h
  split_ifs at h
  · exact h
  · exact h
  · -- the segments kept are segments of the path, and `/` joins both
    rw [String.toList_intercalate, show "/".toList = ['/'] from rfl,
      hasLone_intercalate (by decide)] at h
    obtain ⟨l, hl, hlone⟩ := h
    obtain ⟨seg, hseg, rfl⟩ := List.mem_map.1 hl
    have kept := mem_foldl_of_step (by
      intro out seg s hs
      split_ifs at hs
      · exact .inl hs
      · exact .inl hs
      · exact .inl (List.dropLast_subset out hs)
      · rcases List.mem_append.1 hs with hs | hs
        · exact .inl hs
        · exact .inr (List.mem_singleton.1 hs)) _ [] seg hseg
    rcases kept with kept | kept
    · cases kept
    · obtain ⟨piece, hpiece, rfl⟩ := List.mem_map.1 kept
      rw [String.toList_ofList] at hlone
      have whole : [('/' : Char)].intercalate (path.toList.splitOn '/') = path.toList :=
        List.intercalate_splitOn '/'
      rw [← whole, hasLone_intercalate (by decide)]
      exact ⟨piece, hpiece, hlone⟩

/-! ## Whole URLs -/

theorem normalizePort_ne_unencodable (port : Option String) (scheme : String)
    (e : Utf8.EncodeError) : normalizePort port scheme ≠ .error (.unencodable e) := by
  intro h
  unfold normalizePort at h
  split at h
  · cases h
  · cases h
  · split at h <;> cases h

theorem checkPath_ne_unencodable (path : String) (hasScheme hasAuthority : Bool)
    (e : Utf8.EncodeError) : checkPath path hasScheme hasAuthority ≠ .error (.unencodable e) := by
  intro h
  unfold checkPath at h
  split_ifs at h <;> cases h

theorem Parts.build_unencodable {p : Parts} {e : Utf8.EncodeError}
    (h : p.build = .error (.unencodable e)) :
    HasLone (splitAuthority p.authority).1.toList ∨ HasLone p.path.toList ∨
      (∃ q, p.query = some q ∧ HasLone q.toList) ∨
      (∃ f, p.fragment = some f ∧ HasLone f.toList) := by
  rcases ha : splitAuthority p.authority with ⟨user, host, port⟩
  simp only [Parts.build, ha, bind_eq_error_iff] at h
  rcases h with hu | ⟨_, -, hh | ⟨_, -, hp | ⟨_, -, hc | ⟨-, -, hpath | ⟨_, -, hrest⟩⟩⟩⟩⟩
  · exact .inl (encodeText_error hu)
  · exact absurd hh (encodeHost_ne_unencodable _ _)
  · exact absurd hp (normalizePort_ne_unencodable _ _ _)
  · exact absurd hc (checkPath_ne_unencodable _ _ _ _)
  · -- the path, with its dot segments removed or as written
    have := encodeText_error hpath
    split_ifs at this
    · exact .inr (.inl (normalizePath_hasLone this))
    · exact .inr (.inl this)
  · right; right
    rcases hq : p.query with _ | q <;> rcases hf : p.fragment with _ | f <;>
      simp only [hq, hf, bind_eq_error_iff] at hrest
    -- each of query and fragment is encoded when there is one, and nothing else fails
    all_goals rcases hrest with hq' | ⟨_, -, hf' | ⟨_, -, hpure⟩⟩
    all_goals first
      | exact .inl ⟨_, rfl, encodeText_error (map_eq_error hq')⟩
      | exact .inr ⟨_, rfl, encodeText_error (map_eq_error hf')⟩
      | cases hq'
      | cases hf'
      | cases hpure

/-- Reading a URL refuses as unencodable only a text with a lone surrogate. -/
theorem Url.parse_unencodable {s : String} {e : Utf8.EncodeError}
    (h : Url.parse s = .error (.unencodable e)) : HasLone s.toList := by
  unfold Url.parse at h
  split_ifs at h
  · cases h
  split at h
  · cases h
  · -- every part the build encodes is read from the text
    apply Parts.split_hasLone
    rcases Parts.build_unencodable h with h | h | h | h
    · exact .inl (splitAuthority_user_hasLone h)
    · exact .inr (.inl h)
    · exact .inr (.inr (.inl h))
    · exact .inr (.inr (.inr h))

end AgentLink.Http
