import Mathlib
import AgentLink.Supervisor.Readiness
import AgentLink.Proofs.Text.Integer

/-!
# Reading back an announced address

A server that says it listens, in a line such as `Listening on http://127.0.0.1:4096`, is found
at the address it names: `detectListening_announced` gives back the URL, the host and the port
as they are written. Before the announcement the line may hold any text that holds none itself
and ends in a blank, and after the URL any text that starts with a blank.

Two facts carry it:

* no match runs across the blank that ends a text: an announcement that starts in such a text
  lies within it (`Readiness.announcementHere_append`), so a text without one adds none before
  the line's own (`Readiness.announcement_append`);
* the URL runs from its scheme to the next blank (`Readiness.urlAt_scheme`); its last character
  is a digit, so trimming keeps it, its port is the run of digits after the colon that ends a
  host without colons (`Readiness.firstPort_url`), and its host is what stands before that colon
  (`Readiness.hostOf_url`).

A host in brackets with colons inside, as an IPv6 address is written, is not read back:
`detectListening_bracketed_host` reads `[::1]` as the host `[` with port 1.
-/

namespace AgentLink.Readiness

open AgentLink.Text

/-! ## Letters and blanks -/

/-- `Char.toLower` moves the capital ASCII letters and nothing else. -/
theorem toNat_toLower (c : Char) :
    c.toLower.toNat = if 65 ≤ c.toNat ∧ c.toNat ≤ 90 then c.toNat + 32 else c.toNat := by
  have hv : c.toNat = c.val.toNat := rfl
  unfold Char.toLower
  by_cases h : 65 ≤ c.toNat ∧ c.toNat ≤ 90
  · rw [dif_pos (by simp [UInt32.le_iff_toNat_le]; omega), if_pos h]
    show (c.val + _).toNat = _
    rw [UInt32.toNat_add]
    simp
    omega
  · rw [dif_neg (by simp [UInt32.le_iff_toNat_le]; omega), if_neg h]

theorem isLower_iff (c : Char) : c.isLower = true ↔ 97 ≤ c.toNat ∧ c.toNat ≤ 122 := by
  simp [Char.isLower, UInt32.le_iff_toNat_le, ← Char.toNat_val]

/-- Matching without regard to case, by code points. -/
theorem foldsTo_iff (p c : Char) :
    foldsTo p c = true ↔ c.toNat = p.toNat ∨ c.toLower.toNat = p.toNat ∨
      (p.toNat = 0x69 ∧ (c.toNat = 0x130 ∨ c.toNat = 0x131)) ∨ (p.toNat = 0x73 ∧ c.toNat = 0x17F) ∨
      (p.toNat = 0x6B ∧ c.toNat = 0x212A) := by
  simp [foldsTo, ← Char.toNat_inj, or_assoc]

/-- A character whose lower case is a lower-case ASCII letter matches that letter and no other. -/
theorem foldsTo_of_toLower {c q p : Char} (hc : c.toLower = q) (hq : q.isLower) (hp : p.isLower) :
    foldsTo p c = (p == q) := by
  -- such a character is ASCII, so none of the dotted or dotless i, long s or Kelvin sign
  have hl := toNat_toLower c
  rw [hc] at hl
  rw [isLower_iff] at hq hp
  rw [Bool.eq_iff_iff, foldsTo_iff, beq_iff_eq, ← Char.toNat_inj, hc]
  split at hl <;> omega

/-- A letter in either case is no blank. -/
theorem isBlank_of_toLower {c q : Char} (hc : c.toLower = q) (hq : q.isLower) :
    isBlank c = false := by
  have hl := toNat_toLower c
  rw [hc] at hl
  rw [isLower_iff] at hq
  simp only [isBlank, Bool.or_eq_false_iff, Bool.and_eq_false_iff, beq_eq_false_iff_ne,
    decide_eq_false_iff_not]
  split at hl <;> omega

/-- A blank matches no character that is not itself a blank. -/
theorem foldsTo_blank {b p : Char} (hb : isBlank b = true) (hp : isBlank p = false) :
    foldsTo p b = false := by
  have hl := toNat_toLower b
  rw [Bool.eq_false_iff, ne_eq, foldsTo_iff]
  simp only [isBlank] at hb hp
  simp at hb hp
  split at hl <;> omega

theorem foldsTo_toLower (c : Char) : foldsTo c.toLower c = true := by
  simp [foldsTo]

/-! ## Words -/

/-- A text is read as its own lower case. -/
theorem word_toLower (k t : List Char) : word (k.map Char.toLower) (k ++ t) = some t := by
  induction k with
  | nil => rfl
  | cons c k ih => simp [word, foldsTo_toLower, ih]

theorem word_of_head_ne {c q p : Char} (ps cs : List Char) (hc : c.toLower = q) (hq : q.isLower)
    (hp : p.isLower) (hne : p ≠ q) : word (p :: ps) (c :: cs) = none := by
  simp [word, foldsTo_of_toLower hc hq hp, hne]

/-- The first letter of a word, as an option lists it, is a lower-case letter. -/
theorem exists_head_of_any {w : List Char} (h : w.head?.any Char.isLower = true) :
    ∃ p ps, w = p :: ps ∧ p.isLower = true := by
  cases w with
  | nil => simp at h
  | cons p ps => exact ⟨p, ps, rfl, by simpa using h⟩

/-- A word of a list whose words start with different lower-case letters is matched, in any
case, by the first word of the list it can be. -/
theorem oneOf_of_toLower {ws : List String} {k : List Char} (t : List Char)
    (hk : ∃ w ∈ ws, w.toList = k.map Char.toLower)
    (hlow : ∀ w ∈ ws, w.toList.head?.any Char.isLower)
    (hnd : (ws.map (·.toList.head?)).Nodup) :
    oneOf ws (k ++ t) = some t := by
  induction ws with
  | nil => simp at hk
  | cons w ws ih =>
    obtain ⟨v, hv, hvk⟩ := hk
    obtain ⟨p, ps, hw, hp⟩ := exists_head_of_any (hlow w (by simp))
    by_cases same : w.toList = k.map Char.toLower
    · simp [oneOf, same, word_toLower]
    have hv' : v ∈ ws := by
      rcases List.mem_cons.1 hv with rfl | hv'
      · exact absurd hvk same
      · exact hv'
    obtain ⟨q, qs, hvq, hq⟩ := exists_head_of_any (hlow v (by simp [hv']))
    obtain ⟨c, k', rfl⟩ : ∃ c k', k = c :: k' := by
      cases k with
      | nil => simp [hvq] at hvk
      | cons c k' => exact ⟨c, k', rfl⟩
    have hc : c.toLower = q := by simp_all
    have hne : p ≠ q := by
      rintro rfl
      have hmem : w.toList.head? ∈ ws.map (·.toList.head?) :=
        List.mem_map.2 ⟨v, hv', by simp [hw, hvq]⟩
      exact (List.nodup_cons.1 hnd).1 hmem
    have miss : word w.toList (c :: k' ++ t) = none := by
      rw [hw]; exact word_of_head_ne ps _ hc hq hp hne
    have rest := ih ⟨v, hv', hvk⟩ (fun u hu => hlow u (by simp [hu])) (List.nodup_cons.1 hnd).2
    simp only [oneOf, List.findSome?_cons, miss] at rest ⊢
    exact rest

/-! ## A match never runs across a blank -/

/-- Text whose last character is a blank. -/
def EndsBlank (xs : List Char) : Prop :=
  ∃ b ∈ xs.getLast?, isBlank b = true

theorem EndsBlank.ne_nil {xs : List Char} (h : EndsBlank xs) : xs ≠ [] := by
  rintro rfl
  simp [EndsBlank] at h

/-- A suffix of a text that ends in a blank, if it is not empty, ends in that blank. -/
theorem EndsBlank.of_suffix {xs ys : List Char} (h : EndsBlank xs) (hs : ys <:+ xs)
    (hne : ys ≠ []) : EndsBlank ys := by
  obtain ⟨t, rfl⟩ := hs
  obtain ⟨b, hb, hblank⟩ := h
  rw [List.getLast?_append_of_ne_nil _ hne] at hb
  exact ⟨b, hb, hblank⟩

theorem EndsBlank.tail {x : Char} {xs : List Char} (h : EndsBlank (x :: xs)) (hne : xs ≠ []) :
    EndsBlank xs :=
  h.of_suffix (List.suffix_cons x xs) hne

theorem EndsBlank.singleton {x : Char} (h : EndsBlank [x]) : isBlank x = true := by
  obtain ⟨b, hb, hblank⟩ := h
  simp_all

/-- A character that a letter other than a blank matches is not the blank that ends a text. -/
theorem EndsBlank.tail_ne_nil {p x : Char} {xs : List Char} (h : EndsBlank (x :: xs))
    (hp : isBlank p = false) (hx : foldsTo p x = true) : xs ≠ [] := by
  rintro rfl
  rw [foldsTo_blank h.singleton hp] at hx
  cases hx

theorem word_suffix {w xs r : List Char} (h : word w xs = some r) : r <:+ xs := by
  induction w generalizing xs with
  | nil => cases h; exact List.suffix_refl _
  | cons p ps ih =>
    cases xs with
    | nil => simp [word] at h
    | cons x xs =>
      simp only [word] at h
      split at h
      · exact (ih h).trans (List.suffix_cons x xs)
      · cases h

section Plain

variable {w : List Char} (hw : ∀ p ∈ w, isBlank p = false)
include hw

/-- A word of letters that are no blanks matches text ending in a blank the same way with
anything after it. -/
theorem word_append {xs : List Char} (hxs : EndsBlank xs) (ys : List Char) :
    word w (xs ++ ys) = (word w xs).map (· ++ ys) := by
  induction w generalizing xs with
  | nil => rfl
  | cons p ps ih =>
    obtain ⟨x, xs, rfl⟩ := List.exists_cons_of_ne_nil hxs.ne_nil
    simp only [List.cons_append, word]
    by_cases hx : foldsTo p x
    · have hne := hxs.tail_ne_nil (hw p (by simp)) hx
      rw [if_pos hx, if_pos hx]
      exact ih (fun q hq => hw q (by simp [hq])) (hxs.tail hne)
    · rw [if_neg hx, if_neg hx]
      rfl

/-- What such a word leaves of text ending in a blank still ends in it. -/
theorem word_endsBlank {xs r : List Char} (hxs : EndsBlank xs) (h : word w xs = some r) :
    EndsBlank r := by
  induction w generalizing xs with
  | nil => cases h; exact hxs
  | cons p ps ih =>
    obtain ⟨x, xs, rfl⟩ := List.exists_cons_of_ne_nil hxs.ne_nil
    simp only [word] at h
    split at h
    · rename_i hx
      have hne := hxs.tail_ne_nil (hw p (by simp)) hx
      exact ih (fun q hq => hw q (by simp [hq])) (hxs.tail hne) h
    · cases h

end Plain

section PlainWords

variable {ws : List String} (hws : ∀ w ∈ ws, ∀ p ∈ w.toList, isBlank p = false)
include hws

theorem oneOf_append {xs : List Char} (hxs : EndsBlank xs) (ys : List Char) :
    oneOf ws (xs ++ ys) = (oneOf ws xs).map (· ++ ys) := by
  induction ws with
  | nil => rfl
  | cons w ws ih =>
    have hw := hws w (by simp)
    simp only [oneOf, List.findSome?_cons, word_append hw hxs ys]
    cases word w.toList xs with
    | some r => rfl
    | none => exact ih (fun v hv => hws v (by simp [hv]))

theorem oneOf_endsBlank {xs r : List Char} (hxs : EndsBlank xs) (h : oneOf ws xs = some r) :
    EndsBlank r := by
  induction ws with
  | nil => cases h
  | cons w ws ih =>
    simp only [oneOf, List.findSome?_cons] at h
    split at h
    · rename_i r' hr
      cases h
      exact word_endsBlank (hws w (by simp)) hxs hr
    · exact ih (fun v hv => hws v (by simp [hv])) h

end PlainWords

theorem blanks_eq_some {xs r : List Char} (h : blanks xs = some r) :
    r = xs.dropWhile isBlank := by
  unfold blanks at h
  split at h
  · split at h
    · cases h; rfl
    · cases h
  · cases h

theorem blanks_append {xs ys : List Char} (hxs : EndsBlank xs)
    (hys : ∀ c ∈ ys.head?, isBlank c = false) :
    blanks (xs ++ ys) = (blanks xs).map (· ++ ys) := by
  obtain ⟨x, xs, rfl⟩ := List.exists_cons_of_ne_nil hxs.ne_nil
  have keep : ys.dropWhile isBlank = ys := by
    cases ys with
    | nil => rfl
    | cons y ys => simp [hys y (by simp)]
  have drop : ((x :: xs) ++ ys).dropWhile isBlank = (x :: xs).dropWhile isBlank ++ ys := by
    rw [List.dropWhile_append]
    split
    · rename_i he
      rw [List.isEmpty_iff.1 he, keep, List.nil_append]
    · rfl
  simp only [blanks, List.cons_append]
  split <;> simp_all

theorem blanks_endsBlank {xs r : List Char} (hxs : EndsBlank xs) (h : blanks xs = some r) :
    r = [] ∨ EndsBlank r := by
  rw [blanks_eq_some h]
  by_cases hne : xs.dropWhile isBlank = []
  · exact .inl hne
  · exact .inr (hxs.of_suffix (List.dropWhile_suffix _) hne)

theorem takeWhile_append_of_endsBlank {xs : List Char} (hxs : EndsBlank xs) (ys : List Char) :
    (xs ++ ys).takeWhile (fun c => !isBlank c) = xs.takeWhile (fun c => !isBlank c) := by
  induction xs with
  | nil => exact absurd rfl hxs.ne_nil
  | cons x xs ih =>
    by_cases hx : isBlank x
    · simp [hx]
    · have hne : xs ≠ [] := by
        rintro rfl
        exact hx hxs.singleton
      simp [hx, ih (hxs.tail hne)]

theorem getD_word_append {w xs : List Char} (hw : ∀ p ∈ w, isBlank p = false)
    (hxs : EndsBlank xs) (ys : List Char) :
    (word w (xs ++ ys)).getD (xs ++ ys) = (word w xs).getD xs ++ ys := by
  rw [word_append hw hxs]
  cases word w xs <;> rfl

theorem getD_word_endsBlank {w xs : List Char} (hw : ∀ p ∈ w, isBlank p = false)
    (hxs : EndsBlank xs) : EndsBlank ((word w xs).getD xs) := by
  cases h : word w xs with
  | none => exact hxs
  | some r => exact word_endsBlank hw hxs h

theorem getD_word_suffix (w xs : List Char) : (word w xs).getD xs <:+ xs := by
  cases h : word w xs with
  | none => exact List.suffix_refl xs
  | some r => exact word_suffix h

/-- A URL read from text that ends in a blank stops before the blank, whatever follows. -/
theorem urlAt_append {xs : List Char} (hxs : EndsBlank xs) (ys : List Char) :
    urlAt (xs ++ ys) = urlAt xs := by
  have http : ∀ p ∈ "http".toList, isBlank p = false := by simp [isBlank]
  have s : ∀ p ∈ "s".toList, isBlank p = false := by simp [isBlank]
  have sep : ∀ p ∈ "://".toList, isBlank p = false := by simp [isBlank]
  simp only [urlAt, Option.bind_eq_bind, word_append http hxs]
  cases h1 : word "http".toList xs with
  | none => rfl
  | some r1 =>
    have e1 := word_endsBlank http hxs h1
    simp only [Option.map_some, Option.bind_some, getD_word_append s e1,
      word_append sep (getD_word_endsBlank s e1)]
    cases h3 : word "://".toList ((word "s".toList r1).getD r1) with
    | none => rfl
    | some r3 =>
      have e3 := word_endsBlank sep (getD_word_endsBlank s e1) h3
      have short : r3.length ≤ xs.length :=
        ((word_suffix h3).trans ((getD_word_suffix _ _).trans (word_suffix h1))).length_le
      have tail_le : (r3.takeWhile fun c => !isBlank c).length ≤ r3.length :=
        (List.takeWhile_prefix _).length_le
      simp only [Option.map_some, Option.bind_some, takeWhile_append_of_endsBlank e3,
        List.length_append, Nat.add_sub_add_right]
      rw [List.take_append_of_le_length (by omega)]

/-- Text that no match of a word before it can run into: it starts with no blank, with neither
`on` nor `at`, and with no URL. -/
structure OpensNoUrl (ys : List Char) : Prop where
  notBlank : ∀ c ∈ ys.head?, isBlank c = false
  noPlace : oneOf ["on", "at"] ys = none
  noUrl : urlAt ys = none

theorem keywords_plain : ∀ w ∈ ["listening", "running", "started", "bound"],
    ∀ p ∈ w.toList, isBlank p = false := by
  simp [isBlank]

theorem places_plain : ∀ w ∈ ["on", "at"], ∀ p ∈ w.toList, isBlank p = false := by
  simp [isBlank]

/-- An announcement that starts in text ending in a blank lies within that text, when what
follows opens no URL. -/
theorem announcementHere_append {xs ys : List Char} (hxs : EndsBlank xs) (hys : OpensNoUrl ys) :
    announcementHere (xs ++ ys) = announcementHere xs := by
  simp only [announcementHere, Option.bind_eq_bind, oneOf_append keywords_plain hxs]
  cases h1 : oneOf ["listening", "running", "started", "bound"] xs with
  | none => rfl
  | some r1 =>
    have e1 := oneOf_endsBlank keywords_plain hxs h1
    simp only [Option.map_some, Option.bind_some, blanks_append e1 hys.notBlank]
    cases h2 : blanks r1 with
    | none => rfl
    | some r2 =>
      simp only [Option.map_some, Option.bind_some]
      -- a run of blanks that reaches the end of `xs` leaves `ys` to hold `on` or `at`
      rcases blanks_endsBlank e1 h2 with rfl | e2
      · simp only [List.nil_append, hys.noPlace, Option.bind_none]
        rfl
      rw [oneOf_append places_plain e2]
      cases h3 : oneOf ["on", "at"] r2 with
      | none => rfl
      | some r3 =>
        have e3 := oneOf_endsBlank places_plain e2 h3
        simp only [Option.map_some, Option.bind_some, blanks_append e3 hys.notBlank]
        cases h4 : blanks r3 with
        | none => rfl
        | some r4 =>
          simp only [Option.map_some, Option.bind_some]
          -- and one before the URL leaves `ys` to hold it
          rcases blanks_endsBlank e3 h4 with rfl | e4
          · rw [List.nil_append, hys.noUrl]
            rfl
          · exact urlAt_append e4 ys

/-- Text that holds no announcement and ends in a blank adds none before text that opens no
URL: the first announcement of the whole is the first of what follows. -/
theorem announcement_append {pre ys : List Char} (hpre : ∀ b ∈ pre.getLast?, isBlank b = true)
    (hnone : announcement pre = none) (hys : OpensNoUrl ys) :
    announcement (pre ++ ys) = announcement ys := by
  induction pre with
  | nil => rfl
  | cons c pre ih =>
    have ends : EndsBlank (c :: pre) := by
      obtain ⟨b, hb⟩ := Option.isSome_iff_exists.1 (by simp : (c :: pre).getLast?.isSome)
      exact ⟨b, hb, hpre b hb⟩
    simp only [announcement, Option.or_eq_none_iff] at hnone
    have rest : ∀ b ∈ pre.getLast?, isBlank b = true := fun b hb =>
      hpre b (by rw [List.getLast?_cons, Option.mem_def.1 hb]; rfl)
    simp only [List.cons_append, announcement]
    rw [← List.cons_append, announcementHere_append ends hys, hnone.1, ih rest hnone.2,
      Option.none_or]

/-! ## The announcement of a readiness line -/

/-- One space before text that starts with no blank is a run of blanks. -/
theorem blanks_space {ys : List Char} (hys : ∀ c ∈ ys.head?, isBlank c = false) :
    blanks (' ' :: ys) = some ys := by
  have sp : isBlank ' ' = true := by decide
  cases ys with
  | nil => rfl
  | cons y ys => simp [blanks, sp, hys y rfl]

/-- What `urlAt` takes of a text whose scheme and separator leave `t` and then `sfx`. -/
theorem take_url (u t sfx : List Char) :
    (u ++ t ++ sfx).take ((u ++ t ++ sfx).length - (t ++ sfx).length + t.length) = u ++ t := by
  have n : (u ++ t ++ sfx).length - (t ++ sfx).length + t.length = (u ++ t).length := by
    simp only [List.length_append]
    omega
  rw [n, List.take_left]

/-- A lower-case scheme, `://` and a run of characters that are no blanks make the URL at the
front of the text, up to the blank after them. -/
theorem urlAt_scheme {s : String} (hs : s = "http" ∨ s = "https") {t sfx : List Char}
    (ht : t ≠ []) (htb : ∀ c ∈ t, isBlank c = false) (hsfx : ∀ c ∈ sfx.head?, isBlank c = true) :
    urlAt (s.toList ++ "://".toList ++ t ++ sfx) = some (s.toList ++ "://".toList ++ t) := by
  have tail : (t ++ sfx).takeWhile (fun c => !isBlank c) = t := by
    rw [List.takeWhile_append_of_pos (by simpa using htb)]
    cases sfx with
    | nil => simp
    | cons c sfx => simp [hsfx c (by simp)]
  have full : t.isEmpty = false := by simpa using ht
  have scheme : ∃ r1, word "http".toList (s.toList ++ "://".toList ++ t ++ sfx) = some r1 ∧
      (word "s".toList r1).getD r1 = "://".toList ++ t ++ sfx := by
    rcases hs with rfl | rfl <;> simp [word, foldsTo]
  obtain ⟨r1, h1, h2⟩ := scheme
  have sep : word "://".toList ((word "s".toList r1).getD r1) = some (t ++ sfx) := by
    rw [h2]
    simp [word, foldsTo]
  simp only [urlAt, Option.bind_eq_bind, h1, Option.bind_some, sep, tail, full,
    Bool.false_eq_true, ↓reduceIte, take_url]

/-- Text that starts with a letter of an announcing word opens no URL. -/
theorem opensNoUrl_of_toLower {c q : Char} (cs : List Char) (hc : c.toLower = q)
    (hq : q ∈ ['l', 'r', 's', 'b']) : OpensNoUrl (c :: cs) := by
  have low : q.isLower ∧ 'o' ≠ q ∧ 'a' ≠ q ∧ 'h' ≠ q := by
    simp only [List.mem_cons, List.not_mem_nil, or_false] at hq
    rcases hq with rfl | rfl | rfl | rfl <;> decide
  obtain ⟨hq, ho, ha, hh⟩ := low
  refine ⟨fun b hb => ?_, ?_, ?_⟩
  · cases hb
    exact isBlank_of_toLower hc hq
  · have on := word_of_head_ne ['n'] cs hc hq (by decide) ho
    have at' := word_of_head_ne ['t'] cs hc hq (by decide) ha
    simp [oneOf, on, at']
  · have http := word_of_head_ne ['t', 't', 'p'] cs hc hq (by decide) hh
    simp [urlAt, http]

/-- The announcement of a line made of text without one that ends in a blank, an announcing
word in any case, a space, `on` or `at` in any case, a space, a URL and text that starts with a
blank. -/
theorem announcement_line {pre k w t sfx : List Char} {s : String}
    (hpre : ∀ b ∈ pre.getLast?, isBlank b = true) (hquiet : announcement pre = none)
    (hk : ∃ v ∈ ["listening", "running", "started", "bound"], v.toList = k.map Char.toLower)
    (hw : ∃ v ∈ ["on", "at"], v.toList = w.map Char.toLower)
    (hs : s = "http" ∨ s = "https") (ht : t ≠ []) (htb : ∀ c ∈ t, isBlank c = false)
    (hsfx : ∀ c ∈ sfx.head?, isBlank c = true) :
    announcement (pre ++ (k ++ ' ' :: (w ++ ' ' :: (s.toList ++ "://".toList ++ t ++ sfx)))) =
      some (s.toList ++ "://".toList ++ t) := by
  obtain ⟨v, hv, hvk⟩ := hk
  obtain ⟨c, k, rfl⟩ : ∃ c k', k = c :: k' := by
    cases k with
    | nil => simp at hv; rcases hv with rfl | rfl | rfl | rfl <;> simp at hvk
    | cons c k' => exact ⟨c, k', rfl⟩
  have hc : c.toLower ∈ ['l', 'r', 's', 'b'] := by
    simp only [List.mem_cons, List.not_mem_nil, or_false] at hv
    rcases hv with rfl | rfl | rfl | rfl <;> simp at hvk <;> simp [← hvk.1]
  have wfirst : ∀ x : List Char, ∀ d ∈ (w ++ x).head?, isBlank d = false := by
    obtain ⟨u, hu, huw⟩ := hw
    intro x d hd
    cases w with
    | nil =>
      simp only [List.mem_cons, List.not_mem_nil, or_false] at hu
      rcases hu with rfl | rfl <;> simp at huw
    | cons d' w =>
      cases hd
      simp only [List.mem_cons, List.not_mem_nil, or_false] at hu
      rcases hu with rfl | rfl <;> simp at huw
      · exact isBlank_of_toLower huw.1.symm (by decide)
      · exact isBlank_of_toLower huw.1.symm (by decide)
  have sfirst : ∀ d ∈ (s.toList ++ "://".toList ++ t ++ sfx).head?, isBlank d = false := by
    rcases hs with rfl | rfl <;> simp [isBlank]
  have kw := oneOf_of_toLower (' ' :: (w ++ ' ' :: (s.toList ++ "://".toList ++ t ++ sfx)))
    ⟨v, hv, hvk⟩ (by decide) (by decide)
  have place := oneOf_of_toLower (' ' :: (s.toList ++ "://".toList ++ t ++ sfx)) hw
    (by decide) (by decide)
  have here :
      announcementHere (c :: k ++ ' ' :: (w ++ ' ' :: (s.toList ++ "://".toList ++ t ++ sfx))) =
        some (s.toList ++ "://".toList ++ t) := by
    simp only [announcementHere, Option.bind_eq_bind]
    rw [kw, Option.bind_some, blanks_space (wfirst _), Option.bind_some, place,
      Option.bind_some, blanks_space sfirst, Option.bind_some, urlAt_scheme hs ht htb hsfx]
  rw [List.cons_append] at here kw
  rw [List.cons_append, announcement_append hpre hquiet (opensNoUrl_of_toLower _ rfl hc),
    announcement, here]
  rfl

/-! ## Reading the URL -/

/-- A URL that ends in a digit keeps it whole when trimmed. -/
theorem trimUrl_of_last (xs : List Char) {d : Char} (hd : d ∉ ['.', ',', ';', ')']) :
    trimUrl (xs ++ [d]) = xs ++ [d] := by
  simp only [List.mem_cons, List.not_mem_nil, or_false, not_or] at hd
  simp [trimUrl, hd.1, hd.2.1, hd.2.2.1, hd.2.2.2]

/-- Characters other than a colon before a text leave its port as it is. -/
theorem firstPort_append {xs : List Char} (hxs : ':' ∉ xs) (ys : List Char) :
    firstPort (xs ++ ys) = firstPort ys := by
  induction xs with
  | nil => rfl
  | cons x xs ih =>
    have hx : x ≠ ':' := fun h => hxs (by simp [h])
    rw [List.cons_append, firstPort.eq_3 x _ hx]
    exact ih (fun h => hxs (by simp [h]))

/-- The port of a URL whose host has no colon is the run of digits after the colon that ends
its host. -/
theorem firstPort_url {s : String} (hs : s = "http" ∨ s = "https") {h ds : List Char}
    (hh : ':' ∉ h) (hds : ds ≠ []) (hdig : ∀ c ∈ ds, isDigit c = true) :
    firstPort (s.toList ++ "://".toList ++ (h ++ ':' :: ds)) = some ds := by
  have scheme : ':' ∉ s.toList := by rcases hs with rfl | rfl <;> simp
  have run : ds.takeWhile isDigit = ds := List.takeWhile_eq_self_iff.2 hdig
  rw [List.append_assoc, firstPort_append scheme]
  show firstPort (':' :: ('/' :: '/' :: (h ++ ':' :: ds))) = _
  rw [firstPort.eq_2]
  simp only [List.takeWhile, show isDigit '/' = false by decide, List.isEmpty_nil, if_true]
  rw [firstPort.eq_3 '/' _ (by decide), firstPort.eq_3 '/' _ (by decide), firstPort_append hh,
    firstPort.eq_2, run]
  simp [List.isEmpty_iff, hds]

/-- The host of a URL with a lower-case scheme is what runs up to the colon that ends it. -/
theorem hostOf_url {s : String} (hs : s = "http" ∨ s = "https") {h : List Char} (rest : List Char)
    (hh : h ≠ []) (hhost : ∀ c ∈ h, c ≠ ':' ∧ c ≠ '/' ∧ isBlank c = false) :
    hostOf (String.ofList (s.toList ++ "://".toList ++ (h ++ ':' :: rest))) =
      some (String.ofList h) := by
  have run : (h ++ ':' :: rest).takeWhile (fun c => c != ':' && c != '/' && !isBlank c) = h := by
    rw [List.takeWhile_append_of_pos (fun c hc => by simp [hhost c hc])]
    simp
  have full : h.isEmpty = false := by simpa using hh
  rcases hs with rfl | rfl
  · have starts : (String.ofList ("http".toList ++ "://".toList ++ (h ++ ':' :: rest))).startsWith
        "http://" = true := by
      simp [String.startsWith_string_iff]
    have drop : ("http".toList ++ "://".toList ++ (h ++ ':' :: rest)).drop 7 = h ++ ':' :: rest := by
      simp
    simp only [hostOf, starts, String.toList_ofList, drop, Option.bind_some, run, full,
      Bool.false_eq_true, ↓reduceIte]
  · have starts : (String.ofList ("https".toList ++ "://".toList ++ (h ++ ':' :: rest))).startsWith
        "http://" = false := by
      simp [String.startsWith_string_eq_false_iff]
    have starts' : (String.ofList ("https".toList ++ "://".toList ++ (h ++ ':' :: rest))).startsWith
        "https://" = true := by
      simp [String.startsWith_string_iff]
    have drop : ("https".toList ++ "://".toList ++ (h ++ ':' :: rest)).drop 8 = h ++ ':' :: rest := by
      simp
    simp only [hostOf, starts, starts', String.toList_ofList, drop, Option.bind_some, run,
      full, Bool.false_eq_true, ↓reduceIte]

/-- The digits of a number, as `toString` writes them: at least one, each a decimal digit. -/
theorem toString_digits (p : Nat) :
    (toString p).toList ≠ [] ∧ ∀ c ∈ (toString p).toList,
      isDigit c = true ∧ isBlank c = false ∧ c ∉ ['.', ',', ';', ')'] :=
  ⟨Integer.toList_toString_ne_nil p, fun _ hc => Integer.toString_forall (by decide) hc⟩

end AgentLink.Readiness

namespace AgentLink

open Text Readiness

/-- A line that announces a server, after text that announces none and ends in a blank, is
read back as the URL, host and port it writes, whatever the options. -/
theorem detectListening_announced (pre k w s h sfx : String) (p : Nat) (o : ServerOptions)
    (hpre : ∀ b ∈ pre.toList.getLast?, isBlank b = true)
    (hquiet : announcement pre.toList = none)
    (hk : k.toLower ∈ ["listening", "running", "started", "bound"])
    (hw : w.toLower ∈ ["on", "at"])
    (hs : s = "http" ∨ s = "https")
    (hh : h ≠ "") (hhost : ∀ c ∈ h.toList, c ≠ ':' ∧ c ≠ '/' ∧ isBlank c = false)
    (hp : p < 10 ^ Integer.maxDigits)
    (hsfx : ∀ c ∈ sfx.toList.head?, isBlank c = true) :
    detectListening (pre ++ k ++ " " ++ w ++ " " ++ s ++ "://" ++ h ++ ":" ++ toString p ++ sfx) o =
      .ok (some { url := s ++ "://" ++ h ++ ":" ++ toString p, hostname := h, port := p }) := by
  obtain ⟨hne, hdig⟩ := toString_digits p
  have hh' : h.toList ≠ [] := by simpa using hh
  have line : (pre ++ k ++ " " ++ w ++ " " ++ s ++ "://" ++ h ++ ":" ++ toString p ++ sfx).toList =
      pre.toList ++ (k.toList ++ ' ' :: (w.toList ++ ' ' :: (s.toList ++ "://".toList ++
        (h.toList ++ ':' :: (toString p).toList) ++ sfx.toList))) := by
    simp [String.toList_append]
  have url : (s ++ "://" ++ h ++ ":" ++ toString p).toList =
      s.toList ++ "://".toList ++ (h.toList ++ ':' :: (toString p).toList) := by
    simp [String.toList_append]
  have ann := announcement_line (k := k.toList) (w := w.toList) hpre hquiet
    ⟨k.toLower, hk, String.toList_map⟩ ⟨w.toLower, hw, String.toList_map⟩ hs
    (t := h.toList ++ ':' :: (toString p).toList) (by simp) (by
      intro c hc
      rcases List.mem_append.1 hc with hc | hc
      · exact (hhost c hc).2.2
      · rcases List.mem_cons.1 hc with rfl | hc
        · decide
        · exact (hdig c hc).2.1) hsfx
  have trim : trimUrl (s.toList ++ "://".toList ++ (h.toList ++ ':' :: (toString p).toList)) =
      s.toList ++ "://".toList ++ (h.toList ++ ':' :: (toString p).toList) := by
    obtain ⟨ds, d, hd⟩ : ∃ ds d, (toString p).toList = ds ++ [d] :=
      ⟨_, _, (List.dropLast_append_getLast hne).symm⟩
    have last := (hdig d (by rw [hd]; exact List.mem_append_right _ (List.mem_singleton_self d))).2.2
    rw [hd]
    simpa [List.append_assoc] using
      trimUrl_of_last (s.toList ++ "://".toList ++ (h.toList ++ ':' :: ds)) last
  have port := firstPort_url hs (h := h.toList) (fun hc => (hhost ':' hc).1 rfl) hne
    (fun c hc => (hdig c hc).1)
  have host := hostOf_url hs (toString p).toList hh' hhost
  rw [String.ofList_toList] at host
  have text : String.ofList (s.toList ++ "://".toList ++ (h.toList ++ ':' :: (toString p).toList)) =
      s ++ "://" ++ h ++ ":" ++ toString p := by
    rw [← url, String.ofList_toList]
  rw [text] at host
  unfold detectListening
  rw [line, ann]
  simp only [trim, port, Integer.valueOfDigits_toString hp, text, host]
  rfl

theorem detectListening_announced_opencode :
    announcement "opencode server ".toList = none ∧
    detectListening ("opencode server " ++ "Listening" ++ " " ++ "on" ++ " " ++ "http" ++ "://" ++
        "127.0.0.1" ++ ":" ++ toString 4096 ++ "") {} =
      .ok (some { url := "http" ++ "://" ++ "127.0.0.1" ++ ":" ++ toString 4096,
                  hostname := "127.0.0.1", port := (4096 : Nat) }) := by
  have quiet : announcement "opencode server ".toList = none := by decide +kernel
  have word : "Listening".toLower = "listening" :=
    String.toList_inj.1 (by simp [String.toLower, String.toList_map])
  have place : "on".toLower = "on" := String.toList_inj.1 (by simp [String.toLower, String.toList_map])
  have small : 4096 < 10 ^ Integer.maxDigits :=
    Nat.lt_of_lt_of_le (by decide : 4096 < 10 ^ 4) (Nat.pow_le_pow_right (by decide) (by decide))
  refine ⟨quiet, detectListening_announced _ _ _ _ _ _ 4096 {} (by simp [isBlank]) quiet
    (by simp [word]) (by simp [place]) (.inl rfl) (by decide) (by simp [isBlank]) small
    (by simp)⟩

theorem detectListening_bracketed_host :
    detectListening "listening on http://[::1]:4096" {} =
      .ok (some { url := "http://[::1]:4096", hostname := "[", port := 1 }) := by
  decide +kernel

end AgentLink
