import Mathlib
import AgentLink.Terminal.Describe
import AgentLink.Proofs.Text.CodePoints

/-!
# Summaries of events on one line

`Event.describe` sums an event up as its type, a space and a detail. The detail is read as code
points and squeezed (`Text.squeeze`): cut into words at its blanks, and the words joined by
single spaces. Squeezed text lies on one line (`Text.OneLine`): no blank at either end, every
blank a space, and no two blanks side by side (`Text.oneLine_squeeze`). Cutting such text
anywhere and closing it with a word, as `fitPoints` closes a long detail with `...`, keeps it on
one line (`Text.OneLine.take_append`), and at most `detailWidth` characters remain
(`length_fitPoints_le`). The written detail reads back as these code points
(`codePoints_fitDetail`), so what holds of them holds of the summary.

`describe_one_line` puts these together. The mark `...` does not tell a cut detail from one that
ends in `...` itself (`describe_trailing_dots`).
-/

namespace AgentLink

namespace Text

/-! ## Text on one line -/

/-- Two code points that are not both blanks. -/
def Apart (a b : Nat) : Prop :=
  isBlankPoint a = false ∨ isBlankPoint b = false

/-- Text on one line, its words between single spaces: no blank at either end, every blank a
space, and no two blanks side by side. -/
structure OneLine (ns : List Nat) : Prop where
  head : ∀ n ∈ ns.head?, isBlankPoint n = false
  last : ∀ n ∈ ns.getLast?, isBlankPoint n = false
  space : ∀ n ∈ ns, isBlankPoint n = true → n = 0x20
  apart : ns.IsChain Apart

/-- A word: at least one code point, and no blank. -/
def IsWord (w : List Nat) : Prop :=
  w ≠ [] ∧ ∀ n ∈ w, isBlankPoint n = false

theorem oneLine_nil : OneLine [] where
  head := by simp
  last := by simp
  space := by simp
  apart := .nil

theorem isChain_apart {w : List Nat} (hw : ∀ n ∈ w, isBlankPoint n = false) : w.IsChain Apart := by
  induction w with
  | nil => exact .nil
  | cons n w ih =>
    exact .cons (ih fun m hm => hw m (List.mem_cons_of_mem n hm))
      (fun _ _ => .inl (hw n List.mem_cons_self))

theorem IsWord.oneLine {w : List Nat} (hw : IsWord w) : OneLine w where
  head n hn := hw.2 n (List.mem_of_mem_head? hn)
  last n hn := hw.2 n (List.mem_of_mem_getLast? hn)
  space n hn hb := by rw [hw.2 n hn] at hb; cases hb
  apart := isChain_apart hw.2

/-- A word, a space, and text on one line make text on one line. -/
theorem OneLine.word_space {w l : List Nat} (hw : IsWord w) (hl : OneLine l) (hne : l ≠ []) :
    OneLine (w ++ [0x20] ++ l) where
  head n hn := by
    obtain ⟨m, ms, rfl⟩ := List.exists_cons_of_ne_nil hw.1
    simp only [List.cons_append, List.head?_cons, Option.mem_def, Option.some.injEq] at hn
    exact hn ▸ hw.2 m List.mem_cons_self
  last n hn := by
    rw [List.getLast?_append_of_ne_nil _ hne] at hn
    exact hl.last n hn
  space n hn hb := by
    simp only [List.append_assoc, List.singleton_append, List.mem_append, List.mem_cons] at hn
    rcases hn with hn | rfl | hn
    · rw [hw.2 n hn] at hb; cases hb
    · rfl
    · exact hl.space n hn hb
  apart := by
    rw [List.append_assoc, List.singleton_append, List.isChain_append]
    refine ⟨isChain_apart hw.2, .cons hl.apart fun y hy => .inr (hl.head y hy), ?_⟩
    intro x hx _ _
    exact .inl (hw.2 x (List.mem_of_mem_getLast? hx))

/-- Words joined by single spaces lie on one line. -/
theorem oneLine_intercalate {ws : List (List Nat)} (h : ∀ w ∈ ws, IsWord w) :
    OneLine ([0x20].intercalate ws) := by
  induction ws with
  | nil => exact oneLine_nil
  | cons w ws ih =>
    cases ws with
    | nil => simpa using IsWord.oneLine (h w List.mem_cons_self)
    | cons w' ws =>
      have hw' := h w' (by simp)
      have hne : [0x20].intercalate (w' :: ws) ≠ [] := by
        obtain ⟨m, ms, rfl⟩ := List.exists_cons_of_ne_nil hw'.1
        cases ws <;> simp
      rw [List.intercalate_cons_cons]
      exact OneLine.word_space (h w List.mem_cons_self)
        (ih fun v hv => h v (List.mem_cons_of_mem w hv)) hne

/-- What is taken from the front of text on one line, closed by a word, lies on one line. -/
theorem OneLine.take_append {d w : List Nat} (hd : OneLine d) (hw : IsWord w) (k : Nat) :
    OneLine (d.take k ++ w) where
  head n hn := by
    rw [List.head?_append] at hn
    cases ht : (d.take k).head? with
    | some m =>
      rw [ht, Option.some_or] at hn
      rw [List.head?_take] at ht
      split at ht
      · cases ht
      · rw [← Option.some.inj (Option.mem_def.1 hn)]
        exact hd.head m ht
    | none =>
      rw [ht, Option.none_or] at hn
      exact hw.2 n (List.mem_of_mem_head? hn)
  last n hn := by
    rw [List.getLast?_append_of_ne_nil _ hw.1] at hn
    exact hw.2 n (List.mem_of_mem_getLast? hn)
  space n hn hb := by
    rcases List.mem_append.1 hn with hn | hn
    · exact hd.space n (List.mem_of_mem_take hn) hb
    · rw [hw.2 n hn] at hb; cases hb
  apart := by
    rw [List.isChain_append]
    exact ⟨hd.apart.take k, isChain_apart hw.2,
      fun _ _ y hy => .inr (hw.2 y (List.mem_of_mem_head? hy))⟩

/-! ## Words -/

theorem isWord_reverse {cur : List Nat} (hc : cur ≠ []) (hcur : ∀ n ∈ cur, isBlankPoint n = false) :
    IsWord cur.reverse :=
  ⟨by simpa using hc, by simpa using hcur⟩

/-- What the word reader gives is a word, and each of its code points was pending or read. -/
theorem wordsFrom_word {cur ns w : List Nat} (hcur : ∀ n ∈ cur, isBlankPoint n = false)
    (hw : w ∈ wordsFrom cur ns) : IsWord w ∧ ∀ n ∈ w, n ∈ cur ∨ n ∈ ns := by
  induction ns generalizing cur with
  | nil =>
    unfold wordsFrom at hw
    split at hw
    · simp at hw
    · rename_i hc
      rw [List.mem_singleton] at hw
      subst hw
      exact ⟨isWord_reverse (by simpa using hc) hcur, fun n hn => .inl (List.mem_reverse.1 hn)⟩
  | cons n ns ih =>
    unfold wordsFrom at hw
    split at hw
    · -- a blank ends the pending word, if there is one
      split at hw
      · obtain ⟨hword, hmem⟩ := ih (by simp) hw
        exact ⟨hword, fun m hm => .inr (List.mem_cons_of_mem n (by simpa using hmem m hm))⟩
      · rename_i hc
        rcases List.mem_cons.1 hw with rfl | hw
        · exact ⟨isWord_reverse (by simpa using hc) hcur, fun m hm => .inl (List.mem_reverse.1 hm)⟩
        · obtain ⟨hword, hmem⟩ := ih (by simp) hw
          exact ⟨hword, fun m hm => .inr (List.mem_cons_of_mem n (by simpa using hmem m hm))⟩
    · rename_i hn
      obtain ⟨hword, hmem⟩ := ih (by simpa [hn] using hcur) hw
      refine ⟨hword, fun m hm => ?_⟩
      rcases hmem m hm with h | h
      · rcases List.mem_cons.1 h with rfl | h
        · exact .inr List.mem_cons_self
        · exact .inl h
      · exact .inr (List.mem_cons_of_mem n h)

theorem words_word {ns w : List Nat} (hw : w ∈ words ns) : IsWord w ∧ ∀ n ∈ w, n ∈ ns := by
  obtain ⟨hword, hmem⟩ := wordsFrom_word (by simp) hw
  exact ⟨hword, fun n hn => (hmem n hn).resolve_left (by simp)⟩

/-- Squeezed text lies on one line. -/
theorem oneLine_squeeze (ns : List Nat) : OneLine (squeeze ns) :=
  oneLine_intercalate fun _ hw => (words_word hw).1

theorem mem_intercalate_space {ws : List (List Nat)} {n : Nat} (h : n ∈ [0x20].intercalate ws) :
    n = 0x20 ∨ ∃ w ∈ ws, n ∈ w := by
  induction ws with
  | nil => simp at h
  | cons w ws ih =>
    cases ws with
    | nil => exact .inr ⟨w, List.mem_cons_self, by simpa using h⟩
    | cons w' ws =>
      rw [List.intercalate_cons_cons] at h
      simp only [List.mem_append, List.mem_singleton] at h
      rcases h with (h | h) | h
      · exact .inr ⟨w, List.mem_cons_self, h⟩
      · exact .inl h
      · rcases ih h with h | ⟨v, hv, hn⟩
        · exact .inl h
        · exact .inr ⟨v, List.mem_cons_of_mem w hv, hn⟩

/-- Squeezing keeps code points or adds spaces. -/
theorem mem_squeeze {ns : List Nat} {n : Nat} (h : n ∈ squeeze ns) : n ∈ ns ∨ n = 0x20 := by
  rcases mem_intercalate_space h with h | ⟨w, hw, hn⟩
  · exact .inr h
  · exact .inl ((words_word hw).2 n hn)

end Text

/-! ## Fitting the detail -/

theorem isWord_ellipsis : Text.IsWord ellipsis :=
  ⟨by simp [ellipsis], by decide⟩

theorem fitPoints_eq (ns : List Nat) :
    fitPoints ns = if 120 < (Text.squeeze ns).length then (Text.squeeze ns).take 117 ++ ellipsis
      else Text.squeeze ns :=
  rfl

theorem oneLine_fitPoints (ns : List Nat) : Text.OneLine (fitPoints ns) := by
  rw [fitPoints_eq]
  split
  · exact (Text.oneLine_squeeze ns).take_append isWord_ellipsis 117
  · exact Text.oneLine_squeeze ns

theorem length_fitPoints_le (ns : List Nat) : (fitPoints ns).length ≤ 120 := by
  rw [fitPoints_eq]
  split
  · simp only [List.length_append, List.length_take, ellipsis, List.length_cons, List.length_nil]
    omega
  · omega

theorem fitPoints_lt {ns : List Nat} (h : ∀ n ∈ ns, n < 0x110000) :
    ∀ n ∈ fitPoints ns, n < 0x110000 := by
  have squeezed : ∀ n ∈ Text.squeeze ns, n < 0x110000 := fun n hn => by
    rcases Text.mem_squeeze hn with hn | rfl
    · exact h n hn
    · decide
  rw [fitPoints_eq]
  split
  · intro n hn
    rcases List.mem_append.1 hn with hn | hn
    · exact squeezed n (List.mem_of_mem_take hn)
    · simp only [ellipsis, List.mem_cons, List.not_mem_nil, or_false, or_self] at hn
      omega
  · exact squeezed

theorem fitPoints_eq_nil_iff (ns : List Nat) : fitPoints ns = [] ↔ Text.squeeze ns = [] := by
  rw [fitPoints_eq]
  split
  · rename_i hlong
    constructor
    · intro h
      simp [ellipsis] at h
    · intro h
      rw [h] at hlong
      simp at hlong
  · exact Iff.rfl

/-- The written detail reads back as the code points it was fitted to. -/
theorem codePoints_fitDetail (s : String) :
    Text.codePoints (fitDetail s).toList = fitPoints (Text.codePoints s.toList) := by
  rw [fitDetail, String.toList_ofList]
  exact Text.codePoints_writeCodePoints _ (fitPoints_lt (Text.codePoints_lt _))

theorem fitDetail_isEmpty (s : String) :
    (fitDetail s).isEmpty = true ↔ Text.squeeze (Text.codePoints s.toList) = [] := by
  rw [String.isEmpty_iff, ← String.toList_eq_nil_iff, ← Text.codePoints_eq_nil_iff,
    codePoints_fitDetail, fitPoints_eq_nil_iff]

/-- An event is summed up on one line. With `norm` its detail squeezed and `d` the detail as it
is fitted, the summary is the type alone when `norm` is empty, and otherwise the type, a space
and `d`. `d` lies on one line and has at most 120 characters: it is `norm` itself, or the first
117 characters of `norm` and `...` when `norm` is longer than 120. So `d` ends in `...` when
`norm` is longer than 120, and also when `norm` ends in `...` itself. -/
theorem describe_one_line (e : Event) :
    let norm := Text.squeeze (Text.codePoints e.detail.toList)
    let d := Text.codePoints (fitDetail e.detail).toList
    e.describe = (if norm = [] then e.type else e.type ++ " " ++ fitDetail e.detail) ∧
      (d = [] ↔ norm = []) ∧ Text.OneLine d ∧ d.length ≤ 120 ∧
      d = (if 120 < norm.length then norm.take 117 ++ ellipsis else norm) ∧
      (ellipsis <:+ d ↔ 120 < norm.length ∨ ellipsis <:+ norm) := by
  dsimp only
  rw [codePoints_fitDetail]
  refine ⟨?_, fitPoints_eq_nil_iff _, oneLine_fitPoints _, length_fitPoints_le _, fitPoints_eq _,
    ?_⟩
  · unfold Event.describe
    by_cases hn : Text.squeeze (Text.codePoints e.detail.toList) = []
    · rw [if_pos ((fitDetail_isEmpty _).2 hn), if_pos hn]
    · rw [if_neg (mt (fitDetail_isEmpty _).1 hn), if_neg hn]
  · rw [fitPoints_eq]
    split
    · rename_i hlong
      simp [hlong, List.suffix_append]
    · rename_i hlong
      simp [hlong]

/-- A detail that ends in `...` keeps it, though it is not longer than 120 characters. -/
theorem describe_trailing_dots :
    (Event.fileEdited "a...").describe = "file.edited a..." ∧
      Text.squeeze (Text.codePoints "a...".toList) = [0x61, 0x2E, 0x2E, 0x2E] :=
  ⟨by decide +kernel, by decide⟩

end AgentLink
