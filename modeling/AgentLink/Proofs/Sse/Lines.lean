import Mathlib
import AgentLink.Proofs.Sse.Chunking

/-!
# Reading the wire a line at a time

A line on the wire ends at a line feed, and may have a carriage return before it
(`Sse.IsLineEnd`). Read from the start of a line, a line that does not itself end in a carriage
return reaches the record being assembled whole, whichever line end it has
(`Sse.Parser.pushChars_ended`); a comment line, a colon then text, changes nothing
(`Sse.Parser.pushChars_comment`), and neither do blank lines while nothing is being assembled
(`Sse.Parser.pushChars_gap`).

A field stands on its line as its name, a colon and its value, with one space before the value
or, when the value does not open with a space, without it (`Sse.IsFieldLine`). When the name has
no colon and the value no line feed and no final carriage return (`Sse.FieldFits`), such a line
sets exactly that field (`Sse.FieldFits.takeLine`), after any comment lines before it
(`Sse.Parser.pushChars_fieldLine`), and a run of field lines sets its fields in turn
(`Sse.Parser.pushChars_fieldLines`).
-/

namespace AgentLink.Sse

/-- The scan for the first colon stops at it when the name before it has none. -/
theorem span_loop_colon (name rest acc : List Char) (h : ':' ∉ name) :
    List.span.loop (· != ':') (name ++ ':' :: rest) acc = (acc.reverse ++ name, ':' :: rest) := by
  induction name generalizing acc with
  | nil => simp [List.span.loop]
  | cons c name ih =>
    simp only [List.mem_cons, not_or] at h
    have hc : (c != ':') = true := by simpa using Ne.symm h.1
    simp [List.span.loop, hc, ih _ h.2]

/-- A field line cut at the colon after its name. -/
theorem splitField_spaced (name value : List Char) (h : ':' ∉ name) :
    splitField (name ++ ':' :: ' ' :: value) = (String.ofList name, String.ofList value) := by
  simp [splitField, List.span, span_loop_colon _ _ _ h]

theorem splitField_compact (name value : List Char) (h : ':' ∉ name)
    (hv : value.head? ≠ some ' ') :
    splitField (name ++ ':' :: value) = (String.ofList name, String.ofList value) := by
  simp only [splitField, List.span, span_loop_colon _ _ _ h, List.reverse_nil, List.nil_append]
  match value, hv with
  | [], _ => rfl
  | c :: v, hv =>
    have hc : c ≠ ' ' := by simpa using hv
    simp [hc]

/-- A line with a line end of either kind reads as the line itself, when it does not end in a
carriage return. -/
theorem lineOf_reverse (l : List Char) :
    lineOf l.reverse = if l.getLast? = some '\r' then l.dropLast else l := by
  cases h : l.reverse with
  | nil => simp_all [lineOf]
  | cons c r =>
    have hl : l = r.reverse ++ [c] := by simpa using congrArg List.reverse h
    subst hl
    by_cases hc : c = '\r'
    · subst hc; simp [lineOf]
    · simp [lineOf, hc]

/-- A line end on the wire: a line feed, or a carriage return and a line feed. -/
def IsLineEnd (e : List Char) : Prop :=
  e = ['\n'] ∨ e = ['\r', '\n']

/-- A carriage return before the line feed is dropped. -/
theorem lineOf_crlf (l : List Char) : lineOf (l ++ ['\r']).reverse = l := by
  simp [lineOf]

/-- A line and its line end, read from the start of a line: what `Record.takeLine` makes of the
line, when the line does not end in a carriage return. -/
theorem Parser.pushChars_ended (d : Utf8.Decoder) (r : Record) {l e : List Char}
    (hl : '\n' ∉ l) (hcr : l.getLast? ≠ some '\r') (he : IsLineEnd e) :
    Parser.pushChars ⟨d, [], r⟩ (l ++ e) = ((r.takeLine l).1.toList, ⟨d, [], (r.takeLine l).2⟩) := by
  rcases he with rfl | rfl
  · rw [pushChars_line _ rfl hl, lineOf_reverse, if_neg hcr]
  · have hl' : '\n' ∉ l ++ ['\r'] := by simpa using hl
    rw [show l ++ ['\r', '\n'] = (l ++ ['\r']) ++ ['\n'] by simp, pushChars_line _ rfl hl',
      lineOf_crlf]

/-- A comment line is read from the start of a line without any effect. -/
theorem Parser.pushChars_comment (d : Utf8.Decoder) (r : Record) {t e : List Char}
    (ht : '\n' ∉ t) (he : IsLineEnd e) :
    Parser.pushChars ⟨d, [], r⟩ (':' :: t ++ e) = ([], ⟨d, [], r⟩) := by
  have comment : ∀ u, r.takeLine (':' :: u) = (none, r) := fun _ => rfl
  have hl : '\n' ∉ ':' :: t := by simpa using ht
  rcases he with rfl | rfl
  · rw [pushChars_line _ rfl hl, lineOf_reverse]
    split
    · obtain ⟨u, hu⟩ : ∃ u, (':' :: t).dropLast = ':' :: u := by
        cases t with
        | nil => simp_all
        | cons c t => exact ⟨_, List.dropLast_cons_cons⟩
      simp [hu, comment]
    · simp [comment]
  · have hl' : '\n' ∉ ':' :: t ++ ['\r'] := by simpa using ht
    rw [show ':' :: t ++ ['\r', '\n'] = (':' :: t ++ ['\r']) ++ ['\n'] by simp,
      pushChars_line _ rfl hl', lineOf_crlf]
    simp [comment]

/-- Comment lines, each a colon and a text without a line feed, with its line end. -/
inductive Comments : List Char → Prop
  | nil : Comments []
  | cons {t e w : List Char} : '\n' ∉ t → IsLineEnd e → Comments w → Comments (':' :: t ++ e ++ w)

/-- What may stand between two records: comment lines and blank lines. -/
inductive Gap : List Char → Prop
  | nil : Gap []
  | comment {t e w : List Char} : '\n' ∉ t → IsLineEnd e → Gap w → Gap (':' :: t ++ e ++ w)
  | blank {e w : List Char} : IsLineEnd e → Gap w → Gap (e ++ w)

theorem Parser.pushChars_comments (d : Utf8.Decoder) (r : Record) {c : List Char}
    (hc : Comments c) : Parser.pushChars ⟨d, [], r⟩ c = ([], ⟨d, [], r⟩) := by
  induction hc with
  | nil => rfl
  | cons ht he _ ih => rw [pushChars_append, pushChars_comment d r ht he, ih]; rfl

/-- Between records, where nothing is being assembled, comment lines and blank lines have no
effect. -/
theorem Parser.pushChars_gap (d : Utf8.Decoder) {g : List Char} (hg : Gap g) :
    Parser.pushChars ⟨d, [], {}⟩ g = ([], ⟨d, [], {}⟩) := by
  induction hg with
  | nil => rfl
  | comment ht he _ ih => rw [pushChars_append, pushChars_comment d {} ht he, ih]; rfl
  | blank he _ ih =>
    have blank := pushChars_ended d {} (l := []) (by simp) (by simp) he
    rw [List.nil_append] at blank
    rw [pushChars_append, blank]
    simp [ih, Record.takeLine, Record.close]

/-- The ways a field may stand on its line: the name, a colon, and the value after one space,
or right after the colon when the value does not open with a space. -/
def IsFieldLine (name value : String) (l : List Char) : Prop :=
  l = name.toList ++ ':' :: ' ' :: value.toList ∨
    (value.toList.head? ≠ some ' ' ∧ l = name.toList ++ ':' :: value.toList)

/-- A field that can stand on a line of its own: a name with no colon or line feed, and a value
with no line feed that does not end in a carriage return. -/
structure FieldFits (name value : String) : Prop where
  name_ne : name ≠ ""
  name_colon : ':' ∉ name.toList
  name_lf : '\n' ∉ name.toList
  value_lf : '\n' ∉ value.toList
  value_cr : value.toList.getLast? ≠ some '\r'

namespace FieldFits

variable {name value : String} {l : List Char}

theorem not_mem_lf (h : FieldFits name value) (hl : IsFieldLine name value l) : '\n' ∉ l := by
  have := h.name_lf
  have := h.value_lf
  rcases hl with rfl | ⟨-, rfl⟩ <;> simp_all

theorem getLast?_ne_cr (h : FieldFits name value) (hl : IsFieldLine name value l) :
    l.getLast? ≠ some '\r' := by
  have := h.value_cr
  rcases hl with rfl | ⟨-, rfl⟩ <;> cases hv : value.toList.getLast? <;> simp_all [List.getLast?_cons]

/-- A field line sets its field in the record being assembled. -/
theorem takeLine (h : FieldFits name value) (hl : IsFieldLine name value l) (r : Record) :
    r.takeLine l = (none, r.setField name value) := by
  obtain ⟨c, cs, hn⟩ := List.exists_cons_of_ne_nil (mt String.toList_eq_nil_iff.1 h.name_ne)
  have hc : c ≠ ':' := fun e => h.name_colon (by simp [hn, e])
  have split : splitField l = (name, value) := by
    rcases hl with rfl | ⟨hv, rfl⟩
    · simpa using splitField_spaced name.toList value.toList h.name_colon
    · simpa using splitField_compact name.toList value.toList h.name_colon hv
  rcases hl with rfl | ⟨-, rfl⟩ <;> simp only [hn, List.cons_append] at split ⊢ <;>
    simp [Record.takeLine, hc, split]

end FieldFits

/-- A line on the wire after comment lines: the comments, the line, its line end. -/
def IsWireLine (line : List Char → Prop) (w : List Char) : Prop :=
  ∃ c l e, Comments c ∧ line l ∧ IsLineEnd e ∧ w = c ++ l ++ e

theorem Parser.pushChars_fieldLine (d : Utf8.Decoder) (r : Record) {name value : String}
    {w : List Char} (h : FieldFits name value) (hw : IsWireLine (IsFieldLine name value) w) :
    Parser.pushChars ⟨d, [], r⟩ w = ([], ⟨d, [], r.setField name value⟩) := by
  obtain ⟨c, l, e, hc, hl, he, rfl⟩ := hw
  rw [List.append_assoc, pushChars_append, pushChars_comments d r hc,
    pushChars_ended d r (h.not_mem_lf hl) (h.getLast?_ne_cr hl) he, h.takeLine hl]
  rfl

theorem Parser.pushChars_blankLine (d : Utf8.Decoder) (r : Record) {w : List Char}
    (hw : IsWireLine (· = []) w) :
    Parser.pushChars ⟨d, [], r⟩ w = (r.close.1.toList, ⟨d, [], r.close.2⟩) := by
  obtain ⟨c, l, e, hc, rfl, he, rfl⟩ := hw
  rw [List.append_assoc, pushChars_append, pushChars_comments d r hc,
    pushChars_ended d r (by simp) (by simp) he]
  rfl

/-- Lines on the wire for the fields `fs`, in order, each after comment lines. -/
inductive FieldLines : List (String × String) → List Char → Prop
  | nil : FieldLines [] []
  | cons {f : String × String} {fs : List (String × String)} {w ws : List Char} :
      IsWireLine (IsFieldLine f.1 f.2) w → FieldLines fs ws → FieldLines (f :: fs) (w ++ ws)

/-- Field lines read in turn set their fields in turn. -/
theorem Parser.pushChars_fieldLines (d : Utf8.Decoder) (r : Record) {fs : List (String × String)}
    {w : List Char} (hfit : ∀ f ∈ fs, FieldFits f.1 f.2) (hw : FieldLines fs w) :
    Parser.pushChars ⟨d, [], r⟩ w = ([], ⟨d, [], fs.foldl (fun q f => q.setField f.1 f.2) r⟩) := by
  induction hw generalizing r with
  | nil => rfl
  | cons hl _ ih =>
    rw [pushChars_append, pushChars_fieldLine d r (hfit _ List.mem_cons_self) hl,
      ih _ (fun f hf => hfit f (List.mem_cons_of_mem _ hf))]
    rfl

end AgentLink.Sse
