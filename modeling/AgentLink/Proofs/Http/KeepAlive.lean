import Mathlib
import AgentLink.Http.Stream
import AgentLink.Proofs.Sse.Lines

/-!
# Keep-alive comments hand on nothing twice

The server of a held stream sends keep-alive comments (`Http.keepAlive`), a comment line and a
blank line, until the client stops. The first one may complete the record the body left open:
it ends the line read part way, and its blank line sends the record being assembled. After it
the parser rests (`Sse.Parser.Rests`): no line is read part way, and the record being assembled
has neither data nor an event name, so a blank line sends nothing. A parser at rest reads a
keep-alive comment with no effect at all, so every keep-alive comment after the first hands on
no record and leaves the parser as it was (`Http.feed_keepAlive_again`).

That needs the decoder to let ASCII bytes through whatever it holds. The decoder waits, if at
all, for a continuation byte, from `0x80` on (`Utf8.Decoder.WaitsHigh`); an ASCII byte then ends
the character it holds as one replacement character and is read on its own
(`Utf8.Decoder.WaitsHigh.step_ascii`). A fresh decoder waits so, and so does every decoder it
reaches.
-/

namespace AgentLink

namespace Utf8

/-- The decoder waits, if at all, for a continuation byte: never for an ASCII one. -/
def Decoder.WaitsHigh : Decoder → Prop
  | .idle => True
  | .pending _ _ lo _ => 0x80 ≤ lo

theorem waitsHigh_pending {bits needed : Nat} {lo hi : UInt8} :
    (Decoder.pending bits needed lo hi).WaitsHigh ↔ 0x80 ≤ lo :=
  Iff.rfl

theorem waitsHigh_idle : Decoder.idle.WaitsHigh :=
  trivial

/-- A byte that starts a character leaves the decoder waiting for continuation bytes only. -/
theorem waitsHigh_start (b : UInt8) : (start b).2.WaitsHigh := by
  rcases byte_cases b with hb | hb | ⟨h₁, h₂⟩ | hb | hb | ⟨h₁, h₂, h₃⟩ | hb | ⟨h₁, h₂⟩ | hb
  · rw [start_ascii hb]; trivial
  · rw [start_invalid hb]; trivial
  · rw [start_two h₁ h₂]; exact waitsHigh_pending.2 (by decide)
  · rw [start_e0 hb]; exact waitsHigh_pending.2 (by decide)
  · rw [start_ed hb]; exact waitsHigh_pending.2 (by decide)
  · rw [start_three h₁ h₂ h₃]; exact waitsHigh_pending.2 (by decide)
  · rw [start_f0 hb]; exact waitsHigh_pending.2 (by decide)
  · rw [start_four h₁ h₂]; exact waitsHigh_pending.2 (by decide)
  · rw [start_f4 hb]; exact waitsHigh_pending.2 (by decide)

namespace Decoder.WaitsHigh

variable {d : Decoder}

theorem step (h : d.WaitsHigh) (b : UInt8) : (d.step b).2.WaitsHigh := by
  cases d with
  | idle => exact waitsHigh_start b
  | pending bits needed lo hi =>
    by_cases hb : lo ≤ b ∧ b ≤ hi
    · rw [step_take hb.1 hb.2]
      split
      · trivial
      · exact waitsHigh_pending.2 (by decide)
    · rw [step_refuse hb]
      exact waitsHigh_start b

theorem feed (h : d.WaitsHigh) (bs : List UInt8) : (d.feed bs).2.WaitsHigh := by
  induction bs generalizing d with
  | nil => exact h
  | cons b bs ih => exact ih (h.step b)

/-- An ASCII byte ends whatever character the decoder holds, and is read on its own. -/
theorem step_ascii (h : d.WaitsHigh) {b : UInt8} (hb : b.toNat < 0x80) :
    d.step b = (d.finish ++ Text.writeCodePoint b.toNat, .idle) := by
  cases d with
  | idle => simp [Decoder.step, start_ascii hb, finish]
  | pending bits needed lo hi =>
    have hlo : ¬ (lo ≤ b ∧ b ≤ hi) := fun hb' => by
      have h₁ := UInt8.le_iff_toNat_le.1 (waitsHigh_pending.1 h)
      have h₂ := UInt8.le_iff_toNat_le.1 hb'.1
      simp only [UInt8.reduceToNat] at h₁
      omega
    rw [step_refuse hlo, start_ascii hb]
    rfl

/-- A keep-alive comment is ASCII throughout: whatever character the decoder held ends, and the
comment is read as its text. -/
theorem feed_keepAlive (h : d.WaitsHigh) :
    d.feed Http.keepAlive = (d.finish ++ ": keep-alive\n\n".toList, .idle) := by
  have bytes : Http.keepAlive =
      0x3A :: [0x20, 0x6B, 0x65, 0x65, 0x70, 0x2D, 0x61, 0x6C, 0x69, 0x76, 0x65, 0x0A, 0x0A] := by
    decide +kernel
  have rest : Decoder.idle.feed
      [0x20, 0x6B, 0x65, 0x65, 0x70, 0x2D, 0x61, 0x6C, 0x69, 0x76, 0x65, 0x0A, 0x0A] =
      (" keep-alive\n\n".toList, .idle) := by
    decide
  rw [bytes, feed_cons, h.step_ascii (by decide), rest]
  simp only [List.append_assoc, Prod.mk.injEq, and_true]
  rfl

end Decoder.WaitsHigh

end Utf8

namespace Sse

/-- A record a blank line does not send: it has neither data nor an event name. -/
def Record.Blank (r : Record) : Prop :=
  (r.data.isEmpty && r.event.isEmpty) = true

theorem Record.close_of_blank {r : Record} (h : r.Blank) : r.close = (none, r) := by
  rw [Record.Blank] at h
  rw [Record.close, if_pos h]

/-- What a blank line leaves to be assembled sends nothing at the next blank line. -/
theorem Record.blank_close (r : Record) : r.close.2.Blank := by
  unfold Record.close
  split
  · assumption
  · rfl

/-- The parser rests: no line is read part way, and a blank line would send nothing. -/
structure Parser.Rests (p : Parser) : Prop where
  line : p.line = []
  blank : p.pending.Blank

/-- Two line feeds in a row leave the parser at rest, whatever came before them. -/
theorem Parser.rests_pushChars (p : Parser) (cs : List Char) :
    (p.pushChars (cs ++ ['\n', '\n'])).2.Rests := by
  rw [pushChars_append]
  exact ⟨rfl, Record.blank_close _⟩

/-- A parser at rest with nothing held in its decoder reads a keep-alive comment without any
effect. -/
theorem Parser.feed_keepAlive_rests {p : Parser} (hp : p.Rests) (hd : p.decoder = .idle) :
    p.feed (.bytes Http.keepAlive) = ([], p) := by
  obtain ⟨d, line, r⟩ := p
  obtain ⟨hl, hb⟩ := hp
  simp only at hl hd hb
  subst hl hd
  have comment := pushChars_comment .idle r (t := " keep-alive".toList) (e := ['\n']) (by decide)
    (.inl rfl)
  have text : ": keep-alive\n\n".toList = (':' :: " keep-alive".toList ++ ['\n']) ++ ['\n'] := by
    decide
  simp only [feed, Utf8.Decoder.WaitsHigh.feed_keepAlive Utf8.waitsHigh_idle, Utf8.Decoder.finish,
    List.nil_append, text, pushChars_append, comment]
  simp [pushChars, pushChar, lineOf, Record.takeLine, Record.close_of_blank hb]

/-- A keep-alive comment leaves the parser at rest, with nothing held in its decoder. -/
theorem Parser.feed_keepAlive {p : Parser} (h : p.decoder.WaitsHigh) :
    (p.feed (.bytes Http.keepAlive)).2.Rests ∧ (p.feed (.bytes Http.keepAlive)).2.decoder = .idle := by
  have text : p.decoder.finish ++ ": keep-alive\n\n".toList =
      (p.decoder.finish ++ ": keep-alive".toList) ++ ['\n', '\n'] := by
    simp only [List.append_assoc]
    rfl
  simp only [feed, h.feed_keepAlive, text]
  refine ⟨?_, ?_⟩
  · have := rests_pushChars { p with decoder := .idle } (p.decoder.finish ++ ": keep-alive".toList)
    exact this
  · have := pushChars_decoder p .idle (p.decoder.finish ++ ": keep-alive".toList ++ ['\n', '\n'])
    rw [this]

/-- A fresh parser that read byte chunks holds in its decoder only what waits for continuation
bytes. -/
theorem waitsHigh_feedAll (bss : List (List UInt8)) :
    (Parser.feedAll {} (bss.map Chunk.bytes)).2.decoder.WaitsHigh := by
  rw [Parser.feedAll_bytes]
  exact Utf8.waitsHigh_idle.feed _

end Sse

namespace Http

/-- After a keep-alive comment, another one hands on no record and leaves the parser as it was. -/
theorem feed_keepAlive_again (bss : List (List UInt8)) :
    let p := (Sse.Parser.feedAll {} ((bss ++ [keepAlive]).map Sse.Chunk.bytes)).2
    p.feed (.bytes keepAlive) = ([], p) := by
  intro p
  have last : p = ((Sse.Parser.feedAll {} (bss.map Sse.Chunk.bytes)).2.feed (.bytes keepAlive)).2 := by
    simp [p, List.map_append, Sse.Parser.feedAll_append, Sse.Parser.feedAll]
  obtain ⟨rests, idle⟩ := Sse.Parser.feed_keepAlive (Sse.waitsHigh_feedAll bss)
  rw [← last] at rests idle
  exact Sse.Parser.feed_keepAlive_rests rests idle

end Http

end AgentLink
