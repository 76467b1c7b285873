import AgentLink.Sse.Parser
import AgentLink.Proofs.Text.Utf8Replace

/-!
# Where a body is cut never matters

The parser reads its input one character at a time, and the characters that are not line feeds
only extend the line read so far (`Parser.pushChars_of_not_mem`). So a complete line, read from
the start of a line, acts on the record being assembled exactly as `Record.takeLine` says
(`Parser.pushChars_line`), and text after the last line feed sends nothing.

Reading text chunks in turn is reading their concatenation (`Parser.feedAll_texts`). Hence
`feedAll_take_texts`: after the first `i` of any list of text chunks, a fresh parser has sent
exactly the records of those chunks joined into one text, and these are the first records that
reading all the chunks sends.

Byte chunks go through the decoder, which keeps an incomplete character between chunks, and
what the parser sends never depends on the decoder (`Parser.pushChars_decoder`); so reading byte
chunks in turn is reading the text the decoder makes of all their bytes together
(`Parser.feedAll_bytes`). That text lacks only what finishing the decoder would add, at most one
replacement character, which ends no line. Hence `parseRecords_bytes`: however a byte string is
cut into chunks, a fresh parser sends the records of the one text that decodes it with each
maximal ill-formed subpart replaced by U+FFFD.
-/

namespace AgentLink.Sse

namespace Parser

/-- Characters other than a line feed only extend the line read so far. -/
theorem pushChars_of_not_mem (p : Parser) {cs : List Char} (h : '\n' ∉ cs) :
    p.pushChars cs = ([], { p with line := cs.reverse ++ p.line }) := by
  induction cs generalizing p with
  | nil => simp [pushChars]
  | cons c cs ih =>
    simp only [List.mem_cons, not_or] at h
    obtain ⟨hc, hcs⟩ := h
    simp [pushChars, pushChar, Ne.symm hc, ih _ hcs]

/-- A complete line read from the start of a line: what `Record.takeLine` makes of the line,
without the carriage return that may end it. -/
theorem pushChars_line (p : Parser) {l : List Char} (hp : p.line = []) (hl : '\n' ∉ l) :
    p.pushChars (l ++ ['\n']) =
      ((p.pending.takeLine (lineOf l.reverse)).1.toList,
        { p with line := [], pending := (p.pending.takeLine (lineOf l.reverse)).2 }) := by
  rw [pushChars_append, pushChars_of_not_mem p hl]
  simp [pushChars, pushChar, hp]

/-- Reading text never looks at the byte decoder, nor changes it. -/
theorem pushChars_decoder (p : Parser) (d : Utf8.Decoder) (cs : List Char) :
    ({ p with decoder := d } : Parser).pushChars cs =
      ((p.pushChars cs).1, { (p.pushChars cs).2 with decoder := d }) := by
  induction cs generalizing p with
  | nil => rfl
  | cons c cs ih =>
    by_cases hc : c = '\n'
    · simpa [pushChars, pushChar, hc, Prod.ext_iff] using
        ih { p with line := [], pending := (p.pending.takeLine (lineOf p.line)).2 }
    · simpa [pushChars, pushChar, hc, Prod.ext_iff] using ih { p with line := c :: p.line }

/-- Reading two lists of chunks in turn sends the records of reading them as one. -/
theorem feedAll_append (p : Parser) (xs ys : List Chunk) :
    p.feedAll (xs ++ ys) =
      ((p.feedAll xs).1 ++ ((p.feedAll xs).2.feedAll ys).1, ((p.feedAll xs).2.feedAll ys).2) := by
  induction xs generalizing p with
  | nil => simp [feedAll]
  | cons c cs ih => simp [feedAll, ih]

/-- Reading text chunks in turn is reading their concatenation. -/
theorem feedAll_texts (p : Parser) (cs : List String) :
    p.feedAll (cs.map Chunk.text) = p.pushChars (String.join cs).toList := by
  induction cs generalizing p with
  | nil => simp [feedAll, pushChars]
  | cons c cs ih => simp [feedAll, feed, ih, String.toList_join, pushChars_append]

/-- Reading byte chunks in turn is reading the text that the decoder makes of all their bytes,
and leaves the decoder where those bytes leave it. -/
theorem feedAll_bytes (p : Parser) (bss : List (List UInt8)) :
    p.feedAll (bss.map Chunk.bytes) =
      ((p.pushChars (p.decoder.feed bss.flatten).1).1,
        { (p.pushChars (p.decoder.feed bss.flatten).1).2 with
          decoder := (p.decoder.feed bss.flatten).2 }) := by
  induction bss generalizing p with
  | nil => rfl
  | cons bs bss ih =>
    simp [feedAll, feed, ih, pushChars_decoder, Utf8.Decoder.feed_append, pushChars_append]

end Parser

/-- Finishing the decoder adds no line feed. -/
theorem not_mem_finish (d : Utf8.Decoder) : '\n' ∉ d.finish := by
  cases d <;> simp only [Utf8.Decoder.finish] <;> decide

/-- The records of a single text chunk. -/
theorem parseRecords_text (s : String) :
    parseRecords [.text s] = (Parser.pushChars {} s.toList).1 := by
  simp [parseRecords, Parser.feedAll, Parser.feed]

/-- Byte chunks read in turn give the records of all their bytes read as one chunk. -/
theorem parseRecords_flatten (bss : List (List UInt8)) :
    parseRecords (bss.map Chunk.bytes) = parseRecords [.bytes bss.flatten] := by
  have whole := Parser.feedAll_bytes {} [bss.flatten]
  simp only [List.map_cons, List.map_nil, List.flatten_cons, List.flatten_nil,
    List.append_nil] at whole
  rw [parseRecords, parseRecords, Parser.feedAll_bytes, whole]

/-- Text chunks fed in turn to a fresh parser: after the first `i` of them, it has sent exactly
the records of those chunks taken as one text, and these open the records of the whole run. -/
theorem feedAll_take_texts (cs : List String) (i : Nat) :
    (Parser.feedAll {} ((cs.take i).map Chunk.text)).1 =
      parseRecords [.text (String.join (cs.take i))] ∧
    (Parser.feedAll {} ((cs.take i).map Chunk.text)).1 <+:
      (Parser.feedAll {} (cs.map Chunk.text)).1 := by
  refine ⟨by rw [parseRecords_text, Parser.feedAll_texts], ?_⟩
  have whole := Parser.feedAll_append {} ((cs.take i).map Chunk.text) ((cs.drop i).map Chunk.text)
  rw [← List.map_append, List.take_append_drop] at whole
  rw [whole]
  exact List.prefix_append _ _

/-- Byte chunks cut anywhere, inside a character or inside an ill-formed sequence: a fresh parser
sends the records of the one text that decodes all the bytes with each maximal ill-formed subpart
replaced by U+FFFD. Such a reading exists for every byte string, and the decoder of whole byte
strings gives it. -/
theorem parseRecords_bytes (bss : List (List UInt8)) :
    (∃ ns, Utf8.Replaces bss.flatten ns) ∧
      ∀ ns, Utf8.Replaces bss.flatten ns →
        Utf8.decodeAll bss.flatten = String.ofList (Text.writeCodePoints ns) ∧
        parseRecords (bss.map Chunk.bytes) = parseRecords [.text (Utf8.decodeAll bss.flatten)] := by
  refine ⟨Utf8.exists_replaces _, fun ns h => ⟨Utf8.decodeAll_replaces h, ?_⟩⟩
  rw [Utf8.decodeAll_replaces h, parseRecords, Parser.feedAll_bytes, parseRecords_text,
    String.toList_ofList, ← Utf8.feed_replaces h, Parser.pushChars_append,
    Parser.pushChars_of_not_mem _ (not_mem_finish _), List.append_nil]

/-- A snowman, `U+2603`, cut after the second of its three bytes in the data of a record. -/
theorem parseRecords_bytes_snowman :
    Utf8.Replaces [[0x64, 0x61, 0x74, 0x61, 0x3A, 0x20, 0xE2, 0x98], [0x83, 0x0A, 0x0A]].flatten
        [0x64, 0x61, 0x74, 0x61, 0x3A, 0x20, 0x2603, 0x0A, 0x0A] ∧
      Utf8.decodeAll [[0x64, 0x61, 0x74, 0x61, 0x3A, 0x20, 0xE2, 0x98], [0x83, 0x0A, 0x0A]].flatten =
        String.ofList (Text.writeCodePoints [0x64, 0x61, 0x74, 0x61, 0x3A, 0x20, 0x2603, 0x0A, 0x0A]) ∧
      parseRecords ([[0x64, 0x61, 0x74, 0x61, 0x3A, 0x20, 0xE2, 0x98], [0x83, 0x0A, 0x0A]].map
          Chunk.bytes) =
        parseRecords [.text (Utf8.decodeAll
          [[0x64, 0x61, 0x74, 0x61, 0x3A, 0x20, 0xE2, 0x98], [0x83, 0x0A, 0x0A]].flatten)] := by
  have reads : Utf8.Replaces
      [[0x64, 0x61, 0x74, 0x61, 0x3A, 0x20, 0xE2, 0x98], [0x83, 0x0A, 0x0A]].flatten
      [0x64, 0x61, 0x74, 0x61, 0x3A, 0x20, 0x2603, 0x0A, 0x0A] := by
    have bytes : [[0x64, 0x61, 0x74, 0x61, 0x3A, 0x20, 0xE2, 0x98], [0x83, 0x0A, 0x0A]].flatten =
        [0x64, 0x61, 0x74, 0x61, 0x3A, 0x20, 0x2603, 0x0A, 0x0A].flatMap Utf8.pointBytes := by
      decide
    rw [bytes]
    exact Utf8.replaces_flatMap (by decide)
  exact ⟨reads, (parseRecords_bytes _).2 _ reads⟩

end AgentLink.Sse
