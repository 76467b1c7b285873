import AgentLink.Proofs.Sse.Lines
import AgentLink.Proofs.Text.Integer

/-!
# Records on the wire read back

A record is written as its fields (`Sse.Record.fields`): the event name, the id and the delay
when they are set, and one `data` line for each line of its data. On the wire
(`Sse.IsRecordText`) the data lines keep their order and the other fields may stand anywhere
among them, each line may have comment lines before it and a carriage return before its line
feed, a value that does not open with a space may follow the colon directly, and a blank line
ends the record. Between records there may be comment lines and blank lines (`Sse.IsWire`).

Each field line acts on one part of the record being assembled (`Sse.Record.foldl_setField`),
so however the fields are ordered, the record assembled from a record's text is the record
itself, its delay as the integer reader reads it back (`Sse.Record.received`), provided the wire
can carry it (`Sse.Record.Sendable`): it has data or an event name, its event name and id hold no
line feed and do not end in a carriage return, no data line ends in a carriage return, and its
data neither opens nor ends with a line feed. `Sse.parseRecords_wire` reads any such text, cut
into text chunks anywhere, back into the records in order.

The reader takes back a delay exactly when it has at most `Text.Integer.maxDigits` digits, so
`Sse.parseRecords_wire_exact` gives back exactly the records sent when every delay is that
short, and `Sse.parseRecords_long_retry` shows a longer one lost.
-/

namespace AgentLink.Sse

/-- No piece of a list cut at `x` holds `x`. -/
theorem not_mem_of_mem_splitOn {x : Char} {xs l : List Char} (h : l ∈ xs.splitOn x) : x ∉ l := by
  induction xs generalizing l with
  | nil =>
    rw [List.splitOn_nil, List.mem_singleton] at h
    simp [h]
  | cons y ys ih =>
    rw [List.splitOn_cons_eq_if_modifyHead] at h
    split at h
    · rcases List.mem_cons.1 h with rfl | h
      · simp
      · exact ih h
    · have hy : y ≠ x := by simpa using ‹¬(y == x) = true›
      cases hs : ys.splitOn x with
      | nil => exact absurd hs (List.splitOn_ne_nil _ _)
      | cons l₀ ls =>
        rw [hs] at h
        rcases List.mem_cons.1 h with rfl | h
        · have := ih (l := l₀) (by simp [hs])
          simp [hy.symm, this]
        · exact ih (by simp [hs, h])

/-- Joining pieces with `x` between them. -/
theorem intercalate_cons {x : Char} (l : List Char) (ls : List (List Char)) :
    [x].intercalate (l :: ls) = l ++ (ls.map (x :: ·)).flatten := by
  induction ls generalizing l with
  | nil => simp
  | cons l' ls ih => rw [List.intercalate_cons_cons, ih]; simp

/-- Data lines added to data that is not empty are joined by line feeds. -/
theorem foldl_join_of_ne {a : String} (ha : a.toList ≠ []) (vs : List (List Char)) :
    (vs.map String.ofList).foldl (fun b v => if b.isEmpty then v else b ++ "\n" ++ v) a =
      String.ofList (a.toList ++ (vs.map ('\n' :: ·)).flatten) := by
  induction vs generalizing a with
  | nil => simp
  | cons v vs ih =>
    have hne : ¬a.isEmpty := fun he => ha (by simp [String.isEmpty_iff.1 he])
    rw [List.map_cons, List.foldl_cons, if_neg hne, ih (by simp)]
    simp

namespace Record

theorem setField_event (r : Record) (f v : String) :
    (r.setField f v).event = if f = "event" then v else r.event := by
  unfold setField
  repeat' split
  all_goals simp_all

theorem setField_id (r : Record) (f v : String) :
    (r.setField f v).id = if f = "id" then v else r.id := by
  unfold setField
  repeat' split
  all_goals simp_all

theorem setField_retry (r : Record) (f v : String) :
    (r.setField f v).retry = if f = "retry" then (Text.Integer.read? v).getD r.retry else r.retry := by
  unfold setField
  repeat' split
  all_goals simp_all

theorem setField_data (r : Record) (f v : String) :
    (r.setField f v).data =
      if f = "data" then (if r.data.isEmpty then v else r.data ++ "\n" ++ v) else r.data := by
  unfold setField
  repeat' split
  all_goals simp_all

/-- Under a run of field lines, one part of the record moves only with the lines of its own
field. -/
theorem foldl_setField {β : Type} (π : Record → β) (name : String) (g : β → String → β)
    (hπ : ∀ r f v, π (r.setField f v) = if f = name then g (π r) v else π r)
    (fs : List (String × String)) (r : Record) :
    π (fs.foldl (fun q f => q.setField f.1 f.2) r) =
      (fs.filter (·.1 == name)).foldl (fun b f => g b f.2) (π r) := by
  induction fs generalizing r with
  | nil => rfl
  | cons f fs ih =>
    rw [List.foldl_cons, ih, hπ, List.filter_cons]
    by_cases hf : f.1 = name <;> simp [hf]

/-- The data lines of a record: its data cut at each line feed. -/
def dataLines (r : Record) : List String :=
  (r.data.toList.splitOn '\n').map String.ofList

/-- The fields a record is written with: its event name, id and delay when they are set, and
one data line for each line of its data. -/
def fields (r : Record) : List (String × String) :=
  (if r.event = "" then [] else [("event", r.event)]) ++
    (if r.id = "" then [] else [("id", r.id)]) ++
    (if r.retry = 0 then [] else [("retry", toString r.retry)]) ++
    r.dataLines.map (("data", ·))

theorem filter_fields_event (r : Record) :
    r.fields.filter (·.1 == "event") = if r.event = "" then [] else [("event", r.event)] := by
  unfold fields
  by_cases he : r.event = "" <;> by_cases hi : r.id = "" <;> by_cases hr : r.retry = 0 <;>
    simp [he, hi, hr, List.filter_map, Function.comp_def]

theorem filter_fields_id (r : Record) :
    r.fields.filter (·.1 == "id") = if r.id = "" then [] else [("id", r.id)] := by
  unfold fields
  by_cases he : r.event = "" <;> by_cases hi : r.id = "" <;> by_cases hr : r.retry = 0 <;>
    simp [he, hi, hr, List.filter_map, Function.comp_def]

theorem filter_fields_retry (r : Record) :
    r.fields.filter (·.1 == "retry") =
      if r.retry = 0 then [] else [("retry", toString r.retry)] := by
  unfold fields
  by_cases he : r.event = "" <;> by_cases hi : r.id = "" <;> by_cases hr : r.retry = 0 <;>
    simp [he, hi, hr, List.filter_map, Function.comp_def]

/-- A list that is a permutation of none or one element is that list. -/
theorem eq_of_perm_ite {α : Type} {l : List α} {c : Prop} [Decidable c] {x : α}
    (h : l.Perm (if c then [] else [x])) : l = if c then [] else [x] := by
  split at h
  · rw [if_pos ‹c›]; exact List.Perm.eq_nil h
  · rw [if_neg ‹¬c›]; exact List.perm_singleton.1 h

/-- The record a reader gets back from the wire: the delay is what the reader reads back from its
decimal text, and zero when it reads nothing. -/
def received (r : Record) : Record :=
  { r with retry := (Text.Integer.read? (toString r.retry)).getD 0 }

/-- Records agree when each of their parts does. -/
theorem eq_of_parts {r q : Record} (he : r.event = q.event) (hd : r.data = q.data)
    (hi : r.id = q.id) (hr : r.retry = q.retry) : r = q := by
  cases r
  cases q
  simp_all

/-- A delay of at most `maxDigits` digits comes back as it was sent. -/
theorem received_of_lt {r : Record} (h : r.retry.natAbs < 10 ^ Text.Integer.maxDigits) :
    r.received = r := by
  rw [received, Text.Integer.read?_toString, if_pos h]
  rfl

/-- The data lines of a record, added in turn to empty data, give back its data when it does
not open with a line feed. -/
theorem foldl_dataLines (r : Record) (h : r.data.toList.head? ≠ some '\n') :
    r.dataLines.foldl (fun b v => if b.isEmpty then v else b ++ "\n" ++ v) "" = r.data := by
  obtain ⟨l₀, ls, hs⟩ := List.exists_cons_of_ne_nil (List.splitOn_ne_nil '\n' r.data.toList)
  have whole : r.data.toList = l₀ ++ (ls.map ('\n' :: ·)).flatten := by
    rw [← intercalate_cons, ← hs, List.intercalate_splitOn]
  rw [dataLines, hs, List.map_cons, List.foldl_cons]
  cases l₀ with
  | nil =>
    cases ls with
    | nil =>
      have : r.data = "" := String.toList_inj.1 (by simpa using whole)
      simp [this]
    | cons l ls => simp [whole] at h
  | cons c l₀ =>
    rw [if_pos (by simp), foldl_join_of_ne (by simp), String.toList_ofList, ← whole,
      String.ofList_toList]

/-- A record the wire can carry as it is: it has data or an event name, its event name and id
hold no line feed and do not end in a carriage return, no line of its data ends in a carriage
return, and its data neither opens nor ends with a line feed. -/
structure Sendable (r : Record) : Prop where
  nonempty : r.event ≠ "" ∨ r.data ≠ ""
  event_lf : '\n' ∉ r.event.toList
  event_cr : r.event.toList.getLast? ≠ some '\r'
  id_lf : '\n' ∉ r.id.toList
  id_cr : r.id.toList.getLast? ≠ some '\r'
  data_cr : ∀ l ∈ r.data.toList.splitOn '\n', l.getLast? ≠ some '\r'
  data_head : r.data.toList.head? ≠ some '\n'
  data_last : r.data.toList.getLast? ≠ some '\n'

/-- Every field of a record the wire can carry fits on a line of its own. -/
theorem Sendable.fields_fit {r : Record} (hr : r.Sendable) : ∀ f ∈ r.fields, FieldFits f.1 f.2 := by
  have names : ∀ n ∈ ["event", "data", "id", "retry"], n ≠ "" ∧ ':' ∉ n.toList ∧ '\n' ∉ n.toList := by
    decide
  have fits : ∀ n v, n ∈ ["event", "data", "id", "retry"] → '\n' ∉ v.toList →
      v.toList.getLast? ≠ some '\r' → FieldFits n v := fun n v hn hlf hcr =>
    ⟨(names n hn).1, (names n hn).2.1, (names n hn).2.2, hlf, hcr⟩
  intro f hf
  simp only [fields, dataLines, List.mem_append, List.map_map, List.mem_map] at hf
  rcases hf with ((he | hi) | hn) | ⟨l, hl, rfl⟩
  · split at he
    · simp at he
    · rw [List.mem_singleton.1 he]
      exact fits _ _ (by simp) hr.event_lf hr.event_cr
  · split at hi
    · simp at hi
    · rw [List.mem_singleton.1 hi]
      exact fits _ _ (by simp) hr.id_lf hr.id_cr
  · split at hn
    · simp at hn
    · rw [List.mem_singleton.1 hn]
      obtain ⟨hlf, hcr⟩ := Text.Integer.toString_no_line_end r.retry
      exact fits _ _ (by simp) hlf fun h => hcr (List.mem_of_getLast? h)
  · exact fits _ _ (by simp) (by simpa using not_mem_of_mem_splitOn hl)
      (by simpa using hr.data_cr l hl)

/-- After the field lines of a record's text, the record being assembled is the record as a
reader gets it back. -/
theorem foldl_fields {r : Record} (hr : r.Sendable) {fs : List (String × String)}
    (hperm : fs.Perm r.fields) (hdata : fs.filter (·.1 == "data") = r.dataLines.map (("data", ·))) :
    fs.foldl (fun q f => q.setField f.1 f.2) {} = r.received := by
  have hev : fs.filter (·.1 == "event") = if r.event = "" then [] else [("event", r.event)] :=
    eq_of_perm_ite (filter_fields_event r ▸ hperm.filter _)
  have hid : fs.filter (·.1 == "id") = if r.id = "" then [] else [("id", r.id)] :=
    eq_of_perm_ite (filter_fields_id r ▸ hperm.filter _)
  have hret : fs.filter (·.1 == "retry") =
      if r.retry = 0 then [] else [("retry", toString r.retry)] :=
    eq_of_perm_ite (filter_fields_retry r ▸ hperm.filter _)
  apply eq_of_parts
  · rw [foldl_setField Record.event "event" (fun _ v => v) setField_event, hev]
    show _ = r.event
    split
    · exact (‹r.event = ""›).symm
    · rfl
  · rw [foldl_setField Record.data "data" (fun b v => if b.isEmpty then v else b ++ "\n" ++ v)
      setField_data, hdata, List.foldl_map]
    exact foldl_dataLines r hr.data_head
  · rw [foldl_setField Record.id "id" (fun _ v => v) setField_id, hid]
    show _ = r.id
    split
    · exact (‹r.id = ""›).symm
    · rfl
  · rw [foldl_setField Record.retry "retry" (fun b v => (Text.Integer.read? v).getD b)
      setField_retry, hret]
    show _ = (Text.Integer.read? (toString r.retry)).getD 0
    split
    · next h0 => rw [h0]; rfl
    · rfl

end Record

/-- Data that does not end in a line feed is sent as it is. -/
theorem dropFinalNewline_of_getLast? {s : String} (h : s.toList.getLast? ≠ some '\n') :
    dropFinalNewline s = s := by
  unfold dropFinalNewline
  split
  · next r hr =>
    exact absurd (by rw [← List.head?_reverse, hr]; rfl) h
  · rfl

/-- The text of a record on the wire: its fields, each on a line after comment lines, with the
data lines in order and the other fields anywhere among them, then a blank line after comment
lines. -/
def IsRecordText (r : Record) (w : List Char) : Prop :=
  ∃ fs : List (String × String), fs.Perm r.fields ∧
    fs.filter (·.1 == "data") = r.dataLines.map (("data", ·)) ∧
    ∃ u t, FieldLines fs u ∧ IsWireLine (· = []) t ∧ w = u ++ t

/-- The text of records on the wire: the text of each record in order, with comment lines and
blank lines before each of them and after the last. -/
inductive IsWire : List Record → List Char → Prop
  | nil {g : List Char} : Gap g → IsWire [] g
  | cons {g w t : List Char} {r : Record} {rs : List Record} :
      Gap g → IsRecordText r w → IsWire rs t → IsWire (r :: rs) (g ++ w ++ t)

namespace Parser

/-- The text of a record the wire can carry sends that record as the reader gets it back, and
leaves nothing being assembled. -/
theorem pushChars_recordText (d : Utf8.Decoder) {r : Record} (hr : r.Sendable) {w : List Char}
    (hw : IsRecordText r w) : Parser.pushChars ⟨d, [], {}⟩ w = ([r.received], ⟨d, [], {}⟩) := by
  obtain ⟨fs, hperm, hdata, u, t, hu, ht, rfl⟩ := hw
  have fit : ∀ f ∈ fs, FieldFits f.1 f.2 := fun f hf => hr.fields_fit f (hperm.subset hf)
  have sent : (r.received.data.isEmpty && r.received.event.isEmpty) = false := by
    rcases hr.nonempty with h | h <;> simp [Record.received, String.isEmpty_iff, h]
  have kept : dropFinalNewline r.received.data = r.received.data :=
    dropFinalNewline_of_getLast? hr.data_last
  rw [pushChars_append, pushChars_fieldLines d {} fit hu, Record.foldl_fields hr hperm hdata,
    pushChars_blankLine d _ ht]
  simp [Record.close, sent, kept]

/-- The text of records the wire can carry sends each of them in order, as the reader gets it
back, and leaves nothing being assembled. -/
theorem pushChars_wire (d : Utf8.Decoder) {rs : List Record} {w : List Char}
    (hrs : ∀ r ∈ rs, r.Sendable) (hw : IsWire rs w) :
    Parser.pushChars ⟨d, [], {}⟩ w = (rs.map Record.received, ⟨d, [], {}⟩) := by
  induction hw with
  | nil hg => exact pushChars_gap d hg
  | cons hg hr _ ih =>
    rw [List.append_assoc, pushChars_append, pushChars_gap d hg, pushChars_append,
      pushChars_recordText d (hrs _ List.mem_cons_self) hr,
      ih (fun r h => hrs r (List.mem_cons_of_mem _ h))]
    rfl

end Parser

/-- Records written on the wire in any of the ways the format allows, and cut into text chunks
anywhere, are read back in order, each with its delay as the reader reads it back. -/
theorem parseRecords_wire {rs : List Record} {w : List Char} (hrs : ∀ r ∈ rs, r.Sendable)
    (hw : IsWire rs w) (chunks : List String) (hc : (String.join chunks).toList = w) :
    parseRecords (chunks.map Chunk.text) = rs.map Record.received := by
  rw [parseRecords, Parser.feedAll_texts, hc]
  exact congrArg Prod.fst (Parser.pushChars_wire .idle hrs hw)

/-- The wire encoding decodes back: records that the wire can carry, each with a delay of at most
`maxDigits` digits, written in any of the ways the format allows and cut into text chunks
anywhere, are read back exactly and in order. -/
theorem parseRecords_wire_exact {rs : List Record} {w : List Char}
    (hrs : ∀ r ∈ rs, r.Sendable ∧ r.retry.natAbs < 10 ^ Text.Integer.maxDigits)
    (hw : IsWire rs w) (chunks : List String) (hc : (String.join chunks).toList = w) :
    parseRecords (chunks.map Chunk.text) = rs := by
  rw [parseRecords_wire (fun r h => (hrs r h).1) hw chunks hc]
  rw [List.map_congr_left fun r hr => Record.received_of_lt (hrs r hr).2, List.map_id']

/-- A record with an event name, two data lines and a delay, written with a carriage return
before some line feeds, a comment, a field without its space and the delay between the data
lines, and cut in three chunks, is read back as it was. -/
theorem parseRecords_wire_exact_ping :
    (∀ r ∈ [({ event := "ping", data := "a\nb", retry := 3000 } : Record)],
      r.Sendable ∧ r.retry.natAbs < 10 ^ Text.Integer.maxDigits) ∧
    IsWire [{ event := "ping", data := "a\nb", retry := 3000 }]
      "event: ping\r\n: keep-alive\ndata:a\nretry: 3000\ndata: b\r\n\n".toList ∧
    (String.join ["event: pi", "ng\r\n: keep-alive\ndata:a\nretry: 3", "000\ndata: b\r\n\n"]).toList =
      "event: ping\r\n: keep-alive\ndata:a\nretry: 3000\ndata: b\r\n\n".toList ∧
    parseRecords (["event: pi", "ng\r\n: keep-alive\ndata:a\nretry: 3", "000\ndata: b\r\n\n"].map
      Chunk.text) = [{ event := "ping", data := "a\nb", retry := 3000 }] := by
  have small : (3000 : Int).natAbs < 10 ^ Text.Integer.maxDigits :=
    Nat.lt_of_lt_of_le (by decide) (Nat.pow_le_pow_right (by decide) (by decide : 4 ≤ 4300))
  have sendable : ∀ r ∈ [({ event := "ping", data := "a\nb", retry := 3000 } : Record)],
      r.Sendable ∧ r.retry.natAbs < 10 ^ Text.Integer.maxDigits := by
    intro r hr
    rw [List.mem_singleton.1 hr]
    exact ⟨⟨Or.inl (by decide), by decide, by decide, by decide, by decide, by decide,
      by decide, by decide⟩, small⟩
  have text : IsRecordText { event := "ping", data := "a\nb", retry := 3000 }
      "event: ping\r\n: keep-alive\ndata:a\nretry: 3000\ndata: b\r\n\n".toList := by
    refine ⟨[("event", "ping"), ("data", "a"), ("retry", "3000"), ("data", "b")], by decide,
      by decide, _, ['\n'],
      .cons ⟨[], _, ['\r', '\n'], .nil, .inl rfl, .inr rfl, rfl⟩
        (.cons ⟨_, _, ['\n'], .cons (t := " keep-alive".toList) (by decide)
          (.inl rfl) .nil, .inr ⟨by decide, rfl⟩, .inl rfl, rfl⟩
        (.cons ⟨[], _, ['\n'], .nil, .inl rfl, .inl rfl, rfl⟩
        (.cons ⟨[], _, ['\r', '\n'], .nil, .inl rfl, .inr rfl, rfl⟩ .nil))),
      ⟨[], [], ['\n'], .nil, rfl, .inl rfl, rfl⟩, by decide⟩
  have wire := IsWire.cons Gap.nil text (IsWire.nil Gap.nil)
  rw [List.nil_append, List.append_nil] at wire
  have joined : (String.join ["event: pi", "ng\r\n: keep-alive\ndata:a\nretry: 3",
      "000\ndata: b\r\n\n"]).toList =
      "event: ping\r\n: keep-alive\ndata:a\nretry: 3000\ndata: b\r\n\n".toList := by decide
  exact ⟨sendable, wire, joined, parseRecords_wire_exact sendable wire _ joined⟩

/-- A record whose delay has more digits than the reader takes comes back without it: the wire
text `retry: 1000…0` (a one and `maxDigits` zeros), then `data: x` and a blank line, is read as
the record with data `x` and no delay. -/
theorem parseRecords_long_retry :
    ({ data := "x", retry := 10 ^ Text.Integer.maxDigits } : Record).Sendable ∧
    IsWire [{ data := "x", retry := 10 ^ Text.Integer.maxDigits }]
      ("retry: " ++ toString ((10 : Int) ^ Text.Integer.maxDigits) ++ "\ndata: x\n\n").toList ∧
    parseRecords [.text ("retry: " ++ toString ((10 : Int) ^ Text.Integer.maxDigits) ++
      "\ndata: x\n\n")] = [{ data := "x" }] ∧
    [({ data := "x" } : Record)] ≠ [{ data := "x", retry := 10 ^ Text.Integer.maxDigits }] := by
  have big : (10 : Int) ^ Text.Integer.maxDigits ≠ 0 := pow_ne_zero _ (by decide)
  have sendable : ({ data := "x", retry := 10 ^ Text.Integer.maxDigits } : Record).Sendable :=
    ⟨Or.inr (by decide), by decide, by decide, by decide, by decide, by decide, by decide,
      by decide⟩
  have fields : ({ data := "x", retry := 10 ^ Text.Integer.maxDigits } : Record).fields =
      [("retry", toString ((10 : Int) ^ Text.Integer.maxDigits)), ("data", "x")] := by
    simp only [Record.fields, Record.dataLines, if_neg big]
    rfl
  have text : IsRecordText { data := "x", retry := 10 ^ Text.Integer.maxDigits }
      ("retry: " ++ toString ((10 : Int) ^ Text.Integer.maxDigits) ++ "\ndata: x\n\n").toList := by
    have lines : ({ data := "x", retry := 10 ^ Text.Integer.maxDigits } : Record).dataLines =
        ["x"] := rfl
    refine ⟨[("retry", toString ((10 : Int) ^ Text.Integer.maxDigits)), ("data", "x")],
      by rw [fields], by rw [lines]; rfl, _, ['\n'],
      .cons ⟨[], _, ['\n'], .nil, .inl rfl, .inl rfl, rfl⟩
        (.cons ⟨[], _, ['\n'], .nil, .inl rfl, .inl rfl, rfl⟩ .nil),
      ⟨[], [], ['\n'], .nil, rfl, .inl rfl, rfl⟩, ?_⟩
    have head : "retry: ".toList = "retry".toList ++ [':', ' '] := rfl
    have tail : "\ndata: x\n\n".toList =
        '\n' :: ("data".toList ++ ':' :: ' ' :: "x".toList) ++ ['\n', '\n'] := rfl
    -- stated for any value, so that checking it never writes out the delay's digits
    have shape : ∀ v : String, ("retry: " ++ v ++ "\ndata: x\n\n").toList =
        ((([] ++ ("retry".toList ++ ':' :: ' ' :: v.toList)) ++ ['\n']) ++
          ((([] ++ ("data".toList ++ ':' :: ' ' :: "x".toList)) ++ ['\n']) ++ [])) ++
          (([] ++ []) ++ ['\n']) := fun v => by
      simp only [String.toList_append, head, tail, List.append_assoc, List.cons_append,
        List.nil_append, List.append_nil]
    exact shape _
  have wire : IsWire [{ data := "x", retry := 10 ^ Text.Integer.maxDigits }]
      ("retry: " ++ toString ((10 : Int) ^ Text.Integer.maxDigits) ++ "\ndata: x\n\n").toList := by
    have whole := IsWire.cons Gap.nil text (IsWire.nil Gap.nil)
    rwa [List.nil_append, List.append_nil] at whole
  have dropped : ({ data := "x", retry := 10 ^ Text.Integer.maxDigits } : Record).received =
      { data := "x" } := by
    have long : ¬((10 : Int) ^ Text.Integer.maxDigits).natAbs < 10 ^ Text.Integer.maxDigits := by
      have ten : (10 : Int).natAbs = 10 := rfl
      rw [Int.natAbs_pow, ten]
      exact Nat.lt_irrefl _
    rw [Record.received, Text.Integer.read?_toString, if_neg long]
    rfl
  refine ⟨sendable, wire, ?_, fun h => big ?_⟩
  · have read := parseRecords_wire (fun r hr => by rw [List.mem_singleton.1 hr]; exact sendable)
      wire ["retry: " ++ toString ((10 : Int) ^ Text.Integer.maxDigits) ++ "\ndata: x\n\n"]
      (by rw [String.join_cons, String.join_nil, String.append_empty])
    rwa [List.map_singleton, List.map_singleton, dropped] at read
  · have := congrArg (fun l => (List.head! l).retry) h
    exact this.symm

end AgentLink.Sse
