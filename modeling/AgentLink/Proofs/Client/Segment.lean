import Mathlib
import AgentLink.Client.Api
import AgentLink.Proofs.Text.Utf8Replace
import AgentLink.Proofs.Text.CodePoints

/-!
# Ids as path segments

An operation names a session or a permission request by its id, written into the request's path
as one segment (`Http.encodeSegment`): the id's UTF-8 bytes, each kept as an unreserved
character or escaped as `%` and two hexadecimal digits (`Http.Escaped`). So the segment holds no
`/`, `?` or `#`, and undoing its escapes gives back the id's bytes, which decode to the id
(`Http.encodeSegment_escapes`).

Dots are unreserved and stay as they are, so the segment is a dot-segment exactly when the id is
`.` or `..` (`Http.encodeSegment_dot_iff`). For every other id, resolving the dot-segments of the
request's path, as a URL with a base does, keeps the path (`Operation.paths_keep_id`). The ids
`.` and `..` are lost that way: deleting the session `..` asks the server to delete its root
(`deleteSession_parent`).
-/

namespace AgentLink

namespace Http

/-! ## Escaped text -/

/-- Percent-encoded text of unreserved characters and escapes, `%` and two hexadecimal
digits. -/
inductive Escaped : List Char → Prop
  | nil : Escaped []
  | plain {c : Char} {rest : List Char} : isUnreserved c = true → Escaped rest → Escaped (c :: rest)
  | escape {a b : Char} {rest : List Char} :
      isHexDigit a = true → isHexDigit b = true → Escaped rest → Escaped ('%' :: a :: b :: rest)

theorem isUnreserved_delims {c : Char} (hc : isUnreserved c = true) :
    c ≠ '/' ∧ c ≠ '?' ∧ c ≠ '#' ∧ c ≠ '%' := by
  refine ⟨?_, ?_, ?_, ?_⟩ <;> rintro rfl <;> exact absurd hc (by decide)

theorem isHexDigit_delims {c : Char} (hc : isHexDigit c = true) : c ≠ '/' ∧ c ≠ '?' ∧ c ≠ '#' := by
  refine ⟨?_, ?_, ?_⟩ <;> rintro rfl <;> exact absurd hc (by decide)

/-- Escaped text holds no `/`, `?` or `#`. -/
theorem Escaped.no_delims {cs : List Char} (h : Escaped cs) : '/' ∉ cs ∧ '?' ∉ cs ∧ '#' ∉ cs := by
  induction h with
  | nil => simp
  | plain hc _ ih =>
    obtain ⟨slash, query, hash, -⟩ := isUnreserved_delims hc
    simp only [List.mem_cons, not_or]
    exact ⟨⟨slash.symm, ih.1⟩, ⟨query.symm, ih.2.1⟩, ⟨hash.symm, ih.2.2⟩⟩
  | escape ha hb _ ih =>
    obtain ⟨aslash, aquery, ahash⟩ := isHexDigit_delims ha
    obtain ⟨bslash, bquery, bhash⟩ := isHexDigit_delims hb
    simp only [List.mem_cons, not_or]
    exact ⟨⟨by decide, aslash.symm, bslash.symm, ih.1⟩, ⟨by decide, aquery.symm, bquery.symm, ih.2.1⟩,
      ⟨by decide, ahash.symm, bhash.symm, ih.2.2⟩⟩

/-! ## One byte of a segment -/

/-- How a segment writes one byte: the character of an unreserved ASCII byte, or its escape. -/
def segmentByte (b : UInt8) : String :=
  if b < 0x80 && isUnreserved (Char.ofNat b.toNat) then String.singleton (Char.ofNat b.toNat)
  else percentByte b

theorem encodeSegment_of_encode {s : String} {bytes : List UInt8} (h : Utf8.encode s = .ok bytes) :
    encodeSegment s = .ok (String.join (bytes.map segmentByte)) := by
  rw [encodeSegment, h]
  rfl

theorem isHexDigit_upper : ∀ n, n < 16 → isHexDigit (hexDigitUpper n) = true := by
  decide

theorem hexDigitValue_upper : ∀ n, n < 16 → hexDigitValue? (hexDigitUpper n) = some n := by
  decide

theorem unescapeBytes_plain {c : Char} (hc : c ≠ '%') (rest : List Char) :
    unescapeBytes (c :: rest) = c.toNat.toUInt8 :: unescapeBytes rest := by
  rcases rest with _ | ⟨a, _ | ⟨b, rest⟩⟩ <;> simp [unescapeBytes, hc]

theorem escaped_segmentByte (b : UInt8) {rest : List Char} (h : Escaped rest) :
    Escaped ((segmentByte b).toList ++ rest) := by
  have hb := UInt8.toNat_lt b
  unfold segmentByte
  split
  · rename_i hkept
    rw [Bool.and_eq_true] at hkept
    rw [String.toList_singleton, List.singleton_append]
    exact .plain hkept.2 h
  · rw [percentByte, String.toList_ofList, List.cons_append, List.cons_append, List.cons_append,
      List.nil_append]
    exact .escape (isHexDigit_upper _ (by omega)) (isHexDigit_upper _ (by omega)) h

/-- Undoing the escapes of a byte's writing gives the byte back. -/
theorem unescapeBytes_segmentByte (b : UInt8) (rest : List Char) :
    unescapeBytes ((segmentByte b).toList ++ rest) = b :: unescapeBytes rest := by
  have hb := UInt8.toNat_lt b
  unfold segmentByte
  split
  · rename_i hkept
    rw [Bool.and_eq_true] at hkept
    have ascii : b.toNat < 0x80 := by
      have h := UInt8.lt_iff_toNat_lt.1 (of_decide_eq_true hkept.1)
      simpa using h
    rw [String.toList_singleton, List.singleton_append,
      unescapeBytes_plain (isUnreserved_delims hkept.2).2.2.2,
      Text.ofNat_toNat_of_valid _ (by simp only [Nat.isValidChar]; omega)]
    simp
  · rw [percentByte, String.toList_ofList, List.cons_append, List.cons_append, List.cons_append,
      List.nil_append, unescapeBytes, hexDigitValue_upper _ (by omega),
      hexDigitValue_upper _ (by omega)]
    dsimp only
    rw [show b.toNat / 16 * 16 + b.toNat % 16 = b.toNat by omega]
    simp

/-! ## Whole segments -/

theorem escaped_segment (bytes : List UInt8) :
    Escaped (String.join (bytes.map segmentByte)).toList := by
  induction bytes with
  | nil => exact .nil
  | cons b bs ih =>
    rw [List.map_cons, String.toList_join, List.flatMap_cons, ← String.toList_join]
    exact escaped_segmentByte b ih

theorem unescapeBytes_segment (bytes : List UInt8) :
    unescapeBytes (String.join (bytes.map segmentByte)).toList = bytes := by
  induction bytes with
  | nil => rfl
  | cons b bs ih =>
    rw [List.map_cons, String.toList_join, List.flatMap_cons, ← String.toList_join,
      unescapeBytes_segmentByte, ih]

theorem firstSurrogates_none {ns : List Nat} {pos : Nat} (h : Utf8.firstSurrogates ns pos = none) :
    ∀ n ∈ ns, Text.isSurrogate n = false := by
  induction ns generalizing pos with
  | nil => simp
  | cons n ns ih =>
    unfold Utf8.firstSurrogates at h
    split at h
    · cases h
    · rename_i hn
      intro m hm
      rcases List.mem_cons.1 hm with rfl | hm
      · simpa using hn
      · exact ih h m hm

/-- The bytes UTF-8 gives a text are those of its code points, each a scalar value. -/
theorem encode_scalars {s : String} {bytes : List UInt8} (h : Utf8.encode s = .ok bytes) :
    bytes = (Text.codePoints s.toList).flatMap Utf8.pointBytes ∧
      ∀ n ∈ Text.codePoints s.toList, Utf8.IsScalar n := by
  cases hnone : Utf8.firstSurrogates (Text.codePoints s.toList) 0 with
  | some e => simp [Utf8.encode, hnone] at h
  | none =>
    simp only [Utf8.encode, hnone, Except.ok.injEq] at h
    exact ⟨h.symm, fun n hn => ⟨Text.codePoints_lt _ n hn, firstSurrogates_none hnone n hn⟩⟩

/-- The segment of an id that UTF-8 encodes is made of unreserved characters and escapes, and
undoing its escapes and decoding the bytes gives back the id's code points. -/
theorem encodeSegment_escapes {s : String} {bytes : List UInt8} (h : Utf8.encode s = .ok bytes) :
    ∃ seg, encodeSegment s = .ok seg ∧ Escaped seg.toList ∧
      Text.codePoints (unescape seg).toList = Text.codePoints s.toList := by
  obtain ⟨hbytes, scalars⟩ := encode_scalars h
  refine ⟨_, encodeSegment_of_encode h, escaped_segment bytes, ?_⟩
  rw [unescape, unescapeBytes_segment, hbytes,
    Utf8.decodeAll_replaces (Utf8.replaces_flatMap scalars), String.toList_ofList,
    Text.codePoints_writeCodePoints _ fun n hn => (scalars n hn).1]

/-- The segment of an id is `.` or `..` exactly when the id is, read as code points. -/
theorem encodeSegment_dot_iff {s seg : String} {bytes : List UInt8} (h : Utf8.encode s = .ok bytes)
    (hseg : encodeSegment s = .ok seg) :
    (seg = "." ∨ seg = "..") ↔
      (Text.codePoints s.toList = [0x2E] ∨ Text.codePoints s.toList = [0x2E, 0x2E]) := by
  obtain ⟨seg', hseg', -, hback⟩ := encodeSegment_escapes h
  rw [hseg] at hseg'
  cases hseg'
  constructor
  · rintro (rfl | rfl)
    · exact .inl (hback ▸ by decide +kernel)
    · exact .inr (hback ▸ by decide +kernel)
  · have hbytes := (encode_scalars h).1
    rw [encodeSegment_of_encode h, Except.ok.injEq] at hseg
    rintro (hdot | hdot) <;> rw [← hseg, hbytes, hdot]
    · exact .inl (by decide +kernel)
    · exact .inr (by decide +kernel)

/-! ## Paths -/

/-- A path whose segments hold no slash and none of which is `.` or `..` is kept when its
dot-segments are resolved. -/
theorem normalizePath_keeps {path : String} {segs : List (List Char)}
    (hpath : path.toList = ['/'].intercalate segs) (hne : segs ≠ [])
    (hslash : ∀ x ∈ segs, '/' ∉ x) (hdot : ∀ x ∈ segs, x ≠ ['.'] ∧ x ≠ ['.', '.']) :
    normalizePath path = path := by
  have split : splitAtChar path '/' = segs.map String.ofList := by
    rw [splitAtChar, hpath, List.splitOn_intercalate '/' hslash hne]
  unfold normalizePath
  split
  · rfl
  · rw [split, if_pos]
    simp only [List.contains_eq_mem, List.mem_map, Bool.or_eq_false_iff, decide_eq_false_iff_not,
      not_exists, not_and, Bool.not_eq_eq_eq_not, Bool.not_true]
    refine ⟨fun x hx heq => (hdot x hx).1 ?_, fun x hx heq => (hdot x hx).2 ?_⟩
    · rw [← String.toList_ofList (l := x), heq]
      rfl
    · rw [← String.toList_ofList (l := x), heq]
      rfl

/-- A path made of one segment with no slash and no dot-segment between fixed segments of the
same kind is kept when its dot-segments are resolved. -/
theorem normalizePath_keeps_segment {seg : List Char}
    (hseg : '/' ∉ seg ∧ seg ≠ ['.'] ∧ seg ≠ ['.', '.']) (pre post : List (List Char))
    (hfixed : ∀ x ∈ pre ++ post, '/' ∉ x ∧ x ≠ ['.'] ∧ x ≠ ['.', '.']) {path : String}
    (hpath : path.toList = ['/'].intercalate (pre ++ seg :: post)) : normalizePath path = path := by
  -- each segment of the path is a fixed one or the given one
  have every : ∀ x ∈ pre ++ seg :: post, '/' ∉ x ∧ x ≠ ['.'] ∧ x ≠ ['.', '.'] := by
    intro x hx
    rcases List.mem_append.1 hx with hx | hx
    · exact hfixed x (List.mem_append_left post hx)
    · rcases List.mem_cons.1 hx with rfl | hx
      · exact hseg
      · exact hfixed x (List.mem_append_right pre hx)
  exact normalizePath_keeps hpath (by simp) (fun x hx => (every x hx).1)
    (fun x hx => (every x hx).2)

end Http

namespace Operation

/-- An id that UTF-8 encodes and that is not `.` or `..` is named in the path of each operation
on it by one segment of unreserved characters and escapes, which reads back as the id; resolving
the dot-segments of each of these paths keeps it. -/
theorem paths_keep_id (s : String) (bytes : List UInt8) (hs : Utf8.encode s = .ok bytes)
    (hdot : Text.codePoints s.toList ≠ [0x2E] ∧ Text.codePoints s.toList ≠ [0x2E, 0x2E])
    (prompt provider model limit : Json.Value) (r : PermissionReply) (hr : r.requestId = s) :
    ∃ seg, Http.Escaped seg.toList ∧
      Text.codePoints (Http.unescape seg).toList = Text.codePoints s.toList ∧
      (Operation.getSession s).target = .ok ("/session/" ++ seg) ∧
      (Operation.deleteSession s).target = .ok ("/session/" ++ seg) ∧
      (Operation.abortSession s).target = .ok ("/session/" ++ seg ++ "/abort") ∧
      (Operation.sendMessage s prompt provider model).target = .ok ("/session/" ++ seg ++ "/message") ∧
      (Operation.getMessages s limit).target =
        .ok ("/session/" ++ seg ++ "/message" ++ limitQuery limit) ∧
      (Operation.replyPermission r).target = .ok ("/permission/" ++ seg) ∧
      ∀ path ∈ ["/session/" ++ seg, "/session/" ++ seg ++ "/abort", "/session/" ++ seg ++ "/message",
        "/permission/" ++ seg], Http.normalizePath path = path := by
  obtain ⟨seg, hseg, escaped, back⟩ := Http.encodeSegment_escapes hs
  -- the id's segment is no dot-segment, since the id is none
  have notDot : seg.toList ≠ ['.'] ∧ seg.toList ≠ ['.', '.'] := by
    have segNotDot : ¬ (seg = "." ∨ seg = "..") := fun h =>
      ((Http.encodeSegment_dot_iff hs hseg).1 h).elim hdot.1 hdot.2
    constructor
    · intro h
      exact segNotDot (.inl (by rw [← String.ofList_toList (s := seg), h]))
    · intro h
      exact segNotDot (.inr (by rw [← String.ofList_toList (s := seg), h]))
  refine ⟨seg, escaped, back, ?_, ?_, ?_, ?_, ?_, ?_, ?_⟩
  · simp [target, sessionPath, hseg]
  · simp [target, sessionPath, hseg]
  · simp [target, sessionPath, hseg]
  · simp [target, sessionPath, hseg]
  · simp [target, sessionPath, hseg]
  · simp [target, hr, hseg]
  · -- every path is the id's segment between fixed segments
    have hseg : '/' ∉ seg.toList ∧ seg.toList ≠ ['.'] ∧ seg.toList ≠ ['.', '.'] :=
      ⟨escaped.no_delims.1, notDot⟩
    intro path hpath
    simp only [List.mem_cons, List.not_mem_nil, or_false] at hpath
    rcases hpath with rfl | rfl | rfl | rfl
    · exact Http.normalizePath_keeps_segment hseg [[], "session".toList] [] (by decide)
        (by simp [List.intercalate_cons_cons])
    · exact Http.normalizePath_keeps_segment hseg [[], "session".toList] ["abort".toList]
        (by decide) (by simp [List.intercalate_cons_cons])
    · exact Http.normalizePath_keeps_segment hseg [[], "session".toList] ["message".toList]
        (by decide) (by simp [List.intercalate_cons_cons])
    · exact Http.normalizePath_keeps_segment hseg [[], "permission".toList] [] (by decide)
        (by simp [List.intercalate_cons_cons])

/-- An id with a slash, as the tests send it, stays one segment, `a%2Fb`, in every path. -/
theorem paths_keep_id_slash :
    Utf8.encode "a/b" = .ok [0x61, 0x2F, 0x62] ∧
      (Text.codePoints "a/b".toList ≠ [0x2E] ∧ Text.codePoints "a/b".toList ≠ [0x2E, 0x2E]) ∧
      ({ requestId := "a/b" } : PermissionReply).requestId = "a/b" ∧
      ∃ seg, Http.Escaped seg.toList ∧
        Text.codePoints (Http.unescape seg).toList = Text.codePoints "a/b".toList ∧
        (Operation.getSession "a/b").target = .ok ("/session/" ++ seg) ∧
        (Operation.deleteSession "a/b").target = .ok ("/session/" ++ seg) ∧
        (Operation.abortSession "a/b").target = .ok ("/session/" ++ seg ++ "/abort") ∧
        (Operation.sendMessage "a/b" .null .null .null).target =
          .ok ("/session/" ++ seg ++ "/message") ∧
        (Operation.getMessages "a/b" .null).target =
          .ok ("/session/" ++ seg ++ "/message" ++ limitQuery .null) ∧
        (Operation.replyPermission { requestId := "a/b" }).target = .ok ("/permission/" ++ seg) ∧
        ∀ path ∈ ["/session/" ++ seg, "/session/" ++ seg ++ "/abort",
          "/session/" ++ seg ++ "/message", "/permission/" ++ seg], Http.normalizePath path = path := by
  have hs : Utf8.encode "a/b" = .ok [0x61, 0x2F, 0x62] := by decide +kernel
  have hdot : Text.codePoints "a/b".toList ≠ [0x2E] ∧ Text.codePoints "a/b".toList ≠ [0x2E, 0x2E] :=
    by decide +kernel
  exact ⟨hs, hdot, rfl, paths_keep_id "a/b" _ hs hdot .null .null .null .null { requestId := "a/b" } rfl⟩

end Operation

/-- The session `..` is named by the segment `..`, which resolving dot-segments removes with the
segment before it: a transport to `127.0.0.1:4096` sends the delete to the server's root. -/
theorem deleteSession_parent :
    (Operation.deleteSession "..").target = .ok "/session/.." ∧
      Http.normalizePath "/session/.." = "" ∧
      ((Http.Transport.make .reference "127.0.0.1" 4096 none none none).toOption.bind fun t =>
        (t.prepare .delete "/session/.." [] none).toOption.map fun req => req.url.rawPath) =
        some "/" :=
  ⟨by decide +kernel, by decide +kernel, by decide +kernel⟩

end AgentLink
