import Mathlib
import AgentLink.Http.Library
import AgentLink.Proofs.Http.Percent
import AgentLink.Proofs.Text.Integer

/-!
# What the reference library refuses

The theorems about transports take the HTTP library as a parameter and assume of it the
refusals its documentation names (`Http.Library.Refusals`). The library the transport was tested
with meets them (`Http.Library.reference_refusals`).

The hard part is the lone surrogate. A target the reference library cannot encode has one: the
reader refuses only such a text (`Http.Url.parse_unencodable`), and resolving a URL it read
against the base of a client never fails to encode. That holds because every URL the reader
writes is canonical (`Http.Url.Canonical`): its user part, path, query and fragment are
percent-encoded ASCII, and its host is ASCII, the Punycode of a name included
(`Punycode.encode_ascii`), or an address kept as written, which holds no `@`. So the user part
read back from its authority is ASCII (`Http.Url.Canonical.user_ascii`), and so is every other
part of the URL a base and a reference are joined into (`Http.Url.Canonical.join_ne_unencodable`).
-/

namespace AgentLink

/-! ## Lists -/

/-- A point of a list joined by a single separator is the separator or a point of one of the
joined lists. -/
theorem mem_intercalate_singleton {α : Type} {x a : α} :
    ∀ {ws : List (List α)}, a ∈ [x].intercalate ws → a = x ∨ ∃ w ∈ ws, a ∈ w
  | [], h => by simp at h
  | [w], h => .inr ⟨w, List.mem_singleton_self w, by simpa using h⟩
  | w :: w' :: ws, h => by
    rw [List.intercalate_cons_cons] at h
    simp only [List.mem_append, List.mem_singleton] at h
    rcases h with (h | h) | h
    · exact .inr ⟨w, List.mem_cons_self, h⟩
    · exact .inl h
    · rcases mem_intercalate_singleton h with h | ⟨v, hv, ha⟩
      · exact .inl h
      · exact .inr ⟨v, List.mem_cons_of_mem w hv, ha⟩

theorem mem_of_mapM_eq_some {α β : Type} {f : α → Option β} :
    ∀ {xs : List α} {ys : List β}, xs.mapM f = some ys → ∀ y ∈ ys, ∃ x ∈ xs, f x = some y
  | [], ys, h => by
    cases h
    simp
  | x :: xs, ys, h => by
    simp only [List.mapM_cons, Option.bind_eq_bind, Option.bind_eq_some_iff, Option.pure_def,
      Option.some.injEq] at h
    obtain ⟨y, hy, ys', hys, rfl⟩ := h
    intro z hz
    rcases List.mem_cons.1 hz with rfl | hz
    · exact ⟨x, List.mem_cons_self, hy⟩
    · obtain ⟨w, hw, hfw⟩ := mem_of_mapM_eq_some hys z hz
      exact ⟨w, List.mem_cons_of_mem x hw, hfw⟩

/-! ## Punycode writes ASCII -/

namespace Punycode

/-- A digit below 36 is an ASCII letter or decimal digit. -/
theorem digitChar_ascii {d : Nat} (h : d < 36) : (digitChar d).toNat < 0x80 := by
  unfold digitChar
  split
  · exact Http.ofNat_ascii (by omega)
  · exact Http.ofNat_ascii (by omega)

theorem encodeNumber_ascii (bias k q : Nat) : ∀ c ∈ encodeNumber bias k q, c.toNat < 0x80 := by
  fun_induction encodeNumber bias k q with
  | case1 k q t hq =>
    have hle : t ≤ 26 := threshold_le k bias
    intro c hc
    rw [List.mem_singleton] at hc
    subst hc
    exact digitChar_ascii (by omega)
  | case2 k q t hq ih =>
    intro c hc
    rcases List.mem_cons.1 hc with rfl | hc
    · -- a digit that is not the last: the threshold plus a remainder below `36 - t`
      have hle : t ≤ 26 := threshold_le k bias
      have hmod : (q - t) % (36 - t) < 36 - t := Nat.mod_lt _ (by omega)
      exact digitChar_ascii (by omega)
    · exact ih c hc

/-- What an encoding has written is ASCII. -/
def Encoding.Ascii (e : Encoding) : Prop :=
  ∀ c ∈ e.out, c.toNat < 0x80

theorem Encoding.Ascii.pass {e : Encoding} (he : e.Ascii) (basic m : Nat) (c : Char) :
    (Punycode.pass basic m e c).Ascii := by
  unfold Punycode.pass
  split
  · exact he
  · split
    · intro d hd
      rcases List.mem_append.1 hd with hd | hd
      · exact he d hd
      · exact encodeNumber_ascii _ _ _ d hd
    · exact he

/-- Passing over the text writes only ASCII. -/
theorem Encoding.Ascii.foldl_pass (basic m : Nat) :
    ∀ (text : List Char) {e : Encoding}, e.Ascii → (text.foldl (Punycode.pass basic m) e).Ascii
  | [], _, he => he
  | c :: text, _, he => Encoding.Ascii.foldl_pass basic m text (he.pass basic m c)

/-- Inserting the code points one after another writes only ASCII. -/
theorem Encoding.Ascii.insertAll (text : List Char) (basic : Nat) :
    ∀ (ms : List Nat) (n : Nat) {e : Encoding}, e.Ascii → (Punycode.insertAll text basic ms n e).Ascii
  | [], _, _, he => he
  | m :: ms, n, _, he => by
    unfold Punycode.insertAll
    exact Encoding.Ascii.insertAll text basic ms (m + 1) (Encoding.Ascii.foldl_pass basic m text he)

/-- The Punycode of any text is ASCII. -/
theorem encode_ascii (text : List Char) : ∀ c ∈ (encode text).toList, c.toNat < 0x80 := by
  have digits := Encoding.Ascii.insertAll text (text.filter (·.toNat < 0x80)).length
    (ordered ((text.filter (0x80 ≤ ·.toNat)).map Char.toNat)) 0x80
    (e := { out := [], delta := 0, bias := 72, placed := (text.filter (·.toNat < 0x80)).length })
    (fun _ h => absurd h List.not_mem_nil)
  intro c hc
  simp only [encode, String.toList_ofList, List.mem_append] at hc
  rcases hc with (hc | hc) | hc
  · simpa using (List.mem_filter.1 hc).2
  · split at hc
    · cases hc
    · rw [List.mem_singleton] at hc
      subst hc
      decide
  · exact digits c hc

end Punycode

/-! ## The ASCII form of a host name -/

namespace Idna

/-- The ASCII form of a label is ASCII: the label itself, or `xn--` and Punycode. -/
theorem labelToAscii_ascii {label out : List Nat} (h : labelToAscii label = some out) :
    ∀ n ∈ out, n < 0x80 := by
  unfold labelToAscii at h
  rw [Option.filter_eq_some_iff] at h
  obtain ⟨h, -⟩ := h
  split_ifs at h with hascii hallowed
  · split at h
    · cases h
      simpa using hascii
    · cases h
  · cases h
    intro n hn
    rcases List.mem_append.1 hn with hn | hn
    · simp only [acePrefix, List.mem_cons, List.not_mem_nil, or_false] at hn
      omega
    · obtain ⟨c, hc, rfl⟩ := List.mem_map.1 hn
      exact Punycode.encode_ascii _ c hc

/-- The ASCII form of a host name is ASCII. -/
theorem toAscii_ascii {host name : String} (h : toAscii host = some name) :
    ∀ c ∈ name.toList, c.toNat < 0x80 := by
  unfold toAscii at h
  simp only [Option.bind_eq_bind, Option.bind_eq_some_iff] at h
  obtain ⟨⟨labels, trailing⟩, -, encoded, hmap, hname⟩ := h
  rw [Option.ite_none_right_eq_some, Option.some.injEq] at hname
  obtain ⟨-, rfl⟩ := hname
  have wordsAscii : ∀ l ∈ encoded, ∀ n ∈ l, n < 0x80 := fun l hl => by
    obtain ⟨label, -, hl⟩ := mem_of_mapM_eq_some hmap l hl
    exact labelToAscii_ascii hl
  intro c hc
  simp only [String.toList_append, String.toList_intercalate, List.mem_append,
    show ".".toList = ['.'] from rfl] at hc
  rcases hc with hc | hc
  · -- a dot between labels, or a character of a label
    rcases mem_intercalate_singleton hc with rfl | ⟨w, hw, hc⟩
    · decide
    · simp only [List.map_map, List.mem_map, Function.comp_apply, String.toList_ofList] at hw
      obtain ⟨l, hl, rfl⟩ := hw
      obtain ⟨n, hn, rfl⟩ := List.mem_map.1 hc
      exact Http.ofNat_ascii (wordsAscii l hl n hn)
  · -- the trailing dot
    split at hc
    · rw [List.mem_singleton.1 hc]
      decide
    · cases hc

end Idna

/-! ## Texts beyond ASCII -/

namespace Text

/-- The first run beyond ASCII starts at a code point beyond ASCII. -/
theorem firstWide_some {ns : List Nat} {pos : Nat} {e : AsciiError}
    (h : firstWide ns pos = some e) : ∃ n ∈ ns, ¬ n < 0x80 := by
  induction ns generalizing pos with
  | nil => cases h
  | cons n ns ih =>
    unfold firstWide at h
    split at h
    · obtain ⟨m, hm, hw⟩ := ih h
      exact ⟨m, List.mem_cons_of_mem n hm, hw⟩
    · next hw => exact ⟨n, List.mem_cons_self, hw⟩

theorem checkAscii_error {s : String} {e : AsciiError} (h : Text.checkAscii s = .error e) :
    Text.isAscii s = false := by
  unfold Text.checkAscii at h
  split at h
  · cases h
  · next hw =>
    obtain ⟨n, hn, wide⟩ := firstWide_some hw
    unfold Text.isAscii
    rw [List.all_eq_false]
    exact ⟨n, hn, by simpa using wide⟩

end Text

namespace Http

open Text

/-! ## Percent-encoded parts -/

theorem bind_eq_ok_iff {ε α β : Type} {x : Except ε α} {f : α → Except ε β} {b : β} :
    (x >>= f) = .ok b ↔ ∃ a, x = .ok a ∧ f a = .ok b := by
  cases x <;> simp [bind, Except.bind]

/-- What percent-encoding a text writes is ASCII. -/
theorem encodeText_ascii {safe : Char → Bool} {s out : String} (h : encodeText safe s = .ok out) :
    ∀ c ∈ out.toList, c.toNat < 0x80 :=
  encodeKeeping_ascii (mapError_eq_ok.1 h)

/-! ## The parts of an authority -/

/-- The user part of an authority's characters, up to its last `@`, and what follows it. -/
def userAndRest (cs : List Char) : String × List Char :=
  match cs.reverse.findIdx? (· == '@') with
  | some i => (String.ofList (cs.take (cs.length - 1 - i)), cs.drop (cs.length - i))
  | none => ("", cs)

/-- The host of what follows the user part, a bracketed address or up to the first colon, and
what follows it. -/
def hostAndAfter (rest : List Char) : List Char × List Char :=
  match rest with
  | '[' :: _ =>
    match rest.reverse.findIdx? (· == ']') with
    | some i => (rest.take (rest.length - i), rest.drop (rest.length - i))
    | none =>
      let h := rest.takeWhile (· != ':')
      (h, rest.drop h.length)
  | _ =>
    let h := rest.takeWhile (· != ':')
    (h, rest.drop h.length)

theorem splitAuthority_user (a : String) : (splitAuthority a).1 = (userAndRest a.toList).1 :=
  rfl

theorem splitAuthority_host (a : String) :
    (splitAuthority a).2.1 = String.ofList (hostAndAfter (userAndRest a.toList).2).1 :=
  rfl

/-- What follows the last `@` holds none. -/
theorem userAndRest_no_at (cs : List Char) : '@' ∉ (userAndRest cs).2 := by
  unfold userAndRest
  cases hi : cs.reverse.findIdx? (· == '@') with
  | none =>
    rw [List.findIdx?_eq_none_iff] at hi
    intro h
    simpa using hi '@' (List.mem_reverse.2 h)
  | some i => exact (split_at_last hi).2

/-- The host is cut from what follows the user part. -/
theorem hostAndAfter_subset {rest : List Char} {c : Char} (h : c ∈ (hostAndAfter rest).1) :
    c ∈ rest := by
  unfold hostAndAfter at h
  split at h
  · split at h
    · exact List.mem_of_mem_take h
    · exact List.takeWhile_subset (· != ':') h
  · exact List.takeWhile_subset (· != ':') h

theorem splitAuthority_host_no_at (a : String) : '@' ∉ (splitAuthority a).2.1.toList := by
  rw [splitAuthority_host, String.toList_ofList]
  exact fun h => userAndRest_no_at _ (hostAndAfter_subset h)

/-- The user part of characters `xs` and then `ys` with no `@` lies in `xs`. -/
theorem userAndRest_user_mem {xs ys : List Char} (hys : '@' ∉ ys) {c : Char}
    (hc : c ∈ (userAndRest (xs ++ ys)).1.toList) : c ∈ xs := by
  unfold userAndRest at hc
  cases hi : (xs ++ ys).reverse.findIdx? (· == '@') with
  | none =>
    rw [hi] at hc
    cases hc
  | some i =>
    simp only [hi, String.toList_ofList] at hc
    have hi_lt := (List.findIdx?_eq_some_iff_getElem.1 hi).1
    rw [List.length_reverse] at hi_lt
    obtain ⟨whole, -⟩ := split_at_last hi
    -- the last `@` stands before `ys`, which holds none
    have hk : (xs ++ ys).length - 1 - i < xs.length := by
      by_contra hk
      apply hys
      have found : '@' ∈ (xs ++ ys).drop xs.length := by
        rw [whole, List.drop_append_of_le_length (by rw [List.length_take]; omega)]
        simp
      simpa using found
    rw [List.take_append_of_le_length hk.le] at hc
    exact List.mem_of_mem_take hc

/-! ## Hosts -/

theorem encodeHost_canonical {host out : String} (hat : '@' ∉ host.toList)
    (h : encodeHost host = .ok out) : (∀ c ∈ out.toList, c.toNat < 0x80) ∨ '@' ∉ out.toList := by
  unfold encodeHost at h
  dsimp only at h
  split_ifs at h
  · cases h
    exact .inr (by simp)
  · cases h
    exact .inr hat
  · -- the address between the brackets
    cases h
    rw [String.toList_ofList]
    exact .inr fun hm => hat (List.mem_of_mem_drop (List.mem_of_mem_dropLast hm))
  · exact .inl (encodeText_ascii h)
  · split at h
    · cases h
      exact .inl (Idna.toAscii_ascii ‹_›)
    · cases h

/-! ## Canonical URLs -/

/-- A URL as the reader writes it: its user part, path, query and fragment are percent-encoded,
so ASCII, and its host is ASCII or, as an address kept as it was written, holds no `@`. -/
structure Url.Canonical (u : Url) : Prop where
  userinfo : ∀ c ∈ u.userinfo.toList, c.toNat < 0x80
  host : (∀ c ∈ u.host.toList, c.toNat < 0x80) ∨ '@' ∉ u.host.toList
  path : ∀ c ∈ u.path.toList, c.toNat < 0x80
  query : ∀ q ∈ u.query, ∀ c ∈ q.toList, c.toNat < 0x80
  fragment : ∀ f ∈ u.fragment, ∀ c ∈ f.toList, c.toNat < 0x80

/-- An optional part, when there is one, is percent-encoded. -/
theorem encoded_ascii {safe : Char → Bool} {s : String} {r : Option String}
    (h : some <$> encodeText safe s = .ok r) : ∀ x ∈ r, ∀ c ∈ x.toList, c.toNat < 0x80 := by
  obtain ⟨out, hout, rfl⟩ := map_eq_ok h
  intro x hx
  cases hx
  exact encodeText_ascii hout

/-- An absent part stays absent. -/
theorem absent_ascii {r : Option String} (h : (pure none : Except UrlError (Option String)) = .ok r) :
    ∀ x ∈ r, ∀ c ∈ x.toList, c.toNat < 0x80 := by
  cases h
  simp

theorem Parts.build_canonical {p : Parts} {u : Url} (h : p.build = .ok u) : u.Canonical := by
  rcases ha : splitAuthority p.authority with ⟨user, host, port⟩
  have hat : '@' ∉ host.toList := by
    have := splitAuthority_host_no_at p.authority
    rwa [ha] at this
  simp only [Parts.build, ha, bind_eq_ok_iff] at h
  obtain ⟨userinfo, hu, host', hh, port', -, -, -, path, hp, hrest⟩ := h
  -- a query and a fragment are encoded when there is one
  obtain ⟨query, hq, fragment, hf, rfl⟩ : ∃ query : Option String,
      (∀ q ∈ query, ∀ c ∈ q.toList, c.toNat < 0x80) ∧ ∃ fragment : Option String,
      (∀ f ∈ fragment, ∀ c ∈ f.toList, c.toNat < 0x80) ∧
      u = { scheme := String.ofList (p.scheme.toList.map Char.toLower), userinfo := userinfo,
            host := host', port := port', path := path, query := query, fragment := fragment } := by
    rcases hq : p.query with _ | q <;> rcases hf : p.fragment with _ | f <;>
      simp only [hq, hf, bind_eq_ok_iff] at hrest <;>
      obtain ⟨query, hq', fragment, hf', hu⟩ := hrest <;>
      cases hu <;>
      refine ⟨query, ?_, fragment, ?_, rfl⟩
    all_goals first
      | exact encoded_ascii hq'
      | exact encoded_ascii hf'
      | exact absent_ascii hq'
      | exact absent_ascii hf'
  exact
    { userinfo := encodeText_ascii hu, host := encodeHost_canonical hat hh,
      path := encodeText_ascii hp, query := hq, fragment := hf }

theorem Url.parse_canonical {s : String} {u : Url} (h : Url.parse s = .ok u) : u.Canonical := by
  unfold Url.parse at h
  split_ifs at h
  split at h
  · cases h
  · exact Parts.build_canonical h

theorem Url.withRawPath_canonical {u v : Url} {raw : String} (h : u.withRawPath raw = .ok v) :
    v.Canonical :=
  Parts.build_canonical h

theorem Url.Canonical.asBase {u v : Url} (hu : u.Canonical) (h : u.asBase = .ok v) :
    v.Canonical := by
  unfold Url.asBase at h
  split_ifs at h
  · cases h
    exact hu
  · exact Url.withRawPath_canonical h

/-- A written integer is ASCII, and no `@`. -/
theorem toString_int_char {p : Int} {c : Char} (hc : c ∈ (toString p).toList) :
    c.toNat < 0x80 ∧ c ≠ '@' := by
  rw [Integer.toList_toString, List.mem_append] at hc
  rcases hc with hc | hc
  · split at hc
    · rw [List.mem_singleton.1 hc]
      decide
    · cases hc
  · rw [← Nat.toList_repr, ← Nat.toString_eq_repr] at hc
    exact Integer.toString_forall (P := fun c => c.toNat < 0x80 ∧ c ≠ '@') (by decide) hc

/-- The host and port as a request names them: the host's characters, and others that are
ASCII and no `@`. -/
theorem Url.netloc_char {u : Url} {c : Char} (hc : c ∈ u.netloc.toList) :
    c ∈ u.host.toList ∨ (c.toNat < 0x80 ∧ c ≠ '@') := by
  unfold Url.netloc at hc
  simp only [String.toList_append, List.mem_append] at hc
  rcases hc with hc | hc
  · split at hc
    · -- the host in brackets
      simp only [String.toList_append, List.mem_append, show "[".toList = ['['] from rfl,
        show "]".toList = [']'] from rfl, List.mem_singleton] at hc
      rcases hc with (rfl | hc) | rfl
      · exact .inr (by decide)
      · exact .inl hc
      · exact .inr (by decide)
    · exact .inl hc
  · split at hc
    · simp only [String.toList_append, List.mem_append, show ":".toList = [':'] from rfl,
        List.mem_singleton] at hc
      rcases hc with rfl | hc
      · exact .inr (by decide)
      · exact .inr (toString_int_char hc)
    · cases hc

/-- The user part of an authority with its `@`, as the authority starts. -/
def Url.userPrefix (u : Url) : List Char :=
  if u.userinfo.isEmpty then [] else u.userinfo.toList ++ ['@']

theorem Url.toList_authority (u : Url) : u.authority.toList = u.userPrefix ++ u.netloc.toList := by
  unfold Url.authority Url.userPrefix
  split <;> simp

theorem Url.Canonical.userPrefix_ascii {u : Url} (hu : u.Canonical) :
    ∀ c ∈ u.userPrefix, c.toNat < 0x80 := by
  intro c hc
  unfold Url.userPrefix at hc
  split at hc
  · cases hc
  · rcases List.mem_append.1 hc with hc | hc
    · exact hu.userinfo c hc
    · rw [List.mem_singleton.1 hc]
      decide

/-- The user part read back from the authority of a canonical URL is ASCII: the last `@` is the
one after the user part, unless the host is ASCII and the whole authority with it. -/
theorem Url.Canonical.user_ascii {u : Url} (hu : u.Canonical) :
    ∀ c ∈ (splitAuthority u.authority).1.toList, c.toNat < 0x80 := by
  intro c hc
  rw [splitAuthority_user, Url.toList_authority] at hc
  rcases hu.host with ascii | free
  · have whole : c ∈ u.userPrefix ++ u.netloc.toList :=
      userAndRest_user_mem List.not_mem_nil (by rwa [List.append_nil])
    rcases List.mem_append.1 whole with h | h
    · exact hu.userPrefix_ascii c h
    · rcases Url.netloc_char h with h | h
      · exact ascii c h
      · exact h.1
  · have noAt : '@' ∉ u.netloc.toList := fun h => by
      rcases Url.netloc_char h with h | h
      · exact free h
      · exact h.2 rfl
    exact hu.userPrefix_ascii c (userAndRest_user_mem noAt hc)

theorem Url.Canonical.rawPath_ascii {u : Url} (hu : u.Canonical) :
    ∀ c ∈ u.rawPath.toList, c.toNat < 0x80 := by
  intro c hc
  unfold Url.rawPath at hc
  simp only [String.toList_append, List.mem_append] at hc
  rcases hc with hc | hc
  · split at hc
    · rw [show "/".toList = ['/'] from rfl, List.mem_singleton] at hc
      rw [hc]
      decide
    · exact hu.path c hc
  · split at hc
    · next q hq =>
      simp only [String.toList_append, List.mem_append, show "?".toList = ['?'] from rfl,
        List.mem_singleton] at hc
      rcases hc with rfl | hc
      · decide
      · exact hu.query q hq c hc
    · cases hc

/-- The path and the query of a raw path are cut from it. -/
theorem splitRawPath_mem {raw : String} {c : Char} :
    (c ∈ (splitRawPath raw).1.toList → c ∈ raw.toList) ∧
      ∀ q ∈ (splitRawPath raw).2, c ∈ q.toList → c ∈ raw.toList := by
  unfold splitRawPath
  dsimp only
  split
  · next q hq =>
    refine ⟨fun hc => ?_, fun q' hq' hc => ?_⟩
    · rw [String.toList_ofList] at hc
      exact List.takeWhile_subset _ hc
    · cases hq'
      rw [String.toList_ofList] at hc
      exact List.mem_of_mem_drop (hq ▸ List.mem_cons_of_mem '?' hc)
  · refine ⟨fun hc => ?_, fun q' hq' _ => by cases hq'⟩
    rw [String.toList_ofList] at hc
    exact List.takeWhile_subset _ hc

/-- A canonical URL with an ASCII raw path in place of its own is never refused as
unencodable. -/
theorem Url.Canonical.withRawPath_ne_unencodable {u : Url} (hu : u.Canonical) {raw : String}
    (hraw : ∀ c ∈ raw.toList, c.toNat < 0x80) (e : Utf8.EncodeError) :
    u.withRawPath raw ≠ .error (.unencodable e) := by
  intro h
  rcases Parts.build_unencodable h with h | h | ⟨q, hq, h⟩ | ⟨f, hf, h⟩
  · exact not_hasLone_of_ascii hu.user_ascii h
  · exact not_hasLone_of_ascii (fun c hc => hraw c (splitRawPath_mem.1 hc)) h
  · exact not_hasLone_of_ascii (fun c hc => hraw c (splitRawPath_mem.2 q hq hc)) h
  · exact not_hasLone_of_ascii (hu.fragment f hf) h

/-- Resolving a canonical reference against a canonical base is never refused as
unencodable. -/
theorem Url.Canonical.join_ne_unencodable {base ref : Url} (hb : base.Canonical)
    (hr : ref.Canonical) (e : Utf8.EncodeError) : base.join ref ≠ .error (.unencodable e) := by
  intro h
  unfold Url.join at h
  split_ifs at h
  · refine hb.withRawPath_ne_unencodable (fun c hc => ?_) e h
    simp only [String.toList_append, String.toList_ofList, List.mem_append] at hc
    rcases hc with hc | hc
    · exact hb.rawPath_ascii c hc
    · exact hr.rawPath_ascii c (List.dropWhile_subset _ hc)

/-! ## Headers -/

theorem Headers.has_append (hs hs' : Headers) (name : String) :
    (hs ++ hs').has name = (hs.has name || hs'.has name) :=
  List.any_append

/-- A name of the newer headers is one of those an update gives. -/
theorem Headers.has_update_newer {hs newer : Headers} {name : String} (h : newer.has name = true) :
    (Headers.update hs newer).has name = true := by
  unfold Headers.update
  rw [Headers.has_append, h, Bool.or_true]

theorem Headers.has_setDefault {hs : Headers} {name name' value : String}
    (h : hs.has name = true) : (hs.setDefault name' value).has name = true := by
  unfold Headers.setDefault
  split
  · exact h
  · rw [Headers.has_append, h, Bool.true_or]

/-- Headers fail the ASCII check only for a name or a value beyond ASCII. -/
theorem Headers.checkAscii_error :
    ∀ {hs : Headers} {e : AsciiError}, Headers.checkAscii hs = .error e →
      ∃ h ∈ hs, Text.isAscii h.1 = false ∨ Text.isAscii h.2 = false
  | [], _, h => by cases h
  | (n, v) :: hs, e, h => by
    simp only [Headers.checkAscii, bind_eq_error_iff] at h
    rcases h with h | ⟨_, -, h | ⟨_, -, h⟩⟩
    · exact ⟨(n, v), List.mem_cons_self, .inl (Text.checkAscii_error h)⟩
    · exact ⟨(n, v), List.mem_cons_self, .inr (Text.checkAscii_error h)⟩
    · obtain ⟨x, hx, wide⟩ := Headers.checkAscii_error h
      exact ⟨x, List.mem_cons_of_mem _ hx, wide⟩

/-! ## The reference library -/

namespace Library

theorem referencePrepare_error {base : Url} {credentials : Option (String × String)} {m : Method}
    {target : String} {headers : Headers} {content : Option String} {e : BuildError}
    (h : referencePrepare base credentials m target headers content = .error e) :
    (∃ e', referenceResolve base target = .error e' ∧ e = buildErrorOfUrl e') ∨
      (∃ a, Headers.checkAscii headers = .error a ∧ e = .ascii a) ∨
      (headers.has "host" = false ∧ ∃ url, referenceResolve base target = .ok url ∧
        url.host.startsWith "xn--" = true ∧ ∃ d, Idna.toUnicode url.host = .error d ∧ e = .idna d) := by
  unfold referencePrepare at h
  simp only [bind_eq_error_iff] at h
  rcases h with h | ⟨url, hurl, h | ⟨-, -, h⟩⟩
  · obtain ⟨e', he', rfl⟩ := mapError_eq_error.1 h
    exact .inl ⟨e', he', rfl⟩
  · obtain ⟨a, ha, rfl⟩ := mapError_eq_error.1 h
    exact .inr (.inl ⟨a, ha, rfl⟩)
  · rw [ite_eq_iff] at h
    rcases h with ⟨hidna, h⟩ | ⟨-, h⟩
    · rcases bind_eq_error_iff.1 h with h | ⟨_, _, h⟩
      · obtain ⟨d, hd, rfl⟩ := mapError_eq_error.1 (map_eq_error h)
        simp only [Bool.and_eq_true, Bool.not_eq_true'] at hidna
        -- the request's own headers are among those the library sends
        have noHost : headers.has "host" = false := by
          cases hh : headers.has "host"
          · rfl
          · have sent : (Headers.update defaultHeaders headers).has "host" = true :=
              Headers.has_update_newer hh
            cases content with
            | some c =>
              rw [Headers.has_setDefault sent] at hidna
              exact absurd hidna.1 (by decide)
            | none =>
              rw [sent] at hidna
              exact absurd hidna.1 (by decide)
        exact .inr (.inr ⟨noHost, url, mapError_eq_ok.1 hurl, hidna.2, d, hd, rfl⟩)
      · cases h
    · cases h

/-- A target that is no URL is a build error of its own only for a lone surrogate. -/
theorem buildErrorOfUrl_cases (e : UrlError) :
    buildErrorOfUrl e = .url e ∨ ∃ x, e = .unencodable x ∧ buildErrorOfUrl e = .unencodable x := by
  cases e <;> simp [buildErrorOfUrl]

/-- The base URL of a client is canonical. -/
theorem referenceClient_canonical {text : String} {credentials : Option (String × String)}
    {base : Url} (h : referenceClient text credentials = .ok base) : base.Canonical := by
  unfold referenceClient at h
  -- whatever the credentials, the base is the text read, with a slash at the end of its path
  have read : (Url.parse text >>= Url.asBase).mapError SetupError.url = .ok base := by
    cases credentials with
    | none =>
      simp only at h
      exact h
    | some c =>
      simp only [bind_eq_ok_iff] at h
      obtain ⟨_, -, _, -, h⟩ := h
      exact h
  obtain ⟨u, hu, hb⟩ := bind_eq_ok_iff.1 (mapError_eq_ok.1 read)
  exact (Url.parse_canonical hu).asBase hb

/-- A target the library resolves against the base of a client is refused as unencodable only
for a lone surrogate. -/
theorem referenceResolve_unencodable {base : Url} (hb : base.Canonical) {target : String}
    {e : Utf8.EncodeError} (h : referenceResolve base target = .error (.unencodable e)) :
    HasLone target.toList := by
  unfold referenceResolve at h
  rcases bind_eq_error_iff.1 h with h | ⟨ref, href, h⟩
  · exact Url.parse_unencodable h
  · exact absurd h (hb.join_ne_unencodable (Url.parse_canonical href) e)

/-- The reference library refuses only what the library documents. -/
theorem reference_refusals : Library.reference.Refusals where
  ascii := by
    intro text credentials base m target hs content e _ h
    rcases referencePrepare_error h with ⟨e', -, he⟩ | ⟨a, ha, -⟩ | ⟨_, _, _, _, _, _, he⟩
    · rcases buildErrorOfUrl_cases e' with h' | ⟨x, -, h'⟩ <;> rw [h'] at he <;> cases he
    · exact Headers.checkAscii_error ha
    · cases he
  unencodable := by
    intro text credentials base m target hs content e hc h
    rcases referencePrepare_error h with ⟨e', he', he⟩ | ⟨a, -, he⟩ | ⟨_, _, _, _, _, _, he⟩
    · rcases buildErrorOfUrl_cases e' with h' | ⟨x, rfl, h'⟩ <;> rw [h'] at he
      · cases he
      · cases he
        exact (Utf8.encode_error_iff target).2
          (referenceResolve_unencodable (referenceClient_canonical hc) he')
    · cases he
    · cases he
  idna := by
    intro text credentials base m target hs content e _ h
    rcases referencePrepare_error h with ⟨e', -, he⟩ | ⟨a, -, he⟩ | ⟨noHost, url, hurl, hace, d, hd, he⟩
    · rcases buildErrorOfUrl_cases e' with h' | ⟨x, -, h'⟩ <;> rw [h'] at he <;> cases he
    · cases he
    · cases he
      exact ⟨noHost, url, hurl, hace, hd⟩

end Library

end Http

end AgentLink
