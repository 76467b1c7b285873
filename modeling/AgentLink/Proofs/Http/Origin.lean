import Mathlib
import AgentLink.Client.Connect
import AgentLink.Proofs.Text.Integer

/-!
# The origin of a base URL

A client given a base URL talks to the server the URL names (`transportFor_origin`). For a
scheme `http` or `https` in lower case, a host name, and a port or none, the base of its transport
is `http://host:port`, with the scheme's port, 80 or 443, when the URL names none. The scheme
goes no further than that port: a transport always speaks plain HTTP, and a scheme in any other
case is not recognised, so that the client falls back to `127.0.0.1:4096`
(`transportFor_plain_http`).

Two readings of the URL carry it:

* `Http.hostAndPort_origin`: the host runs up to the colon or slash that ends it, and the port
  is the run of digits after the colon;
* `Http.parse_origin`: `http://host:port` is read in full as a URL by the reference library,
  since all its characters are visible ASCII, those of a host name stand for themselves under
  percent-encoding, and the port is a number the integer reader takes. So the reference library
  takes host names (`Http.Library.reference_takesHostNames`), and through any library that does
  the transport is made (`Http.make_origin`).
-/

namespace AgentLink.Http

open AgentLink.Text

/-! ## Visible ASCII -/

/-- What holds of each of the 128 ASCII characters holds of every ASCII character. -/
theorem ascii_forall {P : Char → Prop} (h : ∀ n, n < 0x80 → P (Char.ofNat n)) (c : Char)
    (hc : c.toNat < 0x80) : P c := by
  have := h c.toNat hc
  rwa [Char.ofNat_toNat] at this

/-- A visible ASCII character is neither beyond ASCII nor a control character. -/
theorem isVisibleAscii_toNat {c : Char} (h : isVisibleAscii c = true) :
    c.toNat < 0x80 ∧ 0x20 ≤ c.toNat ∧ c.toNat ≠ 0x7F := by
  simp only [isVisibleAscii, Bool.and_eq_true, decide_eq_true_eq] at h
  omega

/-- An ASCII text stands for the code points of its characters. -/
theorem codePoints_ascii : ∀ cs : List Char, (∀ c ∈ cs, c.toNat < 0x80) →
    codePoints cs = cs.map Char.toNat
  | [], _ => rfl
  | c :: cs, h => by
    have hc := h c (List.mem_cons_self ..)
    have hne : c ≠ escapeMark := by
      rintro rfl
      rw [escapeMark_toNat, escapeMarkCode] at hc
      omega
    have hplain : needsMark c.toNat = false := by
      have low : ¬ carrierOffset ≤ c.toNat := by
        simp only [carrierOffset]
        omega
      simp only [needsMark, low, decide_false, Bool.false_and, Bool.false_or, beq_eq_false_iff_ne,
        escapeMarkCode]
      omega
    rw [codePoints_plain c hne, codeOf_plain c hplain,
      codePoints_ascii cs (fun d hd => h d (List.mem_cons_of_mem c hd)), List.map_cons]

/-- Code points that are no ASCII control characters hold none. -/
theorem firstControl_printable : ∀ (ns : List Nat) (i : Nat), (∀ n ∈ ns, 0x20 ≤ n ∧ n ≠ 0x7F) →
    firstControl ns i = none
  | [], _, _ => rfl
  | n :: ns, i, h => by
    have hn := h n (List.mem_cons_self ..)
    have hctl : (n < 0x20 || n == 0x7F) = false := by
      simp only [Bool.or_eq_false_iff, decide_eq_false_iff_not, beq_eq_false_iff_ne]
      omega
    rw [firstControl, hctl, if_neg Bool.false_ne_true]
    exact firstControl_printable ns (i + 1) (fun m hm => h m (List.mem_cons_of_mem n hm))

/-- A text of visible ASCII is no longer than its characters, and holds no control character. -/
theorem visible_text {cs : List Char} (h : ∀ c ∈ cs, isVisibleAscii c = true) :
    (codePoints cs).length = cs.length ∧ firstControl (codePoints cs) 0 = none := by
  have points := codePoints_ascii cs fun c hc => (isVisibleAscii_toNat (h c hc)).1
  refine ⟨by rw [points, List.length_map], ?_⟩
  rw [points]
  refine firstControl_printable _ 0 fun n hn => ?_
  obtain ⟨c, hc, rfl⟩ := List.mem_map.1 hn
  exact (isVisibleAscii_toNat (h c hc)).2

/-- Code points that each stand for themselves, none of them a `%`, are written as they are. -/
theorem encodeKeeping_kept (safe : Char → Bool) (ns : List Nat)
    (h : ∀ n ∈ ns, n ≠ 37 ∧ keeps safe n = true) :
    encodeKeeping safe ns = .ok (String.ofList (ns.map Char.ofNat)) := by
  induction ns with
  | nil => rfl
  | cons n ns ih =>
    obtain ⟨hn, hkeep⟩ := h n List.mem_cons_self
    rw [encodeKeeping.eq_3 safe n ns (fun _ _ _ h37 _ => hn h37), if_pos hkeep,
      ih (fun m hm => h m (List.mem_cons_of_mem n hm)), List.map_cons, String.ofList_cons]
    rfl

/-! ## Host names -/

theorem isHostChar_ascii {c : Char} (h : isHostChar c = true) : c.toNat < 0x80 := by
  simp only [isHostChar, Char.isAlphanum, Char.isAlpha, Char.isUpper, Char.isLower, Char.isDigit,
    Bool.or_eq_true, Bool.and_eq_true, decide_eq_true_eq, beq_iff_eq, UInt32.le_iff_toNat_le] at h
  have : c.toNat = c.val.toNat := rfl
  rcases h with (((h | h) | h) | rfl) | rfl
  · have : 'Z'.val.toNat = 90 := rfl
    omega
  · have : 'z'.val.toNat = 122 := rfl
    omega
  · have : '9'.val.toNat = 57 := rfl
    omega
  · decide
  · decide

/-- What holds of each ASCII character of host names holds of every character of host names. -/
@[elab_as_elim]
theorem isHostChar_forall {P : Char → Prop}
    (h : ∀ n, n < 0x80 → isHostChar (Char.ofNat n) = true → P (Char.ofNat n)) {c : Char}
    (hc : isHostChar c = true) : P c :=
  ascii_forall (P := fun c => isHostChar c = true → P c) h c (isHostChar_ascii hc) hc

/-- A character of a host name delimits no part of a URL. -/
theorem isHostChar_delims {c : Char} (hc : isHostChar c = true) :
    c ≠ ':' ∧ c ≠ '/' ∧ c ≠ '?' ∧ c ≠ '#' ∧ c ≠ '@' ∧ c ≠ '[' :=
  isHostChar_forall (by decide +kernel) hc

theorem isHostChar_visible {c : Char} (hc : isHostChar c = true) : isVisibleAscii c = true :=
  isHostChar_forall (by decide +kernel) hc

theorem isHostChar_toLower {c : Char} (hc : isHostChar c = true) : isHostChar c.toLower = true :=
  isHostChar_forall (by decide +kernel) hc

/-- A character of a host name stands for itself in a host, and starts no escape. -/
theorem isHostChar_kept {c : Char} (hc : isHostChar c = true) :
    c.toNat ≠ 37 ∧ keeps hostSafe c.toNat = true :=
  isHostChar_forall (by decide +kernel) hc

theorem IsHostName.exists_cons {h : String} (hh : IsHostName h) : ∃ c cs, h.toList = c :: cs := by
  cases hl : h.toList with
  | nil => exact absurd (String.toList_eq_nil_iff.1 hl) hh.nonempty
  | cons c cs => exact ⟨c, cs, rfl⟩

/-- The canonical form of a host name: an IPv4 address as it is, any other name in lower case. -/
theorem encodeHost_name {h : String} (hh : IsHostName h) :
    encodeHost h = .ok (if ipv4Shaped h then h else String.ofList (h.toList.map Char.toLower)) := by
  have full : h.isEmpty = false := by simpa using hh.nonempty
  unfold encodeHost
  by_cases h4 : ipv4Shaped h = true
  · simp [full, h4, hh.dotted h4]
  · obtain ⟨c, cs, hcs⟩ := hh.exists_cons
    have unbracketed : h.startsWith "[" = false := by
      rw [String.startsWith_string_eq_false_iff, hcs]
      have : c ≠ '[' := (isHostChar_delims (hh.chars c (by simp [hcs]))).2.2.2.2.2
      simpa [eq_comm] using this
    have ascii : h.toList.all (·.toNat < 0x80) = true := by
      simpa using fun c hc => isHostChar_ascii (hh.chars c hc)
    -- the lower-case name stands for itself, character by character
    have lowered : encodeText hostSafe (String.ofList (h.toList.map Char.toLower)) =
        .ok (String.ofList (h.toList.map Char.toLower)) := by
      have lower := fun c hc => isHostChar_toLower (hh.chars c hc)
      unfold encodeText
      rw [String.toList_ofList,
        codePoints_ascii _ (by simpa using fun c hc => isHostChar_ascii (lower c hc)),
        encodeKeeping_kept _ _ (by simpa using fun c hc => isHostChar_kept (lower c hc))]
      simp only [List.map_map, Function.comp_def, Char.ofNat_toNat]
      rfl
    simp [full, h4, unbracketed, ascii, lowered]

/-- The address a client falls back to is a host name. -/
theorem isHostName_fallback : IsHostName "127.0.0.1" where
  nonempty := by decide
  short := by decide
  chars := by simp [isHostChar]
  dotted _ := by decide

/-! ## Reading `http://host:port` -/

/-- The characters of a written number are visible ASCII digits. -/
theorem toString_char {p : Nat} {c : Char} (hc : c ∈ (toString p).toList) :
    c ≠ '/' ∧ c ≠ '?' ∧ c ≠ '#' ∧ c ≠ '@' ∧ isVisibleAscii c = true ∧ isDigit c = true :=
  Integer.toString_forall (by decide) hc

/-- Behind the scheme `http` comes the authority, up to the first slash, question mark or hash. -/
theorem split_http (a : List Char) (ha : ∀ c ∈ a, c ≠ '/' ∧ c ≠ '?' ∧ c ≠ '#') :
    Parts.split ("http://".toList ++ a) = { scheme := "http", authority := String.ofList a } := by
  have whole : a.takeWhile (fun c => c != '/' && c != '?' && c != '#') = a :=
    List.takeWhile_eq_self_iff.2 fun c hc => by simp [ha c hc]
  unfold Parts.split
  simp [whole, isSchemeChar]

/-- An authority without user part and brackets is a host up to the colon, and a port. -/
theorem splitAuthority_host_port (c : Char) (h d : List Char) (hc : c ≠ '[')
    (hh : ∀ x ∈ c :: h, x ≠ ':' ∧ x ≠ '@') (hd : ∀ x ∈ d, x ≠ '@') :
    splitAuthority (String.ofList (c :: h ++ ':' :: d)) =
      ("", String.ofList (c :: h), some (String.ofList d)) := by
  have noAt : (c :: h ++ ':' :: d).reverse.findIdx? (· == '@') = none := by
    rw [List.findIdx?_eq_none_iff]
    intro x hx
    rw [List.mem_reverse, List.mem_append] at hx
    rcases hx with hx | hx
    · simpa using (hh x hx).2
    · rcases List.mem_cons.1 hx with rfl | hx
      · decide
      · simpa using hd x hx
  have host : (c :: h ++ ':' :: d).takeWhile (· != ':') = c :: h := by
    rw [List.takeWhile_append_of_pos (fun x hx => by simpa using (hh x hx).1)]
    simp
  have rest : (c :: h ++ ':' :: d).drop (c :: h).length = ':' :: d := List.drop_left ..
  unfold splitAuthority
  simp only [String.toList_ofList, noAt]
  split
  · rename_i heq
    exact absurd (List.cons.inj heq).1 hc
  · simp only [host, rest]

/-- A written port reads as its number, none when it is the scheme's default. -/
theorem normalizePort_written {p : Nat} (hp : p < 10 ^ Integer.maxDigits) (scheme : String) :
    normalizePort (some (toString p)) scheme =
      .ok (if defaultPort scheme = some (p : Int) then none else some (p : Int)) := by
  have hne : toString p ≠ "" := fun he => Integer.toList_toString_ne_nil p (by rw [he]; rfl)
  rw [normalizePort.eq_3 _ _ hne, show toString p = toString (p : Int) from rfl,
    Integer.read?_toString, if_pos (by simpa using hp)]
  simp

/-- The URL of a host name and a written port is read in full. -/
theorem parse_origin {h : String} (hh : IsHostName h) {p : Nat}
    (hp : p < 10 ^ Integer.maxDigits) :
    Url.parse ("http://" ++ h ++ ":" ++ toString p) =
      .ok { scheme := "http",
            host := if ipv4Shaped h then h else String.ofList (h.toList.map Char.toLower),
            port := if p = 80 then none else some (p : Int) } := by
  obtain ⟨c, cs, hcs⟩ := hh.exists_cons
  have hostc := fun x hx => hh.chars x (hcs ▸ hx)
  have text : ("http://" ++ h ++ ":" ++ toString p).toList =
      "http://".toList ++ (c :: cs ++ ':' :: (toString p).toList) := by
    simp [hcs]
  have visible : ∀ x ∈ "http://".toList ++ (c :: cs ++ ':' :: (toString p).toList),
      isVisibleAscii x = true := by
    have scheme : ∀ x ∈ "http://".toList, isVisibleAscii x = true := by simp [isVisibleAscii]
    intro x hx
    rcases List.mem_append.1 hx with hx | hx
    · exact scheme x hx
    rcases List.mem_append.1 hx with hx | hx
    · exact isHostChar_visible (hostc x hx)
    rcases List.mem_cons.1 hx with rfl | hx
    · decide
    · exact (toString_char hx).2.2.2.2.1
  obtain ⟨length, quiet⟩ := visible_text visible
  have short : ¬ Text.size ("http://" ++ h ++ ":" ++ toString p) > maxUrlLength := by
    have hlen := hh.short
    have plen := Integer.length_toString_le hp
    rw [← String.length_toList, hcs] at hlen
    rw [← String.length_toList] at plen
    simp only [Text.size, text, length, List.length_append, List.length_cons]
    simp only [maxUrlLength, Integer.maxDigits, List.length_cons] at hlen plen ⊢
    have scheme : "http://".toList.length = 7 := rfl
    omega
  have split := split_http (c :: cs ++ ':' :: (toString p).toList) (by
    intro x hx
    rcases List.mem_append.1 hx with hx | hx
    · obtain ⟨-, slash, query, hash, -⟩ := isHostChar_delims (hostc x hx)
      exact ⟨slash, query, hash⟩
    rcases List.mem_cons.1 hx with rfl | hx
    · decide
    · obtain ⟨slash, query, hash, -⟩ := toString_char hx
      exact ⟨slash, query, hash⟩)
  have auth := splitAuthority_host_port c cs (toString p).toList
    (isHostChar_delims (hostc c (by simp))).2.2.2.2.2
    (fun x hx => ⟨(isHostChar_delims (hostc x hx)).1, (isHostChar_delims (hostc x hx)).2.2.2.2.1⟩)
    (fun x hx => (toString_char hx).2.2.2.1)
  have hostText : String.ofList (c :: cs) = h := by rw [← hcs, String.ofList_toList]
  rw [hostText, String.ofList_toList] at auth
  unfold Url.parse
  rw [if_neg short, text, quiet, split]
  unfold Parts.build
  -- what is left are the parts of an empty path, and the port 80 that `http` drops
  have port80 : (if defaultPort "http" = some (p : Int) then none else some (p : Int)) =
      if p = 80 then none else some (p : Int) := by
    by_cases h80 : p = 80
    · simp [h80, defaultPort]
    · have other : defaultPort "http" ≠ some (p : Int) := by
        simp only [defaultPort, ne_eq, Option.some.injEq]
        omega
      rw [if_neg h80, if_neg other]
  have lower : String.ofList ("http".toList.map Char.toLower) = "http" := by decide
  have empty : ∀ safe, encodeText safe "" = .ok "" := fun _ => rfl
  have unchecked : ∀ a b, checkPath "" a b = .ok () := by decide
  have resolved : normalizePath "" = "" := rfl
  simp only [auth, encodeHost_name hh, normalizePort_written hp, port80, lower, empty, unchecked,
    resolved, ite_self]
  rfl

/-- A URL with an empty path and no query is a base already. -/
theorem asBase_root {u : Url} (hpath : u.path = "") (hquery : u.query = none) : u.asBase = .ok u := by
  have root : u.rawPath = "/" := by simp [Url.rawPath, hpath, hquery]
  rw [Url.asBase, root, if_pos (by decide +kernel)]

/-! ## Making the transport -/

/-- Credentials that UTF-8 encodes pass. -/
theorem discard_encode {s : String} (h : (Utf8.encode s).isOk = true) :
    discard ((Utf8.encode s).mapError SetupError.credentials) = .ok () := by
  cases he : Utf8.encode s with
  | ok b => rfl
  | error e => simp [he, Except.isOk, Except.toBool] at h

/-- The reference library makes a client for a host name and a written port whenever the
credentials encode, and its base is the URL `http://host:port` reads as. -/
theorem Library.referenceClient_origin {h : String} (hh : IsHostName h) {p : Nat}
    (hp : p < 10 ^ Integer.maxDigits) {credentials : Option (String × String)}
    (hcred : ∀ a ∈ credentials, (Utf8.encode a.1).isOk = true ∧ (Utf8.encode a.2).isOk = true) :
    Library.referenceClient ("http://" ++ h ++ ":" ++ toString p) credentials =
      .ok { scheme := "http",
            host := if ipv4Shaped h then h else String.ofList (h.toList.map Char.toLower),
            port := if p = 80 then none else some (p : Int) } := by
  have hbase : (Url.parse ("http://" ++ h ++ ":" ++ toString p) >>= Url.asBase) =
      .ok { scheme := "http",
            host := if ipv4Shaped h then h else String.ofList (h.toList.map Char.toLower),
            port := if p = 80 then none else some (p : Int) } := by
    rw [parse_origin hh hp]
    exact asBase_root rfl rfl
  unfold Library.referenceClient
  rcases credentials with _ | ⟨u, w⟩
  · simp only [hbase]
    rfl
  · obtain ⟨hu, hw⟩ := hcred (u, w) rfl
    simp only [hbase, discard_encode hu, discard_encode hw]
    rfl

/-- The reference library takes every host name. -/
theorem Library.reference_takesHostNames : Library.reference.TakesHostNames where
  client_origin hh hp hcred := ⟨_, Library.referenceClient_origin hh hp hcred⟩

/-- A transport is made whenever its library makes a client for its base text and credentials,
with that client's base. -/
theorem Transport.make_eq_ok {lib : Library} {host : String} {port : Int}
    {user password directory : Option String} {base : Url}
    (h : lib.client ("http://" ++ host ++ ":" ++ toString port) (pairCredentials user password) =
      .ok base) :
    Transport.make lib host port user password directory =
      .ok { library := lib, baseText := "http://" ++ host ++ ":" ++ toString port, base,
            credentials := pairCredentials user password, made := h, directory } := by
  unfold Transport.make
  dsimp only
  split
  · next b hb =>
    have : b = base := by
      rw [h] at hb
      exact (Except.ok.inj hb).symm
    subst this
    rfl
  · next e he =>
    rw [h] at he
    cases he

/-- A transport to a host name and a port the integer reader takes is made through a library
that takes host names, whenever its credentials encode; its base is written `http://host:port`,
and it has the credentials and the directory it was given. -/
theorem make_origin {lib : Library} (hlib : lib.TakesHostNames) {h : String} (hh : IsHostName h)
    {p : Nat} (hp : p < 10 ^ Integer.maxDigits) {user password : Option String}
    (hcred : ∀ a ∈ pairCredentials user password,
      (Utf8.encode a.1).isOk = true ∧ (Utf8.encode a.2).isOk = true)
    (directory : Option String) :
    ∃ t, Transport.make lib h p user password directory = .ok t ∧
      t.baseText = "http://" ++ h ++ ":" ++ toString p ∧
      t.credentials = pairCredentials user password ∧ t.directory = directory := by
  obtain ⟨base, hbase⟩ := hlib.client_origin hh hp hcred
  exact ⟨_, Transport.make_eq_ok hbase, rfl, rfl, rfl⟩

/-! ## Host and port of a base URL -/

/-- How a URL writes its port: a colon and the number, or nothing. -/
def portSuffix : Option Nat → String
  | some p => ":" ++ toString p
  | none => ""

/-- A lower-case scheme is recognised, and `https` told from `http`. -/
theorem startsWith_scheme {s : String} (hs : s = "http" ∨ s = "https") (rest : String) :
    (s ++ "://" ++ rest).startsWith "http://" = (s == "http") ∧
      (s ++ "://" ++ rest).startsWith "https://" = (s == "https") := by
  rcases hs with rfl | rfl
  · constructor
    · simp [String.startsWith_string_iff]
    · simp [String.startsWith_string_eq_false_iff]
  · constructor
    · simp [String.startsWith_string_eq_false_iff]
    · simp [String.startsWith_string_iff]

/-- A scheme in another case than lower is recognised as neither `http` nor `https`. -/
theorem startsWith_scheme_other {s : String} (hs : s.toLower = "http" ∨ s.toLower = "https")
    (hne : s ≠ "http" ∧ s ≠ "https") (rest : String) :
    (s ++ "://" ++ rest).startsWith "http://" = false ∧
      (s ++ "://" ++ rest).startsWith "https://" = false := by
  have lower : s.toList.map Char.toLower = s.toLower.toList := by
    simp [String.toLower, String.toList_map]
  rw [String.startsWith_string_eq_false_iff, String.startsWith_string_eq_false_iff]
  rcases hs with hs | hs
  · -- four letters: `http://` only if they are `http`, and never `https://`
    obtain ⟨a, b, c, d, hl⟩ : ∃ a b c d, s.toList = [a, b, c, d] := by
      have := congrArg List.length lower
      rw [hs, List.length_map] at this
      match hm : s.toList, this with
      | [a, b, c, d], _ => exact ⟨a, b, c, d, rfl⟩
    refine ⟨?_, by simp [hl]⟩
    simp only [String.toList_append, hl]
    simp
    rintro rfl rfl rfl rfl
    exact hne.1 (String.toList_inj.1 hl)
  · -- five letters: never `http://`, and `https://` only if they are `https`
    obtain ⟨a, b, c, d, e, hl⟩ : ∃ a b c d e, s.toList = [a, b, c, d, e] := by
      have := congrArg List.length lower
      rw [hs, List.length_map] at this
      match hm : s.toList, this with
      | [a, b, c, d, e], _ => exact ⟨a, b, c, d, e, rfl⟩
    refine ⟨by simp [hl], ?_⟩
    simp only [String.toList_append, hl]
    simp
    rintro rfl rfl rfl rfl rfl
    exact hne.2 (String.toList_inj.1 hl)

/-- A path, empty or starting with a slash, ends every run of characters that a slash ends. -/
theorem takeWhile_path {path : List Char} (hpath : ∀ c ∈ path.head?, c = '/') (p : Char → Bool)
    (hp : p '/' = false) : path.takeWhile p = [] := by
  cases path with
  | nil => rfl
  | cons c cs =>
    rw [hpath c rfl, List.takeWhile_cons, hp]
    rfl

/-- A base URL with a lower-case scheme names its host, and its port or else the scheme's. -/
theorem hostAndPort_origin {s : String} (hs : s = "http" ∨ s = "https") {h : String}
    (hh : IsHostName h) {port : Option Nat} (hport : ∀ p ∈ port, p < 10 ^ Integer.maxDigits)
    {path : String} (hpath : ∀ c ∈ path.toList.head?, c = '/') :
    hostAndPort (s ++ "://" ++ h ++ portSuffix port ++ path) =
      .ok (h, ((port.getD (if s = "https" then 443 else 80) : Nat) : Int)) := by
  have text : s ++ "://" ++ h ++ portSuffix port ++ path =
      s ++ "://" ++ (h ++ (portSuffix port ++ path)) := by
    simp only [String.append_assoc]
  obtain ⟨http, https⟩ := startsWith_scheme hs (h ++ (portSuffix port ++ path))
  have rest : (if (s ++ "://" ++ (h ++ (portSuffix port ++ path))).startsWith "http://" then
        some ((s ++ "://" ++ (h ++ (portSuffix port ++ path))).toList.drop 7)
      else if (s ++ "://" ++ (h ++ (portSuffix port ++ path))).startsWith "https://" then
        some ((s ++ "://" ++ (h ++ (portSuffix port ++ path))).toList.drop 8)
      else none) = some (h.toList ++ (portSuffix port ++ path).toList) := by
    rw [http, https]
    rcases hs with rfl | rfl <;> simp
  -- the host stops at the colon of the port, or at the slash of the path
  have host : (h.toList ++ (portSuffix port ++ path).toList).takeWhile
      (fun c => c != ':' && c != '/') = h.toList := by
    rw [List.takeWhile_append_of_pos fun c hc => by
      simp [(isHostChar_delims (hh.chars c hc)).1, (isHostChar_delims (hh.chars c hc)).2.1]]
    cases port with
    | some p => simp [portSuffix]
    | none =>
      simpa [portSuffix] using takeWhile_path hpath (fun c => c != ':' && c != '/') (by decide)
  have full : h.toList.isEmpty = false := by simpa using hh.nonempty
  unfold hostAndPort
  simp only [text]
  rw [rest]
  simp only [host, full, https, List.drop_left, String.ofList_toList, Bool.false_eq_true,
    ↓reduceIte, beq_iff_eq]
  cases port with
  | some p =>
    have digits : ((toString p).toList ++ path.toList).takeWhile isDigit = (toString p).toList := by
      rw [List.takeWhile_append_of_pos fun c hc => (toString_char hc).2.2.2.2.2,
        takeWhile_path hpath _ (by decide), List.append_nil]
    have written : (toString p).toList.isEmpty = false :=
      List.isEmpty_eq_false_iff.2 (Integer.toList_toString_ne_nil p)
    have colon : ":".toList = [':'] := rfl
    simp only [portSuffix, String.toList_append, colon, List.cons_append, List.nil_append, digits,
      written, Integer.valueOfDigits_toString (hport p rfl), Option.getD_some, Bool.false_eq_true,
      ↓reduceIte]
    rfl
  | none =>
    have cast :
        ((if s = "https" then 443 else 80 : Nat) : Int) = if s = "https" then 443 else 80 := by
      split <;> rfl
    simp only [portSuffix, String.empty_append, Option.getD_none, cast]
    -- without a port the path follows the host, and it starts with no colon
    cases hl : path.toList with
    | nil => rfl
    | cons c cs =>
      rw [hl] at hpath
      rw [hpath c rfl]
      rfl

end AgentLink.Http

namespace AgentLink

open Http

/-- The transport of a base URL is the one made for the host and port the URL names. -/
theorem transportFor_of_hostAndPort {lib : Library} {o : ClientOptions} {url h : String} {p : Int}
    (hap : hostAndPort url = .ok (h, p)) :
    transportFor lib o url = (Transport.make lib h p (o.basicAuth.map Prod.fst)
      (o.basicAuth.map Prod.snd) o.directory).mapError .badAddress := by
  simp only [transportFor, transportTo, hap]
  rfl

/-- The options' credentials are the transport's. -/
theorem pairCredentials_basicAuth (a : Option (String × String)) :
    pairCredentials (a.map Prod.fst) (a.map Prod.snd) = a := by
  rcases a with _ | ⟨u, w⟩ <;> rfl

/-- A client given a base URL whose scheme is `http` or `https` in lower case talks to the host
the URL names, on the port it names or else the scheme's, and always over plain HTTP: through
any library that takes host names, its transport is made, its base is `http://host:port`, and
it has the options' credentials and directory. A scheme in any other case is not recognised,
and the client talks to `127.0.0.1:4096`. -/
theorem transportFor_origin (lib : Library) (hlib : lib.TakesHostNames) (o : ClientOptions)
    (s h path : String) (port : Option Nat)
    (hs : s.toLower = "http" ∨ s.toLower = "https") (hh : IsHostName h)
    (hport : ∀ p ∈ port, p < 10 ^ Text.Integer.maxDigits)
    (hpath : ∀ c ∈ path.toList.head?, c = '/')
    (hcred : ∀ a ∈ o.basicAuth, (Utf8.encode a.1).isOk = true ∧ (Utf8.encode a.2).isOk = true) :
    ∃ t, transportFor lib o (s ++ "://" ++ h ++ portSuffix port ++ path) = .ok t ∧
      t.baseText = (if s = "http" ∨ s = "https" then
          "http://" ++ h ++ ":" ++ toString (port.getD (if s = "https" then 443 else 80))
        else "http://127.0.0.1:4096") ∧
      t.credentials = o.basicAuth ∧ t.directory = o.directory := by
  have cred : ∀ a ∈ pairCredentials (o.basicAuth.map Prod.fst) (o.basicAuth.map Prod.snd),
      (Utf8.encode a.1).isOk = true ∧ (Utf8.encode a.2).isOk = true := by
    rw [pairCredentials_basicAuth]
    exact hcred
  by_cases lower : s = "http" ∨ s = "https"
  · -- the URL names its host and port
    have hp : port.getD (if s = "https" then 443 else 80) < 10 ^ Text.Integer.maxDigits := by
      cases port with
      | some p => exact hport p rfl
      | none =>
        have : (443 : Nat) < 10 ^ Text.Integer.maxDigits :=
          Nat.lt_of_lt_of_le (by decide : 443 < 10 ^ 3) (Nat.pow_le_pow_right (by decide) (by decide))
        rw [Option.getD_none]
        split <;> omega
    obtain ⟨t, ht, htext, hc, hd⟩ := make_origin hlib hh hp cred o.directory
    refine ⟨t, ?_, ?_, by rw [hc, pairCredentials_basicAuth], hd⟩
    · rw [transportFor_of_hostAndPort (hostAndPort_origin lower hh hport hpath), ht]
      rfl
    · rw [if_pos lower, htext]
  · -- the scheme is not recognised, and the fallback address stands in
    obtain ⟨http, https⟩ := startsWith_scheme_other hs (not_or.1 lower) (h ++ portSuffix port ++ path)
    have fallback : hostAndPort (s ++ "://" ++ h ++ portSuffix port ++ path) =
        .ok ("127.0.0.1", ((4096 : Nat) : Int)) := by
      simp only [String.append_assoc] at http https ⊢
      simp only [hostAndPort, http, https, Bool.false_eq_true, ↓reduceIte]
      rfl
    obtain ⟨t, ht, htext, hc, hd⟩ := make_origin hlib isHostName_fallback (p := 4096)
      (Nat.lt_of_lt_of_le (by decide : 4096 < 10 ^ 4) (Nat.pow_le_pow_right (by decide) (by decide)))
      cred o.directory
    refine ⟨t, ?_, ?_, by rw [hc, pairCredentials_basicAuth], hd⟩
    · rw [transportFor_of_hostAndPort fallback, ht]
      rfl
    · rw [if_neg lower, htext]
      rfl

theorem transportFor_origin_https :
    Library.reference.TakesHostNames ∧ "https".toLower = "https" ∧ IsHostName "example.com" ∧
    ∃ t, transportFor .reference {}
        ("https" ++ "://" ++ "example.com" ++ portSuffix none ++ "/api") = .ok t ∧
      t.baseText = (if "https" = "http" ∨ "https" = "https" then
          "http://" ++ "example.com" ++ ":" ++
            toString (none.getD (if "https" = "https" then 443 else 80))
        else "http://127.0.0.1:4096") ∧
      t.credentials = ({} : ClientOptions).basicAuth ∧
      t.directory = ({} : ClientOptions).directory := by
  have scheme : "https".toLower = "https" :=
    String.toList_inj.1 (by simp [String.toLower, String.toList_map])
  have host : IsHostName "example.com" :=
    { nonempty := by decide, short := by decide, chars := by simp [isHostChar],
      dotted := fun h => absurd h (by decide) }
  exact ⟨Library.reference_takesHostNames, scheme, host,
    transportFor_origin .reference Library.reference_takesHostNames {} "https" "example.com" "/api"
      none (.inr scheme) host (by simp) (by simp) (by simp)⟩

/-- The scheme of a base URL does not reach its transport: an `https` URL is spoken to in plain
HTTP on port 443, and an upper-case `HTTP` is not recognised at all. -/
theorem transportFor_plain_http :
    (transportFor .reference {} "https://example.com").toOption.map (·.baseText) =
      some "http://example.com:443" ∧
    (transportFor .reference {} "HTTP://example.com:8080").toOption.map (·.baseText) =
      some "http://127.0.0.1:4096" := by
  decide +kernel

end AgentLink
