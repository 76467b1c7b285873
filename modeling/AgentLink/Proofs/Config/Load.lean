import Mathlib
import AgentLink.Config.Load

/-!
# Where a raw setting comes from

Raw settings are loaded into an ordered table with one entry per key (`loadSettings`). Each key
takes the value of the first source that gives it (`loadSettings_precedence`):

1. its override variable in the environment, when that is set and not blank (`overrideValue`);
2. the settings file: the option of its `AUTH` section, else of its defaults, whose name lowers to
   the key (`sectionValue`), with its references expanded;
3. the environment file: the last entry with a value whose key stands for the setting
   (`dotenvValue`).

Loading fails exactly when the settings file cannot be read or one of the values of its defaults
or of its `AUTH` section cannot be expanded (`fileOptions`). Values are expanded, not raw:
`a%%b` gives `a%b`, and `a%b` fails (`loadSettings_expands_percent`).

The table is built by setting keys one after another (`Dotenv.setKey`, `setAll`), so the proof
rests on one fact about it: after a list of assignments a key reads the last value assigned to
it, and otherwise what it read before (`lookup_setAll`).
-/

namespace AgentLink.Dotenv

variable {α : Type}

/-! ## Ordered tables -/

/-- The value of a key in an ordered table: that of its first entry. -/
def lookup (t : List (String × α)) (k : String) : Option α :=
  (t.find? (·.1 == k)).map Prod.snd

/-- The value a sequence of assignments leaves to a key: the last one. -/
def lastValue (ps : List (String × α)) (k : String) : Option α :=
  lookup ps.reverse k

@[simp] theorem lookup_nil (k : String) : lookup ([] : List (String × α)) k = none := rfl

@[simp] theorem lookup_cons (k' k : String) (v : α) (t : List (String × α)) :
    lookup ((k', v) :: t) k = if k' = k then some v else lookup t k := by
  by_cases h : k' = k <;> simp [lookup, h]

theorem lookup_append (t u : List (String × α)) (k : String) :
    lookup (t ++ u) k = (lookup t k).or (lookup u k) := by
  simp [lookup, List.find?_append, Option.map_or]

theorem lastValue_cons (p : String × α) (ps : List (String × α)) (k : String) :
    lastValue (p :: ps) k = (lastValue ps k).or (if p.1 = k then some p.2 else none) := by
  obtain ⟨k', v⟩ := p
  by_cases h : k' = k <;> simp [lastValue, lookup_append, h]

/-- A key absent from a table has no value in it. -/
theorem lookup_of_not_any {t : List (String × α)} {k : String} (h : t.any (·.1 == k) = false) :
    lookup t k = none := by
  induction t with
  | nil => rfl
  | cons p t ih =>
    obtain ⟨k', v'⟩ := p
    simp only [List.any_cons, Bool.or_eq_false_iff, beq_eq_false_iff_ne] at h
    simp [h.1, ih h.2]

/-- Setting a key that is there replaces each of its entries. -/
theorem setKey_eq (t : List (String × α)) (k : String) (v : α) :
    setKey t k v = if t.any (·.1 == k) then t.map (fun p => if p.1 == k then (k, v) else p)
      else t ++ [(k, v)] := rfl

/-- Setting a key in place keeps the keys and their order. -/
theorem map_fst_setKey (t : List (String × α)) (k : String) (v : α) :
    (setKey t k v).map Prod.fst =
      if t.any (·.1 == k) then t.map Prod.fst else t.map Prod.fst ++ [k] := by
  rw [setKey_eq]
  split
  · rw [List.map_map]
    apply List.map_congr_left
    rintro ⟨k', v'⟩ -
    by_cases h : k' = k <;> simp [h]
  · simp

theorem lookup_replace (t : List (String × α)) (k k' : String) (v : α) :
    lookup (t.map fun p => if p.1 == k then (k, v) else p) k' =
      if k = k' then (if t.any (·.1 == k) then some v else none) else lookup t k' := by
  induction t with
  | nil => simp
  | cons p t ih =>
    obtain ⟨k₀, v₀⟩ := p
    by_cases h1 : k = k'
    · subst h1
      by_cases h0 : k₀ = k
      · simp_all
      · have hb : (k₀ == k) = false := beq_eq_false_iff_ne.2 h0
        simp only [List.map_cons, hb, Bool.false_eq_true, ↓reduceIte, lookup_cons, h0, ih,
          List.any_cons, Bool.false_or]
    · by_cases h0 : k₀ = k <;> simp_all

/-- Setting a key: the key reads the new value, every other key what it read before. -/
theorem lookup_setKey (t : List (String × α)) (k k' : String) (v : α) :
    lookup (setKey t k v) k' = if k = k' then some v else lookup t k' := by
  rw [setKey_eq]
  split
  · next hany => rw [lookup_replace, hany, if_pos rfl]
  · next hany =>
    rw [lookup_append]
    by_cases h : k = k'
    · subst h
      simp [lookup_of_not_any (Bool.eq_false_iff.2 hany)]
    · simp [h]

theorem lastValue_setKey (t : List (String × α)) (k k' : String) (v : α) :
    lastValue (setKey t k v) k' = if k = k' then some v else lastValue t k' := by
  rw [setKey_eq, lastValue, lastValue]
  split
  · next hany => rw [← List.map_reverse, lookup_replace, List.any_reverse, hany, if_pos rfl]
  · simp

/-- Setting a key keeps the keys of a table distinct. -/
theorem nodup_setKey {t : List (String × α)} (h : (t.map Prod.fst).Nodup) (k : String) (v : α) :
    ((setKey t k v).map Prod.fst).Nodup := by
  rw [map_fst_setKey]
  split
  · exact h
  · next hany =>
    refine List.nodup_append.2 ⟨h, List.nodup_singleton k, ?_⟩
    intro a ha b hb
    rw [List.mem_singleton.1 hb]
    rintro rfl
    obtain ⟨p, hp, rfl⟩ := List.mem_map.1 ha
    exact hany (List.any_eq_true.2 ⟨p, hp, by simp⟩)

end AgentLink.Dotenv

namespace AgentLink.Ini

/-! ## Expanding a value -/

variable (look : String → Option String) (option sect raw : String) (budget : Nat)

/-- A character other than a percent sign stands for itself. -/
theorem expand_plain {c : Char} (hc : c ≠ '%') (tl : List Char) :
    expand look option sect raw budget (c :: tl) =
      (String.singleton c ++ ·) <$> expand look option sect raw budget tl :=
  expand.eq_5 look option sect raw budget c tl (fun _ h => absurd h hc) (fun _ h => absurd h hc) hc

/-- Two percent signs stand for one. -/
theorem expand_escape (tl : List Char) :
    expand look option sect raw budget ('%' :: '%' :: tl) =
      ("%" ++ ·) <$> expand look option sect raw budget tl :=
  expand.eq_2 look option sect raw budget tl

/-- A percent sign followed by neither a percent sign nor a parenthesis is refused. -/
theorem expand_badPercent {d : Char} (hd : d ≠ '%') (hd' : d ≠ '(') (tl : List Char) :
    expand look option sect raw budget ('%' :: d :: tl) =
      .error (.badPercent option sect (String.ofList ('%' :: d :: tl))) :=
  expand.eq_4 look option sect raw budget (d :: tl) (fun _ h => hd (List.cons.inj h).1)
    (fun _ h => hd' (List.cons.inj h).1)

/-- A text without a percent sign is its own expansion. -/
theorem expand_text (cs : List Char) (h : '%' ∉ cs) :
    expand look option sect raw budget cs = .ok (String.ofList cs) := by
  induction cs with
  | nil => exact expand.eq_1 look option sect raw budget
  | cons c cs ih =>
    rw [List.mem_cons, not_or] at h
    rw [expand_plain look option sect raw budget (Ne.symm h.1), ih h.2, String.ofList_cons]
    rfl

end AgentLink.Ini

namespace AgentLink

open Dotenv

/-! ## Setting lists of assignments -/

/-- Setting the keys of a list of assignments in turn: each key reads the last value assigned to
it, and a key assigned none what it read before. -/
theorem lookup_setAll (t ps : List (String × String)) (k : String) :
    lookup (setAll t ps) k = (lastValue ps k).or (lookup t k) := by
  induction ps generalizing t with
  | nil => rfl
  | cons p ps ih =>
    show lookup (setAll (setKey t p.1 p.2) ps) k = _
    rw [ih, lookup_setKey, lastValue_cons]
    by_cases h : p.1 = k <;> simp [h]

theorem lastValue_setAll (t ps : List (String × String)) (k : String) :
    lastValue (setAll t ps) k = (lastValue ps k).or (lastValue t k) := by
  induction ps generalizing t with
  | nil => rfl
  | cons p ps ih =>
    show lastValue (setAll (setKey t p.1 p.2) ps) k = _
    rw [ih, lastValue_setKey, lastValue_cons]
    by_cases h : p.1 = k <;> simp [h]

theorem nodup_setAll {t : List (String × String)} (h : (t.map Prod.fst).Nodup)
    (ps : List (String × String)) : ((setAll t ps).map Prod.fst).Nodup := by
  induction ps generalizing t with
  | nil => exact h
  | cons p ps ih => exact ih (nodup_setKey h p.1 p.2)

/-- Reading keyed entries, some of them without a value, one by one into a table sets the keys
of those with a value, in order. -/
theorem foldl_setKey_some (step : List (String × String) → String × Option String →
      List (String × String)) (f : String → String)
    (hnone : ∀ t k, step t (k, none) = t) (hsome : ∀ t k v, step t (k, some v) = setKey t (f k) v)
    (es : List (String × Option String)) (t : List (String × String)) :
    es.foldl step t = setAll t (es.filterMap fun e => e.2.map fun v => (f e.1, v)) := by
  induction es generalizing t with
  | nil => rfl
  | cons e es ih =>
    obtain ⟨k, _ | v⟩ := e
    · rw [List.foldl_cons, hnone, ih]
      rfl
    · rw [List.foldl_cons, hsome, ih]
      rfl

/-- A list of assignments to distinct keys, each given or not by `g`, leaves to a key the value
`g` gives its entry. -/
theorem lastValue_filterMap_keyed (L : List (String × String)) (g : String → Option String)
    (hL : (L.map Prod.snd).Nodup) (k : String) :
    lastValue (L.filterMap fun (a, r) => (g a).map (r, ·)) k =
      (L.find? (·.2 == k)).bind fun (a, _) => g a := by
  induction L with
  | nil => rfl
  | cons p L ih =>
    obtain ⟨a, r⟩ := p
    simp only [List.map_cons, List.nodup_cons] at hL
    have rest := ih hL.2
    by_cases hr : r = k
    · -- the entry's key comes once, so the rest of the list assigns it nothing
      subst hr
      have absent : L.find? (·.2 == r) = none := by
        rw [List.find?_eq_none]
        intro x hx
        simp only [beq_iff_eq]
        rintro rfl
        exact hL.1 (List.mem_map_of_mem hx)
      rw [absent, Option.bind_none] at rest
      cases hg : g a <;> simp [hg, lastValue_cons, rest]
    · cases hg : g a <;> simp [hg, lastValue_cons, rest, hr]

/-! ## The three sources -/

/-- The value an override variable gives: its value in the environment, when it is set and not
blank. -/
def overrideOf (env : List (String × String)) (var : String) : Option String := do
  let (_, v) ← env.find? (·.1 == var)
  if (Text.strip v).isEmpty then none else some v

/-- The value the environment gives a setting: that of the override variable of its key. -/
def overrideValue (env : List (String × String)) (k : String) : Option String :=
  (envOverrides.find? (·.2 == k)).bind fun (var, _) => overrideOf env var

/-- The value of a setting in a section of the settings file: that of the last option whose name
lowers to the setting's key. -/
def sectionValue (options : Ini.Options) (k : String) : Option String :=
  lastValue (options.map fun o => (Text.lower o.1, o.2)) k

/-- The value of a setting in the environment file: that of its last entry with a value whose key
stands for the setting. -/
def dotenvValue (src : SettingSources) (k : String) : Option String :=
  match src.dotenv with
  | some text =>
    lastValue ((src.readDotenv src.environment text).filterMap
      fun e => e.2.map fun v => (dotenvKey e.1, v)) k
  | none => none

/-- The options of the settings file with their values expanded: its defaults, and its `AUTH`
section when it has one; none without a file. -/
def fileOptions (src : SettingSources) : Except LoadError (Ini.Options × Ini.Options) :=
  match src.file with
  | none => .ok ([], [])
  | some text => do
    let s ← (Ini.read src.fileName text).mapError .read
    let defaults ← (s.items Ini.defaultSection).mapError .lookup
    let auth ← if s.hasSection authSection then (s.items authSection).mapError .lookup else pure []
    pure (defaults, auth)

theorem lastValue_environmentSettings (env : List (String × String)) (k : String) :
    lastValue (environmentSettings env) k = overrideValue env k := by
  have each : environmentSettings env =
      envOverrides.filterMap fun (a, r) => (overrideOf env a).map (r, ·) := by
    unfold environmentSettings overrideOf
    refine List.filterMap_congr fun (a, r) _ => ?_
    dsimp only
    cases env.find? (·.1 == a) with
    | none => rfl
    | some p =>
      obtain ⟨_, v⟩ := p
      by_cases hv : (Text.strip v).isEmpty
      · rw [String.isEmpty_iff] at hv
        simp [hv]
      · rw [String.isEmpty_iff] at hv
        simp [hv]
  rw [each, lastValue_filterMap_keyed _ _ (by decide)]
  rfl

theorem dotenvSettings_eq (entries : List (String × Option String)) :
    dotenvSettings entries = setAll [] (entries.filterMap
      fun e => e.2.map fun v => (dotenvKey e.1, v)) := by
  rw [dotenvSettings, foldl_setKey_some _ dotenvKey (fun _ _ => rfl) (fun _ _ _ => rfl)]

theorem lookup_dotenvSettings (src : SettingSources) (k : String) :
    lookup ((src.dotenv.map fun text => dotenvSettings (src.readDotenv src.environment text)).getD [])
      k = dotenvValue src k := by
  unfold dotenvValue
  cases src.dotenv with
  | none => rfl
  | some text =>
    show lookup (dotenvSettings (src.readDotenv src.environment text)) k = _
    rw [dotenvSettings_eq, lookup_setAll, lookup_nil, Option.or_none]

/-- Raw settings are the file's options, read and expanded, set over the environment file's
settings, with the override variables set over both. -/
theorem loadSettings_eq (src : SettingSources) :
    loadSettings src = (fileOptions src).map fun o =>
      setAll (setAll ((src.dotenv.map fun text =>
            dotenvSettings (src.readDotenv src.environment text)).getD [])
          (setAll (o.1.map fun p => (Text.lower p.1, p.2)) (o.2.map fun p => (Text.lower p.1, p.2))))
        (environmentSettings src.environment) := by
  unfold loadSettings fileOptions
  cases src.file with
  | none => rfl
  | some text =>
    unfold fileSettings
    dsimp only
    cases Ini.read src.fileName text with
    | error e => rfl
    | ok s =>
      simp only [Except.mapError, bind, Except.bind]
      cases s.items Ini.defaultSection with
      | error e => rfl
      | ok ds =>
        cases s.hasSection authSection
        · rfl
        · cases s.items authSection <;> rfl

/-! ## Precedence -/

/-- Loading raw settings fails exactly when the settings file cannot be read or one of its
values cannot be expanded, with that error. Otherwise it gives a table with one entry per key,
where each key takes the value of the first source that gives it: its override variable, set and
not blank; the `AUTH` section of the settings file, else its defaults, values expanded; the last
entry of the environment file with a value whose key stands for it. -/
theorem loadSettings_precedence (src : SettingSources) :
    (∀ e, loadSettings src = .error e ↔ fileOptions src = .error e) ∧
    ∀ ds as, fileOptions src = .ok (ds, as) →
      ∃ t, loadSettings src = .ok t ∧ (t.map Prod.fst).Nodup ∧
        ∀ k, lookup t k = (overrideValue src.environment k).or
          ((sectionValue as k).or ((sectionValue ds k).or (dotenvValue src k))) := by
  refine ⟨fun e => ?_, fun ds as hfile => ?_⟩
  · rw [loadSettings_eq]
    cases fileOptions src <;> simp [Except.map]
  · rw [loadSettings_eq, hfile]
    refine ⟨_, rfl, nodup_setAll (nodup_setAll ?_ _) _, fun k => ?_⟩
    · cases src.dotenv with
      | none => exact List.nodup_nil
      | some text =>
        show ((dotenvSettings (src.readDotenv src.environment text)).map Prod.fst).Nodup
        rw [dotenvSettings_eq]
        exact nodup_setAll (t := []) List.nodup_nil _
    · -- the override variables over the file over the environment file
      rw [lookup_setAll, lookup_setAll, lastValue_environmentSettings, lookup_dotenvSettings,
        lastValue_setAll, Option.or_assoc]
      rfl

/-- A settings file that reads as an `AUTH` section alone gives that section's options and no
defaults. -/
theorem fileOptions_auth {name text : String} {opts : Ini.Options}
    (h : Ini.read name text = .ok { sections := [(authSection, opts)] }) :
    fileOptions { fileName := name, file := some text } =
      (((Ini.Settings.mk [] [(authSection, opts)]).items authSection).mapError .lookup).map
        fun as => ([], as) := by
  have defaults : (Ini.Settings.mk [] [(authSection, opts)]).items Ini.defaultSection = .ok [] :=
    rfl
  have has : (Ini.Settings.mk [] [(authSection, opts)]).hasSection authSection = true := by
    simp [Ini.Settings.hasSection]
  simp only [fileOptions, h, Except.mapError, bind, Except.bind, defaults, has, ↓reduceIte]
  cases (Ini.Settings.mk [] [(authSection, opts)]).items authSection <;> rfl

/-- A settings file whose `AUTH` section gives the password `a%%b`. -/
theorem fileOptions_escaped_percent :
    fileOptions { fileName := "config.cfg", file := some "[AUTH]\npassword = a%%b\n" } =
      .ok ([], [("password", "a%b")]) := by
  have read : Ini.read "config.cfg" "[AUTH]\npassword = a%%b\n" =
      .ok { sections := [(authSection, [("password", "a%%b")])] } := by rfl
  have expanded : ∀ look, Ini.expand look "password" "AUTH" "a%%b" 9 ['a', '%', '%', 'b'] =
      .ok "a%b" := by
    intro look
    rw [Ini.expand_plain _ _ _ _ _ (by decide), Ini.expand_escape,
      Ini.expand_plain _ _ _ _ _ (by decide), Ini.expand.eq_1]
    rfl
  have auth : (Ini.Settings.mk [] [(authSection, [("password", "a%%b")])]).items authSection =
      .ok [("password", "a%b")] := by
    simp [Ini.Settings.items, Ini.Settings.get, Ini.Settings.options, Ini.defaultSection,
      authSection, expanded]
  rw [fileOptions_auth read, auth]
  rfl

/-- A settings file whose `AUTH` section gives the password `a%b`. -/
theorem fileOptions_lone_percent :
    fileOptions { fileName := "config.cfg", file := some "[AUTH]\npassword = a%b\n" } =
      .error (.lookup (.badPercent "password" "AUTH" "%b")) := by
  have read : Ini.read "config.cfg" "[AUTH]\npassword = a%b\n" =
      .ok { sections := [(authSection, [("password", "a%b")])] } := by rfl
  have refused : ∀ look, Ini.expand look "password" "AUTH" "a%b" 9 ['a', '%', 'b'] =
      .error (.badPercent "password" "AUTH" "%b") := by
    intro look
    rw [Ini.expand_plain _ _ _ _ _ (by decide), Ini.expand_badPercent _ _ _ _ _ (by decide)
      (by decide)]
    rfl
  have auth : (Ini.Settings.mk [] [(authSection, [("password", "a%b")])]).items authSection =
      .error (.badPercent "password" "AUTH" "%b") := by
    simp [Ini.Settings.items, Ini.Settings.get, Ini.Settings.options, Ini.defaultSection,
      authSection, refused]
  rw [fileOptions_auth read, auth]
  rfl

theorem loadSettings_precedence_escaped :
    fileOptions { fileName := "config.cfg", file := some "[AUTH]\npassword = a%%b\n" } =
      .ok ([], [("password", "a%b")]) ∧
    ∃ t, loadSettings { fileName := "config.cfg", file := some "[AUTH]\npassword = a%%b\n" } =
        .ok t ∧ (t.map Prod.fst).Nodup ∧
      ∀ k, lookup t k = (overrideValue [] k).or ((sectionValue [("password", "a%b")] k).or
        ((sectionValue [] k).or
          (dotenvValue { fileName := "config.cfg", file := some "[AUTH]\npassword = a%%b\n" } k))) :=
  ⟨fileOptions_escaped_percent,
    (loadSettings_precedence _).2 _ _ fileOptions_escaped_percent⟩

/-- Values of the settings file are expanded, not taken as written: `a%%b` gives `a%b`, and
loading a file that gives `a%b` fails. -/
theorem loadSettings_expands_percent :
    loadSettings { fileName := "config.cfg", file := some "[AUTH]\npassword = a%%b\n" } =
      .ok [("password", "a%b")] ∧
    loadSettings { fileName := "config.cfg", file := some "[AUTH]\npassword = a%b\n" } =
      .error (.lookup (.badPercent "password" "AUTH" "%b")) := by
  rw [loadSettings_eq, loadSettings_eq, fileOptions_escaped_percent, fileOptions_lone_percent]
  exact ⟨rfl, rfl⟩

end AgentLink
