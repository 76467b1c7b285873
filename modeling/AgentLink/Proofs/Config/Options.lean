import Mathlib
import AgentLink.Cli.Run

/-!
# Which configuration errors are reported

Client options are built from raw settings (`ClientOptions.ofRaw`): a user name without a
password is refused, and then the three whole-number settings are read in turn
(`wholeNumberSettings`), the first that cannot be read giving the error (`ofRaw_eq_error_iff`).

A whole-number setting is read as a real number and cut toward zero. From settings that are all
text, the command line reports every failure but one (`ConfigError.isReported`): a text that
reads as an infinite number, the words `inf` and `infinity` or a decimal beyond the largest
float, has no integer part and overflows (`RawSettings.int_text_errors`, `ofRaw_text_errors`).
The command line then stops on the error instead of printing that the configuration cannot be
loaded (`infinite_startup_timeout_overflows`).
-/

namespace AgentLink

/-! ## Cutting a reading toward zero -/

namespace Decimal

theorem truncate_eq_infinite_iff (x : Float) :
    truncate x = .error .infinite ↔ x.isNaN = false ∧ x.isInf = true := by
  unfold truncate
  cases x.isNaN <;> cases x.isInf <;> simp

end Decimal

namespace Text

/-- Whether a reading stands for an infinite number: the words `inf` and `infinity`, or a
decimal whose nearest float is infinite. -/
def Reading.isInfinite : Reading → Bool
  | .infinite _ => true
  | .notANumber => false
  | .decimal negative ds e =>
    let x := (Reading.decimal negative ds e).toFloat
    !x.isNaN && x.isInf

/-- A reading has no integer part for being infinite exactly when it stands for an infinite
number; for the words this needs no float. -/
theorem Reading.truncate_eq_infinite_iff (r : Reading) :
    r.truncate = .error .infinite ↔ r.isInfinite = true := by
  cases r with
  | infinite negative => simp [truncate, isInfinite]
  | notANumber => simp [truncate, isInfinite]
  | decimal negative ds e =>
    rw [truncate, Decimal.truncate_eq_infinite_iff, isInfinite, Bool.and_eq_true,
      Bool.not_eq_true']

end Text

theorem truncateSetting_eq_error {key : String} {v : Json.Value}
    {t : Except Decimal.TruncateError Int} {e : ConfigError} (h : truncateSetting key v t = .error e) :
    e = .invalidInteger key v.literal ∨ e = .infiniteInteger := by
  unfold truncateSetting at h
  rcases t with (_ | _) | n <;> simp_all

theorem truncateSetting_eq_infinite_iff (key : String) (v : Json.Value)
    (t : Except Decimal.TruncateError Int) :
    truncateSetting key v t = .error .infiniteInteger ↔ t = .error .infinite := by
  unfold truncateSetting
  rcases t with (_ | _) | n <;> simp

/-! ## A whole-number setting given as text -/

namespace RawSettings

variable {raw : RawSettings} {key : String} {d : Int}

/-- The value of a key is that of one of the settings. -/
theorem mem_of_get? {v : Json.Value} (h : raw.get? key = some v) : (key, v) ∈ raw := by
  obtain ⟨p, hp, rfl⟩ := Option.map_eq_some_iff.1 h
  have hk : p.1 = key := by simpa using List.find?_some hp
  rw [← hk]
  exact List.mem_reverse.1 (List.mem_of_find?_eq_some hp)

theorem int_missing (h : raw.get? key = none) : raw.int key d = .ok d := by
  rw [RawSettings.int, h]

theorem int_blank {s : String} (h : raw.get? key = some (.str s))
    (hb : (Text.strip s).isEmpty = true) : raw.int key d = .ok d := by
  rw [RawSettings.int, h]
  simp [Json.Value.display, hb]

theorem int_unread {s : String} (h : raw.get? key = some (.str s))
    (hb : (Text.strip s).isEmpty = false) (hr : Text.readReal? s = none) :
    raw.int key d = .error (.invalidInteger key (Json.Value.str s).literal) := by
  rw [RawSettings.int, h]
  simp [Json.Value.display, hb, hr]

theorem int_read {s : String} {r : Text.Reading} (h : raw.get? key = some (.str s))
    (hb : (Text.strip s).isEmpty = false) (hr : Text.readReal? s = some r) :
    raw.int key d = truncateSetting key (.str s) r.truncate := by
  rw [RawSettings.int, h]
  simp [Json.Value.display, hb, hr]

/-- A whole-number setting given as a text that is not blank and reads as an infinite
number. -/
def ReadsInfinite (raw : RawSettings) (key : String) : Prop :=
  ∃ s r, raw.get? key = some (.str s) ∧ (Text.strip s).isEmpty = false ∧
    Text.readReal? s = some r ∧ r.isInfinite = true

/-- What reading as an infinite number says of the text a key has. -/
theorem ReadsInfinite.text {s : String} (hi : raw.ReadsInfinite key)
    (h : raw.get? key = some (.str s)) :
    (Text.strip s).isEmpty = false ∧ ∃ r, Text.readReal? s = some r ∧ r.isInfinite = true := by
  obtain ⟨s', r, hs, hb, hr, hinf⟩ := hi
  cases h.symm.trans hs
  exact ⟨hb, r, hr, hinf⟩

/-- A whole-number setting given as text, or not at all, fails only by a refused value or by
overflowing, and overflows exactly when it reads as an infinite number. -/
theorem int_text_errors (htext : ∀ p ∈ raw, ∃ s, p.2 = .str s) (key : String) (d : Int) :
    (∀ e, raw.int key d = .error e → e.isReported = true ∨ e = .infiniteInteger) ∧
    (raw.int key d = .error .infiniteInteger ↔ raw.ReadsInfinite key) := by
  cases hg : raw.get? key with
  | none =>
    rw [int_missing hg]
    refine ⟨fun _ he => (nomatch he), ⟨nofun, ?_⟩⟩
    rintro ⟨s, r, hs, -⟩
    cases hg.symm.trans hs
  | some v =>
    obtain ⟨s, rfl⟩ := htext _ (mem_of_get? hg)
    cases hb : (Text.strip s).isEmpty with
    | true =>
      rw [int_blank hg hb]
      refine ⟨fun _ he => (nomatch he), ⟨nofun, fun hi => ?_⟩⟩
      cases hb.symm.trans (hi.text hg).1
    | false =>
      cases hr : Text.readReal? s with
      | none =>
        rw [int_unread hg hb hr]
        refine ⟨fun e he => ?_, ⟨nofun, fun hi => ?_⟩⟩
        · cases he
          exact .inl rfl
        · obtain ⟨-, r, hr', -⟩ := hi.text hg
          cases hr.symm.trans hr'
      | some r =>
        -- the only case that computes: the reading cut toward zero
        rw [int_read hg hb hr]
        refine ⟨fun e he => ?_, ?_⟩
        · rcases truncateSetting_eq_error he with rfl | rfl
          · exact .inl rfl
          · exact .inr rfl
        · rw [truncateSetting_eq_infinite_iff, Text.Reading.truncate_eq_infinite_iff]
          refine ⟨fun hinf => ⟨s, r, hg, hb, hr, hinf⟩, fun hi => ?_⟩
          obtain ⟨-, r', hr', hinf⟩ := hi.text hg
          cases hr.symm.trans hr'
          exact hinf

/-- A user name comes with a password. -/
def CredentialsAgree (raw : RawSettings) : Prop :=
  (raw.text? "username").isSome → (raw.text? "password").isSome

/-- The first of a list of whole-number settings that cannot be read fails with `e`. -/
def FailsFirst (raw : RawSettings) (e : ConfigError) : List (String × Int) → Prop
  | [] => False
  | (key, d) :: rest =>
    raw.int key d = .error e ∨ (∃ n, raw.int key d = .ok n) ∧ raw.FailsFirst e rest

theorem FailsFirst.exists_error {e : ConfigError} {ks : List (String × Int)}
    (h : raw.FailsFirst e ks) : ∃ k ∈ ks, raw.int k.1 k.2 = .error e := by
  induction ks with
  | nil => exact h.elim
  | cons k rest ih =>
    rcases h with h | ⟨-, h⟩
    · exact ⟨k, List.mem_cons_self, h⟩
    · obtain ⟨k', hk', h'⟩ := ih h
      exact ⟨k', List.mem_cons_of_mem k hk', h'⟩

end RawSettings

/-! ## Client options -/

theorem bind_eq_error_iff {ε α β : Type} {x : Except ε α} {f : α → Except ε β} {e : ε} :
    (x >>= f) = .error e ↔ x = .error e ∨ ∃ a, x = .ok a ∧ f a = .error e := by
  cases x <;> simp [bind, Except.bind]

/-- The whole-number settings of client options with their defaults, in the order they are
read. -/
def wholeNumberSettings : List (String × Int) :=
  [("startup_timeout_ms", 10000), ("connection_timeout", 30), ("read_timeout", 300)]

/-- Client options fail for a user name without a password, and otherwise for the first
whole-number setting that cannot be read. -/
theorem ofRaw_eq_error_iff (raw : RawSettings) (e : ConfigError) :
    ClientOptions.ofRaw raw = .error e ↔
      ¬raw.CredentialsAgree ∧ e = .userWithoutPassword ∨
      raw.CredentialsAgree ∧ raw.FailsFirst e wholeNumberSettings := by
  unfold ClientOptions.ofRaw RawSettings.CredentialsAgree
  simp only [wholeNumberSettings, RawSettings.FailsFirst]
  cases raw.text? "password" with
  | some p => simp [bind_eq_error_iff, pure, Except.pure, exists_and_right]
  | none =>
    cases raw.text? "username" with
    | none => simp [bind_eq_error_iff, pure, Except.pure, exists_and_right]
    | some u =>
      -- a user name without a password fails before any number is read
      simp only [bind_eq_error_iff]
      simp [throw, throwThe, MonadExceptOf.throw, eq_comm]

/-- From settings that are all text, client options fail only by a refused value, which the
command line reports, or by an overflow. They overflow exactly when a user name comes with a
password and the first whole-number setting that cannot be read overflows, and a setting
overflows exactly when its text reads as an infinite number. -/
theorem ofRaw_text_errors (raw : RawSettings) (htext : ∀ p ∈ raw, ∃ s, p.2 = .str s) :
    (∀ e, ClientOptions.ofRaw raw = .error e → e.isReported = true ∨ e = .infiniteInteger) ∧
    (ClientOptions.ofRaw raw = .error .infiniteInteger ↔
      raw.CredentialsAgree ∧ raw.FailsFirst .infiniteInteger wholeNumberSettings) ∧
    ∀ key d, raw.int key d = .error .infiniteInteger ↔ raw.ReadsInfinite key := by
  refine ⟨fun e he => ?_, ?_, fun key d => (RawSettings.int_text_errors htext key d).2⟩
  · rcases (ofRaw_eq_error_iff raw e).1 he with ⟨-, rfl⟩ | ⟨-, hfirst⟩
    · exact .inl rfl
    · obtain ⟨k, -, hk⟩ := hfirst.exists_error
      exact (RawSettings.int_text_errors htext k.1 k.2).1 e hk
  · rw [ofRaw_eq_error_iff]
    simp

theorem ofRaw_text_errors_inf :
    (∀ p ∈ [("startup_timeout_ms", Json.Value.str "inf")], ∃ s, p.2 = .str s) ∧
    (∀ e, ClientOptions.ofRaw [("startup_timeout_ms", .str "inf")] = .error e →
        e.isReported = true ∨ e = .infiniteInteger) ∧
    (ClientOptions.ofRaw [("startup_timeout_ms", .str "inf")] = .error .infiniteInteger ↔
      RawSettings.CredentialsAgree [("startup_timeout_ms", .str "inf")] ∧
        RawSettings.FailsFirst [("startup_timeout_ms", .str "inf")] .infiniteInteger
          wholeNumberSettings) ∧
    ∀ key d, RawSettings.int [("startup_timeout_ms", .str "inf")] key d = .error .infiniteInteger ↔
      RawSettings.ReadsInfinite [("startup_timeout_ms", .str "inf")] key :=
  have htext : ∀ p ∈ [("startup_timeout_ms", Json.Value.str "inf")], ∃ s, p.2 = .str s := by
    simp
  ⟨htext, ofRaw_text_errors _ htext⟩

/-- The text `inf` for the startup timeout overflows. The error is not one the command line
reports: it stops on it instead of printing that the configuration cannot be loaded. -/
theorem infinite_startup_timeout_overflows :
    ClientOptions.ofRaw [("startup_timeout_ms", .str "inf")] = .error .infiniteInteger ∧
    ConfigError.infiniteInteger.isReported = false ∧
    Cli.loadOptions
        { host := ⟨fun _ => .missing, fun _ => false⟩,
          environment := [("OPENCODE_STARTUP_TIMEOUT_MS", "inf")] } none =
      .error { exitCode := 1, crash := some (.options .infiniteInteger) } :=
  ⟨rfl, rfl, rfl⟩

end AgentLink
