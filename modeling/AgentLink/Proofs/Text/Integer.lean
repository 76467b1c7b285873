import Mathlib
import AgentLink.Text.Integer

/-!
# Reading back a written integer

`toString` writes an integer as its decimal digits, after a minus sign when it is negative
(`Text.Integer.toList_toString`), and every digit it writes is one the reader takes as it is
(`Text.Integer.digitChar_reads`). So the reader gives back every integer of at most
`Text.Integer.maxDigits` digits and refuses every longer one (`Text.Integer.read?_toString`).
-/

namespace AgentLink.Text.Integer

open AgentLink.Text

/-- A digit after the others multiplies their value by ten. -/
theorem ofDigits_append_singleton (ds : List Nat) (d : Nat) :
    ofDigits (ds ++ [d]) = ofDigits ds * 10 + d := by
  simp [ofDigits, List.foldl_append]

/-- The decimal digits `Nat.toDigits` writes, each below ten, with the number as their value. -/
theorem exists_digits (n : Nat) :
    ∃ ds : List Nat, Nat.toDigits 10 n = ds.map Nat.digitChar ∧ (∀ d ∈ ds, d < 10) ∧
      ofDigits ds = n := by
  induction n using Nat.strongRecOn with
  | ind n ih =>
    rw [Nat.toDigits_eq_if (by omega)]
    split
    · exact ⟨[n], rfl, by simpa, by simp [ofDigits]⟩
    · obtain ⟨ds, hds, hlt, hval⟩ := ih (n / 10) (by omega)
      refine ⟨ds ++ [n % 10], by simp [hds], fun d hd => ?_, ?_⟩
      · rcases List.mem_append.1 hd with hd | hd
        · exact hlt d hd
        · rw [List.mem_singleton.1 hd]
          exact Nat.mod_lt _ (by omega)
      · rw [ofDigits_append_singleton, hval]
        omega

/-- What the reader makes of an ASCII digit. -/
theorem digitChar_reads : ∀ d, d < 10 →
    Nat.digitChar d ≠ '_' ∧ Nat.digitChar d ≠ '-' ∧ Nat.digitChar d ≠ '+' ∧
    Nat.digitChar d ≠ ' ' ∧ normalize (Nat.digitChar d) = Nat.digitChar d ∧
    asciiDigit? (Nat.digitChar d) = some d := by
  decide

/-- A run of ASCII digits is read whole. -/
theorem digitTail_digits (ds : List Nat) (h : ∀ d ∈ ds, d < 10) :
    digitTail (ds.map Nat.digitChar) = some (ds, []) := by
  induction ds with
  | nil => simp [digitTail]
  | cons d ds ih =>
    obtain ⟨plain, -, -, -, -, value⟩ := digitChar_reads d (h d (by simp))
    simp [digitTail, plain, value, ih (fun e he => h e (by simp [he]))]

/-- How `toString` writes an integer: a minus sign when it is negative, then the decimal digits of
its magnitude. -/
theorem toList_toString (R : Int) :
    (toString R).toList = (if R < 0 then ['-'] else []) ++ Nat.toDigits 10 R.natAbs := by
  rw [Int.toString_eq_repr, Int.repr_eq_if]
  by_cases h : 0 ≤ R
  · have : R.toNat = R.natAbs := by omega
    simp [h, this, show ¬ R < 0 by omega]
  · have : (-R).toNat = R.natAbs := by omega
    simp [h, this, show R < 0 by omega]

/-- A run of ASCII digits, after a minus sign or not, reads as its value unless it has more than
`maxDigits` digits. -/
theorem readChars_digits (negative : Bool) (ds : List Nat) (hds : ∀ d ∈ ds, d < 10)
    (hne : ds ≠ []) :
    readChars ((if negative then ['-'] else []) ++ ds.map Nat.digitChar) =
      if maxDigits < ds.length then .error (.tooManyDigits ds.length)
      else .ok (if negative then -(ofDigits ds : Int) else ofDigits ds) := by
  obtain ⟨d, ds, rfl⟩ := List.exists_cons_of_ne_nil hne
  have hd := digitChar_reads d (hds d (by simp))
  have norm : ∀ c ∈ (d :: ds).map Nat.digitChar, normalize c = c := by
    intro c hc
    obtain ⟨e, he, rfl⟩ := List.mem_map.1 hc
    exact (digitChar_reads e (hds e he)).2.2.2.2.1
  have tail := digitTail_digits ds (fun e he => hds e (by simp [he]))
  have same : ((if negative then ['-'] else []) ++ (d :: ds).map Nat.digitChar).map normalize =
      (if negative then ['-'] else []) ++ (d :: ds).map Nat.digitChar := by
    have minus : normalize '-' = '-' := by decide
    rw [List.map_append, List.map_congr_left norm]
    cases negative <;> simp [minus]
  rw [readChars, same]
  cases negative
  · simp [sign, digitRun, hd.2.2.2.2.2, tail]
  · simp [sign, digitRun, hd.2.2.2.2.2, tail]

/-- The reader gives back an integer that `toString` wrote exactly when it has at most `maxDigits`
digits. -/
theorem read?_toString (R : Int) :
    read? (toString R) = if R.natAbs < 10 ^ maxDigits then some R else none := by
  obtain ⟨ds, hds, hlt, hval⟩ := exists_digits R.natAbs
  have hne : ds ≠ [] := by
    rintro rfl
    exact Nat.toDigits_ne_nil hds
  have fits : ds.length ≤ maxDigits ↔ R.natAbs < 10 ^ maxDigits := by
    rw [← Nat.length_toDigits_le_iff (by omega) (by decide), hds, List.length_map]
  have h := readChars_digits (decide (R < 0)) ds hlt hne
  simp only [decide_eq_true_eq] at h
  rw [read?, read, toList_toString, hds, h]
  by_cases hfit : R.natAbs < 10 ^ maxDigits
  · have short : ¬ maxDigits < ds.length := by omega
    have back : (if R < 0 then -(R.natAbs : Int) else (R.natAbs : Int)) = R := by
      split
      · rw [Int.ofNat_natAbs_of_nonpos (by omega), Int.neg_neg]
      · exact Int.natAbs_of_nonneg (by omega)
    simp only [short, hfit, hval, back, if_false, if_true]
  · have long : maxDigits < ds.length := by omega
    simp only [long, hfit, if_false, if_true]

/-- `toString` writes an integer without a line feed or a carriage return. -/
theorem toString_no_line_end (R : Int) :
    '\n' ∉ (toString R).toList ∧ '\r' ∉ (toString R).toList := by
  have digit : ∀ d, d < 10 → Nat.digitChar d ≠ '\n' ∧ Nat.digitChar d ≠ '\r' := by decide
  obtain ⟨ds, hds, hlt, -⟩ := exists_digits R.natAbs
  rw [toList_toString, hds]
  constructor <;>
  · intro h
    rcases List.mem_append.1 h with h | h
    · split at h <;> simp_all
    · obtain ⟨d, hd, he⟩ := List.mem_map.1 h
      have := digit d (hlt d hd)
      simp_all

/-- The digits `toString` writes read back as the number, when there are few enough. -/
theorem valueOfDigits_toString {p : Nat} (hp : p < 10 ^ maxDigits) :
    valueOfDigits (toString p).toList = .ok p := by
  obtain ⟨ds, hds, hlt, hval⟩ := exists_digits p
  have fits : ¬ maxDigits < ds.length := by
    rw [not_lt, ← List.length_map (f := Nat.digitChar), ← hds,
      Nat.length_toDigits_le_iff (by omega) (by decide)]
    exact hp
  rw [Nat.toString_eq_repr, Nat.toList_repr, hds, valueOfDigits, List.length_map,
    if_neg fits, List.foldl_map]
  have digit : ∀ d, d < 10 → (digitValue? (Nat.digitChar d)).getD 0 = d := by decide
  have hmap : ds.map (fun d => (digitValue? (Nat.digitChar d)).getD 0) = ds := by
    rw [List.map_congr_left (fun d hd => digit d (hlt d hd)), List.map_id']
  calc Except.ok (ds.foldl (fun x y => x * 10 + (digitValue? (Nat.digitChar y)).getD 0) 0)
      = .ok ((ds.map fun d => (digitValue? (Nat.digitChar d)).getD 0).foldl
          (fun x y => x * 10 + y) 0) := by rw [List.foldl_map]
    _ = .ok p := by rw [hmap, ← hval]; rfl

/-- Every character `toString` writes for a natural number is an ASCII digit. -/
theorem mem_toString_nat {p : Nat} {c : Char} (hc : c ∈ (toString p).toList) :
    ∃ d, d < 10 ∧ Nat.digitChar d = c := by
  obtain ⟨ds, hds, hlt, -⟩ := exists_digits p
  rw [Nat.toString_eq_repr, Nat.toList_repr, hds] at hc
  obtain ⟨d, hd, rfl⟩ := List.mem_map.1 hc
  exact ⟨d, hlt d hd, rfl⟩

/-- What holds of the ten ASCII digits holds of every character `toString` writes for a natural
number. -/
@[elab_as_elim]
theorem toString_forall {P : Char → Prop} (h : ∀ d, d < 10 → P (Nat.digitChar d)) {p : Nat}
    {c : Char} (hc : c ∈ (toString p).toList) : P c := by
  obtain ⟨d, hd, rfl⟩ := mem_toString_nat hc
  exact h d hd

/-- `toString` writes at least one digit. -/
theorem toList_toString_ne_nil (p : Nat) : (toString p).toList ≠ [] := by
  rw [Nat.toString_eq_repr, Nat.toList_repr]
  exact Nat.toDigits_ne_nil

/-- A number below `10 ^ maxDigits` is written in at most `maxDigits` digits. -/
theorem length_toString_le {p : Nat} (hp : p < 10 ^ maxDigits) :
    (toString p).length ≤ maxDigits := by
  rw [← String.length_toList, Nat.toString_eq_repr, Nat.toList_repr,
    Nat.length_toDigits_le_iff (by omega) (by decide)]
  exact hp

end AgentLink.Text.Integer
