import ChipLink.Text.Numeral

/-!
# Reading numerals

What is read as an unsigned number is its decimal numeral, behind any number of zeros and at most
one plus sign. So every number below the bound can be read, every text stands for at most one
number, and a text that is refused is the numeral of no number below the bound.
-/

namespace ChipLink.Text

/-- A text is the decimal numeral of a number, behind any number of zeros and at most one plus
sign. -/
def Writes (text : List Char) (n : Nat) : Prop :=
  ∃ zeros, text = List.replicate zeros '0' ++ Nat.toDigits 10 n ∨
    text = '+' :: (List.replicate zeros '0' ++ Nat.toDigits 10 n)

/-! ## Single digits -/

/-- A digit has its value. -/
theorem digitValue_digitChar {digit : Nat} (small : digit < 10) :
    digitValue (Nat.digitChar digit) = some digit := by
  revert digit
  decide

/-- Only the ten digits have values. -/
theorem digitChar_of_digitValue {c : Char} {digit : Nat} (valued : digitValue c = some digit) :
    digit < 10 ∧ c = Nat.digitChar digit := by
  simp only [digitValue, Char.le_def, UInt32.le_iff_toNat_le] at valued
  split at valued
  next inside =>
    have low : '0'.val.toNat = 48 := rfl
    have high : '9'.val.toNat = 57 := rfl
    have zero : '0'.toNat = 48 := rfl
    have code : c.toNat = c.val.toNat := rfl
    obtain rfl := Option.some.inj valued
    have small : c.toNat - '0'.toNat < 10 := by omega
    refine ⟨small, Char.toNat_inj.mp ?_⟩
    rw [Nat.toNat_digitChar_of_lt_ten small]
    omega
  next => cases valued

/-! ## Runs of digits -/

/-- A run in two parts is read part by part. -/
theorem digitsValue_append (value : Nat) (first second : List Char) :
    digitsValue value (first ++ second) =
      (digitsValue value first).bind fun read => digitsValue read second := by
  induction first generalizing value with
  | nil => rfl
  | cons c rest inductionHypothesis =>
    simp only [List.cons_append, digitsValue]
    cases digitValue c with
    | none => rfl
    | some digit => exact inductionHypothesis _

/-- Zeros in front do not count. -/
theorem digitsValue_zeros (zeros : Nat) (rest : List Char) :
    digitsValue 0 (List.replicate zeros '0' ++ rest) = digitsValue 0 rest := by
  induction zeros with
  | zero => rfl
  | succ zeros inductionHypothesis => exact inductionHypothesis

/-- The decimal numeral of a number has the value of the number. -/
theorem digitsValue_toDigits (n : Nat) : digitsValue 0 (Nat.toDigits 10 n) = some n := by
  induction n using Nat.strongRecOn with
  | ind n inductionHypothesis =>
    by_cases single : n < 10
    · rw [Nat.toDigits_of_lt_base single]
      simp [digitsValue, digitValue_digitChar single]
    · have last : n % 10 < 10 := Nat.mod_lt n (by decide)
      have shorter : n / 10 < n := by omega
      have recombined : 10 * (n / 10) + n % 10 = n := Nat.div_add_mod n 10
      rw [Nat.toDigits_of_base_le (by decide) (Nat.le_of_not_lt single), digitsValue_append,
        inductionHypothesis _ shorter]
      simp [digitsValue, digitValue_digitChar last, recombined]

/-- Digits that are read behind those of a positive number go on with its numeral. -/
theorem toDigits_append_of_digitsValue {value n : Nat} {digits : List Char} (positive : 0 < value)
    (read : digitsValue value digits = some n) :
    Nat.toDigits 10 value ++ digits = Nat.toDigits 10 n := by
  induction digits generalizing value with
  | nil =>
    obtain rfl := Option.some.inj read
    exact List.append_nil _
  | cons c rest inductionHypothesis =>
    simp only [digitsValue, Option.bind_eq_bind, Option.bind_eq_some_iff] at read
    obtain ⟨digit, valued, read⟩ := read
    obtain ⟨small, rfl⟩ := digitChar_of_digitValue valued
    have grown : 0 < 10 * value + digit := by omega
    have extended : Nat.toDigits 10 value ++ [Nat.digitChar digit] =
        Nat.toDigits 10 (10 * value + digit) := by
      rw [← Nat.toDigits_of_lt_base small]
      exact Nat.toDigits_append_toDigits (by decide) positive small
    rw [← inductionHypothesis grown read, ← extended, List.append_assoc, List.singleton_append]

/-- At least one digit is read as a number exactly if it is the number's numeral behind zeros. -/
theorem readDigits_eq_some_iff {digits : List Char} {n : Nat} :
    readDigits digits = some n ↔
      ∃ zeros, digits = List.replicate zeros '0' ++ Nat.toDigits 10 n := by
  constructor
  · intro read
    induction digits with
    | nil => cases read
    | cons c rest inductionHypothesis =>
      simp only [readDigits, digitsValue, Option.bind_eq_bind, Option.bind_eq_some_iff] at read
      obtain ⟨digit, valued, read⟩ := read
      obtain ⟨small, rfl⟩ := digitChar_of_digitValue valued
      -- A zero is one of those in front, unless it is the whole numeral.
      by_cases leading : digit = 0
      · subst leading
        cases rest with
        | nil =>
          obtain rfl := Option.some.inj read
          exact ⟨0, rfl⟩
        | cons next others =>
          obtain ⟨zeros, same⟩ := inductionHypothesis read
          exact ⟨zeros + 1, congrArg ('0' :: ·) same⟩
      · have positive : 0 < 10 * 0 + digit := by omega
        have whole := toDigits_append_of_digitsValue positive read
        rw [Nat.mul_zero, Nat.zero_add, Nat.toDigits_of_lt_base small] at whole
        exact ⟨0, whole⟩
  · rintro ⟨zeros, rfl⟩
    have read : digitsValue 0 (List.replicate zeros '0' ++ Nat.toDigits 10 n) = some n := by
      rw [digitsValue_zeros, digitsValue_toDigits]
    cases digits : List.replicate zeros '0' ++ Nat.toDigits 10 n with
    | nil => exact absurd (List.append_eq_nil_iff.mp digits).2 Nat.toDigits_ne_nil
    | cons c rest =>
      rw [digits] at read
      exact read

/-! ## Unsigned numerals -/

/-- At most a plus sign in front is dropped. -/
theorem dropPlus_cases (text : List Char) : text = dropPlus text ∨ text = '+' :: dropPlus text := by
  unfold dropPlus
  split
  · exact .inr rfl
  · exact .inl rfl

/-- A run of digits has no plus sign in front. -/
theorem dropPlus_of_readDigits {digits : List Char} {n : Nat} (read : readDigits digits = some n) :
    dropPlus digits = digits := by
  rcases dropPlus_cases digits with same | signed
  · exact same.symm
  · rw [signed] at read
    cases read

/-- A text is read as a number below a bound exactly if it writes that number. -/
theorem readBelow_eq_some_iff {bound n : Nat} {text : List Char} :
    readBelow bound text = some n ↔ Writes text n ∧ n < bound := by
  have digits : readDigits (dropPlus text) = some n ↔ Writes text n := by
    constructor
    · intro read
      obtain ⟨zeros, same⟩ := readDigits_eq_some_iff.mp read
      refine ⟨zeros, ?_⟩
      rw [← same]
      exact dropPlus_cases text
    · rintro ⟨zeros, rfl | rfl⟩
      · have read : readDigits (List.replicate zeros '0' ++ Nat.toDigits 10 n) = some n :=
          readDigits_eq_some_iff.mpr ⟨zeros, rfl⟩
        rw [dropPlus_of_readDigits read, read]
      · exact readDigits_eq_some_iff.mpr ⟨zeros, rfl⟩
  rw [readBelow, Option.filter_eq_some_iff, digits, decide_eq_true_iff]

end ChipLink.Text
