/-
Digits in bases up to sixteen: their values, their characters and the numbers they spell.

`readNat` reads a whole text as a number in a base, and `hex` writes one without leading zeros.
-/
namespace Switchyard.Text

/-! ## Values and characters -/

/-- The value of a hexadecimal digit of either case. -/
def hexValue? (c : Char) : Option Nat :=
  if '0' ≤ c ∧ c ≤ '9' then some (c.toNat - 48)
  else if 'a' ≤ c ∧ c ≤ 'f' then some (c.toNat - 87)
  else if 'A' ≤ c ∧ c ≤ 'F' then some (c.toNat - 55)
  else none

/-- The value of a digit in a base of at most sixteen. -/
def digitValue? (base : Nat) (c : Char) : Option Nat :=
  (hexValue? c).filter (· < base)

/-- The lower-case hexadecimal digit of a value below sixteen. -/
def lowerHexDigit (n : Nat) : Char :=
  Char.ofNat (if n < 10 then 48 + n else 87 + n)

/-- The upper-case hexadecimal digit of a value below sixteen. -/
def upperHexDigit (n : Nat) : Char :=
  Char.ofNat (if n < 10 then 48 + n else 55 + n)

/-! ## Numbers -/

/-- The number that digits spell after an already read part. -/
def readDigits (base : Nat) : Nat → List Char → Option Nat
  | acc, [] => some acc
  | acc, c :: cs => (digitValue? base c).bind fun d => readDigits base (acc * base + d) cs

/-- The number that a non-empty text of digits spells. -/
def readNat (base : Nat) (cs : List Char) : Option Nat :=
  if cs.isEmpty then none else readDigits base 0 cs

/-- The decimal text of a number. -/
def decimal (n : Nat) : List Char := Nat.toDigits 10 n

/-- The lower-case hexadecimal text of a number, without leading zeros. -/
def hex (n : Nat) : List Char := Nat.toDigits 16 n

/-- Exactly `width` lower-case hexadecimal digits of a number, high digits first. -/
def hexPadded : Nat → Nat → List Char
  | 0, _ => []
  | width + 1, n => hexPadded width (n / 16) ++ [lowerHexDigit (n % 16)]

/-! ## Reading back what was written -/

theorem hexValue?_digitChar {n : Nat} (h : n < 16) : hexValue? n.digitChar = some n := by
  have all : ∀ m : Fin 16, hexValue? m.val.digitChar = some m.val := by decide
  exact all ⟨n, h⟩

theorem readDigits_append (base acc : Nat) (cs ds : List Char) :
    readDigits base acc (cs ++ ds) =
      (readDigits base acc cs).bind fun value => readDigits base value ds := by
  induction cs generalizing acc with
  | nil => rfl
  | cons c cs ih =>
      cases hc : digitValue? base c with
      | none => simp [readDigits, hc]
      | some d => simp [readDigits, hc, ih]

/-- The digits of a number spell it. -/
theorem readDigits_toDigits {base : Nat} (hlow : 1 < base) (hhigh : base ≤ 16) (n : Nat) :
    readDigits base 0 (Nat.toDigits base n) = some n := by
  have last : ∀ acc d : Nat, d < base →
      readDigits base acc [d.digitChar] = some (acc * base + d) := by
    intro acc d hd
    have hvalue : digitValue? base d.digitChar = some d := by
      rw [digitValue?, hexValue?_digitChar (by omega)]
      simp [hd]
    simp [readDigits, hvalue]
  induction n using Nat.strongRecOn with
  | ind n ih =>
      rw [Nat.toDigits_eq_if hlow]
      by_cases hn : n < base
      · simpa [hn] using last 0 n hn
      · -- The last digit is taken off; what is left is a smaller number.
        have hsmaller : n / base < n := Nat.div_lt_self (by omega) hlow
        rw [if_neg hn, readDigits_append, ih _ hsmaller, Option.bind_some,
          last _ _ (Nat.mod_lt _ (by omega)), Nat.mul_comm, Nat.div_add_mod]

/-- Every character of what spells a number is a digit. -/
theorem hexValue?_ne_none_of_readDigits {base acc n : Nat} {cs : List Char} {c : Char}
    (h : readDigits base acc cs = some n) (hc : c ∈ cs) : hexValue? c ≠ none := by
  induction cs generalizing acc with
  | nil => simp at hc
  | cons d cs ih =>
      simp only [readDigits, Option.bind_eq_some_iff] at h
      obtain ⟨value, hd, hrest⟩ := h
      rcases List.mem_cons.1 hc with rfl | hc
      · intro hnone
        simp [digitValue?, hnone] at hd
      · exact ih hrest hc

/-- Numbers with the same digits are the same. -/
theorem toDigits_injective {base m n : Nat} (hlow : 1 < base) (hhigh : base ≤ 16)
    (h : Nat.toDigits base m = Nat.toDigits base n) : m = n := by
  have hread := readDigits_toDigits hlow hhigh m
  rw [h, readDigits_toDigits hlow hhigh n] at hread
  exact (Option.some.inj hread).symm

theorem decimal_injective {m n : Nat} (h : decimal m = decimal n) : m = n :=
  toDigits_injective (by omega) (by omega) h

theorem hex_injective {m n : Nat} (h : hex m = hex n) : m = n :=
  toDigits_injective (by omega) (by omega) h

theorem notMem_decimal {c : Char} (hc : hexValue? c = none) (n : Nat) : c ∉ decimal n :=
  fun h => hexValue?_ne_none_of_readDigits (readDigits_toDigits (by omega) (by omega) n) h hc

theorem notMem_hex {c : Char} (hc : hexValue? c = none) (n : Nat) : c ∉ hex n :=
  fun h => hexValue?_ne_none_of_readDigits (readDigits_toDigits (by omega) (by omega) n) h hc

theorem hex_ne_nil (n : Nat) : hex n ≠ [] := Nat.toDigits_ne_nil

/-! ## Decimal numbers -/

theorem digitValue?_ten_eq_some_iff {c : Char} {d : Nat} :
    digitValue? 10 c = some d ↔ c.isDigit = true ∧ c.toNat - '0'.toNat = d := by
  have hzero : '0'.toNat = 48 := rfl
  rw [digitValue?, Option.filter_eq_some_iff]
  simp only [hexValue?, Char.le_def, UInt32.le_iff_toNat_le, Char.isDigit, Char.toNat_val,
    Bool.and_eq_true, decide_eq_true_eq, ge_iff_le]
  grind

theorem hexValue?_ne_none_of_isDigit {c : Char} (h : c.isDigit = true) : hexValue? c ≠ none := by
  intro hnone
  have hvalue := digitValue?_ten_eq_some_iff.2 ⟨h, rfl⟩
  simp [digitValue?, hnone] at hvalue

theorem readDigits_ten_eq_some_iff {acc n : Nat} {cs : List Char} :
    readDigits 10 acc cs = some n ↔
      (∀ c ∈ cs, c.isDigit = true) ∧ Nat.ofDigitChars 10 cs acc = n := by
  induction cs generalizing acc with
  | nil => simp [readDigits]
  | cons c cs ih =>
      simp only [readDigits, Option.bind_eq_some_iff, digitValue?_ten_eq_some_iff, ih,
        List.forall_mem_cons, Nat.ofDigitChars_cons]
      rw [Nat.mul_comm 10 acc]
      constructor
      · rintro ⟨d, ⟨hdigit, rfl⟩, hrest, hvalue⟩
        exact ⟨⟨hdigit, hrest⟩, hvalue⟩
      · rintro ⟨⟨hdigit, hrest⟩, hvalue⟩
        exact ⟨_, ⟨hdigit, rfl⟩, hrest, hvalue⟩

/-- What reads as a decimal number is one or more digits that stand for it. -/
theorem readNat_ten_eq_some_iff {n : Nat} {cs : List Char} :
    readNat 10 cs = some n ↔
      cs ≠ [] ∧ (∀ c ∈ cs, c.isDigit = true) ∧ Nat.ofDigitChars 10 cs 0 = n := by
  rw [readNat, ← readDigits_ten_eq_some_iff]
  cases cs with
  | nil => simp
  | cons c cs => simp

end Switchyard.Text
