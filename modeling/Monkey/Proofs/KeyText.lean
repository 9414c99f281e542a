import Mathlib
import Monkey.Key
import Monkey.Proofs.CanonicalOrder
import Monkey.Proofs.QuotedReading

/-!
# The texts of keys

A key is shown as the name of its kind, a colon, and its digest in sixteen
hexadecimal digits. Sixteen digits are as many as any digest needs, and each
number below the power of sixteen is written with a fixed number of digits in
exactly one way. So the digits are read back as the digest, and because all keys
show equally many of them, what stands in front of them is read back as the kind.
-/

namespace Monkey

/-! ## Numerals of a fixed width -/

namespace Hexadecimal

/-- The digits of lower-case numerals, by their values. -/
def lowerCase : List Char :=
  ['0', '1', '2', '3', '4', '5', '6', '7', '8', '9', 'a', 'b', 'c', 'd', 'e',
    'f']

theorem mem_lowerCase_iff (char : Char) :
    char ∈ lowerCase ↔ ∃ number < 16, digit number = char := by
  have listed : lowerCase = (List.range 16).map digit := rfl
  simp [listed]

theorem digitValue_digit {number : Nat} (small : number < 16) :
    digitValue (digit number) = number := by
  revert number
  decide

theorem digitValue_lt {char : Char} (member : char ∈ lowerCase) :
    digitValue char < 16 := by
  obtain ⟨number, small, rfl⟩ := (mem_lowerCase_iff char).mp member
  rwa [digitValue_digit small]

theorem digit_digitValue {char : Char} (member : char ∈ lowerCase) :
    digit (digitValue char) = char := by
  obtain ⟨number, small, rfl⟩ := (mem_lowerCase_iff char).mp member
  rw [digitValue_digit small]

theorem mem_lowerCase_of_mem_digits
    {places number : Nat}
    {char : Char}
    (member : char ∈ digits places number) :
    char ∈ lowerCase := by
  induction places generalizing number with
  | zero => simp [digits] at member
  | succ places inductionHypothesis =>
      rw [digits, List.mem_append, List.mem_singleton] at member
      rcases member with leading | rfl
      · exact inductionHypothesis leading
      · exact (mem_lowerCase_iff _).mpr ⟨_, Nat.mod_lt _ (by decide), rfl⟩

/-- A fixed number of digits stands for a number up to the power of sixteen. -/
theorem value_digits (places number : Nat) :
    value (digits places number) = number % 16 ^ places := by
  induction places generalizing number with
  | zero => simp [digits, value, Nat.mod_one]
  | succ places inductionHypothesis =>
      rw [digits, value_append_singleton, inductionHypothesis,
        digitValue_digit (Nat.mod_lt _ (by decide)), Nat.pow_succ', Nat.mod_mul]
      omega

/-- Digits are the ones that the number that they stand for is written with. -/
theorem digits_value
    {numeral : List Char}
    (lower : ∀ char ∈ numeral, char ∈ lowerCase) :
    digits numeral.length (value numeral) = numeral := by
  induction numeral using List.reverseRecOn with
  | nil => rfl
  | append_singleton leading last inductionHypothesis =>
      simp only [List.forall_mem_append, List.forall_mem_singleton] at lower
      have small := digitValue_lt lower.2
      have quotient : (16 * value leading + digitValue last) / 16 =
          value leading := by omega
      have remainder : (16 * value leading + digitValue last) % 16 =
          digitValue last := by omega
      rw [List.length_append, List.length_singleton, value_append_singleton,
        digits, quotient, remainder, inductionHypothesis lower.1,
        digit_digitValue lower.2]

/-- A numeral of lower-case digits in a number of places stands for a number. -/
structure Spells (places number : Nat) (numeral : List Char) : Prop where
  length_eq : numeral.length = places
  lower : ∀ char ∈ numeral, char ∈ lowerCase
  value_eq : value numeral = number

/-- Exactly one numeral in a number of places stands for a number that has no
more digits. -/
theorem spells_iff
    {places number : Nat}
    (fits : number < 16 ^ places)
    (numeral : List Char) :
    Spells places number numeral ↔ numeral = digits places number := by
  constructor
  · rintro ⟨rfl, lower, rfl⟩
    exact (digits_value lower).symm
  · rintro rfl
    exact ⟨length_digits places number, fun _ => mem_lowerCase_of_mem_digits,
      by rw [value_digits, Nat.mod_eq_of_lt fits]⟩

end Hexadecimal

/-! ## Texts of keys -/

/-- The digits of a digest are the sixteen that stand for it. -/
theorem Digest.spells_hex_iff (digest : Digest) (numeral : List Char) :
    Hexadecimal.Spells 16 digest.toNat numeral ↔
      String.ofList numeral = digest.hex := by
  have fits : digest.toNat < 16 ^ 16 := digest.toNat_lt
  rw [Hexadecimal.spells_iff fits, Digest.hex, String.ofList_inj]

theorem Digest.hex_injective : Function.Injective Digest.hex := by
  intro left right sameHex
  have spelled := (spells_hex_iff left _).mpr rfl
  have otherSpelled := (spells_hex_iff right _).mpr sameHex
  exact UInt64.toNat_inj.mp (spelled.value_eq.symm.trans otherSpelled.value_eq)

theorem Digest.length_toList_hex (digest : Digest) :
    digest.hex.toList.length = 16 := by
  simp [hex]

/-- The text of a key tells its kind from its digest. -/
theorem Key.display_injective : Function.Injective Key.display := by
  intro left right sameText
  have sameChars := congrArg String.toList sameText
  rw [display, display, String.toList_append,
    String.toList_append (t := right.digest.hex)] at sameChars
  -- All digests have equally many digits, so the texts part at one place.
  have sameLength : left.digest.hex.toList.length =
      right.digest.hex.toList.length :=
    left.digest.length_toList_hex.trans right.digest.length_toList_hex.symm
  obtain ⟨sameFront, sameHex⟩ := List.append_inj' sameChars sameLength
  have sameName := String.append_left_inj _ |>.mp (String.toList_inj.mp sameFront)
  have sameDigest := Digest.hex_injective (String.toList_inj.mp sameHex)
  obtain ⟨kind, digest⟩ := left
  obtain ⟨otherKind, otherDigest⟩ := right
  simp only [Key.mk.injEq]
  exact ⟨Kind.name_injective sameName, sameDigest⟩

/-- The text of a key loses nothing. For every kind and every digest it is the name
of the kind, a colon, `0x`, and the sixteen lower-case hexadecimal digits that stand
for the digest; there is one such text. So two keys have the same text exactly when
they are equal. -/
theorem key_texts_lose_nothing :
    (∀ (kind : Kind) (digest : Digest) (text : String),
      (Key.mk kind digest).display = text ↔
        ∃ numeral, Hexadecimal.Spells 16 digest.toNat numeral ∧
          text = kind.name ++ ":" ++ "0x" ++ String.ofList numeral) ∧
    ∀ key other : Key, key.display = other.display ↔ key = other := by
  refine ⟨?_, fun key other => Key.display_injective.eq_iff⟩
  intro kind digest text
  have front : kind.name ++ ":0x" = kind.name ++ ":" ++ "0x" := by
    rw [String.append_assoc]
    rfl
  simp only [Digest.spells_hex_iff, Key.display, front]
  constructor
  · rintro rfl
    exact ⟨digest.hex.toList, String.ofList_toList, by rw [String.ofList_toList]⟩
  · rintro ⟨numeral, spelled, rfl⟩
    rw [spelled]

example : (Key.ofInt 255).display = "INTEGER:0x00000000000000ff" := by
  decide

end Monkey
