import Mathlib
import Monkey.Proofs.CloseTexts

/-!
# The order of bytes

Texts are compared character by character, by the codes of their characters.
Comparing their bytes in UTF-8 instead gives the same order. The first byte of a
character tells how many bytes it has and grows with the code, and the bytes that
follow are the lower digits of the code in base 64. So of two different
characters the one with the lower code has the lower byte at the first place
where their bytes differ.
-/

namespace Monkey
namespace Utf8

/-! ## Bytes of a character -/

/-- The bytes that follow the first one of a character: the lower digits of its
code in base 64. -/
def following : (places : Nat) -> (code : Nat) -> List UInt8
  | 0, _ => []
  | places + 1, code =>
      UInt8.ofNat (code / 64 ^ places % 64 + 0x80) :: following places code

/-- The number of bytes that follow the first one of a character. -/
def places (code : Nat) : Nat :=
  if code ≤ 0x7f then 0
  else if code ≤ 0x7ff then 1
  else if code ≤ 0xffff then 2
  else 3

/-- The first byte of a character. -/
def leading (code : Nat) : Nat :=
  if code ≤ 0x7f then code
  else if code ≤ 0x7ff then code / 64 + 0xc0
  else if code ≤ 0xffff then code / 4096 + 0xe0
  else code / 262144 + 0xf0

theorem toNat_le (char : Char) : char.toNat ≤ 0x10ffff := by
  have valid : char.toNat.isValidChar := char.valid
  unfold Nat.isValidChar at valid
  omega

theorem leading_lt (char : Char) : leading char.toNat < 256 := by
  have bound := toNat_le char
  unfold leading
  split_ifs <;> omega

/-- A character is written as its first byte and those that follow it. -/
theorem utf8EncodeChar_eq (char : Char) :
    String.utf8EncodeChar char =
      UInt8.ofNat (leading char.toNat) ::
        following (places char.toNat) char.toNat := by
  have bound := toNat_le char
  simp only [String.utf8EncodeChar, Char.toNat_val, leading, places]
  generalize char.toNat = code at bound
  split_ifs
  case pos => rfl
  case pos =>
    rw [Nat.mod_eq_of_lt (by omega : code / 64 < 0x20)]
    simp [following]
  case pos =>
    rw [Nat.mod_eq_of_lt (by omega : code / 4096 < 0x10)]
    simp [following]
  case neg =>
    rw [Nat.mod_eq_of_lt (by omega : code / 262144 < 0x08)]
    simp [following]

/-! ## Order -/

/-- A lower code has a lower first byte, or else both have the same first byte
and differ in the digits that follow it. -/
theorem leading_lt_or
    {code other : Nat}
    (less : code < other) :
    leading code < leading other ∨
      leading code = leading other ∧ places code = places other ∧
        code / 64 ^ places code = other / 64 ^ places code := by
  unfold leading places
  split_ifs <;> norm_num <;> omega

/-- Codes that differ only in some lower digits are in the order of these
digits. -/
theorem following_append_lt
    {places code other : Nat}
    (less : code < other)
    (sameFront : code / 64 ^ places = other / 64 ^ places)
    (rest otherRest : List UInt8) :
    following places code ++ rest < following places other ++ otherRest := by
  induction places with
  | zero => simp at sameFront; omega
  | succ places inductionHypothesis =>
      have ordered : code / 64 ^ places ≤ other / 64 ^ places :=
        Nat.div_le_div_right less.le
      rw [Nat.pow_succ, ← Nat.div_div_eq_div_mul,
        ← Nat.div_div_eq_div_mul] at sameFront
      rw [following, following, List.cons_append, List.cons_append,
        List.cons_lt_cons_iff]
      -- The highest of the lower digits decides, unless it is the same in both.
      rcases ordered.lt_or_eq with lower | same
      · left
        have digit_lt (number : Nat) : number % 64 + 0x80 < UInt8.size := by
          change _ < 256
          omega
        rw [UInt8.lt_iff_toNat_lt, UInt8.toNat_ofNat_of_lt' (digit_lt _),
          UInt8.toNat_ofNat_of_lt' (digit_lt _)]
        omega
      · right
        exact ⟨by rw [same], inductionHypothesis same⟩

/-- The bytes of characters, whatever follows them, are in the order of the
characters. -/
theorem utf8EncodeChar_append_lt
    {char other : Char}
    (less : char < other)
    (rest otherRest : List UInt8) :
    String.utf8EncodeChar char ++ rest <
      String.utf8EncodeChar other ++ otherRest := by
  rw [utf8EncodeChar_eq, utf8EncodeChar_eq, List.cons_append,
    List.cons_append, List.cons_lt_cons_iff]
  have lessCode : char.toNat < other.toNat := less
  rcases leading_lt_or lessCode with lower | ⟨same, samePlaces, sameFront⟩
  · left
    rwa [UInt8.lt_iff_toNat_lt, UInt8.toNat_ofNat_of_lt' (leading_lt char),
      UInt8.toNat_ofNat_of_lt' (leading_lt other)]
  · right
    rw [same, ← samePlaces]
    exact ⟨rfl, following_append_lt lessCode sameFront rest otherRest⟩

end Utf8

/-! ## Texts -/

/-- The bytes of a text are those of its characters. -/
theorem utf8_eq_flatMap (content : String) :
    utf8 content = content.toList.flatMap String.utf8EncodeChar := by
  obtain ⟨chars, rfl⟩ : ∃ chars, content = String.ofList chars :=
    ⟨content.toList, String.ofList_toList.symm⟩
  simp [utf8, List.utf8Encode]

/-- Texts are in the order of their bytes. -/
theorem utf8_lt_utf8 {left right : String} (less : left < right) :
    utf8 left < utf8 right := by
  have lessChars : List.Lex (· < ·) left.toList right.toList := less
  rw [utf8_eq_flatMap, utf8_eq_flatMap]
  generalize left.toList = chars at lessChars ⊢
  generalize right.toList = others at lessChars ⊢
  induction lessChars with
  | nil =>
      rw [List.flatMap_nil, List.flatMap_cons, Utf8.utf8EncodeChar_eq]
      exact List.nil_lt_cons _ _
  | cons _ inductionHypothesis =>
      rw [List.flatMap_cons, List.flatMap_cons]
      exact List.append_left_lt inductionHypothesis
  | rel lessChar =>
      rw [List.flatMap_cons, List.flatMap_cons]
      exact Utf8.utf8EncodeChar_append_lt lessChar _ _

end Monkey
