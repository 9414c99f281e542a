import Monkey.Proofs.Atom
import Mathlib

/-!
# Close texts never collide

Some different texts share a digest, but they cannot be close to each other: no
two texts do whose bytes differ only within a window of three. Absorbing a byte
is reversible, so what follows the window cannot bring two digests together
again. Within the window every byte moves the digest by at most 255 before it is
multiplied. So the two digests differ, modulo `2 ^ 64`, by a combination of the
powers of the multiplier with small coefficients, and up to the third power such
a combination vanishes only when all of its coefficients do.
-/

namespace Monkey

namespace Digest

/-! ## Absorbing is reversible -/

/-- Multiplication by the prime can be undone modulo `2 ^ 64`. -/
theorem mul_prime_injective :
    Function.Injective fun digest : Digest => digest * prime := by
  intro left right equal
  have undone (digest : Digest) :
      digest * prime * 0xce965057aff6957b = digest := by
    rw [mul_assoc]
    exact mul_one digest
  rw [← undone left, ← undone right]
  exact congrArg (· * 0xce965057aff6957b) equal

/-- The digest before a byte was absorbed is determined by the one after. -/
theorem absorb_injective (byte : UInt8) :
    Function.Injective fun digest : Digest => digest.absorb byte := by
  intro left right equal
  have mixed : left ^^^ byte.toUInt64 = right ^^^ byte.toUInt64 :=
    mul_prime_injective equal
  exact (UInt64.xor_left_inj byte.toUInt64).mp mixed

theorem foldl_absorb_injective (bytes : List UInt8) :
    Function.Injective fun digest : Digest => bytes.foldl absorb digest := by
  induction bytes with
  | nil => exact Function.injective_id
  | cons byte rest inductionHypothesis =>
      exact inductionHypothesis.comp (absorb_injective byte)

/-! ## Drift -/

/-- How far mixing in a byte moves a digest, before the multiplication. -/
def drift (digest : Digest) (byte : UInt8) : ℤ :=
  (digest ^^^ byte.toUInt64).toNat - digest.toNat

/-- Mixing in a byte changes a digest only in its last byte. -/
theorem toNat_xor_div (digest : Digest) (byte : UInt8) :
    (digest ^^^ byte.toUInt64).toNat / 2 ^ 8 = digest.toNat / 2 ^ 8 := by
  have byteSmall : byte.toNat / 2 ^ 8 = 0 := Nat.div_eq_of_lt byte.toNat_lt
  rw [UInt64.toNat_xor, UInt8.toNat_toUInt64, Nat.xor_div_two_pow, byteSmall,
    Nat.xor_zero]

theorem abs_drift_le (digest : Digest) (byte : UInt8) :
    |digest.drift byte| ≤ 255 := by
  have sameFront := digest.toNat_xor_div byte
  rw [drift, abs_le]
  omega

/-- Different bytes move a digest differently. -/
theorem drift_injective (digest : Digest) :
    Function.Injective digest.drift := by
  intro byte other equal
  have sameMixed : digest ^^^ byte.toUInt64 = digest ^^^ other.toUInt64 := by
    apply UInt64.toNat_inj.mp
    unfold drift at equal
    omega
  have sameByte := (UInt64.xor_right_inj digest).mp sameMixed
  apply UInt8.toNat_inj.mp
  rw [← byte.toNat_toUInt64, ← other.toNat_toUInt64, sameByte]

/-- Absorbing a byte drifts, and then multiplies. -/
theorem toNat_absorb (digest : Digest) (byte : UInt8) :
    ((digest.absorb byte).toNat : ℤ) ≡
      (digest.toNat + digest.drift byte) * prime.toNat [ZMOD 2 ^ 64] := by
  rw [absorb, UInt64.toNat_mul, Int.natCast_mod, drift]
  push_cast
  rw [add_sub_cancel]
  exact Int.mod_modEq _ _

/-! ## Windows of three bytes -/

/-- Small coefficients of the first powers of the prime, of which the combination
vanishes modulo `2 ^ 64`, are zero. -/
theorem coefficients_eq_zero
    {first second third : ℤ}
    (firstSmall : |first| ≤ 510)
    (secondSmall : |second| ≤ 510)
    (thirdSmall : |third| ≤ 510)
    (vanishes : 2 ^ 64 ∣
      (first * prime.toNat + second) * prime.toNat + third) :
    first = 0 ∧ second = 0 ∧ third = 0 := by
  rw [abs_le] at firstSmall secondSmall thirdSmall
  -- The prime is `2 ^ 40 + 435`; its square loses the term in `2 ^ 80`.
  have primeEq : (prime.toNat : ℤ) = 2 ^ 40 + 435 := by decide
  have split : (first * (2 ^ 40 + 435) + second) * (2 ^ 40 + 435) + third =
      2 ^ 64 * (2 ^ 16 * first) +
        (2 ^ 40 * (870 * first + second) +
          (189225 * first + 435 * second + third)) := by
    ring
  have reduced : (2 : ℤ) ^ 64 ∣ 2 ^ 40 * (870 * first + second) +
      (189225 * first + 435 * second + third) := by
    rw [primeEq, split] at vanishes
    exact (Int.dvd_add_right (dvd_mul_right _ _)).mp vanishes
  -- What is left is too small to be a multiple without being zero.
  have exact : 2 ^ 40 * (870 * first + second) +
      (189225 * first + 435 * second + third) = 0 := by
    apply Int.eq_zero_of_abs_lt_dvd reduced
    rw [abs_lt]
    omega
  have highZero : 870 * first + second = 0 := by omega
  omega

/-- Two bytes move a digest by a combination of powers of the prime. -/
theorem toNat_absorb_absorb (digest : Digest) (first second : UInt8) :
    (((digest.absorb first).absorb second).toNat : ℤ) ≡
      ((digest.toNat + digest.drift first) * prime.toNat +
        (digest.absorb first).drift second) * prime.toNat [ZMOD 2 ^ 64] :=
  ((digest.absorb first).toNat_absorb second).trans
    (((digest.toNat_absorb first).add_right _).mul_right _)

/-- The drifts of two bytes are less than twice 256 apart. -/
theorem abs_drift_sub_drift_le
    (digest other : Digest)
    (byte otherByte : UInt8) :
    |digest.drift byte - other.drift otherByte| ≤ 510 := by
  have small := digest.abs_drift_le byte
  have otherSmall := other.abs_drift_le otherByte
  rw [abs_le] at small otherSmall ⊢
  omega

/-- Bytes that lead to one digest have moved it alike, step by step. -/
theorem drifts_eq_of_foldl_absorb_eq
    {digest : Digest}
    {first second third first' second' third' : UInt8}
    (equal : [first, second, third].foldl absorb digest =
      [first', second', third'].foldl absorb digest) :
    digest.drift first = digest.drift first' ∧
      (digest.absorb first).drift second =
        (digest.absorb first').drift second' ∧
      ((digest.absorb first).absorb second).drift third =
        ((digest.absorb first').absorb second').drift third' := by
  have mixed : (digest.absorb first).absorb second ^^^ third.toUInt64 =
      (digest.absorb first').absorb second' ^^^ third'.toUInt64 :=
    mul_prime_injective equal
  have moved := (digest.toNat_absorb_absorb first second).sub
    (digest.toNat_absorb_absorb first' second')
  have firstSmall := digest.abs_drift_sub_drift_le digest first first'
  have secondSmall := (digest.absorb first).abs_drift_sub_drift_le
    (digest.absorb first') second second'
  have thirdSmall := ((digest.absorb first).absorb second).abs_drift_sub_drift_le
    ((digest.absorb first').absorb second') third third'
  have vanishes : (2 : ℤ) ^ 64 ∣
      ((digest.drift first - digest.drift first') * prime.toNat +
        ((digest.absorb first).drift second -
          (digest.absorb first').drift second')) * prime.toNat +
        (((digest.absorb first).absorb second).drift third -
          ((digest.absorb first').absorb second').drift third') := by
    refine moved.dvd.trans (dvd_of_eq ?_)
    rw [drift.eq_def (absorb _ second), drift.eq_def (absorb _ second'), mixed]
    ring
  have zeros := coefficients_eq_zero firstSmall secondSmall thirdSmall vanishes
  simpa only [sub_eq_zero] using zeros

/-- Three bytes are determined by the digests before and after them. -/
theorem foldl_absorb_three_injective
    {digest : Digest}
    {first second third first' second' third' : UInt8}
    (equal : [first, second, third].foldl absorb digest =
      [first', second', third'].foldl absorb digest) :
    [first, second, third] = [first', second', third'] := by
  -- Equal drifts give equal bytes from the left, each from the same digest.
  obtain ⟨firstDrift, secondDrift, thirdDrift⟩ :=
    drifts_eq_of_foldl_absorb_eq equal
  obtain rfl := digest.drift_injective firstDrift
  obtain rfl := drift_injective _ secondDrift
  obtain rfl := drift_injective _ thirdDrift
  rfl

/-- Bytes within a window of three are determined by the digests before and after
them. -/
theorem foldl_absorb_window_injective
    {digest : Digest}
    {bytes others : List UInt8}
    (sameLength : bytes.length = others.length)
    (short : bytes.length ≤ 3)
    (equal : bytes.foldl absorb digest = others.foldl absorb digest) :
    bytes = others := by
  -- Zeros fill up the window on both sides.
  let fill := List.replicate (3 - bytes.length) (0 : UInt8)
  have filledLength : (bytes ++ fill).length = 3 := by
    rw [List.length_append, List.length_replicate]
    omega
  have otherLength : (others ++ fill).length = 3 := by
    rw [List.length_append, ← sameLength, ← List.length_append, filledLength]
  have filledEqual : (bytes ++ fill).foldl absorb digest =
      (others ++ fill).foldl absorb digest := by
    rw [List.foldl_append, List.foldl_append, equal]
  obtain ⟨first, second, third, filled⟩ := List.length_eq_three.mp filledLength
  obtain ⟨first', second', third', otherFilled⟩ :=
    List.length_eq_three.mp otherLength
  rw [filled, otherFilled] at filledEqual
  have sameFilled : bytes ++ fill = others ++ fill := by
    rw [filled, otherFilled]
    exact foldl_absorb_three_injective filledEqual
  exact List.append_cancel_right sameFilled

/-- Digests of bytes that differ only within a window of three are different. -/
theorem ofBytes_window_ne
    {bytes others : List UInt8}
    (sameLength : bytes.length = others.length)
    (short : bytes.length ≤ 3)
    (different : bytes ≠ others)
    (front back : List UInt8) :
    ofBytes (front ++ bytes ++ back) ≠ ofBytes (front ++ others ++ back) := by
  intro equal
  rw [ofBytes_append, ofBytes_append, ofBytes_append, ofBytes_append] at equal
  apply different
  apply foldl_absorb_window_injective sameLength short
  exact foldl_absorb_injective back equal

end Digest

/-! ## Texts that differ within a window -/

/-- The bytes of a string in UTF-8. -/
def utf8 (content : String) : List UInt8 :=
  content.toUTF8.data.toList

theorem utf8_injective : Function.Injective utf8 := by
  intro left right equal
  apply String.toByteArray_inj.mp
  apply ByteArray.ext
  exact Array.toList_inj.mp equal

theorem utf8_append (front back : String) :
    utf8 (front ++ back) = utf8 front ++ utf8 back := by
  simp [utf8]

theorem utf8_singleton (char : Char) :
    utf8 (String.singleton char) = String.utf8EncodeChar char := by
  simp [utf8, List.utf8Encode_singleton]

theorem length_utf8_singleton (char : Char) :
    (utf8 (String.singleton char)).length = char.utf8Size := by
  rw [utf8_singleton, String.length_utf8EncodeChar]

theorem utf8_singleton_ne
    {char other : Char}
    (different : char ≠ other) :
    utf8 (String.singleton char) ≠ utf8 (String.singleton other) := by
  intro equal
  exact different (String.singleton_inj.mp (utf8_injective equal))

section

variable [Embedding]

section Requests

variable {σ : Type} [KeySource σ] [LawfulKeySource σ] {known : Set Text}

/-- Texts of different digests are given different keys. -/
theorem requested_keys_ne
    {left right : Text}
    (leftKnown : left ∈ known)
    (rightKnown : right ∈ known)
    (differentDigests :
      Digest.ofString left.content ≠ Digest.ofString right.content) :
    ∃ leftKey rightKey,
      Answers known ((Value.text left).requestKey? : StateM σ (Option Key))
        (some leftKey) ∧
      Answers known ((Value.text right).requestKey? : StateM σ (Option Key))
        (some rightKey) ∧
      leftKey ≠ rightKey := by
  have leftAtom : (Value.text left).Known known := leftKnown
  have rightAtom : (Value.text right).Known known := rightKnown
  refine ⟨_, _, answers_requestKey? leftAtom, answers_requestKey? rightAtom, ?_⟩
  intro sameKey
  exact differentDigests ((Atom.ofString_eq_iff _ _).mp sameKey)

end Requests

/-- Close texts never collide. Bytes that differ only within a window of three
have different digests, whatever stands before and after the window. So two texts
are given different keys if their bytes differ in a single place, and also if one
is the other with a character replaced by another one that takes up as many
bytes, at most three. -/
theorem close_texts_never_collide
    (σ : Type)
    [KeySource σ]
    [LawfulKeySource σ]
    (known : Set Text) :
    (∀ front back bytes others : List UInt8,
      bytes.length = others.length -> bytes.length ≤ 3 -> bytes ≠ others ->
        Digest.ofBytes (front ++ bytes ++ back) ≠
          Digest.ofBytes (front ++ others ++ back)) ∧
    (∀ left ∈ known, ∀ right ∈ known,
      ∀ (front back : List UInt8) (byte other : UInt8),
        byte ≠ other ->
          utf8 left.content = front ++ [byte] ++ back ->
          utf8 right.content = front ++ [other] ++ back ->
            ∃ leftKey rightKey,
              Answers known
                ((Value.text left).requestKey? : StateM σ (Option Key))
                (some leftKey) ∧
              Answers known
                ((Value.text right).requestKey? : StateM σ (Option Key))
                (some rightKey) ∧
              leftKey ≠ rightKey) ∧
    ∀ left ∈ known, ∀ right ∈ known,
      ∀ (front back : String) (char other : Char),
        char ≠ other -> char.utf8Size = other.utf8Size ->
          char.utf8Size ≤ 3 ->
          left.content = front ++ String.singleton char ++ back ->
          right.content = front ++ String.singleton other ++ back ->
            ∃ leftKey rightKey,
              Answers known
                ((Value.text left).requestKey? : StateM σ (Option Key))
                (some leftKey) ∧
              Answers known
                ((Value.text right).requestKey? : StateM σ (Option Key))
                (some rightKey) ∧
              leftKey ≠ rightKey := by
  refine ⟨?_, ?_, ?_⟩
  · intro front back bytes others sameLength short different
    exact Digest.ofBytes_window_ne sameLength short different front back
  · intro left leftKnown right rightKnown front back byte other different
      leftBytes rightBytes
    apply requested_keys_ne leftKnown rightKnown
    change Digest.ofBytes (utf8 left.content) ≠
      Digest.ofBytes (utf8 right.content)
    rw [leftBytes, rightBytes]
    apply Digest.ofBytes_window_ne
    · rfl
    · simp
    · simpa using different
  · intro left leftKnown right rightKnown front back char other different
      sameSize short leftContent rightContent
    apply requested_keys_ne leftKnown rightKnown
    change Digest.ofBytes (utf8 left.content) ≠
      Digest.ofBytes (utf8 right.content)
    rw [leftContent, rightContent, utf8_append, utf8_append, utf8_append,
      utf8_append]
    apply Digest.ofBytes_window_ne
    · rw [length_utf8_singleton, length_utf8_singleton, sameSize]
    · rwa [length_utf8_singleton]
    · exact utf8_singleton_ne different

end

/-- Two texts of which one has another character of three bytes in the middle,
and one of them with its last letter replaced. -/
theorem close_texts_never_collide_for_one_character :
    let left : Text := ⟨0, "a日z"⟩
    let right : Text := ⟨1, "a本z"⟩
    let ending : Text := ⟨2, "a本y"⟩
    let known : Set Text := {left, right, ending}
    Faithful known ({} : Memo) ∧
      (∃ leftKey rightKey,
        Answers known ((Value.text left).requestKey? : StateM Memo (Option Key))
          (some leftKey) ∧
        Answers known
          ((Value.text right).requestKey? : StateM Memo (Option Key))
          (some rightKey) ∧
        leftKey ≠ rightKey) ∧
      (∃ rightKey endingKey,
        Answers known
          ((Value.text right).requestKey? : StateM Memo (Option Key))
          (some rightKey) ∧
        Answers known
          ((Value.text ending).requestKey? : StateM Memo (Option Key))
          (some endingKey) ∧
        rightKey ≠ endingKey) ∧
      Digest.ofBytes ([7] ++ [1, 2, 3] ++ []) ≠
        Digest.ofBytes ([7] ++ [3, 2, 1] ++ []) := by
  intro left right ending known
  have faithful : Faithful known ({} : Memo) :=
    Memo.faithful_of_distinct_cells [left, right, ending] (by simp [known])
      (by simp [left, right, ending])
  have leftKnown : left ∈ known := Or.inl rfl
  have rightKnown : right ∈ known := Or.inr (Or.inl rfl)
  have endingKnown : ending ∈ known := Or.inr (Or.inr rfl)
  obtain ⟨windows, bytes, characters⟩ := close_texts_never_collide Memo known
  refine ⟨faithful, ?_, ?_, ?_⟩
  · exact characters left leftKnown right rightKnown "a" "z" '日' '本'
      (by decide) (by decide) (by decide) (by decide) (by decide)
  · exact bytes right rightKnown ending endingKnown (utf8 "a本") []
      (122 : UInt8) 121 (by decide) (by decide) (by decide)
  · exact windows [7] [] [1, 2, 3] [3, 2, 1] rfl (by decide) (by decide)

end Monkey
