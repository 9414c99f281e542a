import Monkey.Proofs.Reading
import Monkey.Text.Quoted

/-!
# Reading quoted texts

Between quotes no character is written like the beginning of another, and none
like the closing quote: an escaped character begins with a backslash, the
character after it says which escape it is, and a code in hexadecimal ends with
its brace. So a quoted text is read back character by character, and its closing
quote shows where it ends, whatever stands in the text and behind it.
-/

namespace Monkey

/-! ## Hexadecimal numerals -/

namespace Hexadecimal

/-- What holds of one digit, and of a numeral with one more digit, holds of the
digits of every number. -/
theorem toDigits_induction
    {motive : Nat -> List Char -> Prop}
    (single : ∀ last, last < 16 -> motive last [last.digitChar])
    (more : ∀ front last, last < 16 ->
      motive front (Nat.toDigits 16 front) ->
        motive (16 * front + last)
          (Nat.toDigits 16 front ++ [last.digitChar]))
    (number : Nat) :
    motive number (Nat.toDigits 16 number) := by
  induction number using Nat.strongRecOn with
  | ind number inductionHypothesis =>
      by_cases small : number < 16
      · rw [Nat.toDigits_of_lt_base small]
        exact single number small
      · have shorter : number / 16 < number := by omega
        have extended := more (number / 16) (number % 16)
          (Nat.mod_lt _ (by decide)) (inductionHypothesis _ shorter)
        rwa [Nat.div_add_mod,
          ← Nat.toDigits_of_base_le (by decide) (by omega)] at extended

/-- The value of a lower-case digit. -/
def digitValue (digit : Char) : Nat :=
  if digit.isDigit then digit.toNat - '0'.toNat
  else 10 + (digit.toNat - 'a'.toNat)

theorem digitValue_digitChar {number : Nat} (small : number < 16) :
    digitValue number.digitChar = number := by
  revert number
  decide

/-- The number that a sequence of digits stands for. -/
def value (digits : List Char) : Nat :=
  digits.foldl (fun number digit => 16 * number + digitValue digit) 0

theorem value_append_singleton (digits : List Char) (digit : Char) :
    value (digits ++ [digit]) = 16 * value digits + digitValue digit :=
  List.foldl_concat ..

/-- The digits of a number stand for the number. -/
theorem value_toDigits (number : Nat) :
    value (Nat.toDigits 16 number) = number := by
  induction number using toDigits_induction with
  | single last small =>
      rw [← List.nil_append [_], value_append_singleton,
        digitValue_digitChar small]
      exact Nat.zero_add last
  | more front last small inductionHypothesis =>
      rw [value_append_singleton, inductionHypothesis,
        digitValue_digitChar small]

/-- Digits are no braces. -/
theorem digitChar_ne_brace {number : Nat} (small : number < 16) :
    number.digitChar ≠ '\x7d' := by
  revert number
  decide

theorem brace_not_mem_toDigits (number : Nat) :
    '\x7d' ∉ Nat.toDigits 16 number := by
  induction number using toDigits_induction with
  | single last small =>
      rw [List.mem_singleton]
      exact (digitChar_ne_brace small).symm
  | more front last small inductionHypothesis =>
      rw [List.mem_append, List.mem_singleton]
      exact not_or_intro inductionHypothesis (digitChar_ne_brace small).symm

end Hexadecimal

/-! ## Reading one character -/

namespace Quoted

/-- The character that a backslash and another character stand for. -/
def escaped : Char -> Char
  | 'n' => '\n'
  | 'r' => '\r'
  | 't' => '\t'
  | '0' => '\x00'
  | other => other

/-- Read one character of a quoted text, unless the text ends. -/
def next? : List Char -> Option (Char × List Char)
  | [] | ['\\'] | '"' :: _ => none
  | '\\' :: 'u' :: '\x7b' :: rest =>
      some (.ofNat (Hexadecimal.value (rest.takeWhile (· != '\x7d'))),
        (rest.dropWhile (· != '\x7d')).tail)
  | '\\' :: letter :: rest => some (escaped letter, rest)
  | char :: rest => some (char, rest)

theorem next?_of_plain
    {char : Char}
    (notQuote : char ≠ '"')
    (notBackslash : char ≠ '\\')
    (rest : List Char) :
    next? (char :: rest) = some (char, rest) := by
  unfold next?
  split <;> simp_all

/-- A character written by its code is read back. -/
theorem next?_code (char : Char) (rest : List Char) :
    next? (['\\', 'u', '\x7b'] ++ Nat.toDigits 16 char.toNat ++ ['\x7d'] ++
      rest) = some (char, rest) := by
  have digits : ∀ digit ∈ Nat.toDigits 16 char.toNat,
      (digit != '\x7d') = true := by
    intro digit member
    rw [bne_iff_ne]
    rintro rfl
    exact Hexadecimal.brace_not_mem_toDigits _ member
  simp only [List.append_assoc, List.cons_append, List.nil_append, next?]
  rw [List.takeWhile_append_of_pos digits, List.dropWhile_append_of_pos digits]
  simp [Hexadecimal.value_toDigits, Char.ofNat_toNat]

/-- What a character is written as is read back as the character. -/
theorem next?_escape (char : Char) (rest : List Char) :
    next? (escape char ++ rest) = some (char, rest) := by
  unfold escape
  split_ifs with quote backslash newline carriage tab null control
  case pos | pos | pos | pos | pos | pos => subst_vars; rfl
  case pos => exact next?_code char rest
  case neg => exact next?_of_plain quote backslash rest

/-! ## Reading whole texts -/

/-- Two quoted texts, continued into one text, have one content. -/
theorem eq_of_flatMap_escape_append
    {content other rest otherRest : List Char}
    (sameText : content.flatMap escape ++ '"' :: rest =
      other.flatMap escape ++ '"' :: otherRest) :
    content = other ∧ rest = otherRest := by
  have sameNext := congrArg next? sameText
  induction content generalizing other with
  | nil =>
      cases other with
      | nil => exact ⟨rfl, (List.cons.inj sameText).2⟩
      | cons first others =>
          rw [List.flatMap_cons, List.append_assoc, next?_escape] at sameNext
          cases sameNext
  | cons first others inductionHypothesis =>
      rw [List.flatMap_cons, List.append_assoc, next?_escape] at sameNext
      cases other with
      | nil => cases sameNext
      | cons otherFirst otherOthers =>
          rw [List.flatMap_cons, List.append_assoc, next?_escape] at sameNext
          obtain ⟨rfl, sameRest⟩ := Prod.ext_iff.mp (Option.some.inj sameNext)
          obtain ⟨sameOthers, sameEnd⟩ :=
            inductionHypothesis sameRest (congrArg next? sameRest)
          exact ⟨congrArg (first :: ·) sameOthers, sameEnd⟩

end Quoted

/-- Quoted texts are alike only if their contents are one. -/
theorem alikeOnlyIf_quoted
    (ending : String -> Prop)
    (content other : String) :
    AlikeOnlyIf ending (quoted content) (quoted other) (content = other) := by
  intro rest otherRest _ _ sameText
  have sameChars := congrArg String.toList sameText
  simp only [quoted, Quoted.encode, String.toList_append, String.toList_ofList,
    List.cons_append, List.append_assoc, List.nil_append] at sameChars
  obtain ⟨sameContent, sameRest⟩ :=
    Quoted.eq_of_flatMap_escape_append (List.cons.inj sameChars).2
  exact ⟨String.toList_inj.mp sameContent, String.toList_inj.mp sameRest⟩

end Monkey
