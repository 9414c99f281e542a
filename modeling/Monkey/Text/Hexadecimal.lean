/-!
# Hexadecimal digits

Numbers are written in base sixteen with lower-case digits, most significant
digit first: either in a fixed number of places or in as few as the number
needs.
-/

namespace Monkey
namespace Hexadecimal

/-- The lower-case digit of a value below sixteen. -/
def digit (value : Nat) : Char :=
  if value < 10 then Char.ofNat ('0'.toNat + value)
  else Char.ofNat ('a'.toNat + (value - 10))

/-- The last `places` base-sixteen digits of a number. -/
def digits : (places : Nat) -> (value : Nat) -> List Char
  | 0, _ => []
  | places + 1, value => digits places (value / 16) ++ [digit (value % 16)]

@[simp] theorem length_digits (places value : Nat) :
    (digits places value).length = places := by
  induction places generalizing value with
  | zero => rfl
  | succ places inductionHypothesis =>
      simp [digits, inductionHypothesis]

end Hexadecimal
end Monkey
