/-!
# White space

The characters with the Unicode property `White_Space`, and trimming them off
both ends of a text.
-/

namespace Monkey
namespace WhiteSpace

/-- The first and last code of each run of white space, in order. -/
def ranges : List (Nat × Nat) :=
  [(0x9, 0xd), (0x20, 0x20), (0x85, 0x85), (0xa0, 0xa0), (0x1680, 0x1680),
    (0x2000, 0x200a), (0x2028, 0x2029), (0x202f, 0x202f), (0x205f, 0x205f),
    (0x3000, 0x3000)]

/-- Whether a character is white space. -/
def isWhiteSpace (char : Char) : Bool :=
  ranges.any fun range => range.1 ≤ char.toNat && char.toNat ≤ range.2

/-- There are twenty-five white space characters. -/
example :
    (ranges.map fun range => range.2 + 1 - range.1).sum = 25 := by
  decide

/-- A text without the white space at its start. -/
def trimStart (content : List Char) : List Char :=
  content.dropWhile isWhiteSpace

/-- A text without the white space at either end. -/
def trim (content : List Char) : List Char :=
  (trimStart (trimStart content).reverse).reverse

end WhiteSpace
end Monkey
