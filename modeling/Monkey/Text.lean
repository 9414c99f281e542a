/-!
# Texts

A text is a string together with the cell in which its key may be remembered.
Copies of a text share its cell; two texts made separately have different
cells, also when their content is the same. The cell is never part of what a
text means: equality, rendering and keys depend on the content alone.
-/

namespace Monkey

/-- The identity of a memo cell. -/
abbrev CellId := Nat

/-- A string with the memo cell that its copies share. -/
structure Text where
  cell : CellId
  content : String

namespace Text

instance : BEq Text where
  beq left right := left.content == right.content

/-- The number of bytes of a text in UTF-8. -/
def size (text : Text) : Nat :=
  text.content.utf8ByteSize

end Text
end Monkey
