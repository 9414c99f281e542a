import Monkey.Text.CharacterClass

/-!
# Quoted text

Debug texts show strings between double quotes. The quote, the backslash and
four common controls are written with a backslash and one letter. A character
that extends a grapheme, or that is not printable, is written by its code in
hexadecimal between braces; all other characters stand for themselves.
-/

namespace Monkey
namespace Quoted

/-- Whether a character is written by its code. -/
def isCoded (char : Char) : Bool :=
  CharacterClass.extendsGrapheme char || !CharacterClass.isPrintable char

/-- The characters that stand for one character between quotes. -/
def escape (char : Char) : List Char :=
  if char = '"' then ['\\', '"']
  else if char = '\\' then ['\\', '\\']
  else if char = '\n' then ['\\', 'n']
  else if char = '\r' then ['\\', 'r']
  else if char = '\t' then ['\\', 't']
  else if char = '\x00' then ['\\', '0']
  else if isCoded char then
    ['\\', 'u', '\x7b'] ++ Nat.toDigits 16 char.toNat ++ ['\x7d']
  else [char]

/-- The quoted characters of a text, between two quotes. -/
def encode (content : List Char) : List Char :=
  '"' :: (content.flatMap escape ++ ['"'])

end Quoted

/-- A string as debug texts show it. -/
def quoted (content : String) : String :=
  String.ofList (Quoted.encode content.toList)

/-- A zero-width space, a combining accent and a no-break space are written by their
codes, a letter is not. -/
example :
    quoted "\u200be\u0301\u00a0é" =
      "\"\\u\x7b200b\x7de\\u\x7b301\x7d\\u\x7ba0\x7dé\"" := by
  decide +kernel

end Monkey
