import Monkey.Output.Sink
import Monkey.Text.WhiteSpace

/-!
# Output modes

A host chooses by name where the output of its program goes. Names are read
without regard to case and to white space around them.
-/

namespace Monkey

/-- Where the output of a program goes. -/
inductive PrintMode
  | stdout
  | buffer
  | silent
  deriving DecidableEq

namespace PrintMode

/-- The name by which a mode is chosen. -/
def name : PrintMode -> String
  | .stdout => "stdout"
  | .buffer => "buffer"
  | .silent => "silent"

/-- The label of a mode in debug texts. -/
def label : PrintMode -> String
  | .stdout => "Stdout"
  | .buffer => "Buffer"
  | .silent => "Silent"

/-- The mode of a host that chooses none. -/
def default : PrintMode := .stdout

/-- The lower case of a character, as far as names of modes can tell. Only the
capitals of ASCII, the Kelvin sign and the capital I with a dot above have an
ASCII letter in their lower case, so every other character may stand for
itself: no name contains it. -/
def lowerCase (char : Char) : List Char :=
  if char = '\u212a' then ['k']
  else if char = '\u0130' then ['i', '\u0307']
  else [char.toLower]

/-- The mode with this name. -/
def ofName? (text : List Char) : Option PrintMode :=
  [stdout, buffer, silent].find? fun mode => mode.name.toList == text

/-- Read a mode, ignoring case and surrounding white space. -/
def parse? (text : String) : Option PrintMode :=
  ofName? ((WhiteSpace.trim text.toList).flatMap lowerCase)

/-- A fresh handler for a mode. -/
def handler : PrintMode -> Handler
  | .stdout => .stdout
  | .buffer => .capture ""
  | .silent => .silent

/-- A fresh printer for a mode, in a process with a standard output stream. -/
def printer (mode : PrintMode) (stream : Stream) : Printer :=
  ⟨mode.handler, stream⟩

/-- The mode that a setting selects. A setting that is absent, or that names no
mode, selects the default. -/
def resolve (setting : Option String) : PrintMode :=
  (setting.bind parse?).getD default

end PrintMode
end Monkey
