import Monkey.Builtin
import Monkey.Output.Mode

/-!
# Hosts

A host reads one setting from outside, the mode of its output, and runs its
program with one printer for that mode. The setting arrives as bytes;
bytes that are not UTF-8 count as no setting.
-/

namespace Monkey

variable [Embedding]

/-- A process that runs a program: its output mode and its printer. -/
structure Host where
  mode : PrintMode
  printer : Printer

namespace Host

instance : LineSink Host where
  take line host := { host with printer := LineSink.take line host.printer }

/-- Start a host with a setting and a standard output stream. -/
def start (setting : Option ByteArray) (stream : Stream) : Host :=
  let mode := PrintMode.resolve (setting.bind String.fromUTF8?)
  ⟨mode, mode.printer stream⟩

/-- Print several argument lists, one call after the other. -/
def putsAll : List (List Value) -> StateM Host (List Value)
  | [] => return []
  | arguments :: rest => do
      let result <- Builtin.puts arguments
      return result :: (<- putsAll rest)

end Host
end Monkey
