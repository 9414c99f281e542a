/-!
# Where lines go

Output is written line by line to a sink. A printer is the sink that a host
gives to its program: its handler passes lines on to the standard output stream,
keeps them in a transcript, or drops them.
-/

namespace Monkey

/-- A state that takes lines of output. -/
class LineSink (σ : Type) where
  /-- Take one line; the sink ends it. -/
  take : String -> σ -> σ

/-- Write one line. -/
def writeLine {σ : Type} [LineSink σ] (line : String) : StateM σ Unit :=
  modify (LineSink.take line)

/-- The standard output stream of a process. While its reader is gone, lines
are dropped. -/
structure Stream where
  isOpen : Bool := true
  written : String := ""

namespace Stream

instance : LineSink Stream where
  take line stream :=
    if stream.isOpen then
      { stream with written := stream.written ++ line ++ "\n" }
    else stream

end Stream

/-- What a host does with the lines of its program. -/
inductive Handler
  /-- Pass them on to the standard output stream. -/
  | stdout
  /-- Append them to a transcript. -/
  | capture (transcript : String)
  /-- Drop them. -/
  | silent

/-- A handler of lines, with the standard output stream of the process in which it
runs. Whatever the handler is, the stream is there to be written to. -/
structure Printer where
  handler : Handler
  stream : Stream := {}

namespace Printer

/-- A printer that passes lines on to a stream. -/
abbrev stdout (stream : Stream) : Printer :=
  ⟨.stdout, stream⟩

/-- A printer that has captured a transcript. -/
abbrev capture (transcript : String) (stream : Stream := {}) : Printer :=
  ⟨.capture transcript, stream⟩

/-- A printer that drops lines. -/
abbrev silent (stream : Stream := {}) : Printer :=
  ⟨.silent, stream⟩

instance : LineSink Printer where
  take line printer :=
    match printer.handler with
    | .stdout => { printer with stream := LineSink.take line printer.stream }
    | .capture transcript =>
        { printer with handler := .capture (transcript ++ line ++ "\n") }
    | .silent => printer

/-- Everything captured so far. Only capturing printers capture. -/
def captured (printer : Printer) : String :=
  match printer.handler with
  | .capture transcript => transcript
  | .stdout | .silent => ""

/-- Forget the transcript. -/
def reset (printer : Printer) : Printer :=
  match printer.handler with
  | .capture _ => { printer with handler := .capture "" }
  | .stdout | .silent => printer

/-- Everything that reached the standard output stream. -/
def printed (printer : Printer) : String :=
  printer.stream.written

end Printer

/-- The sink that a program is run with: a printer, or one that discards every
line. -/
inductive Sink
  | through (printer : Printer)
  | discard

namespace Sink

instance : LineSink Sink where
  take line
    | .through printer => .through (LineSink.take line printer)
    | .discard => .discard

/-- Everything captured so far. -/
def captured : Sink -> String
  | .through printer => printer.captured
  | .discard => ""

/-- Forget what was captured. -/
def reset : Sink -> Sink
  | .through printer => .through printer.reset
  | .discard => .discard

end Sink
end Monkey
