import Monkey.Output.Host
import Monkey.Proofs.Transcripts

/-!
# Where the output of a host goes

A host runs its program with one printer, chosen by a setting that may be absent,
no text, or a text that names no mode; the standard output stream is the choice in
all these cases. Every call answers null, and the printer takes the displayed
arguments of all calls in order, so they arrive at one place, or nowhere when the
host is silent or the reader of the stream is gone.
-/

namespace Monkey

/-! ## Streams -/

/-- A stream receives lines as long as it is open. -/
theorem Stream.takeLines_eq (lines : List String) (stream : Stream) :
    takeLines lines stream =
      { stream with
        written := stream.written ++
          if stream.isOpen then endLines lines else "" } := by
  induction lines generalizing stream with
  | nil =>
      rw [endLines_nil, ite_self, String.append_empty]
      rfl
  | cons line rest inductionHypothesis =>
      change takeLines rest (LineSink.take line stream) = _
      rw [inductionHypothesis, endLines_cons]
      obtain ⟨isOpen, written⟩ := stream
      cases isOpen with
      | false => rfl
      | true => simp [LineSink.take, String.append_assoc]

namespace Host

/-- The mode that a setting names, if it is a text that names one. -/
def named? (setting : Option ByteArray) : Option PrintMode :=
  setting.bind fun bytes => (String.fromUTF8? bytes).bind PrintMode.parse?

theorem resolve_eq (setting : Option ByteArray) :
    PrintMode.resolve (setting.bind String.fromUTF8?) =
      (named? setting).getD .stdout := by
  rw [PrintMode.resolve, Option.bind_assoc]
  rfl

/-- A host hands lines to its printer. -/
theorem takeLines_eq (lines : List String) (host : Host) :
    takeLines lines host =
      { host with printer := takeLines lines host.printer } :=
  takeLines_within (fun printer => { host with printer }) (fun _ _ => rfl) lines
    host.printer

section

variable [Embedding]

/-- Some calls answer null, and their arguments are taken in order. -/
theorem run_putsAll (calls : List (List Value)) (host : Host) :
    (putsAll calls).run host =
      (calls.map fun _ => .null,
        takeLines (calls.flatten.map Value.display) host) := by
  induction calls generalizing host with
  | nil => rfl
  | cons arguments rest inductionHypothesis =>
      rw [putsAll, StateT.run_bind, run_puts_eq]
      change (putsAll rest >>= fun results => pure (.null :: results)).run _ = _
      rw [StateT.run_bind, inductionHypothesis, List.flatten_cons,
        List.map_append, takeLines_append]
      rfl

/-- Output goes to one place. Whatever the setting of a host is, and whatever is on
the standard output stream before, every call answers null. A host whose setting
names the buffer captures the displayed arguments of all calls in order, each of them
ended, and leaves the stream as it is; a silent host captures nothing and leaves the
stream as it is. In every other case, when the setting is absent, is no text, names
no mode or names the standard output, nothing is captured, and all that text is added
to the stream, or nothing if the reader of the stream is gone. -/
theorem output_goes_to_one_place
    (setting : Option ByteArray)
    (stream : Stream)
    (calls : List (List Value)) :
    let text := endLines (calls.flatten.map Value.display)
    let after := (putsAll calls).run (start setting stream)
    after.1 = calls.map (fun _ => .null) ∧
      (named? setting = some .buffer ->
        after.2.printer.captured = text ∧ after.2.printer.stream = stream) ∧
      (named? setting = some .silent ->
        after.2.printer.captured = "" ∧ after.2.printer.stream = stream) ∧
      (named? setting ≠ some .buffer -> named? setting ≠ some .silent ->
        after.2.printer.captured = "" ∧
          after.2.printer.stream =
            { stream with
              written := stream.written ++
                if stream.isOpen then text else "" }) := by
  intro text after
  have ran : after = (calls.map fun _ => .null,
      takeLines (calls.flatten.map Value.display) (start setting stream)) :=
    run_putsAll calls (start setting stream)
  have printer : after.2.printer =
      takeLines (calls.flatten.map Value.display)
        (((named? setting).getD .stdout).printer stream) := by
    rw [ran, takeLines_eq, ← resolve_eq]
    rfl
  refine ⟨by rw [ran], ?_, ?_, ?_⟩
  · intro buffer
    rw [printer, buffer, Option.getD_some, PrintMode.printer, PrintMode.handler,
      Printer.takeLines_capture]
    exact ⟨String.empty_append, rfl⟩
  · intro silent
    rw [printer, silent, Option.getD_some, PrintMode.printer, PrintMode.handler,
      Printer.takeLines_silent]
    exact ⟨rfl, rfl⟩
  · intro notBuffer notSilent
    have stdout : (named? setting).getD .stdout = .stdout := by
      cases chosen : named? setting with
      | none => rfl
      | some mode => cases mode <;> simp_all
    rw [printer, stdout, PrintMode.printer, PrintMode.handler,
      Printer.takeLines_stdout, Stream.takeLines_eq]
    exact ⟨rfl, rfl⟩

end

/-- Hosts whose setting names the buffer in capitals, names silence, is no text, and
is absent while nobody reads the stream, in a process that printed before. -/
theorem output_goes_to_one_place_of_each_setting :
    let calls : List (List Value) := [[.int 1, .null], [], [.bool true]]
    let before : Stream := { written := "before\n" }
    let after (setting : Option ByteArray) (stream : Stream) :=
      (putsAll calls).run (start setting stream)
    (after (some " BUFFER".toUTF8) before).2.printer.captured =
        "1\nnull\ntrue\n" ∧
      (after (some " BUFFER".toUTF8) before).2.printer.stream = before ∧
      (after (some "silent".toUTF8) before).2.printer.stream = before ∧
      (after (some ⟨#[0xff]⟩) before).2.printer.stream =
        { written := "before\n1\nnull\ntrue\n" } ∧
      (after none { before with isOpen := false }).2.printer.stream =
        { before with isOpen := false } ∧
      (after none { before with isOpen := false }).1 = [.null, .null, .null] := by
  intro calls before after
  obtain ⟨-, buffered, -, -⟩ :=
    output_goes_to_one_place (some " BUFFER".toUTF8) before calls
  obtain ⟨-, -, silenced, -⟩ :=
    output_goes_to_one_place (some "silent".toUTF8) before calls
  obtain ⟨-, -, -, printed⟩ :=
    output_goes_to_one_place (some ⟨#[0xff]⟩) before calls
  obtain ⟨answers, -, -, dropped⟩ :=
    output_goes_to_one_place none { before with isOpen := false } calls
  exact ⟨(buffered (by decide)).1, (buffered (by decide)).2,
    (silenced (by decide)).2, (printed (by decide) (by decide)).2,
    (dropped nofun nofun).2, answers⟩

end Host
end Monkey
