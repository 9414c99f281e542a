import Mathlib
import Monkey.Output.Mode
import Monkey.Output.Transcript
import Monkey.Proofs.Lines

/-!
# Transcripts after any history

A host and its program reach printers through handles: each one stands for a new
printer or, as a copy, for the printer of another handle. What was done to a
printer is done through any of its handles, in one order. A printer that captures
holds the lines written since it was last reset, each ended, and the others hold
nothing; printing a list of arguments is printing its parts in turn.
-/

namespace Monkey

/-! ## Lines that a printer takes -/

namespace Printer

theorem takeLines_capture
    (lines : List String)
    (transcript : String)
    (stream : Stream) :
    takeLines lines (capture transcript stream) =
      capture (transcript ++ endLines lines) stream := by
  induction lines generalizing transcript with
  | nil => rw [endLines_nil, String.append_empty]; rfl
  | cons line rest inductionHypothesis =>
      rw [endLines_cons, ← String.append_assoc, ← String.append_assoc]
      exact inductionHypothesis (transcript ++ line ++ "\n")

theorem takeLines_silent (lines : List String) (stream : Stream) :
    takeLines lines (silent stream) = silent stream := by
  induction lines with
  | nil => rfl
  | cons line rest inductionHypothesis => exact inductionHypothesis

theorem takeLines_stdout (lines : List String) (stream : Stream) :
    takeLines lines (stdout stream) = stdout (takeLines lines stream) :=
  takeLines_within stdout (fun _ _ => rfl) lines stream

end Printer

section

variable [Embedding]

/-! ## One printer -/

namespace Printer

/-- The lines that an action writes. -/
def Action.lines : Action -> List String
  | .write line => [line]
  | .puts arguments => arguments.map Value.display
  | .reset | .read => []

/-- Whether an action forgets what was captured. -/
def Action.isReset : Action -> Bool
  | .reset => true
  | .write _ | .puts _ | .read => false

/-- The lines written since the last reset, or since the beginning if there was
none. -/
def linesSinceReset (actions : List Action) : List String :=
  (actions.rtakeWhile fun action => !action.isReset).flatMap Action.lines

/-- Actions other than resets write their lines and do nothing else. -/
theorem act_eq_takeLines
    (printer : Printer)
    {action : Action}
    (kept : action.isReset = false) :
    printer.act action = takeLines action.lines printer := by
  cases action with
  | write line => rfl
  | puts arguments => exact congrArg Prod.snd (run_puts_eq arguments printer)
  | reset => cases kept
  | read => rfl

theorem linesSinceReset_concat
    (actions : List Action)
    (action : Action) :
    linesSinceReset (actions ++ [action]) =
      if action.isReset then [] else linesSinceReset actions ++ action.lines := by
  rw [linesSinceReset, List.rtakeWhile_concat]
  cases action.isReset with
  | true => rfl
  | false => simp [linesSinceReset]

/-- A capturing printer holds the lines written since the last reset. -/
theorem actAll_capture (stream : Stream) (actions : List Action) :
    (capture "" stream).actAll actions =
      capture (endLines (linesSinceReset actions)) stream := by
  induction actions using List.reverseRecOn with
  | nil => rfl
  | append_singleton actions action inductionHypothesis =>
      rw [actAll_append, inductionHypothesis, linesSinceReset_concat]
      change act _ action = _
      cases resets : action.isReset with
      | true =>
          cases action with
          | reset => rfl
          | _ => cases resets
      | false =>
          rw [act_eq_takeLines _ resets, takeLines_capture, ← endLines_append]
          rfl

/-- The mode for which a printer is made. -/
def mode (printer : Printer) : PrintMode :=
  match printer.handler with
  | .stdout => .stdout
  | .capture _ => .buffer
  | .silent => .silent

omit [Embedding] in
@[simp] theorem mode_printer (mode : PrintMode) (stream : Stream) :
    (mode.printer stream).mode = mode := by
  cases mode <;> rfl

omit [Embedding] in
theorem mode_takeLines (lines : List String) (printer : Printer) :
    (takeLines lines printer).mode = printer.mode := by
  obtain ⟨handler, stream⟩ := printer
  cases handler with
  | stdout => rw [takeLines_stdout]; rfl
  | capture transcript => rw [takeLines_capture]; rfl
  | silent => rw [takeLines_silent]

theorem mode_act (printer : Printer) (action : Action) :
    (printer.act action).mode = printer.mode := by
  cases resets : action.isReset with
  | true =>
      cases action with
      | reset =>
          obtain ⟨handler, stream⟩ := printer
          cases handler <;> rfl
      | _ => cases resets
  | false => rw [act_eq_takeLines printer resets, mode_takeLines]

/-- Whatever is done to a printer, it keeps its mode. -/
theorem mode_actAll (printer : Printer) (actions : List Action) :
    (printer.actAll actions).mode = printer.mode := by
  induction actions using List.reverseRecOn with
  | nil => rfl
  | append_singleton actions action inductionHypothesis =>
      rw [actAll_append, ← inductionHypothesis]
      exact mode_act _ action

omit [Embedding] in
theorem captured_of_mode_ne
    {printer : Printer}
    (other : printer.mode ≠ .buffer) :
    printer.captured = "" := by
  obtain ⟨handler, stream⟩ := printer
  cases handler with
  | capture transcript => exact absurd rfl other
  | stdout | silent => rfl

/-- What is captured of the lines since the last reset in some mode. -/
def transcriptIn (mode : PrintMode) (actions : List Action) : String :=
  match mode with
  | .buffer => endLines (linesSinceReset actions)
  | .stdout | .silent => ""

/-- After any run a printer for a mode has captured what it says. -/
theorem captured_actAll
    (mode : PrintMode)
    (stream : Stream)
    (actions : List Action) :
    ((mode.printer stream).actAll actions).captured =
      transcriptIn mode actions := by
  have kept := mode_actAll (mode.printer stream) actions
  rw [mode_printer] at kept
  cases mode with
  | buffer =>
      change ((capture "" stream).actAll actions).captured = _
      rw [actAll_capture]
      rfl
  | stdout | silent => exact captured_of_mode_ne (by rw [kept]; decide)

end Printer

/-! ## Handles to printers -/

namespace Printers

/-- What is done with printers. Handles are numbered in the order in which they
were obtained. -/
inductive Action
  /-- Make a printer for a mode, with a handle to it. -/
  | create (mode : PrintMode) (stream : Stream)
  /-- Copy a handle. -/
  | share (handle : Nat)
  /-- Do something to the printer of a handle. -/
  | act (handle : Nat) (action : Printer.Action)

/-- What was done with printers, the latest action first. -/
abbrev History := List Action

/-- Printers with the handles to them. -/
structure Held where
  printers : List Printer := []
  handles : List Nat := []

namespace Held

/-- Do one action. It cannot be done without the handle that it goes through. -/
def act (held : Held) : Action -> Held
  | .create mode stream =>
      { printers := held.printers ++ [mode.printer stream]
        handles := held.handles ++ [held.printers.length] }
  | .share handle =>
      { held with
        handles := held.handles ++ held.handles[handle]?.toList }
  | .act handle action =>
      match held.handles[handle]? with
      | none => held
      | some id =>
          { held with
            printers := held.printers.modify id fun printer =>
              printer.act action }

theorem act_of_obtained
    {held : Held}
    {handle id : Nat}
    (obtained : held.handles[handle]? = some id)
    (action : Printer.Action) :
    held.act (.act handle action) =
      { held with
        printers := held.printers.modify id fun printer =>
          printer.act action } := by
  simp only [act, obtained]

theorem act_of_missing
    {held : Held}
    {handle : Nat}
    (missing : held.handles[handle]? = none)
    (action : Printer.Action) :
    held.act (.act handle action) = held := by
  simp only [act, missing]

/-- What is held after a history. -/
def run : History -> Held
  | [] => {}
  | action :: past => (run past).act action

/-- What is captured by the printer of a handle. -/
def captured? (held : Held) (handle : Nat) : Option String :=
  held.handles[handle]?.bind fun id => held.printers[id]?.map Printer.captured

end Held

namespace History

/-- The modes and streams of the printers that were made, in order. -/
def created : History -> List (PrintMode × Stream)
  | [] => []
  | .create mode stream :: past => created past ++ [(mode, stream)]
  | .share _ :: past => created past
  | .act _ _ :: past => created past

/-- The printer of each handle. -/
def handles : History -> List Nat
  | [] => []
  | .create _ _ :: past => handles past ++ [(created past).length]
  | .share handle :: past => handles past ++ (handles past)[handle]?.toList
  | .act _ _ :: past => handles past

/-- What was done to a printer through whatever handle, in order. -/
def actions : History -> Nat -> List Printer.Action
  | [], _ => []
  | .create _ _ :: past, id => actions past id
  | .share _ :: past, id => actions past id
  | .act handle action :: past, id =>
      if (handles past)[handle]? = some id then actions past id ++ [action]
      else actions past id

/-- Handles stand for printers that were made. -/
theorem lt_length_created
    {history : History}
    {id : Nat}
    (member : id ∈ history.handles) :
    id < history.created.length := by
  induction history with
  | nil => cases member
  | cons action past inductionHypothesis =>
      cases action with
      | create =>
          simp only [handles, created, List.mem_append, List.mem_singleton,
            List.length_append, List.length_singleton] at member ⊢
          rcases member with old | rfl
          · exact Nat.lt_succ_of_lt (inductionHypothesis old)
          · exact Nat.lt_succ_self _
      | share handle =>
          simp only [handles, List.mem_append, Option.mem_toList] at member
          rcases member with old | copied
          · exact inductionHypothesis old
          · exact inductionHypothesis (List.mem_of_getElem? copied)
      | act => exact inductionHypothesis member

/-- Nothing was done to a printer before it was made. -/
theorem actions_eq_nil
    {history : History}
    {id : Nat}
    (absent : history.created.length ≤ id) :
    history.actions id = [] := by
  induction history with
  | nil => rfl
  | cons action past inductionHypothesis =>
      cases action with
      | create mode stream =>
          rw [created, List.length_append] at absent
          exact inductionHypothesis (Nat.le_of_add_right_le absent)
      | share => exact inductionHypothesis absent
      | act handle action =>
          have notHeld : (handles past)[handle]? ≠ some id := fun held =>
            Nat.not_le_of_lt (lt_length_created (List.mem_of_getElem? held)) absent
          rw [actions, if_neg notHeld]
          exact inductionHypothesis absent

/-- The printer that a history describes. -/
def printer? (history : History) (id : Nat) : Option Printer :=
  (history.created[id]?).map fun made : PrintMode × Stream =>
    (made.1.printer made.2).actAll (history.actions id)

end History

/-- There are the printers that a history describes, and the handles to them. -/
structure Represents (history : History) (held : Held) : Prop where
  handles_eq : held.handles = history.handles
  length_eq : held.printers.length = history.created.length
  get?_eq : ∀ id, held.printers[id]? = history.printer? id

namespace Represents

variable {past : History} {held : Held}

theorem create
    (represents : Represents past held)
    (mode : PrintMode)
    (stream : Stream) :
    Represents (.create mode stream :: past)
      (held.act (.create mode stream)) where
  handles_eq := by
    rw [Held.act, represents.handles_eq, represents.length_eq]
    rfl
  length_eq := by
    simp [Held.act, History.created, represents.length_eq]
  get?_eq := by
    intro id
    simp only [Held.act, History.printer?, History.created, History.actions,
      List.getElem?_append, represents.length_eq]
    split
    next old => exact represents.get?_eq id
    next new =>
      rw [History.actions_eq_nil (Nat.not_lt.mp new)]
      cases id - past.created.length <;> rfl

theorem share
    (represents : Represents past held)
    (handle : Nat) :
    Represents (.share handle :: past) (held.act (.share handle)) where
  handles_eq := by
    rw [Held.act, represents.handles_eq]
    rfl
  length_eq := represents.length_eq
  get?_eq := represents.get?_eq

theorem act
    (represents : Represents past held)
    (handle : Nat)
    (action : Printer.Action) :
    Represents (.act handle action :: past) (held.act (.act handle action)) := by
  have sameHandles := represents.handles_eq
  cases found : past.handles[handle]? with
  | none =>
      rw [Held.act_of_missing (by rw [sameHandles, found])]
      refine ⟨sameHandles, represents.length_eq, fun id => ?_⟩
      rw [represents.get?_eq, History.printer?, History.printer?,
        History.actions, found, if_neg (by simp)]
      rfl
  | some target =>
      rw [Held.act_of_obtained (by rw [sameHandles, found])]
      refine ⟨sameHandles, ?_, fun id => ?_⟩
      · rw [List.length_modify]
        exact represents.length_eq
      · rw [List.getElem?_modify, represents.get?_eq, History.printer?,
          History.printer?, History.actions, found, History.created]
        by_cases same : target = id
        · subst same
          simp only [if_true, Option.map_eq_map, Option.map_map]
          refine congrFun (congrArg Option.map (funext fun made => ?_)) _
          exact (Printer.actAll_append _ _ [action]).symm
        · simp [same]

/-- After any history the printers are the ones it describes. -/
theorem run (history : History) : Represents history (Held.run history) := by
  induction history with
  | nil => exact ⟨rfl, rfl, fun _ => rfl⟩
  | cons action past inductionHypothesis =>
      cases action with
      | create mode stream => exact inductionHypothesis.create mode stream
      | share handle => exact inductionHypothesis.share handle
      | act handle action => exact inductionHypothesis.act handle action

end Represents

/-- After any history, a handle stands for a printer that was made for some mode,
and through the handle one reads the lines written to that printer since its last
reset, through whatever handles, each of them ended, if the mode captures, and
nothing otherwise. Printing a list of arguments has the effect of printing its
parts in turn on every printer. -/
theorem transcript_after_history
    {history : History}
    {handle id : Nat}
    (obtained : history.handles[handle]? = some id) :
    (∃ mode stream, history.created[id]? = some (mode, stream) ∧
      (Held.run history).captured? handle =
        some (Printer.transcriptIn mode (history.actions id))) ∧
    ∀ (printer : Printer) (front back : List Value),
      (Builtin.puts (front ++ back)).run printer =
        (Builtin.puts back).run ((Builtin.puts front).run printer).2 := by
  refine ⟨?_, fun printer front back => run_puts_append front back printer⟩
  have represents := Represents.run history
  have made := History.lt_length_created (List.mem_of_getElem? obtained)
  refine ⟨history.created[id].1, history.created[id].2,
    List.getElem?_eq_getElem made, ?_⟩
  rw [Held.captured?, represents.handles_eq, obtained, Option.bind_some,
    represents.get?_eq, History.printer?, List.getElem?_eq_getElem made,
    Option.map_some, Option.map_some, Printer.captured_actAll]

end Printers
end

namespace Printers

/-- A handle and its copy share a transcript, which a reset through the one empties
for both, while the printer of another handle drops what is written. -/
theorem transcript_after_reset_through_copy :
    let history : History :=
      [.act 0 (.puts [.int 1, .null]), .act 2 (.write "a\nb"), .act 2 .reset,
        .act 1 (.write "dropped"), .act 0 (.write "forgotten"), .share 0,
        .create .silent {}, .create .buffer {}]
    history.handles[0]? = some 0 ∧ history.handles[2]? = some 0 ∧
      (Held.run history).captured? 0 = some "a\nb\n1\nnull\n" ∧
      (Held.run history).captured? 2 = some "a\nb\n1\nnull\n" := by
  intro history
  obtain ⟨⟨mode, stream, made, captured⟩, -⟩ :=
    @transcript_after_history _ history 0 0 rfl
  obtain ⟨⟨otherMode, otherStream, otherMade, otherCaptured⟩, -⟩ :=
    @transcript_after_history _ history 2 0 rfl
  cases made
  cases otherMade
  refine ⟨rfl, rfl, ?_, ?_⟩
  · rw [captured]
    rfl
  · rw [otherCaptured]
    rfl

end Printers
end Monkey
