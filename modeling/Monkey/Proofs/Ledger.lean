import Monkey.Proofs.Filing
import Monkey.Proofs.Heredity

/-!
# Ledgers

A ledger lists what a run did so far as far as memo cells are concerned: the
content of every cell that it allocated, and every text whose key it asked for.
The memo of a run is what these requests make of an empty one, so a ledger says
which cells are filled and with what. A ledger covers a value when every text in
it has an allocated cell of its content and every text that a collection in it
files was asked for; it describes a session when it covers whatever the session
holds. All of this lasts while the ledger grows.
-/

namespace Monkey

/-! ## What a memo remembers -/

namespace Memo

/-- A request fills the cell of its text, unless the cell is filled already. -/
theorem get?_request
    (memo : Memo)
    (text : Text)
    (cell : CellId) :
    ((KeySource.request text).run memo).2.cells.get? cell =
      if text.cell = cell then
        some ((memo.cells.get? cell).getD (.ofString text.content))
      else memo.cells.get? cell := by
  change ((request text).run memo).2.cells.get? cell = _
  cases held : memo.cells.get? text.cell with
  | none =>
      rw [run_request_of_absent held, Table.get?_insert]
      split
      next same => rw [← same, held]; rfl
      next => rfl
  | some key =>
      rw [run_request_of_remembered held]
      split
      next same => rw [← same, held]; rfl
      next => rfl

/-- No request changes or empties a filled cell. -/
theorem get?_askAll_of_eq_some
    {memo : Memo}
    {cell : CellId}
    {key : Key}
    (held : memo.cells.get? cell = some key)
    (texts : List Text) :
    (askAll texts memo).cells.get? cell = some key := by
  induction texts generalizing memo with
  | nil => exact held
  | cons text rest inductionHypothesis =>
      apply inductionHypothesis
      rw [get?_request, held]
      split <;> rfl

theorem remembers_iff
    (memo : Memo)
    (text : Text) :
    memo.remembers text = true ↔ ∃ key, memo.cells.get? text.cell = some key :=
  Option.isSome_iff_exists

/-- Requests fill the cells of their texts and no others. -/
theorem remembers_askAll_iff
    (memo : Memo)
    (texts : List Text)
    (text : Text) :
    (askAll texts memo).remembers text = true ↔
      memo.remembers text = true ∨
        ∃ requested ∈ texts, requested.cell = text.cell := by
  induction texts generalizing memo with
  | nil => simp
  | cons requested rest inductionHypothesis =>
      have first :
          ((KeySource.request requested).run memo).2.remembers text = true ↔
            requested.cell = text.cell ∨ memo.remembers text = true := by
        rw [remembers_iff, remembers_iff, get?_request]
        split <;> simp_all
      rw [askAll_cons, inductionHypothesis, first, List.exists_mem_cons_iff]
      tauto

end Memo

/-! ## Ledgers -/

/-- What a list says at an index is said by every list that it starts. -/
theorem getElem?_eq_some_of_prefix
    {α : Type}
    {front whole : List α}
    (starts : front <+: whole)
    {index : Nat}
    {item : α}
    (found : front[index]? = some item) :
    whole[index]? = some item := by
  obtain ⟨inside, rfl⟩ := List.getElem?_eq_some_iff.mp found
  exact List.prefix_iff_getElem?.mp starts index inside

/-- The content of every allocated cell and the texts asked for, in order. Only
texts in allocated cells of their content are asked for. -/
structure Ledger where
  contents : List String
  requested : List Text
  allocated : ∀ text ∈ requested, contents[text.cell]? = some text.content

namespace Ledger

/-- The ledger of a run that has not begun. -/
def empty : Ledger :=
  ⟨[], [], List.forall_mem_nil _⟩

/-- The texts in allocated cells of their content. -/
def texts (ledger : Ledger) : Set Text :=
  {text | ledger.contents[text.cell]? = some text.content}

/-- A ledger with one more cell. -/
def allocate (ledger : Ledger) (content : String) : Ledger where
  contents := ledger.contents ++ [content]
  requested := ledger.requested
  allocated := by
    intro text member
    exact getElem?_eq_some_of_prefix (List.prefix_append _ _)
      (ledger.allocated text member)

/-- A ledger with more requests. -/
def request
    (ledger : Ledger)
    (texts : List Text)
    (textsKnown : ∀ text ∈ texts, text ∈ ledger.texts) : Ledger where
  contents := ledger.contents
  requested := ledger.requested ++ texts
  allocated := List.forall_mem_append.mpr ⟨ledger.allocated, textsKnown⟩

/-- The memo that the requests of a ledger leave behind. -/
def memo (ledger : Ledger) : Memo :=
  askAll ledger.requested {}

/-- The memo of a ledger answers rightly about all its texts. -/
theorem faithful_memo (ledger : Ledger) :
    Faithful ledger.texts ledger.memo := by
  refine faithful_askAll (Memo.faithful_empty ?_) ledger.allocated
  intro text textKnown other otherKnown sameCell
  have sameContent : some text.content = some other.content := by
    rw [← textKnown, ← otherKnown, sameCell]
  exact Option.some.inj sameContent

/-- The memo of a ledger remembers what was asked for. -/
theorem remembers_memo_iff
    (ledger : Ledger)
    (text : Text) :
    ledger.memo.remembers text = true ↔
      ∃ requested ∈ ledger.requested, requested.cell = text.cell := by
  rw [memo, Memo.remembers_askAll_iff]
  exact or_iff_right nofun

/-! ## Growth -/

/-- A ledger grew into a later one by asking for some texts. -/
structure Grows (now : Ledger) (texts : List Text) (later : Ledger) : Prop where
  contents : now.contents <+: later.contents
  requested : later.requested = now.requested ++ texts

namespace Grows

variable {now middle later : Ledger} {texts more : List Text}

theorem refl (now : Ledger) : now.Grows [] now where
  contents := List.prefix_refl _
  requested := (List.append_nil _).symm

theorem trans
    (first : now.Grows texts middle)
    (second : middle.Grows more later) :
    now.Grows (texts ++ more) later where
  contents := first.contents.trans second.contents
  requested := by
    rw [second.requested, first.requested, List.append_assoc]

theorem allocate (now : Ledger) (content : String) :
    now.Grows [] (now.allocate content) where
  contents := List.prefix_append _ _
  requested := (List.append_nil _).symm

theorem request
    (now : Ledger)
    (texts : List Text)
    (textsKnown : ∀ text ∈ texts, text ∈ now.texts) :
    now.Grows texts (now.request texts textsKnown) where
  contents := List.prefix_refl _
  requested := rfl

theorem texts_subset (grows : now.Grows texts later) :
    now.texts ⊆ later.texts :=
  fun _ known => getElem?_eq_some_of_prefix grows.contents known

theorem mem_requested
    (grows : now.Grows texts later)
    {text : Text}
    (member : text ∈ now.requested) :
    text ∈ later.requested := by
  rw [grows.requested]
  exact List.mem_append_left _ member

/-- What was asked for is found in the memo. -/
theorem memo_eq (grows : now.Grows texts later) :
    later.memo = askAll texts now.memo := by
  rw [memo, grows.requested, askAll_append]
  rfl

end Grows

/-! ## Covered values -/

/-- If an atom is a text, its key was asked for. -/
def Requested (ledger : Ledger) (atom : Atom) : Prop :=
  ∀ text, atom = .text text -> text ∈ ledger.requested

variable [Embedding]

/-- Every text in a value is in an allocated cell of its content, and every text
that a hash or set in it files was asked for. -/
inductive Covers (ledger : Ledger) : Value -> Prop
  | atom {value : Atom} :
      value.Known ledger.texts -> Covers ledger (.atom value)
  | null : Covers ledger .null
  | returned {value : Value} :
      Covers ledger value -> Covers ledger (.returned value)
  | failure (reason : Failure) : Covers ledger (.failure reason)
  | closure (function : Closure) : Covers ledger (.closure function)
  | builtin (function : Builtin) : Covers ledger (.builtin function)
  | array {items : List Value} :
      (∀ item ∈ items, Covers ledger item) -> Covers ledger (.array items)
  | hash {pairs : Hash} :
      (∀ entry ∈ pairs.entries, ledger.Requested entry.2.1) ->
        (∀ entry ∈ pairs.entries, Covers ledger entry.2.2) ->
          Covers ledger (.hash pairs)
  | set {members : MemberSet} :
      (∀ entry ∈ members.entries, ledger.Requested entry.2) ->
        Covers ledger (.set members)

variable {ledger now later : Ledger} {texts : List Text} {value : Value}

omit [Embedding] in
theorem Grows.requested_atom
    (grows : now.Grows texts later)
    {atom : Atom}
    (requested : now.Requested atom) :
    later.Requested atom :=
  fun text isText => grows.mem_requested (requested text isText)

omit [Embedding] in
theorem Grows.known
    (grows : now.Grows texts later)
    {atom : Atom}
    (known : atom.Known now.texts) :
    atom.Known later.texts := by
  cases atom with
  | text text => exact grows.texts_subset known
  | _ => trivial

/-- Covered values stay covered. -/
theorem Grows.covers
    (grows : now.Grows texts later)
    (covered : now.Covers value) :
    later.Covers value := by
  induction covered with
  | atom known => exact .atom (grows.known known)
  | null => exact .null
  | returned _ inductionHypothesis => exact .returned inductionHypothesis
  | failure reason => exact .failure reason
  | closure function => exact .closure function
  | builtin function => exact .builtin function
  | array _ inductionHypothesis => exact .array inductionHypothesis
  | hash keys _ inductionHypothesis =>
      refine .hash (fun entry member => ?_) inductionHypothesis
      exact grows.requested_atom (keys entry member)
  | set members =>
      exact .set fun entry member => grows.requested_atom (members entry member)

omit [Embedding] in
theorem Requested.known
    {atom : Atom}
    (requested : ledger.Requested atom) :
    atom.Known ledger.texts := by
  cases atom with
  | text text => exact ledger.allocated text (requested text rfl)
  | _ => trivial

theorem Covers.known (covered : ledger.Covers value) :
    value.Known ledger.texts := by
  cases covered with
  | atom known => exact known
  | _ => trivial

end Ledger

variable [Embedding]

/-! ## Parts of values -/

/-- A value is part of another: nested in it, or filed by it. -/
inductive Value.Within (part : Value) : Value -> Prop
  | whole : Within part part
  | returned {value : Value} :
      Within part value -> Within part (.returned value)
  | item {items : List Value} {item : Value} :
      item ∈ items -> Within part item -> Within part (.array items)
  | key {pairs : Hash} {entry : Key × Atom × Value} :
      entry ∈ pairs.entries -> Within part (.atom entry.2.1) ->
        Within part (.hash pairs)
  | value {pairs : Hash} {entry : Key × Atom × Value} :
      entry ∈ pairs.entries -> Within part entry.2.2 ->
        Within part (.hash pairs)
  | member {members : MemberSet} {entry : Key × Atom} :
      entry ∈ members.entries -> Within part (.atom entry.2) ->
        Within part (.set members)

/-- A covered value has covered parts. -/
theorem Ledger.Covers.within
    {ledger : Ledger}
    {part whole : Value}
    (covered : ledger.Covers whole)
    (within : part.Within whole) :
    ledger.Covers part := by
  induction within with
  | whole => exact covered
  | returned _ inductionHypothesis =>
      cases covered with
      | returned valueCovered => exact inductionHypothesis valueCovered
  | item member _ inductionHypothesis =>
      cases covered with
      | array itemsCovered => exact inductionHypothesis (itemsCovered _ member)
  | key member _ inductionHypothesis =>
      cases covered with
      | hash keys _ =>
          exact inductionHypothesis (.atom (keys _ member).known)
  | value member _ inductionHypothesis =>
      cases covered with
      | hash _ values => exact inductionHypothesis (values _ member)
  | member member _ inductionHypothesis =>
      cases covered with
      | set members => exact inductionHypothesis (.atom (members _ member).known)

/-! ## Described sessions -/

namespace Ledger

/-- Every value that a table of names holds is covered. -/
def CoversAll (ledger : Ledger) (table : Table String Value) : Prop :=
  ∀ name value, table.get? name = some value -> ledger.Covers value

theorem CoversAll.insert
    {ledger : Ledger}
    {table : Table String Value}
    (covered : ledger.CoversAll table)
    {value : Value}
    (valueCovered : ledger.Covers value)
    (name : String) :
    ledger.CoversAll (table.insert name value) :=
  Table.AllHold.insert covered valueCovered name

/-- Every value bound in a scope is covered. -/
def CoversScopes (ledger : Ledger) (scopes : Scopes) : Prop :=
  ∀ id scope, scopes.get? id = some scope -> ledger.CoversAll scope.bindings

namespace CoversScopes

variable {ledger : Ledger} {scopes : Scopes}

theorem create (covered : ledger.CoversScopes scopes) :
    ledger.CoversScopes scopes.create.2 :=
  Scopes.AllHold.create covered

theorem enclose
    (covered : ledger.CoversScopes scopes)
    (outer : ScopeId) :
    ledger.CoversScopes (scopes.enclose outer).2 :=
  Scopes.AllHold.enclose covered outer

theorem bind
    (covered : ledger.CoversScopes scopes)
    {value : Value}
    (valueCovered : ledger.Covers value)
    (id : ScopeId)
    (name : String) :
    ledger.CoversScopes (scopes.bind id name value) :=
  Scopes.AllHold.bind covered valueCovered id name

/-- Lookup finds covered values. -/
theorem lookup
    (covered : ledger.CoversScopes scopes)
    {id : ScopeId}
    {name : String}
    {value : Value}
    (found : scopes.lookup id name = some value) :
    ledger.Covers value :=
  Scopes.AllHold.lookup covered found

end CoversScopes

/-- A ledger describes a session: it lists the cells that the session allocated
and covers every value that the session holds. -/
structure Describes (ledger : Ledger) (session : Session Recompute) :
    Prop where
  cells_eq : session.cells = ledger.contents.length
  values : ledger.CoversAll session.values
  scopes : ledger.CoversScopes session.scopes

/-- A later ledger describes a later session that holds the same values. -/
theorem Describes.grows
    {now later : Ledger}
    {texts : List Text}
    {session after : Session Recompute}
    (describes : now.Describes session)
    (grows : now.Grows texts later)
    (cells_eq : after.cells = later.contents.length)
    (values_eq : after.values = session.values)
    (scopes_eq : after.scopes = session.scopes) :
    later.Describes after where
  cells_eq := cells_eq
  values := by
    intro name value found
    rw [values_eq] at found
    exact grows.covers (describes.values name value found)
  scopes := by
    intro id scope found name value bound
    rw [scopes_eq] at found
    exact grows.covers (describes.scopes id scope found name value bound)

end Ledger

namespace Session

/-- The session of the same run with the memo of a ledger. -/
def remembering
    (session : Session Recompute)
    (ledger : Ledger) : Session Memo :=
  { session with keys := ledger.memo }

variable (session : Session Recompute) (ledger : Ledger)

@[simp] theorem keys_remembering :
    (session.remembering ledger).keys = ledger.memo := rfl

@[simp] theorem cells_remembering :
    (session.remembering ledger).cells = session.cells := rfl

@[simp] theorem values_remembering :
    (session.remembering ledger).values = session.values := rfl

@[simp] theorem environments_remembering :
    (session.remembering ledger).environments = session.environments := rfl

end Session

end Monkey
