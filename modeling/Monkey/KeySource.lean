import Monkey.Value

/-!
# Requests for keys

Collections ask a key source for the key of every atom they file or look up. A
source answers requests for texts and may remember what it answered; integers
and booleans are their own keys and need no source.

There are two sources. `Recompute` remembers nothing and computes every key
anew. `Memo` computes the key of a text on the first request and keeps it in
the cell of the text, where every copy of the text finds it again.
-/

namespace Monkey

/-- A state that answers requests for the keys of texts. -/
class KeySource (σ : Type) where
  /-- Ask for the key of a text. -/
  request : Text -> StateM σ Key
  /-- Whether the key of a text was kept from an earlier request. -/
  remembers : σ -> Text -> Bool

/-! ## Sources -/

/-- The source that computes every key anew. -/
structure Recompute where

instance : KeySource Recompute where
  request text := pure (.ofString text.content)
  remembers _ _ := false

/-- What a computation answers when every key is computed anew. -/
def Recompute.answer {α : Type} (computation : StateM Recompute α) : α :=
  (computation.run {}).1

/-- The source that keeps the key of each text in the cell of the text. -/
structure Memo where
  cells : Table CellId Key := {}

namespace Memo

/-- The key in a cell, computed from the content if the cell is empty. -/
def request (text : Text) : StateM Memo Key := do
  match (← get).cells.get? text.cell with
  | some key => return key
  | none =>
      let key := Key.ofString text.content
      modify fun memo => { memo with cells := memo.cells.insert text.cell key }
      return key

/-- Whether a cell holds a key. -/
def remembers (memo : Memo) (text : Text) : Bool :=
  memo.cells.contains text.cell

instance : KeySource Memo := ⟨request, remembers⟩

end Memo

/-! ## Keys of atoms and values -/

variable [Embedding] {σ : Type} [KeySource σ]

/-- Ask for the key of an atom. -/
def Atom.requestKey : Atom -> StateM σ Key
  | .int value => pure (.ofInt value)
  | .bool value => pure (.ofBool value)
  | .text value => KeySource.request value

/-- Ask for the key of a value. Only atoms have one. -/
def Value.requestKey? : Value -> StateM σ (Option Key)
  | .atom value => some <$> value.requestKey
  | _ => pure none

/-- A computation that files atoms under their keys, and stops at the first
value without one. -/
abbrev Filing (σ α : Type) := ExceptT Unhashable (StateM σ) α

/-- Ask for the key under which a value is to be filed. -/
def Value.filed : Value -> Filing σ (Key × Atom)
  | .atom value => do
      let key <- (value.requestKey : StateM σ Key)
      return (key, value)
  | other => throw ⟨other.kind⟩

/-- Programs see a rejected key as a failure value. -/
def Filing.toValue (filing : Filing σ Value) : StateM σ Value := do
  match <- filing.run with
  | .ok value => return value
  | .error rejected => return .ofFault rejected.fault

end Monkey
