import Monkey.Key
import Monkey.Text
import Monkey.Text.Quoted

/-!
# Atoms

An atom is a value that can key a hash or belong to a set: an integer, a
boolean or a text. Collections hold their keys and members as atoms, so that
no other value can be one.

Wherever entries of a collection are written down, they come in the canonical
order of their atoms: by the name of the kind, then by the displayed text.
-/

namespace Monkey

/-- A value that can key a hash or belong to a set. -/
inductive Atom
  | int (value : Int64)
  | bool (value : Bool)
  | text (value : Text)

namespace Atom

/-- The kind of an atom. -/
def kind : Atom -> Kind
  | .int _ => .integer
  | .bool _ => .boolean
  | .text _ => .string

/-- Equality of atoms: the same kind and the same content. -/
def beq : Atom -> Atom -> Bool
  | .int left, .int right => left == right
  | .bool left, .bool right => left == right
  | .text left, .text right => left == right
  | _, _ => false

instance : BEq Atom := ⟨beq⟩

/-- The key of an atom, computed from its content. -/
def key : Atom -> Key
  | .int value => .ofInt value
  | .bool value => .ofBool value
  | .text value => .ofString value.content

/-- The text that stands for an atom in output. -/
def display : Atom -> String
  | .int value => toString value.toInt
  | .bool true => "true"
  | .bool false => "false"
  | .text value => value.content

/-- The text that stands for an atom in debug output. -/
def debug : Atom -> String
  | .int value => "Int(" ++ toString value.toInt ++ ")"
  | .bool true => "Bool(true)"
  | .bool false => "Bool(false)"
  | .text value => "Str(" ++ quoted value.content ++ ")"

/-! ## Canonical order -/

/-- Whether one atom may stand before another in a listing. -/
def precedes (left right : Atom) : Bool :=
  if left.kind = right.kind then decide (left.display ≤ right.display)
  else decide (left.kind.name ≤ right.kind.name)

end Atom

/-- Entries of a collection in the canonical order of their atoms. -/
def canonicalOrder {α : Type} (entries : List (Atom × α)) : List (Atom × α) :=
  entries.mergeSort fun left right => left.1.precedes right.1

/-- The canonical order lists the entries and nothing else. -/
theorem perm_canonicalOrder {α : Type} (entries : List (Atom × α)) :
    (canonicalOrder entries).Perm entries :=
  List.mergeSort_perm entries _

end Monkey
