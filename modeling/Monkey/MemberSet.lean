import Monkey.KeySource

/-!
# Sets

A set files its members under their keys. Of two elements with the same key
the later one stays. Extending a set stops at the first element that is not
hashable. The union of two sets files the members of the right one over those
of the left one; both already know their keys, so none is asked for.
-/

namespace Monkey

variable [Embedding]

namespace MemberSet

variable {σ : Type} [KeySource σ]

/-- File every element of a list. -/
def extend (members : MemberSet) : List Value -> Filing σ MemberSet
  | [] => pure members
  | element :: rest => do
      let (key, member) <- element.filed
      extend (members.insert key member) rest

/-- Build a set from its elements. -/
def ofElements (elements : List Value) : Filing σ MemberSet :=
  extend Table.empty elements

/-- The members of a set and one more. -/
def withElement (members : MemberSet) (element : Value) :
    Filing σ MemberSet :=
  extend members [element]

/-- The members of both sets. Under a shared key the right one's stays. -/
def union (left right : MemberSet) : MemberSet :=
  left.merge right

/-- Whether the key of a value is present. Values without a key are never
members. -/
def contains (members : MemberSet) (element : Value) : StateM σ Bool := do
  match <- element.requestKey? with
  | some key => return Table.contains members key
  | none => return false

/-- The members of a set, in canonical order. -/
def members (members : MemberSet) : List Atom :=
  (canonicalOrder (members.entries.map fun entry => (entry.2, ()))).map Prod.fst

end MemberSet

/-- The set of some elements as a value, or the failure that rejects one. -/
def Value.ofElements {σ : Type} [KeySource σ] (elements : List Value) :
    StateM σ Value :=
  Filing.toValue (.set <$> MemberSet.ofElements elements)

end Monkey
