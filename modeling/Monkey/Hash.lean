import Monkey.KeySource

/-!
# Hashes

A hash is built from pairs in order. Of two pairs with the same key the later
one replaces the earlier, atom and value both. Building stops at the first
pair whose key is not hashable.
-/

namespace Monkey

variable [Embedding]

namespace Hash

variable {σ : Type} [KeySource σ]

/-- File one more pair. -/
def withPair (hash : Hash) (pair : Value × Value) : Filing σ Hash := do
  let (key, atom) <- pair.1.filed
  return hash.insert key (atom, pair.2)

/-- Build a hash from pairs of a key and a value. -/
def ofPairs (pairs : List (Value × Value)) : Filing σ Hash :=
  pairs.foldlM withPair Table.empty

/-- The value filed under the key of a value. Values without a key are never
present. -/
def lookup (hash : Hash) (key : Value) : StateM σ (Option Value) := do
  match <- key.requestKey? with
  | some key => return (hash.get? key).map Prod.snd
  | none => return none

/-- The atoms and values of a hash, in canonical order. -/
def pairs (hash : Hash) : List (Atom × Value) :=
  canonicalOrder (hash.entries.map Prod.snd)

end Hash

/-- The hash of some pairs as a value, or the failure that rejects a key. -/
def Value.ofPairs {σ : Type} [KeySource σ] (pairs : List (Value × Value)) :
    StateM σ Value :=
  Filing.toValue (.hash <$> Hash.ofPairs pairs)

end Monkey
