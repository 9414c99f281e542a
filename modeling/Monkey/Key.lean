import Monkey.Digest
import Monkey.Kind

/-!
# Keys

Hashes and sets file their entries under a key: the kind of the filed value
together with a digest of its content. Integers and booleans are their own
digest, so distinct ones never share a key; two texts share a key exactly when
their digests agree.
-/

namespace Monkey

/-- A key: the kind of a value and a digest of its content. -/
structure Key where
  kind : Kind
  digest : Digest
  deriving DecidableEq

namespace Key

/-- The digest of an integer is its two's-complement bit pattern. -/
def ofInt (value : Int64) : Key :=
  ⟨.integer, value.toUInt64⟩

/-- The digest of a boolean is one for truth and zero for falsity. -/
def ofBool (value : Bool) : Key :=
  ⟨.boolean, value.toUInt64⟩

/-- The digest of a text is computed from its bytes. -/
def ofString (content : String) : Key :=
  ⟨.string, Digest.ofString content⟩

/-- The text of a key: its kind, a colon, and its digest in hexadecimal. -/
def display (key : Key) : String :=
  key.kind.name ++ ":0x" ++ key.digest.hex

/-- The debug text of a key shows the digest in decimal. -/
def debug (key : Key) : String :=
  "HashKey \x7b kind: " ++ key.kind.label ++ ", value: " ++
    toString key.digest.toNat ++ " \x7d"

end Key
end Monkey
