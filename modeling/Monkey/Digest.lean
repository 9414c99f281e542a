import Monkey.Text.Hexadecimal

/-!
# Digests

A digest is 64 bits computed from a sequence of bytes by the FNV-1a rule: start
from a fixed basis, and for each byte first mix the byte in by exclusive or,
then multiply by a fixed odd prime modulo `2 ^ 64`.
-/

namespace Monkey

/-- A 64-bit digest. -/
abbrev Digest := UInt64

namespace Digest

/-- The digest of no bytes. -/
def basis : Digest := 0xcbf29ce484222325

/-- The multiplier of every step. -/
def prime : Digest := 0x00000100000001b3

/-- Extend a digest by one byte. -/
def absorb (digest : Digest) (byte : UInt8) : Digest :=
  (digest ^^^ byte.toUInt64) * prime

/-- The digest of a sequence of bytes. -/
def ofBytes (bytes : List UInt8) : Digest :=
  bytes.foldl absorb basis

@[simp] theorem ofBytes_nil : ofBytes [] = basis := rfl

theorem ofBytes_append (front back : List UInt8) :
    ofBytes (front ++ back) = back.foldl absorb (ofBytes front) := by
  simp [ofBytes]

/-- The digest of a text is that of its UTF-8 bytes. -/
def ofString (content : String) : Digest :=
  ofBytes content.toUTF8.data.toList

/-- A digest in sixteen hexadecimal digits. -/
def hex (digest : Digest) : String :=
  String.ofList (Hexadecimal.digits 16 digest.toNat)

end Digest
end Monkey
