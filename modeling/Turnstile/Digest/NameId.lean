import Turnstile.Digest.Sha1

/-!
# Identifiers derived from names

An identifier of version 5 is made from the SHA-1 digest of a namespace and a name, so
that one name always has one identifier.
-/

set_option autoImplicit false

namespace Turnstile.Digest

/-- The namespace of object identifiers, 6ba7b812-9dad-11d1-80b4-00c04fd430c8. -/
def objectNamespace : List UInt8 :=
  [0x6b, 0xa7, 0xb8, 0x12, 0x9d, 0xad, 0x11, 0xd1, 0x80, 0xb4, 0x00, 0xc0, 0x4f,
    0xd4, 0x30, 0xc8]

/-- Two lowercase hexadecimal digits. -/
def hexByte (b : UInt8) : List Char :=
  [Nat.digitChar (b.toNat / 16), Nat.digitChar (b.toNat % 16)]

/-- Sixteen bytes in groups of 4, 2, 2, 2 and 6, joined by dashes. -/
def grouped (bytes : List UInt8) : String :=
  let group (first count : Nat) : List Char :=
    ((bytes.drop first).take count).flatMap hexByte
  String.ofList (group 0 4 ++ '-' :: group 4 2 ++ '-' :: group 6 2 ++ '-' :: group 8 2 ++
    '-' :: group 10 6)

/-- Set the version and the variant in the first sixteen bytes of a digest. -/
def marked (digest : List UInt8) : List UInt8 :=
  let bytes := digest.take 16
  let bytes := bytes.set 6 ((bytes.getD 6 0 &&& 0x0f) ||| 0x50)
  bytes.set 8 ((bytes.getD 8 0 &&& 0x3f) ||| 0x80)

/-- The identifier of a name in the namespace of object identifiers. -/
def nameId (name : String) : String :=
  grouped (marked (sha1 (objectNamespace ++ name.toUTF8.toList)))

end Turnstile.Digest
