/-
# Keyed digests

A message is authenticated under a key by hashing it twice, each time after the key in another mask.
A key of more than one block is replaced by its digest, so every key can be used.
-/

import StackDeploy.Digest.Sha256

namespace StackDeploy.Digest

/-- The key of one block: the key itself or its digest, with zeros behind it. -/
def blockKey (key : List UInt8) : List UInt8 :=
  let short := if 64 < key.length then sha256 key else key
  short ++ List.replicate (64 - short.length) 0

/-- The keyed SHA-256 digest of a message. -/
def hmacSha256 (key message : List UInt8) : List UInt8 :=
  let masked (mask : UInt8) : List UInt8 := (blockKey key).map fun byte => byte ^^^ mask
  sha256 (masked 0x5c ++ sha256 (masked 0x36 ++ message))

end StackDeploy.Digest
