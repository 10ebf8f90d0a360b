/-
**Compressed files.**

A compressed file has a header, blocks, and the checksum and length of what the blocks hold. The
header can have a name, a comment and other fields, which say nothing about the content.

* `checksum` — the checksum of bytes;
* `isArchive` — whether bytes start as a compressed file does;
* `unpack?` — the bytes that a compressed file holds.
-/

import IconComponents.Gzip.Block

namespace IconComponents.Gzip

/-! ### Checksums -/

/-- One bit of a remainder is divided off. -/
def divideBit (remainder : UInt32) : UInt32 :=
  if remainder &&& 1 = 1 then (remainder >>> 1) ^^^ 0xEDB88320 else remainder >>> 1

/-- The remainder with a byte more. -/
def divideByte (remainder : UInt32) (byte : UInt8) : UInt32 :=
  Nat.repeat divideBit 8 (remainder ^^^ byte.toUInt32)

/-- The checksum of bytes: what is left when they are divided as a polynomial. -/
def checksum (bytes : List UInt8) : UInt32 := bytes.foldl divideByte 0xFFFFFFFF ^^^ 0xFFFFFFFF

/-! ### Headers -/

/-- Whether bytes start as a compressed file does. -/
def isArchive : List UInt8 → Bool
  | 0x1F :: 0x8B :: _ => true
  | _ => false

/-- The bytes behind a given count of them, if there are so many. -/
def behindCount? (count : Nat) (bytes : List UInt8) : Option (List UInt8) :=
  if bytes.length < count then none else some (bytes.drop count)

/-- The bytes behind a field that starts with its own length. -/
def behindExtra? : List UInt8 → Option (List UInt8)
  | low :: high :: bytes => behindCount? (low.toNat + 256 * high.toNat) bytes
  | _ => none

/-- The bytes behind a field that a zero ends. -/
def behindZero? (bytes : List UInt8) : Option (List UInt8) :=
  match bytes.dropWhile (· != 0) with
  | [] => none
  | _ :: rest => some rest

/-- The bytes behind a checksum of the header; `header` is the header with all that follows. -/
def behindHeaderSum? (header : List UInt8) : List UInt8 → Option (List UInt8)
  | low :: high :: bytes =>
    let sum := checksum (header.take (header.length - bytes.length - 2))
    if sum.toNat % 65536 = low.toNat + 256 * high.toNat then some bytes else none
  | _ => none

/-- The bytes behind a field, if a flag says that it is there. -/
def behindIf? (flags : UInt8) (bit : Nat) (behind? : List UInt8 → Option (List UInt8))
    (bytes : List UInt8) : Option (List UInt8) :=
  if flags.toNat.testBit bit then behind? bytes else some bytes

/-- The bytes behind the header. -/
def behindHeader? (header : List UInt8) : Option (List UInt8) :=
  match header with
  | 0x1F :: 0x8B :: 8 :: flags :: bytes => do
    if 0x20 ≤ flags then none
    else
      let rest ← behindCount? 6 bytes
      let rest ← behindIf? flags 2 behindExtra? rest
      let rest ← behindIf? flags 3 behindZero? rest
      let rest ← behindIf? flags 4 behindZero? rest
      behindIf? flags 1 (behindHeaderSum? header) rest
  | _ => none

/-! ### Contents -/

/-- The bytes that a compressed file holds, if nothing in it is wrong. What stands behind its end
does not count. -/
def unpack? (file : List UInt8) : Option (List UInt8) := do
  let (bytes, rest) ← blocks? (bitsOf (← behindHeader? file))
  let (sum, rest) ← number? 32 (nextByte rest)
  let (length, _) ← number? 32 rest
  let content := bytes.toList
  if (checksum content).toNat = sum && content.length % 0x100000000 = length then some content
  else none

end IconComponents.Gzip
