/-
**Prefix codes.**

Compressed bytes are read as bits, the least one of a byte first. A prefix code writes each symbol
with some of them, so that none of its words is the start of another one. It is given by the lengths
of its words alone: shorter words come first, and words of one length follow the order of their
symbols.

* `bitsOf`, `number?` — the bits of bytes, and a number in bits;
* `PrefixCode.ofLengths?` — the code of given lengths;
* `PrefixCode.symbol?` — the symbol at the front of bits.
-/

namespace IconComponents.Gzip

/-- A row of bits. -/
abbrev Bits := List Bool

/-- The bits of bytes, the least one of each byte first. -/
def bitsOf (bytes : List UInt8) : Bits :=
  bytes.flatMap fun byte => (List.range 8).map byte.toNat.testBit

/-- A number in a given count of bits, the least one first, and the bits behind it. -/
def number? : Nat → Bits → Option (Nat × Bits)
  | 0, bits => some (0, bits)
  | _ + 1, [] => none
  | count + 1, bit :: bits =>
    (number? count bits).map fun (high, rest) => (2 * high + bit.toNat, rest)

/-- The bits from the next full byte on. -/
def nextByte (bits : Bits) : Bits := bits.drop (bits.length % 8)

/-- A prefix code: how many words there are of each length, from one bit on, and the symbols of the
words, shorter words first. -/
structure PrefixCode where
  counts : List Nat
  symbols : List Nat
  deriving Repr, DecidableEq

namespace PrefixCode

/-- How long a word can be. -/
def longest : Nat := 15

/-- The code of given lengths, one for each symbol; a symbol of length zero has no word. A code has
to leave no word unused, unless it may have a single word. -/
def ofLengths? (maySingle : Bool) (lengths : List Nat) : Option PrefixCode :=
  let groups := (List.range longest).map fun short =>
    (lengths.zipIdx.filter fun (length, _) => length = short + 1).map (·.2)
  let code : PrefixCode := ⟨groups.map List.length, groups.flatten⟩
  let used := code.counts.foldl (fun words count => 2 * words + count) 0
  if used = Nat.pow 2 longest || (maySingle && code.symbols.length ≤ 1) then some code else none

/-- The symbol at the front of bits, among words that are at least as long as what was read, and the
bits behind it. `offset` is the place of what was read among the words of its length. -/
def symbolFrom? : List Nat → List Nat → Nat → Bits → Option (Nat × Bits)
  | count :: counts, symbols, offset, bit :: bits =>
    let offset := 2 * offset + bit.toNat
    if offset < count then symbols[offset]?.map fun symbol => (symbol, bits)
    else symbolFrom? counts (symbols.drop count) (offset - count) bits
  | _, _, _, _ => none

/-- The symbol at the front of bits, and the bits behind it. -/
def symbol? (code : PrefixCode) (bits : Bits) : Option (Nat × Bits) :=
  symbolFrom? code.counts code.symbols 0 bits

end PrefixCode

end IconComponents.Gzip
