/-
**Compressed blocks.**

Compressed bytes are a row of blocks. A block holds bytes as they are, or symbols: bytes,
repetitions of what came before, and the end of the block. Its codes are fixed, or they stand in
front of it and are themselves compressed.

* `blocks?` — the bytes of a row of blocks, and the bits behind them.
-/

import IconComponents.Gzip.PrefixCode

namespace IconComponents.Gzip

/-! ### Symbols -/

/-- The lengths of repetitions by their symbols: the least one, and how many bits add to it. -/
def repetitionLengths : List (Nat × Nat) :=
  [(3, 0), (4, 0), (5, 0), (6, 0), (7, 0), (8, 0), (9, 0), (10, 0), (11, 1), (13, 1), (15, 1),
    (17, 1), (19, 2), (23, 2), (27, 2), (31, 2), (35, 3), (43, 3), (51, 3), (59, 3), (67, 4),
    (83, 4), (99, 4), (115, 4), (131, 5), (163, 5), (195, 5), (227, 5), (258, 0)]

/-- How far back repetitions start, by their symbols: the least distance, and how many bits add to
it. -/
def repetitionDistances : List (Nat × Nat) :=
  [(1, 0), (2, 0), (3, 0), (4, 0), (5, 1), (7, 1), (9, 2), (13, 2), (17, 3), (25, 3), (33, 4),
    (49, 4), (65, 5), (97, 5), (129, 6), (193, 6), (257, 7), (385, 7), (513, 8), (769, 8),
    (1025, 9), (1537, 9), (2049, 10), (3073, 10), (4097, 11), (6145, 11), (8193, 12),
    (12289, 12), (16385, 13), (24577, 13)]

/-- The number that a symbol and the bits behind it give. -/
def measure? (table : List (Nat × Nat)) (symbol : Nat) (bits : Bits) : Option (Nat × Bits) := do
  let (least, extra) ← table[symbol]?
  let (more, rest) ← number? extra bits
  some (least + more, rest)

/-- Bytes with the one at a given distance from the end repeated, again and again. -/
def repeatBack (distance : Nat) : Nat → Array UInt8 → Array UInt8
  | 0, bytes => bytes
  | count + 1, bytes =>
    repeatBack distance count (bytes.push ((bytes[bytes.size - distance]?).getD 0))

/-- The codes of a block: that of bytes and of the lengths of repetitions, and that of distances. -/
structure Codes where
  literals : PrefixCode
  distances : PrefixCode
  deriving Repr, DecidableEq

/-- The bytes so far with those of symbols up to the end of a block, and the bits behind them;
`fuel` bounds the number of symbols. -/
def symbols? (codes : Codes) : Nat → Array UInt8 → Bits → Option (Array UInt8 × Bits)
  | 0, _, _ => none
  | fuel + 1, bytes, bits => do
    let (symbol, rest) ← codes.literals.symbol? bits
    if symbol < 256 then symbols? codes fuel (bytes.push symbol.toUInt8) rest
    else if symbol = 256 then some (bytes, rest)
    else
      let (length, rest) ← measure? repetitionLengths (symbol - 257) rest
      let (place, rest) ← codes.distances.symbol? rest
      let (distance, rest) ← measure? repetitionDistances place rest
      if bytes.size < distance then none
      else symbols? codes fuel (repeatBack distance length bytes) rest

/-! ### Codes -/

/-- The codes of a block that brings none. -/
def fixedCodes? : Option Codes := do
  let literals ← PrefixCode.ofLengths? true
    (.replicate 144 8 ++ .replicate 112 9 ++ .replicate 24 7 ++ .replicate 8 8)
  let distances ← PrefixCode.ofLengths? true (.replicate 32 5)
  some ⟨literals, distances⟩

/-- The order in which the lengths of the code of lengths stand. -/
def lengthOrder : List Nat := [16, 17, 18, 0, 8, 7, 9, 6, 10, 5, 11, 4, 12, 3, 13, 2, 14, 1, 15]

/-- The lengths of the code of lengths, in order of their symbols. -/
def lengthLengths? (count : Nat) (bits : Bits) : Option (List Nat × Bits) :=
  let read := (lengthOrder.take count).foldl (fun state symbol => do
    let (found, bits) ← state
    let (length, rest) ← number? 3 bits
    some ((symbol, length) :: found, rest)) (some (([] : List (Nat × Nat)), bits))
  read.map fun (found, rest) =>
    ((List.range 19).map fun symbol => (found.lookup symbol).getD 0, rest)

/-- What a symbol of the code of lengths says to write, behind given lengths, the last one first. -/
def lengthRun? (behind : List Nat) (symbol : Nat) (bits : Bits) : Option (List Nat × Bits) :=
  if symbol < 16 then some ([symbol], bits)
  else if symbol = 16 then do
    let last ← behind.head?
    let (more, rest) ← number? 2 bits
    some (.replicate (3 + more) last, rest)
  else if symbol = 17 then
    (number? 3 bits).map fun (more, rest) => (.replicate (3 + more) 0, rest)
  else (number? 7 bits).map fun (more, rest) => (.replicate (11 + more) 0, rest)

/-- A given count of lengths, the last one first, and the bits behind them; `found` are those that
are known, and `fuel` bounds the number of symbols. -/
def lengths? (code : PrefixCode) (count : Nat) : Nat → List Nat → Bits → Option (List Nat × Bits)
  | 0, _, _ => none
  | fuel + 1, found, bits =>
    if found.length = count then some (found, bits)
    else if count < found.length then none
    else do
      let (symbol, rest) ← code.symbol? bits
      let (run, rest) ← lengthRun? found symbol rest
      lengths? code count fuel (run ++ found) rest

/-- The codes in front of a block, and the bits behind them. -/
def codes? (bits : Bits) : Option (Codes × Bits) := do
  let (literalCount, rest) ← number? 5 bits
  let (distanceCount, rest) ← number? 5 rest
  let (lengthCount, rest) ← number? 4 rest
  let literalCount := literalCount + 257
  let distanceCount := distanceCount + 1
  if 286 < literalCount || 30 < distanceCount then none
  else
    let (lengths, rest) ← lengthLengths? (lengthCount + 4) rest
    let code ← PrefixCode.ofLengths? false lengths
    let count := literalCount + distanceCount
    let (reversed, rest) ← lengths? code count (count + 1) [] rest
    let literals ← PrefixCode.ofLengths? true (reversed.reverse.take literalCount)
    let distances ← PrefixCode.ofLengths? true (reversed.reverse.drop literalCount)
    some (⟨literals, distances⟩, rest)

/-! ### Blocks -/

/-- The bytes so far with given many that stand in bits as they are, and the bits behind them. -/
def stored? : Nat → Array UInt8 → Bits → Option (Array UInt8 × Bits)
  | 0, bytes, bits => some (bytes, bits)
  | count + 1, bytes, bits => do
    let (byte, rest) ← number? 8 bits
    stored? count (bytes.push byte.toUInt8) rest

/-- The bytes so far with those of a block of a given kind, and the bits behind it. -/
def block? (kind : Nat) (bytes : Array UInt8) (bits : Bits) : Option (Array UInt8 × Bits) :=
  if kind = 0 then do
    let (length, rest) ← number? 16 (nextByte bits)
    let (complement, rest) ← number? 16 rest
    if length + complement = 0xFFFF then stored? length bytes rest else none
  else if kind = 1 then do
    let codes ← fixedCodes?
    symbols? codes (bits.length + 1) bytes bits
  else if kind = 2 then do
    let (codes, rest) ← codes? bits
    symbols? codes (rest.length + 1) bytes rest
  else none

/-- The bytes so far with those of blocks up to the last one, and the bits behind it; `fuel` bounds
the number of blocks. -/
def blocksFrom? : Nat → Array UInt8 → Bits → Option (Array UInt8 × Bits)
  | 0, _, _ => none
  | fuel + 1, bytes, bits => do
    let (isLast, rest) ← number? 1 bits
    let (kind, rest) ← number? 2 rest
    let (bytes, rest) ← block? kind bytes rest
    if isLast = 1 then some (bytes, rest) else blocksFrom? fuel bytes rest

/-- The bytes of a row of blocks, and the bits behind them. A block takes more than one bit, so
there are fewer blocks than bits. -/
def blocks? (bits : Bits) : Option (Array UInt8 × Bits) := blocksFrom? (bits.length + 1) #[] bits

end IconComponents.Gzip
