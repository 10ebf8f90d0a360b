/-
**Readers of XML.**

A reader takes something from the front of a text, or says what is wrong there. What it leaves is
the end of the text; readers in a row keep that, so a loop around them comes to its own end.

* `Reader` — readers and their sequence;
* `Reader.expect`, `Reader.wordsUpTo`, `Reader.qualifiedName` — what tags and declarations are made
  of.
-/

import IconComponents.Text.Blank
import IconComponents.Xml.Error

namespace IconComponents.Xml

/-! ### Characters -/

/-- Ranges of characters beyond ASCII that can start a name. -/
def nameStartRanges : List (Nat × Nat) :=
  [(0xC0, 0xD6), (0xD8, 0xF6), (0xF8, 0x2FF), (0x370, 0x37D), (0x37F, 0x1FFF), (0x200C, 0x200D),
    (0x2070, 0x218F), (0x2C00, 0x2FEF), (0x3001, 0xD7FF), (0xF900, 0xFDCF), (0xFDF0, 0xFFFD),
    (0x10000, 0xEFFFF)]

/-- Whether a character can start a name. -/
def isNameStart (c : Char) : Bool :=
  c.isAlpha || c = '_' || nameStartRanges.any fun (first, last) => first ≤ c.toNat && c.toNat ≤ last

/-- Whether a character can stand in a name. -/
def isNamePart (c : Char) : Bool :=
  isNameStart c || c.isDigit || c = '-' || c = '.' || c.toNat = 0xB7 ||
    (0x300 ≤ c.toNat && c.toNat ≤ 0x36F) || (0x203F ≤ c.toNat && c.toNat ≤ 0x2040)

/-- Whether a document can hold a character. -/
def isDocumentChar (c : Char) : Bool :=
  c = '\t' || c = '\n' || c = '\r' || (0x20 ≤ c.toNat && c.toNat != 0xFFFE && c.toNat != 0xFFFF)

/-! ### Sequences of readers -/

/-- What a reader found at the front of a text, and what it leaves, which is the end of the text. -/
structure Reading (α : Type) (text : Text) where
  value : α
  rest : Text
  suffix : rest <:+ text

theorem Reading.length_le {α : Type} {text : Text} (found : Reading α text) :
    found.rest.length ≤ text.length :=
  found.suffix.length_le

/-- A reader of something at the front of a text. -/
def Reader (α : Type) : Type := (text : Text) → Except Error (Reading α text)

namespace Reader

variable {α β : Type}

/-- Read nothing. -/
protected def pure (value : α) : Reader α := fun text => .ok ⟨value, text, List.suffix_refl _⟩

/-- Read one thing, and then another one that depends on it. -/
protected def bind (reader : Reader α) (next : α → Reader β) : Reader β := fun text =>
  match reader text with
  | .error error => .error error
  | .ok found =>
    match next found.value found.rest with
    | .error error => .error error
    | .ok behind =>
      .ok ⟨behind.value, behind.rest, behind.suffix.trans found.suffix⟩

instance : Monad Reader where
  pure := Reader.pure
  bind := Reader.bind

/-! ### Parts -/

/-- Something is wrong at a place. -/
def fail (fault : Fault) (place : Text) : Reader α := fun _ => .error (.here fault place)

/-- The text that is still to be read. -/
def ahead : Reader Text := fun text => .ok ⟨text, text, List.suffix_refl _⟩

/-- The characters at the front that pass a test. -/
def takeWhile (p : Char → Bool) : Reader Text := fun text =>
  .ok ⟨text.takeWhile p, text.dropWhile p, List.dropWhile_suffix p⟩

/-- Read white space, if there is any. -/
def skipSpace : Reader PUnit := fun text =>
  .ok ⟨⟨⟩, Text.skipSpace text, List.dropWhile_suffix Char.isSpace⟩

/-- Read given words, if they stand at the front; whether they do. -/
def skip (words : Text) : Reader Bool := fun text =>
  match found : Text.after? words text with
  | some rest =>
    .ok ⟨true, rest, words, (Text.after?_eq_some_iff.mp found).symm⟩
  | none => .ok ⟨false, text, List.suffix_refl _⟩

/-- A character that passes a test; `fault` says what is missing instead of another one. -/
def expectWhere (p : Char → Bool) (fault : Char → Fault) : Reader Char := fun text =>
  match text with
  | [] => .error .endOfText
  | c :: rest =>
    if p c then .ok ⟨c, rest, List.suffix_cons _ _⟩ else .error (.here (fault c) (c :: rest))

/-- Read a given character. -/
def expect (c : Char) : Reader PUnit := do
  let _ ← expectWhere (· = c) (.expectedChar c)

/-- Read given words. -/
def expectText (words : Text) : Reader PUnit := do
  let place ← ahead
  if ← skip words then pure ⟨⟩ else fail (.expectedText words) place

/-- Read a quotation mark. -/
def quotationMark : Reader Char :=
  expectWhere (fun c => c = '"' || c = '\'') (.expectedKind "a quote".toList)

/-- Read white space that has to be there. -/
def needSpace : Reader PUnit := do
  let _ ← expectWhere Char.isSpace (.expectedKind "a whitespace".toList)
  skipSpace

/-- Refuse words that no document can hold; `behind` is the text that follows them. -/
def checkWords (words behind : Text) : Reader PUnit :=
  match words.dropWhile isDocumentChar with
  | [] => pure ⟨⟩
  | c :: rest => fail (.wrongCharacter c) (c :: rest ++ behind)

/-- The words at the front whose characters pass a test. -/
def wordsWhile (p : Char → Bool) : Reader Text := do
  let words ← takeWhile p
  checkWords words (← ahead)
  pure words

/-- The words before a mark, which is read, too. -/
def wordsUpTo (mark : Text) : Reader Text := fun text =>
  match found : Text.cut? mark text with
  | none =>
    Reader.bind (checkWords text []) (fun _ => fail (.expectedText mark) []) text
  | some (words, rest) =>
    match checkWords words (mark ++ rest) text with
    | .error error => .error error
    | .ok _ =>
      .ok ⟨words, rest, words ++ mark, (Text.eq_append_of_cut? found).symm⟩

/-- What stands between quotation marks, whatever it is. -/
def literal : Reader Text := do
  let mark ← quotationMark
  let words ← takeWhile (· != mark)
  expect mark
  pure words

end Reader

/-! ### Names -/

/-- A name with the prefix of its namespace, empty if there is none. -/
structure QualifiedName where
  lead : Text
  name : Text
  deriving Repr, DecidableEq

/-- The name as it is written. -/
def QualifiedName.text (name : QualifiedName) : Text :=
  if name.lead.isEmpty then name.name else name.lead ++ ':' :: name.name

namespace Reader

/-- The characters of a name, colons among them. -/
def nameParts : Reader Text := takeWhile fun c => c = ':' || isNamePart c

/-- A name in which colons are nothing special. -/
def name : Reader Text := do
  let place ← ahead
  let name ← nameParts
  if name.head?.any fun c => c = ':' || isNameStart c then pure name
  else fail .invalidName place

/-- A name with an optional prefix. -/
def qualifiedName : Reader QualifiedName := do
  let place ← ahead
  let startsWell := fun (name : Text) => name.head?.all isNameStart
  match Text.splitOn ':' (← nameParts) with
  | [name] =>
    if !name.isEmpty && startsWell name then pure ⟨[], name⟩ else fail .invalidName place
  | [lead, name] =>
    if startsWell lead && !name.isEmpty && startsWell name then pure ⟨lead, name⟩
    else fail .invalidName place
  | _ => fail .invalidName place

end Reader

end IconComponents.Xml
