/-
**Transliteration to ASCII.**

Component names are ASCII, file names are not. `transliterate` replaces each character by a short
ASCII text and leaves ASCII alone. Ideographs and pictures end in a space, so that each one is a
word; a combining mark vanishes without ending the word. A table of all characters would be long.
This one has Latin letters with their accents, Greek and Cyrillic, and a few characters of other
scripts; a character without an entry becomes `[?]`. What is proved of names holds for every spelling,
so that a longer table can take the place of this one.

* `transliterate_of_ascii` — ASCII text is left as it is;
* `transliterate_append` — texts are spelled one after the other.
-/

import IconComponents.Text.Basic

namespace IconComponents

/-- Runs of consecutive code points: the first code point of a run and the texts from there on. -/
def transliterationRuns : List (Nat × List String) :=
  [(0x80, [
   "", "", "", "", "", "", "", "", "", "", "", "", "", "", "", "", "", "", "", "", "", "", "",
   "", "", "", "", "", "", "", "", "", " ", "!", "C/", "PS", "$?", "Y=", "|", "SS", "\"",
   "(c)", "a", "<<", "!", "", "(r)", "-", "deg", "+-", "2", "3", "'", "u", "P", "*", ",", "1",
   "o", ">>", "1/4", "1/2", "3/4", "?", "A", "A", "A", "A", "A", "A", "AE", "C", "E", "E", "E",
   "E", "I", "I", "I", "I", "D", "N", "O", "O", "O", "O", "O", "x", "O", "U", "U", "U", "U",
   "Y", "Th", "ss", "a", "a", "a", "a", "a", "a", "ae", "c", "e", "e", "e", "e", "i", "i", "i",
   "i", "d", "n", "o", "o", "o", "o", "o", "/", "o", "u", "u", "u", "u", "y", "th", "y", "A",
   "a", "A", "a", "A", "a", "C", "c", "C", "c", "C", "c", "C", "c", "D", "d", "D", "d", "E",
   "e", "E", "e", "E", "e", "E", "e", "E", "e", "G", "g", "G", "g", "G", "g", "G", "g", "H",
   "h", "H", "h", "I", "i", "I", "i", "I", "i", "I", "i", "I", "i", "IJ", "ij", "J", "j", "K",
   "k", "k", "L", "l", "L", "l", "L", "l", "L", "l", "L", "l", "N", "n", "N", "n", "N", "n",
   "'n", "ng", "NG", "O", "o", "O", "o", "O", "o", "OE", "oe", "R", "r", "R", "r", "R", "r",
   "S", "s", "S", "s", "S", "s", "S", "s", "T", "t", "T", "t", "T", "t", "U", "u", "U", "u",
   "U", "u", "U", "u", "U", "u", "U", "u", "W", "w", "Y", "y", "Y", "Z", "z", "Z", "z", "Z",
   "z", "s"]),
   (0x370, [
   "H", "h", "S", "s", "'", ",", "W", "w", "[?]", "[?]", "i", "s", "s.", "s.", "?", "J", "[?]",
   "[?]", "[?]", "[?]", "'", "\"'", "A", ";", "E", "E", "I", "[?]", "O", "[?]", "U", "O", "I",
   "A", "B", "G", "D", "E", "Z", "E", "Th", "I", "K", "L", "M", "N", "Ks", "O", "P", "R",
   "[?]", "S", "T", "U", "Ph", "Kh", "Ps", "O", "I", "U", "a", "e", "e", "i", "u", "a", "b",
   "g", "d", "e", "z", "e", "th", "i", "k", "l", "m", "n", "x", "o", "p", "r", "s", "s", "t",
   "u", "ph", "kh", "ps", "o", "i", "u", "o", "u", "o", "&", "b", "th", "U", "U", "U", "ph",
   "p", "&", "Q", "q", "St", "st", "W", "w", "Q", "q", "Sp", "sp", "Sh", "sh", "F", "f", "Kh",
   "kh", "H", "h", "G", "g", "CH", "ch", "Ti", "ti", "k", "r", "c", "j", "TH", "e", "e", "Sh",
   "sh", "s", "S", "s", "r/", "S", "S.", "S.", "Ie", "Io", "Dj", "Gj", "E", "Dz", "I", "Yi",
   "J", "Lj", "Nj", "Tsh", "Kj", "I", "U", "Dzh", "A", "B", "V", "G", "D", "E", "Zh", "Z", "I",
   "I", "K", "L", "M", "N", "O", "P", "R", "S", "T", "U", "F", "Kh", "Ts", "Ch", "Sh", "Shch",
   "'", "Y", "'", "E", "Iu", "Ia", "a", "b", "v", "g", "d", "e", "zh", "z", "i", "i", "k", "l",
   "m", "n", "o", "p", "r", "s", "t", "u", "f", "kh", "ts", "ch", "sh", "shch", "'", "y", "'",
   "e", "iu", "ia", "ie", "io", "dj", "gj", "ie", "dz", "i", "yi", "j", "lj", "nj", "tsh",
   "kj", "i", "u", "dzh"]),
   (0x0301, [""]), (0x0627, [""]), (0x2003, [" "]), (0x200B, [" "]), (0x2013, ["-", "--"]),
   (0x201C, ["\"", "\""]), (0x20AC, ["EUR"]), (0x2135, ["a"]), (0x2167, ["VIII"]),
   (0x2192, ["-"]), (0x2460, ["1"]), (0x2605, ["*"]), (0x2764, ["heart"]), (0x3000, [" "]),
   (0x3042, ["a"]), (0x30A2, ["a"]), (0x30A4, ["i"]), (0x30B3, ["ko"]), (0x30F3, ["n"]),
   (0x4EAC, ["Jing "]), (0x5317, ["Bei "]), (0x65E5, ["Ri "]), (0x65F6, ["Shi "]),
   (0x672C, ["Ben "]), (0x6771, ["Dong "]), (0x95F4, ["Jian "]), (0xAE00, ["geul"]),
   (0xD55C, ["han"]), (0xFB01, ["fi"]), (0xFEFF, [""]), (0xFFFD, ["?"]),
   (0x1F600, ["grinning "]), (0x1F980, ["crab "])]

/-- The text of a code point in the first run that reaches it. -/
def transliteration? (code : Nat) : List (Nat × List String) → Option String
  | [] => none
  | (first, texts) :: runs =>
    if first ≤ code ∧ code < first + texts.length then texts[code - first]?
    else transliteration? code runs

/-- The ASCII text that stands for a character. -/
def Char.transliterated (c : Char) : Text :=
  if c.toNat < 0x80 then [c]
  else
    match transliteration? c.toNat transliterationRuns with
    | some text => text.toList
    | none => "[?]".toList

/-- The ASCII spelling of a text, character by character. -/
def Text.transliterate (text : Text) : Text := text.flatMap Char.transliterated

theorem Text.transliterate_of_ascii {text : Text} (ascii : ∀ c ∈ text, c.toNat < 0x80) :
    text.transliterate = text := by
  induction text with
  | nil => rfl
  | cons c text ih =>
    have head := ascii c (by simp)
    have tail := ih fun d mem => ascii d (by simp [mem])
    simp only [Text.transliterate, List.flatMap_cons] at tail ⊢
    rw [tail, Char.transliterated, if_pos head, List.singleton_append]

theorem Text.transliterate_append (text other : Text) :
    (text ++ other).transliterate = text.transliterate ++ other.transliterate :=
  List.flatMap_append

end IconComponents
