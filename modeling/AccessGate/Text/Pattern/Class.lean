/-
Classes of characters, as patterns use them. They go by the edition of the standard before the latest:
a character that the latest edition assigned is unassigned here and has no variants in case.
-/
import AccessGate.Text.Alphanumeric
import AccessGate.Text.Blank
import AccessGate.Text.CaseFold
import AccessGate.Text.Category

namespace AccessGate.Text

/-- A class of characters. -/
inductive CharClass where
  | none
  | any
  | range (lo hi : Nat)
  | category (k : Category)
  | digit
  | blank
  | word
  | complement (k : CharClass)
  | union (k l : CharClass)
  | inter (k l : CharClass)
  /-- With the other cases of its characters; only those of A to Z, or those of all scripts. -/
  | anyCase (ofScripts : Bool) (k : CharClass)
deriving DecidableEq, Repr, Inhabited

namespace CharClass

/-- Whether the latest edition assigned a code point. -/
def isRecent (n : Nat) : Bool :=
  inRanges recentRanges n

/-- The category of a character. -/
def categoryOf (c : Char) : Category :=
  if isRecent c.toNat then .other else .of c

/-- Whether a character may be part of a word: a letter, a mark, a digit, a connector, or one of the two
format characters that join letters or part them. -/
def isWord (c : Char) : Bool :=
  let n := c.toNat
  if n < 128 then c.isAlphanum || c = '_'
  else !isRecent n
    && (isAlphabetic c || inRanges markRanges n || inRanges digitRanges n || inRanges connectorRanges n
      || n = 0x200C || n = 0x200D)

/-- A character and those that differ from it only in case. -/
def casesOf (ofScripts : Bool) (c : Char) : List Char :=
  if ofScripts then
    if isRecent c.toNat then [c] else ((variants c.toNat).filter (!isRecent ·)).map Char.ofNat
  else [c, c.toLower, c.toUpper]

/-- Whether a class holds a character. -/
def has : CharClass → Char → Bool
  | none, _ => false
  | any, _ => true
  | range lo hi, c => lo ≤ c.toNat && c.toNat ≤ hi
  | category k, c => categoryOf c = k
  | digit, c => inRanges digitRanges c.toNat && !isRecent c.toNat
  | blank, c => isBlank c
  | word, c => isWord c
  | complement k, c => !k.has c
  | union k l, c => k.has c || l.has c
  | inter k l, c => k.has c && l.has c
  | anyCase ofScripts k, c => (casesOf ofScripts c).any k.has

/-- The class of one character. -/
def only (c : Char) : CharClass :=
  range c.toNat c.toNat

/-- The characters of some ranges. -/
def ofRanges (ranges : List (Char × Char)) : CharClass :=
  ranges.foldl (fun k r => union k (range r.1.toNat r.2.toNat)) none

/-- Ranges of ASCII by name. -/
def asciiRanges : List (String × List (Char × Char)) :=
  [("alnum", [('0', '9'), ('A', 'Z'), ('a', 'z')]), ("alpha", [('A', 'Z'), ('a', 'z')]),
    ("ascii", [('\x00', '\x7f')]), ("blank", [('\t', '\t'), (' ', ' ')]),
    ("cntrl", [('\x00', '\x1f'), ('\x7f', '\x7f')]), ("digit", [('0', '9')]), ("graph", [('!', '~')]),
    ("lower", [('a', 'z')]), ("print", [(' ', '~')]),
    ("punct", [('!', '/'), (':', '@'), ('[', '\x60'), ('\x7b', '~')]),
    ("space", [('\t', '\r'), (' ', ' ')]), ("upper", [('A', 'Z')]),
    ("word", [('0', '9'), ('A', 'Z'), ('_', '_'), ('a', 'z')]),
    ("xdigit", [('0', '9'), ('A', 'F'), ('a', 'f')])]

/-- The class of ASCII characters that a name stands for. -/
def ascii? (name : String) : Option CharClass :=
  (asciiRanges.lookup name).map ofRanges

end CharClass

end AccessGate.Text
