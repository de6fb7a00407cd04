/-
The plural resource name of a kind, by the rules for English nouns that clusters follow.
-/
import AccessGate.Text.Case
import AccessGate.Text.Split

namespace AccessGate.Descriptor

def isVowel (c : Char) : Bool :=
  "aeiou".toList.contains c

/-- Words whose plural is a word of its own. -/
def irregular : List (String × String) :=
  [("endpoints", "endpoints"), ("endpointslices", "endpointslices"), ("nodemetrics", "nodes"),
    ("podmetrics", "pods")]

def hasEnding (word ending : String) : Bool :=
  (Text.dropStart? ending.toList.reverse word.toList.reverse).isSome

/-- Whether the character before the last is a consonant. It is found by the length in bytes, so for a
word with longer characters there may be none at that place. -/
def consonantBeforeLast (word : String) : Bool :=
  match word.toList[word.utf8ByteSize - 2]? with
  | some c => !isVowel c
  | none => false

/-- The plural of a word in lower case. -/
def pluralOfWord (word : String) : String :=
  match irregular.lookup word with
  | some p => p
  | none =>
    if ["s", "x", "z", "ch", "sh"].any (hasEnding word) then word ++ "es"
    else if hasEnding word "y" && consonantBeforeLast word then
      String.ofList word.toList.dropLast ++ "ies"
    else word ++ "s"

/-- The resource name of a kind. -/
def plural (kind : String) : String :=
  pluralOfWord (Text.toAsciiLower kind)

end AccessGate.Descriptor
