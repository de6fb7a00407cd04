/-
Patterns of text: characters of classes, edges between characters, sequences, choices and repetitions.
A choice prefers its first branch, and a repetition prefers to go on unless it is reluctant.
-/
import AccessGate.Text.Pattern.Class

namespace AccessGate.Text

/-- What stands on either side of a place in a text; nothing stands before its start and after its
end. -/
structure Place where
  before : Option Char
  after : Option Char
deriving DecidableEq, Repr

/-- How a place lies to words. -/
inductive WordEdge where
  | either
  | neither
  | start
  | finish
deriving DecidableEq, Repr, Inhabited

/-- A condition on a place. -/
inductive Edge where
  | textStart
  | textEnd
  /-- Lines end at line feeds, or at carriage returns too; a pair of the two is one end. -/
  | lineStart (returns : Bool)
  | lineEnd (returns : Bool)
  /-- Words are those of ASCII, or those of all scripts. -/
  | word (ofScripts : Bool) (e : WordEdge)
deriving DecidableEq, Repr, Inhabited

/-- Whether the characters before and after a place, if they are of words, make it such an edge. -/
def WordEdge.holds : WordEdge → Bool → Bool → Bool
  | either, before, after => before != after
  | neither, before, after => before == after
  | start, before, after => !before && after
  | finish, before, after => before && !after

namespace Edge

def inWord (ofScripts : Bool) : Option Char → Bool
  | none => false
  | some c => if ofScripts then CharClass.isWord c else c.isAlphanum || c = '_'

/-- Whether a place is such an edge. -/
def holds : Edge → Place → Bool
  | textStart, p => p.before.isNone
  | textEnd, p => p.after.isNone
  | lineStart returns, p =>
    match p.before with
    | none => true
    | some c => c = '\n' || (returns && c = '\r' && p.after != some '\n')
  | lineEnd returns, p =>
    match p.after with
    | none => true
    | some c => if returns then c = '\r' || (c = '\n' && p.before != some '\r') else c = '\n'
  | word ofScripts e, p => e.holds (inWord ofScripts p.before) (inWord ofScripts p.after)

/-- Whether the bytes next to a place do not tell if it is such an edge. -/
def isHidden : Edge → Bool
  | word ofScripts _ => ofScripts
  | _ => false

end Edge

/-- What a text may look like. -/
inductive Pattern where
  | empty
  | char (k : CharClass)
  | edge (e : Edge)
  | seq (p q : Pattern)
  | either (p q : Pattern)
  /-- Once or not at all; a greedy one prefers once. -/
  | optional (greedy : Bool) (p : Pattern)
  /-- Once or more often; a greedy one prefers more. -/
  | more (greedy : Bool) (p : Pattern)
deriving DecidableEq, Repr, Inhabited

namespace Pattern

/-- Any number of times. -/
def many (greedy : Bool) (p : Pattern) : Pattern :=
  optional greedy (more greedy p)

/-- Whether a pattern asks for an edge that the bytes next to it do not show. -/
def hasHiddenEdge : Pattern → Bool
  | empty | char _ => false
  | edge e => e.isHidden
  | seq p q | either p q => p.hasHiddenEdge || q.hasHiddenEdge
  | optional _ p | more _ p => p.hasHiddenEdge

end Pattern

end AccessGate.Text
