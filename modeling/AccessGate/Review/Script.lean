/-
Reviewers that answer from a script.
-/
import AccessGate.Review.Basic

namespace AccessGate.Review

/-- What a script says about a subject. -/
inductive Response where
  | allow
  | forbid
  | fail (message : String)
  /-- The answer never comes. -/
  | hang
deriving DecidableEq, Repr

/-- Responses by subject, and one for all others. -/
structure Script where
  responses : Assoc String Response := []
  default : Response := .forbid
deriving Repr

namespace Script

/-- How a script names a subject. -/
def keyOf : Subject → String
  | .serviceAccount a => a.username
  | .bearer token => "token:" ++ token

def respond (s : Script) (subject : Subject) (r : Response) : Script :=
  { s with responses := s.responses.insert (keyOf subject) r }

def response (s : Script) (subject : Subject) : Response :=
  (s.responses.get? (keyOf subject)).getD s.default

/-- The reviews of a decision whose call is cancelled from the start, or when an answer does not come,
or not at all. -/
def world (s : Script) (cancelled cancelWhenWaiting : Bool) : World := fun _ _ subject =>
  if cancelled then .unasked
  else
    match s.response subject with
    | .allow => .answered .allowed
    | .forbid => .answered (.forbidden "scripted denial")
    | .fail m => .answered (.failed m)
    | .hang => if cancelWhenWaiting then .interrupted else .waiting

end Script

end AccessGate.Review
