import Lalr.Parser.Session

/-!
# Failures by example

Texts that are known to fail tell what another failure means: one that fails in
the same state of the parse is alike, and one that fails there on the very same
token is decisive.
-/

namespace Lalr

/-- A label with some failing texts. What is not a list of texts has none. -/
structure FailureExample where
  label : Data
  texts : Option (List String)
  deriving DecidableEq, Inhabited

/-- How closely failures have to agree. With `byAcceptance` the same terminals have to be
acceptable, and with `byKind` a token of the same kind is better than none. -/
structure Likeness where
  byAcceptance : Bool := true
  byKind : Bool := false
  deriving DecidableEq, Repr, Inhabited

/-- What the examples so far have come to: a label, and whether it was found by the kind of its
token. -/
structure Candidate where
  label : Data := .null
  byKind : Bool := false
  deriving DecidableEq, Inhabited

/-- How like each other two failures are that are comparable: they have the state of the parse in
common, or also the kind of the token, or the token itself. -/
inductive Closeness where
  | state
  | kind
  | token
  deriving DecidableEq, Repr, Inhabited

namespace Offender

/-- The text of what was rejected. -/
def content : Offender → String
  | .token it => it.text
  | .text it => it

/-- Whether the same was rejected. Only tokens have kinds to tell them apart. -/
def agrees : Offender → Offender → Bool
  | .token it, .token other => it.agrees other
  | it, other => it.content == other.content

end Offender

namespace Failure

/-- What was rejected, if this is what the failure is about. -/
def offender? : Failure → Option Offender
  | .stuckToken stuck => some stuck.offender
  | _ => none

/-- The token that was rejected, if it was one. -/
def token? (failure : Failure) : Option Token :=
  match failure.offender? with
  | some (.token it) => some it
  | _ => none

end Failure

/-- How close one failure is to another that is comparable. Kinds are looked at only if they count,
and a text that nobody made a token has none. -/
def Likeness.closeness (likeness : Likeness) (own other : Failure) : Except Failure Closeness :=
  match own.offender?, other.offender? with
  | some mine, some theirs =>
    if theirs.agrees mine then .ok .token
    else if likeness.byKind then
      match theirs.kind?, mine.kind? with
      | some kind, some mine => .ok (if kind = mine then .kind else .state)
      | _, _ => .error (.fault .missingPart)
    else .ok .state
  | _, _ => .ok .state

/-- A failure that has come up, and how to find out which terminals would have been accepted
instead. -/
structure Mishap where
  failure : Failure
  acceptable : Run (List String)

namespace Mishap

/-- The acceptable terminals, which are found out only once. -/
def recollect (own : Mishap) (known : Option (List String)) : Run (List String) :=
  match known with
  | some names => pure names
  | none => own.acceptable

/-- Whether the same terminals are acceptable, where both failures reject something and this counts.
-/
def agrees (likeness : Likeness) (own other : Mishap) (known : Option (List String)) :
    Run (Bool × Option (List String)) := do
  if likeness.byAcceptance && own.failure.offender?.isSome && other.failure.offender?.isSome then
    let others ← other.acceptable
    let names ← own.recollect known
    return (others.all names.contains && names.all others.contains, some names)
  else return (true, known)

/-- Tries a text that should fail, and tells how close it comes if it fails in a comparable way. -/
def compare (attempt : String → Work (Option Mishap)) (likeness : Likeness) (own : Mishap)
    (text : String) (known : Option (List String)) :
    Run (Option Closeness × Option (List String)) := do
  match ← ExceptT.lift (attempt text) with
  | none => return (none, known)
  | some other =>
    if !other.failure.isStuck then throw other.failure
    else if other.failure.standing? ≠ own.failure.standing? then return (none, known)
    else
      let (alike, known) ← own.agrees likeness other known
      if alike then
        return (some (← Run.lift (likeness.closeness own.failure other.failure)), known)
      else return (none, known)

/-- Writes down how an example agrees. -/
def noteMatch (kind : String) (place : Nat × Nat) : Work Unit :=
  Work.record .debug .general fun _ =>
    kind ++ " at example [" ++ toString place.1 ++ "][" ++ toString place.2 ++ "]"

/-- Makes an example the candidate if there is none yet. -/
def noteState (label : Data) (place : Nat × Nat) (candidate : Candidate) : Work Candidate := do
  if candidate.label = .null then
    noteMatch "Same state match" place
    return { label }
  else return candidate

/-- Makes an example the candidate if there is none with a token of the same kind. -/
def noteKind (label : Data) (place : Nat × Nat) (candidate : Candidate) : Work Candidate := do
  if candidate.byKind then return candidate
  else
    noteMatch "Token type fallback" place
    return { label, byKind := true }

/-- What a comparable example makes of the candidate. A decisive example has its label alone in the
result. -/
def weigh (closeness : Closeness) (label : Data) (place : Nat × Nat) (candidate : Candidate) :
    Work (Data ⊕ Candidate) := do
  match closeness with
  | .token =>
    noteMatch "Exact match" place
    return .inl label
  | .kind => return .inr (← noteState label place (← noteKind label place candidate))
  | .state => return .inr (← noteState label place candidate)

/-- Goes through the texts of an example. -/
def tryTexts (attempt : String → Work (Option Mishap)) (likeness : Likeness) (own : Mishap)
    (label : Data) (number : Nat) :
    List String → Nat → Candidate → Option (List String) →
      Run ((Data ⊕ Candidate) × Option (List String))
  | [], _, candidate, known => return (.inr candidate, known)
  | text :: rest, index, candidate, known => do
    match ← compare attempt likeness own text known with
    | (none, known) => tryTexts attempt likeness own label number rest (index + 1) candidate known
    | (some closeness, known) =>
      match ← weigh closeness label (number, index) candidate with
      | .inl label => return (.inl label, known)
      | .inr candidate =>
        tryTexts attempt likeness own label number rest (index + 1) candidate known

/-- Goes through some examples. -/
def tryExamples (attempt : String → Work (Option Mishap)) (likeness : Likeness) (own : Mishap) :
    List FailureExample → Nat → Candidate → Option (List String) → Run Data
  | [], _, candidate, _ => return candidate.label
  | example_ :: rest, number, candidate, known => do
    match example_.texts with
    | none => throw (.fault .brokenPromise)
    | some texts =>
      match ← tryTexts attempt likeness own example_.label number texts 0 candidate known with
      | (.inl label, _) => return label
      | (.inr candidate, known) =>
        tryExamples attempt likeness own rest (number + 1) candidate known

/-- The label of the example that a failure is most like, or null if there is none. Texts are tried
by `attempt`, which says what came up if they failed. -/
def matchExamples (attempt : String → Work (Option Mishap)) (likeness : Likeness) (own : Mishap)
    (examples : List FailureExample) : Run Data := do
  match own.failure.standing? with
  | none => throw (.fault .brokenPromise)
  | some _ => tryExamples attempt likeness own examples 0 {} none

end Mishap

namespace Parser

/-- A failure that has come up in a parse. -/
def mishap (parser : Parser) (failure : Failure) : Mishap :=
  ⟨failure, ExceptT.mk (parser.acceptable failure)⟩

/-- Parses a text that should fail. -/
def attempt (parser : Parser) (text : String) : Work (Option Mishap) := do
  match ← (parser.parse text none).run with
  | .ok _ => return none
  | .error failure => return some (parser.mishap failure)

/-- The label of the example that a failure is most like when the parser parses the examples. -/
def matchExamples (parser : Parser) (likeness : Likeness) (failure : Failure)
    (examples : List FailureExample) : Run Data :=
  (parser.mishap failure).matchExamples parser.attempt likeness examples

end Parser

end Lalr
