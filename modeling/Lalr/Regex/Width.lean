import Lalr.Regex.Basic

/-!
# Widths of regular expressions

How many characters an expression can match at least and at most. Counts stop
at a cap far above the length of any text.
-/

namespace Lalr

namespace Width

/-- The cap on counts while a width is computed, two to the power of 64. -/
def cap : Nat := 0x10000000000000000

/-- The greatest count that a width reports. -/
def reported : Nat := 0xFFFFFFFF

/-- The width with both counts capped. -/
def capped (width : Width) : Width := ⟨min width.least cap, min width.most cap⟩

/-- The width of one expression after another. -/
def add (a b : Width) : Width := capped ⟨a.least + b.least, a.most + b.most⟩

/-- The width of a choice. -/
def either (a b : Width) : Width := ⟨min a.least b.least, max a.most b.most⟩

/-- The width of a repetition. Without a greatest number of rounds only an empty body is bounded. -/
def rounds (least : Nat) (most : Option Nat) (body : Width) : Width :=
  capped ⟨body.least * least,
    match most with
    | some most => body.most * most
    | none => if body.most = 0 then 0 else cap⟩

/-- The width as it is reported. -/
def report (width : Width) : Width := ⟨min width.least reported, min width.most reported⟩

end Width

/-- The width of an expression. Conditions on a position have width zero, and a back reference has
the width of its group. -/
def Regex.width : Regex → Width
  | .empty => ⟨0, 0⟩
  | .char _ => ⟨1, 1⟩
  | .class _ _ => ⟨1, 1⟩
  | .anyChar => ⟨1, 1⟩
  | .anchor _ => ⟨0, 0⟩
  | .sequence first second => first.width.add second.width
  | .choice first second => first.width.either second.width
  | .group _ body => body.width
  | .scoped _ body => body.width
  | .atomic body => body.width
  | .repetition _ least most body => .rounds least most body.width
  | .backReference _ width => width
  | .look _ _ _ => ⟨0, 0⟩
  | .conditional _ present absent => present.width.either absent.width

/-- Whether every look-behind goes back by a fixed number of characters. -/
def Regex.looksBehindFixed : Regex → Bool
  | .look behind _ body =>
    (!behind || body.width.least == body.width.most && body.width.least ≤ Width.reported)
      && body.looksBehindFixed
  | .sequence first second => first.looksBehindFixed && second.looksBehindFixed
  | .choice first second => first.looksBehindFixed && second.looksBehindFixed
  | .conditional _ present absent => present.looksBehindFixed && absent.looksBehindFixed
  | .group _ body => body.looksBehindFixed
  | .scoped _ body => body.looksBehindFixed
  | .atomic body => body.looksBehindFixed
  | .repetition _ _ _ body => body.looksBehindFixed
  | .empty | .char _ | .class _ _ | .anyChar | .anchor _ | .backReference _ _ => true

end Lalr
