import Lalr.Failure

/-!
# Layout

In a grammar where indentation counts, each line break token carries the white
space that begins the next line. Layout adds a token where a line is indented
more than the block it stands in, and one for each block that a line ends. Line
breaks between brackets are dropped.
-/

namespace Lalr

/-- Which kinds of tokens play which part in layout, and for how many columns a tab counts. -/
structure LayoutRules where
  lineBreak : String
  opening : List String
  closing : List String
  indent : String
  dedent : String
  tabLength : Nat
  tabLength_pos : 0 < tabLength
  deriving DecidableEq, Repr

/-- Layout with the three kinds of brackets and tab stops that count for eight columns. -/
def LayoutRules.standard : LayoutRules where
  lineBreak := "_NEWLINE"
  opening := ["LPAR", "LSQB", "LBRACE"]
  closing := ["RPAR", "RSQB", "RBRACE"]
  indent := "_INDENT"
  dedent := "_DEDENT"
  tabLength := 8
  tabLength_pos := by decide

/-- What layout knows of the tokens so far: how many brackets are open, the widths of the blocks
that are open with the innermost first, and the last token. -/
structure Layout where
  open_ : Nat := 0
  widths : List Nat := [0]
  last : Option Token := none
  deriving DecidableEq, Inhabited

namespace Layout

/-- The white space after the last line break of a text, if there is a line break. -/
def indentation? (text : String) : Option (List Char) :=
  if text.toList.contains '\n' then some (Text.afterLastBreak text.toList) else none

/-- How wide white space is. -/
def widthOf (rules : LayoutRules) (space : List Char) : Nat :=
  space.count ' ' + space.count '\t' * rules.tabLength

/-- The widths of the blocks that a line of some width leaves open. -/
def closeBlocks (width : Nat) (widths : List Nat) : List Nat :=
  widths.dropWhile fun block => decide (width < block)

/-- What a line break gives: the token itself, then what its indentation calls for. A block must be
open that the line can be compared with. -/
def breakLine (rules : LayoutRules) (widths : List Nat) (token : Token) :
    List Token × Except Failure (List Nat) :=
  match indentation? token.text, widths with
  | some space, innermost :: _ =>
    let width := widthOf rules space
    let added (kind : String) := Token.borrowing kind (.text (String.ofList space)) token
    if innermost < width then ([token, added rules.indent], .ok (width :: widths))
    else
      let left := closeBlocks width widths
      let ended := List.replicate (widths.length - left.length) (added rules.dedent)
      (token :: ended,
        match left with
        | [] => .error (.fault .outOfRange)
        | block :: _ => if block = width then .ok left else .error (.dedent width block))
  | _, _ => ([token], .error (.fault .outOfRange))

/-- Counts the brackets that a token opens or closes. A bracket that was never opened cannot be
closed. -/
def countBrackets (rules : LayoutRules) (layout : Layout) (kind : String) :
    Except Failure Layout :=
  if rules.opening.contains kind then .ok { layout with open_ := layout.open_ + 1 }
  else if rules.closing.contains kind then
    match layout.open_ with
    | 0 => .error (.fault .brokenPromise)
    | count + 1 => .ok { layout with open_ := count }
  else .ok layout

/-- What a token gives, and then either the layout after it or what is wrong. -/
def accept (rules : LayoutRules) (layout : Layout) (token : Token) :
    List Token × Except Failure Layout :=
  let layout := { layout with last := some token }
  let (given, widths) :=
    if token.kind = rules.lineBreak then
      if layout.open_ = 0 then breakLine rules layout.widths token else ([], .ok layout.widths)
    else ([token], .ok layout.widths)
  (given, do countBrackets rules { layout with widths := ← widths } token.kind)

/-- What the end of the tokens gives: each block that is still open ends. -/
def finish (rules : LayoutRules) (layout : Layout) : List Token :=
  let ended :=
    match layout.last with
    | some token => Token.borrowing rules.dedent (.text "") token
    | none => { kind := rules.dedent, text := "" }
  List.replicate (layout.widths.length - 1) ended

/-- What is wrong at the end of the tokens: once the blocks have ended, the margin must be left and
nothing else. -/
def finishFailure? (layout : Layout) : Option Failure :=
  if layout.widths.drop (layout.widths.length - 1) = [0] then none
  else some (.fault .brokenPromise)

end Layout

/-- What stands between a lexer and a parse: layout, or a filter that drops tokens of some kinds.
The kinds that are always accepted are tried by the lexer in every state. -/
inductive PostLexer where
  | layout (rules : LayoutRules)
  | dropping (kinds alwaysAccepted : List String)
  deriving DecidableEq, Repr, Inhabited

namespace PostLexer

/-- The kinds that a lexer has to try in every state. -/
def alwaysAccepted : PostLexer → List String
  | .layout rules => [rules.lineBreak]
  | .dropping _ kinds => kinds

/-- What a token gives, and then either the layout after it or what is wrong. -/
def accept (postLexer : PostLexer) (layout : Layout) (token : Token) :
    List Token × Except Failure Layout :=
  match postLexer with
  | .layout rules => layout.accept rules token
  | .dropping kinds _ => (if kinds.contains token.kind then [] else [token], .ok layout)

/-- What the end of the tokens gives. -/
def finish (postLexer : PostLexer) (layout : Layout) : List Token :=
  match postLexer with
  | .layout rules => layout.finish rules
  | .dropping _ _ => []

/-- What is wrong at the end of the tokens. -/
def finishFailure? (postLexer : PostLexer) (layout : Layout) : Option Failure :=
  match postLexer with
  | .layout _ => layout.finishFailure?
  | .dropping _ _ => none

end PostLexer

end Lalr
