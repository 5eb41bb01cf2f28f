import Lalr.Lexer.Contextual
import Lalr.Lexer.Layout

/-!
# Streams of tokens

A stream hands tokens out one at a time. Between two tokens it keeps what the
post-lexer knows and what the post-lexer has given but nobody has taken yet.
-/

namespace Lalr

/-- What a stream does once nothing is ready any more. -/
inductive StreamEnd where
  | goOn
  | fail (failure : Failure)
  | stop
  deriving Inhabited

/-- A stream between two tokens. -/
structure TokenStream where
  layout : Layout := {}
  ready : List Token := []
  after : StreamEnd := .goOn
  deriving Inhabited

namespace TokenStream

/-- The stream after a token went into the post-lexer. -/
def push (postLexer : PostLexer) (stream : TokenStream) (token : Token) : TokenStream :=
  match postLexer.accept stream.layout token with
  | (ready, .ok layout) => { layout, ready, after := .goOn }
  | (ready, .error failure) => { stream with ready, after := .fail failure }

/-- The stream after the last token went into the post-lexer. -/
def close (postLexer : PostLexer) (stream : TokenStream) : TokenStream :=
  { stream with
    ready := postLexer.finish stream.layout
    after :=
      match postLexer.finishFailure? stream.layout with
      | none => .stop
      | some failure => .fail failure }

/-- The next token of a stream behind a post-lexer. Tokens come from a source with a state of its
own, of which at most `fuel` are taken. -/
def pullWithin {σ : Type} (postLexer : PostLexer)
    (source : σ → Work (Except Failure (Option Token) × σ)) :
    Nat → TokenStream → σ → Work (Except Failure (Option Token) × TokenStream × σ)
  | fuel, stream, state =>
    match stream.ready, stream.after with
    | token :: rest, _ => return (.ok (some token), { stream with ready := rest }, state)
    | [], .stop => return (.ok none, stream, state)
    | [], .fail failure => return (.error failure, { stream with after := .stop }, state)
    | [], .goOn =>
      match fuel with
      | 0 => return (.ok none, stream, state)
      | fuel + 1 => do
        match ← source state with
        | (.error failure, state) => return (.error failure, { stream with after := .stop }, state)
        | (.ok none, state) => pullWithin postLexer source fuel (stream.close postLexer) state
        | (.ok (some token), state) =>
          pullWithin postLexer source fuel (stream.push postLexer token) state

end TokenStream

/-- The two ways to cut a text into tokens. -/
inductive Reader where
  | basic (lexer : Lexer)
  | contextual (lexer : ContextualLexer)

/-- The next token of a text in the state where a parse stands. -/
def Reader.next (reader : Reader) (standing : Option Standing) (cursor : Cursor) :
    Work (Except Failure (Option Token) × Cursor) :=
  match reader with
  | .basic lexer => lexer.next standing cursor
  | .contextual lexer => lexer.next standing cursor

/-- Where the tokens of a parse come from. -/
structure TokenSource where
  reader : Reader
  postLexer : Option PostLexer := none

/-- What draining a source gives: the tokens, what went wrong if something did, whether there might
be more tokens, and the position in the text that was reached. -/
structure Drained where
  tokens : List Token := []
  failure : Option Failure := none
  cut : Bool := false
  cursor : Cursor

namespace TokenSource

/-- The next token of a stream over a text. -/
def pull (source : TokenSource) (standing : Option Standing) (stream : TokenStream)
    (cursor : Cursor) : Work (Except Failure (Option Token) × TokenStream × Cursor) := do
  match source.postLexer with
  | none =>
    let (answer, cursor) ← source.reader.next standing cursor
    return (answer, stream, cursor)
  | some postLexer =>
    let fuel := cursor.text.size + 3 - cursor.counter.position
    stream.pullWithin postLexer (source.reader.next standing) fuel cursor

/-- All tokens of a text where no parse is going on, at most `limit` of them. -/
def drain (source : TokenSource) : Nat → TokenStream → Cursor → Work Drained
  | 0, _, cursor => return { cut := true, cursor }
  | limit + 1, stream, cursor => do
    match ← source.pull none stream cursor with
    | (.error failure, _, cursor) => return { failure := some failure, cursor }
    | (.ok none, _, cursor) => return { cursor }
    | (.ok (some token), stream, cursor) =>
      let drained ← source.drain limit stream cursor
      return { drained with tokens := token :: drained.tokens }

end TokenSource

end Lalr
