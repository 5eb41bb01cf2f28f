import Lalr.Lexer.Stream
import Lalr.Shaping.Reduction

/-!
# Options of a parser

Options come as settings under names. A setting is data or something that data
cannot say: a transformer, callbacks, a post-lexer.
-/

namespace Lalr

/-- What an option may be set to. -/
inductive Setting where
  | data (value : Data)
  | skipping (names : List String)
  | variantNodes
  | transformer (transformer : Transformer)
  | chain
  | callbacks (callbacks : List (String × TokenHandler))
  | postLexer (postLexer : PostLexer)

/-- The data of a setting that is data. -/
def Setting.asData : Setting → Data
  | .data value => value
  | _ => .null

/-- The options of a parser. A transformer, callbacks or a post-lexer that cannot be used are found
out where they are needed. -/
structure Options where
  starts : List Data := [.text "start"]
  contextual : Bool := true
  debug : Data := .bool false
  placeholders : Data := .bool false
  propagation : Propagation := .off
  nodes : NodeClass := .plain
  transformer : Except Fault (Option Transformer) := .ok none
  callbacks : Except Fault (List (String × TokenHandler)) := .ok []
  postLexer : Except Fault (Option PostLexer) := .ok none
  flags : Data := .int 0

namespace Options

/-- The names of all options. -/
def names : List String :=
  ["start", "parser", "lexer", "debug", "maybe_placeholders", "propagate_positions", "tree_class",
    "transformer", "lexer_callbacks", "postlex", "g_regex_flags"]

/-- The options that may be set anew when a compiled grammar is loaded. The others are settled by
its table. -/
def resettable : List String :=
  ["postlex", "transformer", "lexer_callbacks", "debug", "g_regex_flags", "propagate_positions",
    "tree_class", "maybe_placeholders", "lexer"]

/-- The start symbols that a setting names, which is a text or else something that is not empty. -/
def readStarts (setting : Data) : Except Failure (List Data) :=
  match setting with
  | .text start => .ok [.text start]
  | data =>
    match data.elements? with
    | some starts => .ok starts
    | none => .error (.fault .wrongKind)

/-- The lexer that a setting names. -/
def readLexer (setting : Data) : Except Failure Bool :=
  match setting with
  | .text "contextual" => .ok true
  | .text "basic" => .ok false
  | data => .error (.configuration (.unsupportedLexer data))

/-- The propagation of positions that a setting asks for. -/
def readPropagation : Setting → Except Failure Propagation
  | .skipping names => .ok (.skipping names)
  | .data (.bool true) => .ok .all
  | .data (.bool false) => .ok .off
  | .data data => .error (.configuration (.invalidPropagation data))
  | _ => .ok .all

/-- The class of nodes that a setting asks for. -/
def readNodes : Setting → NodeClass
  | .variantNodes => .variant
  | .data data => if data.holds then .unusable else .plain
  | _ => .unusable

/-- The transformer that a setting gives. -/
def readTransformer : Setting → Except Fault (Option Transformer)
  | .transformer transformer => .ok (some transformer)
  | .data .null => .ok none
  | _ => .error .missingPart

/-- The callbacks that a setting gives. -/
def readCallbacks : Setting → Except Fault (List (String × TokenHandler))
  | .callbacks callbacks => .ok callbacks
  | .data data =>
    if !data.holds then .ok []
    else if data.asText?.isSome then .error .malformedValue
    else .error .wrongKind
  | _ => .error .wrongKind

/-- The post-lexer that a setting gives. -/
def readPostLexer : Setting → Except Fault (Option PostLexer)
  | .postLexer postLexer => .ok (some postLexer)
  | .data data => if data.holds then .error .missingPart else .ok none
  | _ => .error .missingPart

/-- The names among some settings that are those of no option. -/
def unknown (settings : List (String × Setting)) : List (String × Setting) :=
  settings.filter fun entry => !names.contains entry.1

/-- The options that settings make, where unknown names have been dealt with. -/
def ofKnown (settings : List (String × Setting)) : Except Failure Options := do
  let setting (name : String) (default : Data) : Setting :=
    (assoc? settings name).getD (.data default)
  let start := (setting "start" (.list [.text "start"])).asData
  unless start = .text "" || start.holds do throw (.configuration .noStart)
  let parser := (setting "parser" (.text "lalr")).asData
  unless parser = .text "lalr" do throw (.configuration (.unsupportedParser parser))
  let contextual ← readLexer (setting "lexer" (.text "contextual")).asData
  let propagation ← readPropagation (setting "propagate_positions" (.bool false))
  return {
    starts := ← readStarts start
    contextual
    debug := (setting "debug" (.bool false)).asData
    placeholders := (setting "maybe_placeholders" (.bool false)).asData
    propagation
    nodes := readNodes (setting "tree_class" .null)
    transformer := readTransformer (setting "transformer" .null)
    callbacks := readCallbacks (setting "lexer_callbacks" .null)
    postLexer := readPostLexer (setting "postlex" .null)
    flags := (setting "g_regex_flags" (.int 0)).asData }

/-- The options that settings make. Unknown names are refused, unless the settings come from a
compiled grammar, which also records what mattered to its compiler alone. -/
def ofSettings (settings : List (String × Setting)) (compiled : Bool) : Run Options := do
  match compiled, unknown settings with
  | false, (name, _) :: _ => throw (.configuration (.unknownOption name))
  | _, ignored =>
    for (name, setting) in ignored do
      Work.record .debug .general fun _ =>
        "Ignoring compile-time option " ++ name ++ "=" ++ setting.asData.shown
  Run.lift (ofKnown settings)

/-- The options as data, as far as data can say them. -/
def toData (options : Options) : Data :=
  .record [("start", .list options.starts),
    ("parser", .text "lalr"),
    ("lexer", .text (if options.contextual then "contextual" else "basic")),
    ("debug", options.debug),
    ("maybe_placeholders", options.placeholders),
    ("propagate_positions", .bool (options.propagation != .off)),
    ("g_regex_flags", options.flags)]

/-- The flags that hold for all terminals. The bit that goes by the locale is of no use for texts,
and the one for the classes of all scripts does not go with the one for ASCII. -/
def regexFlags (options : Options) : Except Fault RegexFlags :=
  match options.flags with
  | .int bits =>
    let has (bit : Nat) := bits.toNat.testBit bit
    if bits < 0 || has 2 || (has 5 && has 8) then .error .malformedValue
    else .ok (.ofBits bits.toNat)
  | .bool _ => .ok {}
  | _ => .error .wrongKind

end Options

end Lalr
