import Lalr.Proofs.Lexer.Counting
import Lalr.Proofs.Lexer.Plainness
import Lalr.Proofs.Parser.Covering

/-!
# Tokens know where they lie

The lines and the columns of tokens are true, and so are those of a character that a reader is
stuck at, as long as no terminal matches a line break that does not look as if it could.
-/

namespace Lalr

/-- The place of a token that lies between two positions of a text. -/
def Place.between (text : List Char) (start stop : Nat) : Place where
  startPos := some start
  line := some (lineAfter (text.take start))
  column := some (columnAfter (text.take start))
  endLine := some (lineAfter (text.take stop))
  endColumn := some (columnAfter (text.take stop))
  endPos := some stop

/-- Whether a token has the place between two positions of a text. -/
def Token.Located (token : Token) (text : List Char) : Prop :=
  ∃ start stop, start ≤ stop ∧ stop ≤ text.length ∧ token.place = .between text start stop

/-- Whether it is true where a lexer says that it is stuck in a text. -/
def StuckText.Located (stuck : StuckText) (text : List Char) : Prop :=
  stuck.position < text.length ∧ stuck.line = lineAfter (text.take stuck.position) ∧
    stuck.column = columnAfter (text.take stuck.position)

/-- Whether the counter of a cursor knows the position that it has come to in the text. -/
structure Cursor.Tracks (cursor : Cursor) : Prop where
  inside : cursor.counter.position ≤ cursor.text.size
  counter : cursor.counter.Tracks (cursor.text.toList.take cursor.counter.position)

theorem Cursor.tracks_ofText (text : String) : (Cursor.ofText text).Tracks :=
  ⟨Nat.zero_le _, LineCounter.tracks_start⟩

namespace Lexer

variable {lexer : Lexer} {vocabulary : Vocabulary} {standing : Option Standing} {cursor : Cursor}

/-- Whether a lexer heeds all line breaks: whatever it matches under a name that is not one of a
terminal that looks as if it could match a line break holds none. -/
def Heeds (lexer : Lexer) : Prop :=
  ∀ vocabulary, lexer.vocabulary.get.1 = .ok vocabulary → ∀ text position stop name,
    vocabulary.scanner.matchAt text position = some (stop, name) → name ∉ lexer.breaking →
      Unbroken text position stop

/-- What is cut off is located, and the cursor after it is tracked. -/
theorem cut_tracks (tracks : cursor.Tracks) {stop : Nat} {name : String}
    (later : cursor.counter.position ≤ stop) (inside : stop ≤ cursor.text.size)
    (heeds : name ∉ lexer.breaking → Unbroken cursor.text cursor.counter.position stop) :
    (lexer.cut cursor stop name).2.Tracks ∧
      (lexer.cut cursor stop name).1.place =
        .between cursor.text.toList cursor.counter.position stop := by
  have piece : (cursor.slice cursor.counter.position stop).toList =
      (cursor.text.toList.take stop).drop cursor.counter.position := by
    simp [Cursor.slice, List.take_drop, Nat.add_sub_cancel' later]
  have whole : cursor.text.toList.take cursor.counter.position ++
      (cursor.slice cursor.counter.position stop).toList = cursor.text.toList.take stop := by
    have first : (cursor.text.toList.take stop).take cursor.counter.position =
        cursor.text.toList.take cursor.counter.position := by
      rw [List.take_take, Nat.min_eq_left later]
    rw [piece, ← first, List.take_append_drop]
  have unbroken : lexer.breaking.contains name = false →
      '\n' ∉ (cursor.slice cursor.counter.position stop).toList := by
    intro unlisted member
    have unbroken := heeds (by simpa using unlisted)
    rw [piece, List.mem_iff_getElem?] at member
    rcases member with ⟨index, there⟩
    rw [List.getElem?_drop, List.getElem?_take] at there
    split at there
    next early => exact unbroken.2 _ (Nat.le_add_right _ _) early (by simpa using there)
    next => cases there
  have moved := lexer.position_cut_of_le name later inside
  have after := tracks.counter.feed unbroken
  rw [whole] at after
  have counter : (lexer.cut cursor stop name).2.counter.Tracks (cursor.text.toList.take stop) :=
    after
  refine ⟨⟨moved.trans_le inside, moved.symm ▸ counter⟩, ?_⟩
  have place : (lexer.cut cursor stop name).1.place = {
      startPos := some cursor.counter.position
      line := some cursor.counter.line
      column := some cursor.counter.column
      endLine := some (lexer.cut cursor stop name).2.counter.line
      endColumn := some (lexer.cut cursor stop name).2.counter.column
      endPos := some (lexer.cut cursor stop name).2.counter.position } := rfl
  rw [place, moved, counter.line, counter.column, tracks.counter.line, tracks.counter.column]
  rfl

end Lexer

namespace Reader

variable {reader : Reader} {standing : Option Standing} {cursor next : Cursor}
  {before after : Workspace} {answer : Except Failure (Option Token)}

/-- Whether the places that an answer of a reader speaks of are true, and the cursor after a token
is tracked. -/
def Locates (cursor : Cursor) (answer : Except Failure (Option Token)) (next : Cursor) : Prop :=
  match answer with
  | .ok (some token) =>
    next.Tracks ∧ next.text = cursor.text ∧ token.Located cursor.text.toList
  | .error (.stuckText stuck) => stuck.Located cursor.text.toList
  | _ => True

theorem locates_congr {middle : Cursor} (text : middle.text = cursor.text)
    (locates : Locates middle answer next) : Locates cursor answer next := by
  unfold Locates at locates ⊢
  rw [text] at locates
  exact locates

/-- What a lexer finds is located. Induction on the tokens that are passed over. -/
theorem locates_of_findWithin {lexer : Lexer} {vocabulary : Vocabulary}
    (prepared : lexer.vocabulary.get.1 = .ok vocabulary) (heeds : lexer.Heeds) (fuel : Nat) :
    ∀ {cursor : Cursor}, cursor.Tracks →
      Locates cursor (lexer.findWithin vocabulary standing fuel cursor).1
        (lexer.findWithin vocabulary standing fuel cursor).2 := by
  induction fuel with
  | zero =>
      intro cursor tracks
      rw [Lexer.findWithin]
      by_cases ended : cursor.text.size ≤ cursor.counter.position
      · rw [if_pos ended]
        trivial
      · rw [if_neg ended]
        trivial
  | succ fuel ih =>
      intro cursor tracks
      rw [Lexer.findWithin]
      by_cases ended : cursor.text.size ≤ cursor.counter.position
      · rw [if_pos ended]
        trivial
      · rw [if_neg ended]
        cases found : vocabulary.scanner.matchAt cursor.text cursor.counter.position with
        | none => exact ⟨Nat.not_le.mp ended, tracks.counter.line, tracks.counter.column⟩
        | some match_ =>
            rcases match_ with ⟨stop, name⟩
            rcases Scanner.bounded_of_matchAt found with ⟨later, inside⟩
            have inside := inside tracks.inside
            rcases Lexer.cut_tracks tracks later inside (heeds _ prepared _ _ _ _ found) with
              ⟨onward, place⟩
            dsimp only
            split
            next => exact locates_congr rfl (ih onward)
            next =>
              exact ⟨⟨onward.inside, onward.counter⟩, rfl, _, stop, later, inside, place⟩

/-- What a reader answers is located. -/
theorem locates_of_next (quiet : ∀ lexer ∈ reader.lexers, lexer.Quiet)
    (heeds : ∀ lexer ∈ reader.lexers, lexer.Heeds) (tracks : cursor.Tracks)
    (gives : (reader.next standing cursor).Gives before (answer, next) after) :
    Locates cursor answer next := by
  by_cases tells : (∃ found, answer = .ok found) ∨ ∃ stuck, answer = .error (.stuckText stuck)
  · rcases exists_find quiet gives tells with
      ⟨rfl, _⟩ | ⟨lexer, member, vocabulary, met, prepared, found, same⟩
    · trivial
    · have located : Locates cursor (lexer.find vocabulary standing cursor).1
          (lexer.find vocabulary standing cursor).2 :=
        locates_of_findWithin prepared (heeds lexer member) _ tracks
      rw [found] at located
      rcases tells with ⟨found, rfl⟩ | ⟨stuck, rfl⟩
      · exact same _ rfl ▸ located
      · exact located
  · unfold Locates
    split
    · exact absurd (.inl ⟨_, rfl⟩) tells
    · exact absurd (.inr ⟨_, rfl⟩) tells
    · trivial

theorem located_of_reads (quiet : ∀ lexer ∈ reader.lexers, lexer.Quiet)
    (heeds : ∀ lexer ∈ reader.lexers, lexer.Heeds) {tokens : List Token} {met : Cursor}
    (reads : reader.Reads cursor tokens met) (tracks : cursor.Tracks) :
    met.Tracks ∧ met.text = cursor.text ∧ ∀ token ∈ tokens,
      token.Located cursor.text.toList := by
  induction reads with
  | start => exact ⟨tracks, rfl, nofun⟩
  | token _ asked ih =>
      rcases ih with ⟨tracks', same, located⟩
      rcases locates_of_next quiet heeds tracks' asked with ⟨onward, same', located'⟩
      rw [same] at same' located'
      refine ⟨onward, same', fun other member => ?_⟩
      rcases List.mem_append.mp member with earlier | last
      · exact located other earlier
      · exact List.mem_singleton.mp last ▸ located'

end Reader

namespace Parser

/-- The lines and the columns of the tokens that a basic lexer or contextual lexers cut off a text
are true, at either end, whatever the states of the parse are meanwhile, and so are those of a
character that a lexer is stuck at after them. There are no callbacks, and no match of a lexer holds
a line break unless its terminal looks as if it could match one. -/
theorem reads_located {options : Options} {settings : LexerSettings} {table : Table State}
    {number count : Nat} {source : TokenSource}
    (made : makeSource options settings table number = .ok (source, count))
    (silent : settings.callbacks = []) (heeds : ∀ lexer ∈ source.reader.lexers, lexer.Heeds)
    {text : String} {tokens : List Token} {met : Cursor}
    (reads : source.reader.Reads (.ofText text) tokens met) :
    (∀ token ∈ tokens, token.Located text.toList) ∧
      ∀ {standing : Option Standing} {before after : Workspace} {next : Cursor}
        {stuck : StuckText},
        (source.reader.next standing met).Gives before (.error (.stuckText stuck), next) after →
          stuck.Located text.toList := by
  have quiet := lexers_quiet made silent
  rcases Reader.located_of_reads quiet heeds reads (Cursor.tracks_ofText text) with
    ⟨tracks, same, located⟩
  refine ⟨located, fun gives => ?_⟩
  have stuck := Reader.locates_of_next quiet heeds tracks gives
  unfold Reader.Locates at stuck
  rw [same] at stuck
  exact stuck

end Parser

/-! ## Line breaks that are seen -/

/-- Whether a terminal can be seen to match no line break. -/
def Terminal.isUnbroken (flags : RegexFlags) (terminal : Terminal) : Bool :=
  match Regex.compile terminal.pattern.expression flags with
  | .ok compiled => compiled.regex.isUnbroken compiled.flags
  | .error _ => true

theorem Terminal.unbroken_of_stop? {flags : RegexFlags} {whole : Bool} {terminal : Terminal}
    {text : Array Char} {position stop : Nat} (unbroken : terminal.isUnbroken flags = true)
    (found : terminal.stop? flags whole text position = some stop) :
    Unbroken text position stop := by
  unfold Terminal.isUnbroken at unbroken
  unfold Terminal.stop? at found
  split at found
  next => cases found
  next compiled read =>
    rw [read] at unbroken
    rcases Option.map_eq_some_iff.mp found with ⟨point, went, rfl⟩
    have keeps := compiled.regex.keepsTo_unbroken text compiled.flags unbroken
    split at went
    · exact CompiledRegex.leads_of_fullMatchAt (isWay_unbroken text) keeps went
    · exact CompiledRegex.leads_of_matchAt (isWay_unbroken text) keeps went

namespace Lexer

/-- Whether a lexer can be seen to heed all line breaks: its scanner is plain, and each of its
terminals either looks as if it could match a line break or can be seen to match none. -/
def isHeedful (flags : RegexFlags) (lexer : Lexer) : Bool :=
  match lexer.vocabulary.get.1 with
  | .ok vocabulary => vocabulary.scanner.isPlain flags && vocabulary.scanner.terminals.all fun
      terminal => lexer.breaking.contains terminal.name || terminal.isUnbroken flags
  | .error _ => true

theorem heeds_of_isHeedful {flags : RegexFlags} {lexer : Lexer}
    (heedful : lexer.isHeedful flags = true) : lexer.Heeds := by
  intro vocabulary prepared text position stop name found unlisted
  rw [isHeedful, prepared] at heedful
  rcases Bool.and_eq_true_iff.mp heedful with ⟨plain, each⟩
  rw [Scanner.plain_of_isPlain plain, Scanner.firstOf_eq_some] at found
  rcases found with ⟨_, terminal, _, same, stops, rfl, _⟩
  have member : terminal ∈ vocabulary.scanner.terminals := by simp [same]
  have seen := List.all_eq_true.mp each terminal member
  rw [Bool.or_eq_true, List.contains_iff_mem] at seen
  exact Terminal.unbroken_of_stop? (seen.resolve_left unlisted) stops

end Lexer

namespace Parser

/-- Words and line breaks. -/
def lines : List Terminal :=
  [{ name := "WORD", pattern := { kind := .expression, value := "[a-z]+" } },
    { name := "NEWLINE", pattern := { kind := .expression, value := "\\n+" } }]

def lineSettings : LexerSettings := settings lines [] [] {}

def lineSource : TokenSource := sourceOf lineSettings 0

theorem lineSource_made : makeSource { contextual := false } lineSettings
    { rows := [], starts := [], ends := [] } 0 = .ok (lineSource, 1) :=
  sourceOf_made (eq_ok_of_toOption (by decide +kernel))
    (Lexer.inOrder_of_isOrdered (by decide +kernel))

theorem drain_lines : ∃ drained after,
    (lineSource.drain 5 {} (.ofText "ab\ncd!")).Gives {} drained after ∧
      drained.tokens.map (fun token => token.place.line) = [some 1, some 1, some 2] ∧
        stuckAt? drained = some 5 :=
  ⟨_, _, Work.gives _ {}, by decide +kernel, by decide +kernel⟩

/-- Two words on two lines, and a mark after them. -/
theorem reads_located_lines : ∃ tokens met stuck before after next,
    lineSource.reader.Reads (.ofText "ab\ncd!") tokens met ∧
      tokens.map (fun token => token.place.line) = [some 1, some 1, some 2] ∧
      (∀ token ∈ tokens, token.Located "ab\ncd!".toList) ∧
      (lineSource.reader.next none met).Gives before (.error (.stuckText stuck), next) after ∧
      stuck.position = 5 ∧ stuck.line = 2 ∧ stuck.column = 3 := by
  rcases drain_lines with ⟨drained, after, gives, places, stuck⟩
  rcases reads_of_drain rfl 5 gives .start with ⟨met, reads, _, fails⟩
  rcases stuckAt?_eq_some stuck with ⟨stuck, failed, position⟩
  rcases fails _ failed with ⟨before, after, next, asked⟩
  have heeds : ∀ lexer ∈ lineSource.reader.lexers, lexer.Heeds := by
    simp only [lineSource, sourceOf, Reader.lexers, List.mem_singleton, forall_eq]
    exact @Lexer.heeds_of_isHeedful {} _ (by decide +kernel)
  rcases reads_located lineSource_made rfl heeds reads with ⟨located, stops⟩
  rcases stops asked with ⟨_, line, column⟩
  rw [position] at line column
  exact ⟨drained.tokens, met, stuck, before, after, next, reads, places, located, asked, position,
    line, column⟩

/-- A line break by its number, which is not seen. -/
def unseen : List Terminal :=
  [{ name := "NEWLINE", pattern := { kind := .expression, value := "\\x0a" } },
    { name := "A", pattern := { kind := .expression, value := "a" } }]

def unseenSettings : LexerSettings := settings unseen [] [] {}

def unseenSource : TokenSource := sourceOf unseenSettings 0

theorem unseenSource_made : makeSource { contextual := false } unseenSettings
    { rows := [], starts := [], ends := [] } 0 = .ok (unseenSource, 1) :=
  sourceOf_made (eq_ok_of_toOption (by decide +kernel))
    (Lexer.inOrder_of_isOrdered (by decide +kernel))

theorem drain_unseen : ∃ drained after,
    (unseenSource.drain 3 {} (.ofText "\na")).Gives {} drained after ∧
      drained.tokens.map (fun token => (token.place.startPos, token.place.line)) =
        [(some 0, some 1), (some 1, some 1)] :=
  ⟨_, _, Work.gives _ {}, by decide +kernel⟩

/-- A letter after a line break that is written by its number is said to lie on the first line. -/
theorem reads_misplaced : ∃ tokens met,
    makeSource { contextual := false } unseenSettings { rows := [], starts := [], ends := [] } 0 =
      .ok (unseenSource, 1) ∧
    unseenSource.reader.Reads (.ofText "\na") tokens met ∧
    tokens.map (fun token => (token.place.startPos, token.place.line)) =
      [(some 0, some 1), (some 1, some 1)] ∧
    ¬∀ token ∈ tokens, token.Located "\na".toList := by
  rcases drain_unseen with ⟨drained, after, gives, places⟩
  rcases reads_of_drain rfl 3 gives .start with ⟨met, reads, _⟩
  refine ⟨drained.tokens, met, unseenSource_made, reads, places, fun located => ?_⟩
  have listed : (some 1, some 1) ∈
      drained.tokens.map fun token => (token.place.startPos, token.place.line) := by
    rw [places]
    exact List.mem_cons_of_mem _ (List.mem_singleton_self _)
  rcases List.mem_map.mp listed with ⟨token, member, same⟩
  rcases located token member with ⟨start, stop, _, _, place⟩
  rw [place] at same
  rcases Prod.mk.inj same with ⟨starts, line⟩
  cases starts
  have first : lineAfter ("\na".toList.take 1) = 1 := Option.some.inj line
  exact absurd first (by decide)

end Parser

end Lalr
