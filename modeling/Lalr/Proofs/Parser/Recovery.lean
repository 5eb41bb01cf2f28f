import Mathlib.Data.List.Chain
import Lalr.Parser.Recovery
import Lalr.Proofs.Parser.Balance
import Lalr.Proofs.Parser.Blaming

/-!
# Recovery comes to an end

A handler is asked about one failure after the other for as long as it wants the parse to go
on. Each failure but the last is about some text, which is given up before the parse goes on; so
the failures move through the text, and the text is finite. At the end of the input the handler is
asked once, whatever it does about it. All this is so as long as the input is blamed by the parse
alone: a reduction that blames the input itself may do so without an end.
-/

namespace Lalr

/-- What a handler has been asked about: a failure and the session that has met it, and the session
with which the parse goes on if the handler says so. -/
structure Consultation where
  failure : Failure
  met : Session
  going : Option Session := none

/-- How a recovery ends: with an answer that no handler is asked about, because the handler does not
want to go on, or with a failure that the handler is not asked about although it blames the
input. -/
inductive Ending where
  | settled
  | declined
  | unasked
  deriving DecidableEq, Repr, Inhabited

namespace Parser

variable {parser : Parser} {handler : FailureHandler} {session met going final : Session}
  {before between after : Workspace} {failure next : Failure} {answer : Except Failure Value}
  {token : Token} {isEnd : Bool}

/-! ## What a handler is asked -/

/-- Asks a handler about a failure, and passes over the character that a lexer is stuck at if the
handler says that the parse goes on. -/
def consult (handler : FailureHandler) (failure : Failure) (session : Session) :
    Work (Except Failure Bool × Session) := do
  let before := session.position?
  let (line, column) := failure.lineAndColumnShown
  Work.record .info .recovery fun _ =>
    "error at " ++ line ++ ":" ++ column ++ ", calling handler: " ++ failure.kind?.getD ""
  match ← handler failure session with
  | (.ok true, session) => return (.ok true, ← skipStuck failure before session)
  | result => return result

/-- Notes that a handler is not asked again. -/
def giveUp : Work Unit :=
  Work.record .info .recovery fun _ => "no progress at end of input, giving up"

theorem recover_succ (patience : Nat) (failure : Failure) (session : Session) :
    parser.recover handler (patience + 1) failure session = (do
      match ← consult handler failure session with
      | (.error raised, session) => return (.error raised, session)
      | (.ok false, session) => return (.error failure, session)
      | (.ok true, session) =>
        match ← parser.resume session with
        | (.ok value, session) => return (.ok value, session)
        | (.error next, session) =>
          if !next.isStuck then return (.error next, session)
          else if failure.atEnd && next.atEnd then
            giveUp
            return (.error next, session)
          else parser.recover handler patience next session) := by
  rw [recover, consult]
  simp only [bind_assoc]
  congr 1
  funext _
  congr 1
  funext result
  rcases result with ⟨raised | _ | _, session⟩
  · simp
  · simp
  · simp only [bind_assoc, pure_bind]
    rfl

/-- What a recovery from a failure does: what it asks its handler, and how it ends. Nothing bounds
the number of questions here. -/
inductive Recovers (parser : Parser) (handler : FailureHandler) : Failure →
    Session → Workspace →
    List Consultation → Ending → Except Failure Value → Session → Workspace → Prop
  | raised {failure raised : Failure} {met final : Session} {before after : Workspace}
      (asked : (consult handler failure met).Gives before (.error raised, final) after) :
      Recovers parser handler failure met before [{ failure, met }] .settled (.error raised) final
        after
  | declined {failure : Failure} {met final : Session} {before after : Workspace}
      (asked : (consult handler failure met).Gives before (.ok false, final) after) :
      Recovers parser handler failure met before [{ failure, met }] .declined (.error failure) final
        after
  | settled {failure : Failure} {met going final : Session} {before between after : Workspace}
      {answer : Except Failure Value}
      (asked : (consult handler failure met).Gives before (.ok true, going) between)
      (resumed : (parser.resume going).Gives between (answer, final) after)
      (ended : Unstuck answer) :
      Recovers parser handler failure met before
        [{ failure, met, going }] .settled answer final after
  | unasked {failure next : Failure} {met going final : Session}
      {before between between' after : Workspace}
      (asked : (consult handler failure met).Gives before (.ok true, going) between)
      (resumed : (parser.resume going).Gives between (.error next, final) between')
      (stuck : next.isStuck = true) (ended : failure.atEnd = true) (again : next.atEnd = true)
      (noted : giveUp.Gives between' () after) :
      Recovers parser handler failure met before [{ failure, met, going }] .unasked (.error next)
        final after
  | again {failure next : Failure} {met going found final : Session}
      {before between between' after : Workspace} {asked : List Consultation} {ending : Ending}
      {answer : Except Failure Value}
      (asks : (consult handler failure met).Gives before (.ok true, going) between)
      (resumed : (parser.resume going).Gives between (.error next, found) between')
      (stuck : next.isStuck = true) (apart : (failure.atEnd && next.atEnd) = false)
      (rest : Recovers parser handler next found between' asked ending answer final after) :
      Recovers parser handler failure met before ({ failure, met, going } :: asked) ending answer
        final after

/-- With enough patience a recovery does what there is to do. -/
theorem recover_of_recovers {asked : List Consultation} {ending : Ending}
    (recovers : parser.Recovers handler failure met before asked ending answer final after) :
    ∀ {patience : Nat}, asked.length ≤ patience →
      (parser.recover handler patience failure met).Gives before (answer, final) after := by
  have positive {patience more : Nat} (enough : more + 1 ≤ patience) :
      ∃ patience', patience = patience' + 1 ∧ more ≤ patience' :=
    ⟨patience - 1, by omega, by omega⟩
  induction recovers with
  | raised asked =>
      intro patience enough
      rcases positive enough with ⟨patience, rfl, _⟩
      rw [recover_succ]
      exact Work.gives_bind.mpr ⟨_, _, asked, rfl⟩
  | declined asked =>
      intro patience enough
      rcases positive enough with ⟨patience, rfl, _⟩
      rw [recover_succ]
      exact Work.gives_bind.mpr ⟨_, _, asked, rfl⟩
  | @settled _ _ _ _ _ _ _ answer asked resumed ended =>
      intro patience enough
      rcases positive enough with ⟨patience, rfl, _⟩
      rw [recover_succ]
      refine Work.gives_bind.mpr ⟨_, _, asked, Work.gives_bind.mpr ⟨_, _, resumed, ?_⟩⟩
      cases answer with
      | ok value => rfl
      | error next => simp [ended next rfl]
  | unasked asked resumed stuck ended again noted =>
      intro patience enough
      rcases positive enough with ⟨patience, rfl, _⟩
      rw [recover_succ]
      refine Work.gives_bind.mpr ⟨_, _, asked, Work.gives_bind.mpr ⟨_, _, resumed, ?_⟩⟩
      simp only [stuck, ended, again, Bool.not_true, Bool.and_self]
      exact Work.gives_bind.mpr ⟨_, _, noted, rfl⟩
  | again asks resumed stuck apart rest ih =>
      intro patience enough
      rcases positive enough with ⟨patience, rfl, fewer⟩
      rw [recover_succ]
      refine Work.gives_bind.mpr ⟨_, _, asks, Work.gives_bind.mpr ⟨_, _, resumed, ?_⟩⟩
      simp only [stuck, apart, Bool.not_true]
      exact ih fewer

/-! ## When the handler is not asked -/

namespace Recovers

variable {asked : List Consultation} {ending : Ending}

theorem ne_nil
    (recovers : parser.Recovers handler failure met before asked ending answer final after) :
    asked ≠ [] := by
  cases recovers <;> simp

theorem head
    (recovers : parser.Recovers handler failure met before asked ending answer final after) :
    ∀ first ∈ asked.head?, first.failure = failure := by
  cases recovers <;> simp

/-- The handler is never asked about two failures in a row at the end of the input, whatever it does
about the first of them. -/
theorem apart
    (recovers : parser.Recovers handler failure met before asked ending answer final after) :
    asked.IsChain fun earlier later =>
      (earlier.failure.atEnd && later.failure.atEnd) = false := by
  induction recovers with
  | raised | declined | settled | unasked => exact .singleton _
  | again _ _ _ apart rest ih =>
      refine List.isChain_cons.mpr ⟨fun first listed => ?_, ih⟩
      rw [rest.head first listed]
      exact apart

/-- A failure that the handler is not asked about is one at the end of the input that follows
another one. -/
theorem unasked_iff
    (recovers : parser.Recovers handler failure met before asked ending answer final after) :
    ending = .unasked ↔ ∃ last ∈ asked.getLast?, last.going.isSome = true ∧
      last.failure.atEnd = true ∧ ∃ next, answer = .error next ∧ next.atEnd = true := by
  induction recovers with
  | raised => simp
  | declined => simp
  | @settled failure met going final _ _ _ answer _ _ ended =>
      refine ⟨nofun, ?_⟩
      rintro ⟨_, _, _, _, next, failed, atEnd⟩
      have innocent := ended next failed
      cases next with
      | stuckToken => cases innocent
      | _ => cases atEnd
  | unasked _ _ _ ended again => simp [ended, again]
  | again _ _ _ _ rest ih =>
      rw [ih]
      rcases List.exists_cons_of_ne_nil rest.ne_nil with ⟨first, more, rfl⟩
      rw [List.getLast?_cons_cons]

end Recovers

/-- A token that the table rejects changes nothing. -/
theorem stack_of_rejected {expected : List String}
    (gives : (parser.feedAs isEnd session token).Gives before (answer, final) after)
    (rejects : parser.table.move session.stack.states token.kind = .rejected expected) :
    final.stack = session.stack := by
  rw [stack_of_feedAs gives]
  cases parser.table.reductionBound session.stack.states.length with
  | zero => rfl
  | succ fuel =>
      rw [Table.feed_of_rejected _ rejects]
      rfl

/-- A session that stands at the end of its text, where the table rejects the end of the input,
stays as it is when it is resumed. -/
theorem Steady.resume_stays (steady : parser.Steady) {cursor : Cursor} {expected : List String}
    (here : session.cursor = some cursor) (ended : cursor.AtEnd)
    (rejects : parser.table.move session.stack.states Token.endKind = .rejected expected)
    (gives : (parser.resume session).Gives before (.error failure, final) after) :
    final.stack = session.stack ∧ final.cursor = session.cursor := by
  rw [resume, here] at gives
  dsimp only at gives
  rw [run, runWithin_succ steady.plain, Work.gives_bind] at gives
  rcases gives with ⟨⟨found, met⟩, between, fetched, gives⟩
  unfold fetch at fetched
  rw [here] at fetched
  rcases Work.gives_map.mp fetched with ⟨⟨answer, next⟩, read, same⟩
  have still := Reader.next_of_atEnd ended read
  subst still
  cases same
  have advances := Reader.next_advances steady.lexers read
  rcases found with failure' | _ | token
  · rcases interrupt_gives gives with ⟨_, rfl⟩
    exact ⟨rfl, here.symm⟩
  · rcases Work.gives_bind.mp gives with ⟨⟨fed, left⟩, between', feeding, gives⟩
    have ends : (Token.endOfInput next.last).kind = Token.endKind := by cases next.last <;> rfl
    rw [← ends] at rejects
    have stays := stack_of_rejected feeding rejects
    have kept : left.cursor = session.cursor := by
      rw [feedAs_eq feeding]
      exact here.symm
    cases fed with
    | ok value => cases (Work.gives_pure.mp gives).1
    | error failure' =>
        rcases interrupt_gives gives with ⟨_, rfl⟩
        exact ⟨stays, kept⟩
  · rcases advances.answered.within with ⟨start, stop, _, _, first, proper, last⟩
    omega

/-- A recovery that ends with a failure that the handler is not asked about has got nowhere, if the
handler has changed neither the stack of states nor the place in the text when it was asked the last
time. -/
theorem Steady.unasked_stays (steady : parser.Steady) {asked : List Consultation}
    {ending : Ending} (blames : parser.Blames 0 failure met)
    (recovers : parser.Recovers handler failure met before asked ending answer final after)
    (unasked : ending = .unasked) :
    ∀ last ∈ asked.getLast?, ∀ going ∈ last.going,
      going.stack.states = last.met.stack.states → going.cursor = last.met.cursor →
        final.stack.states = last.met.stack.states ∧ final.cursor = last.met.cursor := by
  induction recovers with
  | raised => cases unasked
  | declined => cases unasked
  | settled => cases unasked
  | unasked asked resumed stuck ended again noted =>
      rintro _ ⟨⟩ going ⟨⟩ states cursor
      simp only [List.getLast_singleton] at states cursor ⊢
      cases blames with
      | text => cases ended
      | token _ offends inside => simp [Failure.atEnd, offends, Offender.kind?, inside] at ended
      | ending here _ _ ended' rejects =>
          rw [← states] at rejects
          rw [← cursor] at here
          rcases steady.resume_stays here ended' rejects resumed with ⟨stack, cursor'⟩
          exact ⟨by rw [stack, states], cursor'.trans cursor⟩
  | @again failure next met going found final _ _ _ _ _ _ _ asks resumed stuck apart rest ih =>
      rcases List.exists_cons_of_ne_nil rest.ne_nil with ⟨first, more, rfl⟩
      rw [List.getLast?_cons_cons]
      cases here : going.cursor with
      | none =>
          rw [resume, here] at resumed
          cases (Work.gives_pure.mp resumed).1
          cases stuck
      | some cursor =>
          have blames' := (steady.resume_blames here resumed stuck).1
          exact ih (blames'.mono (Nat.zero_le _)) unasked

end Parser

/-! ## How a recovery moves through the text -/

namespace Session

variable {session next final : Session}

/-- Whether a session is in the text where another was, or further on. -/
def Onward (session next : Session) : Prop :=
  ∀ cursor, session.cursor = some cursor → ∃ cursor', next.cursor = some cursor' ∧
    cursor'.text = cursor.text ∧ cursor.counter.position ≤ cursor'.counter.position

theorem Onward.refl (session : Session) : session.Onward session :=
  fun cursor here => ⟨cursor, here, rfl, Nat.le_refl _⟩

theorem Onward.trans (first : session.Onward next) (second : next.Onward final) :
    session.Onward final := by
  intro cursor here
  rcases first cursor here with ⟨cursor', here', text, forward⟩
  rcases second cursor' here' with ⟨cursor'', here'', text', forward'⟩
  exact ⟨cursor'', here'', text'.trans text, Nat.le_trans forward forward'⟩

theorem position_skip (cursor : Cursor) (count : Nat) :
    (cursor.skip count).counter.position = cursor.counter.position +
      (min (cursor.counter.position + count) cursor.text.size - cursor.counter.position) := by
  simp only [Cursor.skip, LineCounter.feed, Cursor.slice, String.toList_ofList,
    Array.length_toList, Array.size_extract]

/-- A handler may move a session forward in its text. -/
theorem Onward.skip (session : Session) (count : Nat) : session.Onward (session.skip count) := by
  intro cursor here
  have moved := position_skip cursor count
  exact ⟨cursor.skip count, by simp [Session.skip, here], rfl, by omega⟩

end Session

/-- Whether a handler leaves sessions where they are in their texts or moves them forward. -/
def FailureHandler.Forward (handler : FailureHandler) : Prop :=
  ∀ failure session before answer left after,
    (handler failure session).Gives before (answer, left) after → session.Onward left

namespace Parser

variable {parser : Parser} {handler : FailureHandler} {session met going final : Session}
  {before between after : Workspace} {failure next : Failure} {answer : Except Failure Value}

theorem skipStuck_onward {place : Option Nat}
    (gives : (skipStuck failure place session).Gives before going after) :
    session.Onward going := by
  unfold skipStuck at gives
  split at gives
  · dsimp only at gives
    split at gives
    · rcases Work.gives_bind.mp gives with ⟨_, _, _, gives⟩
      rcases Work.gives_pure.mp gives with ⟨rfl, _⟩
      exact .skip _ _
    · rcases Work.gives_pure.mp gives with ⟨rfl, _⟩
      exact .refl _
  · rcases Work.gives_pure.mp gives with ⟨rfl, _⟩
    exact .refl _

/-- Where the handler has not moved on, the character is passed over. -/
theorem skipStuck_skips {stuck : StuckText} {cursor : Cursor} (here : session.cursor = some cursor)
    (gives : (skipStuck (.stuckText stuck) (some cursor.counter.position) session).Gives
      before going after) : going = session.skip 1 := by
  unfold skipStuck at gives
  rw [here] at gives
  dsimp only at gives
  rw [if_pos rfl] at gives
  rcases Work.gives_bind.mp gives with ⟨_, _, _, gives⟩
  exact (Work.gives_pure.mp gives).1.symm

theorem consult_eq_true
    (asked : (consult handler failure met).Gives before (.ok true, going) after) :
    ∃ left start between middle, (handler failure met).Gives start (.ok true, left) between ∧
      (skipStuck failure met.position? left).Gives middle going after := by
  unfold consult at asked
  rcases Work.gives_bind.mp asked with ⟨_, start, _, asked⟩
  rcases Work.gives_bind.mp asked with ⟨⟨verdict, left⟩, between, handled, asked⟩
  split at asked
  next session same =>
    cases same
    rcases Work.gives_bind.mp asked with ⟨_, middle, skipped, asked⟩
    rcases Work.gives_pure.mp asked with ⟨same, rfl⟩
    cases same
    exact ⟨left, _, _, _, handled, skipped⟩
  next other =>
    rcases Work.gives_pure.mp asked with ⟨same, _⟩
    exact absurd same (other _)

theorem consult_onward (forward : handler.Forward)
    (asked : (consult handler failure met).Gives before (.ok true, going) after) :
    met.Onward going := by
  rcases consult_eq_true asked with ⟨left, _, _, _, handled, skipped⟩
  exact (forward _ _ _ _ _ _ handled).trans (skipStuck_onward skipped)

/-- After a failure at a character the parse goes on behind it. -/
theorem consult_passes (forward : handler.Forward) {stuck : StuckText} {cursor : Cursor}
    (here : met.cursor = some cursor) (inside : stuck.position < cursor.text.size)
    (passed : stuck.position ≤ cursor.counter.position)
    (asked : (consult handler (.stuckText stuck) met).Gives before (.ok true, going) after) :
    ∃ cursor', going.cursor = some cursor' ∧ cursor'.text = cursor.text ∧
      stuck.position < cursor'.counter.position := by
  rcases consult_eq_true asked with ⟨left, _, _, _, handled, skipped⟩
  rcases forward _ _ _ _ _ _ handled cursor here with ⟨moved, here', text, late⟩
  by_cases still : moved.counter.position = cursor.counter.position
  · have place : met.position? = some moved.counter.position := by
      simp [Session.position?, here, still]
    rw [place] at skipped
    rw [skipStuck_skips here' skipped]
    have position := Session.position_skip moved 1
    refine ⟨moved.skip 1, by simp [Session.skip, here'], text, ?_⟩
    rw [text] at position
    omega
  · rcases skipStuck_onward skipped moved here' with ⟨cursor', here'', text', later⟩
    exact ⟨cursor', here'', text'.trans text, by omega⟩

end Parser

namespace Consultation

/-- The text that is given up when the parse goes on after a failure: the token that was rejected,
or what lies between the character that the lexer was stuck at and the place where the parse goes
on. At the end of the input nothing is given up. -/
def stretch? (consultation : Consultation) : Option (Nat × Nat) :=
  match consultation.failure, consultation.going with
  | .stuckText stuck, some going => going.position?.map fun stop => (stuck.position, stop)
  | .stuckToken stuck, some _ =>
    if stuck.offender.kind? = some Token.endKind then none
    else
      match stuck.offender.place.startPos, stuck.offender.place.endPos with
      | some start, some stop => some (start, stop)
      | _, _ => none
  | _, _ => none

end Consultation

/-- What is asked in the course of a recovery, from a position in a text of some size on. Every
failure that the parse goes on after, but for one at the end of the input, is about some text that
is given up, and the texts that are given up follow one another. -/
structure Orderly (size floor : Nat) (asked : List Consultation) : Prop where
  few : asked.length ≤ (size - floor) + 1
  ending : asked.countP (fun consultation => consultation.failure.atEnd) ≤ 1
  stretched : ∀ consultation ∈ asked, consultation.going.isSome = true →
    consultation.failure.atEnd = false → consultation.stretch?.isSome = true
  filled : ∀ stretch ∈ asked.filterMap Consultation.stretch?,
    floor ≤ stretch.1 ∧ stretch.1 < stretch.2
  ordered : (asked.filterMap Consultation.stretch?).Pairwise fun earlier later =>
    earlier.2 ≤ later.1

namespace Orderly

variable {size floor floor' start stop : Nat} {consultation : Consultation}
  {asked : List Consultation}

theorem single
    (stretched : consultation.going.isSome = true → consultation.failure.atEnd = false →
      consultation.stretch?.isSome = true)
    (filled : ∀ stretch ∈ consultation.stretch?, floor ≤ stretch.1 ∧
      stretch.1 < stretch.2) :
    Orderly size floor [consultation] where
  few := Nat.le_add_left _ _
  ending := List.countP_le_length
  stretched := by simpa using stretched
  filled := by
    intro stretch listed
    rcases List.mem_filterMap.mp listed with ⟨other, member, given⟩
    rcases List.mem_singleton.mp member with rfl
    exact filled stretch given
  ordered := by
    cases given : consultation.stretch? <;> simp [given]

/-- A failure that the parse does not go on after is the last. -/
theorem of_going_none (stops : consultation.going = none) : Orderly size floor [consultation] := by
  have none_ : consultation.stretch? = none := by
    unfold Consultation.stretch?
    split
    next going => simp [stops] at going
    next going => simp [stops] at going
    next => rfl
  exact single (by simp [stops]) (by simp [none_])

theorem cons (inside : consultation.failure.atEnd = false)
    (given : consultation.stretch? = some (start, stop)) (late : floor ≤ start)
    (proper : start < stop) (bounded : start < size) (onward : stop ≤ floor')
    (rest : Orderly size floor' asked) :
    Orderly size floor (consultation :: asked) where
  few := by
    have few := rest.few
    rw [List.length_cons]
    omega
  ending := by
    rw [List.countP_cons_of_neg (by simp [inside])]
    exact rest.ending
  stretched := by
    rw [List.forall_mem_cons]
    exact ⟨fun _ _ => by rw [given]; rfl, rest.stretched⟩
  filled := by
    rw [List.filterMap_cons_some given, List.forall_mem_cons]
    refine ⟨⟨late, proper⟩, fun stretch listed => ?_⟩
    rcases rest.filled stretch listed with ⟨later, filled⟩
    exact ⟨by omega, filled⟩
  ordered := by
    rw [List.filterMap_cons_some given, List.pairwise_cons]
    exact ⟨fun stretch listed => Nat.le_trans onward (rest.filled stretch listed).1,
      rest.ordered⟩

end Orderly

namespace Parser

variable {parser : Parser} {handler : FailureHandler} {session met going final : Session}
  {before between after : Workspace} {failure next : Failure} {answer : Except Failure Value}

/-- Where the parse goes on after a failure inside the text, some text has been given up since. -/
theorem Blames.stretch {floor : Nat} {cursor : Cursor} (forward : handler.Forward)
    (blames : parser.Blames floor failure met) (here : met.cursor = some cursor)
    (inside : failure.atEnd = false)
    (asked : (consult handler failure met).Gives before (.ok true, going) after) :
    ∃ start stop cursor', Consultation.stretch? { failure, met, going } = some (start, stop) ∧
      floor ≤ start ∧ start < stop ∧ start < cursor.text.size ∧
        going.cursor = some cursor' ∧
        cursor'.text = cursor.text ∧ stop ≤ cursor'.counter.position := by
  cases blames with
  | text here' late bounded passed =>
      cases here.symm.trans here'
      rcases consult_passes forward here bounded passed asked with
        ⟨cursor', here'', text, beyond⟩
      refine ⟨_, cursor'.counter.position, cursor', ?_, late, beyond, bounded, here'', text,
        Nat.le_refl _⟩
      simp [Consultation.stretch?, Session.position?, here'']
  | token here' offends other within bounded =>
      cases here.symm.trans here'
      rcases within with ⟨start, stop, starts, stops, late, proper, last⟩
      rcases consult_onward forward asked cursor here with ⟨cursor', here'', text, onward⟩
      refine ⟨start, stop, cursor', ?_, late, proper, by omega, here'', text, by omega⟩
      simp [Consultation.stretch?, offends, Offender.kind?, Offender.place, other, starts, stops]
  | ending here' offends ends ended rejects =>
      simp [Failure.atEnd, offends, Offender.kind?, ends] at inside

theorem stretch?_of_atEnd (ended : failure.atEnd = true) (met : Session) (going : Option Session) :
    Consultation.stretch? { failure, met, going } = none := by
  unfold Consultation.stretch?
  cases failure with
  | stuckToken stuck =>
      have ends : stuck.offender.kind? = some Token.endKind := by
        simpa [Failure.atEnd] using ended
      cases going <;> simp [ends]
  | _ => cases ended

/-- What is asked in one question is in order. -/
theorem Blames.orderly {floor : Nat} {cursor : Cursor} (forward : handler.Forward)
    (blames : parser.Blames floor failure met) (here : met.cursor = some cursor)
    (asked : (consult handler failure met).Gives before (.ok true, going) after) :
    Orderly cursor.text.size floor [{ failure, met, going }] := by
  cases inside : failure.atEnd with
  | true =>
      have nothing := stretch?_of_atEnd inside met (some going)
      exact .single (by simp [inside]) (by simp [nothing])
  | false =>
      rcases blames.stretch forward here inside asked with
        ⟨start, stop, _, given, late, proper, _⟩
      refine .single (fun _ _ => by rw [given]; rfl) fun stretch same => ?_
      rw [given] at same
      cases same
      exact ⟨late, proper⟩

/-- A recovery comes to an end. Induction on the text that is left. -/
theorem Steady.exists_recovers (steady : parser.Steady) (forward : handler.Forward) (left : Nat) :
    ∀ {floor : Nat} {failure : Failure} {met : Session} {before : Workspace} {cursor : Cursor},
      parser.Blames floor failure met → met.cursor = some cursor →
      cursor.text.size - floor ≤ left →
      ∃ asked ending answer final after,
        parser.Recovers handler failure met before asked ending answer final after ∧
          Orderly cursor.text.size floor asked := by
  induction left using Nat.strongRecOn with
  | _ left ih =>
      intro floor failure met before cursor blames here enough
      have exists_verdict :
          ∃ verdict between, (consult handler failure met).Gives before verdict between :=
        ⟨_, _, rfl⟩
      rcases exists_verdict with ⟨⟨verdict, going⟩, between, asked⟩
      rcases verdict with raised | _ | _
      · exact ⟨_, _, _, _, _, .raised asked, .of_going_none rfl⟩
      · exact ⟨_, _, _, _, _, .declined asked, .of_going_none rfl⟩
      have exists_answer :
          ∃ answer after, (parser.resume going).Gives between answer after := ⟨_, _, rfl⟩
      rcases exists_answer with ⟨⟨answer, found⟩, after, resumed⟩
      by_cases stuck : ∃ next, answer = .error next ∧ next.isStuck = true
      · rcases stuck with ⟨next, rfl, stuck⟩
        cases inside : failure.atEnd with
        | true =>
            -- whatever the handler has done, there is no text left that could be blamed
            rcases consult_onward forward asked cursor here with ⟨cursor', here', text, late⟩
            rcases steady.resume_blames here' resumed stuck with ⟨blames', text'⟩
            rcases Option.map_eq_some_iff.mp text' with ⟨cursor'', here'', text'⟩
            have ended : cursor.AtEnd := by
              cases blames with
              | text => cases inside
              | token _ offends other =>
                  simp [Failure.atEnd, offends, Offender.kind?, other] at inside
              | ending here'' _ _ ended =>
                  cases here.symm.trans here''
                  exact ended
            have again : next.atEnd = true :=
              blames'.atEnd_of_le here'' (by rw [text', text]; exact Nat.le_trans ended late)
            exact ⟨_, _, _, _, _, .unasked asked resumed stuck inside again rfl,
              blames.orderly forward here asked⟩
        | false =>
            rcases blames.stretch forward here inside asked with
              ⟨start, stop, cursor', given, late, proper, bounded, here', text, onward⟩
            rcases steady.resume_blames here' resumed stuck with ⟨blames', text'⟩
            rcases Option.map_eq_some_iff.mp text' with ⟨cursor'', here'', text'⟩
            have same : cursor''.text = cursor.text := text'.trans text
            rcases ih (cursor''.text.size - cursor'.counter.position)
              (by rw [same]; omega) blames' here'' (Nat.le_refl _) with
              ⟨more, ending, answer, final, after', rest, orderly⟩
            rw [same] at orderly
            exact ⟨_, _, _, _, _, .again asked resumed stuck (by simp [inside]) rest,
              .cons inside given late proper bounded onward orderly⟩
      · refine ⟨_, _, _, _, _, .settled asked resumed fun next failed => ?_,
          blames.orderly forward here asked⟩
        rw [← Bool.not_eq_true]
        exact fun isStuck => stuck ⟨next, failed, isStuck⟩

/-! ## Whole parses -/

section Parses

variable {terminals : List Terminal} {rules : List Rule} {table : Table State}
  {ignored : List Data} {options : Options} {made made' : Workspace} {text : String}
  {start : Option String} {asked : List Consultation} {ending : Ending}

/-- A recovery in the course of a parse begins with a failure that comes after the beginning of the
text. -/
theorem Steady.run_blames (steady : parser.Steady)
    (started : parser.start (some text) start = .ok session)
    (failed : (parser.run none session).Gives before (.error failure, met) between)
    (stuck : failure.isStuck = true) :
    parser.Blames 0 failure met ∧
      ∃ cursor, met.cursor = some cursor ∧ cursor.text = text.toList.toArray := by
  have here : session.cursor = some (.ofText text) := by
    unfold Parser.start at started
    rcases bind_eq_ok.mp started with ⟨name, _, started⟩
    split at started
    · cases started
      rfl
    · cases started
  rcases steady.runWithin_blames _ here failed stuck with ⟨blames, same⟩
  rcases Option.map_eq_some_iff.mp same with ⟨cursor, here', text'⟩
  exact ⟨blames, cursor, here', text'⟩

/-- A parse that recovers with the help of a handler comes to an end, if no handler of the
transformer blames the input itself: it asks the handler at most once for each character of the
text and once at the end of the input, and the texts that are given up in between follow one
another. More patience makes no difference. -/
theorem recovery_ends (make : (make terminals rules table ignored options).Yields made parser made')
    (plain : options.postLexer = .ok none) (silent : options.callbacks = .ok [])
    (calm : ∀ transformer, options.transformer = .ok (some transformer) → transformer.Unstuck)
    (consuming : ∀ lexer ∈ parser.source.reader.lexers, lexer.Consuming)
    (forward : handler.Forward) (started : parser.start (some text) start = .ok session)
    (failed : (parser.run none session).Gives before (.error failure, met) between)
    (stuck : failure.isStuck = true) :
    ∃ asked ending answer final after,
      parser.Recovers handler failure met between asked ending answer final after ∧
        Orderly text.length 0 asked ∧
          ∀ patience, text.length + 1 ≤ patience →
            (parser.parseRecovering handler patience text start).run.Gives before answer after := by
  have steady := steady_of_make make plain silent calm consuming
  rcases steady.run_blames started failed stuck with ⟨blames, cursor, here, same⟩
  rcases steady.exists_recovers forward _ blames here (Nat.le_refl _) with
    ⟨asked, ending, answer, final, after, recovers, orderly⟩
  have size : cursor.text.size = text.length := by
    rw [same, List.size_toArray, String.length_toList]
  rw [size] at orderly
  refine ⟨asked, ending, answer, final, after, recovers, orderly, fun patience enough => ?_⟩
  have recovered := recover_of_recovers recovers (Nat.le_trans orderly.few enough)
  rw [parseRecovering, Run.lift_bind_of_ok started, Run.run_work_bind]
  refine Work.gives_bind.mpr ⟨_, _, failed, ?_⟩
  simp only [stuck, if_true]
  rw [Run.run_work_bind]
  refine Work.gives_bind.mpr ⟨_, _, recovered, ?_⟩
  rw [Run.run_lift]
  exact Work.gives_pure.mpr ⟨rfl, rfl⟩

/-- A recovery never asks about two failures in a row at the end of the input. The second of them is
raised at once, and that it is raised says nothing about what the handler has done: the place where
the parse stands is the same as before if the handler has left it alone. -/
theorem recovery_unasked
    (make : (make terminals rules table ignored options).Yields made parser made')
    (plain : options.postLexer = .ok none) (silent : options.callbacks = .ok [])
    (calm : ∀ transformer, options.transformer = .ok (some transformer) → transformer.Unstuck)
    (consuming : ∀ lexer ∈ parser.source.reader.lexers, lexer.Consuming)
    (started : parser.start (some text) start = .ok session)
    (failed : (parser.run none session).Gives before (.error failure, met) between)
    (stuck : failure.isStuck = true)
    (recovers : parser.Recovers handler failure met between asked ending answer final after) :
    (asked.IsChain fun earlier later => (earlier.failure.atEnd && later.failure.atEnd) = false) ∧
      (ending = .unasked ↔ ∃ last ∈ asked.getLast?, last.going.isSome = true ∧
        last.failure.atEnd = true ∧ ∃ next, answer = .error next ∧ next.atEnd = true) ∧
      (ending = .unasked → ∀ last ∈ asked.getLast?, ∀ going ∈ last.going,
        going.stack.states = last.met.stack.states → going.cursor = last.met.cursor →
          final.stack.states = last.met.stack.states ∧ final.cursor = last.met.cursor) := by
  have steady := steady_of_make make plain silent calm consuming
  have blames := (steady.run_blames started failed stuck).1
  exact ⟨recovers.apart, recovers.unasked_iff, steady.unasked_stays blames recovers⟩

end Parses

/-! ## Texts in brackets -/

/-- The terminals of texts in brackets. -/
def brackets : List Terminal :=
  [{ name := "A", pattern := { kind := .expression, value := "a" } },
    { name := "CLOSE", pattern := { kind := .expression, value := ">" } },
    { name := "OPEN", pattern := { kind := .expression, value := "<" } }]

/-- A text is an A. -/
def coreRule : Rule := { origin := "start", expansion := [.terminal "A" false] }

/-- A text is a text in brackets. -/
def bracketRule : Rule where
  origin := "start"
  expansion := [.terminal "OPEN" true, .nonterminal "start", .terminal "CLOSE" true]
  order := 1

def bracketTable : Table State where
  rows := [
    (.number 0, [("A", .shift (.number 1)), ("OPEN", .shift (.number 2)),
      ("start", .shift (.number 5))]),
    (.number 1, [("$END", .reduce coreRule), ("CLOSE", .reduce coreRule)]),
    (.number 2, [("A", .shift (.number 1)), ("OPEN", .shift (.number 2)),
      ("start", .shift (.number 3))]),
    (.number 3, [("CLOSE", .shift (.number 4))]),
    (.number 4, [("$END", .reduce bracketRule), ("CLOSE", .reduce bracketRule)]),
    (.number 5, [])]
  starts := [("start", .number 0)]
  ends := [("start", .number 5)]

def bracketVocabulary : Vocabulary where
  scanner := {
    terminals := brackets
    whole := false
    alternations :=
      [⟨.choice (.group 1 (.char 'a')) (.choice (.group 2 (.char '>')) (.group 3 (.char '<'))),
        {}, [("A", 1), ("CLOSE", 2), ("OPEN", 3)]⟩] }
  absorbed := []

def bracketLexer (number : Nat) : Lexer where
  number
  terminals := brackets
  ignored := []
  breaking := []
  callbacks := []
  vocabulary := Thunk.mk fun _ => (.ok bracketVocabulary, [])

def bracketParser : Parser where
  options := { contextual := false }
  terminals := brackets
  rules := [coreRule, bracketRule]
  ignored := []
  table := bracketTable
  reductions :=
    (Reductions.make {} [coreRule, bracketRule] ["A", "CLOSE", "OPEN"]).toOption.getD
      { rules := [] }
  source := { reader := .basic (bracketLexer 0) }
  whole := bracketLexer 1
  wholeKeeping := bracketLexer 2

theorem make_bracketLexer (number : Nat) :
    Lexer.make number (settings brackets [] [] {}) = .ok (bracketLexer number) := by
  have ordered : Lexer.inOrder brackets = .ok brackets :=
    Lexer.inOrder_of_isOrdered (by decide +kernel)
  have breaking : Lexer.breakingNames brackets = [] := by decide +kernel
  have prepared : (Vocabulary.prepare brackets {}).run.run [] = (.ok bracketVocabulary, []) :=
    Prod.ext (eq_ok_of_toOption (by decide +kernel)) (by decide +kernel)
  have checked : Lexer.check (settings brackets [] [] {}) = .ok () :=
    eq_ok_of_toOption (by decide +kernel)
  exact Lexer.make_of_prepared checked ordered breaking prepared

theorem bracketParser_made : ∃ after,
    (make brackets [coreRule, bracketRule] bracketTable [] bracketParser.options).Yields {}
      bracketParser after :=
  make_of_basic rfl rfl rfl (by rfl) rfl rfl rfl make_bracketLexer

theorem bracketLexer_consuming :
    ∀ lexer ∈ bracketParser.source.reader.lexers, lexer.Consuming := by
  simp only [bracketParser, Reader.lexers, List.mem_singleton, forall_eq]
  rintro _ ⟨⟩
  exact Scanner.consuming_of_consumes (by decide)

/-- A new session for a text in brackets. -/
def bracketSession (text : String) : Session where
  stack := { states := [.number 0], values := [] }
  starting := .number 0
  ending := .number 5
  cursor := some (.ofText text)

theorem start_bracketParser (text : String) :
    bracketParser.start (some text) none = .ok (bracketSession text) := rfl

/-- What is seen of a failure: whether it blames the input, whether it is about its end, and the
states it leaves. -/
def seen (ran : (Except Failure Value × Session) × Workspace) :
    Option (Bool × Bool × List State) :=
  match ran.1.1 with
  | .ok _ => none
  | .error failure => some (failure.isStuck, failure.atEnd, ran.1.2.stack.states)

theorem seen_eq_some {work : Work (Except Failure Value × Session)} {isStuck atEnd : Bool}
    {states : List State}
    (same : seen (StateT.run (m := Id) work before) = some (isStuck, atEnd, states)) :
    ∃ failure final after, work.Gives before (.error failure, final) after ∧
      failure.isStuck = isStuck ∧ failure.atEnd = atEnd ∧ final.stack.states = states := by
  rcases ran : StateT.run (m := Id) work before with ⟨⟨failure | value, final⟩, after⟩
  · rw [ran] at same
    cases same
    exact ⟨failure, final, after, ran, rfl, rfl, rfl⟩
  · rw [ran] at same
    cases same

/-- A handler that lets a parse go on whatever happens. -/
def patient : FailureHandler := fun _ session => return (.ok true, session)

theorem patient_forward : patient.Forward := by
  intro failure session before answer left after gives
  cases (Work.gives_pure.mp gives).1
  exact .refl session

/-- A closing bracket is rejected, a question mark is passed over, and the rest is a text. -/
theorem recovery_ends_brackets : ∃ failure met between,
    (bracketParser.run none (bracketSession ">?<a>")).Gives {} (.error failure, met) between ∧
      ∃ asked ending answer final after,
        bracketParser.Recovers patient failure met between asked ending answer final after ∧
          Orderly 5 0 asked ∧ ∀ patience, 6 ≤ patience →
            (bracketParser.parseRecovering patient patience ">?<a>" none).run.Gives {} answer
              after := by
  rcases bracketParser_made with ⟨made, make⟩
  rcases seen_eq_some
      (show seen (StateT.run (m := Id) (bracketParser.run none (bracketSession ">?<a>")) {}) =
        some (true, false, [.number 0]) by decide +kernel) with
    ⟨failure, met, between, failed, stuck, _⟩
  exact ⟨failure, met, between, failed, recovery_ends make rfl rfl (fun _ given => by cases given)
    bracketLexer_consuming patient_forward (start_bracketParser _) failed stuck⟩

/-! ## A reduction that blames the input -/

/-- A text is empty. -/
def emptyRule : Rule := { origin := "start", expansion := [] }

def emptyTable : Table State where
  rows := [(.number 0, [("$END", .reduce emptyRule), ("start", .shift (.number 1))]),
    (.number 1, [])]
  starts := [("start", .number 0)]
  ends := [("start", .number 1)]

/-- A transformer that will not have a text, although there is nothing wrong with it. -/
def refusingTransformer : Transformer where
  handlers := [("start", { call := fun _ => throw (.stuckToken {
    offender := .token { kind := "A", text := "a" }
    expected := [] }) })]

def refusingParser : Parser where
  options := { contextual := false, transformer := .ok (some refusingTransformer) }
  terminals := brackets
  rules := [emptyRule]
  ignored := []
  table := emptyTable
  reductions :=
    (Reductions.make { transformer := some refusingTransformer } [emptyRule]
      ["A", "CLOSE", "OPEN"]).toOption.getD { rules := [] }
  source := { reader := .basic (bracketLexer 0) }
  whole := bracketLexer 1
  wholeKeeping := bracketLexer 2

theorem refusingParser_made : ∃ after,
    (make brackets [emptyRule] emptyTable [] refusingParser.options).Yields {} refusingParser
      after :=
  make_of_basic rfl rfl rfl (by rfl) rfl rfl rfl make_bracketLexer

/-- A session for the empty text. -/
def emptySession : Session where
  stack := { states := [.number 0], values := [] }
  starting := .number 0
  ending := .number 1
  cursor := some (.ofText "")

/-- What the parse of the empty text fails with. -/
def refusal : Failure :=
  .stuckToken {
    offender := .token { kind := "A", text := "a" }
    expected := []
    standpoint := some ⟨[.number 0], .number 1⟩ }

/-- The parse fails, and stands where it stood. -/
theorem refusingParser_refuses (before : Workspace) : ∃ after,
    (refusingParser.run none emptySession).Gives before (.error refusal, emptySession) after ∧
      after.notes = before.notes := ⟨_, rfl, rfl⟩

/-- A handler that takes a note of each time it is asked and lets the parse go on. -/
def noting : FailureHandler := fun _ session => do
  Work.note .null
  return (.ok true, session)

theorem noting_forward : noting.Forward := by
  intro failure session before answer left after gives
  rcases Work.gives_bind.mp gives with ⟨_, _, _, gives⟩
  cases (Work.gives_pure.mp gives).1
  exact .refl session

/-- The handler is asked, and then the parse is where it was before. -/
theorem noting_consulted (before : Workspace) : ∃ after,
    (consult noting refusal emptySession).Gives before (.ok true, emptySession) after ∧
      after.notes = before.notes ++ [.null] := ⟨_, rfl, rfl⟩

/-- The handler is asked as often as there is patience for. Induction on the patience. -/
theorem recover_refusingParser (patience : Nat) :
    ∀ before, ∃ after,
      (refusingParser.recover noting patience refusal emptySession).Gives before
        (.error refusal, emptySession) after ∧
        after.notes.length = before.notes.length + patience := by
  induction patience with
  | zero => exact fun before => ⟨before, rfl, rfl⟩
  | succ patience ih =>
      intro before
      rcases noting_consulted before with ⟨between, consulted, asked⟩
      rcases refusingParser_refuses between with ⟨between', refused, kept⟩
      rcases ih between' with ⟨after, recovered, more⟩
      refine ⟨after, ?_, ?_⟩
      · rw [recover_succ]
        exact Work.gives_bind.mpr ⟨_, _, consulted,
          Work.gives_bind.mpr ⟨_, _, refused, recovered⟩⟩
      · rw [more, kept, asked, List.length_append, List.length_singleton]
        omega

/-- There is no end to the recovery. Induction on what it would have done up to there. -/
theorem not_recovers_refusingParser {asked : List Consultation} {ending : Ending}
    (recovers : refusingParser.Recovers noting failure met before asked ending answer final after) :
    failure = refusal → met = emptySession → False := by
  have consulted {before after : Workspace} {verdict : Except Failure Bool} {going : Session}
      (asked : (consult noting refusal emptySession).Gives before (verdict, going) after) :
      verdict = .ok true ∧ going = emptySession := by
    rcases noting_consulted before with ⟨_, consulted, _⟩
    cases (asked.unique consulted).1
    exact ⟨rfl, rfl⟩
  have refused {before after : Workspace} {answer : Except Failure Value} {final : Session}
      (resumed : (refusingParser.resume emptySession).Gives before (answer, final) after) :
      answer = .error refusal ∧ final = emptySession := by
    rcases refusingParser_refuses before with ⟨_, refused, _⟩
    cases (resumed.unique refused).1
    exact ⟨rfl, rfl⟩
  induction recovers with
  | raised asked =>
      rintro rfl rfl
      cases (consulted asked).1
  | declined asked =>
      rintro rfl rfl
      cases (consulted asked).1
  | settled asked resumed ended =>
      rintro rfl rfl
      rcases (consulted asked).2 with rfl
      cases ended _ (refused resumed).1
  | unasked _ _ _ ended =>
      rintro rfl rfl
      cases ended
  | again asks resumed _ _ _ ih =>
      rintro rfl rfl
      rcases (consulted asks).2 with rfl
      rcases refused resumed with ⟨same, rfl⟩
      cases same
      exact ih rfl rfl

/-- A reduction may blame the input for nothing that is in it. The text is empty, and the handler is
asked about the same failure again and again, for as long as there is patience. -/
theorem recovery_never_ends : ∃ made' failure met between,
    (make brackets [emptyRule] emptyTable [] refusingParser.options).Yields
      {} refusingParser made' ∧
      refusingParser.options.postLexer = .ok none ∧ refusingParser.options.callbacks = .ok [] ∧
      (∀ lexer ∈ refusingParser.source.reader.lexers, lexer.Consuming) ∧ noting.Forward ∧
      refusingParser.start (some "") none = .ok emptySession ∧
      (refusingParser.run none emptySession).Gives {} (.error failure, met) between ∧
      failure.isStuck = true ∧
      (¬∃ asked ending answer final after,
        refusingParser.Recovers noting failure met between asked ending answer final after) ∧
      ∀ patience, ∃ answer after,
        (refusingParser.parseRecovering noting patience "" none).run.Gives {} answer after ∧
          after.notes.length = patience := by
  rcases refusingParser_made with ⟨made', make⟩
  rcases refusingParser_refuses {} with ⟨between, refused, kept⟩
  refine ⟨made', refusal, emptySession, between, make, rfl, rfl, bracketLexer_consuming,
    noting_forward, rfl, refused, rfl, ?_, fun patience => ?_⟩
  · rintro ⟨_, _, _, _, _, recovers⟩
    exact not_recovers_refusingParser recovers rfl rfl
  · rcases recover_refusingParser patience between with ⟨after, recovered, notes⟩
    refine ⟨.error refusal, after, ?_, by simpa [kept] using notes⟩
    have started : refusingParser.start (some "") none = .ok emptySession := rfl
    rw [parseRecovering, Run.lift_bind_of_ok started, Run.run_work_bind]
    refine Work.gives_bind.mpr ⟨_, _, refused, ?_⟩
    show ((liftM (refusingParser.recover noting patience refusal emptySession) : Run _) >>=
      fun answer => Run.lift answer.1).run.Gives between (.error refusal) after
    rw [Run.run_work_bind]
    exact Work.gives_bind.mpr ⟨_, _, recovered, rfl⟩

/-! ## Brackets that are open at the end -/

/-- A handler that closes a bracket. -/
def closing : FailureHandler := fun _ session => do
  let (answer, session) ← bracketParser.feed session { kind := "CLOSE", text := ">" }
  return (answer.map fun _ => true, session)

/-- What a parse comes to after it has failed, a handler has been asked once and the parse has gone
on. -/
def onceAsked (handler : FailureHandler) (session : Session) :
    Work (Except Failure Value × Session) := do
  match ← bracketParser.run none session with
  | (.ok value, session) => return (.ok value, session)
  | (.error failure, met) =>
    match ← consult handler failure met with
    | (.ok true, going) => bracketParser.resume going
    | (_, session) => return (.ok .nothing, session)

theorem onceAsked_gives (handler : FailureHandler) {next : Failure}
    (gives : (onceAsked handler session).Gives before (.error next, final) after) :
    ∃ failure met start going between,
      (bracketParser.run none session).Gives before (.error failure, met) start ∧
        (consult handler failure met).Gives start (.ok true, going) between ∧
        (bracketParser.resume going).Gives between (.error next, final) after := by
  rcases Work.gives_bind.mp gives with ⟨⟨failure | value, met⟩, start, failed, gives⟩
  · rcases Work.gives_bind.mp gives with ⟨⟨verdict, going⟩, between, asked, gives⟩
    rcases verdict with raised | _ | _
    · cases (Work.gives_pure.mp gives).1
    · cases (Work.gives_pure.mp gives).1
    · exact ⟨failure, met, start, going, between, failed, asked, gives⟩
  · cases (Work.gives_pure.mp gives).1

/-- Two brackets are open at the end of the input. The handler closes one of them, and is not asked
again although the parse stands elsewhere. -/
theorem unasked_of_closing : ∃ failure met between asked answer final after,
    (bracketParser.run none (bracketSession "<<a")).Gives {} (.error failure, met) between ∧
      failure.isStuck = true ∧
      bracketParser.Recovers closing failure met between asked .unasked answer final after ∧
      met.stack.states = [.number 3, .number 2, .number 2, .number 0] ∧
      final.stack.states = [.number 3, .number 2, .number 0] := by
  rcases seen_eq_some
      (show seen (StateT.run (m := Id) (onceAsked closing (bracketSession "<<a")) {}) =
        some (true, true, [.number 3, .number 2, .number 0]) by decide +kernel) with
    ⟨next, final, after, gives, stuck', again, states'⟩
  rcases onceAsked_gives closing gives with
    ⟨failure, met, between, going, _, failed, asked, resumed⟩
  rcases seen_eq_some
      (show seen (StateT.run (m := Id) (bracketParser.run none (bracketSession "<<a")) {}) =
        some (true, true, [.number 3, .number 2, .number 2, .number 0]) by decide +kernel) with
    ⟨_, _, _, failed', stuck, ended, states⟩
  rcases failed'.unique failed with ⟨same, _⟩
  cases same
  exact ⟨failure, met, between, _, _, final, _, failed, stuck,
    .unasked asked resumed stuck' ended again rfl, states, states'⟩

/-- A handler that leaves two open brackets alone is not asked again, and the parse stands where it
stood. -/
theorem recovery_unasked_patient : ∃ failure met between asked answer final after,
    (bracketParser.run none (bracketSession "<<a")).Gives {} (.error failure, met) between ∧
      bracketParser.Recovers patient failure met between asked .unasked answer final after ∧
      ∃ last ∈ asked.getLast?, final.stack.states = last.met.stack.states ∧
        final.cursor = last.met.cursor := by
  rcases bracketParser_made with ⟨made, make⟩
  rcases seen_eq_some
      (show seen (StateT.run (m := Id) (onceAsked patient (bracketSession "<<a")) {}) =
        some (true, true, [.number 3, .number 2, .number 2, .number 0]) by decide +kernel) with
    ⟨next, final, after, gives, stuck', again, _⟩
  rcases onceAsked_gives patient gives with
    ⟨failure, met, between, going, _, failed, asked, resumed⟩
  rcases seen_eq_some
      (show seen (StateT.run (m := Id) (bracketParser.run none (bracketSession "<<a")) {}) =
        some (true, true, [.number 3, .number 2, .number 2, .number 0]) by decide +kernel) with
    ⟨_, _, _, failed', stuck, ended, _⟩
  rcases failed'.unique failed with ⟨same, _⟩
  cases same
  have stays : going = met := by
    rcases consult_eq_true asked with ⟨left, _, _, _, handled, skipped⟩
    cases (Work.gives_pure.mp handled).1
    unfold skipStuck at skipped
    split at skipped
    · cases ended
    · exact (Work.gives_pure.mp skipped).1.symm
  have recovers : bracketParser.Recovers patient failure met between
      [{ failure, met, going }] .unasked (.error next) final _ :=
    .unasked asked resumed stuck' ended again rfl
  rcases recovery_unasked make rfl rfl (fun _ given => by cases given)
      bracketLexer_consuming (start_bracketParser _) failed stuck recovers with
    ⟨_, _, standing⟩
  exact ⟨failure, met, between, _, _, final, _, failed, recovers, _, rfl,
    standing rfl _ rfl _ rfl (by simp [stays]) (by simp [stays])⟩

end Parser

end Lalr
