import Lalr.Proofs.Lexer.Making
import Lalr.Proofs.Parser.Boundedness

/-!
# What a session accepts

Whether a token is rejected, and which states are left when it has been fed, is
decided by its kind and by the states alone: values, callbacks and the text of the
token have no bearing on it. So a terminal is tried out on the states without
building anything, and what is found holds of every session with these states.
-/

namespace Lalr

variable {σ ω ε w : Type} [DecidableEq σ] {table : Table σ} {starting : σ}

/-- Whether a token has been taken or rejected, if there has been no failure. -/
def Outcome.taken? : Outcome ω ε → Option Bool
  | .shifted => some true
  | .finished _ => some true
  | .rejected _ => some false
  | .failed _ => none
  | .endless => none

namespace Table

/-- A coherent table with a row for every state that a parse may come to, which never shifts the end
of the input. -/
structure Closed (table : Table σ) (starting : σ) : Prop extends Coherent table starting where
  start_row : (table.row? starting).isSome
  target_row : ∀ {source target : σ} {symbol : String},
    table.Moves source symbol target → (table.row? target).isSome
  not_moves_end : ∀ {source target : σ}, ¬table.Moves source Token.endKind target

/-- Whether a token of some kind is taken by some states or rejected, with the states that are left
in the end. -/
inductive Settles (table : Table σ) (kind : String) (ending : Option σ) :
    List σ → Bool → List σ → Prop
  | rejected {met : List σ} {expected : List String}
      (move : table.move met kind = .rejected expected) : Settles table kind ending met false met
  | shifted {met : List σ} {target : σ} (move : table.move met kind = .shift target)
      (going : ending = none) : Settles table kind ending met true (target :: met)
  | finished {met : List σ} {rule : Rule} {target : σ}
      (move : table.move met kind = .reduce rule)
      (found : table.target (met.drop rule.expansion.length) rule.origin = .ok target)
      (ends : some target = ending) :
      Settles table kind ending met true (target :: met.drop rule.expansion.length)
  | round {met next after : List σ} {taken : Bool}
      (step : table.round? kind ending met = some next)
      (settles : Settles table kind ending next taken after) :
      Settles table kind ending met taken after

/-- The states that are left when a token of some kind has been fed to some states without building
anything. -/
def settled (table : Table σ) (kind : String) (ending : Option σ) (states : List σ) : List σ :=
  let effects : Effects (StateM Unit) σ Unit Fault := silently fun _ _ => pure ()
  let fuel := table.reductionBound states.length
  ((table.feed effects kind ending fuel { states, values := [] }).run ()).1.2.states

section Settling

variable {kind : String} {ending : Option σ} {states next after after' : List σ}
  {taken taken' : Bool}

theorem round?_eq_none_of_rejected {expected : List String}
    (move : table.move states kind = .rejected expected) :
    table.round? kind ending states = none := by
  simp [round?, move]

theorem round?_eq_none_of_shift {target : σ} (move : table.move states kind = .shift target) :
    table.round? kind ending states = none := by
  simp [round?, move]

theorem round?_eq_none_of_finished {rule : Rule} {target : σ}
    (move : table.move states kind = .reduce rule)
    (found : table.target (states.drop rule.expansion.length) rule.origin = .ok target)
    (ends : some target = ending) : table.round? kind ending states = none := by
  have stops := ended_iff.mpr ends
  simp_all [round?, afterReduction, bind, Except.bind, pure, Except.pure]

/-- The moves of a table leave no choice. -/
theorem Settles.unique (settles : table.Settles kind ending states taken after) :
    table.Settles kind ending states taken' after' → taken = taken' ∧ after = after' := by
  induction settles with
  | rejected move =>
      intro other
      cases other with
      | rejected => exact ⟨rfl, rfl⟩
      | shifted move' => cases move.symm.trans move'
      | finished move' => cases move.symm.trans move'
      | round step => cases (round?_eq_none_of_rejected move).symm.trans step
  | shifted move =>
      intro other
      cases other with
      | rejected move' => cases move.symm.trans move'
      | shifted move' =>
          cases move.symm.trans move'
          exact ⟨rfl, rfl⟩
      | finished move' => cases move.symm.trans move'
      | round step => cases (round?_eq_none_of_shift move).symm.trans step
  | finished move found ends =>
      intro other
      cases other with
      | rejected move' => cases move.symm.trans move'
      | shifted move' => cases move.symm.trans move'
      | finished move' found' =>
          cases move.symm.trans move'
          cases found.symm.trans found'
          exact ⟨rfl, rfl⟩
      | round step => cases (round?_eq_none_of_finished move found ends).symm.trans step
  | round step _ ih =>
      intro other
      cases other with
      | rejected move => cases (round?_eq_none_of_rejected move).symm.trans step
      | shifted move => cases (round?_eq_none_of_shift move).symm.trans step
      | finished move found ends =>
          cases (round?_eq_none_of_finished move found ends).symm.trans step
      | round step' settles =>
          cases step.symm.trans step'
          exact ih settles

theorem Settles.of_rounds (count : Nat)
    (reached : table.rounds kind ending count states = some next)
    (settles : table.Settles kind ending next taken after) :
    table.Settles kind ending states taken after := by
  induction count generalizing states with
  | zero =>
      rcases Option.some.inj reached with rfl
      exact settles
  | succ count ih =>
      rcases Option.bind_eq_some_iff.mp reached with ⟨between, step, reached⟩
      exact .round step (ih reached)

variable {effects : Effects (StateM w) σ ω ε} {tokens : Nat} {stack : Stack σ ω}
  {parts : List Derivation}

theorem Closed.move_ne_lost (closed : table.Closed starting) {symbols : List String}
    (path : table.Path starting states symbols) {fault : Fault} :
    table.move states kind ≠ .lost fault := by
  cases path with
  | start => exact Table.move_ne_lost closed.start_row
  | move _ moves => exact Table.move_ne_lost (closed.target_row moves)

/-- With a closed table nothing fails but a callback. -/
theorem Closed.raises (closed : table.Closed starting) {spoils : Prop} {failure : ε}
    (derived : table.Derived starting tokens states parts)
    (isEnd : ending.isSome → kind = Token.endKind)
    (closes : table.Closes effects kind ending spoils states (.failed failure) after) :
    spoils ∨ ∃ rule values before later, table.HasRule rule ∧
      (effects.reduce rule values).run before = (.error failure, later) := by
  cases closes with
  | lost move => exact absurd move (closed.move_ne_lost derived.path)
  | barred move ends =>
      rcases move_eq_shift move with ⟨top, _, moves⟩
      rcases isEnd ends with rfl
      exact absurd moves closed.not_moves_end
  | spoilt move going isSpoilt => exact .inl isSpoilt
  | raised move reduced => exact .inr ⟨_, _, _, _, hasRule_of_move move, reduced⟩
  | stranded move missing =>
      rcases derived.reduce closed.toCoherent move with ⟨target, _, _, found, _⟩
      cases missing.symm.trans found

/-- A token that is fed without a failure is taken or rejected as the states decide. -/
theorem feed_settles (effects : Effects (StateM w) σ ω ε) (stack : Stack σ ω)
    (ends : ¬table.Diverges kind ending stack.states) (state : w)
    (calm : ∀ failure, ((table.feed effects kind ending
      (table.reductionBound stack.states.length) stack).run state).1.1 ≠ .failed failure) :
    ∃ taken, ((table.feed effects kind ending
        (table.reductionBound stack.states.length) stack).run state).1.1.taken? = some taken ∧
      table.Settles kind ending stack.states taken ((table.feed effects kind ending
        (table.reductionBound stack.states.length) stack).run state).1.2.states := by
  rcases feed_of_not_diverges effects state ends (mt diverges_of_reductionBound ends) with
    ⟨ended, _⟩
  rcases feed_closes effects kind ending (table.reductionBound stack.states.length) stack state with
    ⟨count, met, reached, ⟨endless, _⟩ | ⟨_, closes⟩⟩
  · exact absurd endless ended
  revert calm closes
  generalize ((table.feed effects kind ending
    (table.reductionBound stack.states.length) stack).run state).1.1 = outcome
  generalize ((table.feed effects kind ending
    (table.reductionBound stack.states.length) stack).run state).1.2.states = after
  intro calm closes
  cases closes with
  | lost move => exact absurd rfl (calm _)
  | rejected move => exact ⟨_, rfl, .of_rounds count reached (.rejected move)⟩
  | barred move ends => exact absurd rfl (calm _)
  | shifted move going => exact ⟨_, rfl, .of_rounds count reached (.shifted move going)⟩
  | spoilt move going isSpoilt => exact absurd rfl (calm _)
  | raised move reduced => exact absurd rfl (calm _)
  | stranded move missing => exact absurd rfl (calm _)
  | finished move found ends =>
      exact ⟨_, rfl, .of_rounds count reached (.finished move found ends)⟩

/-- Whether no effect fails that a parse with the table may ask for. -/
structure Unfailing (table : Table σ) (effects : Effects (StateM w) σ ω ε) : Prop where
  shift : ∀ {before after : w} {failure : ε},
    effects.shift.run before ≠ (.error failure, after)
  reduce : ∀ {rule : Rule} {values : List ω} {before after : w} {failure : ε},
    table.HasRule rule → (effects.reduce rule values).run before ≠ (.error failure, after)

theorem Unfailing.not_spoils (unfailing : table.Unfailing effects) {fuel : Nat} {state : w} :
    ¬table.Spoils effects kind fuel stack state := by
  intro spoils
  induction spoils with
  | shift move failed => exact unfailing.shift failed
  | reduce move found reduced _ ih => exact ih

/-- Where no effect fails, no parse does. -/
theorem Unfailing.calm (unfailing : table.Unfailing effects) (stack : Stack σ ω)
    (closed : table.Closed starting) (derived : table.Derived starting tokens stack.states parts)
    (isEnd : ending.isSome → kind = Token.endKind) (fuel : Nat) (state : w) (failure : ε) :
    ((table.feed effects kind ending fuel stack).run state).1.1 ≠ .failed failure := by
  intro failed
  rcases feed_closes effects kind ending fuel stack state with
    ⟨count, met, reached, ⟨endless, _⟩ | ⟨_, closes⟩⟩
  · cases failed.symm.trans endless
  · rcases derived.rounds closed.toCoherent reached with ⟨parts', derived, _⟩
    rw [failed] at closes
    rcases closed.raises derived isEnd closes with spoils | ⟨_, _, _, _, hasRule, reduced⟩
    · exact unfailing.not_spoils spoils
    · exact unfailing.reduce hasRule reduced

theorem silently_unfailing (table : Table σ)
    (trace : List σ → Option (Action σ) → StateM w Unit) :
    table.Unfailing (silently trace) where
  shift := nofun
  reduce _ := nofun

/-- To try a terminal out on the states finds whether it is taken. -/
theorem takes_settles (closed : table.Closed starting)
    (derived : table.Derived starting tokens states parts)
    (isEnd : ending.isSome → kind = Token.endKind) (ends : ¬table.Diverges kind ending states)
    (trace : List σ → Option (Action σ) → StateM w Unit) (state : w) :
    ∃ taken after, ((table.takes trace ending states kind).run state).1 = .ok taken ∧
      table.Settles kind ending states taken after := by
  have calm := (table.silently_unfailing trace).calm ⟨states, []⟩ closed
    derived isEnd (table.reductionBound states.length) state
  rcases feed_settles (silently trace) ⟨states, []⟩ ends state calm with
    ⟨taken, found, settles⟩
  refine ⟨taken, _, ?_, settles⟩
  simp only [takes, StateT.run_bind]
  simp only [bind]
  revert found
  generalize (table.feed (silently trace) kind ending (table.reductionBound states.length)
    { states, values := [] }).run state = fed
  rcases fed with ⟨⟨outcome, stack⟩, later⟩
  intro found
  cases outcome with
  | shifted => cases found; rfl
  | finished => cases found; rfl
  | rejected => cases found; rfl
  | failed => cases found
  | endless => cases found

/-- The states that are left are the same for all effects. -/
theorem settled_eq (closed : table.Closed starting)
    (derived : table.Derived starting tokens states parts)
    (isEnd : ending.isSome → kind = Token.endKind) (ends : ¬table.Diverges kind ending states)
    (settles : table.Settles kind ending states taken after) :
    table.settled kind ending states = after := by
  have calm := (table.silently_unfailing fun _ _ => (pure () : StateM Unit Unit)).calm
    ⟨states, []⟩ closed derived isEnd (table.reductionBound states.length) ()
  rcases feed_settles
      (silently fun _ _ => (pure () : StateM Unit Unit)) ⟨states, []⟩ ends () calm with
    ⟨_, _, settles'⟩
  exact (settles'.unique settles).2

end Settling

end Table

/-- Whether nothing but the journal is changed by some work. -/
structure Work.Recording {α : Type} (work : Work α) : Prop where
  after : ∀ {before after answer}, work.Gives before answer after →
    after = { before with journal := after.journal }

namespace Work.Recording

variable {α β : Type}

theorem pure (value : α) : Work.Recording (Pure.pure value) := by
  constructor
  intro before after answer gives
  rcases gives_pure.mp gives with ⟨_, rfl⟩
  rfl

theorem record (level : Level) (channel : Channel) (message : Unit → String) :
    Work.Recording (Work.record level channel message) := by
  constructor
  intro before after answer gives
  cases gives
  rfl

theorem bind {work : Work α} {rest : α → Work β} (recording : work.Recording)
    (go : ∀ value, (rest value).Recording) : Work.Recording (work >>= rest) := by
  constructor
  intro before after answer gives
  rcases gives_bind.mp gives with ⟨value, between, first, gives⟩
  have last := (go value).after gives
  rw [recording.after first] at last
  exact last

/-- Feeding a token without building anything changes nothing but the journal. -/
theorem feed {trace : List σ → Option (Action σ) → Work Unit}
    (traces : ∀ states action, (trace states action).Recording) (kind : String)
    (ending : Option σ) (fuel : Nat) : ∀ stack : Stack σ Unit,
      Work.Recording (table.feed (Table.silently trace) kind ending fuel stack) := by
  induction fuel with
  | zero => exact fun stack => pure _
  | succ fuel ih =>
      intro stack
      unfold Table.feed
      cases table.move stack.states kind with
      | lost fault => exact pure _
      | rejected expected => exact bind (traces _ _) fun _ => pure _
      | shift target =>
          refine bind (traces _ _) fun _ => ?_
          dsimp only
          split
          · exact pure _
          · exact bind (pure _) fun answer => by cases answer <;> exact pure _
      | reduce rule =>
          refine bind (traces _ _) fun _ => bind (pure _) fun answer => ?_
          cases answer with
          | error failure => exact pure _
          | ok value =>
              dsimp only
              split
              · exact pure _
              · split
                · exact pure _
                · exact ih _

end Work.Recording

namespace Parser

variable {parser : Parser} {session : Session} {shifted : Nat}

/-- The state that a token of some kind may end a session in. -/
def endingFor (session : Session) (kind : String) : Option State :=
  if kind = Token.endKind then some session.ending else none

/-- Whether no callback fails while a token is fed to a session. -/
def Calm (parser : Parser) (session : Session) (token : Token) (workspace : Workspace) : Prop :=
  ∀ failure, ((parser.table.feed (parser.effects token) token.kind
    (endingFor session token.kind) (parser.table.reductionBound session.stack.states.length)
    session.stack).run workspace).1.1 ≠ .failed failure

theorem endingFor_isSome {kind : String} (isSome : (endingFor session kind).isSome) :
    kind = Token.endKind := by
  unfold endingFor at isSome
  split at isSome
  · assumption
  · cases isSome

theorem taken_recording (ending : State) (states : List State) (kinds : List String) :
    (parser.table.taken traceAction ending states kinds).Recording := by
  induction kinds with
  | nil => exact .pure _
  | cons kind kinds ih =>
      have takes (accepting : Option State) :
          (parser.table.takes (traceAction kind) accepting states kind).Recording := by
        refine .bind (.feed (fun _ _ => .record _ _ _) kind accepting _ _) fun fed => ?_
        cases fed.1 <;> exact .pure _
      refine .bind (takes _) fun answer => ?_
      cases answer with
      | error fault => exact .pure _
      | ok isTaken => exact .bind ih fun _ => .pure _

theorem accepted_recording (ending : State) (states : List State) :
    (parser.table.accepted traceAction ending states).Recording := by
  unfold Table.accepted
  split
  · exact .pure _
  · exact .bind (taken_recording ending states _) fun _ => .pure _

/-- To ask what would be accepted changes nothing but the journal. -/
theorem accepts_recording (standpoint : Standpoint) : (parser.accepts standpoint).Recording := by
  refine .bind (accepted_recording _ _) fun answer => ?_
  cases answer with
  | error fault => exact .pure _
  | ok kinds => exact .bind (.record ..) fun _ => .pure _

/-- Of some terminals those are found that the states take. -/
theorem exists_taken (arrives : parser.Arrives shifted session)
    (closed : parser.table.Closed session.starting)
    (ends : ∀ kind,
      ¬parser.table.Diverges kind (endingFor session kind) session.stack.states)
    (kinds : List String) : ∀ before : Workspace,
      ∃ found after,
        (parser.table.taken traceAction session.ending session.stack.states kinds).Gives
          before (.ok found) after ∧
        ∀ kind, kind ∈ found ↔ kind ∈ kinds ∧ ∃ left,
          parser.table.Settles kind (endingFor session kind) session.stack.states true left := by
  rcases arrives.derived closed.toCoherent with ⟨parts, derived⟩
  induction kinds with
  | nil => exact fun before => ⟨[], before, rfl, by simp⟩
  | cons kind kinds ih =>
      intro before
      rcases Table.takes_settles closed derived
          endingFor_isSome (ends kind) (traceAction kind) before with
        ⟨isTaken, left, tried, settles⟩
      rcases ih ((parser.table.takes (traceAction kind)
          (endingFor session kind) session.stack.states kind).run before).2 with
        ⟨found, after, gives, members⟩
      refine ⟨if isTaken then kind :: found else found, after, ?_, fun other => ?_⟩
      · unfold Table.taken
        refine Work.gives_bind.mpr ⟨.ok isTaken, _, Prod.ext tried rfl, ?_⟩
        exact Work.gives_bind.mpr ⟨_, _, gives, rfl⟩
      · have decides : isTaken = true ↔ ∃ left,
            parser.table.Settles kind (endingFor session kind) session.stack.states true left :=
          ⟨fun isTrue => ⟨left, isTrue ▸ settles⟩,
            fun ⟨_, settles'⟩ => (settles.unique settles').1⟩
        have listed : other ∈ (if isTaken then kind :: found else found) ↔
            (isTaken = true ∧ other = kind) ∨ other ∈ found := by
          cases isTaken <;> simp
        rw [listed, members other, List.mem_cons, decides]
        constructor
        · rintro (⟨takes, rfl⟩ | ⟨member, takes⟩)
          · exact ⟨.inl rfl, takes⟩
          · exact ⟨.inr member, takes⟩
        · rintro ⟨rfl | member, takes⟩
          · exact .inl ⟨takes, rfl⟩
          · exact .inr ⟨member, takes⟩

/-- A terminal that the states take has an entry in the row on top of them. -/
theorem mem_row_of_settles {kind : String} {ending : Option State} {states left : List State}
    (settles : parser.table.Settles kind ending states true left) {row : Row State}
    (top : parser.table.topRow states = .ok row) : kind ∈ row.map Prod.fst := by
  have entry : ∃ action, assoc? row kind = some action := by
    cases found : assoc? row kind with
    | some action => exact ⟨action, rfl⟩
    | none =>
        have move : parser.table.move states kind = .rejected (sortedSet (Table.expected row)) := by
          simp [Table.move, top, found]
        cases (settles.unique (.rejected move)).1
  rcases entry with ⟨action, found⟩
  exact List.mem_map.mpr ⟨_, mem_of_assoc? found, rfl⟩

/-- What a session accepts are the terminals that its states take. -/
theorem exists_accepted (arrives : parser.Arrives shifted session)
    (closed : parser.table.Closed session.starting)
    (ends : ∀ kind,
      ¬parser.table.Diverges kind (endingFor session kind) session.stack.states)
    (before : Workspace) :
    ∃ accepted after, (parser.accepts session.standpoint).Gives before (.ok accepted) after ∧
      after = { before with journal := after.journal } ∧
      ∀ kind, isTerminalName kind → (kind ∈ accepted ↔ ∃ left,
        parser.table.Settles kind (endingFor session kind) session.stack.states true left) := by
  rcases arrives.derived closed.toCoherent with ⟨parts, derived⟩
  have exists_row : ∃ row, parser.table.topRow session.stack.states = .ok row := by
    cases read : parser.table.topRow session.stack.states with
    | ok row => exact ⟨row, rfl⟩
    | error fault =>
        exact absurd (show parser.table.move session.stack.states "" = .lost fault by
          simp [Table.move, read]) (closed.move_ne_lost derived.path)
  rcases exists_row with ⟨row, top⟩
  rcases exists_taken arrives closed ends ((row.map Prod.fst).filter isTerminalName) before with
    ⟨found, after, gives, members⟩
  have tried : (parser.table.accepted traceAction session.ending session.stack.states).Gives before
      (.ok (sortedSet found)) after := by
    unfold Table.accepted
    rw [top]
    exact Work.gives_bind.mpr ⟨_, _, gives, rfl⟩
  have given : (parser.accepts session.standpoint).Gives before (.ok (sortedSet found)) _ :=
    Work.gives_bind.mpr ⟨_, _, tried, rfl⟩
  refine ⟨_, _, given, (accepts_recording _).after given, fun kind isTerminal => ?_⟩
  rw [mem_sortedSet, members kind, List.mem_filter]
  constructor
  · rintro ⟨_, takes⟩
    exact takes
  · rintro ⟨left, settles⟩
    exact ⟨⟨mem_row_of_settles settles top, isTerminal⟩, left, settles⟩

/-- What a token does to a session if no callback fails. -/
theorem feed_taken {token : Token} {before after : Workspace} {answer : Except Failure Value}
    {next : Session}
    (ends : ¬parser.table.Diverges token.kind (endingFor session token.kind) session.stack.states)
    (calm : parser.Calm session token before)
    (fed : (parser.feed session token).Gives before (answer, next) after) :
    ∃ taken, parser.table.Settles token.kind (endingFor session token.kind) session.stack.states
        taken next.stack.states ∧
      (taken = true ↔ ∀ stuck, answer ≠ .error (.stuckToken stuck)) := by
  rcases Table.feed_settles _ _ ends before calm with ⟨taken, found, settles⟩
  have ending : (if (token.kind == Token.endKind) = true then some session.ending else none) =
      endingFor session token.kind := by
    simp [endingFor]
  unfold feed feedAs at fed
  rw [ending] at fed
  simp only [Work.gives_bind] at fed
  rcases fed with ⟨⟨outcome, stack⟩, between, ran, fed⟩
  rw [ran] at found settles
  refine ⟨taken, ?_⟩
  cases outcome with
  | shifted =>
      rcases Work.gives_pure.mp fed with ⟨same, _⟩
      rcases Prod.mk.inj same with ⟨rfl, rfl⟩
      rcases Option.some.inj found with rfl
      exact ⟨settles, by simp⟩
  | finished value =>
      rcases Work.gives_pure.mp fed with ⟨same, _⟩
      rcases Prod.mk.inj same with ⟨rfl, rfl⟩
      rcases Option.some.inj found with rfl
      exact ⟨settles, by simp⟩
  | rejected expected =>
      rcases Work.gives_pure.mp fed with ⟨same, _⟩
      rcases Prod.mk.inj same with ⟨rfl, rfl⟩
      rcases Option.some.inj found with rfl
      exact ⟨settles, by simp [rejection]⟩
  | failed failure => cases found
  | endless => cases found

/-- A copy of a session has the same states, as long as there are any. -/
theorem copy_arrives (arrives : parser.Arrives shifted session)
    (nonempty : session.stack.states ≠ []) {deep : Bool} {copied : Session}
    {before after : Workspace} (copies : (session.copy deep).Gives before copied after) :
    parser.Arrives shifted copied ∧ copied.stack.states = session.stack.states ∧
      copied.ending = session.ending := by
  have states : (if session.stack.states.isEmpty then [session.starting]
      else session.stack.states) = session.stack.states := by
    simp [List.isEmpty_iff, nonempty]
  unfold Session.copy at copies
  have made : ∃ values, copied = { session with
      stack := { states := session.stack.states, values }, result := .nothing } := by
    cases deep with
    | false =>
        simp only [states, Bool.false_eq_true, if_false, Work.gives_bind, Work.gives_pure] at copies
        rcases copies with ⟨values, _, _, rfl, _⟩
        exact ⟨values, rfl⟩
    | true =>
        simp only [states, if_true, Work.gives_bind, Work.gives_pure] at copies
        rcases copies with ⟨values, _, _, rfl, _⟩
        exact ⟨values, rfl⟩
  rcases made with ⟨values, rfl⟩
  exact ⟨.aside arrives rfl rfl rfl, rfl, rfl⟩

/-- Where no callback ever fails, none does while a token is fed. -/
theorem calm_of_unfailing (arrives : parser.Arrives shifted session)
    (closed : parser.table.Closed session.starting) {token : Token}
    (unfailing : parser.table.Unfailing (parser.effects token)) (workspace : Workspace) :
    parser.Calm session token workspace := by
  rcases arrives.derived closed.toCoherent with ⟨parts, derived⟩
  exact unfailing.calm session.stack closed derived endingFor_isSome _ workspace

/-- With a closed table on which feeding a session ends, the terminals that the session accepts are
those that it does not reject when it is fed with them, be it frozen or not, as long as no callback
fails. To ask for them changes nothing but the journal. The states that a token leaves are those
that its kind leaves by itself. -/
theorem accepts_exact (arrives : parser.Arrives shifted session)
    (closed : parser.table.Closed session.starting)
    (ends : ∀ kind,
      ¬parser.table.Diverges kind (endingFor session kind) session.stack.states)
    (workspace : Workspace) :
    ∃ accepted after, (parser.accepts session.standpoint).Gives workspace (.ok accepted) after ∧
      after = { workspace with journal := after.journal } ∧
      (∀ {token : Token} {before after : Workspace} {answer : Except Failure Value}
          {next : Session}, parser.Calm session token before →
        (parser.feed session token).Gives before (answer, next) after →
          next.stack.states = parser.table.settled token.kind (endingFor session token.kind)
            session.stack.states ∧
          (isTerminalName token.kind →
            (token.kind ∈ accepted ↔ ∀ stuck, answer ≠ .error (.stuckToken stuck)))) ∧
      (∀ {token : Token} {before between after : Workspace} {copied : Session}
          {answer : Except Failure Session}, session.copy.Gives before copied between →
        parser.Calm copied token between →
        (parser.feedFrozen session token).Gives before answer after →
          (∀ next, answer = .ok next → next.stack.states = parser.table.settled token.kind
            (endingFor session token.kind) session.stack.states) ∧
          (isTerminalName token.kind →
            (token.kind ∈ accepted ↔ ∀ stuck, answer ≠ .error (.stuckToken stuck)))) := by
  rcases arrives.derived closed.toCoherent with ⟨parts, derived⟩
  rcases exists_accepted arrives closed ends workspace with
    ⟨accepted, after, gives, recorded, members⟩
  have settles {kind : String} {taken : Bool} {left : List State}
      (settles : parser.table.Settles kind (endingFor session kind)
        session.stack.states taken left) :
      left = parser.table.settled kind (endingFor session kind) session.stack.states ∧
        (isTerminalName kind → (kind ∈ accepted ↔ taken = true)) := by
    refine ⟨(Table.settled_eq closed derived endingFor_isSome (ends kind) settles).symm,
      fun isTerminal => (members kind isTerminal).trans
        ⟨fun ⟨_, settles'⟩ => (settles.unique settles').1, ?_⟩⟩
    rintro rfl
    exact ⟨left, settles⟩
  refine ⟨accepted, after, gives, recorded, ?_, ?_⟩
  · intro token before after answer next calm fed
    rcases feed_taken (ends token.kind) calm fed with ⟨taken, found, decides⟩
    rcases settles found with ⟨left, accepts⟩
    exact ⟨left, fun isTerminal => (accepts isTerminal).trans decides⟩
  · intro token before between after copied answer copies calm fed
    rcases derived.path.exists_top with ⟨top, below, nonempty⟩
    rcases copy_arrives arrives (by simp [nonempty]) copies with ⟨_, states, ending⟩
    unfold feedFrozen at fed
    rcases Work.gives_bind.mp fed with ⟨copied', _, copies', fed⟩
    rcases copies.unique copies' with ⟨rfl, rfl⟩
    rcases Work.gives_bind.mp fed with ⟨⟨result, next⟩, _, given, fed⟩
    have same : endingFor copied token.kind = endingFor session token.kind := by
      simp [endingFor, ending]
    rcases feed_taken (by rw [same, states]; exact ends _) calm given with
      ⟨taken, found, decides⟩
    rw [same, states] at found
    rcases settles found with ⟨left, accepts⟩
    cases result with
    | ok value =>
        rcases Work.gives_pure.mp fed with ⟨rfl, _⟩
        refine ⟨fun fed same => ?_, fun isTerminal => ?_⟩
        · rcases Except.ok.inj same with rfl
          exact left
        · exact (accepts isTerminal).trans (iff_of_true (decides.mpr (by simp)) (by simp))
    | error failure =>
        rcases Work.gives_pure.mp fed with ⟨rfl, _⟩
        refine ⟨by simp, fun isTerminal => ((accepts isTerminal).trans decides).trans ?_⟩
        simp only [ne_eq, Except.error.injEq]

section Letters

theorem letterTable_closed : letterTable.Closed (.number 0) := by
  have proper : letterTable.Proper "start" (.number 0) (.number 3) :=
    Table.proper_of_isProper (by decide)
  exact { proper.toCoherent with
    start_row := by decide
    target_row := proper.target_row
    not_moves_end := proper.not_moves_end }

theorem letterParser_unfailing (token : Token) :
    letterTable.Unfailing (letterParser.effects token) where
  shift := nofun
  reduce hasRule failed := by
    have found := letterParser_growsAll.reduction hasRule
    simp only [Parser.effects, Reductions.reduce, found] at failed
    cases failed

theorem accepts_exact_letter :
    ∃ accepted after, (letterParser.accepts letterSession.standpoint).Gives {} (.ok accepted)
      after ∧ Token.endKind ∈ accepted := by
  have ends (kind : String) :
      ¬letterTable.Diverges kind (endingFor letterSession kind) letterSession.stack.states := by
    rcases letterParser_arrives.derived letterTable_closed.toCoherent with ⟨parts, derived⟩
    intro endless
    have few := derived.count_le letterTable_closed.toCoherent
      (fun _ steps => Nat.lt_irrefl _ (letterTable_lighter steps))
      (fun _ steps => Int.lt_irrefl _ (letterTable_rises steps))
      (endless (letterTable.parseBound 1 + 1))
    exact Nat.not_succ_le_self _ few
  rcases accepts_exact letterParser_arrives letterTable_closed ends {} with
    ⟨accepted, after, gives, _, exact, _⟩
  have fed := Work.gives (letterParser.feed letterSession (Token.endOfInput none)) {}
  have calm := calm_of_unfailing letterParser_arrives letterTable_closed
    (letterParser_unfailing (Token.endOfInput none)) {}
  have answer : ((letterParser.feed letterSession (Token.endOfInput none)).run {}).1.1 =
    .ok (.node ⟨1⟩) := rfl
  refine ⟨accepted, after, gives, ((exact calm fed).2 (by decide)).mpr fun stuck failed => ?_⟩
  cases answer.symm.trans failed

end Letters

end Parser

end Lalr
