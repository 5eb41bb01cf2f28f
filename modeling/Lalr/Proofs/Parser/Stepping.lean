import Lalr.Proofs.Parser.Running

/-!
# Stepping through a parse

Taking the tokens of a session one by one feeds the same tokens as running it does.
A run may therefore be left between any two tokens and finished in another way: it
reports the same in the end.
-/

namespace Lalr.Parser

variable {parser : Parser} {session met next final : Session}
  {before between middle after : Workspace} {token : Token}

theorem takeTokens_succ (plain : parser.source.postLexer = none) (count : Nat)
    (stream : TokenStream) (session : Session) :
    parser.takeTokens (count + 1) stream session =
      parser.fetch session >>= fun (found, met) =>
        match found with
        | .error failure => return (.error failure, met)
        | .ok none => return (.ok [], met)
        | .ok (some token) =>
          match count with
          | 0 => return (.ok [(token, met.stack.states.length)], met)
          | _ + 1 => (do
            match ← parser.step met token with
            | (.error failure, next) => return (.error failure, next)
            | (.ok (), next) =>
              let (rest, final) ← parser.takeTokens count stream next
              return (rest.map ((token, met.stack.states.length) :: ·), final)) := by
  rw [takeTokens, pull_eq plain, map_eq_pure_bind, bind_assoc]
  congr
  funext (found, met)
  rcases found with failure | _ | token
  · rfl
  · rfl
  · cases count <;> rfl

theorem step_gives {value : Value} (unfrozen : session.frozen = false)
    (inside : token.kind ≠ Token.endKind)
    (fed : (parser.feedAs false session token).Gives before (.ok value, next) after) :
    (parser.step session token).Gives before (.ok (), { next with result := value }) after := by
  unfold step
  rw [unfrozen, feed_eq session inside]
  exact Work.gives_bind.mpr ⟨_, _, fed, Work.gives_pure.mpr ⟨rfl, rfl⟩⟩

theorem step_gives_error {failure : Failure} (unfrozen : session.frozen = false)
    (inside : token.kind ≠ Token.endKind)
    (fed : (parser.feedAs false session token).Gives before (.error failure, next) after) :
    (parser.step session token).Gives before (.error failure, next) after := by
  unfold step
  rw [unfrozen, feed_eq session inside]
  exact Work.gives_bind.mpr ⟨_, _, fed, Work.gives_pure.mpr ⟨rfl, rfl⟩⟩

/-- Runs do not depend on the result that a session remembers. -/
theorem Runs.result {steps : Nat} {tokens : List Token} {raw : Except Failure Value}
    (runs : parser.Runs steps session before tokens raw after) (result : Value) :
    parser.Runs steps { session with result } before tokens raw after := by
  induction runs with
  | unread fetched => exact .unread (fetch_result fetched result)
  | refused fetched fed => exact .refused (fetch_result fetched result) (feedAs_result fed result)
  | fed fetched fed _ ih => exact .fed (fetch_result fetched result) (feedAs_result fed result) ih
  | finished fetched ended =>
      exact .finished (fetch_result fetched result) (feedAs_result ended result)

/-- Taking a token that a run takes, and then some more, is to feed it and then to take the
others. -/
theorem takeTokens_of_fed (plain : parser.source.postLexer = none) {value : Value}
    {stream : TokenStream} {count : Nat} {taken : Except Failure (List (Token × Nat))}
    (unfrozen : session.frozen = false) (inside : token.kind ≠ Token.endKind)
    (fetched : (parser.fetch session).Gives before (.ok (some token), met) between)
    (fed : (parser.feedAs false met token).Gives between (.ok value, next) middle)
    (rest : (parser.takeTokens (count + 1) stream { next with result := value }).Gives middle
      (taken, final) after) :
    (parser.takeTokens (count + 2) stream session).Gives before
      (taken.map ((token, met.stack.states.length) :: ·), final) after := by
  have unfrozen : met.frozen = false := (fetch_continues fetched).frozen.trans unfrozen
  rw [takeTokens_succ plain]
  refine Work.gives_bind.mpr ⟨_, _, fetched, ?_⟩
  refine Work.gives_bind.mpr ⟨_, _, step_gives unfrozen inside fed, ?_⟩
  exact Work.gives_bind.mpr ⟨_, _, rest, Work.gives_pure.mpr ⟨rfl, rfl⟩⟩

/-- Taking more tokens than a run has steps feeds them all, until something is wrong or the input is
to be ended. -/
theorem takeTokens_runs (plain : parser.source.postLexer = none) {stream : TokenStream}
    {raw : Except Failure Value} {count : Nat} :
    ∀ {steps : Nat} {session : Session} {before : Workspace} {tokens : List Token},
      parser.Runs steps session before tokens raw after → steps < count →
        session.frozen = false →
      (∀ token ∈ tokens, token.kind ≠ Token.endKind) →
      (∃ failure stopped, raw = .error failure ∧
        (parser.takeTokens count stream session).Gives before (.error failure, stopped) after) ∨
      ∃ taken met between final,
        (parser.takeTokens count stream session).Gives before (.ok taken, met) between ∧
        (parser.feedAs true met (endToken met none)).Gives between (raw, final) after := by
  induction count with
  | zero => exact fun _ enough => absurd enough (Nat.not_lt_zero _)
  | succ count ih =>
      intro steps session before tokens runs enough unfrozen inside
      cases runs with
      | @unread _ met _ _ failure fetched =>
          left
          refine ⟨failure, met, rfl, ?_⟩
          rw [takeTokens_succ plain]
          exact Work.gives_bind.mpr ⟨_, _, fetched, Work.gives_pure.mpr ⟨rfl, rfl⟩⟩
      | @refused _ met stopped _ _ _ token failure fetched fed =>
          left
          rcases Nat.exists_eq_add_of_le' (Nat.le_of_lt_succ enough) with ⟨count, rfl⟩
          have unfrozen : met.frozen = false := (fetch_continues fetched).frozen.trans unfrozen
          refine ⟨failure, stopped, rfl, ?_⟩
          rw [takeTokens_succ plain]
          refine Work.gives_bind.mpr ⟨_, _, fetched, ?_⟩
          refine Work.gives_bind.mpr ⟨_, _,
            step_gives_error unfrozen (inside _ (by simp)) fed, ?_⟩
          exact Work.gives_pure.mpr ⟨rfl, rfl⟩
      | @fed steps _ met next _ _ middle _ token value tokens _ fetched fed rest =>
          rcases Nat.exists_eq_add_of_lt (Nat.lt_of_succ_lt_succ enough) with ⟨count, rfl⟩
          have unfrozen' : next.frozen = false :=
            ((fetch_continues fetched).trans (feedAs_continues fed)).frozen.trans unfrozen
          have take {taken final after} (took : (parser.takeTokens (steps + count + 1) stream
              { next with result := value }).Gives middle (taken, final) after) :=
            takeTokens_of_fed plain unfrozen (inside _ (by simp)) fetched fed took
          rcases ih (rest.result value) (by omega) unfrozen' fun token among =>
              inside token (by simp [among]) with
            ⟨failure, stopped, failed, taking⟩ | ⟨taken, met, between, final, taking, ended⟩
          · exact .inl ⟨failure, stopped, failed, take taking⟩
          · exact .inr ⟨_, met, between, final, take taking, ended⟩
      | @finished _ met final _ between _ _ fetched ended =>
          right
          refine ⟨[], met, between, final, ?_, ended⟩
          rw [takeTokens_succ plain]
          exact Work.gives_bind.mpr ⟨_, _, fetched, Work.gives_pure.mpr ⟨rfl, rfl⟩⟩

/-- Takes up to `count` tokens from the text of a session. Each is fed when the next one is asked
for, and the last is fed by hand if there were so many. -/
def advance (parser : Parser) (count : Nat) (session : Session) :
    Work (Except Failure Unit × Session) := do
  match ← parser.takeTokens count {} session with
  | (.error failure, session) => return (.error failure, session)
  | (.ok taken, session) =>
    match if taken.length = count then taken.getLast? else none with
    | none => return (.ok (), session)
    | some (token, _) =>
      let (answer, session) ← parser.feed session token
      return (answer.map fun _ => (), session)

/-- The ways to finish a parse that has been left on the way: feeding the rest of the text and then
a token that ends the input, and running it to its end. -/
inductive Finish where
  | exhausting
  | resuming
  deriving DecidableEq, Repr

/-- Finishes a parse. -/
def finish (parser : Parser) (way : Finish) (session : Session) : Work (Except Failure Value) :=
  match way with
  | .exhausting => do
    match ← parser.exhaust session with
    | (.error failure, _) => return .error failure
    | (.ok _, session) => return (← parser.feed session (endToken session none)).1
  | .resuming => return (← parser.resume session).1

theorem advance_zero (session : Session) : parser.advance 0 session = pure (.ok (), session) := rfl

/-- Going on by more tokens than one is to feed the first and to go on from there. -/
theorem advance_of_fed (plain : parser.source.postLexer = none) {value : Value} {count : Nat}
    {answer : Except Failure Unit} (unfrozen : session.frozen = false)
    (inside : token.kind ≠ Token.endKind)
    (fetched : (parser.fetch session).Gives before (.ok (some token), met) between)
    (fed : (parser.feedAs false met token).Gives between (.ok value, next) middle)
    (rest : (parser.advance (count + 1) { next with result := value }).Gives middle
      (answer, final) after) :
    (parser.advance (count + 2) session).Gives before (answer, final) after := by
  unfold advance at rest ⊢
  rcases Work.gives_bind.mp rest with ⟨⟨taken, left⟩, between', taking, rest⟩
  have taking := takeTokens_of_fed plain unfrozen inside fetched fed taking
  refine Work.gives_bind.mpr ⟨_, _, taking, ?_⟩
  cases taken with
  | error failure => exact rest
  | ok taken =>
      have same : (if ((token, met.stack.states.length) :: taken).length = count + 2
            then ((token, met.stack.states.length) :: taken).getLast? else none) =
          if taken.length = count + 1 then taken.getLast? else none := by
        cases taken with
        | nil => simp
        | cons head tail => simp [List.getLast?_cons_cons]
      simp only [Except.map, same]
      exact rest

/-- A run that is left after some of its tokens can go on from there: what remains of it comes to
the same. -/
theorem advance_runs (plain : parser.source.postLexer = none) {raw : Except Failure Value}
    {count : Nat} :
    ∀ {steps : Nat} {session : Session} {before : Workspace} {tokens : List Token},
      parser.Runs steps session before tokens raw after → session.frozen = false →
      (∀ token ∈ tokens, token.kind ≠ Token.endKind) →
      (∃ failure stopped, raw = .error failure ∧
        (parser.advance count session).Gives before (.error failure, stopped) after) ∨
      ∃ next middle steps' tokens',
        (parser.advance count session).Gives before (.ok (), next) middle ∧
        session.Continues next ∧ steps' ≤ steps ∧ tokens' ⊆ tokens ∧
        parser.Runs steps' next middle tokens' raw after := by
  induction count with
  | zero =>
      intro steps session before tokens runs unfrozen inside
      right
      refine ⟨session, before, steps, tokens, ?_, .refl session, Nat.le_refl _,
        List.Subset.refl _, runs⟩
      rw [advance_zero]
      exact Work.gives_pure.mpr ⟨rfl, rfl⟩
  | succ count ih =>
      intro steps session before tokens runs unfrozen inside
      cases runs with
      | @unread _ met _ _ failure fetched =>
          left
          refine ⟨failure, met, rfl, ?_⟩
          unfold advance
          rw [takeTokens_succ plain, bind_assoc]
          refine Work.gives_bind.mpr ⟨_, _, fetched, ?_⟩
          exact Work.gives_pure.mpr ⟨rfl, rfl⟩
      | @finished _ met final _ between _ _ fetched ended =>
          right
          refine ⟨met, between, 1, [], ?_, fetch_continues fetched, Nat.le_refl _,
            List.Subset.refl _, ?_⟩
          · unfold advance
            rw [takeTokens_succ plain, bind_assoc]
            refine Work.gives_bind.mpr ⟨_, _, fetched, ?_⟩
            exact Work.gives_pure.mpr ⟨rfl, rfl⟩
          · refine .finished ?_ ended
            rw [fetch_again fetched]
            exact Work.gives_pure.mpr ⟨rfl, rfl⟩
      | @refused _ met stopped _ _ _ token failure fetched fed =>
          left
          have unfrozen : met.frozen = false := (fetch_continues fetched).frozen.trans unfrozen
          have inside : token.kind ≠ Token.endKind := inside _ (by simp)
          refine ⟨failure, stopped, rfl, ?_⟩
          unfold advance
          rw [takeTokens_succ plain, bind_assoc]
          refine Work.gives_bind.mpr ⟨_, _, fetched, ?_⟩
          cases count with
          | zero =>
              dsimp only
              rw [pure_bind]
              refine Work.gives_bind.mpr
                ⟨(.error failure, stopped), after, ?_, Work.gives_pure.mpr ⟨rfl, rfl⟩⟩
              rw [feed_eq met inside]
              exact fed
          | succ count =>
              dsimp only
              rw [bind_assoc]
              refine Work.gives_bind.mpr ⟨_, _, step_gives_error unfrozen inside fed, ?_⟩
              exact Work.gives_pure.mpr ⟨rfl, rfl⟩
      | @fed steps _ met next _ between middle _ token value tokens _ fetched fed rest =>
          have unfrozen' : next.frozen = false :=
            ((fetch_continues fetched).trans (feedAs_continues fed)).frozen.trans unfrozen
          have here : token.kind ≠ Token.endKind := inside _ (by simp)
          have continues : session.Continues next :=
            (fetch_continues fetched).trans (feedAs_continues fed)
          cases count with
          | zero =>
              right
              refine ⟨next, middle, steps, tokens, ?_, continues, by omega, by simp, rest⟩
              unfold advance
              rw [takeTokens_succ plain, bind_assoc]
              refine Work.gives_bind.mpr ⟨_, _, fetched, ?_⟩
              dsimp only
              rw [pure_bind]
              refine Work.gives_bind.mpr ⟨(.ok value, next), middle, ?_,
                Work.gives_pure.mpr ⟨rfl, rfl⟩⟩
              rw [feed_eq met here]
              exact fed
          | succ count =>
              have go {answer final after} (went : (parser.advance (count + 1)
                  { next with result := value }).Gives middle (answer, final) after) :=
                advance_of_fed plain unfrozen here fetched fed went
              rcases ih (rest.result value) unfrozen' fun token among =>
                  inside token (by simp [among]) with
                ⟨failure, stopped, failed, went⟩ |
                  ⟨final, last, steps', tokens', went, onward, fewer, among, runs⟩
              · exact .inl ⟨failure, stopped, failed, go went⟩
              · refine .inr ⟨final, last, steps', tokens', go went, ?_, by omega, ?_, runs⟩
                · exact continues.trans ⟨onward.frozen, onward.text⟩
                · exact fun _ member => List.mem_cons_of_mem _ (among member)

/-- A run can be finished in either way. -/
theorem finish_runs (plain : parser.source.postLexer = none)
    {raw : Except Failure Value} {steps : Nat} {tokens : List Token}
    (runs : parser.Runs steps session before tokens raw middle)
    (bounded : steps ≤ tokenBound session + 1) (unfrozen : session.frozen = false)
    (hasText : session.cursor.isSome) (inside : ∀ token ∈ tokens, token.kind ≠ Token.endKind)
    (way : Finish) {answer : Except Failure Value}
    (gives : (parser.finish way session).Gives before answer after) :
    Reports raw middle answer after := by
  cases way with
  | exhausting =>
      simp only [finish, exhaust, bind_assoc, pure_bind] at gives
      rcases takeTokens_runs plain runs (Nat.lt_succ_of_le bounded) unfrozen inside with
        ⟨failure, stopped, rfl, taking⟩ | ⟨taken, met, between, final, taking, ended⟩
      · rcases Work.gives_bind.mp gives with ⟨⟨answer', stopped'⟩, _, taking', gives⟩
        rcases taking.unique taking' with ⟨same, rfl⟩
        cases same
        rcases Work.gives_pure.mp gives with ⟨rfl, rfl⟩
        exact .refl ..
      · rcases Work.gives_bind.mp gives with ⟨⟨answer', stopped'⟩, _, taking', gives⟩
        rcases taking.unique taking' with ⟨same, rfl⟩
        cases same
        rcases Work.gives_bind.mp gives with ⟨⟨answer', final'⟩, _, ended', gives⟩
        rcases Work.gives_pure.mp gives with ⟨rfl, rfl⟩
        rw [feed_endToken] at ended'
        rcases ended.unique ended' with ⟨same, rfl⟩
        cases same
        exact .refl ..
  | resuming =>
      rcases Option.isSome_iff_exists.mp hasText with ⟨cursor, here⟩
      have last : cursor.last = session.last? := by simp [Session.last?, here]
      simp only [finish, resume, here, run, last] at gives
      rcases Work.gives_bind.mp gives with ⟨⟨answer', final'⟩, _, ran, gives⟩
      rcases Work.gives_pure.mp gives with ⟨rfl, rfl⟩
      exact runWithin_reports plain runs bounded ran

/-- Whether some tokens are those that a parse takes from its text. -/
def Takes (parser : Parser) (text : String) (start : Option String) (before : Workspace)
    (tokens : List Token) : Prop :=
  ∃ session steps answer after, parser.start (some text) start = .ok session ∧
    parser.Runs steps session before tokens answer after

/-- The tokens that a run takes from its text, if it ends within `fuel` steps. -/
def takenWithin (parser : Parser) : Nat → Session → Workspace → Option (List Token)
  | 0, _, _ => none
  | fuel + 1, session, before =>
    match StateT.run (m := Id) (parser.fetch session) before with
    | ((.error _, _), _) => some []
    | ((.ok none, _), _) => some []
    | ((.ok (some token), met), between) =>
      match StateT.run (m := Id) (parser.feedAs false met token) between with
      | ((.error _, _), _) => some [token]
      | ((.ok _, next), middle) => (parser.takenWithin fuel next middle).map (token :: ·)

theorem taken_of_runs {steps : Nat} {tokens : List Token} {raw : Except Failure Value}
    (runs : parser.Runs steps session before tokens raw after) :
    ∀ {fuel : Nat} {taken : List Token}, parser.takenWithin fuel session before = some taken →
      taken = tokens := by
  induction runs with
  | unread fetched =>
      intro fuel taken found
      cases fuel with
      | zero => cases found
      | succ fuel =>
          unfold Work.Gives at fetched
          simpa [takenWithin, fetched, eq_comm] using found
  | refused fetched fed =>
      intro fuel taken found
      cases fuel with
      | zero => cases found
      | succ fuel =>
          unfold Work.Gives at fetched fed
          simpa [takenWithin, fetched, fed, eq_comm] using found
  | fed fetched fed _ ih =>
      intro fuel taken found
      cases fuel with
      | zero => cases found
      | succ fuel =>
          unfold Work.Gives at fetched fed
          simp only [takenWithin, fetched, fed, Option.map_eq_some_iff] at found
          rcases found with ⟨rest, found, rfl⟩
          rw [ih found]
  | finished fetched ended =>
      intro fuel taken found
      cases fuel with
      | zero => cases found
      | succ fuel =>
          unfold Work.Gives at fetched
          simpa [takenWithin, fetched, eq_comm] using found

/-- A text of which a parse takes no token that ends the input, as going through the parse shows. -/
theorem inside_of_takenWithin {text : String} {symbol : Option String} {fuel : Nat}
    {tokens : List Token} (started : parser.start (some text) symbol = .ok session)
    (taken : parser.takenWithin fuel session before = some tokens)
    (inside : ∀ token ∈ tokens, token.kind ≠ Token.endKind) :
    ∀ tokens, parser.Takes text symbol before tokens →
      ∀ token ∈ tokens, token.kind ≠ Token.endKind := by
  rintro tokens' ⟨session', steps, answer, after, started', runs⟩
  cases started.symm.trans started'
  rw [← taken_of_runs runs taken]
  exact inside

/-- Parses a text and leaves the parse on the way, after `count` tokens, to finish it in some
way. -/
def parseStepwise (parser : Parser) (count : Nat) (way : Finish) (text : String)
    (start : Option String) : Run Value := do
  let session ← Run.lift (parser.start (some text) start)
  let (answer, session) ← parser.advance count session
  Run.lift answer
  ExceptT.mk (parser.finish way session)

theorem start_eq_ok {text symbol : Option String}
    (started : parser.start text symbol = .ok session) :
    session.cursor = text.map Cursor.ofText ∧ session.frozen = false := by
  unfold start at started
  rcases bind_eq_ok.mp started with ⟨name, _, started⟩
  split at started
  next =>
    cases started
    exact ⟨rfl, rfl⟩
  next => cases started

/-- A new session has no values yet. -/
theorem values_of_start {text symbol : Option String}
    (started : parser.start text symbol = .ok session) : session.stack.values = [] := by
  unfold start at started
  rcases bind_eq_ok.mp started with ⟨name, _, started⟩
  split at started
  next =>
    cases started
    rfl
  next => cases started

theorem parse_run {text : String} {symbol : Option String}
    (started : parser.start (some text) symbol = .ok session) :
    (parser.parse text symbol).run = (·.1) <$> parser.run session.last? session := by
  have last : session.last? = none := by
    simp [Session.last?, (start_eq_ok started).1, Cursor.ofText]
  have lifted : (Run.lift (.ok session) : Run Session) = pure session := rfl
  simp only [parse, started, lifted, pure_bind, last, Run.run_work_bind, Run.run_lift]
  rfl

/-- A parse that does not give up follows a run. -/
theorem parse_runs (plain : parser.source.postLexer = none) {text : String} {symbol : Option String}
    (started : parser.start (some text) symbol = .ok session) {answer : Except Failure Value}
    (parsed : (parser.parse text symbol).run.Gives before answer after)
    (goesOn : answer ≠ .error (.fault .brokenPromise)) :
    ∃ steps tokens raw middle, steps ≤ tokenBound session + 1 ∧
      parser.Runs steps session before tokens raw middle ∧ Reports raw middle answer after := by
  rw [parse_run started] at parsed
  rcases Work.gives_map.mp parsed with ⟨⟨_, final⟩, ran, rfl⟩
  exact runWithin_runs plain ran goesOn

/-- A run that comes to a value is a parse that does. -/
theorem parse_of_runs (plain : parser.source.postLexer = none) {text : String}
    {symbol : Option String} (started : parser.start (some text) symbol = .ok session) {steps : Nat}
    {tokens : List Token} {value : Value}
    (runs : parser.Runs steps session before tokens (.ok value) after)
    (enough : steps ≤ tokenBound session + 1) :
    (parser.parse text symbol).Yields before value after := by
  rcases ran : StateT.run (m := Id) (parser.run session.last? session) before with
    ⟨⟨answer, final⟩, left⟩
  have reports := runWithin_reports plain runs enough ran
  cases answer with
  | error failure => exact reports.elim
  | ok found =>
      rcases reports with ⟨rfl, rfl⟩
      show (parser.parse text symbol).run.Gives before (.ok value) after
      rw [parse_run started]
      exact Work.gives_map.mpr ⟨_, ran, rfl⟩

theorem parseStepwise_run {count : Nat} {way : Finish} {text : String} {symbol : Option String}
    (started : parser.start (some text) symbol = .ok session) :
    (parser.parseStepwise count way text symbol).run =
      parser.advance count session >>= fun (answer, next) =>
        match answer with
        | .error failure => return .error failure
        | .ok () => parser.finish way next := by
  have lifted : (Run.lift (.ok session) : Run Session) = pure session := rfl
  simp only [parseStepwise, started, lifted, pure_bind, Run.run_work_bind]
  congr
  funext (answer, next)
  cases answer <;> rfl

/-- A parse that is left on the way and finished reports what the parse itself reports. -/
theorem parseStepwise_reports (plain : parser.source.postLexer = none) {text : String}
    {start : Option String} {count : Nat} {way : Finish} {answer answer' : Except Failure Value}
    {after' : Workspace}
    (inside : ∀ tokens, parser.Takes text start before tokens →
      ∀ token ∈ tokens, token.kind ≠ Token.endKind)
    (goesOn : answer ≠ .error (.fault .brokenPromise))
    (parsed : (parser.parse text start).run.Gives before answer after)
    (stepped : (parser.parseStepwise count way text start).run.Gives before answer' after') :
    Reports answer after answer' after' := by
  cases started : parser.start (some text) start with
  | error failure =>
      simp only [parse, parseStepwise, started] at parsed stepped
      rcases Work.gives_pure.mp parsed with ⟨rfl, rfl⟩
      rcases Work.gives_pure.mp stepped with ⟨rfl, rfl⟩
      exact .refl ..
  | ok session =>
      rcases start_eq_ok started with ⟨hasCursor, unfrozen⟩
      have hasText : session.cursor.isSome := by simp [hasCursor]
      rcases parse_runs plain started parsed goesOn with
        ⟨steps, tokens, raw, middle, bounded, runs, reports⟩
      rw [parseStepwise_run started] at stepped
      have inside := inside tokens ⟨session, steps, raw, middle, started, runs⟩
      have reports' : Reports raw middle answer' after' := by
        rcases Work.gives_bind.mp stepped with ⟨⟨answer'', reached⟩, _, advanced, stepped⟩
        rcases advance_runs plain runs unfrozen inside with
          ⟨failure, stopped, rfl, went⟩ | ⟨next, middle', steps', tokens', went, onward,
            fewer, among, runs⟩
        · rcases advanced.unique went with ⟨same, rfl⟩
          cases same
          rcases Work.gives_pure.mp stepped with ⟨rfl, rfl⟩
          exact .refl ..
        · rcases went.unique advanced with ⟨same, rfl⟩
          cases same
          have bounded : steps' ≤ tokenBound reached + 1 := by
            rw [onward.tokenBound]
            omega
          exact finish_runs plain runs bounded (onward.frozen.trans unfrozen)
            (onward.cursor hasText) (fun token member => inside token (among member)) way stepped
      exact reports.together reports'

end Lalr.Parser
