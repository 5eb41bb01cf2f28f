import Lalr.Proofs.Parser.Deeds
import Lalr.Proofs.Parser.Stepping
import Lalr.Proofs.Shaping.Parses

/-!
# Sessions do not interfere

Whatever is done to a frozen session and to the sessions that have been got from it, it
goes on as if nothing had been done, and so does a session that changes, whatever is
done to its copies. This holds of the labels and the children of trees, and of
failures. It holds of positions as well unless trees get them and a rule may pass on a
tree that has its position already: a copy shares its positions with the original.
-/

namespace Lalr

namespace ValueLikeness

/-- Tokens are to be the same, and so are positions if they count. -/
def exact (positions : Bool) : ValueLikeness := ⟨Eq, positions⟩

end ValueLikeness

/-- A turn in which one session is followed among others: it is fed, or something is done to one of
them. -/
inductive Turn where
  | onward (feed : Feed)
  | aside (index : Nat) (deed : Deed)

/-- Whether the session is fed that is followed. -/
def Turn.isOnward : Turn → Bool
  | .onward _ => true
  | .aside _ _ => false

namespace Parser

/-- Does something to several sessions one after another. -/
def actAll (parser : Parser) : List (Nat × Deed) → List Session → Work (List Session)
  | [], sessions => return sessions
  | (index, deed) :: deeds, sessions => do
    parser.actAll deeds (← parser.actAt index deed sessions)

/-- Follows the session that is the `here`-th one of several. What comes out is what it answers when
it is fed, as it reads where positions count or not. Where a frozen session is fed, the session that
has been got from it is followed. -/
def follow (parser : Parser) (positions : Bool) :
    List Turn → Nat → List Session → Work (List (Except Failure Data))
  | [], _, _ => return []
  | .aside index deed :: turns, here, sessions => do
    parser.follow positions turns here (← parser.actAt index deed sessions)
  | .onward feed :: turns, here, sessions => do
    match sessions[here]? with
    | none => return []
    | some session =>
      let (answer, next, obtained) ← parser.act (.feed feed) session
      let reading ← Work.look fun forest => answer.map (forest.seen positions).document
      let rest ← parser.follow positions turns
        (if obtained.isSome then sessions.length else here)
        (sessions.set here next ++ obtained.toList)
      return reading :: rest

end Parser

/-- The values of several sessions. -/
def stacksOf (sessions : List Session) : List (List Value) :=
  sessions.map fun session => session.stack.values

section Places

variable {sessions : List Session} {here index : Nat} {session : Session}

theorem stacksOf_get (found : sessions[index]? = some session) :
    (stacksOf sessions)[index]? = some session.stack.values := by
  simp [stacksOf, found]

theorem stacksOf_set (sessions : List Session) (index : Nat) (session : Session) :
    stacksOf (sessions.set index session) = (stacksOf sessions).set index session.stack.values :=
  List.map_set

theorem stacksOf_append (sessions : List Session) (session : Session) :
    stacksOf (sessions ++ [session]) = stacksOf sessions ++ [session.stack.values] :=
  List.map_append

theorem lt_of_get (found : sessions[index]? = some session) :
    index < (stacksOf sessions).length := by
  rw [stacksOf, List.length_map]
  exact (List.getElem?_eq_some_iff.mp found).1

theorem set_get (found : sessions[index]? = some session) :
    sessions.set index session = sessions := by
  rcases List.getElem?_eq_some_iff.mp found with ⟨_, rfl⟩
  exact List.set_getElem_self _

/-- The session that is followed is found where it is looked for. -/
theorem placed_get (found : sessions[here]? = some session) (next : Session)
    (obtained : Option Session) :
    (sessions.set here next ++ obtained.toList)[if obtained.isSome then
      sessions.length else here]? =
      some (obtained.getD next) := by
  rcases List.getElem?_eq_some_iff.mp found with ⟨within, _⟩
  cases obtained with
  | none => simp [List.getElem?_set_self within]
  | some other => simp

end Places

namespace Parser

variable {parser : Parser} {growth : Growth} {rules : List Rule} {likeness : ValueLikeness}
  {before after : Workspace} {sessions next : List Session} {own : Nat → List SequenceId}

/-- Sessions that own their values go on owning them, whatever is done to one of them. All the
others are left alone, and so is this one if it is frozen. -/
theorem actAt_apart (builds : parser.reductions.Builds growth rules)
    (settle : Reductions.Settle likeness growth rules)
    (tokens : ∀ token, likeness.token token token) (sparing : parser.source.Sparing)
    (apart : likeness.Apart before.forest (stacksOf sessions) own) {index : Nat} {deed : Deed}
    (gives : (parser.actAt index deed sessions).Gives before next after) :
    ∃ own', likeness.Apart after.forest (stacksOf next) own' ∧
      ∀ {here session}, sessions[here]? = some session →
        (session.frozen = false → index ≠ here) →
          next[here]? = some session ∧ own' here = own here ∧
          ∃ changed, before.forest.Preserves likeness.spans after.forest changed ∧
            (own here).Disjoint changed := by
  unfold actAt at gives
  split at gives
  next =>
    rcases Work.gives_pure.mp gives with ⟨rfl, rfl⟩
    exact ⟨own, apart, fun found _ => ⟨found, rfl, [], .refl _ _, by simp⟩⟩
  next other there =>
    rcases Work.gives_bind.mp gives with ⟨⟨answer, changed, obtained⟩, later, acts, gives⟩
    rcases Work.gives_pure.mp gives with ⟨rfl, rfl⟩
    have within := lt_of_get there
    have acted := act_owned builds settle tokens sparing (apart.occupies (stacksOf_get there)) acts
    cases acted with
    | itself changes _ owned =>
        rcases owned.occupies tokens with ⟨usedBy, _, _, occupies, inside, preserves⟩
        rw [ValueLikeness.map_fst_self] at inside preserves
        rw [Option.toList_none, List.append_nil]
        refine ⟨Function.update own index (usedBy.map Prod.fst), ?_, ?_⟩
        · rw [stacksOf_set]
          exact apart.replace within preserves occupies inside
        · intro here session found leaves
          have elsewhere : index ≠ here := by
            rintro rfl
            rcases Option.some.inj (found.symm.trans there) with rfl
            exact leaves changes rfl
          exact ⟨by simpa [List.getElem?_set_ne elsewhere] using found,
            Function.update_of_ne elsewhere.symm .., own index, preserves,
            apart.disjoint (lt_of_get found) within elsewhere.symm⟩
    | aside stays =>
        rw [set_get there, Option.toList_none, List.append_nil]
        exact ⟨own, apart.keep stays.left, fun found _ =>
          ⟨found, rfl, [], stays.left, by simp⟩⟩
    | obtained _ owned =>
        rcases owned.occupies tokens with ⟨usedBy, _, _, occupies, inside, preserves⟩
        rw [set_get there, Option.toList_some]
        refine ⟨Function.update own (stacksOf sessions).length (usedBy.map Prod.fst), ?_, ?_⟩
        · rw [stacksOf_append]
          exact apart.add preserves occupies fun id member =>
            (inside id member).resolve_left (by simp)
        · intro here session found _
          refine ⟨?_, Function.update_of_ne (Nat.ne_of_lt (lt_of_get found)) .., [], preserves,
            by simp⟩
          rw [List.getElem?_append_left (List.getElem?_eq_some_iff.mp found).1]
          exact found

/-- Sessions that own their values go on owning them, whatever is done to them. Induction on what is
done. -/
theorem actAll_apart (builds : parser.reductions.Builds growth rules)
    (settle : Reductions.Settle likeness growth rules)
    (tokens : ∀ token, likeness.token token token) (sparing : parser.source.Sparing)
    (deeds : List (Nat × Deed)) : ∀ {sessions : List Session} {own : Nat → List SequenceId}
      {before : Workspace}, likeness.Apart before.forest (stacksOf sessions) own →
        (parser.actAll deeds sessions).Gives before next after →
          ∃ own', likeness.Apart after.forest (stacksOf next) own' := by
  induction deeds with
  | nil =>
      intro sessions own before apart gives
      rcases Work.gives_pure.mp gives with ⟨rfl, rfl⟩
      exact ⟨own, apart⟩
  | cons deed deeds ih =>
      intro sessions own before apart gives
      rcases deed with ⟨index, deed⟩
      rcases Work.gives_bind.mp gives with ⟨between, _, acts, gives⟩
      rcases actAt_apart builds settle tokens sparing apart acts with ⟨_, apart, _⟩
      exact ih apart gives

end Parser

/-- A session among others that own their values, beside one of another forest with alike values. -/
structure Followed (likeness : ValueLikeness) (forests : Forest × Forest) (sessions : List Session)
    (here : Nat) (session session' : Session) : Prop where
  found : sessions[here]? = some session
  beside : session.Beside session'
  owned : ∃ own used, likeness.Apart forests.1 (stacksOf sessions) own ∧
    likeness.AllAlike forests session.stack.values session'.stack.values used ∧
    used.Pairwise Separate ∧ used.map Prod.fst = own here

namespace Followed

variable {parser : Parser} {growth : Growth} {rules : List Rule} {likeness : ValueLikeness}
  {before before' after after' : Workspace} {sessions next : List Session} {here : Nat}
  {session session' : Session}

/-- What is done to other sessions, or to one that is frozen, has no bearing on the session that is
followed. -/
theorem aside (builds : parser.reductions.Builds growth rules)
    (settle : Reductions.Settle likeness growth rules)
    (tokens : ∀ token, likeness.token token token) (sparing : parser.source.Sparing)
    (followed : Followed likeness (forestsOf before before') sessions here session session')
    {index : Nat} (leaves : session.frozen = false → index ≠ here) {deed : Deed}
    (gives : (parser.actAt index deed sessions).Gives before next after) :
    Followed likeness (forestsOf after before') next here session session' := by
  rcases followed with ⟨found, beside, own, used, apart, alike, separate, mine⟩
  rcases Parser.actAt_apart builds settle tokens sparing apart gives with ⟨own', apart, spares⟩
  rcases spares found leaves with ⟨found, same, changed, preserves, outside⟩
  rw [← mine] at outside
  exact ⟨found, beside, own', used, apart, alike.keep_beside preserves outside, separate,
    mine.trans same.symm⟩

/-- Sessions that are followed in two forests answer alike when they are fed, and are followed where
they go on. -/
theorem onward (builds : parser.reductions.Builds growth rules)
    (settle : Reductions.Settle likeness growth rules)
    (tokens : ∀ token, likeness.token token token)
    (followed : Followed likeness (forestsOf before before') sessions here session session')
    {feed : Feed} {answer answer' : Except Failure Value} {next next' : Session}
    {obtained obtained' : Option Session}
    (gives : (parser.act (.feed feed) session).Gives before (answer, next, obtained) after)
    (gives' : (parser.act (.feed feed) session').Gives before' (answer', next', obtained') after') :
    Parser.AnswersAlike likeness (forestsOf after after') (feed.tokenFor session)
        (feed.tokenFor session) answer answer' ∧
      obtained.isSome = obtained'.isSome ∧
      Followed likeness (forestsOf after after') (sessions.set here next ++ obtained.toList)
        (if obtained.isSome then sessions.length else here) (obtained.getD next)
        (obtained'.getD next') := by
  rcases followed with ⟨found, beside, own, used, apart, alike, separate, mine⟩
  have within := lt_of_get found
  have length : (stacksOf sessions).length = sessions.length := List.length_map ..
  rcases Parser.act_feed builds settle tokens beside alike separate gives gives' with
    ⟨answers, acted⟩
  refine ⟨answers, ?_⟩
  have place := placed_get found next obtained
  cases acted with
  | itself changes onward owned =>
      rcases owned.occupies tokens with ⟨usedBy, alike, separate, occupies, inside, preserves⟩
      rw [mine] at inside preserves
      have replaced := apart.replace within preserves occupies inside
      refine ⟨rfl, place, onward, Function.update own here (usedBy.map Prod.fst),
        usedBy, ?_, alike, separate, by simp⟩
      rw [Option.toList_none, List.append_nil, stacksOf_set]
      exact replaced
  | aside stays =>
      refine ⟨rfl, place, beside, own, used, ?_, alike.keep stays (by simp), separate, mine⟩
      rw [set_get found, Option.toList_none, List.append_nil]
      exact apart.keep stays.left
  | obtained onward owned =>
      rcases owned.occupies tokens with ⟨usedBy, alike, separate, occupies, inside, preserves⟩
      have added := apart.add preserves occupies fun id member =>
        (inside id member).resolve_left (by simp)
      refine ⟨rfl, place, onward,
        Function.update own sessions.length (usedBy.map Prod.fst), usedBy,
        ?_, alike, separate, by simp⟩
      rw [set_get found, Option.toList_some, stacksOf_append, ← length]
      exact added

end Followed

namespace Parser

variable {parser : Parser} {growth : Growth} {rules : List Rule} {positions : Bool}
  {before after : Workspace} {sessions next : List Session} {here : Nat}

theorem follow_aside {index : Nat} {deed : Deed} (turns : List Turn)
    (gives : (parser.actAt index deed sessions).Gives before next after) :
    (parser.follow positions (.aside index deed :: turns) here sessions).run before =
      (parser.follow positions turns here next).run after :=
  Forest.run_bind_eq gives

theorem follow_onward {feed : Feed} {session next : Session} {answer : Except Failure Value}
    {obtained : Option Session} (turns : List Turn) (found : sessions[here]? = some session)
    (gives : (parser.act (.feed feed) session).Gives before (answer, next, obtained) after) :
    ((parser.follow positions (.onward feed :: turns) here sessions).run before).1 =
      answer.map (after.forest.seen positions).document ::
        ((parser.follow positions turns (if obtained.isSome then sessions.length else here)
          (sessions.set here next ++ obtained.toList)).run after).1 := by
  rw [follow, found]
  exact congrArg Prod.fst (Forest.run_bind_eq gives)

/-- Answers that are alike read the same. -/
theorem AnswersAlike.reading {answer answer' : Except Failure Value} {token : Token}
    {forests : Forest × Forest}
    (alike : AnswersAlike (.exact positions) forests token token answer answer') :
    answer.map (forests.1.seen positions).document =
      answer'.map (forests.2.seen positions).document := by
  cases answer <;> cases answer' <;> try exact alike.elim
  · exact congrArg Except.error (alike rfl)
  · rcases alike with ⟨used, alike, apart⟩
    exact congrArg Except.ok (alike.document_eq id apart)

/-- A session that is followed among others answers as it does alone. Induction on the turns. -/
theorem follow_followed (builds : parser.reductions.Builds growth rules)
    (settle : Reductions.Settle (.exact positions) growth rules)
    (sparing : parser.source.Sparing) (turns : List Turn) :
    ∀ {sessions sessions' : List Session} {here here' : Nat} {session session' : Session}
      {before before' : Workspace},
      Followed (.exact positions) (forestsOf before before') sessions here session session' →
      sessions'[here']? = some session' →
      (session.frozen = false → ∀ index deed, .aside index deed ∈ turns →
        index ≠ here) →
        ((parser.follow positions turns here sessions).run before).1 =
          ((parser.follow positions (turns.filter Turn.isOnward) here' sessions').run
            before').1 := by
  induction turns with
  | nil => exact fun _ _ _ => rfl
  | cons turn turns ih =>
      intro sessions sessions' here here' session session' before before' followed found' leaves
      cases turn with
      | aside index deed =>
          have gives := Work.gives (parser.actAt index deed sessions) before
          rw [follow_aside turns gives, List.filter_cons_of_neg (by simp [Turn.isOnward])]
          refine ih (followed.aside builds settle (fun _ => rfl) sparing
            (fun changes => leaves changes index deed (List.mem_cons_self ..)) gives) found' ?_
          exact fun changes index deed member =>
            leaves changes index deed (List.mem_cons_of_mem _ member)
      | onward feed =>
          have gives := Work.gives (parser.act (.feed feed) session) before
          have gives' := Work.gives (parser.act (.feed feed) session') before'
          rw [List.filter_cons_of_pos (by simp [Turn.isOnward]),
            follow_onward turns followed.found gives, follow_onward _ found' gives']
          rcases followed.onward builds settle (fun _ => rfl) gives gives' with
            ⟨answers, same, onward⟩
          rcases frozen_of_act_feed gives with ⟨frozen, still⟩
          refine congrArg₂ List.cons answers.reading (ih onward (placed_get found' ..) ?_)
          intro changes index deed member
          rw [frozen] at changes
          rw [still changes]
          exact leaves changes index deed (List.mem_cons_of_mem _ member)

/-- A new session owns its values: there are none. -/
theorem apart_of_start {likeness : ValueLikeness} {text symbol : Option String} {session : Session}
    (started : parser.start text symbol = .ok session) (forest : Forest) :
    likeness.Apart forest (stacksOf [session]) fun _ => [] := by
  refine ⟨fun {index values} found => ?_, fun _ _ _ => by simp⟩
  have same : values = [] := by
    cases index with
    | zero => exact (Option.some.inj found).symm.trans (values_of_start started)
    | succ index => cases found
  rcases same with rfl
  exact ⟨.nil, List.nodup_nil⟩

variable {terminals : List Terminal} {table : Table State} {ignored : List Data} {options : Options}
  {made made' : Workspace}

/-- Sessions do not interfere. Take any session that has been got from a new one, and feed it while
anything is done to the sessions that it came from and to those that come from any of them, but not
to the session itself unless it is frozen. It answers as if it was fed alone: with the same
failures, and with values that have the same labels and children. They have the same positions, too,
if trees get none or no rule passes on a tree that it has been given. -/
theorem follow_alone
    (make : (make terminals rules table ignored options).Yields made parser made')
    (plain : options.transformer = .ok none)
    (sparing : ∀ callbacks, options.callbacks = .ok callbacks → ∀ kind callback,
      assoc? callbacks kind = some callback → TokenHandler.Sparing callback)
    (settled : positions = true → options.propagation = .off ∨
      ∀ rule ∈ rules, (rule.options.expandSingle && !rule.hasByname) = false)
    {text symbol : Option String} {first : Session} (started : parser.start text symbol = .ok first)
    {deeds : List (Nat × Deed)}
    (reached : (parser.actAll deeds [first]).Gives before sessions after)
    {session : Session} (found : sessions[here]? = some session) (turns : List Turn)
    (leaves : session.frozen = false → ∀ index deed,
      .aside index deed ∈ turns → index ≠ here) :
    ((parser.follow positions turns here sessions).run after).1 =
      ((parser.follow positions (turns.filter Turn.isOnward) here sessions).run after).1 := by
  have builds := builds_of_make make plain
  have spares := sparing_of_make make sparing
  have settle : Reductions.Settle (.exact positions) (growth options none) rules := by
    refine fun rule member => ⟨fun _ => id, fun counts => ?_⟩
    exact (settled counts).imp id fun unwraps => unwraps rule member
  rcases actAll_apart builds settle (fun _ => rfl) spares deeds
      (apart_of_start started before.forest) reached with
    ⟨own, apart⟩
  have occupies := apart.occupies (stacksOf_get found)
  exact follow_followed builds settle spares turns ⟨found, .refl session, own, _, apart,
    occupies.alike, occupies.separate, ValueLikeness.map_fst_self _⟩ found leaves

section Passing

/-- Rules of which the second passes on the item that it is given, and the third does not. -/
def passingRules : List Rule :=
  [{ origin := "start", expansion := [.nonterminal "wrap"] },
    { origin := "wrap"
      expansion := [.nonterminal "item", .terminal "OPT" true, .terminal "CLOSE" true]
      options := { expandSingle := true } },
    { origin := "start"
      expansion := [.nonterminal "item", .terminal "OPT" true, .terminal "SEMI" true] },
    { origin := "item", expansion := [.terminal "A" false] }]

/-- The table of these rules. -/
def passingTable : Table State where
  rows := [
    (.number 0, [("A", .shift (.number 1)), ("item", .shift (.number 2)),
      ("wrap", .shift (.number 3)), ("start", .shift (.number 7))]),
    (.number 1, [("OPT", .reduce passingRules[3])]),
    (.number 2, [("OPT", .shift (.number 4))]),
    (.number 3, [("$END", .reduce passingRules[0])]),
    (.number 4, [("CLOSE", .shift (.number 5)), ("SEMI", .shift (.number 6))]),
    (.number 5, [("$END", .reduce passingRules[1])]),
    (.number 6, [("$END", .reduce passingRules[2])]),
    (.number 7, [])]
  starts := [("start", .number 0)]
  ends := [("start", .number 7)]

/-- The parser of these rules, which gives positions to trees. -/
def passingParser : Parser where
  options := { contextual := false, propagation := .all }
  terminals := []
  rules := passingRules
  ignored := []
  table := passingTable
  reductions := (Reductions.make { propagation := .all } passingRules []).toOption.getD
    { rules := [] }
  source := { reader := .basic (emptyLexer 0) }
  whole := emptyLexer 1
  wholeKeeping := emptyLexer 2

theorem passingParser_made : ∃ after,
    (make [] passingRules passingTable [] passingParser.options).Yields {} passingParser after :=
  make_of_basic rfl rfl rfl (by rfl) rfl rfl rfl make_emptyLexer

/-- A token of one character on the first line. -/
def characterToken (kind text : String) (position : Nat) : Token where
  kind
  text
  place := ⟨some position, some 1, some (position + 1), some 1, some (position + 2),
    some (position + 1)⟩

/-- A new session of this parser. -/
def passingSession : Session where
  stack := { states := [.number 0], values := [] }
  starting := .number 0
  ending := .number 7

/-- The session is fed with an item and frozen. -/
def passingDeeds : List (Nat × Deed) :=
  [(0, .feed (.token (characterToken "A" "a" 0))), (0, .feed (.token (characterToken "OPT" "," 1))),
    (0, .freeze)]

/-- The frozen session is fed to the end in one way, and then in another, in which it is
followed. -/
def passingTurns : List Turn :=
  [.aside 1 (.feed (.token (characterToken "CLOSE" ")" 2))), .aside 2 (.feed (.ending none)),
    .onward (.token (characterToken "SEMI" ";" 2)), .onward (.ending none)]

theorem passingSession_started : passingParser.start none none = .ok passingSession := by rfl

/-- The first two sessions after these deeds are the one that has been fed and its frozen copy. -/
theorem passingDeeds_frozen : ∃ sessions after session,
    (passingParser.actAll passingDeeds [passingSession]).Gives {} sessions after ∧
    sessions[1]? = some session ∧ session.frozen = true ∧
    sessions = ((passingParser.actAll passingDeeds [passingSession]).run {}).1 ∧
    after = ((passingParser.actAll passingDeeds [passingSession]).run {}).2 := by
  have reached := Work.gives (passingParser.actAll passingDeeds [passingSession]) {}
  have frozen : (((passingParser.actAll passingDeeds [passingSession]).run {}).1[1]?.map
      Session.frozen) = some true := by decide +kernel
  rcases Option.map_eq_some_iff.mp frozen with ⟨session, found, frozen⟩
  exact ⟨_, _, session, reached, found, frozen, rfl, rfl⟩

/-- Labels and children are those that the session gives when it is fed alone. -/
theorem follow_alone_passing :
    ∃ sessions after, (passingParser.actAll passingDeeds [passingSession]).Gives
      {} sessions after ∧
      ((passingParser.follow false passingTurns 1 sessions).run after).1 =
        ((passingParser.follow false (passingTurns.filter Turn.isOnward) 1 sessions).run
          after).1 := by
  rcases passingParser_made with ⟨made, make⟩
  rcases passingDeeds_frozen with ⟨sessions, after, session, reached, found, frozen, -, -⟩
  have sparing : ∀ callbacks, passingParser.options.callbacks = .ok callbacks →
      ∀ kind callback,
      assoc? callbacks kind = some callback → TokenHandler.Sparing callback := by
    rintro _ ⟨⟩ kind callback found
    cases found
  refine ⟨sessions, after, reached, follow_alone make rfl sparing (fun counts => ?_)
    passingSession_started reached found passingTurns fun changes => ?_⟩
  · cases counts
  · cases frozen.symm.trans changes

/-- The item has another position than the session gives it when it is fed alone: it ends where the
bracket does that the session was fed with before. -/
theorem follow_disturbed :
    ∃ made sessions after session,
      (make [] passingRules passingTable [] passingParser.options).Yields {} passingParser made ∧
      passingParser.options.transformer = .ok none ∧ passingParser.options.callbacks = .ok [] ∧
      passingParser.start none none = .ok passingSession ∧
      (passingParser.actAll passingDeeds [passingSession]).Gives {} sessions after ∧
      sessions[1]? = some session ∧ session.frozen = true ∧
      ((passingParser.follow true passingTurns 1 sessions).run after).1 ≠
        ((passingParser.follow true (passingTurns.filter Turn.isOnward) 1 sessions).run
          after).1 := by
  rcases passingParser_made with ⟨made, make⟩
  rcases passingDeeds_frozen with
    ⟨sessions, after, session, reached, found, frozen, same, same'⟩
  refine ⟨made, sessions, after, session, make, rfl, rfl, passingSession_started, reached, found,
    frozen, mt (congrArg (List.map Except.toOption)) ?_⟩
  rw [same, same']
  decide +kernel

end Passing

end Parser

end Lalr
