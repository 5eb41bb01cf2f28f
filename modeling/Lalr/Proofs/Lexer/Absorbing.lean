import Lalr.Lexer.Absorption
import Lalr.Proofs.Pairs
import Lalr.Proofs.Runs

/-!
# What expressions absorb

A vocabulary is prepared by going through the expressions among some terminals. Each of
them that matches some literal comes with a scanner for the literals that it matches,
and those of them that need not be tried are left out. Whether an expression absorbs a
literal is a matter between the two of them: no other terminal has a bearing on it.
-/

namespace Lalr

/-- Whether preparing something comes to a result. -/
def Preparing.Yields {α : Type} (preparing : Preparing α) (value : α) : Prop :=
  ∃ before after : List String,
    @Eq (Except Failure α × List String) (preparing.run.run before) (.ok value, after)

namespace Preparing

variable {α β : Type} {value : α}

theorem yields_pure {given : α} (yields : Yields (pure given) value) : given = value := by
  rcases yields with ⟨before, after, yields⟩
  cases yields
  rfl

theorem yields_mk {answer : Except Failure α} (yields : Yields (ExceptT.mk (pure answer)) value) :
    answer = .ok value := by
  rcases yields with ⟨before, after, yields⟩
  cases yields
  rfl

theorem yields_bind {preparing : Preparing α} {rest : α → Preparing β} {value : β}
    (yields : Yields (preparing >>= rest) value) :
    ∃ given, preparing.Yields given ∧ (rest given).Yields value := by
  rcases yields with ⟨before, after, yields⟩
  rw [ExceptT.run_bind, StateT.run_bind] at yields
  rcases first : (preparing.run.run before : Except Failure α × List String) with
    ⟨answer, between⟩
  simp only [bind] at yields
  rw [first] at yields
  cases answer with
  | error failure => cases yields
  | ok given => exact ⟨given, ⟨before, between, first⟩, between, after, yields⟩

end Preparing

namespace Vocabulary

section Steps

variable {flags : RegexFlags} {literals rest : List Terminal} (terminal : Terminal)

/-- What is announced about an expression that absorbs literals. -/
def announcement (matched : List Terminal) : String :=
  terminal.name ++ " absorbs literal terminals " ++ Text.joinWith ", " (matched.map Terminal.name)

theorem absorb_literal (kind : terminal.pattern.kind = .literal) :
    absorb flags literals (terminal :: rest) = absorb flags literals rest := by
  rw [absorb, kind]

/-- An expression absorbs what it matches, if it matches anything. -/
theorem absorb_expression (kind : terminal.pattern.kind = .expression) {matched : List Terminal}
    (matches_ : matchedLiterals flags literals terminal = .ok matched) :
    absorb flags literals (terminal :: rest) =
      if matched.isEmpty then absorb flags literals rest
      else do
        modify fun announced => announced ++ [announcement terminal matched]
        let scanner ← ExceptT.mk (pure (Scanner.make matched flags true))
        let found ← absorb flags literals rest
        return ((terminal.name, scanner) :: found.1,
          (matched.filter (replaces terminal)).map Terminal.name ++ found.2) := by
  rw [absorb, kind, matches_]
  rfl

theorem absorb_failed (kind : terminal.pattern.kind = .expression) {failure : Failure}
    (failed : matchedLiterals flags literals terminal = .error failure) :
    absorb flags literals (terminal :: rest) = throw failure := by
  rw [absorb, kind, failed]
  rfl

end Steps

variable {flags : RegexFlags} {literals terminals : List Terminal}

/-- Whether an expression matches the whole of a literal that has its priority. -/
def absorbs (flags : RegexFlags) (expression literal : Terminal) : Bool :=
  expression.pattern.kind == .expression && literal.priority == expression.priority &&
    (matchesLiteral flags expression literal).toOption.getD false

/-- The literals among some terminals that an expression absorbs. -/
def absorbedBy (flags : RegexFlags) (terminals : List Terminal) (expression : Terminal) :
    List Terminal :=
  (Vocabulary.literals terminals).filter (absorbs flags expression)

/-- Whether a name is that of a literal that need not be tried on its own. -/
def Replaced (flags : RegexFlags) (terminals : List Terminal) (name : String) : Prop :=
  ∃ expression ∈ terminals, ∃ literal ∈ absorbedBy flags terminals expression,
    replaces expression literal = true ∧ literal.name = name

theorem mem_literals {terminal : Terminal} :
    terminal ∈ Vocabulary.literals terminals ↔
      terminal ∈ terminals ∧ terminal.pattern.kind = .literal := by
  simp [Vocabulary.literals]

theorem mem_absorbedBy {expression literal : Terminal} :
    literal ∈ absorbedBy flags terminals expression ↔
      literal ∈ terminals ∧ literal.pattern.kind = .literal ∧
        absorbs flags expression literal = true := by
  rw [absorbedBy, List.mem_filter, mem_literals, and_assoc]

/-- Whatever is replaced among some terminals is replaced among more of them. -/
theorem Replaced.mono {more : List Terminal} {name : String} (subset : terminals ⊆ more)
    (replaced : Replaced flags terminals name) : Replaced flags more name := by
  rcases replaced with ⟨expression, member, literal, absorbed, replaces, same⟩
  rcases mem_absorbedBy.mp absorbed with ⟨among, kind, absorbs⟩
  exact ⟨expression, subset member, literal, mem_absorbedBy.mpr ⟨subset among, kind, absorbs⟩,
    replaces, same⟩

theorem matchedLiterals_eq_ok {expression : Terminal} {matched : List Terminal}
    (kind : expression.pattern.kind = .expression)
    (went : matchedLiterals flags literals expression = .ok matched) :
    matched = literals.filter (absorbs flags expression) := by
  unfold matchedLiterals at went
  rw [(filterM_eq_ok went).1, List.filter_filter]
  refine List.filter_congr fun literal _ => ?_
  rw [absorbs, kind, Bool.and_comm]
  rfl

/-- What has been found among the expressions of some terminals: the scanners of those that absorb
something, in order, and the names of the literals that they replace. -/
def Absorbed (flags : RegexFlags) (literals rest : List Terminal)
    (found : List (String × Scanner) × List String) : Prop :=
  List.Forall₂ (fun expression entry => entry.1 = expression.name ∧
      Scanner.make (literals.filter (absorbs flags expression)) flags true = .ok entry.2)
    (rest.filter fun expression => !(literals.filter (absorbs flags expression)).isEmpty)
    found.1 ∧
  ∀ name, name ∈ found.2 ↔ ∃ expression ∈ rest,
    ∃ literal ∈ literals.filter (absorbs flags expression),
      replaces expression literal = true ∧ literal.name = name

theorem Absorbed.pass {rest : List Terminal} {found : List (String × Scanner) × List String}
    (absorbed : Absorbed flags literals rest found) {terminal : Terminal}
    (nothing : literals.filter (absorbs flags terminal) = []) :
    Absorbed flags literals (terminal :: rest) found := by
  rcases absorbed with ⟨scanners, names⟩
  refine ⟨?_, fun name => ?_⟩
  · rw [List.filter_cons, if_neg (by simp [nothing])]
    exact scanners
  · rw [names, List.exists_mem_cons_iff, nothing]
    simp only [List.not_mem_nil, false_and, exists_false, false_or]

theorem Absorbed.absorb {rest : List Terminal} {found : List (String × Scanner) × List String}
    (absorbed : Absorbed flags literals rest found) {terminal : Terminal} {scanner : Scanner}
    (something : literals.filter (absorbs flags terminal) ≠ [])
    (made : Scanner.make (literals.filter (absorbs flags terminal)) flags true = .ok scanner) :
    Absorbed flags literals (terminal :: rest) ((terminal.name, scanner) :: found.1,
      ((literals.filter (absorbs flags terminal)).filter (replaces terminal)).map Terminal.name ++
        found.2) := by
  rcases absorbed with ⟨scanners, names⟩
  refine ⟨?_, fun name => ?_⟩
  · rw [List.filter_cons, if_pos (by simpa using something)]
    exact .cons ⟨rfl, made⟩ scanners
  · rw [List.mem_append, names, List.exists_mem_cons_iff, List.mem_map]
    simp only [List.mem_filter, and_assoc]

theorem absorb_yields {rest : List Terminal} :
    ∀ {found : List (String × Scanner) × List String},
      (absorb flags literals rest).Yields found → Absorbed flags literals rest found := by
  induction rest with
  | nil =>
      intro found yields
      rw [absorb] at yields
      rcases Preparing.yields_pure yields with rfl
      exact ⟨.nil, by simp⟩
  | cons terminal rest ih =>
      intro found yields
      cases kind : terminal.pattern.kind with
      | literal =>
          have nothing : literals.filter (absorbs flags terminal) = [] := by
            refine List.filter_eq_nil_iff.mpr fun literal _ => ?_
            simp [absorbs, kind]
          rw [absorb_literal terminal kind] at yields
          exact (ih yields).pass nothing
      | expression =>
          cases matches_ : matchedLiterals flags literals terminal with
          | error failure =>
              rw [absorb_failed terminal kind matches_] at yields
              rcases yields with ⟨before, after, yields⟩
              cases yields
          | ok matched =>
              rw [absorb_expression terminal kind matches_] at yields
              rcases matchedLiterals_eq_ok kind matches_ with rfl
              split at yields
              next none =>
                exact (ih yields).pass (List.isEmpty_iff.mp none)
              next some =>
                rcases Preparing.yields_bind yields with ⟨_, _, yields⟩
                rcases Preparing.yields_bind yields with ⟨scanner, made, yields⟩
                rcases Preparing.yields_bind yields with ⟨others, went, yields⟩
                rcases Preparing.yields_pure yields with rfl
                exact (ih went).absorb (mt List.isEmpty_iff.mpr some) (Preparing.yields_mk made)

/-- What a vocabulary consists of: the terminals that are not replaced, in order, and a scanner for
the literals that each expression absorbs. -/
theorem prepare_yields {vocabulary : Vocabulary}
    (yields : (prepare terminals flags).Yields vocabulary) :
    ∃ left, Scanner.make left flags = .ok vocabulary.scanner ∧
      (∃ replaced : List String,
        (∀ name, name ∈ replaced ↔ Replaced flags terminals name) ∧
        left = terminals.filter fun terminal => !replaced.contains terminal.name) ∧
      ∃ scanners, vocabulary.absorbed = Data.settle scanners ∧
        List.Forall₂ (fun expression entry => entry.1 = expression.name ∧
            Scanner.make (absorbedBy flags terminals expression) flags true = .ok entry.2)
          (terminals.filter fun expression => !(absorbedBy flags terminals expression).isEmpty)
          scanners := by
  unfold prepare at yields
  rcases Preparing.yields_bind yields with ⟨⟨scanners, replaced⟩, went, yields⟩
  rcases Preparing.yields_bind yields with ⟨scanner, made, yields⟩
  rcases Preparing.yields_pure yields with rfl
  rcases absorb_yields went with ⟨each, names⟩
  exact ⟨_, Preparing.yields_mk made, ⟨replaced, names, rfl⟩, scanners, rfl, each⟩

end Vocabulary

end Lalr
