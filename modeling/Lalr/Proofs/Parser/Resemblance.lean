import Lalr.Parser.Session
import Lalr.Proofs.Grammar.Rules
import Lalr.Proofs.Shaping.Reductions

/-!
# Parsers that resemble one another

Two parsers resemble one another if their tables say the same, apart from rules that
are the same rule, and if they do the same when they reduce and shift. About a token
they then do the same, whatever else there is to them.
-/

namespace Lalr

namespace Table

variable {σ : Type} {alike : Rule → Rule → Prop} {first second : Table σ}

theorem Alike.longestRule (tables : first.Alike alike second)
    (sized : ∀ {rule rule' : Rule}, alike rule rule' →
      rule.expansion.length = rule'.expansion.length) :
    first.longestRule = second.longestRule := by
  refine foldl_alike (fun longest row row' heads => ?_) tables.rows 0
  refine foldl_alike (fun longest entry entry' heads => ?_) heads.2 longest
  rcases heads with ⟨_, actions⟩
  rcases entry with ⟨symbol, action⟩
  rcases entry' with ⟨symbol', action'⟩
  cases action with
  | shift target =>
      cases action' with
      | shift target' => rfl
      | reduce rule' => exact actions.elim
  | reduce rule =>
      cases action' with
      | shift target' => exact actions.elim
      | reduce rule' =>
          have lengths : rule.expansion.length = rule'.expansion.length := sized actions
          simp only [lengths]

theorem Alike.reductionBound (tables : first.Alike alike second)
    (sized : ∀ {rule rule' : Rule}, alike rule rule' →
      rule.expansion.length = rule'.expansion.length) (height : Nat) :
    first.reductionBound height = second.reductionBound height := by
  unfold Table.reductionBound
  rw [tables.longestRule sized, tables.rows.length_eq]

end Table

theorem Reductions.find?_same (reductions : Reductions) {rule rule' : Rule}
    (same : rule.same rule' = true) : reductions.find? rule = reductions.find? rule' := by
  simp only [find?, Rule.same_congr same]

namespace Parser

/-- Whether two rules are the same rule. -/
def SameRule (rule rule' : Rule) : Prop := rule.same rule' = true

/-- Whether two parsers have tables that say the same, and do the same on reductions and shifts. -/
structure Resembles (parser parser' : Parser) : Prop where
  table : parser.table.Alike SameRule parser'.table
  reduce : ∀ {rule rule'} values, SameRule rule rule' →
    (parser.reductions.reduce rule values).Agree (parser'.reductions.reduce rule' values)
  shift : ∀ token, (parser.reductions.shift token).Agree (parser'.reductions.shift token)

variable {parser parser' : Parser}

/-- Parsers with the same discreet reductions resemble one another if their tables do. -/
theorem resembles_of_reductions (table : parser.table.Alike SameRule parser'.table)
    (reductions : parser.reductions = parser'.reductions)
    (discreet : parser.reductions.Discreet) : parser.Resembles parser' where
  table
  reduce := by
    intro rule rule' values same
    have reduced : parser'.reductions.reduce rule' values =
        parser.reductions.reduce rule values := by
      simp only [Reductions.reduce, ← reductions, Reductions.find?_same _ same]
    rw [reduced]
    exact discreet.reduce rule values
  shift := by
    rw [← reductions]
    exact discreet.shift

namespace Resembles

theorem effects (resembles : parser.Resembles parser') (token : Token) :
    (parser.effects token).Agree Workspace.Alike SameRule (parser'.effects token) where
  stop _ := Work.Agree.record ..
  trace _ _ _ _ := Work.Agree.record ..
  shift := resembles.shift token
  reduce values same := resembles.reduce values same
  fault := rfl

/-- Parsers that resemble one another do the same about a token. -/
theorem feedAs (resembles : parser.Resembles parser') (isEnd : Bool) (session : Session)
    (token : Token) :
    Work.Agree (parser.feedAs isEnd session token) (parser'.feedAs isEnd session token) := by
  have sized {rule rule' : Rule} (same : SameRule rule rule') :
      rule.origin = rule'.origin ∧ rule.expansion.length = rule'.expansion.length :=
    ⟨(Rule.same_iff.mp same).1, Rule.length_of_same same⟩
  unfold Parser.feedAs
  rw [resembles.table.reductionBound fun same => (sized same).2]
  refine Agrees.bind (Table.feed_agrees resembles.table sized (resembles.effects token) ..) ?_
  rintro ⟨outcome, stack⟩
  cases outcome <;> exact Agrees.pure _

end Resembles

end Parser

end Lalr
