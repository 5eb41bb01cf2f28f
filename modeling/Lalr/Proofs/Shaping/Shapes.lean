import Lalr.Shaping.Plan
import Lalr.Proofs.Forest.Trees
import Lalr.Proofs.Machine.Derivation

/-!
# Shaped derivations

The tree of a derivation is said here rule by rule, by one walk over what the rule
was written with. The plans that are made of rules for the sake of a parse count
the placeholders in front of each child that is kept instead. This file shows that
to fill such gaps comes to the same as the walk.
-/

namespace Lalr

namespace Shape

/-- What the tree of a symbol adds to the children of its rule. -/
def kept (keepAll : Bool) (symbol : Symbol) (tree : Tree) : List Tree :=
  if symbol.isFilteredOut && !keepAll then []
  else if isSpliced symbol then tree.children
  else [tree]

/-- The children of a rule, by a walk over marks that are true where a symbol is missing. Where the
marks are over, the symbols that are left follow each other. -/
def walk (keepAll : Bool) : List Bool → List (Symbol × Tree) → List Tree
  | true :: marks, parts => .nothing :: walk keepAll marks parts
  | false :: marks, (symbol, tree) :: parts => kept keepAll symbol tree ++ walk keepAll marks parts
  | false :: _, [] => []
  | [], parts => parts.flatMap fun (symbol, tree) => kept keepAll symbol tree

/-- The children of a rule where the number of placeholders in front of each symbol is known. -/
def fill (keepAll : Bool) : List Nat → List (Symbol × Tree) → List Tree
  | gaps, [] => List.replicate (gaps.headD 0) .nothing
  | gaps, (symbol, tree) :: parts =>
    List.replicate (gaps.headD 0) .nothing ++ kept keepAll symbol tree ++
      fill keepAll gaps.tail parts

variable {keepAll : Bool}

theorem fill_succ (count : Nat) (counts : List Nat) (parts : List (Symbol × Tree)) :
    fill keepAll ((count + 1) :: counts) parts = .nothing :: fill keepAll
      (count :: counts) parts := by
  cases parts with
  | nil => simp [fill, List.replicate_succ]
  | cons part parts => simp [fill, List.replicate_succ]

theorem fill_nil (parts : List (Symbol × Tree)) :
    fill keepAll [] parts = walk keepAll [] parts := by
  induction parts with
  | nil => rfl
  | cons part parts ih => simpa [fill, walk] using ih

theorem runsOfTrue_eq_cons (marks : List Bool) :
    ∃ count counts, runsOfTrue marks = count :: counts := by
  induction marks with
  | nil => exact ⟨0, [], rfl⟩
  | cons mark marks ih =>
      rcases ih with ⟨count, counts, runs⟩
      cases mark with
      | false => exact ⟨0, _, rfl⟩
      | true => exact ⟨count + 1, counts, by simp [runsOfTrue, runs]⟩

/-- To fill the gaps that marks leave comes to the same as to walk over the marks. -/
theorem fill_runsOfTrue (marks : List Bool) :
    ∀ {parts : List (Symbol × Tree)}, marks.count false = parts.length →
      fill keepAll (runsOfTrue marks) parts = walk keepAll marks parts := by
  induction marks with
  | nil =>
      intro parts length
      rcases (show parts = [] by simpa using length.symm) with rfl
      rfl
  | cons mark marks ih =>
      intro parts length
      cases mark with
      | true =>
          rcases runsOfTrue_eq_cons marks with ⟨count, counts, runs⟩
          have rest := ih (show marks.count false = parts.length by simpa using length)
          simp only [runsOfTrue, runs, fill_succ, walk]
          rw [← runs, rest]
      | false =>
          cases parts with
          | nil => simp at length
          | cons part parts =>
              have rest := ih (show marks.count false = parts.length by simpa using length)
              simp [runsOfTrue, fill, walk, rest]

theorem select_length_le (keepAll : Bool) (symbols : List Symbol) :
    ∀ (index missing : Nat) (gaps : List Nat),
      (select keepAll index missing symbols gaps).1.length ≤ symbols.length := by
  induction symbols with
  | nil => intros; simp [select]
  | cons symbol symbols ih =>
      intro index missing gaps
      simp only [select]
      split
      · simpa using ih ..
      · exact Nat.le_succ_of_le (ih ..)

/-- Where every symbol is kept and none is spliced, the children are the trees of the symbols. -/
theorem walk_of_select (keepAll : Bool) {symbols : List Symbol} :
    ∀ {index missing : Nat} {trees : List Tree}, symbols.length = trees.length →
      (select keepAll index missing symbols []).1.length = symbols.length →
      (select keepAll index missing symbols []).1.any KeptChild.spliced = false →
        walk keepAll [] (symbols.zip trees) = trees := by
  induction symbols with
  | nil =>
      intro index missing trees length _ _
      rcases (show trees = [] by simpa using length.symm) with rfl
      rfl
  | cons symbol symbols ih =>
      intro index missing trees length all unspliced
      cases trees with
      | nil => simp at length
      | cons tree trees =>
          simp only [select] at all unspliced
          split at all
          · rename_i isKept
            simp only [isKept, if_true, List.any_cons, Bool.or_eq_false_iff] at unspliced
            have rest := ih (by simpa using length) (by simpa using all) unspliced.2
            have single : kept keepAll symbol tree = [tree] := by
              cases keepAll <;> simp_all [kept]
            simp only [walk] at rest
            simp [walk, single, rest]
          · have := select_length_le keepAll symbols (index + 1) (missing + [].headD 0) [].tail
            simp only [List.length_cons] at all
            omega

/-- The marks of a rule, which count only if placeholders are wanted. -/
def marks (rule : Rule) (placeholders : Bool) : List Bool :=
  if placeholders then rule.options.emptyIndices else []

/-- The gaps that marks leave between symbols. -/
def gaps (marks : List Bool) : List Nat := if marks.isEmpty then [] else runsOfTrue marks

theorem fill_gaps {marks : List Bool} {parts : List (Symbol × Tree)}
    (accounted : marks = [] ∨ marks.count false = parts.length) :
    fill keepAll (gaps marks) parts = walk keepAll marks parts := by
  by_cases isEmpty : marks = []
  · subst isEmpty
    exact fill_nil parts
  · rw [gaps, if_neg (by simpa using isEmpty)]
    exact fill_runsOfTrue marks (accounted.resolve_left isEmpty)

/-- What a rule says about its shape, if it has one: either children are selected, or all of them
are taken as they are. -/
theorem ofRule_eq_ok {rule : Rule} {placeholders : Bool} {shape : Shape}
    (made : ofRule rule placeholders = .ok shape) :
    (marks rule placeholders = [] ∨
      (marks rule placeholders).count false = rule.expansion.length) ∧
    shape.unwraps = (rule.options.expandSingle && !rule.hasByname) ∧
    ((shape.selection = some (select rule.options.keepAllTokens 0 0 rule.expansion
        (gaps (marks rule placeholders))).1 ∧
      shape.missingAfter = (select rule.options.keepAllTokens 0 0 rule.expansion
        (gaps (marks rule placeholders))).2) ∨
    (shape.selection = none ∧ marks rule placeholders = [] ∧
      (select rule.options.keepAllTokens 0 0 rule.expansion []).1.length = rule.expansion.length ∧
      (select rule.options.keepAllTokens 0 0 rule.expansion []).1.any
        KeptChild.spliced = false)) := by
  have marked : (if placeholders = true then rule.options.emptyIndices else []) =
    marks rule placeholders := rfl
  have gapped : (if (marks rule placeholders).isEmpty = true then []
    else runsOfTrue (marks rule placeholders)) = gaps (marks rule placeholders) := rfl
  simp only [ofRule, marked, gapped] at made
  split at made
  · rename_i accounted
    split at made
    · rcases Except.ok.inj made with rfl
      exact ⟨by simpa using accounted, rfl, .inl ⟨rfl, rfl⟩⟩
    · rename_i plain
      rcases Except.ok.inj made with rfl
      simp only [Bool.or_eq_true, not_or, Bool.not_eq_true, Bool.not_eq_false', decide_eq_true_eq,
        Nat.not_lt, List.isEmpty_iff] at plain
      rcases plain with ⟨⟨isEmpty, whole⟩, unspliced⟩
      simp only [isEmpty, gaps, List.isEmpty_nil, if_true] at whole unspliced
      exact ⟨.inl isEmpty, rfl, .inr ⟨rfl, isEmpty,
        Nat.le_antisymm (select_length_le ..) whole, unspliced⟩⟩
  · cases made

end Shape

/-- The tree that a rule makes of the trees of its symbols. -/
def Rule.shaped (rule : Rule) (placeholders : Bool) (trees : List Tree) : Tree :=
  let children := Shape.walk rule.options.keepAllTokens (Shape.marks rule placeholders)
    (rule.expansion.zip trees)
  match rule.options.expandSingle && !rule.hasByname, children with
  | true, [only] => only
  | _, _ => .node rule.label children

namespace Derivation

mutual

/-- The tree of a derivation where every rule has the shape that some rules say. -/
def shaped (rules : List Rule) (placeholders : Bool) : Derivation → Tree
  | .leaf token => .token token
  | .node rule parts =>
    ((rules.find? fun entry => entry.same rule).getD rule).shaped placeholders
      (shapedOf rules placeholders parts)

/-- The trees of some derivations. -/
def shapedOf (rules : List Rule) (placeholders : Bool) : List Derivation → List Tree
  | [] => []
  | part :: parts => part.shaped rules placeholders :: shapedOf rules placeholders parts

end

theorem shapedOf_eq_map (rules : List Rule) (placeholders : Bool) (parts : List Derivation) :
    shapedOf rules placeholders parts = parts.map (shaped rules placeholders) := by
  induction parts with
  | nil => rfl
  | cons part parts ih => simp [shapedOf, ih]

end Derivation

end Lalr
