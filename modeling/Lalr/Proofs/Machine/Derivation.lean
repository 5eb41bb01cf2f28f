import Lalr.Proofs.Machine.Coherence

/-!
# Derivations

What a parse finds out about its input is a derivation: a tree of rules above the
tokens. Reducing performs the rules of a derivation from the leaves upwards and
from left to right, and this order read backwards is a rightmost derivation of the
tokens.
-/

namespace Lalr

/-- A derivation of some tokens: a token by itself, or a rule above the derivations of its
symbols. -/
inductive Derivation where
  | leaf (token : Token)
  | node (rule : Rule) (parts : List Derivation)
  deriving Inhabited

namespace Derivation

/-- The name of the symbol that is derived. -/
def name : Derivation → String
  | .leaf token => token.kind
  | .node rule _ => rule.origin

mutual

/-- The tokens of a derivation. -/
def leaves : Derivation → List Token
  | .leaf token => [token]
  | .node _ parts => leavesOf parts

/-- The tokens of some derivations. -/
def leavesOf : List Derivation → List Token
  | [] => []
  | part :: parts => part.leaves ++ leavesOf parts

end

mutual

/-- The rules of a derivation in the order in which a parse reduces by them. -/
def rules : Derivation → List Rule
  | .leaf _ => []
  | .node rule parts => rulesOf parts ++ [rule]

/-- The rules of some derivations. -/
def rulesOf : List Derivation → List Rule
  | [] => []
  | part :: parts => part.rules ++ rulesOf parts

end

@[simp]
theorem leavesOf_append (left right : List Derivation) :
    leavesOf (left ++ right) = leavesOf left ++ leavesOf right := by
  induction left with
  | nil => rfl
  | cons part parts ih => simp [leavesOf, ih]

@[simp]
theorem rulesOf_append (left right : List Derivation) :
    rulesOf (left ++ right) = rulesOf left ++ rulesOf right := by
  induction left with
  | nil => rfl
  | cons part parts ih => simp [rulesOf, ih]

/-- A derivation by the rules of a grammar, each of which stands above derivations of its
symbols. -/
inductive Valid (grammar : Rule → Prop) : Derivation → Prop
  | leaf (token : Token) : Valid grammar (.leaf token)
  | node {rule : Rule} {parts : List Derivation} (isRule : grammar rule)
      (names : parts.map name = rule.expansion.map Symbol.name)
      (valid : ∀ part ∈ parts, Valid grammar part) : Valid grammar (.node rule parts)

end Derivation

/-- A rightmost derivation of some kinds of tokens, by rules of a grammar that are applied one after
the other. Each rule expands the last symbol that is still to be expanded: what stands behind it is
the end of what is derived. -/
inductive RightmostDerivation (grammar : Rule → Prop) (kinds : List String) :
    List String → List Rule → Prop
  | done : RightmostDerivation grammar kinds kinds []
  | expand {before settled : List String} {rule : Rule} {rules : List Rule} (isRule : grammar rule)
      (isSettled : settled <:+ kinds)
      (rest : RightmostDerivation grammar kinds
        (before ++ rule.expansion.map Symbol.name ++ settled) rules) :
      RightmostDerivation grammar kinds (before ++ rule.origin :: settled) (rule :: rules)

namespace Derivation

variable {grammar : Rule → Prop} {kinds : List String}

mutual

/-- The rules of a derivation, read backwards, expand its symbol into its tokens. -/
theorem Valid.expand {before settled : List String} {rules : List Rule} :
    {derivation : Derivation} → derivation.Valid grammar →
    derivation.leaves.map Token.kind ++ settled <:+ kinds →
    RightmostDerivation grammar kinds
      (before ++ derivation.leaves.map Token.kind ++ settled) rules →
    RightmostDerivation grammar kinds (before ++ derivation.name :: settled)
      (derivation.rules.reverse ++ rules)
  | .leaf token, _, _, rest => by
      simpa [name, leaves, Derivation.rules] using rest
  | .node rule parts, .node isRule names valid, isSettled, rest => by
      simp only [Derivation.rules, List.reverse_append, List.reverse_cons, List.reverse_nil,
        List.nil_append, List.cons_append]
      refine .expand isRule ((List.suffix_append _ _).trans isSettled) ?_
      rw [← names]
      exact Valid.expandOf valid isSettled rest

/-- The same for derivations side by side, of which the last is expanded first. -/
theorem Valid.expandOf {before settled : List String} {rules : List Rule} :
    {parts : List Derivation} → (∀ part ∈ parts, part.Valid grammar) →
    (leavesOf parts).map Token.kind ++ settled <:+ kinds →
    RightmostDerivation grammar kinds
      (before ++ (leavesOf parts).map Token.kind ++ settled) rules →
    RightmostDerivation grammar kinds (before ++ parts.map name ++ settled)
      ((rulesOf parts).reverse ++ rules)
  | [], _, _, rest => by simpa [leavesOf, rulesOf] using rest
  | part :: parts, valid, isSettled, rest => by
      simp only [leavesOf, List.map_append, List.append_assoc] at isSettled rest
      have inner : RightmostDerivation grammar kinds
          (before ++ part.name :: ((leavesOf parts).map Token.kind ++ settled))
          (part.rules.reverse ++ rules) :=
        Valid.expand (valid part (by simp)) isSettled (by simpa using rest)
      have outer : RightmostDerivation grammar kinds
          (before ++ [part.name] ++ parts.map name ++ settled)
          ((rulesOf parts).reverse ++ (part.rules.reverse ++ rules)) :=
        Valid.expandOf (fun other member => valid other (by simp [member]))
          ((List.suffix_append _ _).trans isSettled) (by simpa using inner)
      simpa [rulesOf] using outer

end

/-- The rules of a derivation in the reverse of the order in which a parse performs them are a
rightmost derivation. -/
theorem Valid.rightmost {derivation : Derivation} (valid : derivation.Valid grammar) :
    RightmostDerivation grammar (derivation.leaves.map Token.kind) [derivation.name]
      derivation.rules.reverse := by
  have finished : RightmostDerivation grammar (derivation.leaves.map Token.kind)
      ([] ++ derivation.leaves.map Token.kind ++ []) [] := by
    simpa using .done
  simpa using valid.expand (by simp) finished

end Derivation

end Lalr
