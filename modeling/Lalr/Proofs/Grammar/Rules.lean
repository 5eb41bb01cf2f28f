import Lalr.Grammar.Rule

/-!
# Sameness of rules

Rules are the same if they have the same origin and if the same symbols stand in them.
What is left out of trees, and what shape they have, does not count.
-/

namespace Lalr

/-- What tells a symbol from others. -/
def Symbol.identity (symbol : Symbol) : Bool × String := (symbol.isTerminal, symbol.name)

theorem Symbol.same_iff {symbol other : Symbol} :
    symbol.same other = true ↔ symbol.identity = other.identity := by
  simp [Symbol.same, Symbol.identity]

namespace Rule

variable {rule other third : Rule}

theorem sameExpansion_iff {symbols others : List Symbol} :
    sameExpansion symbols others = true ↔
      symbols.map Symbol.identity = others.map Symbol.identity := by
  induction symbols generalizing others with
  | nil => cases others <;> simp [sameExpansion]
  | cons symbol symbols ih =>
      cases others with
      | nil => simp [sameExpansion]
      | cons other others => simp [sameExpansion, ih, Symbol.same_iff]

theorem same_iff :
    rule.same other = true ↔ rule.origin = other.origin ∧
      rule.expansion.map Symbol.identity = other.expansion.map Symbol.identity := by
  simp [same, sameExpansion_iff]

@[simp] theorem same_refl (rule : Rule) : rule.same rule = true := same_iff.mpr ⟨rfl, rfl⟩

theorem same_symm (same : rule.same other = true) : other.same rule = true := by
  rw [same_iff] at same ⊢
  exact ⟨same.1.symm, same.2.symm⟩

theorem same_trans (same : rule.same other = true) (same' : other.same third = true) :
    rule.same third = true := by
  rw [same_iff] at same same' ⊢
  exact ⟨same.1.trans same'.1, same.2.trans same'.2⟩

/-- Rules that are the same cannot be told apart by looking for one that is the same. -/
theorem same_congr (same : rule.same other = true) (third : Rule) :
    third.same rule = third.same other := by
  rw [Bool.eq_iff_iff]
  exact ⟨fun first => same_trans first same, fun second => same_trans second (same_symm same)⟩

theorem names_of_same (same : rule.same other = true) :
    rule.expansion.map Symbol.name = other.expansion.map Symbol.name := by
  have names := congrArg (List.map Prod.snd) (same_iff.mp same).2
  rwa [List.map_map, List.map_map] at names

theorem length_of_same (same : rule.same other = true) :
    rule.expansion.length = other.expansion.length := by
  simpa using congrArg List.length (same_iff.mp same).2

end Rule

end Lalr
