import Mathlib.Algebra.Ring.Nat
import Mathlib.Data.List.Perm.Subperm
import Mathlib.Logic.Relation
import Lalr.Proofs.Machine.Checking
import Lalr.Proofs.Machine.Tracking

/-!
# Sizes of derivations

A derivation has more nodes than its tokens account for only where rules have a
single symbol that derives any of them. If no symbol derives itself, such rules
follow one another no more often than there are rules, and the number of tokens
bounds the size of a derivation. If moreover the table cannot come back to a state
over symbols that derive nothing, the number of tokens also bounds how many
derivations lie on a stack.
-/

namespace Lalr

open Relation

variable {σ : Type} [DecidableEq σ] {table : Table σ} {starting : σ}

namespace Table

/-- One step of rewriting: a rule of the table expands one of some symbols. -/
inductive Expands (table : Table σ) : List String → List String → Prop
  | expand {rule : Rule} (hasRule : table.HasRule rule) (before after : List String) :
      Expands table (before ++ rule.origin :: after)
        (before ++ rule.expansion.map Symbol.name ++ after)

/-- Whether a state moves on to another at a symbol that derives the empty text. -/
def Skips (table : Table σ) (source target : σ) : Prop :=
  ∃ symbol, table.Moves source symbol target ∧ ReflTransGen table.Expands [symbol] []

section Expanding

variable {left right left' right' : List String}

theorem Expands.frame (expands : table.Expands left right) (before after : List String) :
    table.Expands (before ++ left ++ after) (before ++ right ++ after) := by
  cases expands with
  | expand hasRule inner outer =>
      simpa using Expands.expand hasRule (before ++ inner) (outer ++ after)

theorem expands_append (first : ReflTransGen table.Expands left right)
    (second : ReflTransGen table.Expands left' right') :
    ReflTransGen table.Expands (left ++ left') (right ++ right') := by
  have before : ReflTransGen table.Expands (left ++ left') (right ++ left') :=
    first.lift (· ++ left') fun _ _ step => by simpa using step.frame [] left'
  have after : ReflTransGen table.Expands (right ++ left') (right ++ right') :=
    second.lift (right ++ ·) fun _ _ step => by simpa using step.frame right []
  exact before.trans after

end Expanding

section Counting

variable {α : Type} {step : Nat → α → Nat} {entries : List α}

private theorem le_foldl (grows : ∀ sum entry, sum ≤ step sum entry) (sum : Nat) :
    sum ≤ entries.foldl step sum := by
  induction entries generalizing sum with
  | nil => exact Nat.le_refl _
  | cons entry entries ih => exact Nat.le_trans (grows sum entry) (ih _)

private theorem le_foldl_of_mem (grows : ∀ sum entry, sum ≤ step sum entry) {entry : α}
    (member : entry ∈ entries) {least : Nat} (reaches : ∀ sum, least ≤ step sum entry)
    (sum : Nat) : least ≤ entries.foldl step sum := by
  induction entries generalizing sum with
  | nil => cases member
  | cons other entries ih =>
      rcases List.mem_cons.mp member with rfl | member
      · exact Nat.le_trans (reaches sum) (le_foldl grows _)
      · exact ih member _

omit [DecidableEq σ] in
private theorem le_longer (entry : String × Action σ) (longest : Nat) :
    longest ≤ match entry.2 with
      | .shift _ => longest
      | .reduce rule => max longest rule.expansion.length := by
  cases entry.2 with
  | shift => exact Nat.le_refl _
  | reduce => exact Nat.le_max_left _ _

/-- No rule of the table is longer than the longest one. -/
theorem length_le_longestRule {rule : Rule} (hasRule : table.HasRule rule) :
    rule.expansion.length ≤ table.longestRule := by
  rcases hasRule with ⟨state, kind, row, found, entry⟩
  have grows (longest : Nat) (entry : String × Action σ) := le_longer entry longest
  refine le_foldl_of_mem (fun longest row => le_foldl grows longest) (mem_of_assoc? found)
    (fun longest => ?_) 0
  exact le_foldl_of_mem grows (mem_of_assoc? entry) (fun longest => Nat.le_max_right _ _) longest

end Counting

/-- A bound for the number of rules in a derivation of some number of tokens. -/
def derivationBound (table : Table σ) (tokens : Nat) : Nat :=
  (table.longestRule + 1) ^ ((table.reductions.length + 1) * tokens + table.reductions.length)

/-- A bound for the number of reductions in which the derivations on a stack have come about, by the
number of tokens below them. -/
def parseBound (table : Table σ) (tokens : Nat) : Nat :=
  (tokens * (table.rows.length + 1) + table.rows.length) * table.derivationBound tokens

omit [DecidableEq σ] in
theorem derivationBound_mono (table : Table σ) {fewer more : Nat} (most : fewer ≤ more) :
    table.derivationBound fewer ≤ table.derivationBound more :=
  Nat.pow_le_pow_right (by omega)
    (Nat.add_le_add_right (Nat.mul_le_mul_left _ most) _)

omit [DecidableEq σ] in
theorem parseBound_mono (table : Table σ) {fewer more : Nat} (most : fewer ≤ more) :
    table.parseBound fewer ≤ table.parseBound more :=
  Nat.mul_le_mul (Nat.add_le_add_right (Nat.mul_le_mul_right _ most) _)
    (table.derivationBound_mono most)

end Table

namespace Derivation

open Table

variable {part : Derivation} {parts : List Derivation}

theorem length_leavesOf_reverse : (leavesOf parts.reverse).length = (leavesOf parts).length := by
  induction parts with
  | nil => rfl
  | cons part parts ih => simp [leavesOf, ih, Nat.add_comm]

theorem length_rulesOf_reverse : (rulesOf parts.reverse).length = (rulesOf parts).length := by
  induction parts with
  | nil => rfl
  | cons part parts ih => simp [rulesOf, ih, Nat.add_comm]

theorem expands_leavesOf
    (each : ∀ part ∈ parts,
      ReflTransGen table.Expands [part.name] (part.leaves.map Token.kind)) :
    ReflTransGen table.Expands (parts.map name) ((leavesOf parts).map Token.kind) := by
  induction parts with
  | nil => exact .refl
  | cons part parts ih =>
      simp only [leavesOf, List.map_cons, List.map_append]
      exact expands_append (each part (by simp))
        (ih fun other member => each other (by simp [member]))

/-- The symbol of a derivation derives its tokens. -/
theorem Valid.expands (valid : part.Valid table.HasRule) :
    ReflTransGen table.Expands [part.name] (part.leaves.map Token.kind) := by
  induction valid with
  | leaf token => exact .refl
  | node isRule names _ each =>
      have step := Expands.expand isRule [] []
      rw [← names] at step
      exact .head (by simpa [name] using step) (expands_leavesOf each)

/-- Some symbols derive any one of them whose siblings have no tokens. -/
theorem expands_of_siblings {left right : List Derivation}
    (valid : ∀ other ∈ left ++ part :: right, other.Valid table.HasRule)
    (before : leavesOf left = []) (after : leavesOf right = []) :
    ReflTransGen table.Expands ((left ++ part :: right).map name) [part.name] := by
  have vanishing {parts : List Derivation} (within : ∀ other ∈ parts,
      other ∈ left ++ part :: right)
      (empty : leavesOf parts = []) : ReflTransGen table.Expands (parts.map name) [] := by
    simpa [empty] using
      expands_leavesOf fun other member => (valid other (within other member)).expands
  have first := vanishing (fun other member => by simp [member]) before
  have last := vanishing (fun other member => by simp [member]) after
  simpa using expands_append first (expands_append (.refl (a := [part.name])) last)

theorem mem_origins {rule : Rule} (hasRule : table.HasRule rule) :
    rule.origin ∈ table.reductions.map fun entry => entry.2.origin := by
  rcases hasRule with ⟨state, kind, reduces⟩
  exact List.mem_map.mpr ⟨_, mem_reductions reduces, rfl⟩

theorem rulesOf_length_le {most : Nat} (each : ∀ part ∈ parts, part.rules.length ≤ most) :
    (rulesOf parts).length ≤ parts.length * most := by
  induction parts with
  | nil => simp [rulesOf]
  | cons part parts ih =>
      have first := each part (by simp)
      have rest := ih fun other member => each other (by simp [member])
      simp only [rulesOf, List.length_append, List.length_cons, Nat.succ_mul]
      omega

/-- Below a number of different symbols that all derive the symbol of a derivation there are only so
many others to come before a symbol is repeated. By induction on the derivation: either each part of
it has fewer tokens, or one has them all and its symbol is derived by one symbol more. -/
theorem Valid.rules_length_le_pow (acyclic : ∀ name, ¬TransGen table.Expands [name] [name])
    (valid : part.Valid table.HasRule) : ∀ above : List String, above.Nodup →
      above ⊆ (table.reductions.map fun entry => entry.2.origin) →
      (∀ symbol ∈ above, TransGen table.Expands [symbol] [part.name]) →
        part.rules.length ≤ (table.longestRule + 1) ^
          ((table.reductions.length + 1) * part.leaves.length +
            (table.reductions.length - above.length)) := by
  induction valid with
  | leaf token => exact fun _ _ _ _ => Nat.zero_le _
  | @node rule parts isRule names valid ih =>
      intro above distinct within derives
      have fresh : rule.origin ∉ above := fun member => acyclic _ (derives _ member)
      have distinct' : (rule.origin :: above).Nodup := List.nodup_cons.mpr ⟨fresh, distinct⟩
      have within' := List.cons_subset.mpr ⟨mem_origins isRule, within⟩
      have most : above.length + 1 ≤ table.reductions.length := by
        simpa using (List.subperm_of_subset distinct' within').length_le
      have exists_exponent : ∃ exponent,
          (table.reductions.length + 1) * (leavesOf parts).length +
            (table.reductions.length - above.length) = exponent + 1 :=
        ⟨_, (Nat.succ_pred_eq_of_pos (by omega)).symm⟩
      rcases exists_exponent with ⟨exponent, same⟩
      have smaller : ∀ part ∈ parts,
          part.rules.length ≤ (table.longestRule + 1) ^ exponent := by
        intro part member
        rcases List.append_of_mem member with ⟨left, right, rfl⟩
        simp only [leavesOf_append, leavesOf, List.length_append] at same
        by_cases all : (leavesOf left).length + (leavesOf right).length = 0
        · have before : leavesOf left = [] := List.length_eq_zero_iff.mp (by omega)
          have after : leavesOf right = [] := List.length_eq_zero_iff.mp (by omega)
          have step := Expands.expand isRule [] []
          rw [← names] at step
          have down : TransGen table.Expands [rule.origin] [part.name] :=
            .head' (by simpa using step) (expands_of_siblings valid before after)
          have bound := ih part member (rule.origin :: above) distinct' within' fun symbol member =>
            (List.mem_cons.mp member).elim (fun equal => equal ▸ down)
              fun member => (derives symbol member).trans down
          refine Nat.le_trans bound (Nat.pow_le_pow_right (by omega) ?_)
          simp only [before, after, List.length_nil, List.length_cons, Nat.zero_add,
            Nat.add_zero] at same ⊢
          omega
        · have bound := ih part member [] .nil (List.nil_subset _) (by simp)
          refine Nat.le_trans bound (Nat.pow_le_pow_right (by omega) ?_)
          have fewer : (table.reductions.length + 1) * (part.leaves.length + 1) ≤
              (table.reductions.length + 1) *
                ((leavesOf left).length + (part.leaves.length + (leavesOf right).length)) :=
            Nat.mul_le_mul_left _ (by omega)
          rw [Nat.mul_succ] at fewer
          simp only [List.length_nil]
          omega
      have length : parts.length ≤ table.longestRule := by
        have lengths : parts.length = rule.expansion.length := by
          simpa using congrArg List.length names
        exact lengths ▸ length_le_longestRule isRule
      simp only [leaves, same, Derivation.rules, List.length_append, List.length_singleton]
      calc (rulesOf parts).length + 1
          ≤ parts.length * (table.longestRule + 1) ^ exponent +
            (table.longestRule + 1) ^ exponent :=
            Nat.add_le_add (rulesOf_length_le smaller) (Nat.pow_pos (by omega))
        _ ≤ table.longestRule * (table.longestRule + 1) ^ exponent +
              (table.longestRule + 1) ^ exponent :=
            Nat.add_le_add_right (Nat.mul_le_mul_right _ length) _
        _ = (table.longestRule + 1) ^ (exponent + 1) := by
            rw [Nat.pow_succ, Nat.mul_comm _ (_ + 1), Nat.succ_mul]

/-- The number of tokens bounds the size of a derivation. -/
theorem Valid.rules_length_le (acyclic : ∀ name, ¬TransGen table.Expands [name] [name])
    (valid : part.Valid table.HasRule) :
    part.rules.length ≤ table.derivationBound part.leaves.length :=
  valid.rules_length_le_pow acyclic [] .nil (List.nil_subset _) (by simp)

/-- How many derivations lie on a stack, by induction on the path: those on top that have no tokens
come with as many different states, and every other one has a token. -/
theorem exists_sources (skipless : ∀ state, ¬TransGen table.Skips state state)
    {states : List σ} {symbols : List String} (path : table.Path starting states symbols) :
    ∀ parts : List Derivation, parts.map name = symbols →
      (∀ part ∈ parts, part.Valid table.HasRule) →
        ∃ sources : List σ, sources.Nodup ∧
          sources ⊆ table.rows.map Prod.fst ∧
          (∀ source ∈ sources, ∀ top, states.head? = some top →
            TransGen table.Skips source top) ∧
          parts.length ≤
            (leavesOf parts).length * (table.rows.length + 1) + sources.length := by
  induction path with
  | start =>
      intro parts names _
      rcases List.map_eq_nil_iff.mp names with rfl
      exact ⟨[], .nil, List.nil_subset _, by simp, by simp⟩
  | @move source target below symbol symbols path moves ih =>
      intro parts names valid
      rcases List.map_eq_cons_iff.mp names with ⟨part, rest, rfl, rfl, tail⟩
      rcases ih rest tail fun other member => valid other (by simp [member]) with
        ⟨sources, distinct, within, skipping, most⟩
      by_cases empty : part.leaves = []
      · have skips : table.Skips source target :=
          ⟨part.name, moves, by simpa [empty] using (valid part (by simp)).expands⟩
        have known : source ∈ table.rows.map Prod.fst := by
          rcases moves with ⟨row, found, _⟩
          exact List.mem_map.mpr ⟨_, mem_of_assoc? found, rfl⟩
        have fresh : source ∉ sources := fun member =>
          skipless source (skipping source member source rfl)
        refine ⟨source :: sources, List.nodup_cons.mpr ⟨fresh, distinct⟩,
          List.cons_subset.mpr ⟨known, within⟩, ?_, ?_⟩
        · intro other member top found
          rcases Option.some.inj found with rfl
          rcases List.mem_cons.mp member with rfl | member
          · exact .single skips
          · exact (skipping other member source rfl).tail skips
        · simp only [leavesOf, empty, List.nil_append, List.length_cons]
          omega
      · refine ⟨[], .nil, List.nil_subset _, by simp, ?_⟩
        have few : sources.length ≤ table.rows.length := by
          simpa using (List.subperm_of_subset distinct within).length_le
        have some : 1 ≤ part.leaves.length := List.length_pos_iff.mpr empty
        have more : (1 + (leavesOf rest).length) * (table.rows.length + 1) ≤
            (part.leaves.length + (leavesOf rest).length) * (table.rows.length + 1) :=
          Nat.mul_le_mul_right _ (by omega)
        rw [Nat.add_mul, Nat.one_mul] at more
        simp only [leavesOf, List.length_append, List.length_cons, List.length_nil]
        omega

/-- The number of tokens bounds how many reductions the derivations on a stack have taken. -/
theorem rulesOf_length_le_parseBound
    (acyclic : ∀ name, ¬TransGen table.Expands [name] [name])
    (skipless : ∀ state, ¬TransGen table.Skips state state) {states : List σ}
    (path : table.Path starting states (parts.map name))
    (valid : ∀ part ∈ parts, part.Valid table.HasRule) :
    (rulesOf parts).length ≤ table.parseBound (leavesOf parts).length := by
  rcases exists_sources skipless path parts rfl valid with ⟨sources, distinct, within, _, most⟩
  have few : sources.length ≤ table.rows.length := by
    simpa using (List.subperm_of_subset distinct within).length_le
  have each : ∀ part ∈ parts,
      part.rules.length ≤ table.derivationBound (leavesOf parts).length := by
    intro part member
    refine Nat.le_trans ((valid part member).rules_length_le acyclic)
      (table.derivationBound_mono ?_)
    rcases List.append_of_mem member with ⟨left, right, rfl⟩
    simp only [leavesOf_append, leavesOf, List.length_append]
    omega
  exact Nat.le_trans (rulesOf_length_le each) (Nat.mul_le_mul_right _ (by omega))

end Derivation

end Lalr
