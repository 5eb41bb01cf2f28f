import Mathlib.Data.List.Perm.Basic
import Mathlib.Data.List.Sort
import Lalr.Proofs.Lexer.Making

/-!
# The order of terminals

The order in which terminals are tried is a total one, and no two terminals with different
names have the same place in it. Fewer terminals are therefore tried in the order that
they have among all.
-/

namespace Lalr.Lexer

theorem goesBefore_iff {a b : Terminal × Nat} :
    goesBefore a b = true ↔
      b.1.priority < a.1.priority ∨ a.1.priority = b.1.priority ∧
        (b.2 < a.2 ∨ a.2 = b.2 ∧
          (b.1.pattern.value.length < a.1.pattern.value.length ∨
            a.1.pattern.value.length = b.1.pattern.value.length ∧ a.1.name ≤ b.1.name)) := by
  unfold goesBefore
  grind

theorem goesBefore_trans (a b c : Terminal × Nat) (first : goesBefore a b = true)
    (second : goesBefore b c = true) : goesBefore a c = true := by
  rw [goesBefore_iff] at first second ⊢
  have names : a.1.name ≤ b.1.name → b.1.name ≤ c.1.name → a.1.name ≤ c.1.name :=
    String.le_trans
  grind

theorem goesBefore_total (a b : Terminal × Nat) :
    (goesBefore a b || goesBefore b a) = true := by
  rw [Bool.or_eq_true, goesBefore_iff, goesBefore_iff]
  have names := String.le_total a.1.name b.1.name
  grind

theorem name_eq_of_goesBefore {a b : Terminal × Nat} (before : goesBefore a b = true)
    (after : goesBefore b a = true) : a.1.name = b.1.name := by
  rw [goesBefore_iff] at before after
  have names : a.1.name ≤ b.1.name → b.1.name ≤ a.1.name → a.1.name = b.1.name :=
    String.le_antisymm
  grind

/-- Terminals with different names can stand in only one order in which each goes before all that
follow. -/
theorem eq_of_ordered {entries entries' : List (Terminal × Nat)}
    (different : (entries.map (·.1.name)).Nodup) (permuted : entries'.Perm entries)
    (ordered' : entries'.Pairwise fun a b => goesBefore a b = true)
    (ordered : entries.Pairwise fun a b => goesBefore a b = true) : entries' = entries := by
  refine List.Perm.eq_of_pairwise ?_ ordered' ordered permuted
  intro a b member member' before after
  exact List.inj_on_of_nodup_map different (permuted.subset member) member'
    (name_eq_of_goesBefore before after)

theorem pairwise_mergeSort (entries : List (Terminal × Nat)) :
    (entries.mergeSort goesBefore).Pairwise fun a b => goesBefore a b = true :=
  List.pairwise_mergeSort goesBefore_trans goesBefore_total entries

theorem nodup_names_of_measured {terminals : List Terminal} {entries : List (Terminal × Nat)}
    (distinct : (terminals.map Terminal.name).Nodup)
    (each : List.Forall₂ (fun terminal entry => measured terminal = .ok entry)
      terminals entries) :
    (entries.map (·.1.name)).Nodup := by
  rw [← map_fst_of_measured each, List.map_map] at distinct
  exact distinct

/-- The terminals of which something holds are tried in the order that they have among all. -/
theorem inOrder_filter {terminals ordered : List Terminal}
    (distinct : (terminals.map Terminal.name).Nodup) (went : inOrder terminals = .ok ordered)
    (kept : Terminal → Bool) : inOrder (terminals.filter kept) = .ok (ordered.filter kept) := by
  rcases inOrder_eq_ok.mp went with ⟨entries, each, rfl⟩
  refine inOrder_eq_ok.mpr ⟨entries.filter (kept ·.1), ?_, ?_⟩
  · refine List.rel_filter ?_ each
    intro terminal entry went
    show kept terminal = true ↔ kept entry.1 = true
    rw [fst_of_measured went]
  have same : (entries.filter (kept ·.1)).mergeSort goesBefore =
      (entries.mergeSort goesBefore).filter (kept ·.1) := by
    have permuted := (List.mergeSort_perm entries goesBefore).filter (kept ·.1)
    refine eq_of_ordered ?_ ((List.mergeSort_perm _ _).trans permuted.symm) (pairwise_mergeSort _)
      ((pairwise_mergeSort entries).filter _)
    refine (permuted.map _).nodup_iff.mpr ?_
    exact (nodup_names_of_measured distinct each).sublist (List.filter_sublist.map _)
  rw [same, List.filter_map]
  rfl

/-- Terminals are tried in the same order in whatever order they are given. -/
theorem inOrder_perm {terminals terminals' ordered : List Terminal}
    (distinct : (terminals.map Terminal.name).Nodup) (permuted : terminals'.Perm terminals)
    (went : inOrder terminals = .ok ordered) : inOrder terminals' = .ok ordered := by
  rcases inOrder_eq_ok.mp went with ⟨entries, each, rfl⟩
  rcases List.perm_comp_forall₂ permuted each with ⟨entries', each', permuted'⟩
  have sorted := List.mergeSort_perm entries goesBefore
  have same : entries'.mergeSort goesBefore = entries.mergeSort goesBefore := by
    refine eq_of_ordered ((sorted.map _).nodup_iff.mpr (nodup_names_of_measured distinct each)) ?_
      (pairwise_mergeSort entries') (pairwise_mergeSort entries)
    exact (List.mergeSort_perm entries' goesBefore).trans (permuted'.trans sorted.symm)
  exact inOrder_eq_ok.mpr ⟨entries', each', by rw [same]⟩

/-- Terminals that can be put in order are measurable. -/
theorem measurable_of_inOrder {terminals ordered : List Terminal}
    (went : inOrder terminals = .ok ordered) : ∀ terminal ∈ terminals, terminal.Measurable := by
  rcases inOrder_eq_ok.mp went with ⟨entries, each, _⟩
  intro terminal member
  rcases exists_of_mem_left each member with ⟨entry, _, measures⟩
  rcases bind_eq_ok.mp measures with ⟨width, known, _⟩
  exact ⟨width, known⟩

end Lalr.Lexer
