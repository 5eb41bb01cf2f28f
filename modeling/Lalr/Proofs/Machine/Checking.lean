import Lalr.Proofs.Machine.Coherence
import Lalr.Proofs.Pairs

/-!
# Checking tables

Whether a table is proper is a question about all paths of its shift entries, of
which there are infinitely many. It can still be answered by going through the
entries: from the states where a rule is reduced one goes back along all entries,
symbol by symbol, and looks where one ends up.
-/

namespace Lalr.Table

variable {σ : Type} [DecidableEq σ] {table : Table σ} {starting : σ}

/-- The shift entries of a table, each with the state that it leads from and the one that it leads
to. -/
def entries (table : Table σ) : List (σ × String × σ) :=
  table.rows.flatMap fun (source, row) => row.filterMap fun (symbol, action) =>
    match action with
    | .shift target => some (source, symbol, target)
    | .reduce _ => none

/-- The reductions of a table, each with the state in which it takes place. -/
def reductions (table : Table σ) : List (σ × Rule) :=
  table.rows.flatMap fun (state, row) => row.filterMap fun (_, action) =>
    match action with
    | .shift _ => none
    | .reduce rule => some (state, rule)

/-- Whether the row of a state moves on at a symbol. -/
def goesOn (table : Table σ) (symbol : String) (state : σ) : Bool :=
  match (table.row? state).bind fun row => assoc? row symbol with
  | some (.shift _) => true
  | _ => false

/-- Whether all paths to some states have certain symbols on top, and whether all states that are
reached by going back along these symbols pass a test. -/
def goesBack (table : Table σ) (starting : σ)
    (test : σ → Bool) : List String → List σ → Bool
  | [], tops => tops.all test
  | symbol :: symbols, tops =>
    let entering := table.entries.filter fun (_, _, target) => tops.contains target
    !tops.contains starting && entering.all (fun (_, other, _) => other == symbol) &&
      table.goesBack starting test symbols (entering.map (·.1))

/-- Whether the entries of a table show that it is proper. -/
def isProper (table : Table σ) (start : String) (starting ending : σ) : Bool :=
  (assoc? table.starts start == some starting && assoc? table.ends start == some ending) &&
  (table.starts.all (fun (_, state) => (table.row? state).isSome) &&
    table.ends.all (fun (_, state) => (table.row? state).isSome)) &&
  table.entries.all (fun (source, symbol, target) =>
    (table.row? target).isSome && target != starting && symbol != Token.endKind &&
      (target != ending || (source == starting && symbol == start)) &&
      table.entries.all fun (_, symbol', target') => target' != target || symbol' == symbol) &&
  table.reductions.all fun (state, rule) =>
    table.goesBack starting (table.goesOn rule.origin)
      (rule.expansion.map Symbol.name).reverse [state]

theorem mem_entries {source target : σ} {symbol : String}
    (moves : table.Moves source symbol target) : (source, symbol, target) ∈ table.entries := by
  rcases moves with ⟨row, found, entry⟩
  exact List.mem_flatMap.mpr ⟨_, mem_of_assoc? found,
    List.mem_filterMap.mpr ⟨_, mem_of_assoc? entry, rfl⟩⟩

theorem mem_reductions {state : σ} {kind : String} {rule : Rule}
    (reduces : table.Reduces state kind rule) : (state, rule) ∈ table.reductions := by
  rcases reduces with ⟨row, found, entry⟩
  exact List.mem_flatMap.mpr ⟨_, mem_of_assoc? found,
    List.mem_filterMap.mpr ⟨_, mem_of_assoc? entry, rfl⟩⟩

theorem goesOn_iff {symbol : String} {state : σ} :
    table.goesOn symbol state = true ↔ ∃ target, table.Moves state symbol target := by
  unfold goesOn Moves
  cases found : table.row? state with
  | none => simp
  | some row =>
      cases entry : assoc? row symbol with
      | none => simp [entry]
      | some action => cases action <;> simp [entry]

/-- Going back from some states finds on every path what it looks for. -/
theorem goesBack_sound {test : σ → Bool} {handle : List String} :
    ∀ {tops states : List σ} {top : σ} {symbols : List String},
      table.Path starting states symbols → states.head? = some top → top ∈ tops →
        table.goesBack starting test handle tops = true →
          handle <+: symbols ∧
            ∃ base, (states.drop handle.length).head? = some base ∧ test base = true := by
  induction handle with
  | nil =>
      intro tops states top symbols _ first member found
      exact ⟨List.nil_prefix, top, first, List.all_eq_true.mp found top member⟩
  | cons symbol handle ih =>
      intro tops states top symbols path first member found
      simp only [goesBack, Bool.and_eq_true] at found
      rcases found with ⟨⟨notStarting, same⟩, found⟩
      cases path with
      | start =>
          rcases Option.some.inj first with rfl
          simp [member] at notStarting
      | @move source target below other symbols path moves =>
          rcases Option.some.inj first with rfl
          have entering : (source, other, target) ∈
              table.entries.filter fun (_, _, target) => tops.contains target :=
            List.mem_filter.mpr ⟨mem_entries moves, by simpa using member⟩
          have same : other = symbol := by
            simpa using List.all_eq_true.mp same _ entering
          rcases same with rfl
          rcases ih path rfl (List.mem_map.mpr ⟨_, entering, rfl⟩) found with
            ⟨isPrefix, base, based, passes⟩
          exact ⟨List.cons_prefix_cons.mpr ⟨rfl, isPrefix⟩, base, based, passes⟩

/-- A table that passes the check is proper. -/
theorem proper_of_isProper {start : String} {ending : σ}
    (checked : table.isProper start starting ending = true) :
    table.Proper start starting ending := by
  simp only [isProper, Bool.and_eq_true, beq_iff_eq, List.all_eq_true, Bool.or_eq_true,
    bne_iff_ne] at checked
  rcases checked with ⟨⟨⟨⟨starts, ends⟩, startRows, endRows⟩, entries⟩, reductions⟩
  have entry {source target : σ} {symbol : String} (moves : table.Moves source symbol target) :=
    entries _ (mem_entries moves)
  refine {
    starts, ends
    symbol_unique := fun first second => ?_
    handle := fun path reduces => ?_
    target_row := fun moves => (entry moves).1.1.1.1
    start_row := fun found => startRows _ (mem_of_assoc? found)
    end_row := fun found => endRows _ (mem_of_assoc? found)
    not_moves_starting := fun moves => (entry moves).1.1.1.2 rfl
    moves_ending := fun moves => (entry moves).1.2.resolve_left fun other => other rfl
    not_moves_end := fun moves => (entry moves).1.1.2 rfl }
  · exact ((entry second).2 _ (mem_entries first)).resolve_left fun other => other rfl
  · rcases goesBack_sound path rfl (List.mem_singleton_self _)
        (reductions _ (mem_reductions reduces)) with
      ⟨isPrefix, base, based, passes⟩
    rcases goesOn_iff.mp passes with ⟨target, moves⟩
    exact ⟨isPrefix, base, target, by simpa using based, moves⟩

end Lalr.Table
