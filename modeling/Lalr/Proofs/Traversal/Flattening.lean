import Lalr.Traversal.Transformer
import Lalr.Proofs.Discretion
import Lalr.Proofs.Forest.Descent
import Lalr.Proofs.Shaping.Positions

/-!
# Transforming without recursion

A transformer may lay a tree out as a list of values, each after all that is below it, and
then work off the list with a stack. As long as the handlers leave the nodes of the tree as
they are, this does what recursion does: the same handlers are called with the same
arguments, one after the other, and what they do to the forest and the notes that they leave
are the same. The result is the same, and so is the failure if one of them fails, but for one
kind of failure: recursion goes through the children of a node step by step, and there a
failure that says that an iteration is over becomes a fault.
-/

namespace Lalr

open Forest

/-- Whether two workspaces are the same, and something is known of their forest. -/
def Workspace.SameWhile (known : Forest → Prop) (first second : Workspace) : Prop :=
  first = second ∧ known first.forest

/-- Whether two runs do the same wherever something is known of the forest, which stays true. -/
def Run.SameWhile {α : Type} (known : Forest → Prop) (first second : Run α) : Prop :=
  Agrees (Workspace.SameWhile known) first.run second.run

/-- Whether what is known of the forest stays true in a run. -/
abbrev Run.Spares {α : Type} (known : Forest → Prop) (run : Run α) : Prop :=
  run.SameWhile known run

namespace Run.SameWhile

variable {α β : Type} {known : Forest → Prop} {first second : Run α}

theorem equal (same : first.SameWhile known second) {before : Workspace}
    (here : known before.forest) : first.run.run before = second.run.run before := by
  rcases same.run before before ⟨rfl, here⟩ with ⟨answers, ends, _⟩
  exact Prod.ext answers ends

theorem symm (same : first.SameWhile known second) : second.SameWhile known first := by
  constructor
  rintro before _ ⟨rfl, here⟩
  rcases same.run before before ⟨rfl, here⟩ with ⟨answers, ends, known⟩
  exact ⟨answers.symm, ends.symm, ends ▸ known⟩

theorem trans {third : Run α} (same : first.SameWhile known second)
    (same' : second.SameWhile known third) : first.SameWhile known third := by
  constructor
  rintro before _ ⟨rfl, here⟩
  rcases same.run before before ⟨rfl, here⟩ with ⟨answers, ends, known⟩
  rcases same'.run before before ⟨rfl, here⟩ with ⟨answers', ends', _⟩
  exact ⟨answers.trans answers', ends.trans ends', known⟩

theorem pure (value : α) : Run.Spares known (Pure.pure value) := Agrees.pure _

theorem throw (failure : Failure) : Run.Spares known (MonadExcept.throw failure : Run α) :=
  Agrees.pure _

theorem bind {rest rest' : α → Run β} (same : first.SameWhile known second)
    (go : ∀ value, (rest value).SameWhile known (rest' value)) :
    Run.SameWhile known (first >>= rest) (second >>= rest') := by
  unfold Run.SameWhile
  rw [ExceptT.run_bind, ExceptT.run_bind]
  refine Agrees.bind same fun answer => ?_
  cases answer with
  | error failure => exact .pure _
  | ok value => exact go value

theorem work {first second : Work α} (same : Agrees (Workspace.SameWhile known) first second) :
    Run.SameWhile known (liftM first) (liftM second) :=
  Agrees.bind same fun _ => .pure _

theorem look_agrees (look : Forest → α) :
    Agrees (Workspace.SameWhile known) (Work.look look) (Work.look look) :=
  ⟨fun _ _ ⟨same, here⟩ => ⟨by rw [same], same, here⟩⟩

theorem look (look : Forest → α) : Run.Spares known (Work.look look) := work (look_agrees look)

/-- What is known may settle what is looked up. -/
theorem look_bind {look : Forest → α} {rest : α → Run β} {run : Run β} {value : α}
    (settles : ∀ {forest}, known forest → look forest = value)
    (same : (rest value).SameWhile known run) :
    Run.SameWhile known (Work.look look >>= rest) run := by
  constructor
  rintro before _ ⟨rfl, here⟩
  rw [← settles here] at same
  exact same.run before before ⟨rfl, here⟩

theorem plant_agrees {plant : Forest → α × Forest}
    (keeps : ∀ {forest}, known forest → known (plant forest).2) :
    Agrees (Workspace.SameWhile known) (Work.plant plant) (Work.plant plant) := by
  constructor
  rintro before _ ⟨rfl, here⟩
  exact ⟨rfl, rfl, keeps here⟩

theorem plant {plant : Forest → α × Forest}
    (keeps : ∀ {forest}, known forest → known (plant forest).2) :
    Run.Spares known (Work.plant plant) := work (plant_agrees keeps)

theorem tryCatch {rescue : Failure → Run α} (same : first.SameWhile known second)
    (spares : ∀ failure, (rescue failure).Spares known) :
    Run.SameWhile known (tryCatch first rescue) (MonadExcept.tryCatch second rescue) := by
  unfold Run.SameWhile
  rw [ExceptT.run_tryCatch, ExceptT.run_tryCatch]
  refine Agrees.bind same fun answer => ?_
  cases answer with
  | error failure => exact spares failure
  | ok value => exact .pure _

theorem iterating (same : first.SameWhile known second) :
    Run.SameWhile known (Transformer.iterating first) (Transformer.iterating second) :=
  .tryCatch same fun _ => .throw _

end Run.SameWhile

theorem Run.eq_of_run {α : Type} {first second : Run α}
    (same : ∀ before : Workspace, first.run.run before = second.run.run before) :
    first = second := by
  funext before
  exact same before

namespace Transformer

/-! ## Steps of an iteration -/

section Iterating

variable {α β : Type}

@[simp] theorem iterating_pure (value : α) : iterating (pure value : Run α) = pure value := rfl

@[simp] theorem iterating_look (look : Forest → α) :
    iterating (Work.look look : Run α) = Work.look look := rfl

@[simp] theorem iterating_plant (plant : Forest → α × Forest) :
    iterating (Work.plant plant : Run α) = Work.plant plant := rfl

/-- A step that consists of two is one after the other. -/
theorem iterating_bind (run : Run α) (rest : α → Run β) :
    iterating (run >>= rest) = iterating run >>= fun value => iterating (rest value) := by
  refine Run.eq_of_run fun before => ?_
  unfold iterating
  rw [Run.run_retold, Run.run_bind, Run.run_bind, Run.run_retold]
  rcases run.run.run before with ⟨failure | value, between⟩
  · rfl
  · exact (Run.run_retold _ _ _).symm

/-- A step within a step is no different from the step alone. -/
theorem iterating_iterating (run : Run α) : iterating (iterating run) = iterating run := by
  refine Run.eq_of_run fun before => ?_
  unfold iterating
  rw [Run.run_retold, Run.run_retold]
  rcases run.run.run before with ⟨failure | value, between⟩
  · dsimp only
    cases stops : failure.isStop with
    | true => rfl
    | false => simp [stops]
  · rfl

/-- What is made of some values is made step by step already. -/
theorem iterating_transformValues (transformer : Transformer) (descend : NodeId → Run Value)
    (values : List Value) :
    iterating (transformer.transformValues descend values) =
      transformer.transformValues descend values := by
  induction values with
  | nil => rfl
  | cons value rest ih =>
      rw [transformValues, iterating_bind, iterating_iterating]
      refine congrArg (_ >>= ·) (funext fun result => ?_)
      split
      · exact ih
      · rw [iterating_bind, ih]
        rfl

end Iterating

/-! ## Handlers that leave a tree alone -/

variable {transformer : Transformer} {original : Forest} {root : Value}

/-- Whether the handlers of a transformer leave the nodes of a tree as they are. -/
structure Spares (transformer : Transformer) (original : Forest) (root : Value) : Prop where
  handlers : ∀ {name handler}, transformer.handlerFor? name = some handler →
    ∀ values, (handler.call values).Spares (original.Retains root)
  fallback : ∀ {fallback}, transformer.fallback = some fallback →
    ∀ values, (fallback values).Spares (original.Retains root)
  tokenFallback : ∀ {fallback}, transformer.tokenFallback = some fallback →
    ∀ token, (fallback token).Spares (original.Retains root)

/-- The transformer that works by recursion. -/
abbrev recursive (transformer : Transformer) : Transformer := { transformer with kind := .copying }

/-- The transformer that works without recursion. -/
abbrev flattening (transformer : Transformer) : Transformer := { transformer with kind := .flat }

theorem spares_plant {α : Type} {plant : Forest → α × Forest}
    (keeps : ∀ forest : Forest, forest.Keeps (plant forest).2 []) :
    Run.Spares (original.Retains root) (Work.plant plant) :=
  .plant fun {forest} retains => retains.keep (keeps forest)

theorem spares_arguments (convention : Option Convention) (label : String) (children : SequenceId)
    (span : Option SpanId) :
    Run.Spares (original.Retains root)
      (liftM (Handler.arguments convention label children span)) := by
  refine .work ?_
  unfold Handler.arguments
  cases convention with
  | none => exact .pure _
  | some convention =>
      cases convention with
      | span => exact .pure _
      | inline => exact Run.SameWhile.look_agrees _
      | spanInline => exact Run.SameWhile.look_agrees _
      | labelled => exact Run.SameWhile.look_agrees _
      | tree =>
          refine Agrees.bind (Run.SameWhile.plant_agrees fun retains => ?_) fun _ => .pure _
          exact retains.keep (.addNode ..)

namespace Spares

variable (spares : transformer.Spares original root)

include spares

theorem rebuild (label : String) (children : SequenceId) (span : Option SpanId) :
    (transformer.rebuild label children span).Spares (original.Retains root) := by
  unfold Transformer.rebuild
  split
  next fallback has => exact spares.fallback has _
  next => exact .bind (spares_plant fun _ => .addNode ..) fun _ => .pure _

/-- Of a node whose children have been transformed both ways make the same. -/
theorem transformNode_same (id : NodeId) (children : SequenceId) :
    Run.SameWhile (original.Retains root) (transformer.flattening.transformNode id children)
      (transformer.recursive.transformNode id children) := by
  refine .bind (.look _) fun label => .bind (spares_plant fun _ => .openSpan ..) fun span => ?_
  have same (kind : TransformerKind) :
      { transformer with kind }.handlerFor? label = transformer.handlerFor? label := rfl
  simp only [same]
  cases handles : transformer.handlerFor? label with
  | none => exact spares.rebuild label children (some span)
  | some handler =>
      simp only [reduceCtorEq, decide_false, Bool.false_and, Bool.false_eq_true, if_false]
      exact .tryCatch (.bind (spares_arguments ..) (spares.handlers handles)) fun _ => .throw _

theorem transformToken_spares (token : Token) :
    (transformer.transformToken token).Spares (original.Retains root) := by
  unfold transformToken
  split
  next =>
    split
    next fallback has => exact spares.tokenFallback has token
    next => exact .pure _
  next handler handles => exact .tryCatch (spares.handlers handles _) fun _ => .throw _

/-- Of a leaf both ways make the same. -/
theorem transformLeaf_same {value : Value} (isLeaf : value.isNode = false)
    (descend descend' : NodeId → Run Value) :
    Run.SameWhile (original.Retains root) (transformer.flattening.transformValue descend value)
      (transformer.recursive.transformValue descend' value) := by
  cases value with
  | node id => cases isLeaf
  | token token =>
      unfold transformValue
      dsimp only
      split
      next => exact spares.transformToken_spares token
      next => exact .pure _
  | _ => exact .pure _

section Descent

variable {descend : NodeId → Run Value}
  (spared : ∀ id, (descend id).Spares (original.Retains root))

include spared

theorem transformValue_spares (value : Value) :
    (transformer.recursive.transformValue descend value).Spares (original.Retains root) := by
  cases isNode : value.isNode with
  | false =>
      have attended := spares.transformLeaf_same isNode descend descend
      exact attended.symm.trans attended
  | true =>
      rcases Value.exists_of_isNode isNode with ⟨id, rfl⟩
      exact spared id

theorem transformValues_spares (values : List Value) :
    (transformer.recursive.transformValues descend values).Spares (original.Retains root) := by
  induction values with
  | nil => exact .pure _
  | cons value rest ih =>
      refine .bind (spares.transformValue_spares spared value).iterating fun result => ?_
      split
      next => exact ih
      next => exact .bind ih fun results => .pure _

end Descent

/-- Recursion leaves the nodes of the tree as they are. -/
theorem transformTo_spares (depth : Nat) :
    ∀ id, (transformer.recursive.transformTo depth id).Spares (original.Retains root) := by
  induction depth with
  | zero => exact fun id => .pure _
  | succ depth ih =>
      intro id
      have attended := spares.transformNode_same id
      exact .bind (.look _) fun children => .bind (spares.transformValues_spares ih children)
        fun results => .bind (spares_plant fun _ => .addSequence ..) fun given =>
          (attended given).symm.trans (attended given)

end Spares

/-! ## The stack -/

/-- The values of a tree, each after all that is below it. -/
def postfixed (forest : Forest) (depth : Nat) (value : Value) : List Value :=
  (lastFirst forest depth value).reverse

theorem postfixed_leaf (forest : Forest) (depth : Nat) {value : Value}
    (isLeaf : value.isNode = false) : postfixed forest depth value = [value] := by
  cases value with
  | node id => cases isLeaf
  | _ => simp [postfixed, lastFirst]

theorem postfixed_node (forest : Forest) (depth : Nat) (id : NodeId) :
    postfixed forest (depth + 1) (.node id) =
      (forest.children id).flatMap (postfixed forest depth) ++ [.node id] := by
  have each : postfixed forest depth = fun value => (lastFirst forest depth value).reverse := rfl
  simp [postfixed, lastFirst, List.reverse_flatMap, Function.comp_def, each]

/-- What is made of the values that stand next to one another is what recursion makes of them; what
is discarded keeps its place on the stack until the node above is reached. -/
def WorksOff (transformer : Transformer) (original : Forest) (root : Value) (depth : Nat)
    (value : Value) : Prop :=
  ∀ rest made, Run.SameWhile (original.Retains root)
    (iterating (transformer.flattening.transformStack
      (postfixed original depth value ++ rest) made))
    (do
      let result ← iterating
        (transformer.recursive.transformValue (transformer.recursive.transformTo depth) value)
      iterating (transformer.flattening.transformStack rest (result :: made)))

theorem transformStack_leaf (transformer : Transformer) {value : Value}
    (isLeaf : value.isNode = false) (rest made : List Value) :
    transformer.transformStack (value :: rest) made =
      transformer.transformValue (return .node ·) value >>= fun result =>
        transformer.transformStack rest (result :: made) := by
  cases value with
  | node id => cases isLeaf
  | _ => rfl

/-- Working off a list leaves the nodes of the tree as they are. -/
theorem Spares.transformStack_spares (spares : transformer.Spares original root)
    (values : List Value) : ∀ made,
      (transformer.flattening.transformStack values made).Spares (original.Retains root) := by
  induction values with
  | nil => exact fun made => .pure made
  | cons value rest ih =>
      intro made
      cases isNode : value.isNode with
      | false =>
          have attended := spares.transformLeaf_same isNode (return .node ·) (return .node ·)
          rw [transformStack_leaf _ isNode]
          exact .bind (attended.trans attended.symm) fun result => ih _
      | true =>
          rcases Value.exists_of_isNode isNode with ⟨id, rfl⟩
          have attended := spares.transformNode_same id
          exact .bind (.look _) fun children => .bind (spares_plant fun _ => .addSequence ..)
            fun given => .bind ((attended given).trans (attended given).symm) fun result => ih _

section Nodes

variable {depth : Nat} {id : NodeId} {label : String} {children : List Value}

/-- A node finds what was made of its children on top of the stack. -/
theorem Spares.transformStack_node (spares : transformer.Spares original root)
    (below : original.Below root id) (has : original.HasNode id label children)
    {results : List Value} (size : results.length = children.length) (rest made : List Value) :
    Run.SameWhile (original.Retains root)
      (transformer.flattening.transformStack (.node id :: rest) (results.reverse ++ made))
      (do
        let given ← Work.plant fun forest => forest.addSequence (results.filter (· ≠ .discard))
        let result ← transformer.recursive.transformNode id given
        transformer.flattening.transformStack rest (result :: made)) := by
  rw [transformStack]
  refine .look_bind (fun retains => (retains below has).children_eq) ?_
  have top : ((results.reverse ++ made).take children.length).reverse = results := by
    simp [← size]
  have under : (results.reverse ++ made).drop children.length = made := by simp [← size]
  simp only [top, under]
  exact .bind (spares_plant fun _ => .addSequence ..) fun given =>
    .bind (spares.transformNode_same id given) fun result => spares.transformStack_spares rest _

/-- The children of a node are worked off one by one, after those that have been worked off before,
and then the node itself. Induction on the children that are left. -/
theorem Spares.transformStack_children (spares : transformer.Spares original root)
    (below : original.Below root id) (has : original.HasNode id label children)
    (rest made : List Value) (left : List Value) :
    ∀ done : List Value, done.length + left.length = children.length →
      (∀ child ∈ left, transformer.WorksOff original root depth child) →
      Run.SameWhile (original.Retains root)
        (iterating (transformer.flattening.transformStack
          (left.flatMap (postfixed original depth) ++ .node id :: rest) (done.reverse ++ made)))
        (do
          let results ← transformer.recursive.transformValues
            (transformer.recursive.transformTo depth) left
          let given ← Work.plant fun forest =>
            forest.addSequence (done.filter (· ≠ .discard) ++ results)
          let result ← iterating (transformer.recursive.transformNode id given)
          iterating (transformer.flattening.transformStack rest (result :: made))) := by
  induction left with
  | nil =>
      intro done size _
      have node := (spares.transformStack_node below has size rest made).iterating
      simpa [transformValues, iterating_bind] using node
  | cons child left ih =>
      intro done size works
      rw [List.forall_mem_cons] at works
      rw [List.flatMap_cons, List.append_assoc]
      refine (works.1 _ _).trans ?_
      rw [transformValues]
      simp only [bind_assoc]
      have spared := spares.transformTo_spares depth
      refine .bind (spares.transformValue_spares spared child).iterating fun result => ?_
      have size : (done ++ [result]).length + left.length = children.length := by
        simpa [Nat.add_assoc, Nat.add_comm 1] using size
      have goes := ih (done ++ [result]) size works.2
      rw [List.reverse_append, List.reverse_singleton, List.singleton_append,
        List.cons_append] at goes
      split
      next => simpa using goes
      next other =>
        have present : result ≠ .discard := other
        simpa [present] using goes

end Nodes

/-- A tree is worked off by its values in the order of the list. Induction on how far down the tree
goes. -/
theorem Spares.worksOff (spares : transformer.Spares original root) {depth : Nat} {value : Value}
    (ends : original.EndsWithin depth value) :
    (∀ id, value = .node id → original.Below root id) →
      transformer.WorksOff original root depth value := by
  induction ends with
  | leaf isLeaf =>
      intro _ rest made
      rw [postfixed_leaf _ _ isLeaf, List.singleton_append, transformStack_leaf _ isLeaf,
        iterating_bind]
      exact .bind (spares.transformLeaf_same isLeaf _ _).iterating fun result =>
        (spares.transformStack_spares rest _).iterating
  | @node depth id label children has _ ih =>
      intro inside rest made
      have below := inside id rfl
      have works : ∀ child ∈ children, transformer.WorksOff original root depth child :=
        fun child member => ih child member fun id same => .child below has (same ▸ member)
      have worked := spares.transformStack_children below has rest made children [] (by simp) works
      rw [postfixed_node, has.children_eq, List.append_assoc, List.singleton_append]
      refine worked.trans (.symm ?_)
      show Run.SameWhile _ (iterating (transformer.recursive.transformTo (depth + 1) id) >>= _) _
      simp only [transformTo, iterating_bind, iterating_look, iterating_plant,
        iterating_transformValues, bind_assoc, reduceCtorEq, if_false]
      refine .look_bind (fun retains => (retains below has).children_eq) ?_
      have spared := spares.transformValues_spares (spares.transformTo_spares depth) children
      refine .bind spared fun results =>
        .bind (spares_plant fun _ => .addSequence ..) fun given => ?_
      have attended := spares.transformNode_same id given
      exact .bind (attended.symm.trans attended).iterating fun result =>
        (spares.transformStack_spares rest _).iterating

/-- What a transformer gives once a list has been worked off: what was made of the root, which is
all that is then left on the stack. -/
def lastMade (made : List Value) : Run Value :=
  match made with
  | [result] => return orNothing result
  | _ => throw (.fault .malformedValue)

theorem lastMade_same (known : Forest → Prop) (made : List Value) :
    (lastMade made).SameWhile known (lastMade made) := by
  unfold lastMade
  split
  next => exact .pure _
  next => exact .throw _

/-- Transforming a tree by recursion is a step of transforming it without. -/
theorem transform_recursive (transformer : Transformer) {before : Workspace} {value : Value}
    (isTree : before.forest.IsTree value) (spares : transformer.Spares before.forest value) :
    (transformer.recursive.transform value).run.run before =
      (iterating (transformer.flattening.transform value)).run.run before := by
  have worked := spares.worksOff isTree.endsWithin (fun id => .root) [] []
  rw [List.append_nil] at worked
  -- At the end of the list there is nothing on the stack but what was made of the root.
  have whole := (worked.bind fun made => (lastMade_same _ made).iterating).equal
    (Retains.refl before.forest value)
  rw [bind_assoc, ← iterating_bind] at whole
  unfold iterating at whole ⊢
  rw [Run.run_retold] at whole ⊢
  exact whole.symm

/-! ## Failures that say that an iteration is over -/

/-- Whether a run fails with one of some failures where it says that an iteration is over. -/
def StopsBy {α : Type} (cause : Failure → Prop) (run : Run α) : Prop :=
  ∀ (before : Workspace) (failure : Failure), (run.run.run before).1 = .error failure →
    failure.isStop = true → cause failure

namespace StopsBy

variable {α β : Type} {cause : Failure → Prop}

theorem work (work : Work α) : StopsBy cause (liftM work) := fun _ _ failed => by cases failed

theorem pure (value : α) : StopsBy cause (Pure.pure value) := work (Pure.pure value)

theorem look (look : Forest → α) : StopsBy cause (Work.look look) := work (Work.look look)

theorem plant (plant : Forest → α × Forest) : StopsBy cause (Work.plant plant) :=
  work (Work.plant plant)

theorem bind {run : Run α} {rest : α → Run β} (first : StopsBy cause run)
    (goes : ∀ value, StopsBy cause (rest value)) : StopsBy cause (run >>= rest) := by
  intro before failure failed stops
  rw [Run.run_bind] at failed
  rcases ran : run.run.run before with ⟨failure' | value, between⟩
  · rw [ran] at failed
    cases failed
    exact first before failure (congrArg Prod.fst ran) stops
  · rw [ran] at failed
    exact goes value between failure failed stops

/-- What a handler fails with is reported, and a report does not say that an iteration is over. -/
theorem reporting (name : String) (subject : Value) (call : Run Value) :
    StopsBy cause (reporting name subject call) := by
  intro before failure failed stops
  unfold Transformer.reporting at failed
  rw [Run.run_retold] at failed
  rcases ran : call.run.run before with ⟨failure' | value, after⟩
  · rw [ran] at failed
    cases failed
    split at stops
    next blames => cases failure' <;> simp_all [Failure.isGrammar, Failure.isStop]
    next => cases stops
  · rw [ran] at failed
    cases failed

end StopsBy

end Transformer

end Lalr
