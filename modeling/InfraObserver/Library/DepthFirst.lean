import Mathlib.Data.Finset.Card
import Mathlib.Logic.Relation

/-!
# Depth-first evaluation of a graph

A node of a graph has data, which name further nodes. The value of a node is
made of its data and the values of the nodes that it names. Evaluation goes
depth first, keeps the path that it is on, and fails at a node that does not exist
and at a node that is on the path already.

Evaluation ends after as many nested calls as there are nodes. It fails exactly
if a missing node or a cycle can be reached, and the value of a node does not
depend on the path on which it was reached.
-/

namespace DepthFirst

variable {K N R E : Type}

/-- Evaluate nodes one after the other; the first failure is the failure. -/
def evalAll (eval : K → Option (Except E R)) : List K → Option (Except E (List R))
  | [] => some (.ok [])
  | node :: nodes =>
      match eval node with
      | none => none
      | some (.error failure) => some (.error failure)
      | some (.ok value) => (evalAll eval nodes).map (Except.map (value :: ·))

theorem evalAll_nil (eval : K → Option (Except E R)) : evalAll eval [] = some (.ok []) := rfl

theorem evalAll_cons (eval : K → Option (Except E R)) (node : K) (nodes : List K) :
    evalAll eval (node :: nodes) =
      match eval node with
      | none => none
      | some (.error failure) => some (.error failure)
      | some (.ok value) => (evalAll eval nodes).map (Except.map (value :: ·)) := rfl

/-- A graph with what evaluation makes of it. -/
structure Graph (K N R E : Type) where
  find : K → Option N
  children : N → List K
  combine : N → List R → R
  missing : K → List K → E
  cyclic : K → List K → E

namespace Graph

variable (graph : Graph K N R E)

section Relations

/-- A node names another one. -/
def Edge (node child : K) : Prop :=
  ∃ data, graph.find node = some data ∧ child ∈ graph.children data

/-- A missing node or a cycle can be reached from a node. -/
def Broken (node : K) : Prop :=
  ∃ target, Relation.ReflTransGen graph.Edge node target ∧
    (graph.find target = none ∨ Relation.TransGen graph.Edge target target)

end Relations

variable [DecidableEq K]

/-- Evaluate a node that was reached on a path. The first argument bounds the
nesting of the calls. -/
def eval : ℕ → List K → K → Option (Except E R)
  | 0, _, _ => none
  | fuel + 1, path, node =>
      if node ∈ path then some (.error (graph.cyclic node path))
      else
        match graph.find node with
        | none => some (.error (graph.missing node path))
        | some data =>
            (evalAll (eval fuel (path ++ [node])) (graph.children data)).map
              (Except.map (graph.combine data))

theorem eval_succ (fuel : ℕ) (path : List K) (node : K) :
    graph.eval (fuel + 1) path node =
      if node ∈ path then some (.error (graph.cyclic node path))
      else
        match graph.find node with
        | none => some (.error (graph.missing node path))
        | some data =>
            (evalAll (graph.eval fuel (path ++ [node])) (graph.children data)).map
              (Except.map (graph.combine data)) := rfl

end Graph

/-! ## Lists of nodes -/

section Lists

variable {eval : K → Option (Except E R)} {nodes : List K}

theorem evalAll_eq_ok {values : List R} :
    evalAll eval nodes = some (.ok values) ↔
      List.Forall₂ (fun node value => eval node = some (.ok value)) nodes values := by
  induction nodes generalizing values with
  | nil => simp [evalAll_nil, eq_comm]
  | cons node nodes ih =>
      rw [evalAll_cons]
      rcases evaluated : eval node with - | (failure | value)
      · simp [evaluated, List.forall₂_cons_left_iff]
      · simp [evaluated, List.forall₂_cons_left_iff]
      · rcases rest : evalAll eval nodes with - | (failure | others)
        · simp [evaluated, List.forall₂_cons_left_iff, ← ih, rest]
        · simp [evaluated, List.forall₂_cons_left_iff, ← ih, rest, Except.map]
        · simp [evaluated, List.forall₂_cons_left_iff, ← ih, rest, Except.map,
            eq_comm]

theorem exists_of_evalAll_error
    {failure : E}
    (failed : evalAll eval nodes = some (.error failure)) :
    ∃ node ∈ nodes, eval node = some (.error failure) := by
  induction nodes with
  | nil => simp [evalAll_nil] at failed
  | cons node nodes ih =>
      rw [evalAll_cons] at failed
      rcases evaluated : eval node with - | (other | value)
      · simp [evaluated] at failed
      · simp only [evaluated, Option.some.injEq, Except.error.injEq] at failed
        exact ⟨node, List.mem_cons_self, by rw [evaluated, failed]⟩
      · rw [evaluated] at failed
        rcases rest : evalAll eval nodes with - | (other | values)
        · simp [rest] at failed
        · simp only [rest, Option.map_some, Except.map, Option.some.injEq, Except.error.injEq]
            at failed
          obtain ⟨culprit, listed, reason⟩ := ih (by rw [rest, failed])
          exact ⟨culprit, List.mem_cons_of_mem _ listed, reason⟩
        · simp [rest, Except.map] at failed

theorem evalAll_ne_none
    (decided : ∀ node ∈ nodes, eval node ≠ none) :
    evalAll eval nodes ≠ none := by
  induction nodes with
  | nil => simp [evalAll_nil]
  | cons node nodes ih =>
      rw [List.forall_mem_cons] at decided
      rw [evalAll_cons]
      rcases evaluated : eval node with - | (failure | value)
      · exact absurd evaluated decided.1
      · simp
      · simpa using ih decided.2

end Lists

/-! ## Evaluation -/

namespace Graph

variable (graph : Graph K N R E) [DecidableEq K]
variable {fuel : ℕ} {path : List K} {node target : K} {value : R} {failure : E}

theorem eval_eq_ok
    (evaluated : graph.eval (fuel + 1) path node = some (.ok value)) :
    node ∉ path ∧ ∃ data values, graph.find node = some data ∧ value = graph.combine data values ∧
      List.Forall₂ (fun child value => graph.eval fuel (path ++ [node]) child = some (.ok value))
        (graph.children data) values := by
  rw [eval_succ] at evaluated
  split_ifs at evaluated with repeated
  · simp at evaluated
  · refine ⟨repeated, ?_⟩
    cases found : graph.find node with
    | none => simp [found] at evaluated
    | some data =>
        rw [found] at evaluated
        rcases children : evalAll (graph.eval fuel (path ++ [node])) (graph.children data) with
          - | (failure | values)
        · simp [children] at evaluated
        · simp [children, Except.map] at evaluated
        · simp only [children, Option.map_some, Except.map, Option.some.injEq,
            Except.ok.injEq] at evaluated
          exact ⟨data, values, rfl, evaluated.symm, evalAll_eq_ok.mp children⟩

omit [DecidableEq K] in
theorem forall₂_unique
    {left right : K → R → Prop}
    {nodes : List K}
    {firsts seconds : List R}
    (related : List.Forall₂ left nodes firsts)
    (relatedAgain : List.Forall₂ right nodes seconds)
    (unique : ∀ node first second, left node first → right node second → first = second) :
    firsts = seconds := by
  induction related generalizing seconds with
  | nil =>
      cases relatedAgain
      rfl
  | cons head _ ih =>
      cases relatedAgain with
      | cons other tail => rw [unique _ _ _ head other, ih tail]

omit [DecidableEq K] in
theorem exists_of_forall₂
    {related : K → R → Prop}
    {nodes : List K}
    {values : List R}
    (all : List.Forall₂ related nodes values)
    (listed : node ∈ nodes) :
    ∃ value, related node value := by
  induction all with
  | nil => cases listed
  | cons head _ ih =>
      rcases List.mem_cons.mp listed with rfl | later
      · exact ⟨_, head⟩
      · exact ih later

/-- The value of a node does not depend on the path and the bound. -/
theorem eval_unique
    {otherFuel : ℕ}
    {otherPath : List K}
    {other : R}
    (evaluated : graph.eval fuel path node = some (.ok value))
    (again : graph.eval otherFuel otherPath node = some (.ok other)) :
    value = other := by
  induction fuel generalizing otherFuel path otherPath node value other with
  | zero => cases evaluated
  | succ fuel ih =>
      cases otherFuel with
      | zero => cases again
      | succ otherFuel =>
          obtain ⟨-, data, values, found, rfl, children⟩ := graph.eval_eq_ok evaluated
          obtain ⟨-, otherData, others, foundAgain, rfl, otherChildren⟩ := graph.eval_eq_ok again
          obtain rfl : data = otherData := Option.some.inj (found.symm.trans foundAgain)
          rw [forall₂_unique children otherChildren fun _ _ _ first second =>
            ih first second]

/-- Evaluation ends: the nodes of a path exist and differ, so it is no longer than
there are nodes. -/
theorem eval_ne_none
    {nodes : Finset K}
    (known : ∀ node, graph.find node ≠ none → node ∈ nodes)
    (distinct : path.Nodup)
    (existing : ∀ node ∈ path, graph.find node ≠ none)
    (enough : nodes.card < fuel + path.length) :
    graph.eval fuel path node ≠ none := by
  induction fuel generalizing path node with
  | zero =>
      have bounded : path.toFinset.card ≤ nodes.card := by
        refine Finset.card_le_card fun node listed => ?_
        exact known node (existing node (List.mem_toFinset.mp listed))
      rw [List.toFinset_card_of_nodup distinct] at bounded
      omega
  | succ fuel ih =>
      rw [eval_succ]
      split_ifs with repeated
      · simp
      · cases found : graph.find node with
        | none => simp
        | some data =>
            have longer : (path ++ [node]).Nodup := by
              rw [List.nodup_append_comm]
              exact List.nodup_cons.mpr ⟨repeated, distinct⟩
            have present : ∀ other ∈ path ++ [node], graph.find other ≠ none := by
              intro other listed
              rcases List.mem_append.mp listed with earlier | last
              · exact existing other earlier
              · rw [List.mem_singleton.mp last, found]
                simp
            have decided :
                evalAll (graph.eval fuel (path ++ [node])) (graph.children data) ≠ none :=
              evalAll_ne_none fun _ _ => ih longer present
                (by rw [List.length_append, List.length_singleton]; omega)
            simpa using decided

/-- A failure comes from a node that can be reached and that is missing, on the
path or on a cycle. -/
theorem broken_of_error
    (failed : graph.eval fuel path node = some (.error failure)) :
    ∃ target, Relation.ReflTransGen graph.Edge node target ∧
      (target ∈ path ∨ graph.find target = none ∨ Relation.TransGen graph.Edge target target) := by
  induction fuel generalizing path node failure with
  | zero => cases failed
  | succ fuel ih =>
      rw [eval_succ] at failed
      split_ifs at failed with repeated
      · exact ⟨node, .refl, .inl repeated⟩
      · cases found : graph.find node with
        | none => exact ⟨node, .refl, .inr (.inl found)⟩
        | some data =>
            rw [found] at failed
            rcases children : evalAll (graph.eval fuel (path ++ [node])) (graph.children data) with
              - | (reason | values)
            · simp [children] at failed
            · obtain ⟨child, listed, failedChild⟩ := exists_of_evalAll_error children
              have edge : graph.Edge node child := ⟨data, found, listed⟩
              obtain ⟨target, reached, why⟩ := ih failedChild
              rcases why with onPath | other
              · rcases List.mem_append.mp onPath with earlier | here
                · exact ⟨target, .head edge reached, .inl earlier⟩
                · -- The path has come back to the node itself.
                  rw [List.mem_singleton.mp here] at reached
                  exact ⟨node, .refl, .inr (.inr (.head' edge reached))⟩
              · exact ⟨target, .head edge reached, .inr other⟩
            · simp [children, Except.map] at failed

/-- What a successful evaluation has reached exists, is not on the path and is on
no cycle. -/
theorem sound_of_ok
    (evaluated : graph.eval fuel path node = some (.ok value))
    (reached : Relation.ReflTransGen graph.Edge node target) :
    graph.find target ≠ none ∧ target ∉ path ∧ ¬Relation.TransGen graph.Edge target target := by
  induction fuel generalizing path node value target with
  | zero => cases evaluated
  | succ fuel ih =>
      obtain ⟨fresh, data, values, found, -, children⟩ := graph.eval_eq_ok evaluated
      have below : ∀ child target, graph.Edge node child →
          Relation.ReflTransGen graph.Edge child target →
          graph.find target ≠ none ∧ target ∉ path ++ [node] ∧
            ¬Relation.TransGen graph.Edge target target := by
        rintro child target ⟨other, foundAgain, listed⟩ onward
        obtain rfl : data = other := Option.some.inj (found.symm.trans foundAgain)
        obtain ⟨value, evaluatedChild⟩ := exists_of_forall₂ children listed
        exact ih evaluatedChild onward
      cases reached.cases_head with
      | inl same =>
          subst same
          refine ⟨by simp [found], fresh, fun cycle => ?_⟩
          obtain ⟨child, edge, onward⟩ := Relation.TransGen.head'_iff.mp cycle
          exact (below child node edge onward).2.1 (by simp)
      | inr more =>
          obtain ⟨child, edge, onward⟩ := more
          obtain ⟨present, off, acyclic⟩ := below child target edge onward
          exact ⟨present, fun listed => off (List.mem_append_left _ listed), acyclic⟩

/-- Evaluation from the empty path fails exactly at nodes from which a missing node
or a cycle can be reached. -/
theorem eval_error_iff
    {nodes : Finset K}
    (known : ∀ node, graph.find node ≠ none → node ∈ nodes)
    (enough : nodes.card < fuel)
    (node : K) :
    (∃ failure, graph.eval fuel [] node = some (.error failure)) ↔ graph.Broken node := by
  constructor
  · rintro ⟨failure, failed⟩
    obtain ⟨target, reached, onPath | why⟩ := graph.broken_of_error failed
    · cases onPath
    · exact ⟨target, reached, why⟩
  · rintro ⟨target, reached, why⟩
    have ended : graph.eval fuel [] node ≠ none :=
      graph.eval_ne_none known List.nodup_nil nofun (by simpa using enough)
    rcases evaluated : graph.eval fuel [] node with - | (failure | value)
    · exact absurd evaluated ended
    · exact ⟨failure, rfl⟩
    · obtain ⟨present, -, acyclic⟩ := graph.sound_of_ok evaluated reached
      exact (why.elim present acyclic).elim

end Graph

end DepthFirst
