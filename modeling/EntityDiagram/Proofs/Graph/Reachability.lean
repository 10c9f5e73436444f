import EntityDiagram.Graph.Components
import Mathlib.Data.List.Basic
import Mathlib.Logic.Relation

/-!
# What a vertex reaches

A set of vertices is closed if no edge leaves it. An expansion of a set that is not closed finds a
vertex that was missing, so that after as many expansions as there are vertices the set is closed.
It then holds whatever there is a way to, and by construction nothing else.
-/

namespace EntityDiagram.Digraph

variable {α : Type} {graph : Digraph α} {v w : α}

/-- An edge leads from one vertex to another. -/
def Adjacent (graph : Digraph α) (v w : α) : Prop := (v, w) ∈ graph.edges

/-- A way along the edges, perhaps an empty one, leads from one vertex to another. -/
def Leads (graph : Digraph α) : α → α → Prop := Relation.ReflTransGen graph.Adjacent

/-- Two vertices of which each leads to the other. -/
def Connected (graph : Digraph α) (v w : α) : Prop := graph.Leads v w ∧ graph.Leads w v

/-- A graph whose edges lead from vertices to vertices. -/
structure Framed (graph : Digraph α) : Prop where
  source : ∀ v w, graph.Adjacent v w → v ∈ graph.vertices
  target : ∀ v w, graph.Adjacent v w → w ∈ graph.vertices

/-- A set of vertices that no edge leaves. -/
def Closed (graph : Digraph α) (set : List α) : Prop :=
  ∀ v ∈ set, ∀ w, graph.Adjacent v w → w ∈ set

/-- Whatever a member of a closed set leads to is in the set. -/
theorem Closed.mem_of_leads {set : List α} (closed : graph.Closed set) (member : v ∈ set)
    (way : graph.Leads v w) : w ∈ set := by
  induction way with
  | refl => exact member
  | tail _ edge ih => exact closed _ ih _ edge

/-! ### Edges turned round -/

@[simp] theorem adjacent_reversed : graph.reversed.Adjacent v w ↔ graph.Adjacent w v := by
  simp [Adjacent, reversed]

@[simp] theorem leads_reversed : graph.reversed.Leads v w ↔ graph.Leads w v := by
  have turned : graph.reversed.Adjacent = Function.swap graph.Adjacent := by
    ext a b
    exact adjacent_reversed
  rw [Leads, turned, Relation.reflTransGen_swap, Leads]

theorem Framed.reversed (framed : graph.Framed) : graph.reversed.Framed where
  source _ _ edge := framed.target _ _ (adjacent_reversed.mp edge)
  target _ _ edge := framed.source _ _ (adjacent_reversed.mp edge)

namespace Connected

theorem refl (graph : Digraph α) (v : α) : graph.Connected v v := ⟨.refl, .refl⟩

theorem symm (h : graph.Connected v w) : graph.Connected w v := ⟨h.2, h.1⟩

theorem trans {u : α} (h : graph.Connected u v) (k : graph.Connected v w) :
    graph.Connected u w :=
  ⟨Relation.ReflTransGen.trans h.1 k.1, Relation.ReflTransGen.trans k.2 h.2⟩

end Connected

/-! ### Expansions -/

variable [BEq α] [LawfulBEq α] {set : List α}

theorem mem_expand : w ∈ graph.expand set ↔
    w ∈ set ∨ w ∈ graph.vertices ∧ ∃ v ∈ set, graph.Adjacent v w := by
  by_cases member : w ∈ set
  · simp [expand, member]
  · simp [expand, member, Adjacent, and_comm]

theorem expand_of_closed (closed : graph.Closed set) : graph.expand set = set := by
  have nothing : ∀ w ∈ graph.vertices, ¬ ((!set.contains w &&
      graph.edges.any fun edge => edge.2 == w && set.contains edge.1) = true) := by
    intro w _ found
    obtain ⟨absent, edge, member, target, source⟩ : w ∉ set ∧ ∃ edge ∈ graph.edges,
        edge.2 = w ∧ edge.1 ∈ set := by simpa using found
    exact absent (closed edge.1 source w (target ▸ member))
  rw [expand, List.filter_eq_nil_iff.mpr nothing, List.append_nil]

theorem expandTimes_of_closed (closed : graph.Closed set) (n : Nat) :
    graph.expandTimes n set = set := by
  induction n with
  | zero => rfl
  | succ n ih => rw [expandTimes, expand_of_closed closed, ih]

/-- The vertices that a set does not hold. -/
def missing (graph : Digraph α) (set : List α) : List α :=
  graph.vertices.filter (!set.contains ·)

theorem mem_missing : v ∈ graph.missing set ↔ v ∈ graph.vertices ∧ v ∉ set := by
  simp [missing]

/-- What is missing from a larger set, counted among what is missing from the smaller one. -/
theorem missing_eq_filter {larger : List α} (included : set ⊆ larger) :
    graph.missing larger = (graph.missing set).filter (!larger.contains ·) := by
  rw [missing, missing, List.filter_filter]
  refine List.filter_congr fun v _ => ?_
  by_cases member : v ∈ set
  · simp [included member]
  · simp [member]

/-- Less is missing once a missing vertex is there. -/
theorem length_missing_lt {larger : List α} (included : set ⊆ larger) (found : v ∈ larger)
    (absent : v ∈ graph.missing set) :
    (graph.missing larger).length < (graph.missing set).length := by
  rw [missing_eq_filter included, List.length_filter_lt_length_iff_exists]
  exact ⟨v, absent, by simpa using found⟩

/-- An edge that leaves a set leads to a vertex that the expansion adds. -/
theorem length_missing_expand_lt (framed : graph.Framed) (leaves : ¬ graph.Closed set) :
    (graph.missing (graph.expand set)).length < (graph.missing set).length := by
  obtain ⟨v, member, w, edge, absent⟩ :
      ∃ v ∈ set, ∃ w, graph.Adjacent v w ∧ w ∉ set := by
    simpa [Closed] using leaves
  have vertex := framed.target v w edge
  exact length_missing_lt (graph.subset_expand set)
    (mem_expand.mpr (.inr ⟨vertex, v, member, edge⟩)) (mem_missing.mpr ⟨vertex, absent⟩)

/-- As many expansions as vertices are missing close a set. -/
theorem closed_expandTimes (framed : graph.Framed) {n : Nat}
    (enough : (graph.missing set).length ≤ n) : graph.Closed (graph.expandTimes n set) := by
  induction n generalizing set with
  | zero =>
      by_contra leaves
      exact Nat.not_lt_zero _ (Nat.lt_of_lt_of_le (length_missing_expand_lt framed leaves) enough)
  | succ n ih =>
      by_cases closed : graph.Closed set
      · rwa [expandTimes_of_closed closed]
      · have fewer := length_missing_expand_lt framed closed
        exact ih (Nat.le_of_lt_succ (Nat.lt_of_lt_of_le fewer enough))

/-- Expansions add nothing but what there is a way to. -/
theorem exists_leads_of_mem_expandTimes {n : Nat} (member : w ∈ graph.expandTimes n set) :
    ∃ v ∈ set, graph.Leads v w := by
  induction n generalizing set with
  | zero => exact ⟨w, member, .refl⟩
  | succ n ih =>
      obtain ⟨v, expanded, way⟩ := ih member
      rcases mem_expand.mp expanded with old | ⟨_, u, old, edge⟩
      · exact ⟨v, old, way⟩
      · exact ⟨u, old, .head edge way⟩

/-- A vertex reaches exactly what there is a way to. -/
theorem mem_reachable (framed : graph.Framed) : w ∈ graph.reachable v ↔ graph.Leads v w := by
  constructor
  · intro member
    obtain ⟨u, start, way⟩ := exists_leads_of_mem_expandTimes member
    rwa [List.mem_singleton.mp start] at way
  · intro way
    have closed : graph.Closed (graph.reachable v) :=
      closed_expandTimes framed (List.length_filter_le ..)
    exact closed.mem_of_leads (graph.subset_expandTimes _ _ (List.mem_singleton_self v)) way

/-! ### Components -/

theorem mem_component (framed : graph.Framed) :
    w ∈ graph.component v ↔ w ∈ graph.vertices ∧ graph.Connected v w := by
  simp [component, Connected, mem_reachable framed, mem_reachable framed.reversed]

omit [LawfulBEq α] in
theorem nodup_component (distinct : graph.vertices.Nodup) (v : α) : (graph.component v).Nodup :=
  distinct.filter _

/-- Connected vertices have one and the same component. -/
theorem component_eq_of_connected (framed : graph.Framed) (h : graph.Connected v w) :
    graph.component v = graph.component w := by
  refine List.filter_congr fun u _ => ?_
  rw [Bool.eq_iff_iff]
  simp only [Bool.and_eq_true, List.contains_iff_mem, mem_reachable framed,
    mem_reachable framed.reversed, leads_reversed]
  exact ⟨fun k => h.symm.trans k, fun k => h.trans k⟩

end EntityDiagram.Digraph
