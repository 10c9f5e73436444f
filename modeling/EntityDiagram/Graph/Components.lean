/-!
# Strongly connected components

A directed graph with vertices in order and edges in the order in which they were added. Two
vertices belong to one component if each reaches the other. Components are listed in the order in
which a depth-first walk leaves them for good: the walk takes the vertices in order, goes from each
to its successors, newest edge first, and a component comes when the last of its members is
finished.
-/

namespace EntityDiagram

/-- A directed graph; there may be several edges between two vertices. -/
structure Digraph (α : Type) where
  vertices : List α
  edges : List (α × α)

namespace Digraph

variable {α : Type} [BEq α]

/-- The graph with every edge turned round. -/
def reversed (graph : Digraph α) : Digraph α :=
  { graph with edges := graph.edges.map Prod.swap }

/-- The vertices that some edge from a vertex leads to, newest edge first. -/
def successors (graph : Digraph α) (v : α) : List α :=
  ((graph.edges.filter (·.1 == v)).map Prod.snd).reverse

/-- A set of vertices together with all that one edge adds to it. -/
def expand (graph : Digraph α) (set : List α) : List α :=
  set ++ graph.vertices.filter fun v =>
    !set.contains v && graph.edges.any fun edge => edge.2 == v && set.contains edge.1

/-- A set of vertices after a number of expansions. -/
def expandTimes (graph : Digraph α) : Nat → List α → List α
  | 0, set => set
  | n + 1, set => graph.expandTimes n (graph.expand set)

/-- The vertices that a vertex reaches, itself included. As many expansions as there are vertices
find them all. -/
def reachable (graph : Digraph α) (v : α) : List α :=
  graph.expandTimes graph.vertices.length [v]

/-- The vertices that a vertex reaches and that reach it, in the order of the graph. -/
def component (graph : Digraph α) (v : α) : List α :=
  let forward := graph.reachable v
  let backward := graph.reversed.reachable v
  graph.vertices.filter fun w => forward.contains w && backward.contains w

/-- A depth-first walk: the vertices met so far, and those finished, in the order of finishing. -/
structure Walk (α : Type) where
  met : List α := []
  finished : List α := []

/-- The walk continued from a vertex, at most `depth` edges away from it. -/
def visit (graph : Digraph α) : (depth : Nat) → Walk α → α → Walk α
  | 0, walk, _ => walk
  | depth + 1, walk, v =>
    if walk.met.contains v then walk
    else
      let inner :=
        (graph.successors v).foldl (graph.visit depth) { walk with met := v :: walk.met }
      { inner with finished := inner.finished ++ [v] }

/-- The vertices in the order in which a depth-first walk finishes them. No way without repetition
is longer than the number of vertices, so this depth suffices. -/
def postorder (graph : Digraph α) : List α :=
  (graph.vertices.foldl (graph.visit graph.vertices.length) {}).finished

/-- The components of some vertices, each at the place of its last member. -/
def groups (graph : Digraph α) : List α → List (List α)
  | [] => []
  | v :: rest =>
    let members := graph.component v
    if rest.any members.contains then graph.groups rest else members :: graph.groups rest

/-- The strongly connected components in the order in which a depth-first walk leaves them. -/
def components (graph : Digraph α) : List (List α) := graph.groups graph.postorder

theorem subset_expand (graph : Digraph α) (set : List α) : set ⊆ graph.expand set :=
  List.subset_append_left _ _

theorem subset_expandTimes (graph : Digraph α) (n : Nat) (set : List α) :
    set ⊆ graph.expandTimes n set := by
  induction n generalizing set with
  | zero => exact fun _ h => h
  | succ n ih => exact fun _ h => ih _ (graph.subset_expand set h)

end Digraph

end EntityDiagram
