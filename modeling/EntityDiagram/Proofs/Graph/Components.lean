import EntityDiagram.Proofs.Graph.Reachability

/-!
# Each component once

The depth-first walk finishes every vertex that it meets, and it starts from every vertex, so that
the order of finishing lists the vertices of the graph. Connected vertices have the same component,
which is kept at the place of the last of them. So each component is listed exactly once.
-/

namespace EntityDiagram.Digraph

variable {α : Type} {graph : Digraph α}

/-! ### The walk -/

/-- What a walk may do between two moments: it meets vertices, and finishes those that it meets. -/
structure Walk.Extends (graph : Digraph α) (before after : Walk α) : Prop where
  met : before.met ⊆ after.met
  finished : before.finished ⊆ after.finished
  settled : ∀ v ∈ after.met, v ∈ before.met ∨ v ∈ after.finished
  inside : ∀ v ∈ after.finished, v ∈ before.finished ∨ v ∈ graph.vertices

namespace Walk.Extends

variable {first second third : Walk α}

theorem refl (graph : Digraph α) (walk : Walk α) : walk.Extends graph walk where
  met _ member := member
  finished _ member := member
  settled _ := .inl
  inside _ := .inl

theorem trans (h : first.Extends graph second) (k : second.Extends graph third) :
    first.Extends graph third where
  met _ member := k.met (h.met member)
  finished _ member := k.finished (h.finished member)
  settled v member := by
    rcases k.settled v member with earlier | done
    · exact (h.settled v earlier).imp_right fun done => k.finished done
    · exact .inr done
  inside v member := by
    rcases k.inside v member with earlier | vertex
    · exact h.inside v earlier
    · exact .inr vertex

/-- Steps that each extend a walk extend it together. -/
theorem foldl {step : Walk α → α → Walk α} {vs : List α}
    (extends_step : ∀ walk : Walk α, ∀ v ∈ vs, walk.Extends graph (step walk v)) (walk : Walk α) :
    walk.Extends graph (vs.foldl step walk) := by
  induction vs generalizing walk with
  | nil => exact refl graph walk
  | cons v rest ih =>
      have later := ih (fun walk w member => extends_step walk w (List.mem_cons_of_mem _ member))
      exact (extends_step walk v List.mem_cons_self).trans (later (step walk v))

/-- If each step meets its vertex, all of them are met in the end. -/
theorem mem_met_foldl {step : Walk α → α → Walk α} {vs : List α}
    (extends_step : ∀ walk : Walk α, ∀ v ∈ vs, walk.Extends graph (step walk v))
    (meets : ∀ walk, ∀ v ∈ vs, v ∈ (step walk v).met) (walk : Walk α) :
    ∀ v ∈ vs, v ∈ (vs.foldl step walk).met := by
  induction vs generalizing walk with
  | nil => simp
  | cons w rest ih =>
      have later := fun walk v (member : v ∈ rest) =>
        extends_step walk v (List.mem_cons_of_mem _ member)
      intro v member
      rcases List.mem_cons.mp member with rfl | inRest
      · exact (foldl later _).met (meets walk v List.mem_cons_self)
      · refine ih later ?_ (step walk w) v inRest
        exact fun walk v member => meets walk v (List.mem_cons_of_mem _ member)

end Walk.Extends

variable [BEq α] [LawfulBEq α] {v w : α}

theorem mem_successors : w ∈ graph.successors v ↔ graph.Adjacent v w := by
  simp [successors, Adjacent]

/-- Going on to the successors of a vertex finishes what it meets, if each visit does. -/
theorem extends_successors (framed : graph.Framed) {depth : Nat}
    (visits : ∀ w ∈ graph.vertices, ∀ walk : Walk α,
      walk.Extends graph (graph.visit depth walk w)) (v : α) (walk : Walk α) :
    walk.Extends graph ((graph.successors v).foldl (graph.visit depth) walk) :=
  .foldl (fun walk w member => visits w (framed.target v w (mem_successors.mp member)) walk) walk

/-- Visiting a vertex finishes what it meets. -/
theorem extends_visit (framed : graph.Framed) {depth : Nat} (vertex : v ∈ graph.vertices)
    (walk : Walk α) : walk.Extends graph (graph.visit depth walk v) := by
  induction depth generalizing v walk with
  | zero => exact .refl graph walk
  | succ depth ih =>
      rw [visit]
      split
      · exact .refl graph walk
      · have inner := extends_successors framed (fun w vertex => ih vertex) v
          { walk with met := v :: walk.met }
        refine ⟨?_, ?_, ?_, ?_⟩
        · exact fun w member => inner.met (List.mem_cons_of_mem _ member)
        · exact fun w member => List.mem_append_left _ (inner.finished member)
        · intro w member
          rcases inner.settled w member with earlier | done
          · rcases List.mem_cons.mp earlier with rfl | before
            · exact .inr (List.mem_append_right _ (List.mem_singleton_self w))
            · exact .inl before
          · exact .inr (List.mem_append_left _ done)
        · intro w member
          rcases List.mem_append.mp member with done | self
          · exact inner.inside w done
          · exact .inr (List.mem_singleton.mp self ▸ vertex)

theorem mem_met_visit (framed : graph.Framed) (depth : Nat) (walk : Walk α) (v : α) :
    v ∈ (graph.visit (depth + 1) walk v).met := by
  rw [visit]
  split
  · next met => simpa using met
  · have visits : ∀ w ∈ graph.vertices, ∀ walk : Walk α,
        walk.Extends graph (graph.visit depth walk w) :=
      fun w vertex walk => extends_visit framed vertex walk
    have inner := extends_successors framed visits v { walk with met := v :: walk.met }
    exact inner.met List.mem_cons_self

/-- The walk finishes the vertices of the graph. -/
theorem mem_postorder (framed : graph.Framed) : v ∈ graph.postorder ↔ v ∈ graph.vertices := by
  have visits : ∀ walk : Walk α, ∀ v ∈ graph.vertices,
      walk.Extends graph (graph.visit graph.vertices.length walk v) :=
    fun walk v vertex => extends_visit framed vertex walk
  have whole := Walk.Extends.foldl visits {}
  constructor
  · exact fun finished => (whole.inside v finished).resolve_left List.not_mem_nil
  · intro vertex
    have meets : ∀ walk : Walk α, ∀ v ∈ graph.vertices,
        v ∈ (graph.visit graph.vertices.length walk v).met := by
      intro walk v vertex
      obtain ⟨depth, same⟩ : ∃ depth, graph.vertices.length = depth + 1 :=
        Nat.exists_eq_add_one.mpr (List.length_pos_of_mem vertex)
      exact same ▸ mem_met_visit framed depth walk v
    have met := Walk.Extends.mem_met_foldl visits meets {} v vertex
    exact (whole.settled v met).resolve_left List.not_mem_nil

/-! ### The components -/

variable {order members : List α}

omit [LawfulBEq α] in
theorem exists_of_mem_groups (listed : members ∈ graph.groups order) :
    ∃ v ∈ order, members = graph.component v := by
  induction order with
  | nil => simp [groups] at listed
  | cons v rest ih =>
      have later : members ∈ graph.groups rest → ∃ w ∈ v :: rest, members = graph.component w := by
        intro inRest
        obtain ⟨w, member, same⟩ := ih inRest
        exact ⟨w, List.mem_cons_of_mem _ member, same⟩
      rw [groups] at listed
      split at listed
      · exact later listed
      · rcases List.mem_cons.mp listed with same | inRest
        · exact ⟨v, List.mem_cons_self, same⟩
        · exact later inRest

/-- A vertex is in the component of another exactly if both have the same one. -/
theorem mem_component_iff_eq (framed : graph.Framed) (vertex : w ∈ graph.vertices) :
    w ∈ graph.component v ↔ graph.component v = graph.component w := by
  constructor
  · exact fun member => component_eq_of_connected framed ((mem_component framed).mp member).2
  · intro same
    rw [same]
    exact (mem_component framed).mpr ⟨vertex, .refl graph w⟩

/-- The component of each of the vertices is listed. -/
theorem component_mem_groups (framed : graph.Framed) (vertices : order ⊆ graph.vertices)
    (member : v ∈ order) : graph.component v ∈ graph.groups order := by
  induction order generalizing v with
  | nil => simp at member
  | cons w rest ih =>
      have later {u : α} (inRest : u ∈ rest) : graph.component u ∈ graph.groups rest :=
        ih (List.subset_of_cons_subset vertices) inRest
      rw [groups]
      split
      · next again =>
        rcases List.mem_cons.mp member with rfl | inRest
        · -- A later vertex has the same component, which is listed at its place.
          obtain ⟨u, inRest, inside⟩ : ∃ u ∈ rest, u ∈ graph.component v := by
            simpa using again
          have vertex := vertices (List.mem_cons_of_mem _ inRest)
          rw [(mem_component_iff_eq framed vertex).mp inside]
          exact later inRest
        · exact later inRest
      · rcases List.mem_cons.mp member with rfl | inRest
        · exact List.mem_cons_self
        · exact List.mem_cons_of_mem _ (later inRest)

/-- No component is listed twice. -/
theorem nodup_groups (framed : graph.Framed) (vertices : order ⊆ graph.vertices) :
    (graph.groups order).Nodup := by
  induction order with
  | nil => exact List.nodup_nil
  | cons v rest ih =>
      have later := ih (List.subset_of_cons_subset vertices)
      rw [groups]
      split
      · exact later
      · next last =>
        refine List.nodup_cons.mpr ⟨?_, later⟩
        intro listed
        obtain ⟨w, inRest, same⟩ := exists_of_mem_groups listed
        refine last (List.any_eq_true.mpr ⟨w, inRest, ?_⟩)
        have vertex := vertices (List.mem_cons_of_mem _ inRest)
        exact List.contains_iff_mem.mpr ((mem_component_iff_eq framed vertex).mpr same)

/-- The components of a graph are those of its vertices. -/
theorem mem_components (framed : graph.Framed) :
    members ∈ graph.components ↔ ∃ v ∈ graph.vertices, members = graph.component v := by
  constructor
  · intro listed
    obtain ⟨v, finished, same⟩ := exists_of_mem_groups listed
    exact ⟨v, (mem_postorder framed).mp finished, same⟩
  · rintro ⟨v, vertex, rfl⟩
    exact component_mem_groups framed (fun _ => (mem_postorder framed).mp)
      ((mem_postorder framed).mpr vertex)

theorem nodup_components (framed : graph.Framed) : graph.components.Nodup :=
  nodup_groups framed fun _ => (mem_postorder framed).mp

end EntityDiagram.Digraph
