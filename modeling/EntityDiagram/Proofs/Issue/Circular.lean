import EntityDiagram.Issue
import EntityDiagram.Proofs.Graph.Components
import EntityDiagram.Proofs.Keyed
import Mathlib.Data.Finset.Card
import Mathlib.Data.List.Forall2
import Mathlib.Data.Set.Basic

/-!
# Circles of foreign keys

Tables refer to each other by relationships, and a circle is a strongly connected component of at
least two tables. The main statement says that exactly one warning is given for each circle, that it
names the tables of the circle in alphabetical order, and that there are no other such warnings.
-/

namespace EntityDiagram

/-! ### Issues about circles -/

/-- The words with which every message about a circle begins, and no other message does. -/
def Issue.circularWords : String := "Circular foreign-key chain"

/-- Whether an issue is about a circle, as its message tells. -/
def Issue.tellsOfCircle (issue : Issue) : Bool :=
  circularWords.toList.isPrefixOf issue.message.toList

namespace Issue

theorem tellsOfCircle_iff {issue : Issue} :
    issue.tellsOfCircle = true ↔ ∃ tables, issue = .circular tables := by
  constructor
  · intro tells
    obtain ⟨rest, same⟩ := List.isPrefixOf_iff_prefix.mp tells
    -- No other message begins with this letter.
    have first : issue.message.toList.head? = some 'C' := by
      simp [← same, circularWords]
    cases issue with
    | circular tables => exact ⟨tables, rfl⟩
    | name thing fault =>
        have first : (thing.title ++ ": " ++ fault.message).toList.head? = some 'C' := first
        generalize fault.message = text at first
        cases thing <;> simp [NamedThing.title] at first
    | _ =>
        unfold message at first
        simp [NamedThing.title, toString] at first
  · rintro ⟨tables, rfl⟩
    have begun : (circular tables).message.toList =
        circularWords.toList ++ (" between " ++ String.intercalate ", " tables).toList := by
      unfold message
      simp [circularWords]
    exact List.isPrefixOf_iff_prefix.mpr (begun ▸ List.prefix_append _ _)

theorem filter_tellsOfCircle_eq_nil {issues : List Issue}
    (none : ∀ tables, .circular tables ∉ issues) : issues.filter tellsOfCircle = [] := by
  refine List.filter_eq_nil_iff.mpr fun issue member tells => ?_
  obtain ⟨tables, rfl⟩ := tellsOfCircle_iff.mp tells
  exact none tables member

theorem circular_not_mem_ofName (tables : List String) (thing : NamedThing) (text : String) :
    .circular tables ∉ ofName thing text := by
  simp [ofName]

theorem mem_when {condition : Bool} {issue other : Issue} :
    other ∈ when condition issue ↔ condition = true ∧ other = issue := by
  cases condition <;> simp [when]

end Issue

/-- A pass finds nothing that none of its steps finds. -/
theorem not_mem_flatMapWithEarlier {α β : Type} {f : List α → α → List β} {b : β}
    (none : ∀ before a, b ∉ f before a) (earlier items : List α) :
    b ∉ flatMapWithEarlier f earlier items := by
  induction items generalizing earlier with
  | nil => exact List.not_mem_nil
  | cons a rest ih =>
      rw [flatMapWithEarlier, List.mem_append]
      exact not_or.mpr ⟨none earlier a, ih (a :: earlier)⟩

namespace Table

variable (names : List String) (config : DialectConfig) (table : Table)

theorem circular_not_mem_fieldIssues (earlier : List Field) (field : Field) :
    .circular names ∉ table.fieldIssues config earlier field := by
  have type : .circular names ∉ table.typeIssues config field := by
    rw [typeIssues]
    split <;> simp [Issue.mem_when]
  simp [fieldIssues, Issue.circular_not_mem_ofName, Issue.mem_when, type]

theorem circular_not_mem_indexIssues (earlierTables : List Table) (earlier : List Index)
    (index : Index) : .circular names ∉ table.indexIssues earlierTables earlier index := by
  simp [indexIssues, Issue.mem_when]

theorem circular_not_mem_issues (earlier : List Table) :
    .circular names ∉ table.issues config earlier := by
  have fields : .circular names ∉
      flatMapWithEarlier (table.fieldIssues config) [] table.fields :=
    not_mem_flatMapWithEarlier (circular_not_mem_fieldIssues names config table) _ _
  have indexes : .circular names ∉
      flatMapWithEarlier (table.indexIssues earlier) [] table.indexes :=
    not_mem_flatMapWithEarlier (circular_not_mem_indexIssues names table earlier) _ _
  simp [issues, Issue.circular_not_mem_ofName, Issue.mem_when, fields, indexes]

end Table

/-! ### The last of equal members -/

variable {α : Type} [BEq α] [LawfulBEq α]

theorem mem_lastOccurrences {items : List α} {a : α} : a ∈ lastOccurrences items ↔ a ∈ items := by
  induction items with
  | nil => rfl
  | cons b rest ih =>
      rw [lastOccurrences]
      split
      · next again =>
        have again : b ∈ rest := by simpa using again
        rw [ih, List.mem_cons]
        exact ⟨.inr, fun member => member.elim (· ▸ again) id⟩
      · rw [List.mem_cons, List.mem_cons, ih]

theorem nodup_lastOccurrences (items : List α) : (lastOccurrences items).Nodup := by
  induction items with
  | nil => exact List.nodup_nil
  | cons b rest ih =>
      rw [lastOccurrences]
      split
      · exact ih
      · next last => exact List.nodup_cons.mpr ⟨by simpa [mem_lastOccurrences] using last, ih⟩

omit [BEq α] [LawfulBEq α] in
theorem one_lt_length_iff {items : List α} (nodup : items.Nodup) :
    1 < items.length ↔ {a | a ∈ items}.Nontrivial := by
  classical
  rw [← List.toFinset_card_of_nodup nodup, Finset.one_lt_card_iff_nontrivial, Finset.Nontrivial,
    List.coe_toFinset]

theorem pairwise_mergeSort (names : List String) : names.mergeSort.Pairwise (· ≤ ·) := by
  have sorted := @List.pairwise_mergeSort String (fun a b => decide (a ≤ b))
    (fun a b c => by simpa using String.le_trans) (fun a b => by simpa using String.le_total a b)
    names
  simpa using sorted

namespace Diagram

variable {diagram : Diagram} {a b : String}

/-- Some table has the id. -/
def HasTable (diagram : Diagram) (id : String) : Prop := ∃ table ∈ diagram.tables, table.id = id

/-- A relationship leads from one table to another. -/
structure Refers (diagram : Diagram) (a b : String) : Prop where
  different : a ≠ b
  source : diagram.HasTable a
  target : diagram.HasTable b
  drawn : ∃ r ∈ diagram.relationships, r.startTableId = a ∧ r.endTableId = b

/-- References lead from each of two tables to the other. -/
def Entangled (diagram : Diagram) (a b : String) : Prop :=
  Relation.ReflTransGen diagram.Refers a b ∧ Relation.ReflTransGen diagram.Refers b a

/-- A strongly connected component of the references with at least two tables. -/
structure IsCircle (diagram : Diagram) (circle : Set String) : Prop where
  nontrivial : circle.Nontrivial
  component : ∀ a ∈ circle, ∀ b, b ∈ circle ↔ diagram.Entangled a b

/-- The last of the tables with an id has the name. -/
def LastNamed (diagram : Diagram) (id name : String) : Prop :=
  ∃ before table after, diagram.tables = before ++ table :: after ∧ table.id = id ∧
    table.name = name ∧ ∀ later ∈ after, later.id ≠ id

/-- The names for the tables of a circle, one for each of them, in alphabetical order. -/
structure Names (diagram : Diagram) (circle : Set String) (names : List String) : Prop where
  sorted : names.Pairwise (· ≤ ·)
  each : ∃ ids : List String, ids.Nodup ∧ (∀ id, id ∈ ids ↔ id ∈ circle) ∧
    List.Forall₂ diagram.LastNamed ids names

/-- A warning about a circle, which lists the names of its tables. -/
def WarnsOf (diagram : Diagram) (circle : Set String) (issue : Issue) : Prop :=
  ∃ names, diagram.Names circle names ∧ issue.severity = .warning ∧
    issue.message = "Circular foreign-key chain between " ++ String.intercalate ", " names

/-! ### The graph of references -/

theorem mem_vertices_references : a ∈ diagram.references.vertices ↔ diagram.HasTable a := by
  rw [references, mem_lastOccurrences, List.mem_map, HasTable]

theorem adjacent_references : diagram.references.Adjacent a b ↔ diagram.Refers a b := by
  constructor
  · intro edge
    obtain ⟨r, kept, same⟩ := List.mem_map.mp edge
    obtain ⟨rfl, rfl⟩ := Prod.mk.inj same
    obtain ⟨drawn, ⟨different, source⟩, target⟩ : r ∈ diagram.relationships ∧
        (r.startTableId ≠ r.endTableId ∧ diagram.HasTable r.startTableId) ∧
          diagram.HasTable r.endTableId := by
      simpa [Keyed.contains_iff, HasTable] using kept
    exact ⟨different, source, target, r, drawn, rfl, rfl⟩
  · rintro ⟨different, source, target, r, drawn, rfl, rfl⟩
    refine List.mem_map.mpr ⟨r, List.mem_filter.mpr ⟨drawn, ?_⟩, rfl⟩
    simpa [Keyed.contains_iff] using ⟨⟨different, source⟩, target⟩

theorem connected_references : diagram.references.Connected a b ↔ diagram.Entangled a b := by
  have same : diagram.references.Adjacent = diagram.Refers := by
    ext a b
    exact adjacent_references
  rw [Digraph.Connected, Digraph.Leads, same, Entangled]

theorem framed_references (diagram : Diagram) : diagram.references.Framed where
  source _ _ edge := mem_vertices_references.mpr (adjacent_references.mp edge).source
  target _ _ edge := mem_vertices_references.mpr (adjacent_references.mp edge).target

/-! ### Which issues are about circles -/

theorem circular_not_mem_relationshipIssues (names : List String) (r : Relationship) :
    .circular names ∉ diagram.relationshipIssues r := by
  rw [relationshipIssues]
  split <;> simp [Issue.mem_when]

/-- All issues but those for circles are found before them, in the tables and relationships. -/
theorem filter_tellsOfCircle_issues (diagram : Diagram) (config : DialectConfig) :
    (diagram.issues config).filter Issue.tellsOfCircle = diagram.circularIssues := by
  have tables : ∀ names,
      .circular names ∉ flatMapWithEarlier (Table.issues config) [] diagram.tables := by
    intro names
    refine not_mem_flatMapWithEarlier ?_ _ _
    exact fun before table => Table.circular_not_mem_issues names config table before
  have relationships : ∀ names,
      .circular names ∉ diagram.relationships.flatMap diagram.relationshipIssues := by
    intro names member
    obtain ⟨r, -, found⟩ := List.mem_flatMap.mp member
    exact circular_not_mem_relationshipIssues names r found
  have circles : ∀ issue ∈ diagram.circularIssues, issue.tellsOfCircle = true := by
    intro issue member
    obtain ⟨ids, -, rfl⟩ := List.mem_map.mp member
    exact Issue.tellsOfCircle_iff.mpr ⟨_, rfl⟩
  rw [issues, List.filter_append, List.filter_append, Issue.filter_tellsOfCircle_eq_nil tables,
    Issue.filter_tellsOfCircle_eq_nil relationships, List.filter_eq_self.mpr circles]
  rfl

/-! ### Circles and their names -/

theorem Entangled.symm (h : diagram.Entangled a b) : diagram.Entangled b a := ⟨h.2, h.1⟩

theorem Entangled.trans {c : String} (h : diagram.Entangled a b) (k : diagram.Entangled b c) :
    diagram.Entangled a c :=
  ⟨h.1.trans k.1, k.2.trans h.2⟩

/-- Of two different entangled ids, both are ids of tables. -/
theorem Entangled.hasTable (h : diagram.Entangled a b) (different : a ≠ b) :
    diagram.HasTable a := by
  rcases h.1.cases_head with rfl | ⟨c, edge, -⟩
  · exact absurd rfl different
  · exact edge.source

theorem IsCircle.hasTable {circle : Set String} (h : diagram.IsCircle circle)
    (member : a ∈ circle) : diagram.HasTable a := by
  obtain ⟨b, inside, different⟩ := h.nontrivial.exists_ne a
  exact ((h.component a member b).mp inside).hasTable different.symm

/-- The last name of an id that some table has is the name of the last of its tables. -/
theorem lastNamed_lastNameOf {id : String} (h : diagram.HasTable id) :
    diagram.LastNamed id (diagram.lastNameOf id) := by
  obtain ⟨table, found⟩ : ∃ table, Keyed.find? diagram.tables.reverse id = some table := by
    obtain ⟨table, listed, same⟩ := h
    exact Option.isSome_iff_exists.mp
      (Keyed.find?_isSome_iff_exists.mpr ⟨table, List.mem_reverse.mpr listed, same⟩)
  obtain ⟨same, later, before, split, others⟩ := List.find?_eq_some_iff_append.mp found
  refine ⟨before.reverse, table, later.reverse, ?_, Keyed.hasKey_iff.mp same, ?_, ?_⟩
  · simpa using congrArg List.reverse split
  · rw [lastNameOf, found]
    rfl
  · intro other member
    simpa [Keyed.hasKey] using others other (List.mem_reverse.mp member)

/-- The sets of ids of the circles, in the order in which they are reported. -/
def circles (diagram : Diagram) : List (Set String) :=
  (diagram.references.components.filter fun ids => 1 < ids.length).map fun ids => {id | id ∈ ids}

/-- The component of a table consists of what is entangled with it. -/
theorem mem_component_references (h : diagram.HasTable a) :
    b ∈ diagram.references.component a ↔ diagram.Entangled a b := by
  rw [Digraph.mem_component (framed_references diagram), connected_references,
    mem_vertices_references]
  constructor
  · exact And.right
  · intro entangled
    refine ⟨?_, entangled⟩
    by_cases same : a = b
    · exact same ▸ h
    · exact entangled.symm.hasTable (Ne.symm same)

theorem mem_components_references {ids : List String} :
    ids ∈ diagram.references.components ↔
      ∃ a, diagram.HasTable a ∧ ids = diagram.references.component a := by
  simp only [Digraph.mem_components (framed_references diagram), mem_vertices_references]

theorem nodup_of_mem_components {ids : List String}
    (listed : ids ∈ diagram.references.components) : ids.Nodup := by
  obtain ⟨a, -, rfl⟩ := mem_components_references.mp listed
  exact Digraph.nodup_component (nodup_lastOccurrences _) a

/-- A component with at least two members is a circle. -/
theorem isCircle_component (h : diagram.HasTable a)
    (several : {id | id ∈ diagram.references.component a}.Nontrivial) :
    diagram.IsCircle {id | id ∈ diagram.references.component a} where
  nontrivial := several
  component b inside c := by
    have known : diagram.Entangled a b := (mem_component_references h).mp inside
    rw [Set.mem_ofPred_eq, mem_component_references h]
    exact ⟨known.symm.trans, known.trans⟩

/-- Every circle is the component of each of its tables. -/
theorem IsCircle.eq_component {circle : Set String} (h : diagram.IsCircle circle)
    (member : a ∈ circle) : circle = {id | id ∈ diagram.references.component a} := by
  ext b
  rw [h.component a member b, Set.mem_ofPred_eq, mem_component_references (h.hasTable member)]

theorem mem_circles {circle : Set String} : circle ∈ diagram.circles ↔ diagram.IsCircle circle := by
  constructor
  · intro listed
    obtain ⟨ids, kept, rfl⟩ := List.mem_map.mp listed
    obtain ⟨found, several⟩ := List.mem_filter.mp kept
    have nontrivial := (one_lt_length_iff (nodup_of_mem_components found)).mp
      (of_decide_eq_true several)
    obtain ⟨a, source, rfl⟩ := mem_components_references.mp found
    exact isCircle_component source nontrivial
  · intro h
    obtain ⟨a, member⟩ := h.nontrivial.nonempty
    have same := h.eq_component member
    have found : diagram.references.component a ∈ diagram.references.components :=
      mem_components_references.mpr ⟨a, h.hasTable member, rfl⟩
    have several : 1 < (diagram.references.component a).length :=
      (one_lt_length_iff (nodup_of_mem_components found)).mpr (same ▸ h.nontrivial)
    refine List.mem_map.mpr ⟨_, List.mem_filter.mpr ⟨found, ?_⟩, same.symm⟩
    exact decide_eq_true several

/-- Two different entangled ids are on a circle together. -/
theorem exists_mem_circles (h : diagram.Entangled a b) (different : a ≠ b) :
    ∃ circle ∈ diagram.circles, a ∈ circle ∧ b ∈ circle := by
  have source := h.hasTable different
  have first : a ∈ {id | id ∈ diagram.references.component a} :=
    (mem_component_references source).mpr ⟨.refl, .refl⟩
  have second : b ∈ {id | id ∈ diagram.references.component a} :=
    (mem_component_references source).mpr h
  have circle := isCircle_component source ⟨a, first, b, second, different⟩
  exact ⟨_, mem_circles.mpr circle, first, second⟩

theorem nodup_circles (diagram : Diagram) : diagram.circles.Nodup := by
  have framed := framed_references diagram
  refine List.Nodup.map_on ?_ ((Digraph.nodup_components framed).filter _)
  intro ids first others second same
  obtain ⟨a, source, rfl⟩ := mem_components_references.mp (List.mem_of_mem_filter first)
  obtain ⟨b, -, rfl⟩ := mem_components_references.mp (List.mem_of_mem_filter second)
  have self : a ∈ {id | id ∈ diagram.references.component a} :=
    (mem_component_references source).mpr ⟨.refl, .refl⟩
  rw [same] at self
  exact ((Digraph.mem_component_iff_eq framed (mem_vertices_references.mpr source)).mp self).symm

/-- The warning for a component gives each of its ids the name of the last table with it. -/
theorem warnsOf_component {ids : List String} (nodup : ids.Nodup)
    (tables : ∀ id ∈ ids, diagram.HasTable id) :
    diagram.WarnsOf {id | id ∈ ids} (.circular (ids.map diagram.lastNameOf).mergeSort) := by
  have named : List.Forall₂ diagram.LastNamed ids (ids.map diagram.lastNameOf) :=
    List.forall₂_map_right_iff.mpr
      (List.forall₂_same.mpr fun id member => lastNamed_lastNameOf (tables id member))
  -- Sorting the names puts the ids into another order.
  have together : Relation.Comp (List.Forall₂ diagram.LastNamed) List.Perm ids
      (ids.map diagram.lastNameOf).mergeSort := ⟨_, named, (List.mergeSort_perm _ _).symm⟩
  rw [List.forall₂_comp_perm_eq_perm_comp_forall₂] at together
  obtain ⟨sorted, perm, fits⟩ := together
  refine ⟨_, ⟨pairwise_mergeSort _, sorted, perm.nodup_iff.mp nodup, fun id => ?_, fits⟩, rfl, ?_⟩
  · exact perm.mem_iff.symm
  · unfold Issue.message
    rfl

/-- One warning is given for each circle, in the order of the circles. -/
theorem warnsOf_circularIssues (diagram : Diagram) :
    List.Forall₂ diagram.WarnsOf diagram.circles diagram.circularIssues := by
  rw [circles, circularIssues, List.forall₂_map_left_iff, List.forall₂_map_right_iff,
    List.forall₂_same]
  intro ids kept
  have found := List.mem_of_mem_filter kept
  refine warnsOf_component (nodup_of_mem_components found) fun id member => ?_
  obtain ⟨a, -, rfl⟩ := mem_components_references.mp found
  exact mem_vertices_references.mp
    ((Digraph.mem_component (framed_references diagram)).mp member).1

/-! ### Self-references and diagrams without a circle -/

/-- The diagram without the relationships that lead from a table to itself. -/
def withoutSelfReferences (diagram : Diagram) : Diagram :=
  { diagram with
    relationships := diagram.relationships.filter fun r => r.startTableId != r.endTableId }

/-- A table that refers to itself has no part in what is said about circles. -/
theorem circularIssues_withoutSelfReferences (diagram : Diagram) :
    diagram.withoutSelfReferences.circularIssues = diagram.circularIssues := by
  have same : diagram.withoutSelfReferences.references = diagram.references := by
    simp [references, withoutSelfReferences, List.filter_filter, Bool.and_assoc,
      Bool.and_comm]
  rw [circularIssues, circularIssues, same]
  rfl

/-- On every circle, references lead from a table back to it. -/
theorem IsCircle.exists_transGen {circle : Set String} (h : diagram.IsCircle circle) :
    ∃ id, Relation.TransGen diagram.Refers id id := by
  obtain ⟨a, inside, b, other, different⟩ := h.nontrivial
  obtain ⟨there, back⟩ := (h.component a inside b).mp other
  obtain same | onward := Relation.reflTransGen_iff_eq_or_transGen.mp there
  · exact absurd same.symm different
  · exact ⟨a, onward.trans_left back⟩

/-- The warnings about circles of foreign keys correspond to the circles: each circle is reported
once, nothing else is reported, and two different tables share a warning exactly if each refers to
the other, perhaps by way of further tables. -/
theorem circular_issues (diagram : Diagram) (config : DialectConfig) :
    ∃ circles : List (Set String),
      circles.Nodup ∧ (∀ circle, circle ∈ circles ↔ diagram.IsCircle circle) ∧
      List.Forall₂ diagram.WarnsOf circles
        ((diagram.issues config).filter Issue.tellsOfCircle) ∧
      (∀ a b, a ≠ b →
        ((∃ circle ∈ circles, a ∈ circle ∧ b ∈ circle) ↔ diagram.Entangled a b)) ∧
      (diagram.withoutSelfReferences.issues config).filter Issue.tellsOfCircle =
        (diagram.issues config).filter Issue.tellsOfCircle ∧
      ((∀ id, ¬ Relation.TransGen diagram.Refers id id) →
        (diagram.issues config).filter Issue.tellsOfCircle = []) := by
  simp only [filter_tellsOfCircle_issues, circularIssues_withoutSelfReferences]
  refine ⟨diagram.circles, nodup_circles diagram, fun _ => mem_circles,
    warnsOf_circularIssues diagram, ?_, trivial, ?_⟩
  · intro a b different
    constructor
    · rintro ⟨circle, listed, first, second⟩
      exact ((mem_circles.mp listed).component a first b).mp second
    · intro entangled
      exact exists_mem_circles entangled different
  · intro acyclic
    have none : diagram.circles = [] := by
      refine List.eq_nil_iff_forall_not_mem.mpr fun circle listed => ?_
      obtain ⟨id, round⟩ := (mem_circles.mp listed).exists_transGen
      exact acyclic id round
    have warnings := warnsOf_circularIssues diagram
    rw [none] at warnings
    exact List.forall₂_nil_left_iff.mp warnings

end Diagram

end EntityDiagram
