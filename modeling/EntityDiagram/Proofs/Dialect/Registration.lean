import EntityDiagram.Dialect.Registry
import Mathlib.Data.List.Basic

/-!
# What registering an engine changes

Names lead to places, and places hold engines. Registering puts one engine into one place: the one
that its id leads to already, or a new one. From then on its id and its further names lead there;
all other names lead where they led before. So a look-up changes only if its name was given, or if
it led to the very place that is taken over. That happens to an engine whose alias is the id of the
one registered: the main statement tells the two cases apart.
-/

namespace EntityDiagram.Registry

/-- The registries that registering engines and choosing fallbacks lead to. -/
inductive Reachable : Registry → Prop where
  | empty : Reachable .empty
  | register {registry : Registry} (reached : Reachable registry) (engine : Engine)
      (aliases : List String) : Reachable (registry.register engine aliases)
  | setFallback {registry next : Registry} (reached : Reachable registry) {name : String}
      (known : registry.setFallback? name = some next) : Reachable next

theorem reachable_builtin : builtin.Reachable :=
  Dialect.all.foldlRecOn _ .empty fun _ reached dialect _ =>
    reached.register dialect.engine dialect.aliases

/-- The place that a name leads to when it is looked up. -/
def placeOf (registry : Registry) (name : String) : Nat :=
  (registry.place? (lookupName name)).getD registry.fallback

/-- The place for an engine that is registered. -/
def placeFor (registry : Registry) (engine : Engine) : Nat :=
  (registry.place? (Text.lower engine.config.id)).getD registry.engines.length

/-- The names under which an engine is registered, as they are stored. -/
def givenNames (engine : Engine) (aliases : List String) : List String :=
  (aliases.map Text.lower).reverse ++ [Text.lower engine.config.id]

variable {registry next : Registry} {engine : Engine} {aliases : List String} {name : String}

theorem find?_eq (registry : Registry) (name : String) :
    registry.find? name = registry.engines[registry.placeOf name]? := rfl

theorem mem_givenNames : name ∈ givenNames engine aliases ↔
    name = Text.lower engine.config.id ∨ ∃ given ∈ aliases, name = Text.lower given := by
  simp [givenNames, or_comm, eq_comm]

/-! ### One registration -/

theorem names_register (registry : Registry) (engine : Engine) (aliases : List String) :
    (registry.register engine aliases).names =
      (givenNames engine aliases).map (·, registry.placeFor engine) ++ registry.names := by
  simp only [register, placeFor, givenNames]
  cases registry.place? (Text.lower engine.config.id) <;> simp [Function.comp_def]

theorem fallback_register (registry : Registry) (engine : Engine) (aliases : List String) :
    (registry.register engine aliases).fallback = registry.fallback := rfl

/-- A place that was there holds what it held, unless it is the one for the new engine. -/
theorem getElem?_register {place : Nat} (inside : place < registry.engines.length) :
    (registry.register engine aliases).engines[place]? =
      if registry.place? (Text.lower engine.config.id) = some place then some engine
      else registry.engines[place]? := by
  simp only [register]
  cases taken : registry.place? (Text.lower engine.config.id) with
  | none => simp [List.getElem?_append_left inside]
  | some other =>
      by_cases same : other = place
      · simp [same, inside]
      · simp [same]

/-- Names that all lead to one place. -/
theorem lookup_map_mk (names : List String) (place : Nat) (name : String) :
    (names.map (·, place)).lookup name = if name ∈ names then some place else none := by
  induction names with
  | nil => rfl
  | cons head tail ih =>
      rw [List.map_cons, List.lookup_cons, ih]
      by_cases same : name = head
      · simp [same]
      · simp [same, beq_false_of_ne same]

/-- The given names lead to the place of the engine, and the others where they led before. -/
theorem place?_register (registry : Registry) (engine : Engine) (aliases : List String)
    (name : String) :
    (registry.register engine aliases).place? name =
      if name ∈ givenNames engine aliases then some (registry.placeFor engine)
      else registry.place? name := by
  rw [place?, names_register, List.lookup_append, lookup_map_mk]
  split <;> rfl

/-! ### All places hold an engine -/

/-- Names and fallback lead to engines. Where there is no engine yet, the fallback waits for the
first one. -/
structure WellPlaced (registry : Registry) : Prop where
  names : ∀ name place, registry.place? name = some place → place < registry.engines.length
  fallback : registry.fallback ≤ registry.engines.length - 1

namespace WellPlaced

theorem placeOf_lt (h : registry.WellPlaced) (held : registry.engines ≠ []) (name : String) :
    registry.placeOf name < registry.engines.length := by
  unfold placeOf
  cases found : registry.place? (lookupName name) with
  | none => exact Nat.lt_of_le_sub_one (List.length_pos_iff.mpr held) h.fallback
  | some place => exact h.names _ place found

/-- The place for a new engine is there once the engine is registered. -/
theorem placeFor_lt (h : registry.WellPlaced) (engine : Engine) (aliases : List String) :
    registry.placeFor engine < (registry.register engine aliases).engines.length := by
  simp only [placeFor, Registry.register]
  cases found : registry.place? (Text.lower engine.config.id) with
  | none => simp
  | some place => simpa using h.names _ place found

theorem empty : Registry.empty.WellPlaced :=
  ⟨fun _ _ found => (by cases found), Nat.le_refl _⟩

theorem register (h : registry.WellPlaced) (engine : Engine) (aliases : List String) :
    (registry.register engine aliases).WellPlaced := by
  have grows := registry.length_le_length_register engine aliases
  refine ⟨?_, Nat.le_trans h.fallback (Nat.sub_le_sub_right grows 1)⟩
  intro name place found
  rw [place?_register] at found
  split at found
  · obtain rfl := Option.some.inj found
    exact h.placeFor_lt engine aliases
  · exact Nat.lt_of_lt_of_le (h.names name place found) grows

theorem setFallback (h : registry.WellPlaced) (known : registry.setFallback? name = some next) :
    next.WellPlaced := by
  obtain ⟨place, found, rfl⟩ := Option.map_eq_some_iff.mp known
  exact ⟨h.names, Nat.le_sub_one_of_lt (h.names _ place found)⟩

end WellPlaced

theorem Reachable.wellPlaced (reached : registry.Reachable) : registry.WellPlaced := by
  induction reached with
  | empty => exact .empty
  | register _ engine aliases ih => exact ih.register engine aliases
  | setFallback _ known ih => exact ih.setFallback known

/-! ### Look-ups after a registration -/

/-- A name that was not given leads to the place to which it led before. -/
theorem placeOf_register (other : lookupName name ∉ givenNames engine aliases) :
    (registry.register engine aliases).placeOf name = registry.placeOf name := by
  rw [placeOf, place?_register, if_neg other, fallback_register, placeOf]

/-- Looking up an id of the registry finds the same engine before and after another engine is
registered under other names, unless the id of that engine was known already, as an id or an alias,
for the engine that is looked up: then it is replaced. -/
theorem find?_register_of_mem_ids (reached : registry.Reachable) (engine : Engine)
    (aliases : List String) {id : String} (listed : id ∈ registry.ids)
    (other : lookupName id ≠ Text.lower engine.config.id)
    (others : ∀ given ∈ aliases, lookupName id ≠ Text.lower given) :
    ∃ before, registry.find? id = some before ∧
      (registry.register engine aliases).find? id =
        some (if registry.place? (Text.lower engine.config.id) = some (registry.placeOf id)
          then engine else before) := by
  have held : registry.engines ≠ [] := by
    rintro none
    simp [ids, none] at listed
  have inside := reached.wellPlaced.placeOf_lt held id
  have notGiven : lookupName id ∉ givenNames engine aliases := by
    rw [mem_givenNames]
    rintro (same | ⟨given, member, same⟩)
    · exact other same
    · exact others given member same
  have before : registry.find? id = some registry.engines[registry.placeOf id] := by
    rw [find?_eq, List.getElem?_eq_getElem inside]
  refine ⟨_, before, ?_⟩
  rw [find?_eq, placeOf_register notGiven, getElem?_register inside, ← find?_eq, before]
  split <;> rfl

/-- With a further engine that takes an alias of PostgreSQL, PostgreSQL is still found by its id;
after that the alias is the id of the further engine, whose registration replaces it alone. -/
theorem find?_register_of_mem_ids_cockroach :
    let cockroach : Engine := ⟨{ DialectConfig.postgresql with id := "Cockroach" }, .standard⟩
    let named : Engine := ⟨{ DialectConfig.sqlite with id := "PG" }, .sqlText⟩
    let registry := builtin.register cockroach ["crdb", "pg"]
    builtin.Reachable ∧ "postgresql" ∈ builtin.ids ∧
      lookupName "postgresql" ≠ Text.lower cockroach.config.id ∧
      (∀ given ∈ ["crdb", "pg"], lookupName "postgresql" ≠ Text.lower given) ∧
      registry.find? "postgresql" = some Dialect.postgresql.engine ∧
      registry.Reachable ∧ "Cockroach" ∈ registry.ids ∧
      lookupName "Cockroach" ≠ Text.lower named.config.id ∧
      (registry.register named []).find? "Cockroach" = some named := by
  intro cockroach named registry
  have reached : registry.Reachable := reachable_builtin.register cockroach ["crdb", "pg"]
  have listed : "postgresql" ∈ builtin.ids := by decide +kernel
  have other : lookupName "postgresql" ≠ Text.lower cockroach.config.id := by decide +kernel
  have others : ∀ given ∈ ["crdb", "pg"], lookupName "postgresql" ≠ Text.lower given := by
    decide +kernel
  have taken : "Cockroach" ∈ registry.ids := by decide +kernel
  have apart : lookupName "Cockroach" ≠ Text.lower named.config.id := by decide +kernel
  refine ⟨reachable_builtin, listed, other, others, ?_, reached, taken, apart, ?_⟩
  · obtain ⟨before, found, after⟩ :=
      find?_register_of_mem_ids reachable_builtin cockroach ["crdb", "pg"] listed other others
    have first : builtin.find? "postgresql" = some Dialect.postgresql.engine := by decide +kernel
    have free : builtin.place? (Text.lower cockroach.config.id) = none := by decide +kernel
    obtain rfl := Option.some.inj (first.symm.trans found)
    simpa [free] using after
  · obtain ⟨before, found, after⟩ :=
      find?_register_of_mem_ids reached named [] taken apart (by simp)
    have shared : registry.place? (Text.lower named.config.id) =
        some (registry.placeOf "Cockroach") := by decide +kernel
    simpa [shared] using after

/-- An engine whose id is an alias of PostgreSQL replaces it, so that the id of PostgreSQL leads to
the new engine. And an id with blanks around it is looked up without them, so that it is found only
once another engine has that id. -/
theorem lookup?_register_changes :
    let named : Engine := ⟨{ DialectConfig.sqlite with id := "pg" }, .sqlText⟩
    let spaced : Engine := ⟨{ DialectConfig.sqlite with id := " lite " }, .sqlText⟩
    let unspaced : Engine := ⟨{ DialectConfig.oracle with id := "lite" }, .standard⟩
    let registry := builtin.register spaced []
    (builtin.Reachable ∧ "postgresql" ∈ builtin.ids ∧
      Text.lower "postgresql" ≠ Text.lower named.config.id ∧
      (builtin.register named []).lookup? "postgresql" ≠ builtin.lookup? "postgresql") ∧
    registry.Reachable ∧ " lite " ∈ registry.ids ∧
      Text.lower " lite " ≠ Text.lower unspaced.config.id ∧
      (registry.register unspaced []).lookup? " lite " ≠ registry.lookup? " lite " := by
  intro named spaced unspaced registry
  have reached : registry.Reachable := reachable_builtin.register spaced []
  refine ⟨⟨reachable_builtin, ?_⟩, reached, ?_⟩ <;> decide +kernel

end EntityDiagram.Registry
