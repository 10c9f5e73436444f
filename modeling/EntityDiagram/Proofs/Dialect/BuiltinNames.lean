import EntityDiagram.Proofs.Dialect.GivenNames
import Mathlib.Data.List.Nodup

/-!
# One meaning for the names of the built-in engines

Settings read the name of an engine by `Dialect.ofName?`, and SQL is written for the engine that the
registry finds under a name. The registry comes from registering the built-in engines one after the
other. No two of them share a name, so that a name leads to the place of the first engine that has
it at every stage. `Dialect.ofName?` seeks the first such engine too: a word is known to the
registry exactly if it is read, both mean the same engine, and all other words lead to MySQL.
-/

namespace EntityDiagram

namespace Dialect

variable {dialect other : Dialect} {name stored : String}

/-- All names of an engine, as they are stored. -/
def names (dialect : Dialect) : List String := dialect.id :: dialect.aliases

theorem lower_of_mem_names (member : name ∈ dialect.names) : Text.lower name = name := by
  have small : ∀ dialect ∈ all, ∀ name ∈ dialect.names,
      name.toList.all (fun c => c.toNat < 128 && c.toLower == c) = true := by decide
  exact Text.lower_eq_self (small dialect (mem_all dialect) name member)

theorem eq_of_mem_names (first : name ∈ dialect.names) (second : name ∈ other.names) :
    dialect = other := by
  have apart : ∀ a ∈ all, ∀ b ∈ all, ∀ shared ∈ a.names, shared ∈ b.names → a = b := by decide
  exact apart dialect (mem_all dialect) other (mem_all other) name first second

/-- The names of an engine are stored as they are written. -/
theorem mem_givenNames_iff :
    stored ∈ Registry.givenNames dialect.engine dialect.aliases ↔ stored ∈ dialect.names := by
  have id : Text.lower dialect.engine.config.id = dialect.id := by
    rw [engine, config_id, lower_of_mem_names List.mem_cons_self]
  have alike : ∀ given ∈ dialect.aliases, (stored = Text.lower given ↔ stored = given) := by
    intro given member
    rw [lower_of_mem_names (List.mem_cons_of_mem _ member)]
  rw [Registry.mem_givenNames, id, names, List.mem_cons]
  exact or_congr_right ⟨fun ⟨given, member, same⟩ => (alike given member).mp same ▸ member,
    fun member => ⟨stored, member, (alike stored member).mpr rfl⟩⟩

/-- A name is read as the first engine that has it. -/
theorem ofName?_eq_find? (name : String) :
    ofName? name = all.find? fun dialect => dialect.names.contains (Registry.lookupName name) := by
  unfold ofName?
  rw [← Registry.lookupName]
  generalize Registry.lookupName name = stored
  split <;> simp_all [names, id, aliases, all]

end Dialect

namespace Registry

variable {registry : Registry} {dialects : List Dialect} {dialect : Dialect}

/-- The registry holds some built-in engines in order, and leads each stored name to the first
engine that has it. -/
structure Holds (registry : Registry) (dialects : List Dialect) : Prop where
  engines : registry.engines = dialects.map Dialect.engine
  place? : ∀ stored,
    registry.place? stored = dialects.findIdx? fun dialect => dialect.names.contains stored

namespace Holds

theorem empty : Registry.empty.Holds [] := ⟨rfl, fun _ => rfl⟩

/-- An engine that is new gets the next place, and all of its names lead there. -/
theorem register (held : registry.Holds dialects) (new : dialect ∉ dialects) :
    (registry.register dialect.engine dialect.aliases).Holds (dialects ++ [dialect]) := by
  have free : ∀ stored ∈ dialect.names, registry.place? stored = none := by
    intro stored member
    rw [held.place?, List.findIdx?_eq_none_iff]
    intro other listed
    refine Bool.eq_false_iff.mpr fun shared => new ?_
    rwa [Dialect.eq_of_mem_names member (List.contains_iff_mem.mp shared)]
  have id : Text.lower dialect.engine.config.id ∈ dialect.names := by
    rw [Dialect.engine, Dialect.config_id, Dialect.lower_of_mem_names List.mem_cons_self]
    exact List.mem_cons_self
  have place : registry.placeFor dialect.engine = dialects.length := by
    rw [placeFor, free _ id, Option.getD_none, held.engines, List.length_map]
  constructor
  · rw [Registry.register, free _ id]
    simp [held.engines]
  · intro stored
    rw [place?_register, place, List.findIdx?_append, ← held.place?]
    simp only [Dialect.mem_givenNames_iff]
    by_cases member : stored ∈ dialect.names
    · simp [member, free stored member]
    · simp [member]

theorem foldl (held : registry.Holds dialects) {others : List Dialect}
    (distinct : (dialects ++ others).Nodup) :
    (others.foldl (fun registry dialect => registry.register dialect.engine dialect.aliases)
      registry).Holds (dialects ++ others) := by
  induction others generalizing registry dialects with
  | nil => rwa [List.append_nil]
  | cons dialect others ih =>
      have new : dialect ∉ dialects := fun listed =>
        List.disjoint_of_nodup_append distinct listed List.mem_cons_self
      rw [List.append_cons] at distinct ⊢
      exact ih (held.register new) distinct

theorem contains_eq (held : registry.Holds dialects) (name : String) :
    registry.contains name =
      (dialects.find? fun dialect => dialect.names.contains (lookupName name)).isSome := by
  rw [contains, held.place?, List.findIdx?_isSome, Bool.eq_iff_iff, List.any_eq_true,
    List.find?_isSome]

/-- A name leads to the first engine that has it, or else to the fallback. -/
theorem find?_eq_or (held : registry.Holds dialects) (name : String) :
    registry.find? name =
      ((dialects.find? fun dialect => dialect.names.contains (lookupName name)).map
        Dialect.engine).or registry.engines[registry.fallback]? := by
  rw [find?, held.place?, held.engines, List.findIdx?_eq_guard_findIdx_lt,
    List.find?_eq_getElem?_findIdx]
  generalize (dialects.findIdx fun dialect => dialect.names.contains (lookupName name)) = place
  by_cases inside : place < dialects.length
  · simp [Option.guard, inside]
  · simp [Option.guard, inside]

end Holds

theorem holds_builtin : builtin.Holds Dialect.all := Holds.empty.foldl (by decide)

theorem contains_builtin (name : String) :
    builtin.contains name = (Dialect.ofName? name).isSome := by
  rw [holds_builtin.contains_eq, Dialect.ofName?_eq_find?]

/-- The registry finds the engine that a name is read as, and MySQL for all other names. -/
theorem find?_builtin (name : String) :
    builtin.find? name = some ((Dialect.ofName? name).getD .mysql).engine := by
  have fallback : builtin.engines[builtin.fallback]? = some Dialect.mysql.engine := rfl
  rw [holds_builtin.find?_eq_or, ← Dialect.ofName?_eq_find?, fallback]
  cases Dialect.ofName? name <;> rfl

theorem lookup?_builtin (name : String) :
    builtin.lookup? name = some ((Dialect.ofName? name).getD .mysql).config := by
  rw [lookup?, find?_builtin, Option.map_some, Dialect.engine]

/-- A name is read as an engine exactly if the registry knows it and finds the engine with the same
id. It is not read exactly if the registry does not know it, and then the registry finds MySQL. -/
theorem ofName?_agrees (name : String) :
    (∀ dialect : Dialect, Dialect.ofName? name = some dialect ↔
      builtin.contains name = true ∧
        (builtin.lookup? name).map DialectConfig.id = some dialect.id) ∧
    (Dialect.ofName? name = none ↔ builtin.contains name = false) ∧
    (Dialect.ofName? name = none → builtin.lookup? name = some .mysql) := by
  rw [contains_builtin, lookup?_builtin]
  cases read : Dialect.ofName? name with
  | none => simp [Dialect.config]
  | some known =>
      refine ⟨fun dialect => ?_, by simp, by simp⟩
      have same : known.id = dialect.id ↔ known = dialect :=
        ⟨Dialect.id_injective, fun equal => equal ▸ rfl⟩
      simp [same]

/-- A further name of PostgreSQL in capitals and between blanks, and a name of no engine. -/
theorem ofName?_agrees_pg :
    (builtin.contains " PG " = true ∧
        (builtin.lookup? " PG ").map DialectConfig.id = some Dialect.postgresql.id) ∧
      Dialect.ofName? "db2" = none ∧ builtin.lookup? "db2" = some .mysql := by
  have unknown : Dialect.ofName? "db2" = none := by decide
  exact ⟨((ofName?_agrees " PG ").1 .postgresql).mp (by decide), unknown,
    (ofName?_agrees "db2").2.2 unknown⟩

end Registry

/-- SQL is written for the engine that settings read under the same name, or for MySQL. -/
theorem engineNamed_eq (name : String) :
    engineNamed name = ((Dialect.ofName? name).getD .mysql).engine := by
  rw [engineNamed, Registry.find?_builtin, Option.getD_some]

end EntityDiagram
