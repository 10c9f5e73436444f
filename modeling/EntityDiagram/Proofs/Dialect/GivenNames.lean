import EntityDiagram.Proofs.Dialect.Fallback
import EntityDiagram.Proofs.Text.Lowering

/-!
# Looking up the names that were given

An engine is stored under the lower-case forms of its id and of its further names, and every look-up
asks for the lower-case form of a name without the blanks around it. What is asked for has no blanks
at its ends, so that a name stored with some is never asked for. All other given names lead to the
engine, in every spelling that is looked up alike.
-/

namespace EntityDiagram.Registry

variable {registry : Registry} {engine : Engine} {aliases : List String} {name given : String}

/-- What is looked up has no blanks around it. -/
theorem trim_lookupName (name : String) : Text.trim (lookupName name) = lookupName name :=
  Text.trim_lower_eq_self_iff.mpr (Text.trim_trim name)

/-- A name without blanks around it is stored as it is looked up. -/
theorem lookupName_of_trim_eq (solid : Text.trim given = given) :
    lookupName given = Text.lower given := by
  rw [lookupName, solid]

/-- What is stored with blanks around it is never looked up. -/
theorem trim_eq_of_lookupName_eq (found : lookupName name = Text.lower given) :
    Text.trim given = given := by
  rw [← Text.trim_lower_eq_self_iff, ← found, trim_lookupName]

/-- A name is looked up under one of the given names exactly if it is looked up like one of them
that has no blanks around it. -/
theorem lookupName_mem_givenNames_iff :
    lookupName name ∈ givenNames engine aliases ↔ ∃ given ∈ engine.config.id :: aliases,
      Text.trim given = given ∧ lookupName name = lookupName given := by
  have stored : lookupName name ∈ givenNames engine aliases ↔
      ∃ given ∈ engine.config.id :: aliases, lookupName name = Text.lower given := by
    rw [mem_givenNames, List.exists_mem_cons_iff]
  rw [stored]
  refine exists_congr fun given => and_congr_right fun _ => ⟨fun found => ?_, ?_⟩
  · have solid := trim_eq_of_lookupName_eq found
    exact ⟨solid, found.trans (lookupName_of_trim_eq solid).symm⟩
  · rintro ⟨solid, found⟩
    exact found.trans (lookupName_of_trim_eq solid)

theorem contains_register_iff (registry : Registry) (engine : Engine) (aliases : List String)
    (name : String) :
    (registry.register engine aliases).contains name = true ↔
      lookupName name ∈ givenNames engine aliases ∨ registry.contains name = true := by
  rw [contains, contains, place?_register]
  by_cases stored : lookupName name ∈ givenNames engine aliases
  · simp [stored]
  · simp [stored]

theorem find?_register_of_mem_givenNames (placed : registry.WellPlaced)
    (stored : lookupName name ∈ givenNames engine aliases) :
    (registry.register engine aliases).find? name = some engine := by
  rw [find?_eq, placeOf, place?_register, if_pos stored, Option.getD_some,
    placed.getElem?_register, if_pos rfl]

/-- After an engine is registered, each of its names that has no blanks around it is known and leads
to the engine, and so does every spelling that is looked up alike. A name with blanks around it is
stored in a form that no look-up asks for. What else is known was known before. -/
theorem register_finds_given (reached : registry.Reachable) (engine : Engine)
    (aliases : List String) :
    let after := registry.register engine aliases
    (∀ given ∈ engine.config.id :: aliases, Text.trim given = given →
      ∀ name, lookupName name = lookupName given →
        after.contains name = true ∧ after.find? name = some engine ∧
          after.lookup? name = some engine.config) ∧
    (∀ given ∈ engine.config.id :: aliases, Text.trim given ≠ given →
      ∀ name, lookupName name ≠ Text.lower given) ∧
    ∀ name, after.contains name = true ↔
      (∃ given ∈ engine.config.id :: aliases,
        Text.trim given = given ∧ lookupName name = lookupName given) ∨
      registry.contains name = true := by
  intro after
  refine ⟨fun given member solid name alike => ?_, fun given _ spaced name => ?_, fun name => ?_⟩
  · have stored : lookupName name ∈ givenNames engine aliases :=
      lookupName_mem_givenNames_iff.mpr ⟨given, member, solid, alike⟩
    have found : after.find? name = some engine :=
      find?_register_of_mem_givenNames reached.wellPlaced stored
    refine ⟨(contains_register_iff registry engine aliases name).mpr (.inl stored), found, ?_⟩
    rw [lookup?, found, Option.map_some]
  · exact fun found => spaced (trim_eq_of_lookupName_eq found)
  · rw [contains_register_iff, lookupName_mem_givenNames_iff]

/-- An engine with a further name in capitals is found by it in small letters and between blanks,
and another one with a name that ends with a blank is not found by that. -/
theorem register_finds_given_lite :
    let lite : Engine := ⟨{ DialectConfig.sqlite with id := "Lite" }, .sqlText⟩
    let after := builtin.register lite ["LITEDB", "lite 3 "]
    builtin.Reachable ∧ "LITEDB" ∈ lite.config.id :: ["LITEDB", "lite 3 "] ∧
      Text.trim "LITEDB" = "LITEDB" ∧ lookupName "\tLiteDB " = lookupName "LITEDB" ∧
      after.contains "\tLiteDB " = true ∧ after.find? "\tLiteDB " = some lite ∧
      Text.trim "lite 3 " ≠ "lite 3 " ∧ lookupName "lite 3 " ≠ Text.lower "lite 3 " := by
  intro lite after
  have member : "LITEDB" ∈ lite.config.id :: ["LITEDB", "lite 3 "] := by simp
  have solid : Text.trim "LITEDB" = "LITEDB" := by decide
  have alike : lookupName "\tLiteDB " = lookupName "LITEDB" := by decide
  have spaced : Text.trim "lite 3 " ≠ "lite 3 " := by decide
  obtain ⟨known, dead, -⟩ := register_finds_given reachable_builtin lite ["LITEDB", "lite 3 "]
  obtain ⟨contained, found, -⟩ := known "LITEDB" member solid "\tLiteDB " alike
  exact ⟨reachable_builtin, member, solid, alike, contained, found, spaced,
    dead "lite 3 " (by simp) spaced "lite 3 "⟩

/-- Neither an id nor a further name with a blank at its end is known after the registration, and
both lead to the fallback. -/
theorem register_misses_spaced_names :
    let lite : Engine := ⟨{ DialectConfig.sqlite with id := "lite " }, .sqlText⟩
    let after := builtin.register lite ["my lite "]
    builtin.Reachable ∧
      after.contains "lite " = false ∧ after.lookup? "lite " = some .mysql ∧
      after.contains "my lite " = false ∧ after.lookup? "my lite " = some .mysql := by
  intro lite after
  exact ⟨reachable_builtin, by decide, by decide, by decide, by decide⟩

end EntityDiagram.Registry
