import EntityDiagram.Proofs.Dialect.Registration

/-!
# The engine for names that nobody registered

A registry is built by calls, each of which registers an engine or chooses a fallback by name. Two
records are kept beside a run: the places that were chosen as fallback, and the engines that were
registered with the places they went to. Once an engine has been registered every name leads to
one. A name that nobody registered leads to the place chosen last, or to the first place if none
was chosen, and there it finds the engine that went to this place last.
-/

namespace EntityDiagram.Registry

/-- A call that may change a registry. -/
inductive Call where
  | register (engine : Engine) (aliases : List String)
  | setFallback (name : String)
  deriving DecidableEq, Repr

/-- The registry after a call. A fallback that nobody registered is not taken. -/
def perform (registry : Registry) : Call → Registry
  | .register engine aliases => registry.register engine aliases
  | .setFallback name => (registry.setFallback? name).getD registry

/-- The registry after some calls, successful or not. -/
def run (registry : Registry) (calls : List Call) : Registry := calls.foldl perform registry

/-- The place that a call makes the one for unknown names, if it does. -/
def chosen? (registry : Registry) : Call → Option Nat
  | .register _ _ => none
  | .setFallback name => registry.place? (lookupName name)

/-- The engine that a call brings, with the place it goes to. -/
def arrival? (registry : Registry) : Call → Option (Nat × Engine)
  | .register engine _ => some (registry.placeFor engine, engine)
  | .setFallback _ => none

/-- The places that are chosen as fallback in a run, one after the other. -/
def choices (registry : Registry) : List Call → List Nat
  | [] => []
  | call :: calls => (registry.chosen? call).toList ++ (registry.perform call).choices calls

/-- The engines that are registered in a run, with their places, one after the other. -/
def arrivals (registry : Registry) : List Call → List (Nat × Engine)
  | [] => []
  | call :: calls => (registry.arrival? call).toList ++ (registry.perform call).arrivals calls

variable {registry : Registry} {call : Call} {calls : List Call}

@[simp] theorem run_nil (registry : Registry) : registry.run [] = registry := rfl

@[simp] theorem run_cons (registry : Registry) (call : Call) (calls : List Call) :
    registry.run (call :: calls) = (registry.perform call).run calls := rfl

theorem run_append (registry : Registry) (first second : List Call) :
    registry.run (first ++ second) = (registry.run first).run second := by
  simp [run]

/-! ### One call -/

theorem fallback_perform (registry : Registry) (call : Call) :
    (registry.perform call).fallback = (registry.chosen? call).getD registry.fallback := by
  cases call with
  | register engine aliases => rfl
  | setFallback name =>
      simp only [perform, chosen?, setFallback?]
      cases registry.place? (lookupName name) <;> rfl

namespace WellPlaced

/-- The place for a registered engine holds it, and all other places hold what they held. -/
theorem getElem?_register (h : registry.WellPlaced) (engine : Engine) (aliases : List String)
    (place : Nat) :
    (registry.register engine aliases).engines[place]? =
      if place = registry.placeFor engine then some engine else registry.engines[place]? := by
  rw [placeFor, Registry.register]
  cases taken : registry.place? (Text.lower engine.config.id) with
  | none =>
      rcases Nat.lt_trichotomy place registry.engines.length with inside | rfl | beyond
      · simp [List.getElem?_append_left inside, Nat.ne_of_lt inside]
      · simp
      · have after : (registry.engines ++ [engine]).length ≤ place := by
          simpa using Nat.succ_le_of_lt beyond
        simp [List.getElem?_eq_none after, Nat.ne_of_gt beyond, Nat.le_of_lt beyond]
  | some other =>
      rw [Option.getD_some, List.getElem?_set]
      by_cases same : other = place
      · simp [same, same ▸ h.names _ _ taken]
      · simp [same, Ne.symm same]

theorem getElem?_perform (h : registry.WellPlaced) (call : Call) (place : Nat) :
    (registry.perform call).engines[place]? =
      ((registry.arrival? call).toList.lookup place).or registry.engines[place]? := by
  cases call with
  | register engine aliases =>
      rw [perform, h.getElem?_register, arrival?, Option.toList_some, List.lookup_cons]
      by_cases same : place = registry.placeFor engine
      · simp [same]
      · simp [same, beq_false_of_ne same]
  | setFallback name =>
      simp only [perform, setFallback?]
      cases registry.place? (lookupName name) <;> rfl

theorem perform (h : registry.WellPlaced) (call : Call) : (registry.perform call).WellPlaced := by
  cases call with
  | register engine aliases => exact h.register engine aliases
  | setFallback name =>
      rw [Registry.perform]
      cases known : registry.setFallback? name with
      | none => exact h
      | some next => exact h.setFallback known

end WellPlaced

/-! ### Runs -/

theorem fallback_run (registry : Registry) (calls : List Call) :
    (registry.run calls).fallback = (registry.choices calls).getLast?.getD registry.fallback := by
  induction calls generalizing registry with
  | nil => rfl
  | cons call calls ih =>
      rw [run_cons, ih, fallback_perform, choices, List.getLast?_append, Option.getD_or]
      cases registry.chosen? call <;> rfl

/-- A place holds the engine that went there last, or what it held before the run. -/
theorem WellPlaced.getElem?_run (h : registry.WellPlaced) (calls : List Call) (place : Nat) :
    (registry.run calls).engines[place]? =
      ((registry.arrivals calls).reverse.lookup place).or registry.engines[place]? := by
  induction calls generalizing registry with
  | nil => rfl
  | cons call calls ih =>
      have turned : (registry.arrival? call).toList.reverse = (registry.arrival? call).toList := by
        cases registry.arrival? call <;> rfl
      rw [run_cons, ih (h.perform call), h.getElem?_perform, arrivals, List.reverse_append,
        List.lookup_append, turned, Option.or_assoc]

theorem WellPlaced.run (h : registry.WellPlaced) (calls : List Call) :
    (registry.run calls).WellPlaced := by
  induction calls generalizing registry with
  | nil => exact h
  | cons call calls ih => exact ih (h.perform call)

/-- Engines are replaced but never taken out. -/
theorem length_le_length_run (registry : Registry) (calls : List Call) :
    registry.engines.length ≤ (registry.run calls).engines.length := by
  induction calls generalizing registry with
  | nil => exact Nat.le_refl _
  | cons call calls ih =>
      refine Nat.le_trans ?_ (ih (registry.perform call))
      cases call with
      | register engine aliases => exact registry.length_le_length_register engine aliases
      | setFallback name =>
          simp only [perform, setFallback?]
          cases registry.place? (lookupName name) <;> exact Nat.le_refl _

theorem WellPlaced.engines_run_ne_nil (h : registry.WellPlaced) {engine : Engine}
    {aliases : List String} (registers : .register engine aliases ∈ calls) :
    (registry.run calls).engines ≠ [] := by
  obtain ⟨before, after, rfl⟩ := List.append_of_mem registers
  rw [run_append, run_cons, Registry.perform]
  have placed := (h.run before).placeFor_lt engine aliases
  have kept := length_le_length_run ((registry.run before).register engine aliases) after
  exact List.ne_nil_of_length_pos (Nat.lt_of_lt_of_le (Nat.zero_lt_of_lt placed) kept)

/-- Once an engine has been registered, every name leads to an engine. A fallback is taken exactly
if its name is known. A name that nobody registered leads to the place that was taken as fallback
last, or else to the first one, however many engines are registered or replaced later; and each
place holds the engine that went there last. -/
theorem resolves_everywhere {calls : List Call}
    (registers : ∃ engine aliases, .register engine aliases ∈ calls) :
    let registry := empty.run calls
    (∀ name, ∃ engine, registry.find? name = some engine ∧
      registry.lookup? name = some engine.config) ∧
    (∀ name, (registry.setFallback? name).isSome = registry.contains name) ∧
    (∀ name, registry.contains name = false →
      registry.find? name = registry.engines[(empty.choices calls).getLast?.getD 0]?) ∧
    ∀ place, registry.engines[place]? = (empty.arrivals calls).reverse.lookup place := by
  intro registry
  obtain ⟨engine, aliases, registers⟩ := registers
  have placed : registry.WellPlaced := WellPlaced.empty.run calls
  have held : registry.engines ≠ [] := WellPlaced.empty.engines_run_ne_nil registers
  refine ⟨fun name => ?_, registry.setFallback?_isSome, fun name unknown => ?_, fun place => ?_⟩
  · have inside := placed.placeOf_lt held name
    have found : registry.find? name = some registry.engines[registry.placeOf name] := by
      rw [find?_eq, List.getElem?_eq_getElem inside]
    exact ⟨_, found, by rw [lookup?, found, Option.map_some]⟩
  · have free : registry.place? (lookupName name) = none := by
      simpa [contains] using unknown
    rw [find?_eq, placeOf, free, Option.getD_none, fallback_run]
    rfl
  · rw [WellPlaced.empty.getElem?_run, Option.or_eq_left_of_none]
    rfl

/-- Nothing is taken as fallback while nobody is registered, nor under an unknown name. The second
place is, and keeps being the fallback after its name was given to the third one; it is another
engine that went there last, under an alias of the first to hold it. -/
theorem resolves_everywhere_replaced :
    let named (config : DialectConfig) (id : String) : Engine := ⟨{ config with id }, .standard⟩
    let calls : List Call := [
      .setFallback "ora",
      .register (named .sqlite "Lite") ["", "lite"],
      .setFallback "Postgres",
      .register (named .oracle "ORA") ["sid"],
      .setFallback "\tora ",
      .register (named .mysql "my") ["Ora", ""],
      .register (named .mssql "Sid") []]
    (∃ engine aliases, .register engine aliases ∈ calls) ∧
      empty.choices calls = [1] ∧ (empty.run calls).contains "Postgres" = false ∧
      (empty.run calls).find? "Postgres" = some (named .mssql "Sid") ∧
      (empty.run calls).find? "ora" = some (named .mysql "my") := by
  intro named calls
  have registers : ∃ engine aliases, .register engine aliases ∈ calls :=
    ⟨named .sqlite "Lite", ["", "lite"], by simp [calls]⟩
  have choices : empty.choices calls = [1] := by decide +kernel
  have unknown : (empty.run calls).contains "Postgres" = false := by decide +kernel
  obtain ⟨-, -, falls, holds⟩ := resolves_everywhere registers
  refine ⟨registers, choices, unknown, ?_, by decide +kernel⟩
  rw [falls _ unknown, choices, List.getLast?_singleton, Option.getD_some, holds]
  decide +kernel

end EntityDiagram.Registry
