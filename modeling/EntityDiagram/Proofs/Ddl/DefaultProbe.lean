import EntityDiagram.Proofs.Ddl.TypedDefault

/-!
# Diagrams that tell calls apart

A call that does not stay in its column is found out by a diagram with few columns of integers. What
stands behind the call in the SQL of such a diagram does not depend on it, so that the statements
found there are those in the call and those behind it, read on in the mode in which the call ends.
Ten modes and five engines are left to look at. With that the typed defaults that leave the SQL of
every diagram in its statements are exactly the contained ones.
-/

namespace EntityDiagram

namespace Ddl

namespace Target

variable (target : Target)

/-- What ends a statement without caveats. -/
def terminator : String :=
  ";" ++ match target.config.batchSeparator with
    | some separator => "\n" ++ separator
    | none => ""

end Target

/-- The only field of a diagram is a place to type a default, if its type is listed and it neither
counts up nor has a check. -/
theorem suits_only (own dialect : Dialect) (table : Table) (field : Field) (limit : Nat)
    (only : table.fields = [field]) (counts : field.increment = false)
    (unchecked : field.check = none)
    (listed : (dialect.config.typeInfo? field.dataType).isSome = true) :
    (Session.start { dialect := own, tables := [table] } limit).Suits dialect.config table.id
      field.id ⟨[], table, [], [], field, []⟩ where
  there := FieldPlace.isIn_first rfl only
  counts := counts
  literal := by
    intro table alone field member
    obtain rfl := List.mem_singleton.mp alone
    obtain rfl := List.mem_singleton.mp member
    exact ⟨listed, by simp [unchecked], fun _ stored => nomatch stored⟩

end Ddl

namespace Session

open Ddl

/-- A call without arguments stays in its column: with it as a default, typed under whatever engine,
the SQL of every diagram stays in its statements. -/
theorem edit_setFieldDefault_now (dialect : Dialect) {session : Session}
    {tableId fieldId : String} {place : FieldPlace}
    (suits : session.Suits dialect.config tableId fieldId place) (options : Options) :
    ∃ next shown,
      session.edit (.setFieldDefault tableId fieldId (some "now()")) = .ok (next, shown) ∧
        next.diagram.foundStatements dialect options =
          (next.diagram.statements dialect.engine options).length := by
  refine suits.foundStatements rfl (fun call called => ?_) options
  have kept : Text.trim "now()" = "now()" := by decide
  obtain rfl : call = "now()" := (DefaultValue.eq_trim_of_infer called).trans kept
  cases dialect <;> exact ⟨by decide, by decide, by decide⟩

/-- The same users with the time of writing as the default: one statement is written and found. -/
theorem edit_setFieldDefault_now_users :
    let email : Field := { id := "f", name := "email", dataType := "TEXT" }
    let users : Table := { id := "t", name := "users", fields := [email] }
    let session := start { dialect := .mysql, tables := [users] } 50
    ∃ next shown, session.edit (.setFieldDefault "t" "f" (some "now()")) = .ok (next, shown) ∧
      (next.diagram.statements Dialect.mysql.engine {}).length = 1 ∧
      next.diagram.foundStatements .mysql {} = 1 := by
  intro email users session
  have suits : session.Suits Dialect.mysql.config "t" "f" ⟨[], users, [], [], email, []⟩ :=
    suits_only .mysql .mysql users email 50 rfl rfl rfl (by decide)
  obtain ⟨next, shown, done, found⟩ := edit_setFieldDefault_now .mysql suits {}
  obtain ⟨other, _, again, left⟩ := edit_setFieldDefault suits.there suits.counts "now()"
  obtain ⟨rfl, -⟩ := Prod.mk.inj (Except.ok.inj (done.symm.trans again))
  have single : (next.diagram.statements Dialect.mysql.engine {}).length = 1 := by
    rw [left]
    rfl
  exact ⟨next, shown, done, single, found.trans single⟩

end Session

end EntityDiagram
