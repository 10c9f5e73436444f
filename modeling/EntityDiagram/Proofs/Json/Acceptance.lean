import EntityDiagram.Proofs.Json.Decoding
import EntityDiagram.Proofs.Json.Range

/-!
# When written values are read

What a value is written as is always a good text, but a decoder may refuse it: where a number is
wanted, null stands for the numbers that are not finite. For each way of making decoders there is a
rule that says which condition on the value the made decoder comes to.
-/

namespace EntityDiagram.Json

variable {α β : Type}

/-- A decoder reads the text of a value exactly if a condition is met. -/
def Decoder.Accepts (decoder : Decoder α) (depth : Nat) (value : Value) (condition : Prop) : Prop :=
  (∃ a, decoder.ofTree depth value.tree = .ok a) ↔ condition

/-- A decoder that makes something of a value reads its text. -/
theorem Decoder.Decodes.accepts {decoder : Decoder α} {depth : Nat} {value : Value} {a : α}
    (decodes : decoder.Decodes depth value a) : decoder.Accepts depth value True :=
  iff_of_true ⟨a, decodes.ofTree⟩ trivial

namespace Decoder.Accepts

variable {decoder : Decoder α} {first : Decoder α} {second : Decoder β} {depth : Nat}
  {value other : Value} {P Q : Prop}

theorem map (accepts : decoder.Accepts depth value P) (f : α → β) :
    (decoder.map f).Accepts depth value P := by
  refine Iff.trans ?_ accepts
  show (∃ b, (decoder.ofTree depth value.tree).map f = .ok b) ↔ _
  simp only [map_eq_ok_iff]
  constructor
  · rintro ⟨_, a, read, _⟩
    exact ⟨a, read⟩
  · rintro ⟨a, read⟩
    exact ⟨f a, a, read, rfl⟩

/-- A floating-point number is read if it is finite. -/
theorem float {x : Float} :
    Decoder.float.Accepts depth (.number (.real x)) (Decimal.isFinite x = true) := by
  rw [Accepts, Value.tree, Number.tree_eq]
  constructor
  · rintro ⟨y, read⟩
    by_contra infinite
    rw [Number.numeral?_eq_none (Bool.eq_false_iff.mpr infinite)] at read
    cases read
  · intro finite
    obtain ⟨numeral, written, value⟩ := Number.exists_numeral finite
    obtain ⟨n, value⟩ := Option.isSome_iff_exists.mp value
    refine ⟨n.toFloat, ?_⟩
    rw [written]
    simp [Decoder.float, leaf, Tree.outline, Tree.read, Numeral.read, value]

/-- The condition may be put in another way. -/
theorem of_iff (accepts : decoder.Accepts depth value P) (same : P ↔ Q) :
    decoder.Accepts depth value Q :=
  Iff.trans accepts same

/-- A list is read if each of its items is. -/
theorem list {γ : Type} {encode : γ → Value} {items : List γ} {R : γ → Prop}
    (accepts : ∀ c ∈ items, decoder.Accepts depth (encode c) (R c)) :
    (Decoder.list decoder).Accepts (depth + 1) (.ofItems (items.map encode))
      (∀ c ∈ items, R c) := by
  show (∃ all, (Values.ofList (items.map encode)).trees.decode (decoder.ofTree depth) =
    .ok all) ↔ _
  induction items with
  | nil => exact iff_of_true ⟨[], rfl⟩ (by simp)
  | cons c rest ih =>
      have head : (∃ first, decoder.ofTree depth (encode c).tree = .ok first) ↔ R c :=
        accepts c List.mem_cons_self
      have tail := ih fun later member => accepts later (List.mem_cons_of_mem c member)
      rw [List.forall_mem_cons, ← head, ← tail, List.map_cons, Values.ofList, Values.trees,
        Items.decode]
      constructor
      · rintro ⟨all, read⟩
        obtain ⟨first, readFirst, read⟩ := bind_eq_ok_iff.mp read
        obtain ⟨others, readOthers, _⟩ := bind_eq_ok_iff.mp read
        exact ⟨⟨first, readFirst⟩, ⟨others, readOthers⟩⟩
      · rintro ⟨⟨first, readFirst⟩, ⟨others, readOthers⟩⟩
        refine ⟨first :: others, ?_⟩
        rw [readFirst, bind_ok, readOthers]
        rfl

/-- Two things in an array are read if both are. -/
theorem pair (left : first.Accepts depth value P) (right : second.Accepts depth other Q) :
    (Decoder.pair first second).Accepts (depth + 1) (.ofItems [value, other]) (P ∧ Q) := by
  show (∃ both, (first.ofTree depth value.tree >>= fun a =>
    (second.map (Prod.mk a)).ofTree depth other.tree >>= fun b => .ok b) = .ok both) ↔ _
  have right := fun a : α => right.map (Prod.mk a)
  constructor
  · rintro ⟨both, read⟩
    obtain ⟨a, readLeft, read⟩ := bind_eq_ok_iff.mp read
    obtain ⟨b, readRight, _⟩ := bind_eq_ok_iff.mp read
    exact ⟨left.mp ⟨a, readLeft⟩, (right a).mp ⟨b, readRight⟩⟩
  · rintro ⟨p, q⟩
    obtain ⟨a, readLeft⟩ := left.mpr p
    obtain ⟨b, readRight⟩ := (right a).mpr q
    refine ⟨b, ?_⟩
    rw [readLeft, bind_ok, readRight, bind_ok]

end Decoder.Accepts

/-! ### Records -/

/-- Values for the fields of a record, in the order of the fields, and when all are read. -/
inductive Judges (depth : Nat) :
    List (FieldDecoder α) → List (String × Value) → Prop → Prop where
  | nil : Judges depth [] [] True
  | cons {field : FieldDecoder α} {fields : List (FieldDecoder α)} {value : Value}
      {members : List (String × Value)} {P Q : Prop}
      (accepts : field.update.Accepts depth value P) (others : Judges depth fields members Q) :
      Judges depth (field :: fields) ((field.key, value) :: members) (P ∧ Q)

namespace Judges

variable {depth : Nat} {fields : List (FieldDecoder α)} {members : List (String × Value)}
  {value : Value} {decoder : Decoder β} {P Q : Prop}

theorem required (key : String) {set : β → α → α} (accepts : decoder.Accepts depth value P)
    (others : Judges depth fields members Q) :
    Judges depth (.required key decoder set :: fields) ((key, value) :: members) (P ∧ Q) :=
  .cons (accepts.map set) others

theorem optional (key : String) {set : β → α → α} (accepts : decoder.Accepts depth value P)
    (others : Judges depth fields members Q) :
    Judges depth (.optional key decoder set :: fields) ((key, value) :: members) (P ∧ Q) :=
  .cons (accepts.map set) others

theorem members_keys (judges : Judges depth fields members Q) :
    members.map Prod.fst = fields.map (·.key) := by
  induction judges with
  | nil => rfl
  | cons _ _ ih => rw [List.map_cons, List.map_cons, ih]

/-- The members of an object are read one after the other until one of them is refused. -/
theorem record_entries {all : List (FieldDecoder α)} (judges : Judges depth fields members Q)
    (found : ∀ field ∈ fields, fieldWithKey? all field.key = some field) {done : Updates α}
    (distinct : (done.map Prod.fst ++ members.map Prod.fst).Nodup) :
    (∃ updates, (Fields.ofList members).entries.record all depth done = .ok updates) ↔ Q := by
  induction judges generalizing done with
  | nil => exact iff_of_true ⟨done, rfl⟩ trivial
  | @cons field fields value members P Q accepts _ ih =>
      have later : ∀ update : α → α,
          (∃ updates, (Fields.ofList members).entries.record all depth
            (done ++ [(field.key, update)]) = .ok updates) ↔ Q := by
        intro update
        refine ih (fun other member => found other (List.mem_cons_of_mem _ member)) ?_
        simpa using distinct
      rw [Fields.record_entries_cons (found field List.mem_cons_self) distinct]
      constructor
      · rintro ⟨updates, read⟩
        obtain ⟨update, readHead, read⟩ := bind_eq_ok_iff.mp read
        exact ⟨accepts.mp ⟨update, readHead⟩, (later update).mp ⟨updates, read⟩⟩
      · rintro ⟨p, q⟩
        obtain ⟨update, readHead⟩ := accepts.mpr p
        obtain ⟨updates, read⟩ := (later update).mpr q
        refine ⟨updates, ?_⟩
        rw [readHead, bind_ok, read]

/-- What has been read has the keys of all fields. -/
theorem keys_of_record {all : List (FieldDecoder α)} (judges : Judges depth fields members Q)
    (found : ∀ field ∈ fields, fieldWithKey? all field.key = some field) {done updates : Updates α}
    (distinct : (done.map Prod.fst ++ members.map Prod.fst).Nodup)
    (read : (Fields.ofList members).entries.record all depth done = .ok updates) :
    updates.map Prod.fst = done.map Prod.fst ++ fields.map (·.key) := by
  induction judges generalizing done with
  | nil =>
      cases read
      simp
  | @cons field fields value members P Q _ _ ih =>
      rw [Fields.record_entries_cons (found field List.mem_cons_self) distinct] at read
      obtain ⟨update, _, read⟩ := bind_eq_ok_iff.mp read
      have keys := ih (fun other member => found other (List.mem_cons_of_mem _ member))
        (by simpa using distinct) read
      simpa using keys

end Judges

/-- No field is missing where all keys have been read. -/
private theorem exists_assemble {updates : Updates α} {fields : List (FieldDecoder α)}
    (keys : ∀ field ∈ fields, field.key ∈ updates.map Prod.fst) (blank : α) :
    ∃ a, updates.assemble fields blank = .ok a := by
  induction fields generalizing blank with
  | nil => exact ⟨blank, rfl⟩
  | cons field fields ih =>
      obtain ⟨⟨key, update⟩, member, same⟩ := List.mem_map.mp (keys field List.mem_cons_self)
      cases looked : updates.lookup field.key with
      | none =>
          have apart := List.lookup_eq_none_iff.mp looked (key, update) member
          simp [← same] at apart
      | some update =>
          rw [Updates.assemble, looked]
          exact ih (fun other member => keys other (List.mem_cons_of_mem _ member)) (update blank)

/-- An object with a member for each field of a record is read if all the members are. -/
theorem Judges.accepts (name : String) {blank : α} {depth : Nat}
    {fields : List (FieldDecoder α)} {members : List (String × Value)} {P Q : Prop}
    (judges : Judges depth fields members P) (distinct : (fields.map (·.key)).Nodup)
    (result : P ↔ Q) :
    (Decoder.record name blank fields).Accepts (depth + 1) (.ofFields members) Q := by
  have found : ∀ field ∈ fields, fieldWithKey? fields field.key = some field :=
    fun field member => fieldWithKey?_of_mem distinct member
  have fresh : (([] : Updates α).map Prod.fst ++ members.map Prod.fst).Nodup := by
    rw [judges.members_keys]
    exact distinct
  refine Iff.trans ?_ ((judges.record_entries found fresh).trans result)
  show (∃ a, ((Fields.ofList members).entries.record fields depth [] >>= fun updates =>
    updates.assemble fields blank) = .ok a) ↔ _
  constructor
  · rintro ⟨a, read⟩
    obtain ⟨updates, read, _⟩ := bind_eq_ok_iff.mp read
    exact ⟨updates, read⟩
  · rintro ⟨updates, read⟩
    have keys := judges.keys_of_record found fresh read
    obtain ⟨a, assembled⟩ : ∃ a, updates.assemble fields blank = .ok a := by
      refine exists_assemble (fun field member => ?_) blank
      rw [keys]
      exact List.mem_map_of_mem member
    refine ⟨a, ?_⟩
    rw [read, bind_ok, assembled]

end EntityDiagram.Json
