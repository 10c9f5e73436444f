import EntityDiagram.Json.Record
import EntityDiagram.Proofs.Json.Scanning
import Mathlib.Data.List.Basic

/-!
# What decoders make of written values

A decoder decodes a value to something if it finds the same from the written text and from the
value in memory, where the members of objects come in the order of their keys. For each way of
making decoders there is a rule that says what the made decoder decodes.
-/

namespace EntityDiagram.Json

variable {α β τ : Type}

/-- A decoder makes the same thing of the text of a value and of the value with its members in
order, and the text can be read at all. -/
structure Decoder.Decodes (decoder : Decoder α) (depth : Nat) (value : Value) (a : α) : Prop where
  readable : value.Readable depth
  ofTree : decoder.ofTree depth value.tree = .ok a
  ofValue : decoder.ofValue value.sorted = .ok a

namespace Decoder.Decodes

variable {decoder : Decoder α} {first : Decoder α} {second : Decoder β} {depth : Nat}
  {value other : Value} {a : α} {b : β}

theorem map (decodes : decoder.Decodes depth value a) (f : α → β) :
    (decoder.map f).Decodes depth value (f a) := by
  refine ⟨decodes.readable, ?_, ?_⟩
  · show (decoder.ofTree depth value.tree).map f = .ok (f a)
    rw [decodes.ofTree, map_ok]
  · show (decoder.ofValue value.sorted).map f = .ok (f a)
    rw [decodes.ofValue, map_ok]

theorem text {text : String} : Decoder.text.Decodes depth (.string text) text := by
  refine ⟨trivial, ?_, rfl⟩
  rw [Decoder.text, Decoder.leaf, Value.tree]
  simp [Tree.outline, Tree.read]

theorem flag {flag : Bool} : Decoder.flag.Decodes depth (.bool flag) flag :=
  ⟨trivial, rfl, rfl⟩

/-- What is made of a number does not depend on how the number is spelled. -/
private theorem number {read : Value → Except Fault α} {n : Number} (survives : n.Survives)
    (decoded : read (.number n) = .ok a) :
    (Decoder.leaf read).Decodes depth (.number n) a := by
  obtain ⟨numeral, spelled, found⟩ := survives.tree_eq
  refine ⟨survives, ?_, decoded⟩
  rw [Decoder.leaf, Value.tree, spelled]
  simp [Tree.outline, Tree.read, found, decoded]

theorem word {n : UInt32} :
    Decoder.word.Decodes depth (.number (.integer n.toNat)) n := by
  have bound : n.toNat < UInt32.size := n.toNat_lt
  have range : (0 : Int) ≤ n.toNat ∧ (n.toNat : Int) < UInt32.size := by omega
  refine number (Number.survives_integer (Nat.lt_trans bound (by decide))) ?_
  dsimp only
  rw [if_pos range, Int.toNat_natCast]
  simp

theorem float {x : Float} (survives : (Number.real x).Survives) :
    Decoder.float.Decodes depth (.number (.real x)) x := by
  refine number survives ?_
  rfl

theorem none : (Decoder.optional decoder).Decodes depth .null none :=
  ⟨trivial, rfl, rfl⟩

theorem some (decodes : decoder.Decodes depth value a) (given : value ≠ .null) :
    (Decoder.optional decoder).Decodes depth value (some a) := by
  have tree : value.tree ≠ .null := by
    cases value with
    | null => contradiction
    | number n =>
        obtain ⟨numeral, spelled, -⟩ := Number.Survives.tree_eq decodes.readable
        rw [Value.tree, spelled]
        simp
    | bool value => simp [Value.tree]
    | string text => simp [Value.tree]
    | array items => simp [Value.tree]
    | object fields => simp [Value.tree]
  have sorted : value.sorted ≠ .null := by
    cases value <;> simp_all [Value.sorted]
  refine ⟨decodes.readable, ?_, ?_⟩
  · have read := decodes.ofTree
    rw [Decoder.optional]
    dsimp only
    split
    · contradiction
    · rw [read, map_ok]
  · have read := decodes.ofValue
    rw [Decoder.optional]
    dsimp only
    split
    · contradiction
    · rw [read, map_ok]

theorem choice {variants : List (String × α)} {name : String}
    (listed : variants.lookup name = .some a) :
    (Decoder.choice variants).Decodes depth (.string name) a := by
  have picked : Decoder.pick variants name = .ok a := by
    rw [Decoder.pick, listed]
  refine ⟨trivial, ?_, picked⟩
  show (spelling name).text >>= Decoder.pick variants = .ok a
  rw [text_spelling, bind_ok, picked]

/-! ### Arrays -/

private theorem toList_sorted (items : List Value) :
    (Values.ofList items).sorted.toList = items.map Value.sorted := by
  induction items with
  | nil => rfl
  | cons head tail ih => rw [Values.ofList, Values.sorted, Values.toList, ih, List.map_cons]

private theorem readable_ofList {items : List Value}
    (readable : ∀ item ∈ items, item.Readable depth) : (Values.ofList items).Readable depth := by
  induction items with
  | nil => trivial
  | cons head tail ih =>
      exact ⟨readable head List.mem_cons_self,
        ih fun item member => readable item (List.mem_cons_of_mem head member)⟩

theorem list {encode : α → Value} {items : List α}
    (decodes : ∀ a ∈ items, decoder.Decodes depth (encode a) a) :
    (Decoder.list decoder).Decodes (depth + 1) (.ofItems (items.map encode)) items := by
  refine ⟨?_, ?_, ?_⟩
  · refine readable_ofList ?_
    intro item member
    obtain ⟨a, listed, rfl⟩ := List.mem_map.mp member
    exact (decodes a listed).readable
  · show (Values.ofList (items.map encode)).trees.decode (decoder.ofTree depth) = .ok items
    induction items with
    | nil => rfl
    | cons a rest ih =>
        rw [List.map_cons, Values.ofList, Values.trees, Items.decode,
          (decodes a List.mem_cons_self).ofTree, bind_ok,
          ih fun b member => decodes b (List.mem_cons_of_mem a member)]
        rfl
  · show (Values.ofList (items.map encode)).sorted.toList.mapM decoder.ofValue = .ok items
    rw [toList_sorted]
    induction items with
    | nil => rfl
    | cons a rest ih =>
        rw [List.map_cons, List.map_cons, List.mapM_cons,
          (decodes a List.mem_cons_self).ofValue, bind_ok,
          ih fun b member => decodes b (List.mem_cons_of_mem a member)]
        rfl

theorem pair (left : first.Decodes depth value a) (right : second.Decodes depth other b) :
    (Decoder.pair first second).Decodes (depth + 1) (.ofItems [value, other]) (a, b) := by
  have both := right.map (Prod.mk a)
  refine ⟨⟨left.readable, right.readable, trivial⟩, ?_, ?_⟩
  · show (first.ofTree depth value.tree >>= fun a =>
      (second.map (Prod.mk a)).ofTree depth other.tree >>= fun b => .ok b) = .ok (a, b)
    rw [left.ofTree, bind_ok, both.ofTree, bind_ok]
  · show (first.ofValue value.sorted >>= fun a =>
      (second.map (Prod.mk a)).ofValue other.sorted >>= fun b => .ok b) = .ok (a, b)
    rw [left.ofValue, bind_ok, both.ofValue, bind_ok]

/-! ### Tagged values -/

theorem tagged (name : String) {tagging : Tagging τ α} (apart : tagging.tagKey ≠ tagging.contentKey)
    {tag : τ} {tagName : String} (listed : tagging.tags.lookup tagName = .some tag)
    (content : (tagging.content tag).Decodes depth value a) :
    (Decoder.tagged name tagging).Decodes (depth + 1)
      (.ofFields [(tagging.tagKey, .string tagName), (tagging.contentKey, value)]) a := by
  have named : (Decoder.choice tagging.tags).Decodes depth (.string tagName) tag := choice listed
  refine ⟨⟨trivial, content.readable, trivial⟩, ?_, ?_⟩
  · show (Entries.tagged tagging depth .nothing (.entry (spelling tagging.tagKey)
      (.string (spelling tagName)) (.entry (spelling tagging.contentKey) value.tree
        (.stop .closed))) >>= tagging.finish) = .ok a
    have tagRead : tagging.addTag (·.ofTree depth (.string (spelling tagName))) .nothing =
        .ok (.tag tag) := by
      show ((Decoder.choice tagging.tags).ofTree depth (Value.string tagName).tree).map Tagged.tag =
        _
      rw [named.ofTree, map_ok]
    have contentRead : tagging.addContent (·.ofTree depth value.tree) (value.tree.read depth)
        (.tag tag) = .ok (.whole a) := by
      show ((tagging.content tag).ofTree depth value.tree).map Tagged.whole = _
      rw [content.ofTree, map_ok]
    rw [Entries.tagged, text_spelling, bind_ok, if_pos rfl, tagRead, bind_ok, Entries.tagged,
      text_spelling, bind_ok, if_neg apart.symm, if_pos rfl, contentRead]
    rfl
  -- In the order of the keys the content may come first; then it is kept until the tag is known.
  · show (Fields.tagged tagging .nothing (Fields.insert tagging.tagKey (.string tagName)
      (.cons tagging.contentKey value.sorted .nil)) >>= tagging.finish) = .ok a
    have contentRead := content.ofValue
    rw [Fields.insert, if_neg apart]
    split
    · rw [Fields.tagged, if_pos rfl]
      have tagRead : tagging.addTag (·.ofValue (.string tagName)) .nothing = .ok (.tag tag) := by
        show ((Decoder.choice tagging.tags).ofValue (Value.string tagName).sorted).map Tagged.tag =
          _
        rw [named.ofValue, map_ok]
      have wholeRead : tagging.addContent (·.ofValue value.sorted) (.ok value.sorted)
          (.tag tag) = .ok (.whole a) := by
        show ((tagging.content tag).ofValue value.sorted).map Tagged.whole = _
        rw [contentRead, map_ok]
      rw [tagRead, bind_ok, Fields.tagged, if_neg apart.symm, if_pos rfl, wholeRead]
      rfl
    · have kept : tagging.addContent (·.ofValue value.sorted) (.ok value.sorted) .nothing =
          .ok (.content value.sorted) := rfl
      have wholeRead : tagging.addTag (·.ofValue (.string tagName)) (.content value.sorted) =
          .ok (.whole a) := by
        show ((Decoder.choice tagging.tags).ofValue (Value.string tagName).sorted >>= fun tag =>
          ((tagging.content tag).ofValue value.sorted).map Tagged.whole) = _
        rw [named.ofValue, bind_ok, contentRead, map_ok]
      rw [Fields.tagged, if_neg apart.symm, if_pos rfl, kept, bind_ok, Fields.insert, Fields.tagged,
        if_pos rfl, wholeRead]
      rfl

end Decoder.Decodes

/-! ### Records -/

/-- Fields with distinct keys are found by their keys. -/
theorem fieldWithKey?_of_mem {fields : List (FieldDecoder α)} {field : FieldDecoder α}
    (distinct : (fields.map (·.key)).Nodup) (member : field ∈ fields) :
    fieldWithKey? fields field.key = some field := by
  induction fields with
  | nil => cases member
  | cons head tail ih =>
      rw [List.map_cons, List.nodup_cons] at distinct
      rcases List.mem_cons.mp member with rfl | later
      · exact List.find?_cons_of_pos (beq_self_eq_true field.key)
      · have other : head.key ≠ field.key := by
          intro same
          exact distinct.1 (same ▸ List.mem_map_of_mem later)
        rw [← ih distinct.2 later]
        exact List.find?_cons_of_neg (by simpa using other)

/-- An update is the one under its key if the keys are distinct. -/
private theorem Updates.lookup_of_mem {updates : Updates α} {key : String} {update : α → α}
    (distinct : (updates.map Prod.fst).Nodup) (member : (key, update) ∈ updates) :
    updates.lookup key = some update := by
  obtain ⟨before, after, split⟩ := List.append_of_mem member
  refine List.lookup_eq_some_iff.mpr ⟨before, after, split, ?_⟩
  intro other earlier
  rw [split, List.map_append, List.map_cons] at distinct
  have apart := (List.nodup_append.mp distinct).2.2 other.1 (List.mem_map_of_mem earlier)
    key List.mem_cons_self
  simpa using apart.symm

/-- Values for the fields of a record, in the order of the fields, and what they do to it. -/
inductive Describes (depth : Nat) :
    List (FieldDecoder α) → List (String × Value) → Updates α → Prop where
  | nil : Describes depth [] [] []
  | cons {field : FieldDecoder α} {fields : List (FieldDecoder α)} {value : Value}
      {members : List (String × Value)} {update : α → α} {updates : Updates α}
      (decodes : field.update.Decodes depth value update)
      (others : Describes depth fields members updates) :
      Describes depth (field :: fields) ((field.key, value) :: members)
        ((field.key, update) :: updates)

namespace Describes

variable {depth : Nat} {fields : List (FieldDecoder α)} {members : List (String × Value)}
  {updates : Updates α} {value : Value} {decoder : Decoder β} {b : β}

theorem required (key : String) {set : β → α → α} (decodes : decoder.Decodes depth value b)
    (others : Describes depth fields members updates) :
    Describes depth (.required key decoder set :: fields) ((key, value) :: members)
      ((key, set b) :: updates) :=
  .cons (decodes.map set) others

theorem optional (key : String) {set : β → α → α} (decodes : decoder.Decodes depth value b)
    (others : Describes depth fields members updates) :
    Describes depth (.optional key decoder set :: fields) ((key, value) :: members)
      ((key, set b) :: updates) :=
  .cons (decodes.map set) others

theorem members_keys (describes : Describes depth fields members updates) :
    members.map Prod.fst = fields.map (·.key) := by
  induction describes with
  | nil => rfl
  | cons _ _ ih => rw [List.map_cons, List.map_cons, ih]

theorem updates_keys (describes : Describes depth fields members updates) :
    updates.map Prod.fst = fields.map (·.key) := by
  induction describes with
  | nil => rfl
  | cons _ _ ih => rw [List.map_cons, List.map_cons, ih]

theorem readable (describes : Describes depth fields members updates) :
    (Fields.ofList members).Readable depth := by
  induction describes with
  | nil => trivial
  | cons decodes _ ih => exact ⟨decodes.readable, ih⟩

/-- Each member is read by the field with its key. -/
theorem exists_field (describes : Describes depth fields members updates)
    (distinct : (fields.map (·.key)).Nodup) {key : String} {value : Value}
    (member : (key, value) ∈ members) :
    ∃ field update, fieldWithKey? fields key = some field ∧ updates.lookup key = some update ∧
      field.update.Decodes depth value update := by
  have listed : ∃ field ∈ fields, ∃ update, field.key = key ∧ (key, update) ∈ updates ∧
      field.update.Decodes depth value update := by
    clear distinct
    induction describes with
    | nil => cases member
    | @cons field fields head members update updates decodes others ih =>
        rcases List.mem_cons.mp member with same | later
        · obtain ⟨rfl, rfl⟩ := Prod.mk.inj same
          exact ⟨field, List.mem_cons_self, update, rfl, List.mem_cons_self, decodes⟩
        · obtain ⟨other, inside, update, same, under, decodes⟩ := ih later
          exact ⟨other, List.mem_cons_of_mem _ inside, update, same,
            List.mem_cons_of_mem _ under, decodes⟩
  obtain ⟨field, inside, update, rfl, under, decodes⟩ := listed
  refine ⟨field, update, fieldWithKey?_of_mem distinct inside, ?_, decodes⟩
  rw [← describes.updates_keys] at distinct
  exact Updates.lookup_of_mem distinct under

/-- A record is assembled from any list that has the same updates under the same keys. -/
theorem assemble (describes : Describes depth fields members updates) {found : Updates α}
    (agrees : ∀ entry ∈ updates, found.lookup entry.1 = some entry.2) (blank : α) :
    found.assemble fields blank =
      .ok (updates.foldl (fun record entry => entry.2 record) blank) := by
  induction describes generalizing blank with
  | nil => rfl
  | @cons field fields value members update updates _ _ ih =>
      have head : found.lookup field.key = some update := agrees _ List.mem_cons_self
      rw [Updates.assemble, head]
      exact ih (fun entry member => agrees entry (List.mem_cons_of_mem _ member)) (update blank)

end Describes

private theorem lookup_done {done : Updates α} {key : String} {keys : List String}
    (distinct : (done.map Prod.fst ++ key :: keys).Nodup) : done.lookup key = none := by
  refine List.lookup_eq_none_iff.mpr ?_
  intro entry member
  have listed : entry.1 ∈ done.map Prod.fst := List.mem_map_of_mem member
  have apart := (List.nodup_append.mp distinct).2.2 entry.1 listed key List.mem_cons_self
  simpa using apart.symm

/-- A member with a new key is read by the field with its key, and then the others are. -/
theorem Fields.record_entries_cons {fields : List (FieldDecoder α)} {field : FieldDecoder α}
    {depth : Nat} {key : String} {value : Value} {others : List (String × Value)}
    {done : Updates α} (found : fieldWithKey? fields key = some field)
    (distinct : (done.map Prod.fst ++ ((key, value) :: others).map Prod.fst).Nodup) :
    (Fields.ofList ((key, value) :: others)).entries.record fields depth done =
      field.update.ofTree depth value.tree >>= fun update =>
        (Fields.ofList others).entries.record fields depth (done ++ [(key, update)]) := by
  have fresh : (done.lookup key).isSome = false := by
    rw [lookup_done distinct, Option.isSome_none]
  rw [Fields.ofList, Fields.entries, Entries.record, text_spelling, bind_ok]
  simp only [found, fresh, Bool.false_eq_true, if_false]

/-- Members with distinct keys leave what each does to the record, in the order of the text. -/
private theorem record_entries {fields : List (FieldDecoder α)} {depth : Nat}
    (made : String → α → α) {members : List (String × Value)} {done : Updates α}
    (distinct : (done.map Prod.fst ++ members.map Prod.fst).Nodup)
    (decoded : ∀ member ∈ members, ∃ field, fieldWithKey? fields member.1 = some field ∧
      field.update.ofTree depth member.2.tree = .ok (made member.1)) :
    (Fields.ofList members).entries.record fields depth done =
      .ok (done ++ members.map fun member => (member.1, made member.1)) := by
  induction members generalizing done with
  | nil =>
      rw [Fields.ofList, Fields.entries, List.map_nil, List.append_nil]
      rfl
  | cons head tail ih =>
      obtain ⟨key, value⟩ := head
      obtain ⟨field, found, update⟩ := decoded (key, value) List.mem_cons_self
      rw [Fields.record_entries_cons found distinct, update, bind_ok, ih]
      · simp
      · simpa using distinct
      · exact fun member listed => decoded member (List.mem_cons_of_mem _ listed)

/-- Members with distinct keys leave what each does to the record, in the order they come in. -/
private theorem record_fields {fields : List (FieldDecoder α)} (made : String → α → α)
    {members : Fields} {done : Updates α}
    (distinct : (done.map Prod.fst ++ members.toList.map Prod.fst).Nodup)
    (decoded : ∀ member ∈ members.toList, ∃ field, fieldWithKey? fields member.1 = some field ∧
      field.update.ofValue member.2 = .ok (made member.1)) :
    members.record fields done =
      .ok (done ++ members.toList.map fun member => (member.1, made member.1)) := by
  match members with
  | .nil => rw [Fields.record, Fields.toList, List.map_nil, List.append_nil]
  | .cons key value tail =>
      obtain ⟨field, found, update⟩ := decoded (key, value) List.mem_cons_self
      have fresh := lookup_done distinct
      rw [Fields.record]
      simp only [found, fresh, update, bind_ok]
      rw [if_neg (by simp), record_fields made]
      · simp [Fields.toList]
      · simpa [Fields.toList] using distinct
      · exact fun member listed => decoded member (List.mem_cons_of_mem _ listed)

private theorem toList_insert {key : String} (value : Value) {fields : Fields}
    (fresh : key ∉ fields.toList.map Prod.fst) :
    (fields.insert key value).toList.Perm ((key, value) :: fields.toList) := by
  match fields with
  | .nil => exact .refl _
  | .cons k v tail =>
      simp only [Fields.toList, List.map_cons, List.mem_cons, not_or] at fresh
      rw [Fields.insert, if_neg fresh.1]
      split
      · exact .refl _
      · exact ((toList_insert value fresh.2).cons (k, v)).trans (.swap _ _ _)

private theorem toList_sorted_fields {members : List (String × Value)}
    (distinct : (members.map Prod.fst).Nodup) :
    (Fields.ofList members).sorted.toList.Perm
      (members.map fun member => (member.1, member.2.sorted)) := by
  induction members with
  | nil => exact .refl _
  | cons head tail ih =>
      obtain ⟨key, value⟩ := head
      rw [List.map_cons, List.nodup_cons] at distinct
      have others := ih distinct.2
      have keys := others.map Prod.fst
      rw [List.map_map, show Prod.fst ∘ (fun member : String × Value =>
        (member.1, member.2.sorted)) = Prod.fst from rfl] at keys
      refine (toList_insert value.sorted ?_).trans (others.cons _)
      intro listed
      exact distinct.1 (keys.mem_iff.mp listed)

/-- What the update under a key does to a record. -/
private def Updates.under (updates : Updates α) (key : String) : α → α :=
  (updates.lookup key).getD id

/-- A record is assembled from what the updates do under the keys of its fields, in any order. -/
private theorem assemble_under {depth : Nat} {fields : List (FieldDecoder α)}
    {members : List (String × Value)} {updates : Updates α}
    (describes : Describes depth fields members updates)
    (distinct : (fields.map (·.key)).Nodup) {keys : List String}
    (all : ∀ key ∈ fields.map (·.key), key ∈ keys) (blank : α) :
    Updates.assemble (keys.map fun key => (key, updates.under key)) fields blank =
      .ok (updates.foldl (fun record entry => entry.2 record) blank) := by
  refine describes.assemble ?_ blank
  intro entry member
  have listed : entry.1 ∈ keys := by
    refine all entry.1 ?_
    rw [← describes.updates_keys]
    exact List.mem_map_of_mem member
  have looked : updates.lookup entry.1 = some entry.2 := by
    rw [← describes.updates_keys] at distinct
    exact Updates.lookup_of_mem distinct member
  rw [List.lookup_graph _ listed, Updates.under, looked, Option.getD_some]

/-- A record is read from an object with a member for each of its fields. -/
theorem Describes.decodes (name : String) {blank a : α} {depth : Nat}
    {fields : List (FieldDecoder α)} {members : List (String × Value)} {updates : Updates α}
    (describes : Describes depth fields members updates)
    (distinct : (fields.map (·.key)).Nodup)
    (result : updates.foldl (fun record entry => entry.2 record) blank = a) :
    (Decoder.record name blank fields).Decodes (depth + 1) (.ofFields members) a := by
  have read : ∀ member ∈ members, ∃ field, fieldWithKey? fields member.1 = some field ∧
      field.update.Decodes depth member.2 (updates.under member.1) := by
    intro member listed
    obtain ⟨field, update, found, looked, decodes⟩ := describes.exists_field distinct listed
    refine ⟨field, found, ?_⟩
    rwa [Updates.under, looked]
  have keys : (members.map Prod.fst).Nodup := by
    rw [describes.members_keys]
    exact distinct
  refine ⟨describes.readable, ?_, ?_⟩
  · show ((Fields.ofList members).entries.record fields depth [] >>= fun updates =>
      updates.assemble fields blank) = .ok a
    have found : (Fields.ofList members).entries.record fields depth [] =
        .ok (members.map fun member => (member.1, updates.under member.1)) :=
      record_entries updates.under keys fun member listed =>
        (read member listed).imp fun _ both => ⟨both.1, both.2.ofTree⟩
    have all : ∀ key ∈ fields.map (·.key), key ∈ members.map Prod.fst := by
      rw [describes.members_keys]
      exact fun _ => id
    have assembled := assemble_under describes distinct all blank
    rw [List.map_map] at assembled
    rw [found, bind_ok, ← result]
    exact assembled
  · show ((Fields.ofList members).sorted.record fields [] >>= fun updates =>
      updates.assemble fields blank) = .ok a
    have order := toList_sorted_fields keys
    have orderKeys : ((Fields.ofList members).sorted.toList.map Prod.fst).Perm
        (members.map Prod.fst) := by
      have mapped := order.map Prod.fst
      rwa [List.map_map] at mapped
    have found : (Fields.ofList members).sorted.record fields [] =
        .ok ((Fields.ofList members).sorted.toList.map fun member =>
          (member.1, updates.under member.1)) := by
      refine record_fields updates.under (orderKeys.nodup_iff.mpr keys) ?_
      intro member listed
      obtain ⟨source, given, rfl⟩ := List.mem_map.mp (order.mem_iff.mp listed)
      exact (read source given).imp fun _ both => ⟨both.1, both.2.ofValue⟩
    have all : ∀ key ∈ fields.map (·.key),
        key ∈ (Fields.ofList members).sorted.toList.map Prod.fst := by
      intro key listed
      rw [orderKeys.mem_iff, describes.members_keys]
      exact listed
    have assembled := assemble_under describes distinct all blank
    rw [List.map_map] at assembled
    rw [found, bind_ok, ← result]
    exact assembled

end EntityDiagram.Json
