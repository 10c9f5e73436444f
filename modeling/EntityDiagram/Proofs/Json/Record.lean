import EntityDiagram.Proofs.Json.Agreement
import EntityDiagram.Proofs.Json.Decoding

/-!
# Both readings of a record agree

A record that is read straight from a text refuses a field that comes twice, and passes over what
is no field. So what it has read of each field is what the one member with the key of the field
describes, and that is all that matters for the record: the order of the members does not, nor do
members under other keys. A member that is put in for a missing field changes just that field.
-/

namespace EntityDiagram.Json

variable {α β : Type} {fields : List (FieldDecoder α)}

/-! ### Lists of fields -/

/-- The values of all fields are read alike from both. -/
def FieldsAgree (fields : List (FieldDecoder α)) : Prop := ∀ field ∈ fields, field.update.Agrees

namespace FieldsAgree

variable {decoder : Decoder β} {set : β → α → α}

theorem nil : FieldsAgree ([] : List (FieldDecoder α)) := nofun

theorem required (key : String) (agrees : decoder.Agrees) (others : FieldsAgree fields) :
    FieldsAgree (.required key decoder set :: fields) :=
  List.forall_mem_cons.mpr ⟨agrees.map set, others⟩

theorem optional (key : String) (agrees : decoder.Agrees) (others : FieldsAgree fields) :
    FieldsAgree (.optional key decoder set :: fields) :=
  List.forall_mem_cons.mpr ⟨agrees.map set, others⟩

end FieldsAgree

/-! ### What the members of an object describe -/

/-- The updates under the keys of the fields are those that the members describe. -/
def Updates.Mirror (updates : Updates α) (fields : List (FieldDecoder α)) (members : Fields) :
    Prop :=
  ∀ key field, fieldWithKey? fields key = some field →
    (members.find? key).map field.update.ofValue = (updates.lookup key).map .ok

/-- The members under the keys of fields can be read. -/
def Fields.Decodable (members : Fields) (fields : List (FieldDecoder α)) : Prop :=
  ∀ key field value, fieldWithKey? fields key = some field → members.find? key = some value →
    ∃ update, field.update.ofValue value = .ok update

namespace Updates

variable {updates others : Updates α} {members : Fields}

theorem Mirror.decodable (mirror : updates.Mirror fields members) : members.Decodable fields := by
  intro key field value listed found
  have same := mirror key field listed
  rw [found, Option.map_some] at same
  obtain ⟨update, _, read⟩ := Option.map_eq_some_iff.mp same.symm
  exact ⟨update, read.symm⟩

/-- The members leave no choice for the updates. -/
theorem Mirror.lookup_eq (mirror : updates.Mirror fields members)
    (other : others.Mirror fields members) {field : FieldDecoder α} (listed : field ∈ fields) :
    updates.lookup field.key = others.lookup field.key := by
  have found : (fieldWithKey? fields field.key).isSome := by
    rw [fieldWithKey?, List.find?_isSome]
    exact ⟨field, listed, beq_self_eq_true field.key⟩
  obtain ⟨first, found⟩ := Option.isSome_iff_exists.mp found
  have injective : Function.Injective (Except.ok : (α → α) → Except Fault (α → α)) :=
    fun _ _ => Except.ok.inj
  exact Option.map_injective injective ((mirror _ _ found).symm.trans (other _ _ found))

theorem assemble_congr (same : ∀ field ∈ fields, updates.lookup field.key = others.lookup field.key)
    (blank : α) : updates.assemble fields blank = others.assemble fields blank := by
  induction fields generalizing blank with
  | nil => rfl
  | cons field fields ih =>
      obtain ⟨here, later⟩ := List.forall_mem_cons.mp same
      rw [assemble, assemble, here]
      cases others.lookup field.key with
      | none => simp only [ih later]
      | some update => exact ih later (update blank)

/-- One more member comes with one more update. -/
theorem Mirror.cons {whole : Fields} {key : String} {update : α → α} {value : Value}
    (mirror : updates.Mirror fields members) (here : whole.find? key = some value)
    (behind : ∀ other, other ≠ key → whole.find? other = members.find? other)
    (decoded : ∀ field, fieldWithKey? fields key = some field →
      field.update.ofValue value = .ok update) :
    Mirror ((key, update) :: updates) fields whole := by
  intro other field listed
  by_cases same : other = key
  · subst same
    rw [here, List.lookup_cons_self, Option.map_some, Option.map_some, decoded field listed]
  · rw [behind other same, List.lookup_cons, beq_false_of_ne same]
    exact mirror other field listed

end Updates

/-! ### Objects -/

/-- What is read from the entries of an object mirrors their members; a field that was read before
does not come again. -/
private theorem Entries.mirror_of_record (agrees : FieldsAgree fields)
    {depth : Nat} {entries : Entries} {members : Fields} {done updates : Updates α}
    (read : entries.read depth = .ok members)
    (decoded : entries.record fields depth done = .ok updates) :
    ∃ added, updates = done ++ added ∧ added.Mirror fields members ∧
      ∀ key, (fieldWithKey? fields key).isSome → (done.lookup key).isSome →
        members.find? key = none := by
  match entries with
  | .stop ending =>
      obtain ⟨_, _, same⟩ := bind_eq_ok_iff.mp read
      obtain ⟨_, _, all⟩ := bind_eq_ok_iff.mp decoded
      cases same
      cases all
      exact ⟨[], (List.append_nil _).symm, fun _ _ _ => rfl, fun _ _ _ => rfl⟩
  | .nonKey => cases read
  | .entry spelling tree rest =>
      obtain ⟨key, spelled, read⟩ := bind_eq_ok_iff.mp read
      obtain ⟨value, readValue, read⟩ := bind_eq_ok_iff.mp read
      obtain ⟨others, readRest, same⟩ := bind_eq_ok_iff.mp read
      cases same
      rw [Entries.record, spelled, bind_ok] at decoded
      split at decoded
      · next unknown =>
        obtain ⟨_, _, decoded⟩ := bind_eq_ok_iff.mp decoded
        obtain ⟨added, all, mirror, apart⟩ := mirror_of_record agrees readRest decoded
        have other : ∀ {known field}, fieldWithKey? fields known = some field → known ≠ key := by
          rintro known field listed rfl
          rw [unknown] at listed
          cases listed
        refine ⟨added, all, ?_, ?_⟩
        · intro known field listed
          rw [Fields.find?_insert_of_ne (other listed)]
          exact mirror known field listed
        · intro known listed before
          obtain ⟨field, found⟩ := Option.isSome_iff_exists.mp listed
          rw [Fields.find?_insert_of_ne (other found)]
          exact apart known listed before
      · next field found =>
        split_ifs at decoded with again
        obtain ⟨update, decodedHere, decoded⟩ := bind_eq_ok_iff.mp decoded
        obtain ⟨added, all, mirror, apart⟩ := mirror_of_record agrees readRest decoded
        have here : (done ++ [(key, update)]).lookup key = some update := by
          rw [List.lookup_append, Option.not_isSome_iff_eq_none.mp again, Option.none_or,
            List.lookup_cons_self]
        have fresh : others.find? key = none :=
          apart key (found ▸ rfl) (here ▸ rfl)
        have decodes : field.update.ofValue value = .ok update :=
          agrees field (List.mem_of_find?_eq_some found) readValue decodedHere
        refine ⟨(key, update) :: added, by rw [all]; simp, ?_, ?_⟩
        · refine mirror.cons (Fields.find?_insert_self value fresh)
            (fun _ differs => Fields.find?_insert_of_ne differs _ _) ?_
          intro other listed
          cases found.symm.trans listed
          exact decodes
        · intro known listed before
          have differs : known ≠ key := by
            rintro rfl
            exact again before
          rw [Fields.find?_insert_of_ne differs]
          refine apart known listed ?_
          rw [List.lookup_append, Option.isSome_or, before, Bool.true_or]

/-- Members in order that can be read are read, each under its own key. -/
private theorem Fields.exists_record {members : Fields} (ordered : members.Ordered)
    (decodable : members.Decodable fields) {done : Updates α}
    (apart : ∀ key, (done.lookup key).isSome → members.find? key = none) :
    ∃ added, members.record fields done = .ok (done ++ added) ∧ added.Mirror fields members := by
  match members with
  | .nil => exact ⟨[], by rw [Fields.record, List.append_nil], fun _ _ _ => rfl⟩
  | .cons key value tail =>
      have fresh := ordered.find?_tail
      have here : (Fields.cons key value tail).find? key = some value := if_pos rfl
      have behind : ∀ other, other ≠ key →
          (Fields.cons key value tail).find? other = tail.find? other :=
        fun _ differs => if_neg (Ne.symm differs)
      have later : tail.Decodable fields := by
        intro other field inner listed found
        refine decodable other field inner listed ?_
        rw [behind, found]
        rintro rfl
        rw [fresh] at found
        cases found
      rw [Fields.record]
      split
      · next unknown =>
        have apartBehind : ∀ known, (done.lookup known).isSome → tail.find? known = none := by
          intro known before
          by_cases differs : known = key
          · rw [differs, fresh]
          · rw [← behind known differs, apart known before]
        obtain ⟨added, read, mirror⟩ := exists_record ordered.2 later apartBehind
        refine ⟨added, read, ?_⟩
        intro known field listed
        rw [behind known (by rintro rfl; simp [unknown] at listed)]
        exact mirror known field listed
      · next field listed =>
        obtain ⟨update, decoded⟩ := decodable key field value listed here
        have new : done.lookup key = none := by
          by_contra before
          rw [apart key (Option.isSome_iff_ne_none.mpr before)] at here
          cases here
        have apartBehind : ∀ known, ((done ++ [(key, update)]).lookup known).isSome →
            tail.find? known = none := by
          intro known before
          by_cases differs : known = key
          · rw [differs, fresh]
          · rw [List.lookup_append, List.lookup_cons, beq_false_of_ne differs] at before
            rw [← behind known differs, apart known (by simpa using before)]
        obtain ⟨added, read, mirror⟩ := exists_record ordered.2 later apartBehind
        refine ⟨(key, update) :: added, ?_, mirror.cons here behind ?_⟩
        · rw [new, if_neg (by simp), decoded, bind_ok, read]
          simp
        · intro other found
          cases listed.symm.trans found
          exact decoded

/-- A record that is assembled from what mirrors the members of an object is read from it. -/
theorem Decoder.ofValue_of_mirror (name : String) {blank a : α} {members : Fields}
    {updates : Updates α} (ordered : members.Ordered) (mirror : updates.Mirror fields members)
    (assembled : updates.assemble fields blank = .ok a) :
    (Decoder.record name blank fields).ofValue (.object members) = .ok a := by
  have nothing : ∀ key, (([] : Updates α).lookup key).isSome → members.find? key = none :=
    fun _ before => by cases before
  obtain ⟨added, read, same⟩ := Fields.exists_record ordered mirror.decodable nothing
  show (members.record fields [] >>= fun updates => updates.assemble fields blank) = .ok a
  rw [read, bind_ok, List.nil_append, ← assembled]
  exact Updates.assemble_congr (fun _ listed => same.lookup_eq mirror listed) blank

/-- A record that is read from an object is assembled from what mirrors its members. -/
theorem Decoder.exists_mirror {name : String} {blank a : α}
    (agrees : FieldsAgree fields) {depth : Nat} {entries : Entries}
    {members : Fields} (read : entries.read depth = .ok members)
    (decoded : (Decoder.record name blank fields).ofTree (depth + 1) (.object entries) = .ok a) :
    ∃ updates : Updates α, updates.Mirror fields members ∧
      updates.assemble fields blank = .ok a := by
  obtain ⟨_, ⟨⟩, decoded⟩ := bind_eq_ok_iff.mp decoded
  obtain ⟨updates, decoded, assembled⟩ := bind_eq_ok_iff.mp decoded
  obtain ⟨_, rfl, mirror, -⟩ := Entries.mirror_of_record agrees read decoded
  exact ⟨_, mirror, assembled⟩

/-! ### Arrays -/

private theorem recordOfValues_of_record {expected : String} (length : Nat)
    (agrees : FieldsAgree fields) {depth index : Nat} {items : Items}
    {values : Values} {record a : α} (read : items.read depth = .ok values)
    (decoded : items.record expected depth fields index record = .ok a) :
    recordOfValues expected length fields index values.toList record = .ok a := by
  induction fields generalizing items values index record with
  | nil =>
      rw [Items.record] at decoded
      obtain ⟨_, nothing, same⟩ := bind_eq_ok_iff.mp decoded
      obtain rfl := Items.eq_stop_of_surplusFault? nothing
      cases same
      cases read
      rfl
  | cons field fields ih =>
      obtain ⟨agreesHere, agreesLater⟩ := List.forall_mem_cons.mp agrees
      cases items with
      | item head rest =>
          obtain ⟨value, readHead, read⟩ := bind_eq_ok_iff.mp read
          obtain ⟨others, readRest, same⟩ := bind_eq_ok_iff.mp read
          cases same
          obtain ⟨update, decodedHead, decoded⟩ := bind_eq_ok_iff.mp decoded
          rw [Values.toList, recordOfValues, agreesHere readHead decodedHead, bind_ok]
          exact ih agreesLater readRest decoded
      | stop ending =>
          obtain ⟨_, closed, decoded⟩ := bind_eq_ok_iff.mp decoded
          split_ifs at decoded with required
          obtain ⟨_, _, same⟩ := bind_eq_ok_iff.mp read
          cases same
          rw [Values.toList, recordOfValues, if_neg required]
          exact ih agreesLater read decoded

/-! ### Agreement -/

/-- A record is read alike from both if its fields are. -/
theorem Decoder.Agrees.record (name : String) (blank : α)
    (agrees : FieldsAgree fields) :
    (Decoder.record name blank fields).Agrees := by
  intro depth tree value a read decoded
  cases tree with
  | object entries =>
      obtain ⟨inner, members, rfl, readEntries, rfl⟩ := Tree.read_object read
      obtain ⟨updates, mirror, assembled⟩ := Decoder.exists_mirror agrees readEntries decoded
      exact Decoder.ofValue_of_mirror name (Entries.ordered_of_read readEntries) mirror assembled
  | array items =>
      obtain ⟨inner, values, rfl, readItems, rfl⟩ := Tree.read_array read
      obtain ⟨_, ⟨⟩, decoded⟩ := bind_eq_ok_iff.mp decoded
      exact recordOfValues_of_record values.toList.length agrees readItems decoded
  | _ => cases decoded

/-! ### A member put in -/

/-- A change of the record makes no difference to what the values of a field do to it. -/
def FieldDecoder.Spares (change : α → α) (field : FieldDecoder α) : Prop :=
  ∀ value update, field.update.ofValue value = .ok update →
    ∀ record, update (change record) = change (update record)

theorem FieldDecoder.spares_optional {change : α → α} (key : String) (decoder : Decoder β)
    {set : β → α → α} (same : ∀ b record, set b (change record) = change (set b record)) :
    (optional key decoder set).Spares change := by
  intro value update read record
  obtain ⟨b, _, rfl⟩ := map_eq_ok_iff.mp read
  exact same b record

/-- A change that the fields spare may be made before they are read. -/
private theorem Updates.assemble_change {updates : Updates α} {change : α → α} {blank a : α}
    (spares : ∀ field ∈ fields, ∀ update, updates.lookup field.key = some update →
      ∀ record, update (change record) = change (update record))
    (assembled : updates.assemble fields blank = .ok a) :
    updates.assemble fields (change blank) = .ok (change a) := by
  induction fields generalizing blank with
  | nil =>
      cases assembled
      rfl
  | cons field fields ih =>
      obtain ⟨here, later⟩ := List.forall_mem_cons.mp spares
      rw [assemble] at assembled ⊢
      cases looked : updates.lookup field.key with
      | none =>
          simp only [looked] at assembled ⊢
          split_ifs at assembled ⊢
          exact ih later assembled
      | some update =>
          simp only [looked] at assembled ⊢
          rw [here update looked]
          exact ih later assembled

/-- One more update changes the record if no other field minds. -/
private theorem Updates.assemble_cons {updates : Updates α} {key : String} {change : α → α}
    {blank a : α} (distinct : (fields.map (·.key)).Nodup) (listed : key ∈ fields.map (·.key))
    (spares : ∀ field ∈ fields, ∀ update, updates.lookup field.key = some update →
      ∀ record, update (change record) = change (update record))
    (fresh : updates.lookup key = none) (assembled : updates.assemble fields blank = .ok a) :
    Updates.assemble ((key, change) :: updates) fields blank = .ok (change a) := by
  induction fields generalizing blank with
  | nil => cases listed
  | cons field fields ih =>
      rw [List.map_cons, List.nodup_cons] at distinct
      obtain ⟨here, later⟩ := List.forall_mem_cons.mp spares
      have behind : ∀ other, other ≠ key →
          List.lookup other ((key, change) :: updates) = updates.lookup other := by
        intro other differs
        rw [List.lookup_cons, beq_false_of_ne differs]
      rw [assemble] at assembled ⊢
      by_cases same : field.key = key
      · -- The other fields have other keys, so the change can be made before them.
        subst same
        simp only [fresh] at assembled
        split_ifs at assembled
        have others : ∀ other ∈ fields,
            List.lookup other.key ((field.key, change) :: updates) = updates.lookup other.key := by
          intro other inside
          refine behind other.key ?_
          intro same
          exact distinct.1 (same ▸ List.mem_map_of_mem inside)
        rw [List.lookup_cons_self]
        exact (assemble_congr others _).trans (assemble_change later assembled)
      · have inside : key ∈ fields.map (·.key) :=
          (List.mem_cons.mp listed).resolve_left (Ne.symm same)
        rw [behind field.key same]
        cases looked : updates.lookup field.key with
        | none =>
            simp only [looked] at assembled ⊢
            split_ifs at assembled ⊢
            exact ih distinct.2 inside later assembled
        | some update =>
            simp only [looked] at assembled ⊢
            exact ih distinct.2 inside later assembled

/-- A member put in for a field that was left out changes the record as its value says. -/
private theorem Decoder.ofValue_insert (name : String) {blank a : α} {members : Fields}
    {updates : Updates α} (distinct : (fields.map (·.key)).Nodup) (ordered : members.Ordered)
    (mirror : updates.Mirror fields members) (assembled : updates.assemble fields blank = .ok a)
    {field : FieldDecoder α} (listed : field ∈ fields) (absent : members.find? field.key = none)
    {member : Value} {change : α → α} (decoded : field.update.ofValue member = .ok change)
    (spares : ∀ other ∈ fields, other.key ≠ field.key → other.Spares change) :
    (Decoder.record name blank fields).ofValue (.object (members.insert field.key member)) =
      .ok (change a) := by
  have found : fieldWithKey? fields field.key = some field := fieldWithKey?_of_mem distinct listed
  have fresh : updates.lookup field.key = none := by
    have same := mirror field.key field found
    rw [absent, Option.map_none] at same
    exact Option.map_eq_none_iff.mp same.symm
  have mirrorAll : Updates.Mirror ((field.key, change) :: updates) fields
      (members.insert field.key member) := by
    refine mirror.cons (Fields.find?_insert_self member absent)
      (fun _ differs => Fields.find?_insert_of_ne differs _ _) ?_
    intro other same
    cases found.symm.trans same
    exact decoded
  refine ofValue_of_mirror name (ordered.insert _ _) mirrorAll
    (Updates.assemble_cons distinct (List.mem_map_of_mem listed) ?_ fresh assembled)
  intro other inside update looked
  have differs : other.key ≠ field.key := by
    intro same
    rw [same, fresh] at looked
    cases looked
  have same := mirror other.key other (fieldWithKey?_of_mem distinct inside)
  rw [looked, Option.map_some] at same
  obtain ⟨given, _, givenRead⟩ := Option.map_eq_some_iff.mp same
  exact spares other inside differs given update givenRead

/-- Whether a value is an object without a member for a key. -/
def Value.lacks (value : Value) (key : String) : Bool :=
  match value with
  | .object members => (members.find? key).isNone
  | _ => false

/-- A value in which an object has a member for a key, the given one if it had none. -/
def Value.filled (value : Value) (key : String) (member : Value) : Value :=
  match value with
  | .object members => .object (members.insert key member)
  | value => value

/-- The readings of a record agree, but for the change that a member makes where it is put in. -/
theorem Decoder.record_filled (name : String) (blank : α) (agrees : FieldsAgree fields)
    (distinct : (fields.map (·.key)).Nodup) {field : FieldDecoder α} (listed : field ∈ fields)
    {member : Value} {change : α → α} (decoded : field.update.ofValue member = .ok change)
    (spares : ∀ other ∈ fields, other.key ≠ field.key → other.Spares change)
    {depth : Nat} {tree : Tree} {value : Value} {a : α} (read : tree.read depth = .ok value)
    (direct : (Decoder.record name blank fields).ofTree depth tree = .ok a) :
    (Decoder.record name blank fields).ofValue (value.filled field.key member) =
      .ok (if value.lacks field.key then change a else a) := by
  have same := Decoder.Agrees.record name blank agrees read direct
  cases tree with
  | object entries =>
      obtain ⟨inner, members, rfl, readEntries, rfl⟩ := Tree.read_object read
      have ordered := Entries.ordered_of_read readEntries
      cases absent : members.find? field.key with
      | none =>
          obtain ⟨updates, mirror, assembled⟩ := Decoder.exists_mirror agrees readEntries direct
          rw [Value.lacks, absent, Option.isNone_none, if_pos rfl]
          exact ofValue_insert name distinct ordered mirror assembled listed absent decoded spares
      | some given =>
          have kept : members.insert field.key member = members :=
            ordered.insert_eq (by rw [absent, Option.isSome_some]) member
          rw [Value.lacks, Value.filled, absent, kept, Option.isNone_some, if_neg (by simp)]
          exact same
  | array items =>
      obtain ⟨inner, values, rfl, -, rfl⟩ := Tree.read_array read
      exact same
  | _ => cases direct

end EntityDiagram.Json
