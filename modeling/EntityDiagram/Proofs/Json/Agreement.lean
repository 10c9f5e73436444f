import EntityDiagram.Json.Record
import EntityDiagram.Proofs.Json.Scanning
import EntityDiagram.Proofs.Result

/-!
# Both readings of a decoder agree

A decoder reads what a text spells, in the order of the text, or a value in memory, whose members
have been sorted and stripped of repeated keys. The readings agree if the second makes of the value
what the first makes of the text. For each way of making decoders there is a rule by which the made
decoder agrees if its parts do; this holds for all texts that the first reading accepts, not only
for those that writing produces.
-/

namespace EntityDiagram.Json

variable {α β τ : Type}

/-! ### Values of trees -/

namespace Tree

variable {depth : Nat} {value : Value}

theorem read_array {items : Items} (read : (array items).read depth = .ok value) :
    ∃ inner values, depth = inner + 1 ∧ items.read inner = .ok values ∧ value = .array values := by
  cases depth with
  | zero => cases read
  | succ inner =>
      obtain ⟨values, inside, rfl⟩ := map_eq_ok_iff.mp read
      exact ⟨inner, values, rfl, inside, rfl⟩

theorem read_object {entries : Entries} (read : (object entries).read depth = .ok value) :
    ∃ inner fields, depth = inner + 1 ∧ entries.read inner = .ok fields ∧
      value = .object fields := by
  cases depth with
  | zero => cases read
  | succ inner =>
      obtain ⟨fields, inside, rfl⟩ := map_eq_ok_iff.mp read
      exact ⟨inner, fields, rfl, inside, rfl⟩

/-- Only containers differ from their outlines, and only they mind the depth. -/
theorem read_eq_outline (depth : Nat) {tree : Tree} (noArray : ∀ items, tree ≠ .array items)
    (noObject : ∀ entries, tree ≠ .object entries) : tree.read depth = tree.outline := by
  cases tree with
  | array items => exact absurd rfl (noArray items)
  | object entries => exact absurd rfl (noObject entries)
  | _ => simp only [outline, read]

theorem eq_null_of_read {tree : Tree} (read : tree.read depth = .ok .null) : tree = .null := by
  cases tree with
  | null => rfl
  | absent fault => cases read
  | broken fault => cases read
  | bool flag => cases read
  | number numeral =>
      obtain ⟨number, _, same⟩ := map_eq_ok_iff.mp read
      cases same
  | badNumber cut => cases read
  | string spelling =>
      obtain ⟨text, _, same⟩ := map_eq_ok_iff.mp read
      cases same
  | array items =>
      obtain ⟨_, _, _, _, same⟩ := read_array read
      cases same
  | object entries =>
      obtain ⟨_, _, _, _, same⟩ := read_object read
      cases same

end Tree

namespace Fields

theorem find?_insert_self {key : String} (value : Value) :
    ∀ {fields : Fields}, fields.find? key = none → (fields.insert key value).find? key = some value
  | nil, _ => by simp [insert, find?]
  | cons k v tail, fresh => by
    rw [find?] at fresh
    split_ifs at fresh with same
    rw [insert, if_neg (Ne.symm same)]
    split_ifs
    · simp [find?]
    · rw [find?, if_neg same, find?_insert_self value fresh]

theorem Ordered.find?_tail {key : String} {value : Value} {tail : Fields}
    (ordered : (cons key value tail).Ordered) : tail.find? key = none := by
  by_contra found
  exact String.lt_irrefl key (ordered.1 key (Option.isSome_iff_ne_none.mpr found))

end Fields

/-- The members that are read from entries come in the order of their keys. -/
theorem Entries.ordered_of_read {depth : Nat} {entries : Entries} {members : Fields}
    (read : entries.read depth = .ok members) : members.Ordered := by
  match entries with
  | .stop ending =>
      obtain ⟨_, _, same⟩ := bind_eq_ok_iff.mp read
      cases same
      trivial
  | .nonKey => cases read
  | .entry key value rest =>
      obtain ⟨_, _, read⟩ := bind_eq_ok_iff.mp read
      obtain ⟨_, _, read⟩ := bind_eq_ok_iff.mp read
      obtain ⟨others, readRest, same⟩ := bind_eq_ok_iff.mp read
      cases same
      exact (ordered_of_read readRest).insert _ _

theorem Items.eq_stop_of_surplusFault? {items : Items}
    (nothing : orFault items.surplusFault? = .ok ()) : items = .stop .closed := by
  cases items with
  | stop ending => cases ending <;> first | rfl | cases nothing
  | item head rest => cases nothing

theorem Document.decode_eq_ok_iff {read : Tree → Except Fault α} {document : Document} {a : α} :
    document.decode read = .ok a ↔ read document.root = .ok a ∧ document.isWhole = true := by
  rw [Document.decode, bind_eq_ok_iff]
  cases whole : document.isWhole with
  | true => simp [orFault, bind, Except.bind, pure, Except.pure]
  | false => simp [orFault, bind, Except.bind]

/-! ### Agreement -/

/-- What a decoder makes of a tree, it makes of the value of the tree as well. -/
def Decoder.Agrees (decoder : Decoder α) : Prop :=
  ∀ ⦃depth : Nat⦄ ⦃tree : Tree⦄ ⦃value : Value⦄ ⦃a : α⦄, tree.read depth = .ok value →
    decoder.ofTree depth tree = .ok a → decoder.ofValue value = .ok a

namespace Decoder.Agrees

variable {decoder : Decoder α}

theorem map (agrees : decoder.Agrees) (f : α → β) : (decoder.map f).Agrees := by
  intro depth tree value b read decoded
  obtain ⟨a, inner, rfl⟩ := map_eq_ok_iff.mp decoded
  exact map_eq_ok_iff.mpr ⟨a, agrees read inner, rfl⟩

/-- What refuses containers need not look into them. -/
theorem leaf {read : Value → Except Fault α} (noArray : ∀ items a, read (.array items) ≠ .ok a)
    (noObject : ∀ fields a, read (.object fields) ≠ .ok a) : (Decoder.leaf read).Agrees := by
  intro depth tree value a valued decoded
  obtain ⟨seen, outline, decoded⟩ := bind_eq_ok_iff.mp decoded
  cases tree with
  | array items =>
      cases outline
      exact absurd decoded (noArray _ _)
  | object entries =>
      cases outline
      exact absurd decoded (noObject _ _)
  | _ =>
      rw [← Tree.read_eq_outline depth (by simp) (by simp), valued] at outline
      cases outline
      exact decoded

theorem text : Decoder.text.Agrees := leaf (by rintro _ _ ⟨⟩) (by rintro _ _ ⟨⟩)

theorem flag : Decoder.flag.Agrees := leaf (by rintro _ _ ⟨⟩) (by rintro _ _ ⟨⟩)

theorem word : Decoder.word.Agrees := leaf (by rintro _ _ ⟨⟩) (by rintro _ _ ⟨⟩)

theorem float : Decoder.float.Agrees := leaf (by rintro _ _ ⟨⟩) (by rintro _ _ ⟨⟩)

theorem variant (variants : List (String × α)) : (Decoder.variant variants).Agrees :=
  leaf (by rintro _ _ ⟨⟩) (by rintro _ _ ⟨⟩)

theorem optional (agrees : decoder.Agrees) : (Decoder.optional decoder).Agrees := by
  intro depth tree value result read decoded
  by_cases absent : tree = .null
  · subst absent
    cases read
    exact decoded
  · have given : value ≠ .null := by
      rintro rfl
      exact absent (Tree.eq_null_of_read read)
    rw [Decoder.optional] at decoded ⊢
    dsimp only at decoded ⊢
    split at decoded
    · contradiction
    · obtain ⟨a, inner, rfl⟩ := map_eq_ok_iff.mp decoded
      split
      · contradiction
      · exact map_eq_ok_iff.mpr ⟨a, agrees read inner, rfl⟩

/-! ### Arrays -/

private theorem mapM_of_decode (agrees : decoder.Agrees) {depth : Nat} {items : Items}
    {values : Values} {all : List α} (read : items.read depth = .ok values)
    (decoded : items.decode (decoder.ofTree depth) = .ok all) :
    values.toList.mapM decoder.ofValue = .ok all := by
  match items with
  | .stop ending =>
      obtain ⟨_, _, same⟩ := bind_eq_ok_iff.mp read
      obtain ⟨_, _, empty⟩ := bind_eq_ok_iff.mp decoded
      cases same
      exact empty
  | .item head rest =>
      obtain ⟨value, readHead, read⟩ := bind_eq_ok_iff.mp read
      obtain ⟨others, readRest, same⟩ := bind_eq_ok_iff.mp read
      cases same
      obtain ⟨a, decodedHead, decoded⟩ := bind_eq_ok_iff.mp decoded
      obtain ⟨later, decodedRest, same⟩ := bind_eq_ok_iff.mp decoded
      cases same
      rw [Values.toList, List.mapM_cons, agrees readHead decodedHead, bind_ok,
        mapM_of_decode agrees readRest decodedRest]
      rfl

theorem list (agrees : decoder.Agrees) : (Decoder.list decoder).Agrees := by
  intro depth tree value all read decoded
  cases tree with
  | array items =>
      obtain ⟨inner, values, rfl, readItems, rfl⟩ := Tree.read_array read
      exact mapM_of_decode agrees readItems decoded
  | _ => cases decoded

private theorem eq_item_of_firstItem {expected : String} {index : Nat} {items rest : Items}
    {head : Tree} (first : firstItem expected index items = .ok (head, rest)) :
    items = .item head rest := by
  cases items with
  | stop ending =>
      obtain ⟨_, _, none⟩ := bind_eq_ok_iff.mp first
      cases none
  | item head rest =>
      cases first
      rfl

/-- An array that is read as two things holds just them. -/
private theorem items_of_pairThen {expected : String} {first : Decoder α} {second : α → Decoder β}
    {inner : Nat} {items : Items} {b : β}
    (decoded : (Decoder.pairThen expected first second).ofTree (inner + 1) (.array items) =
      .ok b) :
    ∃ head next a, items = .item head (.item next (.stop .closed)) ∧
      first.ofTree inner head = .ok a ∧ (second a).ofTree inner next = .ok b := by
  obtain ⟨_, ⟨⟩, afterDepth⟩ := bind_eq_ok_iff.mp decoded
  obtain ⟨⟨head, behind⟩, firstGiven, afterFirst⟩ := bind_eq_ok_iff.mp afterDepth
  obtain ⟨a, decodedFirst, beforeNext⟩ := bind_eq_ok_iff.mp afterFirst
  obtain ⟨⟨next, rest⟩, nextGiven, afterNext⟩ := bind_eq_ok_iff.mp beforeNext
  obtain ⟨b, decodedNext, beforeEnd⟩ := bind_eq_ok_iff.mp afterNext
  obtain ⟨_, nothing, same⟩ := bind_eq_ok_iff.mp beforeEnd
  cases same
  refine ⟨head, next, a, ?_, decodedFirst, decodedNext⟩
  rw [eq_item_of_firstItem firstGiven, eq_item_of_firstItem nextGiven,
    Items.eq_stop_of_surplusFault? nothing]

theorem pairThen (expected : String) {first : Decoder α} {second : α → Decoder β}
    (left : first.Agrees) (right : ∀ a, (second a).Agrees) :
    (Decoder.pairThen expected first second).Agrees := by
  intro depth tree value result read decoded
  cases tree with
  | array items =>
      obtain ⟨inner, values, rfl, readItems, rfl⟩ := Tree.read_array read
      obtain ⟨head, next, a, rfl, decodedFirst, decodedNext⟩ := items_of_pairThen decoded
      obtain ⟨value, readFirst, readItems⟩ := bind_eq_ok_iff.mp readItems
      obtain ⟨_, readRest, same⟩ := bind_eq_ok_iff.mp readItems
      cases same
      obtain ⟨other, readNext, readRest⟩ := bind_eq_ok_iff.mp readRest
      obtain ⟨_, readStop, same⟩ := bind_eq_ok_iff.mp readRest
      cases same
      cases readStop
      show (first.ofValue value >>= fun a => (second a).ofValue other >>= fun b => .ok b) =
        .ok result
      rw [left readFirst decodedFirst, bind_ok, right a readNext decodedNext, bind_ok]
  | _ => cases decoded

theorem pair {first : Decoder α} {second : Decoder β} (left : first.Agrees)
    (right : second.Agrees) : (Decoder.pair first second).Agrees :=
  pairThen _ left fun _ => right.map _

/-! ### Choices -/

theorem choice (variants : List (String × α)) : (Decoder.choice variants).Agrees := by
  intro depth tree value a read decoded
  cases tree with
  | string spelling =>
      obtain ⟨name, spelled, rfl⟩ := map_eq_ok_iff.mp read
      obtain ⟨_, same, picked⟩ := bind_eq_ok_iff.mp decoded
      cases spelled.symm.trans same
      exact picked
  | object entries =>
      obtain ⟨inner, fields, rfl, readEntries, rfl⟩ := Tree.read_object read
      obtain ⟨_, ⟨⟩, decoded⟩ := bind_eq_ok_iff.mp decoded
      cases entries with
      | stop ending => cases ending <;> cases decoded
      | nonKey => cases decoded
      | entry key value rest =>
          obtain ⟨chosen, picked, decoded⟩ := bind_eq_ok_iff.mp decoded
          obtain ⟨name, spelled, picked⟩ := bind_eq_ok_iff.mp picked
          -- The one member has the value null, and nothing may follow it.
          cases value with
          | null =>
              cases rest with
              | stop ending =>
                  cases ending with
                  | closed =>
                      cases decoded
                      obtain ⟨_, same, readEntries⟩ := bind_eq_ok_iff.mp readEntries
                      cases spelled.symm.trans same
                      cases readEntries
                      show (Decoder.pick variants name >>= fun a => .ok a) = .ok a
                      rw [picked, bind_ok]
                  | _ => cases decoded
              | _ => cases decoded
          | _ => cases decoded
  | absent fault => cases decoded
  | _ => cases decoded

end Decoder.Agrees

/-! ### Tagged values -/

/-- Members that complete what has been read of a tagged value to the given one: what is still
wanted is there, and what has been read does not come again. -/
def Tagging.Completes (tagging : Tagging τ α) (members : Fields) (a : α) : Tagged τ α → Prop
  | .nothing => ∃ named value tag, members.find? tagging.tagKey = some named ∧
      members.find? tagging.contentKey = some value ∧
      (Decoder.choice tagging.tags).ofValue named = .ok tag ∧
      (tagging.content tag).ofValue value = .ok a
  | .tag tag => members.find? tagging.tagKey = none ∧
      ∃ value, members.find? tagging.contentKey = some value ∧
        (tagging.content tag).ofValue value = .ok a
  | .content content => members.find? tagging.contentKey = none ∧
      ∃ named tag, members.find? tagging.tagKey = some named ∧
        (Decoder.choice tagging.tags).ofValue named = .ok tag ∧
        (tagging.content tag).ofValue content = .ok a
  | .whole result => members.find? tagging.tagKey = none ∧
      members.find? tagging.contentKey = none ∧ result = a

namespace Tagging

variable {tagging : Tagging τ α} {members : Fields} {state next : Tagged τ α} {value : Value}
  {a : α}

theorem eq_whole_of_finish (done : tagging.finish state = .ok a) : state = .whole a := by
  cases state with
  | whole result =>
      cases done
      rfl
  | _ => cases done

/-- A member under a third key counts for nothing. -/
theorem completes_congr {others : Fields}
    (tags : others.find? tagging.tagKey = members.find? tagging.tagKey)
    (contents : others.find? tagging.contentKey = members.find? tagging.contentKey) :
    tagging.Completes others a state ↔ tagging.Completes members a state := by
  cases state <;> simp only [Completes, tags, contents]

/-- What others complete once a tag was added, they complete with a member for the tag before it
was added. -/
theorem Completes.of_addTag {others : Fields} {read : Decoder τ → Except Fault τ}
    (completes : tagging.Completes others a next) (added : tagging.addTag read state = .ok next)
    (decoded : ∀ tag, read (.choice tagging.tags) = .ok tag →
      (Decoder.choice tagging.tags).ofValue value = .ok tag)
    (apart : tagging.tagKey ≠ tagging.contentKey) :
    tagging.Completes (others.insert tagging.tagKey value) a state := by
  have contents := Fields.find?_insert_of_ne apart.symm value others
  cases state with
  | nothing =>
      obtain ⟨tag, chosen, rfl⟩ := map_eq_ok_iff.mp added
      obtain ⟨fresh, content, later, contentRead⟩ := completes
      exact ⟨value, content, tag, Fields.find?_insert_self value fresh, contents.trans later,
        decoded tag chosen, contentRead⟩
  | content content =>
      obtain ⟨tag, chosen, added⟩ := bind_eq_ok_iff.mp added
      obtain ⟨result, contentRead, rfl⟩ := map_eq_ok_iff.mp added
      obtain ⟨fresh, noContent, rfl⟩ := completes
      exact ⟨contents.trans noContent, value, tag, Fields.find?_insert_self value fresh,
        decoded tag chosen, contentRead⟩
  | tag tag => cases added
  | whole result => cases added

/-- What others complete once a content was added, they complete with a member for the content
before it was added. -/
theorem Completes.of_addContent {others : Fields} {read : Decoder α → Except Fault α}
    (completes : tagging.Completes others a next)
    (added : tagging.addContent read (.ok value) state = .ok next)
    (decoded : ∀ tag result, read (tagging.content tag) = .ok result →
      (tagging.content tag).ofValue value = .ok result)
    (apart : tagging.tagKey ≠ tagging.contentKey) :
    tagging.Completes (others.insert tagging.contentKey value) a state := by
  have tags := Fields.find?_insert_of_ne apart value others
  cases state with
  | nothing =>
      cases added
      obtain ⟨fresh, named, tag, later, chosen, contentRead⟩ := completes
      exact ⟨named, value, tag, tags.trans later, Fields.find?_insert_self value fresh, chosen,
        contentRead⟩
  | tag tag =>
      obtain ⟨result, contentRead, rfl⟩ := map_eq_ok_iff.mp added
      obtain ⟨noTag, fresh, rfl⟩ := completes
      exact ⟨tags.trans noTag, value, Fields.find?_insert_self value fresh,
        decoded tag result contentRead⟩
  | content content => cases added
  | whole result => cases added

/-- Where a member for the tag comes first, the others complete what is read with it. -/
theorem Completes.exists_addTag {tail : Fields}
    (completes : tagging.Completes (.cons tagging.tagKey value tail) a state)
    (fresh : tail.find? tagging.tagKey = none) (apart : tagging.tagKey ≠ tagging.contentKey) :
    ∃ next, tagging.addTag (·.ofValue value) state = .ok next ∧
      tagging.Completes tail a next := by
  have here : (Fields.cons tagging.tagKey value tail).find? tagging.tagKey = some value :=
    if_pos rfl
  have contents : (Fields.cons tagging.tagKey value tail).find? tagging.contentKey =
      tail.find? tagging.contentKey := if_neg apart
  cases state with
  | nothing =>
      obtain ⟨named, content, tag, first, later, chosen, contentRead⟩ := completes
      cases here.symm.trans first
      exact ⟨.tag tag, map_eq_ok_iff.mpr ⟨tag, chosen, rfl⟩, fresh, content,
        contents.symm.trans later, contentRead⟩
  | content content =>
      obtain ⟨noContent, named, tag, first, chosen, contentRead⟩ := completes
      cases here.symm.trans first
      refine ⟨.whole a, ?_, fresh, contents.symm.trans noContent, rfl⟩
      exact bind_eq_ok_iff.mpr ⟨tag, chosen, map_eq_ok_iff.mpr ⟨a, contentRead, rfl⟩⟩
  | tag tag => cases here.symm.trans completes.1
  | whole result => cases here.symm.trans completes.1

/-- Where a member for the content comes first, the others complete what is read with it. -/
theorem Completes.exists_addContent {tail : Fields}
    (completes : tagging.Completes (.cons tagging.contentKey value tail) a state)
    (fresh : tail.find? tagging.contentKey = none) (apart : tagging.tagKey ≠ tagging.contentKey) :
    ∃ next, tagging.addContent (·.ofValue value) (.ok value) state = .ok next ∧
      tagging.Completes tail a next := by
  have here : (Fields.cons tagging.contentKey value tail).find? tagging.contentKey = some value :=
    if_pos rfl
  have tags : (Fields.cons tagging.contentKey value tail).find? tagging.tagKey =
      tail.find? tagging.tagKey := if_neg apart.symm
  cases state with
  | nothing =>
      obtain ⟨named, content, tag, later, first, chosen, contentRead⟩ := completes
      cases here.symm.trans first
      exact ⟨.content value, rfl, fresh, named, tag, tags.symm.trans later, chosen, contentRead⟩
  | tag tag =>
      obtain ⟨noTag, content, first, contentRead⟩ := completes
      cases here.symm.trans first
      exact ⟨.whole a, map_eq_ok_iff.mpr ⟨a, contentRead, rfl⟩, tags.symm.trans noTag, fresh, rfl⟩
  | content content => cases here.symm.trans completes.1
  | whole result => cases here.symm.trans completes.2.1

end Tagging

/-- Where entries are read as a tagged value, their members complete what was read before. -/
private theorem Entries.completes {tagging : Tagging τ α}
    (apart : tagging.tagKey ≠ tagging.contentKey) (agrees : ∀ tag, (tagging.content tag).Agrees)
    {depth : Nat} {entries : Entries} {members : Fields} {state : Tagged τ α} {a : α}
    (read : entries.read depth = .ok members)
    (decoded : entries.tagged tagging depth state = .ok (.whole a)) :
    tagging.Completes members a state := by
  match entries with
  | .stop ending =>
      obtain ⟨_, _, same⟩ := bind_eq_ok_iff.mp read
      obtain ⟨_, _, whole⟩ := bind_eq_ok_iff.mp decoded
      cases same
      cases whole
      exact ⟨rfl, rfl, rfl⟩
  | .nonKey => cases read
  | .entry key tree rest =>
      obtain ⟨name, spelled, read⟩ := bind_eq_ok_iff.mp read
      obtain ⟨value, readValue, read⟩ := bind_eq_ok_iff.mp read
      obtain ⟨others, readRest, same⟩ := bind_eq_ok_iff.mp read
      cases same
      rw [Entries.tagged, spelled, bind_ok, readValue] at decoded
      split_ifs at decoded with isTag isContent
      · obtain ⟨next, added, decoded⟩ := bind_eq_ok_iff.mp decoded
        rw [isTag]
        exact (completes apart agrees readRest decoded).of_addTag added
          (fun _ chosen => Decoder.Agrees.choice _ readValue chosen) apart
      · obtain ⟨next, added, decoded⟩ := bind_eq_ok_iff.mp decoded
        rw [isContent]
        exact (completes apart agrees readRest decoded).of_addContent added
          (fun tag _ contentRead => agrees tag readValue contentRead) apart
      · obtain ⟨_, _, decoded⟩ := bind_eq_ok_iff.mp decoded
        rw [Tagging.completes_congr (Fields.find?_insert_of_ne (Ne.symm isTag) value others)
          (Fields.find?_insert_of_ne (Ne.symm isContent) value others)]
        exact completes apart agrees readRest decoded

/-- Members that complete what was read before are read as the tagged value. -/
private theorem Fields.tagged_of_completes {tagging : Tagging τ α}
    (apart : tagging.tagKey ≠ tagging.contentKey) {members : Fields} (ordered : members.Ordered)
    {state : Tagged τ α} {a : α} (completes : tagging.Completes members a state) :
    members.tagged tagging state = .ok (.whole a) := by
  match members with
  | .nil =>
      cases state with
      | whole result =>
          obtain ⟨-, -, rfl⟩ := completes
          rfl
      | nothing =>
          obtain ⟨_, _, _, none, _⟩ := completes
          cases none
      | tag tag =>
          obtain ⟨_, _, none, _⟩ := completes
          cases none
      | content content =>
          obtain ⟨_, _, _, none, _⟩ := completes
          cases none
  | .cons key value tail =>
      have fresh := ordered.find?_tail
      rw [Fields.tagged]
      split_ifs with isTag isContent
      · subst isTag
        obtain ⟨next, added, later⟩ := completes.exists_addTag fresh apart
        rw [added, bind_ok, tagged_of_completes apart ordered.2 later]
      · subst isContent
        obtain ⟨next, added, later⟩ := completes.exists_addContent fresh apart
        rw [added, bind_ok, tagged_of_completes apart ordered.2 later]
      · refine tagged_of_completes apart ordered.2 ?_
        exact (Tagging.completes_congr (if_neg isTag).symm (if_neg isContent).symm).mpr completes

theorem Decoder.Agrees.tagged (name : String) {tagging : Tagging τ α}
    (apart : tagging.tagKey ≠ tagging.contentKey) (agrees : ∀ tag, (tagging.content tag).Agrees) :
    (Decoder.tagged name tagging).Agrees := by
  intro depth tree value a read decoded
  have positional := pairThen ("adjacently tagged enum " ++ name) (variant tagging.tags) agrees
  cases tree with
  | object entries =>
      obtain ⟨inner, members, rfl, readEntries, rfl⟩ := Tree.read_object read
      obtain ⟨_, ⟨⟩, decoded⟩ := bind_eq_ok_iff.mp decoded
      obtain ⟨state, decoded, done⟩ := bind_eq_ok_iff.mp decoded
      obtain rfl := Tagging.eq_whole_of_finish done
      have completes := Entries.completes apart agrees readEntries decoded
      show (members.tagged tagging .nothing >>= tagging.finish) = .ok a
      rw [Fields.tagged_of_completes apart (Entries.ordered_of_read readEntries) completes]
      rfl
  | array items =>
      obtain ⟨inner, values, rfl, -, rfl⟩ := Tree.read_array read
      exact positional read decoded
  | _ => cases decoded

end EntityDiagram.Json
