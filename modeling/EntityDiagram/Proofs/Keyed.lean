import EntityDiagram.Keyed
import Mathlib.Data.List.Find
import Mathlib.Data.List.InsertIdx
import Mathlib.Data.List.Nodup
import Mathlib.Data.List.Perm.Basic

/-!
# Laws of ordered collections

Each operation on a collection is described by what it does to the members and to the list of their
ids. Looking up takes the first member with an id; where ids are distinct it finds every member.
-/

namespace EntityDiagram.Keyed

variable {α β : Type} [Keyed α]

theorem mem_of_find?_eq_some {items : List α} {id : String} {a : α}
    (h : find? items id = some a) : a ∈ items :=
  List.mem_of_find?_eq_some h

theorem find?_isSome_iff_exists {items : List α} {id : String} :
    (find? items id).isSome = true ↔ ∃ a ∈ items, key a = id := by
  rw [find?_isSome_iff, contains_iff]

/-- Under other ids, an id leads to the image of what it led to, if it is not taken for another. -/
theorem find?_map [Keyed β] {f : α → β} {rename : String → String} {items : List α} {id : String}
    (keyed : ∀ a, key (f a) = rename (key a))
    (apart : ∀ a ∈ items, rename (key a) = rename id → key a = id) :
    find? (items.map f) (rename id) = (find? items id).map f := by
  rw [find?, find?, List.find?_map]
  refine congrArg (Option.map f) (List.find?_congr fun a member => ?_)
  rw [Bool.eq_iff_iff, Function.comp_apply, hasKey_iff, hasKey_iff, keyed]
  exact ⟨apart a member, congrArg rename⟩

/-- Under the same ids, an id leads to the image of what it led to. -/
theorem find?_map_of_key_eq [Keyed β] {f : α → β} (keyed : ∀ a, key (f a) = key a)
    (items : List α) (name : String) : find? (items.map f) name = (find? items name).map f := by
  show find? (items.map f) (id name) = (find? items name).map f
  exact find?_map keyed fun _ _ same => same

/-- With distinct ids, a member is what its id leads to. -/
theorem find?_eq_some_iff {items : List α} (nodup : (items.map key).Nodup) {id : String} {a : α} :
    find? items id = some a ↔ a ∈ items ∧ key a = id := by
  constructor
  · intro h
    exact ⟨mem_of_find?_eq_some h, key_of_find?_eq_some h⟩
  · rintro ⟨member, rfl⟩
    obtain ⟨b, hb⟩ := Option.isSome_iff_exists.mp
      (find?_isSome_iff_exists.mpr ⟨a, member, rfl⟩)
    rw [hb, List.inj_on_of_nodup_map nodup (mem_of_find?_eq_some hb) member
      (key_of_find?_eq_some hb)]

/-- What an id leads to stands behind members that have other ids. -/
theorem split_of_find? {items : List α} {id : String} {a : α} (found : find? items id = some a) :
    ∃ before after, items = before ++ a :: after ∧ ∀ b ∈ before, key b ≠ id := by
  obtain ⟨-, before, after, split, others⟩ := List.find?_eq_some_iff_append.mp found
  exact ⟨before, after, split, fun b member => by simpa [hasKey] using others b member⟩

section Split

variable {before after : List α} {id : String} {a : α} (others : ∀ b ∈ before, key b ≠ id)
  (here : key a = id)
include others here

theorem find?_append_cons : find? (before ++ a :: after) id = some a := by
  refine List.find?_eq_some_iff_append.mpr ⟨hasKey_iff.mpr here, before, after, rfl, ?_⟩
  intro b member
  simpa [hasKey] using others b member

theorem update_append_cons (f : α → α) :
    update f id (before ++ a :: after) = before ++ f a :: after := by
  induction before with
  | nil => exact if_pos (hasKey_iff.mpr here)
  | cons b rest ih =>
      have other : ¬ hasKey id b = true := mt hasKey_iff.mp (others b List.mem_cons_self)
      rw [List.cons_append, update, if_neg other,
        ih fun c member => others c (List.mem_cons_of_mem b member), List.cons_append]

theorem erase_append_cons : erase (before ++ a :: after) id = before ++ after := by
  have kept : ∀ b ∈ before, ¬ hasKey id b = true :=
    fun b member => mt hasKey_iff.mp (others b member)
  rw [erase, List.eraseP_append_right _ kept, List.eraseP_cons_of_pos (hasKey_iff.mpr here)]

end Split

/-- A change that leaves the member as it is leaves all as it is. -/
theorem update_eq_self {f : α → α} {items : List α} {id : String} {a : α}
    (found : find? items id = some a) (same : f a = a) : update f id items = items := by
  obtain ⟨before, after, rfl, others⟩ := split_of_find? found
  rw [update_append_cons others (key_of_find?_eq_some found), same]

/-- The changed member is what its id leads to. -/
theorem find?_update_self {f : α → α} {items : List α} {id : String} {a : α}
    (found : find? items id = some a) (same : key (f a) = id) :
    find? (update f id items) id = some (f a) := by
  obtain ⟨before, after, rfl, others⟩ := split_of_find? found
  rw [update_append_cons others (key_of_find?_eq_some found), find?_append_cons others same]

/-- Changing a member twice is changing it once by both changes. -/
theorem update_update {f g : α → α} {items : List α} {id : String} {a : α}
    (found : find? items id = some a) (same : key (f a) = id) :
    update g id (update f id items) = update (g ∘ f) id items := by
  obtain ⟨before, after, rfl, others⟩ := split_of_find? found
  have here := key_of_find?_eq_some found
  rw [update_append_cons others here, update_append_cons others same,
    update_append_cons others here, Function.comp_apply]

/-- A search that passes over a member before and after its change finds what it found. -/
theorem find?_update_of_not {f : α → α} {p : α → Bool} {items : List α} {id : String} {a : α}
    (found : find? items id = some a) (before : p a = false) (after : p (f a) = false) :
    (update f id items).find? p = items.find? p := by
  obtain ⟨front, rest, rfl, others⟩ := split_of_find? found
  rw [update_append_cons others (key_of_find?_eq_some found), List.find?_append,
    List.find?_append, List.find?_cons_of_neg (Bool.eq_false_iff.mp before),
    List.find?_cons_of_neg (Bool.eq_false_iff.mp after)]

/-- A view of the members that the change of one of them keeps is kept as a whole. -/
theorem map_update_of_find? {f : α → α} {id : String} {g : α → β} {items : List α}
    (kept : ∀ a, find? items id = some a → g (f a) = g a) :
    (update f id items).map g = items.map g := by
  induction items with
  | nil => rfl
  | cons head tail ih =>
      by_cases h : hasKey id head = true
      · have found : find? (head :: tail) id = some head := List.find?_cons_of_pos h
        simp [update, h, kept head found]
      · have same : find? (head :: tail) id = find? tail id := List.find?_cons_of_neg h
        rw [same] at kept
        simp [update, h, ih kept]

/-- A member after a change is an old one, or the changed one. -/
theorem mem_update {f : α → α} {id : String} {items : List α} {b : α}
    (member : b ∈ update f id items) :
    b ∈ items ∨ ∃ a, find? items id = some a ∧ b = f a := by
  induction items with
  | nil => simp at member
  | cons head tail ih =>
      by_cases h : hasKey id head = true
      · simp only [update, h, if_true, List.mem_cons] at member
        rcases member with rfl | old
        · exact .inr ⟨head, List.find?_cons_of_pos h, rfl⟩
        · exact .inl (List.mem_cons_of_mem _ old)
      · have same : find? (head :: tail) id = find? tail id := List.find?_cons_of_neg h
        simp only [update, h, Bool.false_eq_true, if_false, List.mem_cons] at member
        rw [same]
        rcases member with rfl | later
        · exact .inl List.mem_cons_self
        · exact (ih later).imp_left (List.mem_cons_of_mem _)

/-- The changed member is in its place. -/
theorem mem_update_self {f : α → α} {id : String} {items : List α} {a : α}
    (found : find? items id = some a) : f a ∈ update f id items := by
  induction items with
  | nil => simp [find?] at found
  | cons head tail ih =>
      by_cases h : hasKey id head = true
      · have first : find? (head :: tail) id = some head := List.find?_cons_of_pos h
        obtain rfl : head = a := Option.some.inj (first.symm.trans found)
        simp [update, h]
      · have same : find? (head :: tail) id = find? tail id := List.find?_cons_of_neg h
        rw [same] at found
        simp [update, h, ih found]

/-- A member is still there after a change, unless it is the one that changed. -/
theorem mem_update_or_find? {f : α → α} {id : String} {items : List α} {a : α}
    (member : a ∈ items) : a ∈ update f id items ∨ find? items id = some a := by
  induction items with
  | nil => simp at member
  | cons head tail ih =>
      by_cases h : hasKey id head = true
      · rcases List.mem_cons.mp member with rfl | later
        · exact .inr (List.find?_cons_of_pos h)
        · exact .inl (by simp [update, h, later])
      · have same : find? (head :: tail) id = find? tail id := List.find?_cons_of_neg h
        simp only [update, h, Bool.false_eq_true, if_false, List.mem_cons, same]
        rcases List.mem_cons.mp member with rfl | later
        · exact .inl (.inl rfl)
        · exact (ih later).imp_left .inr

/-- Members with another id are not changed. -/
theorem mem_update_of_ne {f : α → α} {id : String} {items : List α} {a : α}
    (member : a ∈ items) (other : key a ≠ id) : a ∈ update f id items :=
  (mem_update_or_find? member).resolve_right fun found => other (key_of_find?_eq_some found)

/-- A member is still there after one was taken out, unless it is that one. -/
theorem mem_erase_or_find? {items : List α} {id : String} {a : α} (member : a ∈ items) :
    a ∈ erase items id ∨ find? items id = some a := by
  induction items with
  | nil => simp at member
  | cons head tail ih =>
      by_cases h : hasKey id head = true
      · rcases List.mem_cons.mp member with rfl | later
        · exact .inr (List.find?_cons_of_pos h)
        · exact .inl (by simp [erase, h, later])
      · have same : find? (head :: tail) id = find? tail id := List.find?_cons_of_neg h
        rw [erase, List.eraseP_cons_of_neg h, List.mem_cons, same]
        rcases List.mem_cons.mp member with rfl | later
        · exact .inl (.inl rfl)
        · exact (ih later).imp_left .inr

theorem mem_erase_of_ne {items : List α} {id : String} {a : α}
    (member : a ∈ items) (other : key a ≠ id) : a ∈ erase items id :=
  (mem_erase_or_find? member).resolve_right fun found => other (key_of_find?_eq_some found)

omit [Keyed α] in
/-- Moving a member changes nothing but the order. -/
theorem move_perm (items : List α) (source target : Nat) :
    (move items source target).Perm items := by
  unfold move
  split
  · exact .refl _
  · next a ha =>
    obtain ⟨inside, rfl⟩ := List.getElem?_eq_some_iff.mp ha
    have room : min target (items.length - 1) ≤ (items.eraseIdx source).length := by
      rw [List.length_eraseIdx_of_lt inside]
      exact Nat.min_le_right _ _
    exact (List.perm_insertIdx _ _ room).trans (List.getElem_cons_eraseIdx_perm inside)

theorem reorder_perm (items : List α) (id : String) (target : Nat) :
    (reorder items id target).Perm items := by
  unfold reorder
  split
  · exact .refl _
  · exact move_perm items _ target

/-- A member whose id is new may be added without doubling an id. -/
theorem nodup_map_key_append {items : List α} (nodup : (items.map key).Nodup) {a : α}
    (fresh : contains items (key a) = false) : ((items ++ [a]).map key).Nodup := by
  have absent : key a ∉ items.map key := by
    intro member
    obtain ⟨b, hb, same⟩ := List.mem_map.mp member
    rw [contains_iff.mpr ⟨b, hb, same⟩] at fresh
    exact Bool.noConfusion fresh
  rw [List.map_append, List.map_singleton]
  exact nodup.append (List.nodup_singleton _) (by simpa using absent)

theorem nodup_map_key_erase {items : List α} (nodup : (items.map key).Nodup) (id : String) :
    ((erase items id).map key).Nodup :=
  nodup.sublist ((erase_sublist items id).map key)

theorem nodup_map_key_reorder {items : List α} (nodup : (items.map key).Nodup) (id : String)
    (target : Nat) : ((reorder items id target).map key).Nodup :=
  ((reorder_perm items id target).map key).nodup_iff.mpr nodup

omit [Keyed α] in
/-- Sorting items by distinct keys loses and doubles none of those whose key is listed. -/
theorem flatMap_filter_perm (keyOf : α → String) (items : List α) {keys : List String}
    (nodup : keys.Nodup) :
    (keys.flatMap fun k => items.filter (keyOf · == k)).Perm
      (items.filter fun a => keys.contains (keyOf a)) := by
  induction keys with
  | nil => simp
  | cons k rest ih =>
      obtain ⟨absent, nodup⟩ := List.nodup_cons.mp nodup
      have here : (items.filter fun a => (k :: rest).contains (keyOf a)).filter (keyOf · == k) =
          items.filter (keyOf · == k) := by
        rw [List.filter_filter]
        refine List.filter_congr fun a _ => ?_
        by_cases same : keyOf a = k <;> simp [same]
      have others : (items.filter fun a => (k :: rest).contains (keyOf a)).filter
            (fun a => !(keyOf a == k)) =
          items.filter fun a => rest.contains (keyOf a) := by
        rw [List.filter_filter]
        refine List.filter_congr fun a _ => ?_
        by_cases same : keyOf a = k
        · simp [same, absent]
        · simp [same]
      have parts := List.filter_append_perm (keyOf · == k)
        (items.filter fun a => (k :: rest).contains (keyOf a))
      rw [here, others] at parts
      rw [List.flatMap_cons]
      exact ((ih nodup).append_left _).trans parts

/-! ### Members that go to another place -/

/-- What a collection is when the member at one place has gone to another, at most to the end. -/
structure Moved (items moved : List α) (source target : Nat) (a : α) : Prop where
  /-- The member stands where it was to go. -/
  placed : moved[min target (items.length - 1)]? = some a
  /-- The others follow each other as before. -/
  others : moved.eraseIdx (min target (items.length - 1)) = items.eraseIdx source
  /-- Nothing is lost, doubled or altered. -/
  perm : moved.Perm items

section Move

variable {items moved : List α} {source : Nat} {a : α} (held : items[source]? = some a)
  (target : Nat)

include held

omit [Keyed α] in
theorem moved_move : Moved items (move items source target) source target a := by
  obtain ⟨inside, -⟩ := List.getElem?_eq_some_iff.mp held
  have room : min target (items.length - 1) ≤ (items.eraseIdx source).length := by
    rw [List.length_eraseIdx_of_lt inside]
    exact Nat.min_le_right _ _
  have inserted : move items source target =
      (items.eraseIdx source).insertIdx (min target (items.length - 1)) a := by
    rw [move, held]
  refine ⟨?_, ?_, move_perm items source target⟩
  · rw [inserted, List.getElem?_insertIdx_self, if_pos room]
  · rw [inserted, List.eraseIdx_insertIdx_self]

omit [Keyed α] in
/-- Moving the member back to its old place brings back the collection. -/
theorem Moved.move_back {target : Nat} (there : Moved items moved source target a) :
    move moved (min target (items.length - 1)) source = items := by
  obtain ⟨inside, rfl⟩ := List.getElem?_eq_some_iff.mp held
  have within : min source (moved.length - 1) = source := by
    rw [there.perm.length_eq]
    omega
  rw [move, there.placed]
  dsimp only
  rw [within, there.others, List.insertIdx_eraseIdx_getElem inside]

/-- With distinct ids, an id leads to the place of its member. -/
theorem position?_key (nodup : (items.map key).Nodup) :
    position? items (key a) = some source := by
  obtain ⟨inside, rfl⟩ := List.getElem?_eq_some_iff.mp held
  refine List.findIdx?_eq_some_iff_getElem.mpr ⟨inside, hasKey_iff.mpr rfl, ?_⟩
  intro earlier before same
  have keys : (items.map key)[earlier]? = (items.map key)[source]? := by
    rw [List.getElem?_map, List.getElem?_map, held, List.getElem?_eq_getElem (before.trans inside)]
    exact congrArg some (hasKey_iff.mp same)
  have inKeys : earlier < (items.map key).length := by
    rw [List.length_map]
    exact before.trans inside
  exact absurd ((List.getElem?_inj inKeys nodup).mp keys) (Nat.ne_of_lt before)

theorem reorder_key (nodup : (items.map key).Nodup) :
    reorder items (key a) target = move items source target := by
  rw [reorder, position?_key held nodup]

theorem moved_reorder (nodup : (items.map key).Nodup) :
    Moved items (reorder items (key a) target) source target a := by
  rw [reorder_key held target nodup]
  exact moved_move held target

/-- With distinct ids, a member that was moved can be moved back by its id. -/
theorem reorder_reorder (nodup : (items.map key).Nodup) :
    reorder (reorder items (key a) target) (key a) source = items := by
  have there := moved_reorder held target nodup
  rw [reorder_key there.placed source (nodup_map_key_reorder nodup _ _)]
  exact there.move_back held

end Move

/-! ### Changes at two ids -/

section Two

variable {items : List α} {id other : String}

/-- Taking out one member does not change what another id leads to. -/
theorem find?_erase_of_ne (apart : other ≠ id) :
    find? (erase items id) other = find? items other := by
  induction items with
  | nil => rfl
  | cons head tail ih =>
      by_cases here : hasKey id head = true
      · have passed : ¬ hasKey other head = true := by
          rw [hasKey_iff] at here ⊢
          exact fun same => apart (same.symm.trans here)
        rw [erase, List.eraseP_cons_of_pos here, find?, find?, List.find?_cons_of_neg passed]
      · rw [erase, List.eraseP_cons_of_neg here, find?, find?, List.find?_cons, List.find?_cons]
        split
        · rfl
        · exact ih

theorem erase_comm (apart : other ≠ id) :
    erase (erase items id) other = erase (erase items other) id := by
  refine List.eraseP_comm fun (a : α) _ => ?_
  rw [hasKey_iff, hasKey_iff]
  exact not_and_or.mp fun both => apart (both.2.symm.trans both.1)

/-- A change is known by what it does to the member that it meets. -/
theorem update_congr {f g : α → α} {a : α} (found : find? items id = some a) (same : f a = g a) :
    update f id items = update g id items := by
  obtain ⟨before, after, rfl, others⟩ := split_of_find? found
  have here := key_of_find?_eq_some found
  rw [update_append_cons others here, update_append_cons others here, same]

theorem update_comm {f g : α → α} (keyedF : ∀ a, key (f a) = key a)
    (keyedG : ∀ a, key (g a) = key a) (apart : other ≠ id) :
    update g other (update f id items) = update f id (update g other items) := by
  induction items with
  | nil => rfl
  | cons head tail ih =>
      by_cases first : key head = id
      · have second : key head ≠ other := fun same => apart (same.symm.trans first)
        simp [update, hasKey, first, apart.symm, keyedF]
      · by_cases second : key head = other
        · simp [update, hasKey, second, apart, keyedG]
        · simp [update, first, second, ih]

end Two

end EntityDiagram.Keyed
