import EntityDiagram.Proofs.Json.Numerals
import EntityDiagram.Proofs.Json.Spelling

/-!
# Written values are scanned and read back

The text of a value, indented as it is, spells one tree, whatever the value is. Reading that tree
gives the value again, with the members of every object in the order of their keys; for this the
numbers have to be read back each by itself, and the value must not be nested too deeply.
-/

namespace EntityDiagram.Json

mutual

/-- What a value is scanned as where it is written. -/
def Value.tree : Value → Tree
  | .null => .null
  | .bool value => .bool value
  | .number n => n.tree
  | .string text => .string (spelling text)
  | .array items => .array items.trees
  | .object fields => .object fields.entries

/-- What items are scanned as. -/
def Values.trees : Values → Items
  | .nil => .stop .closed
  | .cons head tail => .item head.tree tail.trees

/-- What members are scanned as. -/
def Fields.entries : Fields → Entries
  | .nil => .stop .closed
  | .cons key value tail => .entry (spelling key) value.tree tail.entries

end

mutual

/-- The value with the members of its objects in the order of their keys. -/
def Value.sorted : Value → Value
  | .null => .null
  | .bool value => .bool value
  | .number n => .number n
  | .string text => .string text
  | .array items => .array items.sorted
  | .object fields => .object fields.sorted

/-- The items, each with its members in order. -/
def Values.sorted : Values → Values
  | .nil => .nil
  | .cons head tail => .cons head.sorted tail.sorted

/-- The members in the order of their keys; of members with one key the last counts. -/
def Fields.sorted : Fields → Fields
  | .nil => .nil
  | .cons key value tail => tail.sorted.insert key value.sorted

end

mutual

/-- Whether all numbers in a value are read back, and its containers are nested at most to the
given depth. -/
def Value.Readable : (depth : Nat) → Value → Prop
  | _, .null => True
  | _, .bool _ => True
  | _, .number n => n.Survives
  | _, .string _ => True
  | 0, .array _ => False
  | 0, .object _ => False
  | depth + 1, .array items => items.Readable depth
  | depth + 1, .object fields => fields.Readable depth

/-- Whether all items are readable. -/
def Values.Readable : (depth : Nat) → Values → Prop
  | _, .nil => True
  | depth, .cons head tail => head.Readable depth ∧ tail.Readable depth

/-- Whether the values of all members are readable. -/
def Fields.Readable : (depth : Nat) → Fields → Prop
  | _, .nil => True
  | depth, .cons _ value tail => value.Readable depth ∧ tail.Readable depth

end

/-! ### Space between the parts -/

private theorem skipSpace_cons {c : Char} (solid : isSpace c = false) (rest : List Char) :
    skipSpace (c :: rest) = c :: rest :=
  List.dropWhile_cons_of_neg (by simp [solid])

private theorem skipSpace_newLine (level : Nat) (rest : List Char) :
    skipSpace (newLine level ++ rest) = skipSpace rest := by
  have spaces : ∀ c ∈ newLine level, isSpace c = true := by
    intro c member
    rcases List.mem_cons.mp member with rfl | space
    · rfl
    · rw [(List.mem_replicate.mp space).2]
      rfl
  exact List.dropWhile_append_of_pos spaces

private theorem scanTree_space (fuel : Nat) (rest : List Char) :
    scanTree fuel (' ' :: rest) = scanTree fuel rest := by
  cases fuel with
  | zero => rw [scanTree, scanTree]
  | succ fuel => rw [scanTree, scanTree, show skipSpace (' ' :: rest) = skipSpace rest from rfl]

private theorem scanNext_close {close : Char} (solid : isSpace close = false) (first : Bool)
    (level : Nat) (rest : List Char) :
    scanNext close first (newLine level ++ close :: rest) = (some .closed, rest) := by
  rw [scanNext, skipSpace_newLine, skipSpace_cons solid]
  simp

private theorem scanNext_first {close c : Char} (solid : isSpace c = false) (other : c ≠ close)
    (level : Nat) (rest : List Char) :
    scanNext close true (newLine level ++ c :: rest) = (none, c :: rest) := by
  rw [scanNext, skipSpace_newLine, skipSpace_cons solid]
  simp [other]

private theorem scanNext_comma {close c : Char} (solid : isSpace c = false) (other : c ≠ close)
    (notComma : ',' ≠ close) (level : Nat) (rest : List Char) :
    scanNext close false (',' :: (newLine level ++ c :: rest)) = (none, c :: rest) := by
  rw [scanNext, skipSpace_cons (by decide)]
  simp [notComma, skipSpace_newLine, skipSpace_cons solid, other]

private theorem stops_newLine (level : Nat) (rest : List Char) : Stops (newLine level ++ rest) :=
  stops_cons (by decide) _

private theorem stops_values (items : Values) (level outer : Nat) (rest : List Char) :
    Stops (items.chars level ++ (newLine outer ++ rest)) := by
  cases items with
  | nil => exact stops_newLine outer rest
  | cons head tail => exact stops_cons (by decide) _

private theorem stops_fields (fields : Fields) (level outer : Nat) (rest : List Char) :
    Stops (fields.chars level ++ (newLine outer ++ rest)) := by
  cases fields with
  | nil => exact stops_newLine outer rest
  | cons key value tail => exact stops_cons (by decide) _

/-! ### Scanning -/

private theorem scanItems_item {fuel : Nat} {first : Bool} {cs a b c : List Char} {head : Tree}
    {tail : Items} (next : scanNext ']' first cs = (none, a)) (item : scanTree fuel a = (head, b))
    (others : scanItems fuel false b = (tail, c)) :
    scanItems (fuel + 1) first cs = (.item head tail, c) := by
  rw [scanItems, next]
  simp only [item, others]

private theorem scanEntries_entry {fuel : Nat} {first : Bool} {cs a b c d : List Char}
    {key : Spelling} {value : Tree} {tail : Entries}
    (next : scanNext '\x7d' first cs = (none, '"' :: a)) (name : scanString a = (key, ':' :: b))
    (member : scanTree fuel b = (value, c)) (others : scanEntries fuel false c = (tail, d)) :
    scanEntries (fuel + 1) first cs = (.entry key value tail, d) := by
  have colon : scanColon (':' :: b) = (none, b) := rfl
  rw [scanEntries, next]
  simp only [name, colon, member, others]

/-- A value begins with something solid that does not close an array. -/
private theorem Value.exists_head (value : Value) (level : Nat) :
    ∃ c rest, value.chars level = c :: rest ∧ isSpace c = false ∧ c ≠ ']' := by
  cases value with
  | null => exact ⟨'n', _, rfl, rfl, by decide⟩
  | bool value =>
      cases value with
      | false => exact ⟨'f', _, rfl, rfl, by decide⟩
      | true => exact ⟨'t', _, rfl, rfl, by decide⟩
  | number n =>
      obtain ⟨c, rest, chars, start⟩ := n.exists_head
      refine ⟨c, rest, by rw [Value.chars, chars], ?_⟩
      rcases start with rfl | rfl | digit
      · exact ⟨rfl, by decide⟩
      · exact ⟨rfl, by decide⟩
      · have solid : isSpace c = false := by
          refine Bool.eq_false_iff.mpr fun space => ?_
          simp only [isSpace, Bool.or_eq_true, beq_iff_eq] at space
          rcases space with ((rfl | rfl) | rfl) | rfl <;> exact absurd digit (by decide)
        refine ⟨solid, ?_⟩
        rintro rfl
        exact absurd digit (by decide)
  | string text => exact ⟨'"', _, rfl, rfl, by decide⟩
  | array items =>
      cases items with
      | nil => exact ⟨'[', _, rfl, rfl, by decide⟩
      | cons head tail => exact ⟨'[', _, rfl, rfl, by decide⟩
  | object fields =>
      cases fields with
      | nil => exact ⟨'\x7b', _, rfl, rfl, by decide⟩
      | cons key value tail => exact ⟨'\x7b', _, rfl, rfl, by decide⟩

private theorem scanTree_array {fuel : Nat} {cs rest : List Char} {items : Items}
    (scanned : scanItems fuel true cs = (items, rest)) :
    scanTree (fuel + 1) ('[' :: cs) = (.array items, rest) := by
  rw [scanTree, skipSpace_cons (by decide)]
  simp [scanned]

private theorem scanTree_object {fuel : Nat} {cs rest : List Char} {entries : Entries}
    (scanned : scanEntries fuel true cs = (entries, rest)) :
    scanTree (fuel + 1) ('\x7b' :: cs) = (.object entries, rest) := by
  rw [scanTree, skipSpace_cons (by decide)]
  simp [scanned]

private theorem scanTree_string (fuel : Nat) (text : String) (rest : List Char) :
    scanTree (fuel + 1) (quoteText text ++ rest) = (.string (spelling text), rest) := by
  have quoted : quoteText text ++ rest =
      '"' :: (text.toList.flatMap escapeChar ++ '"' :: rest) := by
    simp [quoteText]
  rw [quoted, scanTree, skipSpace_cons (by decide)]
  simp [scanString_quoteText]

private theorem scanEntries_member {fuel : Nat} {first : Bool} {cs b c d : List Char} {key : String}
    {value : Tree} {tail : Entries}
    (next : scanNext '\x7d' first cs = (none, quoteText key ++ ':' :: b))
    (member : scanTree fuel b = (value, c)) (others : scanEntries fuel false c = (tail, d)) :
    scanEntries (fuel + 1) first cs = (.entry (spelling key) value tail, d) := by
  have quoted : quoteText key ++ ':' :: b =
      '"' :: (key.toList.flatMap escapeChar ++ '"' :: ':' :: b) := by
    simp [quoteText]
  rw [quoted] at next
  exact scanEntries_entry next (scanString_quoteText key (':' :: b)) member others

mutual

/-- The text of a value is scanned as its tree, whatever follows. -/
theorem Value.scanTree_chars (value : Value) (level fuel : Nat)
    (enough : (value.chars level).length < fuel) {rest : List Char} (stops : Stops rest) :
    scanTree fuel (value.chars level ++ rest) = (value.tree, rest) := by
  obtain ⟨fuel, rfl⟩ : ∃ less, fuel = less + 1 := ⟨fuel - 1, by omega⟩
  -- A container spends one unit of fuel on its bracket and one on each part, and every part is
  -- written with at least a bracket, a comma or an end of line of its own.
  match value with
  | .null => rfl
  | .bool true => rfl
  | .bool false => rfl
  | .number n =>
      rw [Value.chars, Value.tree]
      exact n.scanTree_chars fuel stops
  | .string text =>
      rw [Value.chars, Value.tree]
      exact scanTree_string fuel text rest
  | .array .nil =>
      obtain ⟨fuel, rfl⟩ : ∃ less, fuel = less + 1 :=
        ⟨fuel - 1, by simp only [Value.chars, List.length_cons, List.length_nil] at enough; omega⟩
      refine scanTree_array ?_
      rw [scanItems]
      rfl
  | .array (.cons head tail) =>
      obtain ⟨c, body, chars, solid, other⟩ := Value.exists_head head (level + 1)
      simp only [Value.chars, List.length_cons, List.length_append] at enough
      have feed : 0 < (newLine level).length := Nat.succ_pos _
      obtain ⟨fuel, rfl⟩ : ∃ less, fuel = less + 1 := ⟨fuel - 1, by omega⟩
      have item := Value.scanTree_chars head (level + 1) fuel (by omega)
        (stops_values tail (level + 1) level (']' :: rest))
      have items := Values.scanItems_chars tail (level + 1) level fuel (by omega) rest
      have text : (Value.array (.cons head tail)).chars level ++ rest =
          '[' :: (newLine (level + 1) ++ (head.chars (level + 1) ++
            (tail.chars (level + 1) ++ (newLine level ++ ']' :: rest)))) := by
        simp [Value.chars]
      rw [text]
      refine scanTree_array (scanItems_item ?_ item items)
      rw [chars, List.cons_append]
      exact scanNext_first solid other (level + 1) _
  | .object .nil =>
      obtain ⟨fuel, rfl⟩ : ∃ less, fuel = less + 1 :=
        ⟨fuel - 1, by simp only [Value.chars, List.length_cons, List.length_nil] at enough; omega⟩
      refine scanTree_object ?_
      rw [scanEntries]
      rfl
  | .object (.cons key value tail) =>
      simp only [Value.chars, List.length_cons, List.length_append] at enough
      have feed : 0 < (newLine level).length := Nat.succ_pos _
      obtain ⟨fuel, rfl⟩ : ∃ less, fuel = less + 1 := ⟨fuel - 1, by omega⟩
      have member := Value.scanTree_chars value (level + 1) fuel (by omega)
        (stops_fields tail (level + 1) level ('\x7d' :: rest))
      have members := Fields.scanEntries_chars tail (level + 1) level fuel (by omega)
        rest
      have text : (Value.object (.cons key value tail)).chars level ++ rest =
          '\x7b' :: (newLine (level + 1) ++ (quoteText key ++ ':' :: ' ' ::
            (value.chars (level + 1) ++ (tail.chars (level + 1) ++
              (newLine level ++ '\x7d' :: rest))))) := by
        simp [Value.chars]
      rw [text]
      rw [← scanTree_space] at member
      refine scanTree_object (scanEntries_member ?_ member members)
      exact scanNext_first (by decide) (by decide) (level + 1) _

/-- Further items are scanned up to the bracket that closes the array. -/
theorem Values.scanItems_chars (items : Values) (level outer fuel : Nat)
    (enough : (items.chars level).length + 1 < fuel) (rest : List Char) :
    scanItems fuel false (items.chars level ++ (newLine outer ++ ']' :: rest)) =
      (items.trees, rest) := by
  obtain ⟨fuel, rfl⟩ : ∃ less, fuel = less + 1 := ⟨fuel - 1, by omega⟩
  match items with
  | .nil =>
      rw [Values.chars, List.nil_append, Values.trees, scanItems,
        scanNext_close (by decide)]
  | .cons head tail =>
      obtain ⟨c, body, chars, solid, other⟩ := Value.exists_head head level
      simp only [Values.chars, List.length_cons, List.length_append] at enough
      have feed : 0 < (newLine level).length := Nat.succ_pos _
      have item := Value.scanTree_chars head level fuel (by omega)
        (stops_values tail level outer (']' :: rest))
      have items := Values.scanItems_chars tail level outer fuel (by omega) rest
      have text : (Values.cons head tail).chars level ++ (newLine outer ++ ']' :: rest) =
          ',' :: (newLine level ++ (head.chars level ++
            (tail.chars level ++ (newLine outer ++ ']' :: rest)))) := by
        simp [Values.chars]
      rw [text, Values.trees]
      refine scanItems_item ?_ item items
      rw [chars, List.cons_append]
      exact scanNext_comma solid other (by decide) level _

/-- Further members are scanned up to the brace that closes the object. -/
theorem Fields.scanEntries_chars (fields : Fields) (level outer fuel : Nat)
    (enough : (fields.chars level).length + 1 < fuel) (rest : List Char) :
    scanEntries fuel false (fields.chars level ++ (newLine outer ++ '\x7d' :: rest)) =
      (fields.entries, rest) := by
  obtain ⟨fuel, rfl⟩ : ∃ less, fuel = less + 1 := ⟨fuel - 1, by omega⟩
  match fields with
  | .nil =>
      rw [Fields.chars, List.nil_append, Fields.entries, scanEntries,
        scanNext_close (by decide)]
  | .cons key value tail =>
      simp only [Fields.chars, List.length_cons, List.length_append] at enough
      have feed : 0 < (newLine level).length := Nat.succ_pos _
      have member := Value.scanTree_chars value level fuel (by omega)
        (stops_fields tail level outer ('\x7d' :: rest))
      have members := Fields.scanEntries_chars tail level outer fuel (by omega) rest
      have text : (Fields.cons key value tail).chars level ++ (newLine outer ++ '\x7d' :: rest) =
          ',' :: (newLine level ++ (quoteText key ++ ':' :: ' ' :: (value.chars level ++
            (tail.chars level ++ (newLine outer ++ '\x7d' :: rest))))) := by
        simp [Fields.chars]
      rw [text, Fields.entries]
      rw [← scanTree_space] at member
      refine scanEntries_member ?_ member members
      exact scanNext_comma (by decide) (by decide) (by decide) level _

end

/-- The text of a value is a document that spells its tree. -/
theorem Value.ofText_pretty (value : Value) :
    Document.ofText value.pretty = ⟨value.tree, true⟩ := by
  have scanned := value.scanTree_chars 0 (2 * ((value.chars 0).length + 1)) (by omega)
    stops_nil
  rw [List.append_nil] at scanned
  rw [Value.pretty, Document.ofText, String.toList_ofList, scanned]
  rfl

/-! ### Reading -/

mutual

/-- The tree of a readable value is read as the value with its members in order. -/
theorem Value.read_tree (value : Value) {depth : Nat} (readable : value.Readable depth) :
    value.tree.read depth = .ok value.sorted := by
  match value, depth with
  | .null, _ => rfl
  | .bool value, _ => rfl
  | .number n, _ =>
      rw [Value.Readable] at readable
      obtain ⟨numeral, spelled, read⟩ := readable.tree_eq
      rw [Value.tree, spelled, Tree.read, read]
      rfl
  | .string text, _ =>
      rw [Value.tree, Tree.read, text_spelling]
      rfl
  | .array items, 0 => exact readable.elim
  | .array items, depth + 1 =>
      rw [Value.tree, Tree.read, items.read_trees readable]
      rfl
  | .object fields, 0 => exact readable.elim
  | .object fields, depth + 1 =>
      rw [Value.tree, Tree.read, fields.read_entries readable]
      rfl

/-- The items of a readable array are read in order. -/
theorem Values.read_trees (items : Values) {depth : Nat} (readable : items.Readable depth) :
    items.trees.read depth = .ok items.sorted := by
  match items with
  | .nil => rfl
  | .cons head tail =>
      rw [Values.Readable] at readable
      rw [Values.trees, Items.read, head.read_tree readable.1, tail.read_trees readable.2]
      rfl

/-- The members of a readable object are read in the order of their keys. -/
theorem Fields.read_entries (fields : Fields) {depth : Nat} (readable : fields.Readable depth) :
    fields.entries.read depth = .ok fields.sorted := by
  match fields with
  | .nil => rfl
  | .cons key value tail =>
      rw [Fields.Readable] at readable
      rw [Fields.entries, Entries.read, text_spelling, value.read_tree readable.1,
        tail.read_entries readable.2]
      rfl

end

/-! ### Members in order -/

/-- Whether members stand in the order of their keys, with no key twice. -/
def Fields.Ordered : Fields → Prop
  | .nil => True
  | .cons key _ tail => (∀ other, (tail.find? other).isSome → key < other) ∧ tail.Ordered

theorem Fields.Ordered.insert {fields : Fields} (ordered : fields.Ordered) (key : String)
    (value : Value) : (fields.insert key value).Ordered := by
  match fields with
  | .nil =>
      refine ⟨?_, trivial⟩
      intro other found
      cases found
  | .cons k v tail =>
      rw [Fields.Ordered] at ordered
      obtain ⟨least, others⟩ := ordered
      rw [Fields.insert]
      split_ifs with same before
      · exact ⟨least, others⟩
      · refine ⟨?_, least, others⟩
        intro other found
        rw [Fields.find?] at found
        split_ifs at found with first
        · exact first ▸ before
        · exact String.lt_trans before (least other found)
      · refine ⟨?_, others.insert key value⟩
        intro other found
        by_cases added : other = key
        · rw [added]
          exact Std.lt_of_le_of_ne (String.not_lt.mp before) (Ne.symm same)
        · rw [Fields.find?_insert_of_ne added] at found
          exact least other found

theorem Fields.ordered_sorted (fields : Fields) : fields.sorted.Ordered := by
  match fields with
  | .nil => trivial
  | .cons key value tail =>
      rw [Fields.sorted]
      exact tail.ordered_sorted.insert key value.sorted

/-- Every key is still there when members are put in order. -/
theorem Fields.isSome_find?_sorted {key : String} {fields : Fields}
    (found : (fields.find? key).isSome) : (fields.sorted.find? key).isSome := by
  match fields with
  | .nil => cases found
  | .cons k v tail =>
      rw [Fields.sorted]
      by_cases same : k = key
      · rw [same]
        exact Fields.isSome_find?_insert_self key v.sorted tail.sorted
      · rw [Fields.find?, if_neg same] at found
        rw [Fields.find?_insert_of_ne (Ne.symm same)]
        exact Fields.isSome_find?_sorted found

/-- A member is not put among others if its key is there. -/
theorem Fields.Ordered.insert_eq {fields : Fields} (ordered : fields.Ordered) {key : String}
    (found : (fields.find? key).isSome) (value : Value) : fields.insert key value = fields := by
  match fields with
  | .nil => cases found
  | .cons k v tail =>
      rw [Fields.Ordered] at ordered
      obtain ⟨least, others⟩ := ordered
      rw [Fields.insert]
      split_ifs with same before
      · rfl
      · rw [Fields.find?, if_neg (Ne.symm same)] at found
        exact absurd (least key found) (String.lt_asymm before)
      · rw [Fields.find?, if_neg (Ne.symm same)] at found
        rw [others.insert_eq found]

end EntityDiagram.Json
