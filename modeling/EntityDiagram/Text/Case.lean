import EntityDiagram.Text.Blank
import EntityDiagram.Text.CaseTable

/-!
# Letter case

`upper` and `lower` map a whole text by the full Unicode case mappings: a character may become
several, and a capital sigma at the end of a word becomes the final small sigma. Identifiers of
the engines and their types are compared more simply, by ASCII letters only.
-/

namespace EntityDiagram.Text

/-- The counterpart of a code point in a table of runs, if one of the runs holds it. -/
def shifted? (runs : List CaseTable.Run) (code : Nat) : Option Char :=
  (runs.find? fun (first, last, step, _) =>
    first ≤ code && code ≤ last && (code - first) % step == 0).map
    fun (first, _, _, target) => Char.ofNat (target + (code - first))

/-- The characters that stand for a character in the other case: its own expansion if it has
one, else its counterpart, else the character itself. -/
def mapCase (expansions : List (Nat × List Nat)) (runs : List CaseTable.Run) (c : Char) :
    List Char :=
  match expansions.lookup c.toNat with
  | some codes => codes.map Char.ofNat
  | none => [(shifted? runs c.toNat).getD c]

/-- The upper-case form of a character. -/
def upperChar (c : Char) : List Char :=
  if c.toNat < 128 then [c.toUpper] else mapCase CaseTable.upperExpansions CaseTable.upperRuns c

/-- The lower-case form of a character that does not depend on its surroundings. -/
def lowerChar (c : Char) : List Char :=
  if c.toNat < 128 then [c.toLower] else mapCase CaseTable.lowerExpansions CaseTable.lowerRuns c

/-- Whether a character has case. -/
def isCased (c : Char) : Bool :=
  if c.toNat < 128 then c.isAlpha else inSpans CaseTable.casedSpans c.toNat

/-- Whether a character does not interrupt a word. -/
def isCaseIgnorable (c : Char) : Bool := inSpans CaseTable.caseIgnorableSpans c.toNat

/-- Whether the first character that is not passed over has case. -/
def startsCased (cs : List Char) : Bool :=
  match cs.dropWhile isCaseIgnorable with
  | [] => false
  | c :: _ => isCased c

/-- The lower-case form of a list of characters. The flag says whether the last character that
is not passed over had case; a capital sigma after such a character, and not before another, ends
a word. -/
def lowerChars (afterCased : Bool) : List Char → List Char
  | [] => []
  | c :: rest =>
    (if c = 'Σ' then [if afterCased && !startsCased rest then 'ς' else 'σ'] else lowerChar c) ++
      lowerChars (if isCaseIgnorable c then afterCased else isCased c) rest

/-- A text in upper case. -/
def upper (s : String) : String := String.ofList (s.toList.flatMap upperChar)

/-- A text in lower case. -/
def lower (s : String) : String := String.ofList (lowerChars false s.toList)

/-- A text with its ASCII capitals in lower case. -/
def asciiLower (s : String) : String := String.ofList (s.toList.map Char.toLower)

/-- Whether two texts are equal once the case of ASCII letters is ignored. -/
def eqIgnoringCase (a b : String) : Bool := asciiLower a == asciiLower b

/-- What holds of the first 128 characters holds of every ASCII character. -/
theorem forall_ascii {p : Char → Prop} (all : ∀ code < 128, p (Char.ofNat code)) {c : Char}
    (ascii : c.toNat < 128) : p c := by
  have here := all c.toNat ascii
  rwa [Char.ofNat_toNat] at here

theorem ascii_of_isAlpha {c : Char} (letter : c.isAlpha = true) : c.toNat < 128 := by
  rcases Bool.or_eq_true_iff.mp letter with upper | lower
  · have bound : c.toNat ≤ 90 := (of_decide_eq_true upper).2
    omega
  · have range : (decide (97 ≤ c.val) && decide (c.val ≤ 122)) = true := lower
    have bound : c.toNat ≤ 122 := of_decide_eq_true (Bool.and_eq_true_iff.mp range).2
    omega

theorem toLower_of_not_ascii {c : Char} (beyond : ¬ c.toNat < 128) : c.toLower = c := by
  refine dif_neg ?_
  rintro ⟨-, last⟩
  have bound : c.toNat ≤ 90 := last
  omega

/-- What does not tell the capitals of ASCII from their small letters tells no character from its
small one. -/
theorem apply_toLower {α : Type} {f : Char → α}
    (alike : ∀ code < 128, f (Char.ofNat code).toLower = f (Char.ofNat code)) (c : Char) :
    f c.toLower = f c := by
  by_cases ascii : c.toNat < 128
  · exact forall_ascii (p := fun c => f c.toLower = f c) alike ascii
  · rw [toLower_of_not_ascii ascii]

theorem upperChar_of_ascii {c : Char} (h : c.toNat < 128) : upperChar c = [c.toUpper] := by
  simp [upperChar, h]

theorem lowerChar_of_ascii {c : Char} (h : c.toNat < 128) : lowerChar c = [c.toLower] := by
  simp [lowerChar, h]

/-- A text of ASCII characters that are no small letters is its own spelling in capitals. -/
theorem upper_eq_self {s : String}
    (capitals : s.toList.all (fun c => c.toNat < 128 && c.toUpper == c) = true) : upper s = s := by
  have same : s.toList.map upperChar = s.toList.map fun c => [c] :=
    List.map_congr_left fun c member => by
      obtain ⟨ascii, capital⟩ := Bool.and_eq_true_iff.mp (List.all_eq_true.mp capitals c member)
      rw [upperChar_of_ascii (of_decide_eq_true ascii), beq_iff_eq.mp capital]
  rw [upper, List.flatMap_def, same, ← List.flatMap_def, List.flatMap_singleton',
    String.ofList_toList]

end EntityDiagram.Text
