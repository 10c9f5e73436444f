import EntityDiagram.Json.Pretty
import EntityDiagram.Json.Reading

/-!
# Written strings

A written string is scanned as the spelling that its characters have, up to its closing quote, and
a spelling of that kind stands for the string it was made of.
-/

namespace EntityDiagram.Json

/-- How a written string spells a character: by its number, if it is a control character without a
short escape. -/
def spelledPart (c : Char) : StringPart :=
  if c.toNat < 0x20 && !(['\x08', '\x0c', '\n', '\r', '\t'].contains c) then .unit c.toNat
  else .char c

/-- How a text is spelled where it is written. -/
def spelling (text : String) : Spelling := ⟨text.toList.map spelledPart, .closed⟩

private theorem scanString_quote (rest : List Char) :
    scanString ('"' :: rest) = (⟨[], .closed⟩, rest) := by
  rw [scanString.eq_def]
  rfl

private theorem scanString_escape {e c : Char} (escape : unescape? e = some c) (other : e ≠ 'u')
    (rest : List Char) :
    scanString ('\\' :: e :: rest) =
      ((scanString rest).1.cons (.char c), (scanString rest).2) := by
  rw [scanString.eq_def]
  simp [escape, other]

private theorem scanString_unit {a b c d : Char} {unit : Nat} (hex : hexUnit? a b c d = some unit)
    (rest : List Char) :
    scanString ('\\' :: 'u' :: a :: b :: c :: d :: rest) =
      ((scanString rest).1.cons (.unit unit), (scanString rest).2) := by
  rw [scanString.eq_def]
  simp [hex]

private theorem scanString_plain {c : Char} (quote : c ≠ '"') (backslash : c ≠ '\\')
    (control : ¬ c.toNat < 0x20) (rest : List Char) :
    scanString (c :: rest) = ((scanString rest).1.cons (.char c), (scanString rest).2) := by
  rw [scanString.eq_def]
  simp [quote, backslash, control]

private theorem hexUnit?_hexDigit {n : Nat} (small : n < 0x20) :
    hexUnit? '0' '0' (hexDigit (n / 16)) (hexDigit (n % 16)) = some n := by
  revert n
  decide

/-- A written character is scanned as its part of the spelling. -/
private theorem scanString_escapeChar (c : Char) (rest : List Char) :
    scanString (escapeChar c ++ rest) =
      ((scanString rest).1.cons (spelledPart c), (scanString rest).2) := by
  by_cases short : c ∈ ['"', '\\', '\x08', '\x0c', '\n', '\r', '\t']
  · simp only [List.mem_cons, List.not_mem_nil, or_false] at short
    rcases short with rfl | rfl | rfl | rfl | rfl | rfl | rfl <;>
      exact scanString_escape (by decide) (by decide) rest
  · simp only [List.mem_cons, List.not_mem_nil, or_false, not_or] at short
    obtain ⟨quote, backslash, backspace, formFeed, lineFeed, carriageReturn, tab⟩ := short
    by_cases control : c.toNat < 0x20
    · have part : spelledPart c = .unit c.toNat := by simp [spelledPart, *]
      have written : escapeChar c =
          ['\\', 'u', '0', '0', hexDigit (c.toNat / 16), hexDigit (c.toNat % 16)] := by
        simp [escapeChar, *]
      rw [part, written]
      exact scanString_unit (hexUnit?_hexDigit control) rest
    · have part : spelledPart c = .char c := by simp [spelledPart, control]
      have written : escapeChar c = [c] := by simp [escapeChar, *]
      rw [part, written]
      exact scanString_plain quote backslash control rest

/-- A written string is scanned up to its closing quote. -/
theorem scanString_quoteText (text : String) (rest : List Char) :
    scanString (text.toList.flatMap escapeChar ++ '"' :: rest) = (spelling text, rest) := by
  rw [spelling]
  induction text.toList with
  | nil => exact scanString_quote rest
  | cons c chars ih =>
      rw [List.flatMap_cons, List.append_assoc, scanString_escapeChar, ih]
      rfl

/-- The spelling of a character stands for the character. -/
private theorem joinParts_spelledPart (c : Char) (rest : List StringPart) :
    joinParts .closed none (spelledPart c :: rest) =
      (joinParts .closed none rest).map (c :: ·) := by
  rw [spelledPart]
  split
  · rename_i control
    have small : c.toNat < 0x20 := by simpa using (Bool.and_eq_true_iff.mp control).1
    have high : isHighUnit c.toNat = false := by
      simp only [isHighUnit, Bool.and_eq_false_iff, decide_eq_false_iff_not]
      omega
    have low : isLowUnit c.toNat = false := by
      simp only [isLowUnit, Bool.and_eq_false_iff, decide_eq_false_iff_not]
      omega
    simp [joinParts, high, low]
  · rfl

/-- A text is read back from its spelling. -/
@[simp] theorem text_spelling (text : String) : (spelling text).text = .ok text := by
  have joined : ∀ chars : List Char,
      joinParts .closed none (chars.map spelledPart) = .ok chars := by
    intro chars
    induction chars with
    | nil => rfl
    | cons c rest ih =>
        rw [List.map_cons, joinParts_spelledPart, ih]
        rfl
  simp [Spelling.text, spelling, joined, Except.map]

end EntityDiagram.Json
