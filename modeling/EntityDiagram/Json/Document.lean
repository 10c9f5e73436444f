import EntityDiagram.Json.Tree

/-!
# JSON documents

A document is a text taken as one value with nothing but space behind it. Scanning goes from left
to right; the fuel is more than any text of the given length can use up.
-/

namespace EntityDiagram.Json

/-- A text taken as one value. -/
structure Document where
  root : Tree
  /-- Whether nothing but space follows the value. -/
  isWhole : Bool
  deriving DecidableEq, Repr

/-- Whether a character is space between the parts of a text. -/
def isSpace (c : Char) : Bool := c == ' ' || c == '\n' || c == '\t' || c == '\r'

/-- A text without the space in front. -/
def skipSpace (cs : List Char) : List Char := cs.dropWhile isSpace

/-- The rest of a word that stands for a tree. -/
def scanWord (tree : Tree) : (word : List Char) → List Char → Tree × List Char
  | [], cs => (tree, cs)
  | _ :: _, [] => (.broken (.unfinished .value), [])
  | w :: word, c :: cs =>
    if c = w then scanWord tree word cs else (.broken (.malformed .expectedIdent), [])

/-- The value of a hexadecimal digit. -/
def hexValue? (c : Char) : Option Nat :=
  if c.isDigit then some (c.toNat - '0'.toNat)
  else if 'a' ≤ c ∧ c ≤ 'f' then some (c.toNat - 'a'.toNat + 10)
  else if 'A' ≤ c ∧ c ≤ 'F' then some (c.toNat - 'A'.toNat + 10)
  else none

/-- The value of four hexadecimal digits. -/
def hexUnit? (a b c d : Char) : Option Nat := do
  return 4096 * (← hexValue? a) + 256 * (← hexValue? b) + 16 * (← hexValue? c) + (← hexValue? d)

/-- The character that a backslash and another character stand for. -/
def unescape? (c : Char) : Option Char :=
  if c = '"' then some '"'
  else if c = '\\' then some '\\'
  else if c = '/' then some '/'
  else if c = 'b' then some '\x08'
  else if c = 'f' then some '\x0c'
  else if c = 'n' then some '\n'
  else if c = 'r' then some '\r'
  else if c = 't' then some '\t'
  else none

/-- A spelling with one more part in front. -/
def Spelling.cons (part : StringPart) (spelling : Spelling) : Spelling :=
  { spelling with parts := part :: spelling.parts }

/-- Where a hexadecimal escape breaks off: with the text if fewer than four octets are left. -/
def brokenHex (rest : List Char) : StringEnd :=
  if (String.ofList rest).utf8ByteSize < 4 then .cut else .badHex

/-- The spelling of a string behind its opening quote. -/
def scanString : List Char → Spelling × List Char
  | [] => (⟨[], .cut⟩, [])
  | c :: rest =>
    if c = '"' then (⟨[], .closed⟩, rest)
    else if c = '\\' then
      match rest with
      | [] => (⟨[], .cut⟩, [])
      | e :: rest =>
        if e = 'u' then
          match rest with
          | a :: b :: c :: d :: rest =>
            match hexUnit? a b c d with
            | some unit =>
              let (spelling, rest) := scanString rest
              (spelling.cons (.unit unit), rest)
            | none => (⟨[], .badHex⟩, [])
          | _ => (⟨[], brokenHex rest⟩, [])
        else
          match unescape? e with
          | some char =>
            let (spelling, rest) := scanString rest
            (spelling.cons (.char char), rest)
          | none => (⟨[], .badEscape⟩, [])
    else if c.toNat < 0x20 then (⟨[], .control⟩, [])
    else
      let (spelling, rest) := scanString rest
      (spelling.cons (.char c), rest)

/-- The exponent of a number, if one follows, and then the number. -/
def scanExponent (numeral : Numeral) : List Char → Tree × List Char
  | [] => (.number numeral, [])
  | c :: rest =>
    if c = 'e' || c = 'E' then
      let (negative, rest) := match rest with
        | '-' :: rest => (true, rest)
        | '+' :: rest => (false, rest)
        | rest => (false, rest)
      let digits := rest.takeWhile Char.isDigit
      if digits.isEmpty then (.badNumber rest.isEmpty, [])
      else (.number { numeral with exponent := some (negative, digits) },
        rest.dropWhile Char.isDigit)
    else (.number numeral, c :: rest)

/-- The fraction of a number, if one follows, and then the rest of the number. -/
def scanFraction (numeral : Numeral) : List Char → Tree × List Char
  | '.' :: rest =>
    let digits := rest.takeWhile Char.isDigit
    if digits.isEmpty then (.badNumber rest.isEmpty, [])
    else scanExponent { numeral with fraction := some digits } (rest.dropWhile Char.isDigit)
  | rest => scanExponent numeral rest

/-- A number behind its sign. Only zero itself begins with the digit zero. -/
def scanNumber (negative : Bool) (cs : List Char) : Tree × List Char :=
  let digits := cs.takeWhile Char.isDigit
  if digits.isEmpty then (.badNumber cs.isEmpty, [])
  else if digits.head? = some '0' && digits.length ≠ 1 then (.badNumber false, [])
  else scanFraction ⟨negative, digits, none, none⟩ (cs.dropWhile Char.isDigit)

/-- What comes before the next member of an array or an object, the first one or a later one: how
the members end, or the text from the member on. -/
def scanNext (close : Char) (first : Bool) (cs : List Char) : Option Stop × List Char :=
  match skipSpace cs with
  | [] => (some .cut, [])
  | c :: rest =>
    if c = close then (some .closed, rest)
    else if first then (none, c :: rest)
    else if c = ',' then
      match skipSpace rest with
      | [] => (some .commaCut, [])
      | d :: rest => if d = close then (some .commaClosed, []) else (none, d :: rest)
    else (some .stray, [])

/-- The colon between a key and its value. -/
def scanColon (cs : List Char) : Option Fault × List Char :=
  match skipSpace cs with
  | [] => (some (.unfinished .object), [])
  | c :: rest => if c = ':' then (none, rest) else (some (.malformed .expectedColon), [])

mutual

/-- What stands where a value is due. -/
def scanTree : (fuel : Nat) → List Char → Tree × List Char
  | 0, _ => (.absent (.unfinished .value), [])
  | fuel + 1, cs =>
    match skipSpace cs with
    | [] => (.absent (.unfinished .value), [])
    | c :: rest =>
      if c = 'n' then scanWord .null "ull".toList rest
      else if c = 't' then scanWord (.bool true) "rue".toList rest
      else if c = 'f' then scanWord (.bool false) "alse".toList rest
      else if c = '-' then scanNumber true rest
      else if c.isDigit then scanNumber false (c :: rest)
      else if c = '"' then
        let (spelling, rest) := scanString rest
        (.string spelling, rest)
      else if c = '[' then
        let (items, rest) := scanItems fuel true rest
        (.array items, rest)
      else if c = '\x7b' then
        let (entries, rest) := scanEntries fuel true rest
        (.object entries, rest)
      else (.broken (.malformed .expectedValue), [])

/-- The items of an array, from the first one or from a later one on. -/
def scanItems : (fuel : Nat) → (first : Bool) → List Char → Items × List Char
  | 0, _, _ => (.stop .cut, [])
  | fuel + 1, first, cs =>
    match scanNext ']' first cs with
    | (some stop, rest) => (.stop stop, rest)
    | (none, rest) =>
      let (head, rest) := scanTree fuel rest
      let (tail, rest) := scanItems fuel false rest
      (.item head tail, rest)

/-- The entries of an object, from the first one or from a later one on. -/
def scanEntries : (fuel : Nat) → (first : Bool) → List Char → Entries × List Char
  | 0, _, _ => (.stop .cut, [])
  | fuel + 1, first, cs =>
    match scanNext '\x7d' first cs with
    | (some stop, rest) => (.stop stop, rest)
    | (none, rest) =>
      match rest with
      | '"' :: rest =>
        let (key, rest) := scanString rest
        match scanColon rest with
        | (some fault, _) => (.entry key (.absent fault) (.stop .cut), [])
        | (none, rest) =>
          let (value, rest) := scanTree fuel rest
          let (tail, rest) := scanEntries fuel false rest
          (.entry key value tail, rest)
      | _ => (.nonKey, [])

end

/-- The document that a text spells. -/
def Document.ofText (text : String) : Document :=
  let cs := text.toList
  let (root, rest) := scanTree (2 * (cs.length + 1)) cs
  ⟨root, (skipSpace rest).isEmpty⟩

end EntityDiagram.Json
