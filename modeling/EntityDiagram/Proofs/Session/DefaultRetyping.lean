import EntityDiagram.Proofs.Ddl.TypedDefault
import EntityDiagram.Proofs.Identifier.Portable
import EntityDiagram.Proofs.Session.FieldPatching

/-!
# Typing a default again

What an engine lists among its calls is a known word or has the shape of a call, so that the list
decides nothing: all engines sort a typed default alike. The text of a sorted default is sorted as
the default is, and typing it again, whatever the engine by then, leaves the diagram as it is.
-/

namespace EntityDiagram

namespace Text

theorem upper_asciiLower (s : String) : upper (asciiLower s) = upper s := by
  rw [upper, asciiLower, String.toList_ofList, List.flatMap_map]
  exact congrArg String.ofList (List.flatMap_congr fun c _ => apply_toLower (by decide) c)

/-- Trimming leaves a text with something in it something. -/
theorem isAllBlank_trim (s : String) : isAllBlank (trim s) = isAllBlank s := by
  rw [Bool.eq_iff_iff, ← trim_eq_empty_iff, trim_trim, trim_eq_empty_iff]

end Text

namespace DefaultValue

/-- The shape of a call does not depend on the case of letters. -/
theorem looksLikeCall_map_toLower (cs : List Char) :
    looksLikeCall (cs.map Char.toLower) = looksLikeCall cs := by
  have opens : ∀ c : Char, (c.toLower = '(') = (c = '(') :=
    Text.apply_toLower (f := (· = '(')) (by decide)
  have closes : ∀ c : Char, (c.toLower == ')') = (c == ')') :=
    Text.apply_toLower (f := (· == ')')) (by decide)
  have begins : ∀ c : Char, (c.toLower.isAlpha || c.toLower == '_') = (c.isAlpha || c == '_') :=
    Text.apply_toLower (f := fun c => c.isAlpha || c == '_') (by decide)
  have name : ∀ c : Char, isCallChar c.toLower = isCallChar c := Text.apply_toLower (by decide)
  have named : (cs.map Char.toLower).takeWhile (· != '(') =
      (cs.takeWhile (· != '(')).map Char.toLower := by
    simp only [List.takeWhile_map, Function.comp_def, bne, BEq.beq, opens]
  have opened : (cs.map Char.toLower).contains '(' = cs.contains '(' := by
    simp [opens]
  have closed : ((cs.map Char.toLower).getLast? == some ')') = (cs.getLast? == some ')') := by
    rw [List.getLast?_map]
    cases cs.getLast? with
    | none => rfl
    | some c => exact closes c
  simp only [looksLikeCall, named, opened, closed, List.head?_map, Option.any_map, List.all_map,
    Function.comp_def, begins, name]

/-- What every engine takes a typed text for: a known word, a call by its shape, or itself. -/
def byShape (raw : String) : DefaultValue :=
  let trimmed := Text.trim raw
  if keywords.contains (Text.upper trimmed) then keyword (Text.upper trimmed)
  else if looksLikeCall trimmed.toList then expression trimmed
  else literal raw

/-- Every call that an engine lists looks like a call, or is a known word. -/
theorem listed_cases (dialect : Dialect) : ∀ call ∈ dialect.config.defaultFunctions,
    (looksLikeCall call.toList || keywords.contains (Text.upper call)) = true := by
  cases dialect <;> decide

/-- The list of an engine adds no call that is not one by its shape. -/
theorem looksLikeCall_of_listed {dialect : Dialect} {text : String}
    (listed : dialect.config.defaultFunctions.any (Text.eqIgnoringCase · text) = true)
    (unknown : ¬ keywords.contains (Text.upper text) = true) :
    looksLikeCall text.toList = true := by
  obtain ⟨call, member, same⟩ := List.any_eq_true.mp listed
  have lowered : Text.asciiLower call = Text.asciiLower text := beq_iff_eq.mp same
  have capitals : Text.upper call = Text.upper text := by
    rw [← Text.upper_asciiLower, lowered, Text.upper_asciiLower]
  have shape : looksLikeCall call.toList = looksLikeCall text.toList := by
    rw [← looksLikeCall_map_toLower, String.ofList_injective lowered, looksLikeCall_map_toLower]
  have known := listed_cases dialect call member
  rw [capitals, shape, Bool.or_eq_true] at known
  exact known.resolve_right unknown

/-- No engine sorts by its list. -/
theorem infer_eq_byShape (dialect : Dialect) (raw : String) :
    infer dialect.config raw = byShape raw := by
  unfold infer byShape
  dsimp only
  split
  · rfl
  · next unknown =>
      -- The second tests differ by the list of the engine, which is asked for no known word here.
      refine if_congr ?_ rfl rfl
      rw [Bool.or_eq_true, or_iff_right_iff_imp]
      exact fun listed => looksLikeCall_of_listed listed unknown

theorem trim_of_mem_keywords {word : String} (known : word ∈ keywords) :
    Text.trim word = word := by
  have solid : ∀ word ∈ keywords, word.toList.all (fun c => !Text.isBlank c) = true := by decide
  have same := Text.trimChars_eq_self fun c member =>
    Bool.not_eq_true' _ ▸ List.all_eq_true.mp (solid word known) c member
  rw [Text.trim, same, String.ofList_toList]

/-- A known word is sorted as the word that it is. -/
theorem byShape_of_mem_keywords {word : String} (known : word ∈ keywords) :
    byShape word = keyword word := by
  rw [byShape, trim_of_mem_keywords known, upper_of_mem_keywords known]
  exact if_pos (List.contains_iff_mem.mpr known)

/-- A sorted text is sorted as it was. -/
theorem byShape_text_byShape (raw : String) : byShape (byShape raw).text = byShape raw := by
  by_cases known : keywords.contains (Text.upper (Text.trim raw)) = true
  · have sorted : byShape raw = keyword (Text.upper (Text.trim raw)) := by
      rw [byShape, if_pos known]
    rw [sorted, text_keyword, byShape_of_mem_keywords (List.contains_iff_mem.mp known)]
  · by_cases shape : looksLikeCall (Text.trim raw).toList = true
    · have sorted : byShape raw = expression (Text.trim raw) := by
        rw [byShape, if_neg known, if_pos shape]
      rw [sorted, text_expression, byShape, Text.trim_trim, if_neg known, if_pos shape]
    · have sorted : byShape raw = literal raw := by
        rw [byShape, if_neg known, if_neg shape]
      rw [sorted, text_literal, sorted]

/-- A text with something in it stands for a default whose text has something in it. -/
theorem isAllBlank_infer {config : DialectConfig} {raw : String}
    (solid : Text.isAllBlank raw = false) : Text.isAllBlank (infer config raw).text = false := by
  have words : ∀ word ∈ keywords, Text.isAllBlank word = false := by decide
  rcases infer_cases config raw with ⟨word, known, same⟩ | same | same <;> rw [same]
  · exact words word known
  · rw [text_expression, Text.isAllBlank_trim, solid]
  · exact solid

/-- Any engine sorts the text of a sorted default as the default was sorted. -/
theorem infer_text_infer (own other : Dialect) (raw : String) :
    infer other.config (infer own.config raw).text = infer own.config raw := by
  rw [infer_eq_byShape, infer_eq_byShape, byShape_text_byShape]

/-- Typing the text of a typed default stands for that default, whatever the engine. -/
theorem typed?_text {own : Dialect} {raw : String} {value : DefaultValue}
    (typed : typed? own.config raw = some value) (other : Dialect) :
    typed? other.config value.text = some value := by
  obtain ⟨text, kept, rfl⟩ := Option.map_eq_some_iff.mp typed
  obtain ⟨same, solid⟩ := Option.filter_eq_some_iff.mp kept
  have solid : Text.isAllBlank (infer own.config text).text = false :=
    isAllBlank_infer (by simpa using solid)
  rw [typed?, Option.filter_some_pos (by simpa using solid), Option.map_some, infer_text_infer]

end DefaultValue

namespace Diagram

open DefaultValue

theorem default_apply_defaultPatch (diagram : Diagram) (raw : Option String) (field : Field) :
    ((diagram.defaultPatch raw).apply field).default =
      if ((diagram.defaultPatch raw).apply field).increment then none
      else raw.bind (typed? diagram.config) := by
  rw [apply_defaultPatch]
  cases counts : field.increment with
  | true => rfl
  | false => simp

/-- Typing the default that a field was given leaves the field as it is, whatever the engine. -/
theorem apply_defaultPatch_text (diagram later : Diagram) (raw : Option String) (field : Field) :
    (later.defaultPatch
        (((diagram.defaultPatch raw).apply field).default.map DefaultValue.text)).apply
      ((diagram.defaultPatch raw).apply field) = (diagram.defaultPatch raw).apply field := by
  cases counts : field.increment with
  | true =>
      have given : (diagram.defaultPatch raw).apply field = field.asIncrement :=
        (apply_defaultPatch diagram raw field).trans (if_pos counts)
      rw [given, apply_defaultPatch]
      exact if_pos rfl
  | false =>
      have given : (diagram.defaultPatch raw).apply field =
          { field with default := raw.bind (typed? diagram.config) } :=
        (apply_defaultPatch diagram raw field).trans (if_neg (Bool.not_eq_true _ ▸ counts))
      have again : ((raw.bind (typed? diagram.config)).map DefaultValue.text).bind
          (typed? later.config) = raw.bind (typed? diagram.config) := by
        cases stored : raw.bind (typed? diagram.config) with
        | none => rfl
        | some value =>
            obtain ⟨text, -, typed⟩ := Option.bind_eq_some_iff.mp stored
            exact typed?_text typed later.dialect
      rw [given, apply_defaultPatch, again]
      exact if_neg (Bool.not_eq_true _ ▸ counts)

end Diagram

namespace Session

variable {session next : Session} {tableId fieldId : String} {raw : Option String}

/-- To type a default is to patch the field with what it stands for. -/
theorem edit_setFieldDefault_eq :
    session.edit (.setFieldDefault tableId fieldId raw) =
      session.edit (.updateField tableId fieldId (session.diagram.defaultPatch raw)) := rfl

/-- A typed default is in its field, and the field is shown. -/
theorem exists_of_edit_setFieldDefault {shown : Member}
    (done : session.edit (.setFieldDefault tableId fieldId raw) = .ok (next, shown)) :
    ∃ table old, next.diagram.table? tableId = some table ∧
      table.field? fieldId = some ((session.diagram.defaultPatch raw).apply old) ∧
      shown = .field ((session.diagram.defaultPatch raw).apply old) :=
  exists_of_edit_updateField (edit_setFieldDefault_eq.symm.trans done)

/-- Typing a default that leaves its field as it is leaves the diagram as it is. -/
theorem edit_setFieldDefault_of_apply_eq {table : Table} {field : Field}
    (found : session.diagram.table? tableId = some table)
    (inside : table.field? fieldId = some field)
    (same : (session.diagram.defaultPatch raw).apply field = field) :
    ∃ again, session.edit (.setFieldDefault tableId fieldId raw) = .ok (again, .field field) ∧
      again.diagram = session.diagram := by
  rw [edit_setFieldDefault_eq]
  exact edit_updateField_of_apply_eq found inside same

/-- Every engine takes what another engine made of a typed text for the same default. So, once a
default was typed, typing what its field then shows is never refused and changes nothing, neither
in the diagram as it was left nor in one with the same tables and another engine. -/
theorem edit_setFieldDefault_settles :
    (∀ (own other : Dialect) (raw : String),
      DefaultValue.infer other.config (DefaultValue.infer own.config raw).text =
        DefaultValue.infer own.config raw) ∧
    ∀ (session next : Session) (tableId fieldId : String) (raw : Option String) (shown : Member),
      session.edit (.setFieldDefault tableId fieldId raw) = .ok (next, shown) →
      ∃ field, shown = .field field ∧
        field.default = (if field.increment then none
          else raw.bind (DefaultValue.typed? session.diagram.config)) ∧
        ∀ later : Session, later.diagram.tables = next.diagram.tables →
          ∃ again, later.edit (.setFieldDefault tableId fieldId
              (field.default.map DefaultValue.text)) = .ok (again, .field field) ∧
            again.diagram = later.diagram := by
  refine ⟨DefaultValue.infer_text_infer, ?_⟩
  intro session next tableId fieldId raw shown done
  obtain ⟨table, old, found, inside, rfl⟩ := exists_of_edit_setFieldDefault done
  refine ⟨_, rfl, session.diagram.default_apply_defaultPatch raw old, fun later kept => ?_⟩
  refine edit_setFieldDefault_of_apply_eq ?_ inside ?_
  · rwa [Diagram.table?, kept]
  · exact session.diagram.apply_defaultPatch_text later.diagram raw old

/-- A word that one engine lists and that all know, typed with a blank, and what is then shown
typed again after the engine was changed. -/
theorem edit_setFieldDefault_settles_sysdate :
    let hired : Field := { id := "f", name := "hired", dataType := "DATE" }
    let staff : Table := { id := "t", name := "staff", fields := [hired] }
    let session := start { dialect := .oracle, tables := [staff] } 50
    let typed : Field := { hired with default := some (.keyword "SYSDATE") }
    ∃ next later again,
      session.edit (.setFieldDefault "t" "f" (some "sysdate ")) = .ok (next, .field typed) ∧
        next.edit (.setDialect .sqlite) = .ok (later, .none) ∧
        later.edit (.setFieldDefault "t" "f" (some "SYSDATE")) = .ok (again, .field typed) ∧
        again.diagram = later.diagram := by
  intro hired staff session typed
  let next : Session :=
    { diagram := { dialect := .oracle, tables := [{ staff with fields := [typed] }] }
      history := session.history.record session.diagram }
  have done : session.edit (.setFieldDefault "t" "f" (some "sysdate ")) =
      .ok (next, .field typed) := by decide
  obtain ⟨field, shown, -, settled⟩ :=
    edit_setFieldDefault_settles.2 session next "t" "f" (some "sysdate ") _ done
  obtain rfl : typed = field := Member.field.inj shown
  obtain ⟨again, retyped, kept⟩ := settled
    ⟨{ next.diagram with dialect := .sqlite }, next.history.record next.diagram⟩ rfl
  exact ⟨next, _, again, done, rfl, retyped, kept⟩

end Session

end EntityDiagram
