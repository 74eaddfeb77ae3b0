/-
The structures in a shader text.

* `fieldsOf` — the fields of a structure as its lines in a text declare them;
* `fieldsOf_lines` — a structure that was written is read back, field by field;
* `fieldsOf_prelude_custom`, `fieldsOf_prelude_data` — so the structures of a prelude have the
  custom uniforms and the tables that it was made for.
-/
import ShaderPlayer.Proofs.Shader.Inert
import ShaderPlayer.Proofs.Shader.Tables
import ShaderPlayer.Proofs.Shader.Unit

namespace ShaderPlayer.Shader

open SourceMap (terminated)

/-! ### Reading -/

/-- The line that opens a structure. -/
def openingLine (name : Text) : Text := "struct ".toList ++ name ++ [' ', '\x7b']

/-- The line that closes one. -/
def closingLine : Text := ['\x7d', ';']

/-- The name and the type of a field, from its line: `    name: type,`. -/
def fieldOf (line : Text) : Text × Text :=
  let field := line.dropWhile (· = ' ')
  ((field.takeWhile (· ≠ ' ')).dropLast, (field.dropWhile (· ≠ ' ')).tail.dropLast)

/-- The fields of the first structure of a name in a text, none if there is no such structure. -/
def fieldsOf (name t : Text) : List (Text × Text) :=
  (((Text.splitOn '\n' t).dropWhile (· ≠ openingLine name)).tail.takeWhile (· ≠ closingLine)).map
    fieldOf

theorem fieldOf_line {name : Text} (hname : ' ' ∉ name) (type : Text) :
    fieldOf ("    ".toList ++ (name ++ ": ".toList ++ type) ++ [',']) = (name, type) := by
  have hfield : ("    ".toList ++ (name ++ ": ".toList ++ type) ++ [',']).dropWhile (· = ' ')
      = (name ++ [':']) ++ ' ' :: (type ++ [',']) := by
    show (name ++ [':', ' '] ++ type ++ [',']).dropWhile (· = ' ') = _
    simp only [List.append_assoc, List.cons_append, List.nil_append]
    cases name with
    | nil => rfl
    | cons c rest =>
      have hc : c ≠ ' ' := fun h => hname (h ▸ List.mem_cons_self)
      rw [List.cons_append, List.dropWhile_cons_of_neg (by simpa using hc)]
  have hword : ∀ c ∈ name ++ [':'], (c ≠ ' ' : Bool) := by
    intro c hc
    rcases List.mem_append.mp hc with hc | hc
    · exact decide_eq_true fun h => hname (h ▸ hc)
    · rw [List.mem_singleton.mp hc]
      decide
  unfold fieldOf
  dsimp only
  rw [hfield, List.takeWhile_append_of_pos hword, List.dropWhile_append_of_pos hword]
  simp

theorem ne_openingLine_of_mem {name other : Text} {fields : List Text}
    (hother : openingLine other ≠ openingLine name) :
    ∀ l ∈ structLinesOf other fields, l ≠ openingLine name := by
  intro l hl
  rw [structLinesOf, List.mem_append, List.mem_cons, List.mem_singleton] at hl
  rcases hl with (rfl | hl) | rfl
  · exact hother
  · obtain ⟨field, _, rfl⟩ := List.mem_map.mp hl
    intro h
    exact absurd (List.cons.inj h).1 (by decide)
  · intro h
    exact absurd (List.cons.inj h).1 (by decide)

/-- A structure among the lines of a text. -/
theorem fieldsOf_lines {before fields : List Text} {name : Text}
    (hbefore : ∀ l ∈ before, '\n' ∉ l ∧ l ≠ openingLine name) (hname : '\n' ∉ name)
    (hfields : ∀ field ∈ fields, '\n' ∉ field) (rest : Text) :
    fieldsOf name ((before ++ structLinesOf name fields).flatMap terminated ++ rest)
      = fields.map fun field => fieldOf ("    ".toList ++ field ++ [',']) := by
  let lines := fields.map fun field => "    ".toList ++ field ++ [',']
  have hlines : ∀ l ∈ before ++ structLinesOf name fields, '\n' ∉ l := by
    intro l hl
    rcases List.mem_append.mp hl with hl | hl
    · exact (hbefore l hl).1
    · exact newline_not_mem_structLinesOf hname hfields l hl
  have hskipped : ∀ l ∈ before, (l ≠ openingLine name : Bool) := fun l hl =>
    decide_eq_true (hbefore l hl).2
  have hkept : ∀ l ∈ lines, (l ≠ closingLine : Bool) := by
    intro l hl
    obtain ⟨field, _, rfl⟩ := List.mem_map.mp hl
    refine decide_eq_true fun h => ?_
    exact absurd (List.cons.inj h).1 (by decide)
  -- reading skips the lines before, and stops at the line that closes the structure
  unfold fieldsOf
  rw [Text.splitOn_flatMap_terminated hlines, List.append_assoc,
    List.dropWhile_append_of_pos hskipped]
  show ((((openingLine name :: lines ++ [closingLine]) ++ Text.splitOn '\n' rest).dropWhile
    (· ≠ openingLine name)).tail.takeWhile (· ≠ closingLine)).map fieldOf = _
  rw [List.cons_append, List.cons_append, List.dropWhile_cons_of_neg (by simp), List.tail_cons,
    List.append_assoc, List.takeWhile_append_of_pos hkept, List.singleton_append,
    List.takeWhile_cons_of_neg (by simp), List.append_nil, List.map_map]
  rfl

/-! ### The structures of the prelude -/

/-- The lines before the structure of the custom uniforms. -/
def leadingLines : List Text := aliasLines ++ structLines.map String.toList

theorem leadingLines_ne (l : Text) (hl : l ∈ leadingLines) :
    '\n' ∉ l ∧ l ≠ openingLine "Custom".toList ∧ l ≠ openingLine "Data".toList := by
  revert l
  decide +kernel

theorem space_not_mem_of_isIdentifier {name : Text} (h : name.isIdentifier) : ' ' ∉ name := by
  intro hspace
  exact absurd (isWord_of_isIdentifier h ' ' hspace) (by decide)

theorem not_mem_of_not_isBlank {name : Text} (h : ∀ c ∈ name, Text.isBlank c = false) {c : Char}
    (hc : Text.isBlank c) : c ∉ name := by
  intro hmem
  rw [h c hmem] at hc
  cases hc

section Prelude

variable {customNames : List Text} (hnames : ∀ name ∈ customNames, name.isIdentifier)

include hnames

theorem newline_not_mem_customFields : ∀ field ∈ customNames.map customField, '\n' ∉ field := by
  intro field hfield
  obtain ⟨name, hname, rfl⟩ := List.mem_map.mp hfield
  exact newline_not_mem_customField (Text.newline_not_mem_of_isIdentifier (hnames name hname))

theorem fieldsOf_prelude_custom (tables : Tables) (wide : Bool) :
    fieldsOf "Custom".toList (prelude customNames tables wide)
      = customNames.map fun name => (name, "float".toList) := by
  have hprelude : prelude customNames tables wide
      = (leadingLines ++ structLinesOf "Custom".toList (customNames.map customField)).flatMap terminated
        ++ (structLinesOf "Data".toList (tableFields tables) ++ bindingLines wide
          ++ functionLines.map String.toList).flatMap terminated := by
    simp only [prelude, preludeLines, leadingLines, List.flatMap_append, List.append_assoc]
  rw [hprelude, fieldsOf_lines (fun l hl => ⟨(leadingLines_ne l hl).1, (leadingLines_ne l hl).2.1⟩)
    (by decide) (newline_not_mem_customFields hnames), List.map_map]
  refine List.map_congr_left fun name hname => ?_
  have hfield : customField name = name ++ ": ".toList ++ "float".toList := by
    rw [customField, List.append_assoc]
    rfl
  have hline := fieldOf_line (space_not_mem_of_isIdentifier (hnames name hname)) "float".toList
  rw [← hfield] at hline
  exact hline

theorem fieldsOf_prelude_data {tables : Tables} (htables : Regular tables) (wide : Bool) :
    fieldsOf "Data".toList (prelude customNames tables wide)
      = tables.map fun t => (t.1, "array<u32,".toList ++ Text.ofNat t.2.length ++ ['>']) := by
  let custom := structLinesOf "Custom".toList (customNames.map customField)
  have hprelude : prelude customNames tables wide
      = ((leadingLines ++ custom)
          ++ structLinesOf "Data".toList (tableFields tables)).flatMap terminated
        ++ (bindingLines wide ++ functionLines.map String.toList).flatMap terminated := by
    simp only [prelude, preludeLines, leadingLines, List.flatMap_append, List.append_assoc, custom]
  -- there are tables, so the placeholder does not stand in
  have hfields : tableFields tables = tables.map fun t => tableField t.1 t.2.length := by
    unfold tableFields
    rw [if_neg (by simpa using htables.fit.1)]
  have hunbroken : ∀ field ∈ tableFields tables, '\n' ∉ field := by
    refine newline_not_mem_tableFields fun name hname => ?_
    obtain ⟨t, ht, rfl⟩ := List.mem_map.mp hname
    exact not_mem_of_not_isBlank (htables.names t ht) Text.isBlank_newline
  have hbefore : ∀ l ∈ leadingLines ++ custom, '\n' ∉ l ∧ l ≠ openingLine "Data".toList := by
    intro l hl
    rcases List.mem_append.mp hl with hl | hl
    · exact ⟨(leadingLines_ne l hl).1, (leadingLines_ne l hl).2.2⟩
    · refine ⟨newline_not_mem_structLinesOf (by decide) (newline_not_mem_customFields hnames) l hl, ?_⟩
      exact ne_openingLine_of_mem (by decide) l hl
  rw [hprelude, fieldsOf_lines hbefore (by decide) hunbroken, hfields, List.map_map]
  refine List.map_congr_left fun t ht => ?_
  have hname : ' ' ∉ t.1 := not_mem_of_not_isBlank (htables.names t ht) (by decide)
  have hfield : tableField t.1 t.2.length
      = t.1 ++ ": ".toList ++ ("array<u32,".toList ++ Text.ofNat t.2.length ++ ['>']) := by
    simp only [tableField, List.append_assoc]
    rfl
  have hline := fieldOf_line hname ("array<u32,".toList ++ Text.ofNat t.2.length ++ ['>'])
  rw [← hfield] at hline
  exact hline

end Prelude

end ShaderPlayer.Shader
