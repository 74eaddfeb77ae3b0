/-
The lines of a unit.

A unit is made of lines that are ended one by one: the hoisted ones, the prelude's and
the emitted ones.  None of them is broken, so they are the lines of the unit:

* `count_newline_header` — the line feeds before the source are as many as the lines;
* `splitOn_unitText` — the unit, cut at its line feeds.
-/
import ShaderPlayer.Proofs.Shader.Unbroken
import ShaderPlayer.Proofs.Text.Lines
import ShaderPlayer.Shader.Prelude

namespace ShaderPlayer.Shader

open SourceMap (terminated)

/-! ### The prelude -/

theorem newline_not_mem_structLinesOf {name : Text} {fields : List Text} (hname : '\n' ∉ name)
    (hfields : ∀ field ∈ fields, '\n' ∉ field) :
    ∀ l ∈ structLinesOf name fields, '\n' ∉ l := by
  intro l hl
  rw [structLinesOf, List.mem_append, List.mem_cons, List.mem_singleton] at hl
  rcases hl with (rfl | hl) | rfl
  · simp only [List.mem_append, not_or]
    refine ⟨⟨?_, hname⟩, ?_⟩ <;> decide
  · obtain ⟨field, hfield, rfl⟩ := List.mem_map.mp hl
    simp only [List.mem_append, not_or]
    refine ⟨⟨?_, hfields field hfield⟩, ?_⟩ <;> decide
  · decide

theorem newline_not_mem_customField {name : Text} (h : '\n' ∉ name) : '\n' ∉ customField name := by
  rw [customField, List.mem_append, not_or]
  exact ⟨h, by decide⟩

theorem newline_not_mem_tableField {name : Text} (h : '\n' ∉ name) (length : Nat) :
    '\n' ∉ tableField name length := by
  unfold tableField
  simp only [List.mem_append, not_or]
  refine ⟨⟨⟨h, ?_⟩, Text.newline_not_mem_ofNat length⟩, ?_⟩ <;> decide

theorem newline_not_mem_tableFields {tables : Tables}
    (h : ∀ name ∈ tables.keys, '\n' ∉ name) : ∀ field ∈ tableFields tables, '\n' ∉ field := by
  intro field hfield
  obtain ⟨name, length, hname, rfl⟩ := exists_tableField (by decide) h hfield
  exact newline_not_mem_tableField hname length

/-- The characters of a literal, which are not computed from its bytes this way. -/
theorem newline_not_mem_literal {cs : List Char} (h : '\n' ∉ cs) :
    '\n' ∉ (String.ofList cs).toList := by
  rw [String.toList_ofList]
  exact h

theorem newline_not_mem_structLines : ∀ l ∈ structLines.map String.toList, '\n' ∉ l := by
  simp only [structLines, List.map_cons, List.map_nil, List.forall_mem_cons]
  and_intros
  all_goals first
    | exact newline_not_mem_literal (by decide)
    | exact fun _ h => absurd h List.not_mem_nil

theorem newline_not_mem_functionLines : ∀ l ∈ functionLines.map String.toList, '\n' ∉ l := by
  simp only [functionLines, List.map_cons, List.map_nil, List.forall_mem_cons]
  and_intros
  all_goals first
    | exact newline_not_mem_literal (by decide)
    | exact fun _ h => absurd h List.not_mem_nil

/-- No line of the prelude is broken, if no name in it is. -/
theorem newline_not_mem_preludeLines {customNames : List Text} {tables : Tables}
    (hnames : ∀ name ∈ customNames, '\n' ∉ name) (htables : ∀ name ∈ tables.keys, '\n' ∉ name)
    (wide : Bool) : ∀ l ∈ preludeLines customNames tables wide, '\n' ∉ l := by
  have haliases : ∀ l ∈ aliasLines, '\n' ∉ l := by decide +kernel
  have hbindings : ∀ l ∈ bindingLines wide, '\n' ∉ l := by
    cases wide <;> decide +kernel
  have hcustom : ∀ field ∈ customNames.map customField, '\n' ∉ field := by
    intro field hfield
    obtain ⟨name, hname, rfl⟩ := List.mem_map.mp hfield
    exact newline_not_mem_customField (hnames name hname)
  intro l hl
  simp only [preludeLines, List.mem_append] at hl
  rcases hl with ((((hl | hl) | hl) | hl) | hl) | hl
  · exact haliases l hl
  · exact newline_not_mem_structLines l hl
  · exact newline_not_mem_structLinesOf (by decide) hcustom l hl
  · exact newline_not_mem_structLinesOf (by decide) (newline_not_mem_tableFields htables) l hl
  · exact hbindings l hl
  · exact newline_not_mem_functionLines l hl

/-! ### The unit -/

/-- The lines before the source. -/
def headerLines (m : SourceMap) (customNames : List Text) (wide : Bool) : List Text :=
  m.hoisted.toList ++ preludeLines customNames m.tables wide

section Unit

variable {m : SourceMap} {customNames : List Text} (wide : Bool)

theorem header_eq_flatMap :
    header m customNames wide = (headerLines m customNames wide).flatMap terminated := by
  rw [header, headerLines, List.flatMap_append]
  rfl

theorem newline_not_mem_headerLines (hm : m.Unbroken)
    (hnames : ∀ name ∈ customNames, '\n' ∉ name) :
    ∀ l ∈ headerLines m customNames wide, '\n' ∉ l := by
  intro l hl
  rcases List.mem_append.mp hl with hl | hl
  · exact hm.hoisted l (Array.mem_toList_iff.mp hl)
  · exact newline_not_mem_preludeLines hnames hm.tables wide l hl

/-- The line feeds before the source count its lines. -/
theorem count_newline_header (hm : m.Unbroken) (hnames : ∀ name ∈ customNames, '\n' ∉ name) :
    (header m customNames wide).count '\n' = (headerLines m customNames wide).length := by
  rw [header_eq_flatMap]
  exact count_newline_terminated (newline_not_mem_headerLines wide hm hnames)

/-- The source, cut at its line feeds. -/
theorem splitOn_source (hm : m.Unbroken) : Text.splitOn '\n' m.source = m.lines ++ [[]] := by
  have h := Text.splitOn_flatMap_terminated hm.emitted []
  rwa [List.append_nil] at h

/-- The unit, cut at its line feeds. -/
theorem splitOn_unitText (hm : m.Unbroken) (hnames : ∀ name ∈ customNames, '\n' ∉ name) :
    Text.splitOn '\n' (unitText m customNames wide)
      = headerLines m customNames wide ++ (m.lines ++ [[]]) := by
  rw [unitText, header_eq_flatMap,
    Text.splitOn_flatMap_terminated (newline_not_mem_headerLines wide hm hnames),
    splitOn_source hm]

theorem length_lineMap (m : SourceMap) : m.lineMap.length = m.lines.length := by
  rw [SourceMap.lineMap, SourceMap.lines, List.length_map, List.length_map]

end Unit

end ShaderPlayer.Shader
