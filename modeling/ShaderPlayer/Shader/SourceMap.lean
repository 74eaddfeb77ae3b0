/-
The source map, what preprocessing makes of a shader.

It holds the emitted lines, each with the input line it came from, the hoisted
extension lines, the dispatch settings by entry point, the input lines of the
assertions and the data tables.

Main statements: a unit line inside the source maps to the origin of its emitted
line (`mapLine_source`), every other one to zero (`mapLine_below`,
`mapLine_above`).
-/
import ShaderPlayer.Entries
import ShaderPlayer.Text.Quoted

namespace ShaderPlayer.Shader

/-- Numbers of workgroups or invocations along the three axes. -/
structure Extent where
  x : Int
  y : Int
  z : Int
  deriving DecidableEq, Repr, Inhabited

/-- An emitted line and the input line it came from. -/
structure Emitted where
  text : Text
  origin : Int
  deriving DecidableEq, Repr

/-- Named tables of numbers. -/
abbrev Tables := Entries (List Int)

/-- The table that stands in where there is none: a shader's structure cannot be
empty. -/
def placeholder : Text := "_dummy".toList

/-- The tables of a shader without any. -/
def bootstrapTables : Tables := [(placeholder, [0])]

/-- The result of preprocessing a shader. -/
structure SourceMap where
  emitted : Array Emitted := #[]
  hoisted : Array Text := #[]
  workgroupCounts : Entries Extent := []
  dispatchOnce : Entries Unit := []
  dispatchCounts : Entries Nat := []
  assertLines : Array Int := #[]
  tables : Tables := bootstrapTables
  deriving DecidableEq, Repr

namespace SourceMap

/-- A line with the line feed that ends it. -/
def terminated (line : Text) : Text := line ++ ['\n']

/-- The emitted lines. -/
def lines (m : SourceMap) : List Text := m.emitted.toList.map (·.text)

/-- The input lines of the emitted lines. -/
def lineMap (m : SourceMap) : List Int := m.emitted.toList.map (·.origin)

/-- The emitted lines as one text. -/
def source (m : SourceMap) : Text := m.lines.flatMap terminated

/-- The hoisted lines as one text. -/
def extensions (m : SourceMap) : Text := m.hoisted.toList.flatMap terminated

/-- The map with one more emitted line. -/
def pushLine (m : SourceMap) (text : Text) (origin : Int) : SourceMap :=
  { m with emitted := m.emitted.push ⟨text, origin⟩ }

/-- The map with one more hoisted line. -/
def pushExtension (m : SourceMap) (line : Text) : SourceMap :=
  { m with hoisted := m.hoisted.push line }

/-- The tables with values added to one of them.  The placeholder goes when a
first table comes. -/
def pushTable (ts : Tables) (name : Text) (values : List Int) : Tables :=
  let kept : Entries (List Int) := if Entries.keys ts = [placeholder] then [] else ts
  kept.put name ((kept.lookup name).getD [] ++ values)

/-- The map with values added to a table. -/
def pushData (m : SourceMap) (name : Text) (values : List Int) : SourceMap :=
  { m with tables := pushTable m.tables name values }

/-- The input line of a line of the unit, counted from one, where `offset` lines
precede the source; zero for a line outside the source. -/
def mapLine (m : SourceMap) (unitLine offset : Int) : Int :=
  let index := unitLine - 1 - offset
  if 0 ≤ index then (m.lineMap[index.toNat]?).getD 0 else 0

/-- A short description of the map. -/
def display (m : SourceMap) : Text :=
  "<SourceMap ".toList ++ Text.ofNat m.emitted.size ++ " lines, ".toList
    ++ Text.ofNat m.assertLines.size ++ " asserts, tables ".toList
    ++ Text.quotedList m.tables.keys ++ ['>']

theorem mapLine_source (m : SourceMap) (offset : Int) {j : Nat} (hj : j < m.lineMap.length) :
    m.mapLine (offset + j + 1) offset = m.lineMap[j] := by
  have hindex : offset + j + 1 - 1 - offset = (j : Int) := by omega
  unfold mapLine
  simp only [hindex]
  simp [List.getElem?_eq_getElem hj]

theorem mapLine_below (m : SourceMap) {unitLine offset : Int} (h : unitLine ≤ offset) :
    m.mapLine unitLine offset = 0 := by
  have : ¬ 0 ≤ unitLine - 1 - offset := by omega
  simp only [mapLine, this, if_false]

theorem mapLine_above (m : SourceMap) {unitLine offset : Int}
    (h : offset + m.lineMap.length < unitLine) : m.mapLine unitLine offset = 0 := by
  have hlen : m.lineMap.length ≤ (unitLine - 1 - offset).toNat := by omega
  simp only [mapLine]
  split
  · simp [List.getElem?_eq_none hlen]
  · rfl

theorem lines_pushLine (m : SourceMap) (text : Text) (origin : Int) :
    (m.pushLine text origin).lines = m.lines ++ [text] := by
  simp [lines, pushLine]

theorem lineMap_pushLine (m : SourceMap) (text : Text) (origin : Int) :
    (m.pushLine text origin).lineMap = m.lineMap ++ [origin] := by
  simp [lineMap, pushLine]

end SourceMap

end ShaderPlayer.Shader
