/-
The prelude.

The shader text that precedes every source: aliases for scalar, vector and matrix
types, the built-in structures, a structure of the custom uniforms and one of the
data tables, the declarations of all bindings and a few functions.  It is a list of
lines, so that the lines before the source can be counted.

Main statement: the prelude has as many line feeds as lines
(`count_newline_prelude`), if no name in it holds one.
-/
import ShaderPlayer.Shader.Error
import ShaderPlayer.Shader.SourceMap

namespace ShaderPlayer.Shader

/-! ### Aliases -/

/-- The declaration of an alias. -/
def typeAlias (name type : Text) : Text :=
  "alias ".toList ++ name ++ " = ".toList ++ type ++ [';']

/-- The scalar types by the names that shaders use for them. -/
def scalarAliases : List (Text × Text) := [
  ("int".toList, "i32".toList), ("uint".toList, "u32".toList), ("float".toList, "f32".toList)]

/-- The sizes of vectors, and of the sides of matrices. -/
def vectorSizes : List Nat := [2, 3, 4]

/-- The aliases of vectors with an element type. -/
def vectorAliases (name type : Text) : List Text :=
  vectorSizes.map fun n =>
    typeAlias (name ++ Text.ofNat n) ("vec".toList ++ Text.ofNat n ++ '<' :: type ++ ['>'])

/-- The alias of a matrix type. -/
def matrixAlias (columns rows : Nat) : Text :=
  let size := Text.ofNat columns ++ 'x' :: Text.ofNat rows
  typeAlias ("float".toList ++ size) ("mat".toList ++ size ++ "<f32>".toList)

/-- The lines of all aliases. -/
def aliasLines : List Text :=
  scalarAliases.map (fun (name, type) => typeAlias name type)
    ++ (scalarAliases ++ [("bool".toList, "bool".toList)]).flatMap
      (fun (name, type) => vectorAliases name type)
    ++ vectorSizes.flatMap fun columns => vectorSizes.map (matrixAlias columns)

/-! ### Structures -/

/-- The lines of the built-in structures. -/
def structLines : List String := [
  "",
  "struct Time \x7b frame: uint, elapsed: float, delta: float \x7d",
  "struct Mouse \x7b pos: uint2, click: int \x7d",
  "struct DispatchInfo \x7b id: uint \x7d",
  ""]

/-- The lines of a structure. -/
def structLinesOf (name : Text) (fields : List Text) : List Text :=
  ("struct ".toList ++ name ++ [' ', '\x7b'])
    :: fields.map (fun field => "    ".toList ++ field ++ [',']) ++ [['\x7d', ';']]

/-- The field of a custom uniform. -/
def customField (name : Text) : Text := name ++ ": float".toList

/-- The field of a data table. -/
def tableField (name : Text) (length : Nat) : Text :=
  name ++ ": array<u32,".toList ++ Text.ofNat length ++ ['>']

/-- The fields of data tables; a shader without any has the placeholder. -/
def tableFields (tables : Tables) : List Text :=
  (if tables.isEmpty then bootstrapTables else tables).map fun (name, values) =>
    tableField name values.length

/-- A field of data tables has the name of one or is the placeholder's. -/
theorem exists_tableField {P : Text → Prop} (hplaceholder : P placeholder) {tables : Tables}
    (h : ∀ name ∈ tables.keys, P name) {field : Text} (hfield : field ∈ tableFields tables) :
    ∃ name length, P name ∧ field = tableField name length := by
  obtain ⟨⟨name, values⟩, hentry, rfl⟩ := List.mem_map.mp hfield
  refine ⟨name, values.length, ?_, rfl⟩
  split at hentry
  · cases List.mem_singleton.mp hentry
    exact hplaceholder
  · exact h name (List.mem_map_of_mem hentry)

/-! ### Bindings -/

/-- The format of the screen texture. -/
def screenFormat : Text := "rgba16float".toList

/-- The format of the pass textures. -/
def passFormat (wide : Bool) : Text :=
  if wide then "rgba32float".toList else "rgba16float".toList

/-- The declaration of a binding: its address space, if it is a buffer, its name and
its type. -/
def bindingLine (binding : Nat) (space name type : Text) : Text :=
  "@group(0) @binding(".toList ++ Text.ofNat binding ++ ") var".toList ++ space ++ ' ' :: name
    ++ ": ".toList ++ type ++ [';']

/-- The lines of the binding declarations. -/
def bindingLines (wide : Bool) : List Text :=
  let uniform := "<uniform>".toList
  let texture (format : Text) := '<' :: format ++ ",write>".toList
  let counters :=
    "array<atomic<u32>,".toList ++ Text.ofNat maxAssertions ++ ['>']
  [[],
    bindingLine 2 uniform "time".toList "Time".toList,
    bindingLine 3 uniform "mouse".toList "Mouse".toList,
    bindingLine 4 uniform "_keyboard".toList "array<vec4<u32>,2>".toList,
    bindingLine 5 uniform "custom".toList "Custom".toList,
    bindingLine 6 "<storage,read>".toList "data".toList "Data".toList,
    bindingLine 7 "<storage,read_write>".toList "_assert_counts".toList counters,
    bindingLine 8 uniform "dispatch".toList "DispatchInfo".toList,
    bindingLine 9 [] "screen".toList ("texture_storage_2d".toList ++ texture screenFormat),
    bindingLine 10 [] "pass_in".toList "texture_2d_array<f32>".toList,
    bindingLine 11 [] "pass_out".toList
      ("texture_storage_2d_array".toList ++ texture (passFormat wide)),
    bindingLine 12 [] "channel0".toList "texture_2d<f32>".toList,
    bindingLine 13 [] "channel1".toList "texture_2d<f32>".toList,
    bindingLine 14 [] "nearest".toList "sampler".toList,
    bindingLine 15 [] "bilinear".toList "sampler".toList,
    bindingLine 16 [] "nearest_repeat".toList "sampler".toList,
    bindingLine 17 [] "bilinear_repeat".toList "sampler".toList,
    []]

/-- The binding declarations as a text. -/
def bindingText (wide : Bool) : Text := Text.join ['\n'] (bindingLines wide)

/-! ### Functions -/

/-- The lines of the built-in functions. -/
def functionLines : List String := [
  "",
  "fn keyDown(keycode: uint) -> bool \x7b",
  "    return ((_keyboard[keycode / 128u][(keycode % 128u) / 32u] >> (keycode % 32u)) & 1u) == 1u;",
  "\x7d",
  "",
  "fn assert(index: int, success: bool) \x7b",
  "    if (!success) \x7b",
  "        atomicAdd(&_assert_counts[index], 1u);",
  "    \x7d",
  "\x7d",
  "",
  "fn passStore(pass_index: int, coord: int2, value: float4) \x7b",
  "    textureStore(pass_out, coord, pass_index, value);",
  "\x7d",
  "",
  "fn passLoad(pass_index: int, coord: int2, lod: int) -> float4 \x7b",
  "    return textureLoad(pass_in, coord, pass_index, lod);",
  "\x7d",
  "",
  "fn passSampleLevelBilinearRepeat(pass_index: int, uv: float2, lod: float) -> float4 \x7b",
  "    return textureSampleLevel(pass_in, bilinear_repeat, fract(uv), pass_index, lod);",
  "\x7d",
  ""]

/-! ### The whole -/

/-- The lines of the prelude. -/
def preludeLines (customNames : List Text) (tables : Tables) (wide : Bool) : List Text :=
  aliasLines ++ structLines.map String.toList
    ++ structLinesOf "Custom".toList (customNames.map customField)
    ++ structLinesOf "Data".toList (tableFields tables)
    ++ bindingLines wide ++ functionLines.map String.toList

/-- The prelude for custom uniforms, data tables and wide or narrow pass textures. -/
def prelude (customNames : List Text) (tables : Tables) (wide : Bool) : Text :=
  (preludeLines customNames tables wide).flatMap SourceMap.terminated

/-- The number of line feeds in lines that hold none themselves. -/
theorem count_newline_terminated {ls : List Text} (h : ∀ l ∈ ls, '\n' ∉ l) :
    (ls.flatMap SourceMap.terminated).count '\n' = ls.length := by
  induction ls with
  | nil => rfl
  | cons l ls ih =>
    have hl : l.count '\n' = 0 := List.count_eq_zero.2 (h l (by simp))
    have hls := ih fun l' hl' => h l' (List.mem_cons_of_mem _ hl')
    simp only [List.flatMap_cons, List.count_append, hls, SourceMap.terminated, hl]
    simp
    omega

theorem count_newline_prelude {customNames : List Text} {tables : Tables} {wide : Bool}
    (h : ∀ l ∈ preludeLines customNames tables wide, '\n' ∉ l) :
    (prelude customNames tables wide).count '\n'
      = (preludeLines customNames tables wide).length :=
  count_newline_terminated h

/-- The compilation unit before the source: extensions and prelude. -/
def header (m : SourceMap) (customNames : List Text) (wide : Bool) : Text :=
  m.extensions ++ prelude customNames m.tables wide

/-- The compilation unit of a source map. -/
def unitText (m : SourceMap) (customNames : List Text) (wide : Bool) : Text :=
  header m customNames wide ++ m.source

end ShaderPlayer.Shader
