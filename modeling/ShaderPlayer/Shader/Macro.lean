/-
Macros.

The macro table keeps its entries in the order of their definition, and a name is
defined only once.  Substitution replaces the words of a text that name a macro,
in one pass: what was put in is not looked at again.

Main statements: a definition that is accepted goes to the end of the table
(`define_eq_some`), and one of a known name is refused (`define_eq_none_iff`).
-/
import ShaderPlayer.Entries
import ShaderPlayer.Text.Blank
import ShaderPlayer.Text.Word

namespace ShaderPlayer.Shader

/-- Names with their values, in the order of their definition. -/
structure MacroTable where
  entries : Entries Text := []
  deriving DecidableEq, Repr

namespace MacroTable

/-- The value of a name. -/
def get? (m : MacroTable) (name : Text) : Option Text := m.entries.lookup name

/-- Whether a name is defined. -/
def contains (m : MacroTable) (name : Text) : Bool := (m.get? name).isSome

/-- The table with one more definition, unless the name has one. -/
def define? (m : MacroTable) (name value : Text) : Option MacroTable :=
  if m.contains name then none else some ⟨m.entries ++ [(name, value)]⟩

/-- The table with a value for a name; a known name keeps its place. -/
def put (m : MacroTable) (name value : Text) : MacroTable := ⟨m.entries.put name value⟩

/-- The text with every word that names a macro replaced by its value. -/
def substitute (m : MacroTable) (t : Text) : Text :=
  t.mapWords fun word => (m.get? word).getD word

theorem define_eq_none_iff {m : MacroTable} {name value : Text} :
    m.define? name value = none ↔ m.contains name := by
  unfold define?
  split <;> simp_all

theorem define_eq_some {m m' : MacroTable} {name value : Text}
    (h : m.define? name value = some m') : m'.entries = m.entries ++ [(name, value)] := by
  unfold define? at h
  split at h
  · cases h
  · cases h
    rfl

end MacroTable

/-- A line that defines a macro, cut behind the macro's name: the directive with
the name, and what follows. -/
def splitDefinition? (line : Text) : Option (Text × Text) :=
  let keyword := "#define".toList
  let indent := line.takeWhile Text.isBlank
  let body := line.dropWhile Text.isBlank
  if keyword.isPrefixOf body then
    let rest := body.drop keyword.length
    let gap := rest.takeWhile Text.isBlank
    let afterGap := rest.dropWhile Text.isBlank
    let name := afterGap.takeWhile Text.isWord
    if gap.isEmpty || name.isEmpty then none
    else some (indent ++ keyword ++ gap ++ name, afterGap.dropWhile Text.isWord)
  else none

/-- The line with its macros substituted.  The name in a definition stays, so that
a second definition of it is seen as one. -/
def MacroTable.expandLine (m : MacroTable) (line : Text) : Text :=
  match splitDefinition? line with
  | some (head, rest) => head ++ m.substitute (rest.takeWhile (· ≠ '\n'))
  | none => m.substitute line

end ShaderPlayer.Shader
