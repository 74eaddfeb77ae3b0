/-
Entry points.

A compute entry point is a function that carries the attributes `compute` and
`workgroup_size`.  The scanner looks at the lexemes of a unit, the words and the
single other characters that are not blank: attributes gather until something
else comes, and count if that is `fn`.

Main statement: reading an attribute's arguments leaves no more lexemes than there
were (`length_readArguments`), by which the scan ends.
-/
import ShaderPlayer.Shader.Comment
import ShaderPlayer.Shader.Literal
import ShaderPlayer.Shader.SourceMap
import ShaderPlayer.Text.Word

namespace ShaderPlayer.Shader

/-- A compute entry point with its workgroup size. -/
structure EntryPoint where
  name : Text
  size : Extent
  deriving DecidableEq, Repr

/-- The words of a text and its other characters, blanks left out. -/
def lexemes : Text → List Text
  | [] => []
  | c :: rest =>
    if Text.isWord c then
      (c :: rest.takeWhile Text.isWord) :: lexemes (rest.dropWhile Text.isWord)
    else if Text.isBlank c then lexemes rest
    else [c] :: lexemes rest
termination_by t => t.length
decreasing_by
  · have : (rest.dropWhile Text.isWord).length ≤ rest.length :=
      (List.dropWhile_sublist _).length_le
    simp only [List.length_cons]
    omega
  · simp
  · simp

/-- Reads the arguments of an attribute, `depth` parentheses deep: the rest of the one
that is being read, those after it at the outermost level, and what follows the closing
parenthesis. -/
def readArguments (depth : Nat) : List Text → Text × List Text × List Text
  | [] => ([], [], [])
  | lexeme :: rest =>
    let goOn (depth : Nat) : Text × List Text × List Text :=
      let (argument, others, after) := readArguments depth rest
      (lexeme ++ argument, others, after)
    if lexeme = ['('] then goOn (depth + 1)
    else if lexeme = [')'] then if depth = 1 then ([], [], rest) else goOn (depth - 1)
    else if lexeme = [','] ∧ depth = 1 then
      let (argument, others, after) := readArguments depth rest
      ([], argument :: others, after)
    else goOn depth

theorem length_readArguments (depth : Nat) (ls : List Text) :
    (readArguments depth ls).2.2.length ≤ ls.length := by
  induction ls generalizing depth with
  | nil => simp [readArguments]
  | cons lexeme rest ih =>
    simp only [readArguments]
    split
    · exact Nat.le_succ_of_le (ih _)
    split
    · split
      · simp
      · exact Nat.le_succ_of_le (ih _)
    split <;> exact Nat.le_succ_of_le (ih _)

/-- The arguments that follow an attribute's name, if any do, and the rest.  Empty
arguments do not count. -/
def attributeArguments : List Text → List Text × List Text
  | ['('] :: rest =>
    let (argument, others, after) := readArguments 1 rest
    ((argument :: others).filter (!·.isEmpty), after)
  | ls => ([], ls)

theorem length_attributeArguments (ls : List Text) :
    (attributeArguments ls).2.length ≤ ls.length := by
  unfold attributeArguments
  split
  · exact Nat.le_succ_of_le (length_readArguments _ _)
  · simp

/-- The size that an argument gives: the value of an integer literal with an optional
`u` or `i`, and one for everything else.  A decimal numeral that is too long is
not read. -/
def argumentSize (argument : Text) : Except Nat Nat :=
  let digits := match argument.getLast? with
    | some 'u' | some 'i' => argument.dropLast
    | _ => argument
  match digits with
  | '0' :: x :: hex =>
    if (x = 'x' ∨ x = 'X') ∧ !hex.isEmpty then
      match hex.mapM Text.hexDigit? with
      | some ds => .ok (Text.positional 16 ds)
      | none => .ok 1
    else decimalSize digits
  | _ => decimalSize digits
where
  /-- The size that decimal digits give. -/
  decimalSize (digits : Text) : Except Nat Nat :=
    if digits.isEmpty || !digits.all Char.isDigit then .ok 1
    else if maxDigits < digits.length then .error digits.length
    else .ok (Text.decimalValue digits)

/-- The workgroup size by the arguments of its attribute; missing ones are one. -/
def workgroupSize (arguments : List Text) : Except Nat Extent := do
  let sizes ← (arguments.take 3).mapM argumentSize
  let size (axis : Nat) : Int := ((sizes[axis]?).getD 1 : Nat)
  return ⟨size 0, size 1, size 2⟩

/-- The entry point of a function with attributes, if it is one. -/
def entryPoint? (attributes : Entries (List Text)) (name : Text) :
    Except Nat (List EntryPoint) :=
  match attributes.lookup "compute".toList, attributes.lookup "workgroup_size".toList with
  | some _, some arguments => do return [⟨name, ← workgroupSize arguments⟩]
  | _, _ => .ok []

/-- The entry points among lexemes, the attributes before them given. -/
def scan (attributes : Entries (List Text)) (ls : List Text) : Except Nat (List EntryPoint) :=
  match ls with
  | [] => .ok []
  | lexeme :: rest =>
    if lexeme = ['@'] then
      match rest with
      | [] => .ok []
      | name :: rest =>
        -- of two attributes with one name the later counts
        have := length_attributeArguments rest
        scan (attributes.put name (attributeArguments rest).1) (attributeArguments rest).2
    else if lexeme = ['f', 'n'] then
      match rest with
      | [] => .ok []
      | name :: rest => do
        let found ← entryPoint? attributes name
        let others ← scan [] rest
        return found ++ others
    -- anything else parts the attributes before it from a function
    else scan [] rest
termination_by ls.length

/-- The compute entry points of a unit in their order, or the length of a numeral
that is not read. -/
def findEntryPoints (unit : Text) : Except Nat (List EntryPoint) :=
  scan [] (lexemes (stripComments unit))

/-- The workgroups that cover a screen: the counts of an override, or as many as
the workgroup size needs; a size below one counts as one. -/
def workgroupsFor (size : Extent) (override? : Option Extent) (width height : Int) : Extent :=
  match override? with
  | some count => count
  | none => ⟨-((-width) / max size.x 1), -((-height) / max size.y 1), 1⟩

end ShaderPlayer.Shader
