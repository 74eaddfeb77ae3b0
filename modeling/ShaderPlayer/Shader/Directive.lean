/-
Lines and directives.

A line whose macros are substituted is an extension line, a plain line or a
directive.  `Directive.ofTokens` checks a directive's form and reads its
literals; what it does to the source map is said where shaders are processed.
-/
import ShaderPlayer.Shader.Comment
import ShaderPlayer.Shader.Error
import ShaderPlayer.Shader.Literal
import ShaderPlayer.Shader.SourceMap
import ShaderPlayer.Text.Blank

namespace ShaderPlayer.Shader

/-- The path of an include, by how it is enclosed. -/
inductive IncludePath where
  | quoted (path : Text)
  | library (path : Text)
  deriving DecidableEq, Repr

/-- The path asked of the resolver: a library path lies below `std`. -/
def IncludePath.request : IncludePath → Text
  | .quoted path => path
  | .library path => "std/".toList ++ path

/-- What lies between the first chevron and the last that closes. -/
def betweenChevrons? (t : Text) : Option Text :=
  (t.afterFirst? '<').bind fun rest => rest.beforeLast? '>'

/-- The path in an include's argument: the first quoted body, or else what the
chevrons enclose. -/
def IncludePath.ofArgument? (argument : Text) : Option IncludePath :=
  match firstBody? argument with
  | some path => some (.quoted path)
  | none => (betweenChevrons? argument).map .library

/-- A directive, its form checked and its literals read. -/
inductive Directive where
  | includeText (path : IncludePath) (argument : Text)
  | workgroupCount (entry : Text) (count : Extent)
  | dispatchOnce (entry : Text)
  | dispatchCount (entry : Text) (count : Nat)
  | define (name value : Text)
  | storage (name type : Text)
  | assertion (predicate : Text)
  | data (name : Text) (values : List Nat)
  deriving DecidableEq, Repr

/-- The integer literal of a directive. -/
def literal (t : Text) : Except Stop Nat :=
  match readU32 t with
  | .value n => .ok n
  | .malformed => .error (.defect (.notU32 t))
  | .tooLong digits => .error (.numeral digits)

/-- The values of a data directive: its last parts joined, and cut at commas. -/
def dataValues (parts : List Text) : Except Stop (List Nat) :=
  ((parts.flatten).splitOn ',').mapM literal

/-- The words of a text with single spaces between them. -/
def spaced (parts : List Text) : Text := Text.join [' '] parts

/-- The directive of a line's tokens. -/
def Directive.ofTokens (tokens : List Text) : Except Stop Directive :=
  match tokens with
  | [] => .error (.defect .unknownDirective)
  | keyword :: arguments =>
    if keyword = "#include".toList then
      match arguments with
      | [argument] =>
        match IncludePath.ofArgument? argument with
        | some path => .ok (.includeText path argument)
        | none => .error (.defect .includePath)
      | _ => .error (.defect .includeForm)
    else if keyword = "#workgroup_count".toList then
      match arguments with
      | [entry, x, y, z] => do
        let x ← literal x
        let y ← literal y
        let z ← literal z
        return .workgroupCount entry ⟨x, y, z⟩
      | _ => .error (.defect .workgroupCountForm)
    else if keyword = "#dispatch_once".toList then
      match arguments with
      | [entry] => .ok (.dispatchOnce entry)
      | _ => .error (.defect .dispatchOnceForm)
    else if keyword = "#dispatch_count".toList then
      match arguments with
      | [entry, count] => (literal count).map (.dispatchCount entry)
      | _ => .error (.defect .dispatchCountForm)
    else if keyword = "#define".toList then
      match arguments with
      | name :: value => .ok (.define name (spaced value))
      | [] => .error (.defect .defineForm)
    else if keyword = "#storage".toList then
      match arguments with
      | name :: part :: parts => .ok (.storage name (spaced (part :: parts)))
      | _ => .error (.defect .storageForm)
    else if keyword = "#assert".toList then
      match arguments with
      | part :: parts => .ok (.assertion (spaced (part :: parts)))
      | [] => .error (.defect .assertForm)
    else if keyword = "#data".toList then
      match arguments with
      | name :: type :: part :: parts =>
        if type = "u32".toList then (dataValues (part :: parts)).map (.data name)
        else .error (.defect .dataForm)
      | _ => .error (.defect .dataForm)
    else .error (.defect .unknownDirective)

/-- A line by what happens to it. -/
inductive Line where
  /-- A line moved before the prelude, without its comments. -/
  | extension (text : Text)
  /-- A line of the shader. -/
  | plain (text : Text)
  /-- A directive, by its tokens. -/
  | directive (tokens : List Text)
  deriving DecidableEq, Repr

/-- The kind of a line, told by how it starts. -/
def Line.ofText (line : Text) : Line :=
  let start := line.trimLeft
  if Text.startsWith "enable".toList start then .extension (stripComments line)
  else if Text.startsWith ['#'] start then .directive (stripComments line).tokens
  else .plain line

end ShaderPlayer.Shader
