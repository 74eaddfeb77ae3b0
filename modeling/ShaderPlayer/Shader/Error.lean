/-
Errors in a shader.

Every defect of a shader is a `Cause` found at a line of the input.  Its `kind`
says which family it belongs to and its `message` puts it into words; the two
together with the line are the `Report` that an error sink receives.
-/
import ShaderPlayer.Text.Quoted

namespace ShaderPlayer.Shader

/-- The families of shader errors. -/
inductive ErrorKind where
  /-- An error of no particular family. -/
  | general
  | directive
  | redefinition
  | limit
  | missingInclude
  | longString
  | compilation
  deriving DecidableEq, Repr

/-- The family's name. -/
def ErrorKind.name : ErrorKind → Text
  | .general => "WGSLError".toList
  | .directive => "DirectiveSyntaxError".toList
  | .redefinition => "RedefinitionError".toList
  | .limit => "ResourceLimitError".toList
  | .missingInclude => "IncludeNotFoundError".toList
  | .longString => "StringLiteralTooLongError".toList
  | .compilation => "GpuCompilationError".toList

/-- The families in the order of their introduction. -/
def ErrorKind.all : List ErrorKind :=
  [.general, .directive, .redefinition, .limit, .missingInclude, .longString, .compilation]

/-- An error as a sink receives it. -/
structure Report where
  kind : ErrorKind
  summary : Text
  line : Int
  deriving DecidableEq, Repr

/-- The report as a constructor call. -/
def Report.display (r : Report) : Text :=
  r.kind.name ++ '(' :: Text.quoted r.summary ++ ", line=".toList ++ Text.ofInt r.line ++ [')']

/-- What can be wrong with a shader. -/
inductive Cause where
  /-- A directive's literal is no 32-bit integer. -/
  | notU32 (literal : Text)
  /-- `#dispatch_once` without exactly one name. -/
  | dispatchOnceForm
  /-- `#dispatch_count` without a name and a count. -/
  | dispatchCountForm
  /-- `#workgroup_count` without a name and three values. -/
  | workgroupCountForm
  /-- `#define` without a name. -/
  | defineForm
  /-- `#storage` without a name and a type. -/
  | storageForm
  /-- `#assert` without a predicate. -/
  | assertForm
  /-- `#data` without a name, the type and values. -/
  | dataForm
  /-- `#include` without exactly one argument. -/
  | includeForm
  /-- An include path that is enclosed in nothing. -/
  | includePath
  /-- A directive of no known name. -/
  | unknownDirective
  /-- A macro defined twice. -/
  | redefined (name : Text)
  | storageLimit
  | assertLimit
  | depthLimit
  /-- An include that no resolver has, by the argument of its directive. -/
  | includeMissing (argument : Text)
  /-- A string literal longer than the shader's strings. -/
  | stringTooLong
  /-- The device refused the shader. -/
  | refused (message : Text)
  deriving DecidableEq, Repr

/-- The most assertions of a shader. -/
def maxAssertions : Nat := 10

/-- The most storage buffers of a shader. -/
def maxStorageBuffers : Nat := 2

/-- The most includes within one another. -/
def maxIncludeDepth : Nat := 16

/-- The family of a cause. -/
def Cause.kind : Cause → ErrorKind
  | .redefined _ => .redefinition
  | .storageLimit | .assertLimit | .depthLimit => .limit
  | .includeMissing _ => .missingInclude
  | .stringTooLong => .longString
  | .refused _ => .compilation
  | _ => .directive

/-- The words for a cause. -/
def Cause.message : Cause → Text
  | .notU32 literal => "Cannot parse '".toList ++ literal ++ "' as u32".toList
  | .dispatchOnceForm => "Dispatch once directive requires exactly one name".toList
  | .dispatchCountForm => "Dispatch count directive requires name and count".toList
  | .workgroupCountForm => "Workgroup count directive requires name and three values".toList
  | .defineForm => "Define directive requires at least a name".toList
  | .storageForm => "Storage directive requires name and type".toList
  | .assertForm => "Assert directive requires predicate".toList
  | .dataForm => "Data directive requires name, u32 type, and data".toList
  | .includeForm => "Include directive requires exactly one argument".toList
  | .includePath => "Path must be enclosed in quotes or chevrons".toList
  | .unknownDirective => "Unrecognised preprocessor directive".toList
  | .redefined name => "Cannot redefine ".toList ++ name
  | .storageLimit => "Only two storage buffers are currently supported".toList
  | .assertLimit =>
    "A maximum of ".toList ++ Text.ofNat maxAssertions
      ++ " assertions are currently supported".toList
  | .depthLimit => "Include depth limit exceeded".toList
  | .includeMissing argument => "Cannot find include ".toList ++ argument
  | .stringTooLong => "String literals cannot be longer than 20 characters".toList
  | .refused message => message

/-- The report of a cause at a line. -/
def Cause.report (c : Cause) (line : Int) : Report := ⟨c.kind, c.message, line⟩

/-- What stops the work on a line: a defect of the shader, or a decimal numeral so
long that it is not read at all. -/
inductive Stop where
  | defect (cause : Cause)
  | numeral (digits : Nat)
  deriving DecidableEq, Repr

/-- The words for a numeral that is not read. -/
def numeralMessage (digits : Nat) : Text :=
  "Exceeds the limit (4300 digits) for integer string conversion: value has ".toList
    ++ Text.ofNat digits
    ++ " digits; use sys.set_int_max_str_digits() to increase the limit".toList

end ShaderPlayer.Shader
