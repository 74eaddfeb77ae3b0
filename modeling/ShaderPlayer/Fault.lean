/-
Faults.

What a caller of this library can do wrong, and what the world outside can refuse.
Each fault has its cause as a constructor, a `message` in words, and a `family`
that tells callers what kind of fault it is.
-/
import ShaderPlayer.Shader.Error
import ShaderPlayer.Text.Utf8

namespace ShaderPlayer

/-- Why a file operation is refused. -/
inductive FileDefect where
  | notFound
  | exists
  | notDirectory
  | isDirectory
  | nameTooLong
  deriving DecidableEq, Repr

/-- The number and the words of a file defect. -/
def FileDefect.message : FileDefect → Text
  | .notFound => "[Errno 2] No such file or directory".toList
  | .exists => "[Errno 17] File exists".toList
  | .notDirectory => "[Errno 20] Not a directory".toList
  | .isDirectory => "[Errno 21] Is a directory".toList
  | .nameTooLong => "[Errno 36] File name too long".toList

/-- The refusal of a graphics device. -/
inductive RefusalKind where
  | general
  | validation
  | outOfMemory
  | internal
  /-- A failure of the device that is no verdict on the shader. -/
  | breakdown
  deriving DecidableEq, Repr

/-- Whether a refusal is a verdict on what the device was asked to make. -/
def RefusalKind.isVerdict : RefusalKind → Bool
  | .breakdown => false
  | _ => true

/-- The element types of a uniform's fields. -/
inductive Scalar where
  | float
  | int
  | uint
  deriving DecidableEq, Repr

/-- The letter of an element type. -/
def Scalar.letter : Scalar → Char
  | .float => 'f'
  | .int => 'i'
  | .uint => 'I'

/-- The kinds of faults. -/
inductive Family where
  | assertion
  | type
  | value
  | index
  | key
  | attribute
  | overflow
  | memory
  | zeroDivision
  | system
  | fileNotFound
  | fileExists
  | isDirectory
  | notDirectory
  | encoding
  | image
  /-- A number does not fit into its bytes of a file. -/
  | packing
  | runtime
  | shader (kind : Shader.ErrorKind)
  | device (kind : RefusalKind)
  deriving DecidableEq, Repr

/-- What went wrong. -/
inductive Fault where
  /-- A condition that callers have to meet does not hold. -/
  | assertion
  /-- A uniform's element got something that is no number of its type. -/
  | elementType (scalar : Scalar)
  /-- A uniform's element got a number out of its range. -/
  | elementRange (scalar : Scalar)
  | listTooShort
  | tupleTooShort
  /-- A number beyond those that were read. -/
  | arrayIndex (index size : Nat)
  | unknownKey (key : Text)
  /-- Something that is missing because an earlier step did not make it. -/
  | missingPart (owner part : Text)
  /-- A text that is no integer. -/
  | notInteger (text : Text)
  /-- A text that is no number. -/
  | notNumber (text : Text)
  /-- A decimal numeral that is too long to be read. -/
  | numeral (digits : Nat)
  /-- Something of a type that cannot become an integer. -/
  | noInteger (type : Text)
  /-- Something of a type that cannot become a number. -/
  | noNumber (type : Text)
  | integerTooLarge
  | quotientTooLarge
  | infiniteInteger
  | undefinedInteger
  /-- A division by zero, of integers or of numbers with fractions. -/
  | zeroDivision (fractional : Bool)
  /-- An operator between types it is not for. -/
  | operands (operator left right : Text)
  /-- A comparison between types that have no order. -/
  | incomparable (operator left right : Text)
  /-- A text or list repeated by something that is no integer. -/
  | repetition (type : Text)
  /-- A text or list repeated more often than there are indices. -/
  | repetitionCount
  /-- A text that would be longer than there are indices. -/
  | repetitionLength
  /-- A result that no memory holds. -/
  | outOfMemory
  | notIterable (type : Text)
  | notSubscript (type : Text)
  /-- A search in something that has no members. -/
  | noMembers (type : Text)
  /-- A search in a text for something that is no text. -/
  | textMember (type : Text)
  | noLength (type : Text)
  /-- Something that cannot be looked up. -/
  | noKey (type : Text)
  /-- Not as many values as names of custom uniforms. -/
  | customCount
  /-- A custom uniform's name that is no identifier. -/
  | customName (name : Text)
  /-- A custom uniform's name that is no text. -/
  | customNameType (type : Text)
  /-- A key code out of range, as shown. -/
  | keycode (shown : Text)
  /-- A key whose capital form has several characters. -/
  | wideKey (length : Nat)
  /-- A channel that does not exist, as shown. -/
  | channel (shown : Text)
  | channelType (type : Text)
  | channelShape (shape : List Nat)
  | storageIndex
  | storageSize (size limit : Int)
  /-- A nested list whose items have no common shape beyond the given one. -/
  | ragged (shape : List Nat)
  /-- A list nested deeper than arrays have axes. -/
  | tooDeep (axes : Nat)
  /-- A preprocessor that is asked to run again. -/
  | usedPreprocessor
  /-- A picture of a depth that its format does not have. -/
  | pictureDepth (depth format : Text)
  /-- A picture of a kind that its format does not take, in words. -/
  | pictureKind (message : Text)
  /-- A format that needs a writer which is not there. -/
  | noWriter (format : Text)
  /-- A picture without texels in a format that needs some. -/
  | emptyPicture
  /-- A picture for which a format finds no room, in words. -/
  | noRoom (message : Text)
  /-- An integer that two bytes of a picture file, the high one first or last, cannot
  hold. -/
  | wordOverflow (highFirst : Bool)
  /-- An integer that an array's elements of a type, or of words with or without a sign,
  cannot hold. -/
  | elementOverflow (value : Int) (type : Text) (signed : Bool)
  /-- A custom uniform option that is no name with a value, quoted. -/
  | uniformOption (item : Text)
  | file (defect : FileDefect) (path : Text)
  | cacheDirectory (path : Text) (defect : FileDefect) (blocked : Text)
  | undecodable (malformed : Text.Malformed)
  | nullInPath
  /-- An include source that failed, with its message. -/
  | source (message : Text)
  /-- A failure of no foreseen kind, with its message. -/
  | breakdown (message : Text)
  | notImage (path : Text)
  /-- A screen with a negative number of texels. -/
  | negativeScreen
  /-- A texture whose sides are both negative. -/
  | unknownSides
  /-- Texels that are to fill a texture with an empty and a negative side. -/
  | unfillable (width height : Int)
  /-- A screen that is given so many sides, and not two. -/
  | sides (count : Nat)
  | unknownExtension (extension : Text)
  | escape (message : Text)
  | shader (report : Shader.Report)
  | refused (kind : RefusalKind) (message : Text)
  deriving DecidableEq, Repr

namespace Fault

/-- A shape between parentheses; a single dimension is followed by a comma. -/
def shapeText : List Nat → Text
  | [n] => '(' :: Text.ofNat n ++ [',', ')']
  | shape => '(' :: Text.join [',', ' '] (shape.map Text.ofNat) ++ [')']

/-- The description of a refused file operation. -/
def fileMessage (defect : FileDefect) (path : Text) : Text :=
  defect.message ++ ": ".toList ++ path.quoted

/-- Whether an integer fits into 64 bits with a sign, or else with or without one. -/
def isWord (signed : Bool) (n : Int) : Bool :=
  -0x8000000000000000 ≤ n && n < if signed then 0x8000000000000000 else 0x10000000000000000

/-- The words for a screen with so many sides. -/
def sidesMessage (count : Nat) : Text :=
  "Bindings.__init__() ".toList ++ match count with
    | 0 => "missing 2 required positional arguments: 'width' and 'height'".toList
    | 1 => "missing 1 required positional argument: 'height'".toList
    | _ => "got multiple values for argument 'pass_f32'".toList

/-- The words for a fault. -/
def message : Fault → Text
  | assertion => []
  | elementType scalar =>
    "memoryview: invalid type for format ".toList ++ Text.quoted [scalar.letter]
  | elementRange scalar =>
    "memoryview: invalid value for format ".toList ++ Text.quoted [scalar.letter]
  | listTooShort => "list index out of range".toList
  | tupleTooShort => "tuple index out of range".toList
  | arrayIndex index size =>
    "index ".toList ++ Text.ofNat index ++ " is out of bounds for axis 0 with size ".toList
      ++ Text.ofNat size
  | unknownKey key => key.quoted
  | missingPart owner part =>
    owner.quoted ++ " object has no attribute ".toList ++ part.quoted
  | notInteger text =>
    "invalid literal for int() with base 10: ".toList ++ text.quoted.take 200
  | notNumber text => "could not convert string to float: ".toList ++ text.quoted
  | numeral digits => Shader.numeralMessage digits
  | noInteger type =>
    "int() argument must be a string, a bytes-like object or a real number, not ".toList
      ++ type.quoted
  | noNumber type =>
    "float() argument must be a string or a real number, not ".toList ++ type.quoted
  | integerTooLarge => "int too large to convert to float".toList
  | quotientTooLarge => "integer division result too large for a float".toList
  | infiniteInteger => "cannot convert float infinity to integer".toList
  | undefinedInteger => "cannot convert float NaN to integer".toList
  | zeroDivision fractional =>
    if fractional then "float division by zero".toList else "division by zero".toList
  | operands operator left right =>
    "unsupported operand type(s) for ".toList ++ operator ++ ": ".toList ++ left.quoted
      ++ " and ".toList ++ right.quoted
  | incomparable operator left right =>
    operator.quoted ++ " not supported between instances of ".toList ++ left.quoted
      ++ " and ".toList ++ right.quoted
  | repetition type => "can't multiply sequence by non-int of type ".toList ++ type.quoted
  | repetitionCount => "cannot fit 'int' into an index-sized integer".toList
  | repetitionLength => "repeated string is too long".toList
  | outOfMemory => []
  | notIterable type => type.quoted ++ " object is not iterable".toList
  | noMembers type => "argument of type ".toList ++ type.quoted ++ " is not iterable".toList
  | textMember type => "'in <string>' requires string as left operand, not ".toList ++ type
  | notSubscript type =>
    "list indices must be integers or slices, not ".toList ++ type
  | noKey type => "unhashable type: ".toList ++ type.quoted
  | noLength type => "object of type ".toList ++ type.quoted ++ " has no len()".toList
  | customCount => "Need exactly one value per custom uniform name.".toList
  | customName name =>
    "Custom uniform name ".toList ++ name.quoted ++ " is not an identifier.".toList
  | customNameType type =>
    "expected string or bytes-like object, got ".toList ++ type.quoted
  | keycode shown => "Keycode must be in [0, 256), got ".toList ++ shown
  | wideKey length =>
    "ord() expected a character, but string of length ".toList ++ Text.ofNat length
      ++ " found".toList
  | channel shown => "Channel ".toList ++ shown ++ " does not exist".toList
  | channelType type => "Channel data must be uint8, got ".toList ++ type
  | channelShape shape =>
    "Can't use data of shape ".toList ++ shapeText shape ++ " as channel texture".toList
  | storageIndex => "Only storage buffers 0 and 1 exist".toList
  | storageSize size limit =>
    "Can't write ".toList ++ Text.ofInt size ++ " bytes to a storage buffer of ".toList
      ++ Text.ofInt limit ++ " bytes".toList
  | ragged shape =>
    "setting an array element with a sequence. The requested array has an inhomogeneous shape after ".toList
      ++ Text.ofNat shape.length ++ " dimensions. The detected shape was ".toList
      ++ shapeText shape ++ " + inhomogeneous part.".toList
  | tooDeep axes =>
    "setting an array element with a sequence. The requested array would exceed the maximum number of dimension of ".toList
      ++ Text.ofNat axes ++ ['.']
  | usedPreprocessor => "A Preprocessor can only run once.".toList
  | pictureDepth depth format =>
    "cannot write mode ".toList ++ depth ++ " as ".toList ++ format
  | pictureKind message => message
  | noWriter format => format ++ " save handler not installed".toList
  | emptyPicture => "cannot write empty image".toList
  | noRoom message => message
  | wordOverflow highFirst =>
    (if highFirst then "'H'" else "ushort").toList
      ++ " format requires 0 <= number <= 65535".toList
  | elementOverflow value type signed =>
    if isWord signed value then
      "Python integer ".toList ++ Text.ofInt value ++ " out of bounds for ".toList ++ type
    else "Python int too large to convert to C long".toList
  | uniformOption item => "Expected NAME=VALUE, got ".toList ++ item.quoted
  | file defect path => fileMessage defect path
  | cacheDirectory path defect blocked =>
    "Failed to create cache directory at ".toList ++ path ++ ", due to ".toList
      ++ fileMessage defect blocked
  | undecodable malformed => malformed.message
  | nullInPath => "embedded null byte".toList
  | source message => message
  | breakdown message => message
  | notImage path => "cannot identify image file ".toList ++ path.quoted
  | negativeScreen => "all elements of `new_shape` must be non-negative".toList
  | unknownSides => "can only specify one unknown dimension".toList
  | unfillable _ height =>
    "cannot reshape array of size 0 into shape ".toList
      ++ (if height < 0 then "(0,4)" else "(0,newaxis,4)").toList
  | sides count => sidesMessage count
  | unknownExtension extension => "unknown file extension: ".toList ++ extension
  | escape message => message
  | shader report => report.summary
  | refused _ message => message

/-- The kind of a fault. -/
def family : Fault → Family
  | assertion => .assertion
  | elementType _ | noInteger _ | noNumber _ | operands .. | incomparable .. | repetition _
  | notIterable _ | notSubscript _ | noMembers _ | textMember _ | noLength _ | noKey _
  | customNameType _ | wideKey _ | channelType _ | sides _ => .type
  | elementRange _ | notInteger _ | notNumber _ | numeral _ | undefinedInteger | customCount
  | customName _ | keycode _ | channel _ | channelShape _ | storageIndex | storageSize ..
  | uniformOption _ | ragged _ | tooDeep _ | nullInPath | negativeScreen | unknownSides
  | unfillable .. | unknownExtension _
  | pictureKind _ | emptyPicture | escape _ => .value
  | listTooShort | tupleTooShort | arrayIndex .. => .index
  | unknownKey _ => .key
  | missingPart .. => .attribute
  | integerTooLarge | quotientTooLarge | infiniteInteger | elementOverflow .. | repetitionCount
  | repetitionLength => .overflow
  | outOfMemory | noRoom _ => .memory
  | wordOverflow _ => .packing
  | zeroDivision _ => .zeroDivision
  | file defect _ =>
    match defect with
    | .notFound => .fileNotFound
    | .exists => .fileExists
    | .notDirectory => .notDirectory
    | .isDirectory => .isDirectory
    | .nameTooLong => .system
  | cacheDirectory .. | source _ | pictureDepth .. | noWriter _ => .system
  | undecodable _ => .encoding
  | breakdown _ | usedPreprocessor => .runtime
  | notImage _ => .image
  | shader report => .shader report.kind
  | refused kind _ => .device kind

end Fault

end ShaderPlayer
