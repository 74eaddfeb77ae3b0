/-
Literals of the preprocessor.

Integer literals of directives (`readU32`): decimal or hexadecimal digits with an
optional `u`, below 2^32.  String literals of shader lines: a body between double
quotes, whose escape sequences `unescape` decodes and `encodeString` writes as a
constructor call of the shader's `String` structure.

Main statements: what `readU32` accepts is below 2^32 (`lt_of_readU32`), and a
string constructor call has at least `maxStringLength` numbers
(`length_stringCodes`).
-/
import ShaderPlayer.Number.Reader

namespace ShaderPlayer.Shader

/-! ### Integers -/

/-- What reading an integer literal gives. -/
inductive U32Reading where
  | value (n : Nat)
  | malformed
  /-- A decimal numeral beyond the length that is read at all. -/
  | tooLong (digits : Nat)
  deriving DecidableEq, Repr

/-- The text without one `u` at its end. -/
def dropSuffix (t : Text) : Text :=
  if t.getLast? = some 'u' then t.dropLast else t

/-- The value of a literal, unless it needs more than 32 bits. -/
def U32Reading.ofNat (n : Nat) : U32Reading := if n < 0x100000000 then .value n else .malformed

/-- Reads a literal whose suffix is gone. -/
def readDigits : Text → U32Reading
  | '0' :: x :: digits =>
    if x = 'x' ∨ x = 'X' then
      match digits.mapM Text.hexDigit? with
      | some (d :: ds) => .ofNat (Text.positional 16 (d :: ds))
      | _ => .malformed
    else readDecimal ('0' :: x :: digits)
  | digits => readDecimal digits
where
  /-- Reads a literal of decimal digits. -/
  readDecimal (digits : Text) : U32Reading :=
    if digits.isEmpty || !digits.all Char.isDigit then .malformed
    else if maxDigits < digits.length then .tooLong digits.length
    else .ofNat (Text.decimalValue digits)

/-- Reads an integer literal with blanks around it. -/
def readU32 (t : Text) : U32Reading := readDigits (dropSuffix (Text.trim t))

theorem lt_of_ofNat {m n : Nat} (h : U32Reading.ofNat m = .value n) : n < 0x100000000 := by
  unfold U32Reading.ofNat at h
  split at h
  · cases h
    assumption
  · cases h

theorem lt_of_readDecimal {t : Text} {n : Nat} (h : readDigits.readDecimal t = .value n) :
    n < 0x100000000 := by
  unfold readDigits.readDecimal at h
  split at h
  · cases h
  · split at h
    · cases h
    · exact lt_of_ofNat h

theorem lt_of_readU32 {t : Text} {n : Nat} (h : readU32 t = .value n) : n < 0x100000000 := by
  unfold readU32 at h
  generalize dropSuffix (Text.trim t) = s at h
  unfold readDigits at h
  split at h
  · split at h
    · split at h
      · exact lt_of_ofNat h
      · cases h
    · exact lt_of_readDecimal h
  · exact lt_of_readDecimal h

/-! ### Strings -/

/-- The length of the shader's strings. -/
def maxStringLength : Nat := 20

/-- Why a string body cannot be decoded. -/
inductive EscapeDefect where
  /-- A backslash before a character that makes no escape sequence with it. -/
  | unknown (c : Char)
  /-- A number that is no code point. -/
  | outOfRange
  deriving DecidableEq, Repr

/-- The words for a defect. -/
def EscapeDefect.message : EscapeDefect → Text
  | .unknown c => "Unknown escape sequence \\".toList ++ [c]
  | .outOfRange => "chr() arg not in range(0x110000)".toList

/-- The code point of a one-character escape sequence. -/
def simpleEscape? : Char → Option Nat
  | 'n' => some 10
  | 'r' => some 13
  | 't' => some 9
  | '0' => some 0
  | '\\' => some 92
  | '"' => some 34
  | '\'' => some 39
  | _ => none

/-- The digits of an escape sequence in braces, read after its `u`, and what
follows the closing brace. -/
def bracedDigits? : Text → Option (List Nat × Text)
  | '\x7b' :: rest =>
    let digits := rest.takeWhile fun c => (Text.hexDigit? c).isSome
    match rest.drop digits.length with
    | '\x7d' :: after =>
      if 1 ≤ digits.length ∧ digits.length ≤ 6 then
        some (digits.filterMap Text.hexDigit?, after)
      else none
    | _ => none
  | _ => none

theorem length_of_bracedDigits {t after : Text} {ds : List Nat}
    (h : bracedDigits? t = some (ds, after)) : after.length < t.length := by
  unfold bracedDigits? at h
  split at h
  · next rest =>
    dsimp only at h
    split at h
    · next after' hd =>
      split at h
      · simp only [Option.some.injEq, Prod.mk.injEq] at h
        obtain ⟨_, rfl⟩ := h
        have := congrArg List.length hd
        simp only [List.length_drop, List.length_cons] at this ⊢
        omega
      · simp at h
    · simp at h
  · simp at h

/-- The code points of a string body; a backslash at its end stands for itself. -/
def unescape : Text → Except EscapeDefect (List Nat)
  | [] => .ok []
  | ['\\'] => .ok [92]
  | '\\' :: c :: rest =>
    match _h : if c = 'u' then bracedDigits? rest else none with
    | some (digits, after) =>
      if Text.positional 16 digits < 0x110000 then
        (unescape after).map (Text.positional 16 digits :: ·)
      else .error .outOfRange
    | none =>
      match simpleEscape? c with
      | some code => (unescape rest).map (code :: ·)
      | none => .error (.unknown c)
  | c :: rest => (unescape rest).map (c.toNat :: ·)
termination_by t => t.length
decreasing_by
  · split at _h
    · have := length_of_bracedDigits _h
      simp only [List.length_cons]
      omega
    · simp at _h
  · simp only [List.length_cons]
    omega
  · simp

/-- The numbers of a string constructor call: the code points, filled up with
zeros. -/
def stringCodes (codes : List Nat) : List Nat :=
  codes ++ List.replicate (maxStringLength - codes.length) 0

theorem length_stringCodes (codes : List Nat) :
    (stringCodes codes).length = max maxStringLength codes.length := by
  simp only [stringCodes, List.length_append, List.length_replicate]
  omega

/-- A code point as a hexadecimal literal of at least two digits. -/
def codeLiteral (n : Nat) : Text := '0' :: 'x' :: Text.ofHex 2 n

/-- The constructor call of the shader's string with the given code points. -/
def encodeString (codes : List Nat) : Text :=
  "String(".toList ++ Text.ofNat codes.length ++ ", array<uint,".toList
    ++ Text.ofNat maxStringLength ++ ">(".toList
    ++ Text.join [','] ((stringCodes codes).map codeLiteral) ++ "))".toList

/-- A string literal at the start of a text: its body, and what follows the closing
quote.  A backslash takes the next character of its line into the body. -/
def takeBody : Text → Option (Text × Text)
  | [] => none
  | '"' :: rest => some ([], rest)
  | '\\' :: c :: rest =>
    if c = '\n' then none
    else (takeBody rest).map fun (body, after) => ('\\' :: c :: body, after)
  | '\\' :: [] => none
  | c :: rest => (takeBody rest).map fun (body, after) => (c :: body, after)

theorem length_of_takeBody {t body after : Text} (h : takeBody t = some (body, after)) :
    after.length < t.length := by
  fun_induction takeBody t generalizing body with
  | case1 => simp at h
  | case2 rest =>
    simp only [Option.some.injEq, Prod.mk.injEq] at h
    simp [h.2]
  | case3 => simp at h
  | case4 c rest _ ih =>
    simp only [Option.map_eq_some_iff, Prod.mk.injEq, Prod.exists] at h
    obtain ⟨b, a, hba, _, rfl⟩ := h
    have := ih hba
    simp only [List.length_cons]
    omega
  | case5 => simp at h
  | case6 c rest _ _ _ ih =>
    simp only [Option.map_eq_some_iff, Prod.mk.injEq, Prod.exists] at h
    obtain ⟨b, a, hba, _, rfl⟩ := h
    have := ih hba
    simp only [List.length_cons]
    omega

/-- The body of the first string literal in a text. -/
def firstBody? : Text → Option Text
  | [] => none
  | '"' :: rest =>
    match takeBody rest with
    | some (body, _) => some body
    | none => firstBody? rest
  | _ :: rest => firstBody? rest

/-- The line with every string literal that can be decoded replaced by a
constructor call; nothing if one of them is too long. -/
def encodeStrings : Text → Option Text
  | [] => some []
  | '"' :: rest =>
    match _h : takeBody rest with
    | some (body, after) =>
      match unescape body with
      | .ok codes =>
        if codes.length ≤ maxStringLength then
          (encodeStrings after).map (encodeString codes ++ ·)
        else none
      -- what cannot be decoded is left for the device to judge
      | .error _ => (encodeStrings after).map ('"' :: body ++ '"' :: ·)
    -- a quote that nothing closes is an ordinary character
    | none => (encodeStrings rest).map ('"' :: ·)
  | c :: rest => (encodeStrings rest).map (c :: ·)
termination_by t => t.length
decreasing_by
  · have := length_of_takeBody _h
    simp only [List.length_cons]
    omega
  · have := length_of_takeBody _h
    simp only [List.length_cons]
    omega
  · simp
  · simp

end ShaderPlayer.Shader
