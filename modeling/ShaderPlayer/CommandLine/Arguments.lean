/-
Command line arguments.

The words of a command line are switches, which may be shortened as long as they are
clear and may have their value attached after an equals sign, and plain words: the
shader, and the values of the switches before them.  A word that looks like a negative
number or holds a space is plain.  After two dashes every word is plain; attached to a
switch as its value, they stand for no value at all.

Main statement: taking the plain words at the front leaves no more words than there
were (`length_takePlain`), by which reading ends.
-/
import ShaderPlayer.Value

namespace ShaderPlayer.CommandLine

/-! ### Switches -/

/-- The switches. -/
inductive Switch where
  | help
  | resolution
  | output
  | time
  | frames
  | channel0
  | channel1
  | uniform
  | passF32
  | watch
  deriving DecidableEq, Repr

/-- The spellings of the switches. -/
def spellings : List (Text × Switch) := [
  ("-h".toList, .help), ("--help".toList, .help), ("--resolution".toList, .resolution),
  ("--output".toList, .output), ("--time".toList, .time), ("--frames".toList, .frames),
  ("--channel0".toList, .channel0), ("--channel1".toList, .channel1),
  ("--uniform".toList, .uniform), ("--pass-f32".toList, .passF32), ("--watch".toList, .watch)]

/-- The spellings of one switch. -/
def Switch.spelled (s : Switch) : List Text :=
  (spellings.filter (·.2 = s)).map (·.1)

/-- A switch as messages name it. -/
def Switch.name (s : Switch) : Text := Text.join ['/'] s.spelled

/-- How many values a switch takes. -/
inductive Intake where
  | nothing
  | one
  | two
  | any
  deriving DecidableEq, Repr

/-- How many values each switch takes. -/
def Switch.intake : Switch → Intake
  | .help | .passF32 | .watch => .nothing
  | .output | .time | .frames | .channel0 | .channel1 => .one
  | .resolution => .two
  | .uniform => .any

/-! ### Errors -/

/-- What can be wrong with a command line. -/
inductive UsageError where
  | ambiguous (word : Text) (spellings : List Text)
  /-- A value attached to a switch that takes none. -/
  | ignored (s : Switch) (value : Text)
  | expectedOne (s : Switch)
  | expectedTwo (s : Switch)
  | notInteger (s : Switch) (value : Text)
  | notNumber (s : Switch) (value : Text)
  | noShader
  | unrecognized (words : List Text)
  /-- A custom uniform that is given wrongly. -/
  | uniform (fault : Fault)
  deriving DecidableEq, Repr

/-- The words for an error about a switch. -/
def UsageError.aboutSwitch (s : Switch) (words : Text) : Text :=
  "argument ".toList ++ s.name ++ ": ".toList ++ words

/-- The words for an error. -/
def UsageError.message : UsageError → Text
  | .ambiguous word spellings =>
    "ambiguous option: ".toList ++ word ++ " could match ".toList
      ++ Text.join [',', ' '] spellings
  | .ignored s value =>
    aboutSwitch s ("ignored explicit argument ".toList ++ value.quoted)
  | .expectedOne s => aboutSwitch s "expected one argument".toList
  | .expectedTwo s => aboutSwitch s "expected 2 arguments".toList
  | .notInteger s value => aboutSwitch s ("invalid int value: ".toList ++ value.quoted)
  | .notNumber s value => aboutSwitch s ("invalid float value: ".toList ++ value.quoted)
  | .noShader => "the following arguments are required: shader".toList
  | .unrecognized words => "unrecognized arguments: ".toList ++ Text.join [' '] words
  | .uniform fault => fault.message

/-- The program's name. -/
def programName : Text := "codeskew-toy".toList

/-- An error as the program tells it. -/
def UsageError.display (e : UsageError) : Text :=
  programName ++ ": error: ".toList ++ e.message

/-- Why reading a command line stops: help was asked for, or there is an error. -/
inductive Stop where
  | help
  | usage (error : UsageError)
  deriving DecidableEq, Repr

/-! ### Words -/

/-- A value attached to a switch, which is a single letter or spelled out. -/
structure Attached where
  toLetter : Bool
  value : Text
  deriving DecidableEq, Repr

/-- A word of a command line. -/
inductive Word where
  | plain (t : Text)
  | switch (s : Switch) (attached : Option Attached)
  /-- A word that looks like a switch and is none. -/
  | unknown (t : Text)
  /-- The two dashes before words that are all plain. -/
  | separator
  deriving DecidableEq, Repr

/-- Whether a text starts with two dashes, as spelled out switches do. -/
def isSpelledOut : Text → Bool
  | '-' :: '-' :: _ => true
  | _ => false

/-- The text before the first equals sign, and what is attached after it. -/
def splitEquals (t : Text) : Text × Option Attached :=
  match Text.cut ['='] t with
  | some (before, after) => (before, some ⟨!isSpelledOut before, after⟩)
  | none => (t, none)

/-- Whether every character is a decimal digit, and there is one. -/
def areDigits (t : Text) : Bool := !t.isEmpty && t.all fun c => (Text.digit? c).isSome

/-- The text without a line feed at its end. -/
def dropLineFeed (t : Text) : Text := if t.getLast? = some '\n' then t.dropLast else t

/-- Whether a word is a minus sign before digits, perhaps with a point. -/
def looksNegative (t : Text) : Bool :=
  match dropLineFeed t with
  | '-' :: rest =>
    areDigits rest ||
      match Text.cut ['.'] rest with
      | some (whole, places) => (whole.isEmpty || areDigits whole) && areDigits places
      | none => false
  | _ => false

/-- A word that is no switch as it stands. -/
def otherWord (t : Text) : Word :=
  if looksNegative t || t.contains ' ' then .plain t else .unknown t

/-- A word that starts with two dashes and may be the start of a switch. -/
def shortened (t : Text) : Except UsageError Word :=
  let (start, attached) := splitEquals t
  match spellings.filter fun (spelling, _) => Text.startsWith start spelling with
  | [] => .ok (otherWord t)
  | [(_, s)] => .ok (.switch s attached)
  | several => .error (.ambiguous t (several.map (·.1)))

/-- The word of a text that starts with a dash and is not a whole switch. -/
def dashed (t : Text) : Except UsageError Word :=
  match t with
  | '-' :: '-' :: _ => shortened t
  | '-' :: 'h' :: rest => .ok (.switch .help (some ⟨true, rest⟩))
  | _ => .ok (otherWord t)

/-- The word of a text. -/
def Word.ofText (t : Text) : Except UsageError Word :=
  if t.head? ≠ some '-' then .ok (.plain t)
  else match spellings.lookup t with
    | some s => .ok (.switch s none)
    | none =>
      if t.length = 1 then .ok (.plain t)
      else
        let (start, attached) := splitEquals t
        match attached.bind fun _ => spellings.lookup start with
        | some s => .ok (.switch s attached)
        | none => dashed t

/-- The words of texts. -/
def wordsOf : List Text → Except UsageError (List Word)
  | [] => .ok []
  | t :: rest =>
    if t = ['-', '-'] then .ok (.separator :: rest.map .plain)
    else do
      let word ← Word.ofText t
      return word :: (← wordsOf rest)

/-! ### Values -/

/-- The plain words at the front, at most so many, and the words after them. -/
def takePlain : Nat → List Word → List Text × List Word
  | limit + 1, .plain t :: rest =>
    let (taken, left) := takePlain limit rest
    (t :: taken, left)
  | _, words => ([], words)

theorem length_takePlain (limit : Nat) (words : List Word) :
    (takePlain limit words).2.length ≤ words.length := by
  fun_induction takePlain limit words with
  | case1 limit t rest taken left h ih =>
    simp only [h] at ih
    simp only [List.length_cons]
    omega
  | case2 => exact Nat.le_refl _

/-- What a text attached to the letter of the help switch leads to: its letters are
switches too. -/
def attachedHelp : Text → Stop
  | ['h'] => .help
  | 'h' :: rest => attachedHelp rest
  | value => .usage (.ignored .help value)

/-- The values of a switch that has one attached. -/
def attachedValues (s : Switch) (a : Attached) : Except Stop (List Text) :=
  match s.intake with
  | .one | .any => .ok (if a.value = ['-', '-'] then [] else [a.value])
  | .two => .error (.usage (.expectedTwo s))
  | .nothing =>
    if a.toLetter then .error (attachedHelp a.value)
    else .error (.usage (.ignored s a.value))

/-- The most words a switch takes of those that follow it. -/
def Intake.limit (i : Intake) (following : List Word) : Nat :=
  match i with
  | .nothing => 0
  | .one => 1
  | .two => 2
  | .any => following.length

/-- Checks that a switch has the values it needs. -/
def checkCount (s : Switch) (values : List Text) : Except Stop Unit :=
  match s.intake, values.length with
  | .one, 0 => .error (.usage (.expectedOne s))
  | .two, 0 | .two, 1 => .error (.usage (.expectedTwo s))
  | _, _ => .ok ()

/-! ### Arguments -/

/-- What is given to a switch that takes one value. -/
inductive Given (α : Type) where
  | value (a : α)
  | nothing
  deriving DecidableEq, Repr

/-- What the switches choose. -/
structure Choices where
  resolution : Int × Int := (800, 450)
  output : Option (Given Text) := none
  time : Given Double := .value (.zero false)
  frames : Given Int := .value 1
  channel0 : Option (Given Text) := none
  channel1 : Option (Given Text) := none
  uniforms : List Text := []
  wide : Bool := false
  watch : Bool := false
  deriving DecidableEq, Repr

/-- The arguments of a command line. -/
structure Arguments extends Choices where
  shader : Text
  deriving DecidableEq, Repr

/-- A value of a switch as an integer. -/
def integerOf (s : Switch) (t : Text) : Except Stop Int :=
  match t.readInteger with
  | .value n => .ok n
  | _ => .error (.usage (.notInteger s t))

/-- A value of a switch as a number. -/
def numberOf (s : Switch) (t : Text) : Except Stop Double :=
  match t.readDouble with
  | some x => .ok x
  | none => .error (.usage (.notNumber s t))

/-- What the values of a switch that takes one give. -/
def Given.ofValues {α : Type} (read : Text → Except Stop α) :
    List Text → Except Stop (Given α)
  | [] => .ok .nothing
  | t :: _ => (read t).map .value

/-- The choices after a switch with its values. -/
def Choices.choose (c : Choices) (s : Switch) (values : List Text) : Except Stop Choices :=
  match s, values with
  | .help, _ => .error .help
  | .resolution, [width, height] => do
    return { c with resolution := (← integerOf s width, ← integerOf s height) }
  | .output, given => do return { c with output := some (← Given.ofValues .ok given) }
  | .time, given => do return { c with time := ← Given.ofValues (numberOf s) given }
  | .frames, given => do return { c with frames := ← Given.ofValues (integerOf s) given }
  | .channel0, given => do return { c with channel0 := some (← Given.ofValues .ok given) }
  | .channel1, given => do return { c with channel1 := some (← Given.ofValues .ok given) }
  | .uniform, items => .ok { c with uniforms := items }
  | .passF32, _ => .ok { c with wide := true }
  | .watch, _ => .ok { c with watch := true }
  | _, _ => .ok c

/-! ### Reading -/

/-- What was read of a command line so far. -/
structure Reading where
  choices : Choices := {}
  shader : Option Text := none
  /-- The words that nothing takes. -/
  extras : List Text := []

/-- Leaves a word to nothing. -/
def Reading.leave (r : Reading) (t : Text) : Reading := { r with extras := r.extras ++ [t] }

/-- Takes a plain word as the shader, if that is not there yet. -/
def Reading.plain (r : Reading) (t : Text) : Reading :=
  if r.shader.isNone then { r with shader := some t } else r.leave t

/-- The words without the two dashes next to the shader, which they only set apart. -/
def dropSeparator : List Word → List Word
  | .separator :: rest => rest
  | words => words

theorem length_dropSeparator (words : List Word) :
    (dropSeparator words).length ≤ words.length := by
  unfold dropSeparator
  split <;> simp

/-- Reads words. -/
def Reading.words (r : Reading) (ws : List Word) : Except Stop Reading :=
  match ws with
  | [] => .ok r
  | .plain t :: rest =>
    have := length_dropSeparator rest
    -- two dashes right after the shader belong to it
    if r.shader.isNone then (r.plain t).words (dropSeparator rest)
    else (r.leave t).words rest
  | .separator :: rest =>
    if r.shader.isNone ∧ ¬ rest.isEmpty then r.words rest
    else (r.leave ['-', '-']).words rest
  | .unknown t :: rest => (r.leave t).words rest
  | .switch s (some attached) :: rest => do
    let choices ← r.choices.choose s (← attachedValues s attached)
    { r with choices }.words rest
  | .switch s none :: rest =>
    have := length_takePlain (s.intake.limit rest) rest
    do
      let values := (takePlain (s.intake.limit rest) rest).1
      checkCount s values
      let choices ← r.choices.choose s values
      { r with choices }.words (takePlain (s.intake.limit rest) rest).2
termination_by ws.length

/-- What has to hold at the end: the shader is there, and every word was taken. -/
def Reading.finish (r : Reading) : Except Stop Arguments :=
  match r.shader, r.extras with
  | none, _ => .error (.usage .noShader)
  | some shader, [] => .ok { r.choices with shader }
  | some _, extras => .error (.usage (.unrecognized extras))

/-- The arguments of a command line. -/
def Arguments.ofTexts (texts : List Text) : Except Stop Arguments :=
  match wordsOf texts with
  | .error error => .error (.usage error)
  | .ok words => do (← Reading.words {} words).finish

/-! ### Custom uniforms -/

/-- The name and the value of a custom uniform, which an equals sign separates. -/
def uniformOf (item : Text) : Except Fault (Text × Double) :=
  match Text.cut ['='] item with
  | none => .error (.uniformOption item)
  | some (name, value) => do return (name.trim, ← (Value.text value).toDouble)

/-- The custom uniforms of a command line. -/
def uniformsOf (items : List Text) : Except Fault (List (Text × Double)) :=
  items.mapM uniformOf

end ShaderPlayer.CommandLine
