/-
Preprocessing a shader.

The lines of a shader are processed in order.  Each gets its macros substituted
and is then hoisted, emitted or obeyed; an include processes the lines of another
text in its place, at most `maxIncludeDepth` deep.  The first defect ends the
work and is reported at the line of the shader it came from.

What an include path stands for is asked of a `Resolver`, an arbitrary state
machine: nothing here depends on where texts come from.

Main statements: a directive that is refused changes nothing, by the type of
`Run.obey`; `processLines` over two lists of lines is one after the other
(`processLines_append`).
-/
import ShaderPlayer.Log
import ShaderPlayer.Shader.Directive
import ShaderPlayer.Shader.Macro
import ShaderPlayer.Text.Newline

namespace ShaderPlayer.Shader

/-! ### Resolvers -/

/-- What a resolver answers for a path. -/
inductive Fetched where
  | text (t : Text)
  | missing
  /-- The resolver failed, with a message. -/
  | failed (message : Text)
  deriving DecidableEq, Repr

/-- A source of include texts, with a state of its own.  Each answer comes with the
notes made on the way to it. -/
structure Resolver (σ : Type) where
  fetch : Text → σ → Fetched × List Note × σ

/-! ### The state of a run -/

/-- The state of preprocessing: what was made so far, and what was asked. -/
structure Run (σ : Type) where
  source : SourceMap := {}
  macros : MacroTable
  storageCount : Nat := 0
  assertCount : Nat := 0
  /-- Whether string literals are encoded. -/
  stringMode : Bool := false
  /-- The paths asked of the resolver. -/
  asked : Array Text := #[]
  notes : Array Note := #[]
  /-- The resolver's state. -/
  world : σ

/-- What stopped a run, and the line of the shader it happened at. -/
structure Located where
  stop : Stop
  line : Int
  deriving DecidableEq, Repr

/-- A run and what stopped it. -/
abbrev Halted (σ : Type) := Run σ × Option Located

namespace Run

variable {σ : Type}

/-- The declaration of a storage buffer. -/
def storageDeclaration (binding : Nat) (name type : Text) : Text :=
  "@group(0) @binding(".toList ++ Text.ofNat binding ++ ") var<storage,read_write> ".toList
    ++ name ++ ": ".toList ++ type ++ [';']

/-- The call that counts a failed assertion. -/
def assertCall (index : Nat) (predicate : Text) : Text :=
  "assert(".toList ++ Text.ofNat index ++ ", ".toList ++ predicate ++ ");".toList

/-- The run after a directive other than an include. -/
def obey (run : Run σ) (origin : Int) : Directive → Except Stop (Run σ)
  | .includeText .. => .ok run
  | .workgroupCount entry count =>
    .ok { run with source.workgroupCounts := run.source.workgroupCounts.put entry count }
  | .dispatchOnce entry =>
    .ok { run with source.dispatchOnce := run.source.dispatchOnce.put entry () }
  | .dispatchCount entry count =>
    .ok { run with source.dispatchCounts := run.source.dispatchCounts.put entry count }
  | .define name value =>
    match run.macros.define? name value with
    | some macros => .ok { run with macros }
    | none => .error (.defect (.redefined name))
  | .storage name type =>
    if run.storageCount < maxStorageBuffers then
      .ok { run with
        source := run.source.pushLine (storageDeclaration run.storageCount name type) origin
        storageCount := run.storageCount + 1 }
    else .error (.defect .storageLimit)
  | .assertion predicate =>
    if run.assertCount < maxAssertions then
      let source := run.source.pushLine (assertCall run.assertCount predicate) origin
      .ok { run with
        source := { source with assertLines := source.assertLines.push origin }
        assertCount := run.assertCount + 1 }
    else .error (.defect .assertLimit)
  | .data name values =>
    .ok { run with source := run.source.pushData name (values.map Int.ofNat) }

/-- The run after a plain line, or what stopped it. -/
def emit (run : Run σ) (origin : Int) (line : Text) : Halted σ :=
  match if run.stringMode then encodeStrings line else some line with
  | some line => ({ run with source := run.source.pushLine line origin }, none)
  | none => (run, some ⟨.defect .stringTooLong, origin⟩)

/-- The run after an include's path is known: the string library turns string
literals on. -/
def noteLibrary (run : Run σ) (path : IncludePath) : Run σ :=
  if path = .library "string".toList then { run with stringMode := true } else run

/-- The note about a resolver that failed. -/
def failureNote (path message : Text) : Note :=
  ⟨.warning, "Failed to resolve include ".toList ++ path ++ ": ".toList ++ message⟩

/-- Asks the resolver for an include. -/
def ask (resolver : Resolver σ) (path : Text) (run : Run σ) : Run σ × Option Text :=
  let (answer, notes, world) := resolver.fetch path run.world
  let run := { run with
    asked := run.asked.push path, notes := run.notes ++ notes.toArray, world }
  match answer with
  | .text t => (run, some t)
  | .missing => (run, none)
  | .failed message => ({ run with notes := run.notes.push (failureNote path message) }, none)

end Run

/-! ### Processing -/

variable {σ : Type}

/-- Processes lines in order until one stops. -/
def processLines (step : Int → Text → Run σ → Halted σ) :
    List (Int × Text) → Run σ → Halted σ
  | [], run => (run, none)
  | (origin, line) :: rest, run =>
    match step origin line run with
    | (run', none) => processLines step rest run'
    | (run', some stop) => (run', some stop)

/-- The state after a step at a line: a step that stops leaves the state. -/
def settle (run : Run σ) (line : Int) : Except Stop (Run σ) → Halted σ
  | .ok run' => (run', none)
  | .error stop => (run, some ⟨stop, line⟩)

/-- Processes a line of the input, where includes may nest `budget` deep.  The lines
of an include count as the line of its directive. -/
def processLine (resolver : Resolver σ) (budget : Nat) (origin : Int) (line : Text)
    (run : Run σ) : Halted σ :=
  match Line.ofText (run.macros.expandLine line) with
  | .extension text => ({ run with source := run.source.pushExtension text }, none)
  | .plain text => run.emit origin text
  | .directive tokens =>
    match Directive.ofTokens tokens with
    | .error stop => (run, some ⟨stop, origin⟩)
    | .ok (.includeText path argument) =>
      -- the string library counts as included before it is found
      let run := run.noteLibrary path
      match budget with
      | 0 => (run, some ⟨.defect .depthLimit, origin⟩)
      | budget + 1 =>
        match run.ask resolver path.request with
        | (run, none) => (run, some ⟨.defect (.includeMissing argument), origin⟩)
        | (run, some text) =>
          -- the lines inside count as the line of the directive
          processLines (fun o l r => processLine resolver budget o l r)
            (text.lines.map fun l => (origin, l)) run
    | .ok directive => settle run origin (run.obey origin directive)

theorem processLines_append (step : Int → Text → Run σ → Halted σ)
    (first second : List (Int × Text)) (run : Run σ) :
    processLines step (first ++ second) run =
      match processLines step first run with
      | (run', none) => processLines step second run'
      | (run', some stop) => (run', some stop) := by
  induction first generalizing run with
  | nil => rfl
  | cons head rest ih =>
    obtain ⟨origin, line⟩ := head
    simp only [List.cons_append, processLines]
    split
    · exact ih _
    · rfl

/-- The lines of a shader with their numbers, counted from one. -/
def numberedLines (shader : Text) : List (Int × Text) :=
  shader.lines.zipIdx.map fun (line, index) => (index + 1, line)

/-! ### A preprocessor -/

/-- The macros every shader has besides the given ones. -/
def initialMacros (defines : Entries Text) : MacroTable :=
  (⟨defines⟩ : MacroTable).put "STRING_MAX_LEN".toList (Text.ofNat maxStringLength)

/-- The state before the first line. -/
def Run.start (defines : Entries Text) (world : σ) : Run σ :=
  { macros := initialMacros defines, world }

/-- How a run ended. -/
inductive Ending where
  | complete
  /-- A defect, as it was reported to the error sink. -/
  | reported (report : Report)
  /-- A numeral that is not read; the caller learns of it, not the sink. -/
  | numeral (digits : Nat)
  /-- The preprocessor had run before. -/
  | used
  deriving DecidableEq, Repr

/-- Preprocesses a shader from a given state. -/
def Run.shader (resolver : Resolver σ) (text : Text) (run : Run σ) : Run σ × Ending :=
  match processLines (processLine resolver maxIncludeDepth) (numberedLines text) run with
  | (run, none) => (run, .complete)
  | (run, some ⟨.defect cause, line⟩) => (run, .reported (cause.report line))
  | (run, some ⟨.numeral digits, _⟩) => (run, .numeral digits)

/-- A preprocessor: the state of its run, whether it has run, and what it reported. -/
structure Preprocessor (σ : Type) where
  run : Run σ
  used : Bool := false
  reports : Array Report := #[]

/-- Preprocesses a shader, which a preprocessor does once. -/
def Preprocessor.shader (p : Preprocessor σ) (resolver : Resolver σ) (text : Text) :
    Preprocessor σ × Ending :=
  if p.used then (p, .used)
  else
    let (run, ending) := p.run.shader resolver text
    let reports := match ending with
      | .reported report => p.reports.push report
      | _ => p.reports
    ({ run, used := true, reports }, ending)

end ShaderPlayer.Shader
