/-
Compute pipelines.

A pipeline is a compiled entry point with its dispatch settings.  A source map is
compiled as one unit, prelude and source together; every entry point in the unit
becomes a pipeline, in the order of the text.  What the device says about the unit
is reported at the line of the shader that the place it names came from.

Main statement: a limited pipeline is dispatched at most `maxDispatches` times
(`repeats_limited_le`).
-/
import ShaderPlayer.Bindings.Rig
import ShaderPlayer.Log
import ShaderPlayer.Shader.EntryPoint
import ShaderPlayer.Shader.Location

namespace ShaderPlayer

open Gpu Shader

/-- A compiled entry point with its dispatch settings. -/
structure Pipeline where
  name : Text
  compiled : ComputePipeline
  /-- The size of a workgroup. -/
  size : Extent
  /-- The number of workgroups, if the shader fixes it. -/
  count : Option Extent
  /-- Whether it is dispatched in the first frame only. -/
  once : Bool
  /-- How often it is dispatched in a frame. -/
  repeats : Nat
  deriving DecidableEq, Repr

namespace Pipeline

/-- The pipeline of an entry point with the settings of a source map. -/
def ofEntryPoint (m : SourceMap) (point : EntryPoint) (compiled : ComputePipeline) :
    Pipeline where
  name := point.name
  compiled := compiled
  size := point.size
  count := m.workgroupCounts.lookup point.name
  once := (m.dispatchOnce.lookup point.name).isSome
  repeats := (m.dispatchCounts.lookup point.name).getD 1

/-- The workgroups that a screen needs. -/
def workgroups (p : Pipeline) (width height : Int) : Extent :=
  workgroupsFor p.size p.count width height

/-- The pipeline, dispatched no more often than a frame allows. -/
def limited (p : Pipeline) : Pipeline := { p with repeats := min p.repeats maxDispatches }

/-- The note about a pipeline that is dispatched more often than that. -/
def limitNote? (p : Pipeline) : Option Note :=
  if maxDispatches < p.repeats then
    some ⟨.warning, "Dispatch count of ".toList ++ p.name ++ " is limited to ".toList
      ++ Text.ofNat maxDispatches⟩
  else none

theorem repeats_limited_le (p : Pipeline) : p.limited.repeats ≤ maxDispatches :=
  Nat.min_le_right ..

theorem limited_of_le {p : Pipeline} (h : p.repeats ≤ maxDispatches) : p.limited = p := by
  simp [limited, Nat.min_eq_left h]

end Pipeline

/-! ### Compiling -/

/-- A device together with the notes made while compiling on it. -/
structure Workbench where
  gpu : Gpu.State
  notes : Array Note := #[]

namespace Workbench

/-- An operation on a workbench; what it did before a fault stays. -/
abbrev Op (α : Type) := EStateM Fault Workbench α

/-- Makes a note. -/
def note (n : Note) : Op Unit := modify fun w => { w with notes := w.notes.push n }

/-- An operation on the device, its faults seen through a function. -/
def onDevice {α : Type} (see : Fault → Fault) (op : Gpu.Op α) : Op α := fun w =>
  match op w.gpu with
  | .ok a gpu => .ok a { w with gpu }
  | .error fault gpu => .error (see fault) { w with gpu }

/-- A fault while compiling a source map that `offset` lines precede: a verdict of
the device becomes an error of the shader, at the line its message names. -/
def seenFrom (m : SourceMap) (offset : Int) : Fault → Fault
  | .refused kind message =>
    if kind.isVerdict then
      let message := message.trim
      match namedLine message with
      | .ok none => .shader ((Cause.refused message).report 0)
      | .ok (some line) => .shader ((Cause.refused message).report (m.mapLine line offset))
      | .error digits => .numeral digits
    else .refused kind message
  | fault => fault

/-- Makes the pipelines of entry points in a module. -/
def makePipelines (m : SourceMap) (layout : Option PipelineLayout) (module : ShaderModule) :
    List EntryPoint → Gpu.Op (List Pipeline)
  | [] => pure []
  | point :: points => do
    let compiled ← createComputePipeline layout module point.name
    return Pipeline.ofEntryPoint m point compiled :: (← makePipelines m layout module points)

/-- Makes the module of a unit and its pipelines. -/
def makeAll (m : SourceMap) (layout : Option PipelineLayout) (unit : Text)
    (points : List EntryPoint) : Gpu.Op (List Pipeline) := do
  let module ← createShaderModule "codeskew".toList unit
  makePipelines m layout module points

/-- The note about a unit without entry points. -/
def noEntryPoints : Note := ⟨.warning, "Shader has no compute entry points.".toList⟩

/-- The note about compiled pipelines.  Compiling takes no time on a host's clock. -/
def compiledNote (count : Nat) : Note :=
  ⟨.info, "Compiled ".toList ++ Text.ofNat count ++ " compute pipelines in 0.000s".toList⟩

/-- Compiles a source map for the bindings of a host. -/
def compile (h : Host) (layout : Option PipelineLayout) (m : SourceMap) :
    Op (List Pipeline) := do
  let header := Shader.header m h.customNames h.wide
  let unit := header ++ m.source
  match findEntryPoints unit with
  | .error digits => throw (.numeral digits)
  | .ok points =>
    if points.isEmpty then note noEntryPoints
    let pipelines ←
      onDevice (seenFrom m (header.count '\n')) (makeAll m layout unit points)
    note (compiledNote pipelines.length)
    return pipelines

end Workbench

end ShaderPlayer
