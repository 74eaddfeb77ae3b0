/-
Devices by rules.

A device can be described by rules for what it refuses: modules whose code, or
pipelines whose entry point holds a text.  The first rule that applies decides; its
message may name the line at which the text first stands in the code.
-/
import ShaderPlayer.Gpu.Device

namespace ShaderPlayer.Gpu

/-- A rule for what a device refuses. -/
structure Rule where
  /-- Whether the rule is about pipelines; otherwise it is about modules. -/
  onPipelines : Bool
  /-- The text to look for; without one the rule always applies. -/
  contains : Option Text
  kind : RefusalKind
  message : Text
  deriving DecidableEq, Repr

namespace Rule

/-- The number of the line in which a text first stands. -/
def lineOf (needle code : Text) : Nat :=
  match Text.cut needle code with
  | some (before, _) => before.count '\n' + 1
  | none => 0

/-- The refusal of a rule for a module's code. -/
def refusal (r : Rule) (code : Text) : Refusal :=
  let line := Text.ofNat (lineOf (r.contains.getD []) code)
  ⟨r.kind, Text.replace ('\x7b' :: "line".toList ++ ['\x7d']) line r.message⟩

/-- Whether a rule applies to a subject of its kind. -/
def applies (r : Rule) (onPipelines : Bool) (subject : Text) : Bool :=
  r.onPipelines == onPipelines && (r.contains.getD []).hasInfix subject

end Rule

/-- The device that refuses what the rules say. -/
def Device.withRules (d : Device) (rules : List Rule) : Device :=
  { d with
    refusesModule := fun m =>
      (rules.find? (·.applies false m.code)).map (·.refusal m.code)
    refusesPipeline := fun p =>
      (rules.find? (·.applies true p.entry)).map (·.refusal p.module.code) }

end ShaderPlayer.Gpu
