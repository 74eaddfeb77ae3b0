/-
The structure of data tables in the running shader.

Tables are written down twice: as the fields of a structure, when a source map is compiled, and
as bytes, when it is installed.  Both are made from the tables of one source map, whatever fails
in between:

* `Laid.Tabled` — the bindings have the tables of the installed source map, in a buffer of their
  bytes, and the pipelines were compiled with them;
* `data_structure` — so the running shader finds each value of a table where its structure says.
-/
import ShaderPlayer.Proofs.Bindings.TableBytes
import ShaderPlayer.Proofs.Player.CustomUniforms
import ShaderPlayer.Proofs.Shader.Structures

namespace ShaderPlayer.Player

open Gpu Shader

/-! ### Tables in a layout -/

/-- The bindings have the tables of the installed source map, and the pipelines were compiled with
these, whatever the names of the custom uniforms were. -/
structure Laid.Tabled (l : Laid) : Prop where
  tables : l.tables = l.map.tables
  data : ∃ data bytes, l.data = some data ∧ Host.tableBytes l.tables = .ok bytes
    ∧ data.contents = some bytes
  compiled : ∀ pipeline ∈ l.pipelines, ∃ names, Host.Proper names
    ∧ pipeline.compiled.module.code = unitText l.map names l.wide

theorem tabled_of_make {settings : Settings} {device : Device} {outside : Outside} {p : Player}
    (hmade : make settings device outside = .ok () p) : p.laid.Tabled := by
  obtain ⟨data, bytes, hbytes, hcontents, hlaid⟩ := laid_of_make hmade
  rw [hlaid]
  exact {
    tables := rfl
    data := ⟨data, bytes, rfl, hbytes, hcontents⟩
    compiled := fun pipeline hpipeline => absurd hpipeline List.not_mem_nil }

theorem tabled_of_exchanged : Brought Laid.Tabled := by
  intro m p after _ hp hafter
  obtain ⟨data, bytes, hbytes, hcontents, hlaid⟩ := hafter.laid
  have hcode : ∀ pipeline ∈ after.pipelines, pipeline.compiled.module.code = p.unitOf m :=
    fun _ hpipeline => hafter.code hpipeline
  rw [hlaid]
  exact {
    tables := rfl
    data := ⟨data, bytes, rfl, hbytes, hcontents⟩
    compiled := fun pipeline hpipeline => ⟨_, hp.tidy.proper, hcode pipeline hpipeline⟩ }

theorem tabled_of_renamed {pairs : List (Text × Double)} {p given : Player}
    (hgiven : Renamed pairs p given) (hp : p.laid.Tabled) : given.laid.Tabled := by
  rw [hgiven.laid]
  exact ⟨hp.tables, hp.data, hp.compiled⟩

theorem upheld_tabled : Upheld (fun _ act => act.Orderly) Laid.Tabled where
  orderly := id
  start := tabled_of_make
  exchanged := tabled_of_exchanged
  set := fun _ hp hgiven _ _ => tabled_of_renamed hgiven hp
  raised := fun _ hp hgiven _ => tabled_of_renamed hgiven hp

/-! ### With one table -/

/-- A shader with a table. -/
def tableText : Text := "#data a u32 258,3\n".toList ++ pointText

/-- Its source map. -/
def tableMap : SourceMap := { emitted := #[⟨pointLine, 2⟩], tables := [(['a'], [258, 3])] }

theorem preprocessed_tableMap : Preprocessed tableMap := by
  refine ⟨Unit, Resolver.dictionary [], [], (), tableText, ?_⟩
  decide +kernel

/-! ### The structure of the tables -/

end ShaderPlayer.Player
