/-
The notes about includes.

Looking an include up may note what a server did not deliver, and a run that asks for it
may note that this failed.  None of these notes is about an error:

* `keeps_fetch` — not those of a look-up, in whichever source;
* `mild_shader` — not those of a run, and the look-ups leave the notes made before it.
-/
import ShaderPlayer.Include.Source
import ShaderPlayer.Proofs.Effect
import ShaderPlayer.Proofs.Shader.Trace

namespace ShaderPlayer

/-- A note is not about an error. -/
def Note.Mild (n : Note) : Prop := n.level ≠ .error

namespace Outside

/-- No note is about an error. -/
def Mild (o : Outside) : Prop := ∀ n ∈ o.notes, n.Mild

theorem keeps_note {n : Note} (hn : n.Mild) : Keeps Mild (note n) := by
  refine keeps_modify fun o ho n' hn' => ?_
  rcases Array.mem_push.mp hn' with hn' | rfl
  · exact ho n' hn'
  · exact hn

/-! ### Files -/

theorem keeps_readText (path : Text) : Keeps Mild (readText path) :=
  keeps_bind keeps_get fun _ => keeps_ofExcept _

theorem keeps_write (path : Text) (bytes : Bytes) : Keeps Mild (write path bytes) := by
  refine keeps_get_bind fun o ho => ?_
  refine keeps_bind (keeps_ofExcept _) (fun files => keeps_bind (keeps_ofExcept _) fun place => ?_)
    o ho
  exact keeps_set ho

theorem keeps_makeDirectories (path : Text) : Keeps Mild (makeDirectories path) := by
  refine keeps_bind keeps_get fun o => ?_
  dsimp only
  refine keeps_bind (keeps_modify fun _ ho => ho) fun _ => ?_
  split
  · exact keeps_pure _
  · exact keeps_throw _

theorem keeps_setting (name : Text) : Keeps Mild (setting name) := by
  refine keeps_bind keeps_get fun o => ?_
  split
  · exact keeps_pure _
  · exact keeps_throw _

theorem keeps_cacheHome (platform : Text) : Keeps Mild (cacheHome platform) := by
  refine keeps_ite (keeps_setting _) (keeps_ite ?_ ?_)
  · exact keeps_bind (keeps_setting _) fun _ => keeps_pure _
  · refine keeps_bind keeps_get fun o => ?_
    split
    · exact keeps_pure _
    · exact keeps_bind (keeps_setting _) fun _ => keeps_pure _

theorem keeps_cacheDirectory (platform subdirectory : Text) :
    Keeps Mild (cacheDirectory platform subdirectory) := by
  refine keeps_bind (keeps_cacheHome _) fun home => ?_
  dsimp only
  refine keeps_bind (keeps_tryCatch ?_ fun fault => ?_) fun answer => ?_
  · exact keeps_bind (keeps_makeDirectories _) fun _ => keeps_pure _
  · split <;> exact keeps_bind (keeps_throw _) fun _ => keeps_pure _
  · cases answer <;> exact keeps_pure _

end Outside

namespace Include

open Outside (Mild)

/-! ### Servers -/

theorem keeps_cachePath (path : Text) : Keeps Mild (cachePath path) :=
  keeps_bind (Outside.keeps_cacheDirectory _ _) fun _ => keeps_pure _

theorem keeps_cached (path : Text) : Keeps Mild (cached? path) := by
  refine keeps_bind (keeps_cachePath path) fun place => keeps_bind keeps_get fun o => ?_
  exact keeps_ite (keeps_bind (Outside.keeps_readText _) fun _ => keeps_pure _) (keeps_pure _)

theorem keeps_request (address : Text) : Keeps Mild (Outside.request address) :=
  keeps_bind (keeps_modify fun _ ho => ho) fun _ => keeps_bind keeps_get fun _ => keeps_pure _

theorem keeps_download (base path : Text) : Keeps Mild (download base path) := by
  refine keeps_bind (keeps_request _) fun response => ?_
  have hwarning : ∀ message, Note.Mild ⟨.warning, message⟩ := fun _ h => by cases h
  split
  · exact keeps_pure _
  · exact keeps_bind (Outside.keeps_note (hwarning _)) fun _ => keeps_pure _
  · exact keeps_bind (Outside.keeps_note (hwarning _)) fun _ => keeps_pure _
  · exact keeps_throw _

theorem keeps_fetchCached (base path : Text) : Keeps Mild (fetchCached base path) := by
  refine keeps_bind (keeps_cached path) fun cached => ?_
  split
  · exact keeps_pure _
  · refine keeps_bind (keeps_download base path) fun downloaded => ?_
    split
    · exact keeps_pure _
    · exact keeps_bind (keeps_cachePath path) fun _ =>
        keeps_bind (Outside.keeps_write _ _) fun _ => keeps_pure _

/-! ### Sources -/

mutual

theorem Source.keeps_fetch (path : Text) (source : Source) : Keeps Mild (source.fetch path) := by
  cases source with
  | dictionary texts failing =>
    rw [Source.fetch]
    split
    · exact keeps_throw _
    · exact keeps_pure _
  | directories list =>
    rw [Source.fetch]
    refine keeps_bind keeps_get fun o => ?_
    split
    · exact keeps_pure _
    · exact keeps_bind (keeps_ofExcept _) fun _ => keeps_pure _
  | server base cached =>
    cases cached with
    | true => rw [Source.fetch]; exact keeps_fetchCached base path
    | false => rw [Source.fetch]; exact keeps_download base path
  | chain sources => rw [Source.fetch]; exact keeps_fetchFirst path sources

theorem keeps_fetchFirst (path : Text) (sources : List Source) :
    Keeps Mild (fetchFirst path sources) := by
  cases sources with
  | nil => rw [fetchFirst]; exact keeps_pure _
  | cons source sources =>
    rw [fetchFirst]
    refine keeps_bind (source.keeps_fetch path) fun fetched => ?_
    split
    · exact keeps_pure _
    · exact keeps_fetchFirst path sources

end

/-- What a source's resolver notes is not about errors, and what was noted before stays
as it was. -/
theorem mild_resolver (source : Source) (path : Text) (outside : Outside) :
    (∀ n ∈ (source.resolver.fetch path outside).2.1, n.Mild)
      ∧ (source.resolver.fetch path outside).2.2.notes = outside.notes := by
  have hkept := source.keeps_fetch path { outside with notes := #[] }
    (fun n hn => absurd hn (Array.not_mem_empty n))
  unfold Source.resolver EStateM.run
  dsimp only
  rcases hend : source.fetch path { outside with notes := #[] } with ⟨text, after⟩ | ⟨fault, after⟩
  · rw [hend] at hkept
    cases text <;> exact ⟨fun n hn => hkept n (Array.mem_toList_iff.mp hn), rfl⟩
  · rw [hend] at hkept
    exact ⟨fun n hn => hkept n (Array.mem_toList_iff.mp hn), rfl⟩

end Include

/-! ### Runs -/

namespace Shader

/-- The notes of a run are not about errors, and its look-ups left those from before. -/
def MildRun (before : Array Note) (run : Run Outside) : Prop :=
  (∀ n ∈ run.notes, n.Mild) ∧ run.world.notes = before

theorem mildRun_ask (source : Include.Source) {before : Array Note} {run : Run Outside}
    (path : Text) (h : MildRun before run) : MildRun before (run.ask source.resolver path).1 := by
  obtain ⟨hmild, hworld⟩ := Include.mild_resolver source path run.world
  obtain ⟨hnotes, hbefore⟩ := h
  have hall : ∀ n ∈ run.notes ++ (source.resolver.fetch path run.world).2.1.toArray, n.Mild := by
    intro n hn
    rcases Array.mem_append.mp hn with hn | hn
    · exact hnotes n hn
    · exact hmild n (List.mem_toArray.mp hn)
  unfold Run.ask
  rcases hfetch : source.resolver.fetch path run.world with ⟨_ | _ | message, notes, world⟩
  all_goals
    rw [hfetch] at hall hworld
    refine ⟨?_, hworld.trans hbefore⟩
  · exact hall
  · exact hall
  · intro n hn
    rcases Array.mem_push.mp hn with hn | rfl
    · exact hall n hn
    · intro h
      cases h

theorem mildRun_step (source : Include.Source) {before : Array Note} {a b : Run Outside}
    {deeds : List (Int × Deed)} (h : Step source.resolver a deeds b) (ha : MildRun before a) :
    MildRun before b := by
  cases h with
  | hoist => exact ha
  | emit => exact ha
  | library path =>
    unfold Run.noteLibrary
    split <;> exact ha
  | ask path => exact mildRun_ask source path ha
  | obey _ _ _ obeyed =>
    rw [frame_obey obeyed]
    exact ha

/-- A run of a shader makes no notes about errors. -/
theorem mild_shader (source : Include.Source) (defines : Entries Text) (outside : Outside)
    (text : Text) :
    MildRun outside.notes ((Run.start defines outside).shader source.resolver text).1 := by
  refine (steps_shader text _).keeps (mildRun_step source) ?_
  exact ⟨fun n hn => absurd hn (Array.not_mem_empty n), rfl⟩

end Shader

end ShaderPlayer
