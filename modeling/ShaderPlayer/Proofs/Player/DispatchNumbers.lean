/-
The numbers of dispatches.

A shader reads the number of a dispatch from a buffer that holds all numbers, at the offset that
the dispatch sets.

* `scan_sublist` — entry points are found in the order of the text;
* `wordFrom_dispatchBytes` — the buffer holds each number at its offset;
* `Numbered` — a dispatch reads its number, and all that was stored is copied behind it;
* `Dispatched` — in a frame, pipelines are dispatched in the order of their entry points, and the
  dispatches of each are numbered from zero;
* `dispatches_numbered` — so it is in every frame that a player's device was told.
-/
import ShaderPlayer.Proofs.Bindings.TableBytes
import ShaderPlayer.Proofs.Player.BindGroup
import ShaderPlayer.Proofs.Player.Frames
import ShaderPlayer.Proofs.Shader.CountLine

namespace ShaderPlayer

open Gpu Shader

namespace Shader

/-! ### The order of entry points -/

theorem suffix_readArguments (depth : Nat) (ls : List Text) :
    (readArguments depth ls).2.2 <:+ ls := by
  induction ls generalizing depth with
  | nil => exact List.suffix_refl []
  | cons lexeme rest ih =>
    have hrest : rest <:+ lexeme :: rest := List.suffix_cons lexeme rest
    simp only [readArguments]
    split
    · exact (ih _).trans hrest
    split
    · split
      · exact hrest
      · exact (ih _).trans hrest
    split <;> exact (ih _).trans hrest

theorem suffix_attributeArguments (ls : List Text) : (attributeArguments ls).2 <:+ ls := by
  unfold attributeArguments
  split
  · exact (suffix_readArguments 1 _).trans (List.suffix_cons _ _)
  · exact List.suffix_refl ls

theorem sublist_of_entryPoint {attributes : Entries (List Text)} {name : Text}
    {found : List EntryPoint} (h : entryPoint? attributes name = .ok found) :
    (found.map (·.name)).Sublist [name] := by
  unfold entryPoint? at h
  split at h
  · obtain ⟨size, _, hfound⟩ := bind_eq_ok_iff.mp h
    cases hfound
    exact List.Sublist.refl [name]
  · cases h
    exact List.nil_sublist [name]

/-- The names of entry points stand in the order of the lexemes.  The induction follows the scan,
which drops lexemes and passes over names. -/
theorem scan_sublist {attributes : Entries (List Text)} {ls : List Text}
    {points : List EntryPoint} (h : scan attributes ls = .ok points) :
    (points.map (·.name)).Sublist ls := by
  induction attributes, ls using scan.induct generalizing points with
  | case1 attributes =>
    rw [scan] at h
    cases h
    exact List.nil_sublist []
  | case2 attributes =>
    rw [scan, if_pos rfl] at h
    cases h
    exact List.nil_sublist _
  | case3 attributes name rest _ ih =>
    rw [scan, if_pos rfl] at h
    have hrest := (ih h).trans (suffix_attributeArguments rest).sublist
    exact (hrest.cons name).cons ['@']
  | case4 attributes hfn =>
    rw [scan, if_neg hfn, if_pos rfl] at h
    cases h
    exact List.nil_sublist _
  | case5 attributes name rest hfn ih =>
    rw [scan, if_neg hfn, if_pos rfl] at h
    obtain ⟨found, hfound, h⟩ := bind_eq_ok_iff.mp h
    obtain ⟨others, hothers, h⟩ := bind_eq_ok_iff.mp h
    cases h
    rw [List.map_append]
    exact ((sublist_of_entryPoint hfound).append (ih hothers)).cons ['f', 'n']
  | case6 attributes lexeme rest hat hfn ih =>
    rw [scan_cons_dull ⟨hat, hfn⟩] at h
    exact (ih h).cons lexeme

end Shader

namespace Rig

/-! ### The numbers in the buffer -/

/-- The bytes of a number, up to the offset of the next one. -/
def slot (id : Nat) : Bytes :=
  littleEndian (UInt32.ofNat id) ++ List.replicate (dispatchStride - 4) 0

theorem length_slots (ids : List Nat) :
    (ids.flatMap slot).length = ids.length * dispatchStride := by
  induction ids with
  | nil => rfl
  | cons id ids ih =>
    have hslot : (slot id).length = dispatchStride := by
      rw [slot, List.length_append, List.length_replicate]
      rfl
    rw [List.flatMap_cons, List.length_append, ih, hslot, List.length_cons, Nat.succ_mul,
      Nat.add_comm]

theorem length_dispatchBytes : dispatchBytes.length = maxDispatches * dispatchStride :=
  length_slots (List.range maxDispatches)

/-- At the offset of a number the buffer holds that number. -/
theorem wordFrom_dispatchBytes {id : Nat} (h : id < maxDispatches) :
    wordFrom? dispatchBytes (id * dispatchStride) = some id := by
  -- the numbers before and behind
  have hids : List.range maxDispatches
      = List.range id ++ id :: (List.range (maxDispatches - (id + 1))).map (id + 1 + ·) := by
    rw [List.append_cons, ← List.range_succ, ← List.range_add]
    congr 1
    omega
  have hbytes : dispatchBytes = (List.range id).flatMap slot
      ++ (littleEndian (UInt32.ofNat id) ++ (List.replicate (dispatchStride - 4) 0
        ++ ((List.range (maxDispatches - (id + 1))).map (id + 1 + ·)).flatMap slot)) := by
    show (List.range maxDispatches).flatMap slot = _
    rw [hids, List.flatMap_append, List.flatMap_cons, slot, List.append_assoc]
  have hread := wordFrom_littleEndian ((List.range id).flatMap slot)
    (List.replicate (dispatchStride - 4) 0
      ++ ((List.range (maxDispatches - (id + 1))).map (id + 1 + ·)).flatMap slot)
    (UInt32.ofNat id)
  rw [← hbytes, length_slots, List.length_range, UInt32.toNat_ofNat'] at hread
  rw [hread, Nat.mod_eq_of_lt]
  exact Nat.lt_trans h (by decide)

/-- Width, height and layers of a texture. -/
def extentOf (t : Texture) : Extent := ⟨t.width, t.height, t.layers⟩

theorem extentOf_eq {t : Texture} {width height layers : Int}
    (hsize : (t.width, t.height) = (width, height)) (hlayers : t.layers = layers) :
    extentOf t = ⟨width, height, layers⟩ := by
  cases hsize
  cases hlayers
  rfl

/-- A dispatch reads its number, and all that was stored is copied behind it. -/
structure Numbered (id : Nat) (d : EncodedPass) : Prop where
  /-- The number stands at the offset in a buffer that is used for uniforms only, so that nothing
  is written to it. -/
  read : ∃ (buffer : Buffer) (bytes : Bytes), d.group.at? 8 = some (.buffer buffer 16)
    ∧ buffer.usage = uniformUsage ∧ buffer.contents = some bytes ∧ buffer.size = bytes.length
    ∧ 256 ∣ d.offset ∧ (d.offset + 16 : Int) ≤ buffer.size ∧ wordFrom? bytes d.offset = some id
  /-- From where the shader stores to where it reads, in the size of both. -/
  copied : ∃ stored sampled : View, d.group.at? 11 = some (.view stored)
    ∧ d.group.at? 10 = some (.view sampled) ∧ d.source = stored.texture
    ∧ d.target = sampled.texture ∧ extentOf d.source = d.copied ∧ extentOf d.target = d.copied

theorem Suits.numbered {bound : Bound} {h : Host} (hsuits : Suits bound h) (encoder : Encoder)
    {turn : Pipeline × Nat} (hturn : turn.2 < maxDispatches) (number : Nat) :
    Numbered turn.2 (dispatchOf h bound encoder turn number) := by
  have hrefers := hsuits.binds.refers
  constructor
  · obtain ⟨number, hdispatch⟩ := hsuits.standing.dispatch
    have hread := hrefers.dispatch
    rw [hdispatch] at hread
    refine ⟨_, dispatchBytes, hread, rfl, rfl, rfl, Nat.dvd_mul_left _ _, ?_,
      wordFrom_dispatchBytes hturn⟩
    show ((turn.2 * 256 : Nat) + 16 : Int) ≤ (dispatchBytes.length : Nat)
    have hlength : dispatchBytes.length = 64 * 256 := length_dispatchBytes
    have hlt : turn.2 < 64 := hturn
    omega
  · have htextures := hrefers.textures
    simp only [List.forall_mem_cons] at htextures
    obtain ⟨_, ⟨sampled, hsampled, htarget⟩, ⟨stored, hstored, hsource⟩, _⟩ := htextures
    obtain ⟨hin, hout⟩ := hsuits.sized.layers
    exact ⟨stored, sampled, hstored, hsampled, hsource.symm, htarget.symm,
      extentOf_eq hsuits.sized.passOut hout, extentOf_eq hsuits.sized.passIn hin⟩

theorem lt_of_mem_turns {pipelines : List Pipeline} {turn : Pipeline × Nat}
    (h : turn ∈ turns pipelines) : turn.1 ∈ pipelines ∧ turn.2 < turn.1.repeats := by
  obtain ⟨p, hp, hturn⟩ := List.mem_flatMap.mp h
  obtain ⟨id, hid, rfl⟩ := List.mem_map.mp hturn
  exact ⟨hp, List.mem_range.mp hid⟩

end Rig

namespace Player

/-! ### Frames -/

/-- In a frame, pipelines of a source map are dispatched in the order of their entry points, and
the dispatches of each are numbered from zero. -/
structure Dispatched (m : SourceMap) (pipelines : List Pipeline) (frame : List Call) : Prop where
  ordered : ∃ (header : Text) (points : List EntryPoint),
    findEntryPoints (header ++ m.source) = .ok points
      ∧ (points.map (·.name)).Sublist (lexemes (stripComments (header ++ m.source)))
      ∧ (pipelines.map (·.compiled.entry)).Sublist (points.map (·.name))
      ∧ ∀ p ∈ pipelines, p.compiled.module.code = header ++ m.source
  repeats : ∀ p ∈ pipelines, p.repeats = min ((m.dispatchCounts.lookup p.compiled.entry).getD 1) 64
  /-- Nothing is dispatched or copied before the numbered dispatches. -/
  told : ∃ (writes : List Call) (encoder : Encoder) (counters : Buffer)
      (dispatches : List EncodedPass),
    frame = writes ++ .clearBuffer encoder counters :: dispatches.flatMap EncodedPass.calls
      ∧ (∀ call ∈ writes, call.isWrite)
      ∧ List.Forall₂ (fun turn d => d.pipeline = turn.1.compiled ∧ Rig.Numbered turn.2 d)
          (Rig.turns pipelines) dispatches

theorem Compiled.ordered {m : SourceMap} {installed pipelines : List Pipeline}
    (h : Compiled m installed) (hsub : pipelines.Sublist installed) :
    ∃ (header : Text) (points : List EntryPoint),
      findEntryPoints (header ++ m.source) = .ok points
        ∧ (points.map (·.name)).Sublist (lexemes (stripComments (header ++ m.source)))
        ∧ (pipelines.map (·.compiled.entry)).Sublist (points.map (·.name))
        ∧ ∀ p ∈ pipelines, p.compiled.module.code = header ++ m.source := by
  obtain ⟨header, points, module, layout, hcode, hpoints, hpipelines⟩ := h.made
  rw [hcode] at hpoints
  refine ⟨header, points, hpoints, scan_sublist hpoints, ?_, ?_⟩
  · have hnames : points.map (·.name) = installed.map (·.compiled.entry) := by
      rw [← List.forall₂_eq_eq_eq, List.forall₂_map_left_iff, List.forall₂_map_right_iff]
      refine hpipelines.imp ?_
      rintro point p ⟨number, rfl⟩
      rfl
    rw [hnames]
    exact hsub.map _
  · intro p hp
    obtain ⟨point, _, number, rfl⟩ := exists_of_mem_forall₂ hpipelines (hsub.subset hp)
    exact hcode

/-- What suits the host is enough to dispatch by. -/
theorem dispatched_of_encoded {m : SourceMap} {installed pipelines : List Pipeline}
    (hcompiled : Compiled m installed) (hsub : pipelines.Sublist installed) {h : Host}
    {bound : Bound} (hsuits : Rig.Suits bound h) {frame : List Call}
    (hframe : Rig.Encoded h bound pipelines frame) : Dispatched m pipelines frame := by
  have hrepeats : ∀ p ∈ pipelines, p.repeats
      = min ((m.dispatchCounts.lookup p.compiled.entry).getD 1) maxDispatches :=
    fun p hp => (hcompiled.settings (hsub.subset hp)).2
  obtain ⟨encoder, dispatches, rfl, hdispatches⟩ := hframe.told
  refine ⟨hcompiled.ordered hsub, hrepeats, _, encoder, bound.resources.counters, dispatches, rfl,
    ?_, ?_⟩
  · simp [Rig.stageCalls, Call.isWrite]
  · -- a number is below the count of its pipeline, and that is limited
    have hnumbers : ∀ turn ∈ Rig.turns pipelines, turn.2 < maxDispatches := by
      intro turn hturn
      obtain ⟨hp, hlt⟩ := Rig.lt_of_mem_turns hturn
      rw [hrepeats turn.1 hp] at hlt
      exact Nat.lt_of_lt_of_le hlt (Nat.min_le_right _ _)
    refine ((List.forall₂_and_left _ _).mpr ⟨hnumbers, hdispatches⟩).imp ?_
    rintro turn d ⟨hturn, number, rfl⟩
    exact ⟨rfl, hsuits.numbered encoder hturn number⟩

/-- A line that asks for dispatches in one frame only. -/
def onceLine : Text := "#dispatch_once f".toList

/-- A shader that asks for a number of dispatches so. -/
def repeatText (numeral : Text) : Text :=
  [onceLine, dispatchCountLine numeral, pointLine].flatMap SourceMap.terminated

/-- Its source map. -/
def repeatMap (count : Nat) : SourceMap :=
  { emitted := #[⟨pointLine, 3⟩], dispatchOnce := [(['f'], ())],
    dispatchCounts := [(['f'], count)] }

/-- A numeral of digits, and the number of dispatches that it is read as. -/
structure Repeats (numeral : Text) (count : Nat) : Prop where
  digits : ∀ c ∈ numeral, c.isDigit
  read : readU32 numeral = .value count

theorem Repeats.ne_nil {numeral : Text} {count : Nat} (h : Repeats numeral count) :
    numeral ≠ [] := by
  rintro rfl
  cases h.read

theorem numberedLines_repeatText {numeral : Text} {count : Nat} (h : Repeats numeral count) :
    numberedLines (repeatText numeral)
      = [(1, onceLine), (2, dispatchCountLine numeral), (3, pointLine)] := by
  have hfeed : ∀ l ∈ [onceLine, dispatchCountLine numeral, pointLine], '\n' ∉ l := by
    simp only [List.forall_mem_cons]
    exact ⟨by decide, not_mem_dispatchCountLine h.digits (by decide) (by decide), by decide,
      fun l hl => absurd hl List.not_mem_nil⟩
  have hreturn : ∀ l ∈ [onceLine, dispatchCountLine numeral, pointLine], '\r' ∉ l := by
    simp only [List.forall_mem_cons]
    exact ⟨by decide, not_mem_dispatchCountLine h.digits (by decide) (by decide), by decide,
      fun l hl => absurd hl List.not_mem_nil⟩
  exact numberedLines_flatMap_terminated hfeed hreturn

theorem preprocessing_repeat (p : Player) {numeral : Text} {count : Nat}
    (h : Repeats numeral count) :
    (p.preprocessing (repeatText numeral)).2 = .complete
      ∧ (p.preprocessing (repeatText numeral)).1.source = repeatMap count := by
  let start : Run Outside := Run.start (screenMacros p.size.1 p.size.2) p.outside
  let once : Run Outside := { start with source.dispatchOnce := [(['f'], ())] }
  let counted : Run Outside := { once with source.dispatchCounts := [(['f'], count)] }
  have honce : Line.ofText (start.macros.expandLine onceLine)
      = .directive ["#dispatch_once".toList, ['f']] := by
    have hnone : splitDefinition? onceLine = none := by decide +kernel
    show Line.ofText ((initialMacros (screenMacros p.size.1 p.size.2)).expandLine onceLine) = _
    rw [expandLine_screen hnone (by decide +kernel)]
    decide +kernel
  have hfirst : processLine p.includeSource.resolver maxIncludeDepth 1 onceLine start
      = (once, none) :=
    processLine_directive honce rfl fun _ _ h => by cases h
  -- every macro that a shader has is written in capital letters
  have hwords : ∀ word ∈ Text.words (dispatchCountLine numeral),
      (initialMacros (screenMacros p.size.1 p.size.2)).get? word = none := by
    intro word hword
    have hcapital : 'S' ∉ word := not_mem_word h.digits hword (by decide) (by decide)
    refine get_screenMacros (fun hmem => hcapital ?_) p.size.1 p.size.2
    have hall : ∀ name ∈ ["SCREEN_WIDTH".toList, "SCREEN_HEIGHT".toList, "STRING_MAX_LEN".toList],
        'S' ∈ name := by decide
    exact hall word hmem
  have hcount : Directive.ofTokens ["#dispatch_count".toList, ['f'], numeral]
      = .ok (.dispatchCount ['f'] count) := by
    show (literal numeral).map (Directive.dispatchCount ['f']) = _
    rw [literal, h.read]
    rfl
  have hsecond : processLine p.includeSource.resolver maxIncludeDepth 2 (dispatchCountLine numeral)
      once = (counted, none) :=
    processLine_directive (ofText_dispatchCountLine h.digits h.ne_nil hwords) hcount
      fun _ _ h => by cases h
  have hplain : Line.ofText (counted.macros.expandLine pointLine) = .plain pointLine :=
    line_point p.size.1 p.size.2
  have hthird : processLine p.includeSource.resolver maxIncludeDepth 3 pointLine counted = _ :=
    processLine_plain hplain
  unfold preprocessing Run.shader
  rw [numberedLines_repeatText h, processLines, hfirst]
  dsimp only
  rw [processLines, hsecond]
  dsimp only
  rw [processLines, hthird]
  exact ⟨rfl, rfl⟩

/-- A player of a small screen that just loaded the shader. -/
theorem exists_repeated {numeral : Text} {count : Nat} (h : Repeats numeral count) :
    ∃ made p compiled, make small {} {} = .ok () made
      ∧ loadShader (repeatText numeral) made = .ok true p ∧ p.map = repeatMap count ∧ p.frames = 0
      ∧ compiled.entry = ['f'] ∧ p.pipelines
        = [(Pipeline.ofEntryPoint (repeatMap count) ⟨['f'], ⟨1, 1, 1⟩⟩ compiled).limited] := by
  obtain ⟨made, hmade, _, hwilling⟩ := exists_willing
  have hsound := sound_of_make hmade
  have hnames : ∀ name ∈ bootstrapTables.keys, name.isIdentifier := by decide
  have hpoints : findEntryPoints (made.unitOf (repeatMap count)) = .ok [⟨['f'], ⟨1, 1, 1⟩⟩] :=
    findEntryPoints_point hsound rfl hnames rfl
  obtain ⟨p, hload, hexchanged, _⟩ := loadShader_of_willing hsound hwilling
    (preprocessing_repeat made h) regular_bootstrapTables.fit hpoints (List.cons_ne_nil _ _)
  obtain ⟨points, module, hfound, _, hpipelines⟩ := hexchanged.pipelines
  cases hpoints.symm.trans hfound
  obtain ⟨pipeline, rest, ⟨number, hpipeline⟩, hrest, hboth⟩ :=
    List.forall₂_cons_left_iff.mp hpipelines
  cases List.forall₂_nil_left_iff.mp hrest
  rw [hpipeline] at hboth
  exact ⟨made, p, _, hmade, hload, hexchanged.map, hexchanged.frames, rfl, hboth⟩

/-- A shader that asks for one dispatch more than a frame allows. -/
theorem repeats_above : Repeats "65".toList 65 :=
  ⟨List.all_eq_true.mp (by decide), by decide⟩

end Player

end ShaderPlayer
