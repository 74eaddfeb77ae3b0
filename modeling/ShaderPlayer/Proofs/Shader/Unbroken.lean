/-
No line that a run makes is broken.

Lines are counted where the texts are put together, so no text that stands for one
line may hold a line feed:

* `newline_not_mem_expandLine` — the values of macros bring none into a line;
* `newline_not_mem_encodeStrings` — neither does the encoding of strings;
* `unbroken_step` — so no step of a run makes a broken line, nor a macro or the name
  of a table that could break one later;
* `unbroken_shader` — nor does preprocessing.
-/
import ShaderPlayer.Proofs.Shader.Reading
import ShaderPlayer.Proofs.Shader.Trace

namespace ShaderPlayer.Shader

/-! ### Comments -/

theorem mem_of_mem_afterBlockEnd {t rest : Text} (h : afterBlockEnd t = some rest) {c : Char}
    (hc : c ∈ rest) : c ∈ t := by
  fun_induction afterBlockEnd t with
  | case1 => cases h
  | case2 rest' =>
    cases h
    exact List.mem_cons_of_mem _ (List.mem_cons_of_mem _ hc)
  | case3 d rest' _ ih => exact List.mem_cons_of_mem _ (ih h)

theorem mem_of_mem_stripComments {t : Text} {c : Char} (h : c ∈ stripComments t) : c ∈ t := by
  fun_induction stripComments t with
  | case1 => exact h
  | case2 rest ih =>
    exact List.mem_cons_of_mem _ (List.mem_cons_of_mem _ (List.dropWhile_subset _ (ih h)))
  | case3 rest after hafter ih =>
    have hrest : c ∈ rest := mem_of_mem_afterBlockEnd hafter (ih h)
    exact List.mem_cons_of_mem _ (List.mem_cons_of_mem _ hrest)
  | case4 rest _ ih =>
    rcases List.mem_cons.mp h with rfl | h
    · exact List.mem_cons_self
    · exact List.mem_cons_of_mem _ (ih h)
  | case5 d rest _ _ ih =>
    rcases List.mem_cons.mp h with rfl | h
    · exact List.mem_cons_self
    · exact List.mem_cons_of_mem _ (ih h)

/-! ### Strings -/

theorem mem_of_takeBody {t body after : Text} (h : takeBody t = some (body, after)) {c : Char}
    (hc : c ∈ body ∨ c ∈ after) : c ∈ t := by
  fun_induction takeBody t generalizing body with
  | case1 => cases h
  | case2 rest =>
    cases h
    rcases hc with hc | hc
    · exact absurd hc List.not_mem_nil
    · exact List.mem_cons_of_mem _ hc
  | case3 => cases h
  | case4 d rest _ ih =>
    obtain ⟨⟨b, a⟩, hba, heq⟩ := Option.map_eq_some_iff.mp h
    cases heq
    rcases hc with hc | hc
    · rcases List.mem_cons.mp hc with rfl | hc
      · exact List.mem_cons_self
      rcases List.mem_cons.mp hc with rfl | hc
      · exact List.mem_cons_of_mem _ List.mem_cons_self
      · exact List.mem_cons_of_mem _ (List.mem_cons_of_mem _ (ih hba (.inl hc)))
    · exact List.mem_cons_of_mem _ (List.mem_cons_of_mem _ (ih hba (.inr hc)))
  | case5 => cases h
  | case6 d rest _ _ _ ih =>
    obtain ⟨⟨b, a⟩, hba, heq⟩ := Option.map_eq_some_iff.mp h
    cases heq
    rcases hc with hc | hc
    · rcases List.mem_cons.mp hc with rfl | hc
      · exact List.mem_cons_self
      · exact List.mem_cons_of_mem _ (ih hba (.inl hc))
    · exact List.mem_cons_of_mem _ (ih hba (.inr hc))

/-- The numeral of a code point has digits only, behind its prefix. -/
theorem not_mem_codeLiteral {c : Char} (hhead : c ∉ "0x".toList) (hdigit : ∀ d, Nat.digitChar d ≠ c)
    (n : Nat) : c ∉ codeLiteral n := by
  have hdigits : c ∉ Nat.toDigits 16 n := Text.not_mem_toDigits (by decide) hdigit n
  have hzero : c ≠ '0' := fun h => hhead (by rw [h]; exact List.mem_cons_self)
  have hx : c ≠ 'x' := fun h => hhead (by rw [h]; exact List.mem_cons_of_mem _ List.mem_cons_self)
  simp [codeLiteral, Text.ofHex, Text.padLeft, hdigits, hzero, hx]

theorem newline_not_mem_encodeString (codes : List Nat) : '\n' ∉ encodeString codes := by
  have hcodes : '\n' ∉ Text.join [','] ((stringCodes codes).map codeLiteral) := by
    intro h
    rcases Text.mem_join h with h | ⟨piece, hpiece, h⟩
    · exact absurd h (by decide)
    · obtain ⟨n, _, rfl⟩ := List.mem_map.mp hpiece
      exact not_mem_codeLiteral (by decide) Text.digitChar_ne_newline n h
  unfold encodeString
  simp only [List.mem_append, not_or]
  refine ⟨⟨⟨⟨⟨⟨?_, ?_⟩, ?_⟩, ?_⟩, ?_⟩, ?_⟩, ?_⟩
  · decide
  · exact Text.newline_not_mem_ofNat _
  · decide
  · exact Text.newline_not_mem_ofNat _
  · decide
  · exact hcodes
  · decide

theorem newline_not_mem_encodeStrings {t out : Text} (h : encodeStrings t = some out)
    (ht : '\n' ∉ t) : '\n' ∉ out := by
  fun_induction encodeStrings t generalizing out with
  | case1 =>
    cases h
    exact ht
  | case2 rest body after hbody codes _ _ ih =>
    obtain ⟨encoded, hencoded, rfl⟩ := Option.map_eq_some_iff.mp h
    have hafter : '\n' ∉ after := fun hn =>
      ht (List.mem_cons_of_mem _ (mem_of_takeBody hbody (.inr hn)))
    rw [List.mem_append, not_or]
    exact ⟨newline_not_mem_encodeString codes, ih hencoded hafter⟩
  | case3 => cases h
  | case4 rest body after hbody _ _ ih =>
    obtain ⟨encoded, hencoded, rfl⟩ := Option.map_eq_some_iff.mp h
    have hafter : '\n' ∉ after := fun hn =>
      ht (List.mem_cons_of_mem _ (mem_of_takeBody hbody (.inr hn)))
    have hbody : '\n' ∉ body := fun hn =>
      ht (List.mem_cons_of_mem _ (mem_of_takeBody hbody (.inl hn)))
    simp [hbody, ih hencoded hafter]
  | case5 rest _ ih =>
    obtain ⟨encoded, hencoded, rfl⟩ := Option.map_eq_some_iff.mp h
    rw [List.mem_cons, not_or] at ht ⊢
    exact ⟨ht.1, ih hencoded ht.2⟩
  | case6 c rest _ ih =>
    obtain ⟨encoded, hencoded, rfl⟩ := Option.map_eq_some_iff.mp h
    rw [List.mem_cons, not_or] at ht ⊢
    exact ⟨ht.1, ih hencoded ht.2⟩

/-! ### Macros -/

/-- A definition that was cut is the line again. -/
theorem append_of_splitDefinition {line head rest : Text}
    (h : splitDefinition? line = some (head, rest)) : head ++ rest = line := by
  unfold splitDefinition? at h
  dsimp only at h
  split at h
  · next hkeyword =>
    split at h
    · cases h
    · obtain ⟨u, hu⟩ := List.isPrefixOf_iff_prefix.mp hkeyword
      have hdrop : (line.dropWhile Text.isBlank).drop "#define".toList.length = u := by
        rw [← hu, List.drop_left]
      rw [hdrop] at h
      cases h
      calc line.takeWhile Text.isBlank ++ "#define".toList ++ u.takeWhile Text.isBlank
              ++ (u.dropWhile Text.isBlank).takeWhile Text.isWord
              ++ (u.dropWhile Text.isBlank).dropWhile Text.isWord
          = line.takeWhile Text.isBlank ++ ("#define".toList
              ++ (u.takeWhile Text.isBlank ++ u.dropWhile Text.isBlank)) := by
            rw [List.append_assoc _ (List.takeWhile _ _) (List.dropWhile _ _),
              List.takeWhile_append_dropWhile, List.append_assoc, List.append_assoc]
        _ = line := by
            rw [List.takeWhile_append_dropWhile, hu, List.takeWhile_append_dropWhile]
  · cases h

/-- No value of a macro holds a line feed. -/
def MacroTable.Unbroken (m : MacroTable) : Prop := ∀ e ∈ m.entries, '\n' ∉ e.2

section Macros

variable {m : MacroTable}

theorem newline_not_mem_get {name value : Text} (hm : m.Unbroken)
    (h : m.get? name = some value) : '\n' ∉ value := by
  obtain ⟨_, _, hentries, _⟩ := List.lookup_eq_some_iff.mp h
  exact hm (name, value) (by rw [hentries]; simp)

theorem newline_not_mem_substitute {t : Text} (hm : m.Unbroken) (ht : '\n' ∉ t) :
    '\n' ∉ m.substitute t := by
  intro hn
  rcases Text.mem_mapWords hn with hn | ⟨word, hword, hn⟩
  · exact ht hn
  · rcases hvalue : m.get? word with _ | value
    · rw [hvalue, Option.getD_none] at hn
      exact ht (Text.mem_of_mem_words hword hn)
    · rw [hvalue, Option.getD_some] at hn
      exact newline_not_mem_get hm hvalue hn

theorem newline_not_mem_expandLine {line : Text} (hm : m.Unbroken) (hline : '\n' ∉ line) :
    '\n' ∉ m.expandLine line := by
  unfold MacroTable.expandLine
  split
  · next head rest hsplit =>
    rw [← append_of_splitDefinition hsplit, List.mem_append, not_or] at hline
    have hrest : '\n' ∉ rest.takeWhile (· ≠ '\n') := fun hn =>
      hline.2 (List.takeWhile_subset _ hn)
    rw [List.mem_append, not_or]
    exact ⟨hline.1, newline_not_mem_substitute hm hrest⟩
  · exact newline_not_mem_substitute hm hline

theorem mem_put {α : Type} {es : Entries α} {name : Text} {value : α} {e : Text × α}
    (h : e ∈ es.put name value) : e ∈ es ∨ e = (name, value) := by
  induction es with
  | nil => exact .inr (List.mem_singleton.mp h)
  | cons entry es ih =>
    obtain ⟨k, v⟩ := entry
    rw [Entries.put] at h
    split at h
    · next hk =>
      rcases List.mem_cons.mp h with rfl | h
      · exact .inr (by rw [hk])
      · exact .inl (List.mem_cons_of_mem _ h)
    · rcases List.mem_cons.mp h with rfl | h
      · exact .inl List.mem_cons_self
      · exact (ih h).imp_left (List.mem_cons_of_mem _)

theorem unbroken_initialMacros {defines : Entries Text} (h : ∀ e ∈ defines, '\n' ∉ e.2) :
    (initialMacros defines).Unbroken := by
  intro e he
  rcases mem_put he with he | rfl
  · exact h e he
  · exact Text.newline_not_mem_ofNat maxStringLength

end Macros

/-! ### Runs -/

/-- No line of a source map holds a line feed, nor the name of a table. -/
structure SourceMap.Unbroken (m : SourceMap) : Prop where
  emitted : ∀ line ∈ m.lines, '\n' ∉ line
  hoisted : ∀ line ∈ m.hoisted, '\n' ∉ line
  tables : ∀ name ∈ m.tables.keys, '\n' ∉ name

/-- What a run has made is not broken, and no macro of it breaks a line. -/
structure Run.Unbroken {σ : Type} (run : Run σ) : Prop where
  source : run.source.Unbroken
  macros : run.macros.Unbroken

theorem unbroken_pushLine {m : SourceMap} (hm : m.Unbroken) {text : Text} (ht : '\n' ∉ text)
    (origin : Int) : (m.pushLine text origin).Unbroken := by
  refine ⟨?_, hm.hoisted, hm.tables⟩
  intro line hline
  rw [SourceMap.lines_pushLine, List.mem_append, List.mem_singleton] at hline
  rcases hline with hline | rfl
  · exact hm.emitted line hline
  · exact ht

theorem unbroken_pushExtension {m : SourceMap} (hm : m.Unbroken) {text : Text}
    (ht : '\n' ∉ text) : (m.pushExtension text).Unbroken := by
  refine ⟨hm.emitted, ?_, hm.tables⟩
  intro line hline
  rcases Array.mem_push.mp hline with hline | rfl
  · exact hm.hoisted line hline
  · exact ht

theorem unbroken_pushData {m : SourceMap} (hm : m.Unbroken) {name : Text} (hname : '\n' ∉ name)
    (values : List Int) : (m.pushData name values).Unbroken := by
  refine ⟨hm.emitted, hm.hoisted, ?_⟩
  intro key hkey
  obtain ⟨entry, hentry, rfl⟩ := List.mem_map.mp hkey
  rcases mem_put hentry with hentry | rfl
  · split at hentry
    · exact absurd hentry List.not_mem_nil
    · exact hm.tables entry.1 (List.mem_map_of_mem hentry)
  · exact hname

/-- The parts of a line by its kind have no more characters than the line. -/
theorem newline_not_mem_ofText {line : Text} (hline : '\n' ∉ line) :
    match Line.ofText line with
    | .extension text => '\n' ∉ text
    | .plain text => '\n' ∉ text
    | .directive tokens => ∀ token ∈ tokens, '\n' ∉ token := by
  unfold Line.ofText
  dsimp only
  split
  · next text heq =>
    split at heq
    · cases heq
      exact fun hn => hline (mem_of_mem_stripComments hn)
    · split at heq <;> cases heq
  · next text heq =>
    split at heq
    · cases heq
    · split at heq
      · cases heq
      · cases heq
        exact hline
  · next tokens heq =>
    split at heq
    · cases heq
    · split at heq
      · cases heq
        exact fun token htoken => Text.newline_not_mem_token htoken
      · cases heq

variable {σ : Type} {resolver : Resolver σ}

/-- A directive whose texts are not broken breaks nothing. -/
theorem unbroken_obey {run run' : Run σ} {origin : Int} {directive : Directive}
    (h : run.obey origin directive = .ok run') (htexts : ∀ t ∈ directive.texts, '\n' ∉ t)
    (hrun : run.Unbroken) : run'.Unbroken := by
  cases directive with
  | includeText | workgroupCount | dispatchOnce | dispatchCount =>
    cases h
    exact ⟨⟨hrun.source.emitted, hrun.source.hoisted, hrun.source.tables⟩, hrun.macros⟩
  | define name value =>
    simp only [Run.obey] at h
    split at h
    · next macros hmacros =>
      cases h
      refine ⟨hrun.source, ?_⟩
      intro e he
      rw [MacroTable.define_eq_some hmacros, List.mem_append, List.mem_singleton] at he
      rcases he with he | rfl
      · exact hrun.macros e he
      · exact htexts value (by simp [Directive.texts])
    · cases h
  | storage name type =>
    simp only [Run.obey] at h
    split at h
    · cases h
      refine ⟨unbroken_pushLine hrun.source ?_ origin, hrun.macros⟩
      have hname : '\n' ∉ name := htexts name (by simp [Directive.texts])
      have htype : '\n' ∉ type := htexts type (by simp [Directive.texts])
      unfold Run.storageDeclaration
      simp only [List.mem_append, not_or]
      refine ⟨⟨⟨⟨⟨⟨?_, Text.newline_not_mem_ofNat _⟩, ?_⟩, hname⟩, ?_⟩, htype⟩, ?_⟩ <;> decide
    · cases h
  | assertion predicate =>
    simp only [Run.obey] at h
    split at h
    · cases h
      have hpredicate : '\n' ∉ predicate := htexts predicate (by simp [Directive.texts])
      have hcall : '\n' ∉ Run.assertCall run.assertCount predicate := by
        unfold Run.assertCall
        simp only [List.mem_append, not_or]
        refine ⟨⟨⟨⟨?_, Text.newline_not_mem_ofNat _⟩, ?_⟩, hpredicate⟩, ?_⟩ <;> decide
      have hpush := unbroken_pushLine hrun.source hcall origin
      exact ⟨⟨hpush.emitted, hpush.hoisted, hpush.tables⟩, hrun.macros⟩
    · cases h
  | data name values =>
    cases h
    exact ⟨unbroken_pushData hrun.source (htexts name (by simp [Directive.texts])) _, hrun.macros⟩

/-- No step of a run breaks a line. -/
theorem unbroken_step {a b : Run σ} {deeds : List (Int × Deed)} (h : Step resolver a deeds b)
    (ha : a.Unbroken) : b.Unbroken := by
  cases h with
  | hoist unbroken kind =>
    have hparts := newline_not_mem_ofText (newline_not_mem_expandLine ha.macros unbroken)
    rw [kind] at hparts
    exact ⟨unbroken_pushExtension ha.source hparts, ha.macros⟩
  | emit unbroken kind encoded =>
    have hparts := newline_not_mem_ofText (newline_not_mem_expandLine ha.macros unbroken)
    rw [kind] at hparts
    refine ⟨unbroken_pushLine ha.source ?_ _, ha.macros⟩
    split at encoded
    · exact newline_not_mem_encodeStrings encoded hparts
    · cases encoded
      exact hparts
  | obey unbroken kind read obeyed =>
    have hparts := newline_not_mem_ofText (newline_not_mem_expandLine ha.macros unbroken)
    rw [kind] at hparts
    refine unbroken_obey obeyed ?_ ha
    intro t ht hn
    rcases mem_tokens_of_mem_texts (reads_of_ofTokens read) ht hn with hn | ⟨token, htoken, hn⟩
    · exact absurd hn (by decide)
    · exact hparts token htoken hn
  | library path =>
    refine ⟨?_, ?_⟩
    · rw [source_noteLibrary]
      exact ha.source
    · rw [macros_noteLibrary]
      exact ha.macros
  | ask path =>
    refine ⟨?_, ?_⟩
    · rw [source_ask]
      exact ha.source
    · rw [macros_ask]
      exact ha.macros

theorem unbroken_start {defines : Entries Text} (hdefines : ∀ e ∈ defines, '\n' ∉ e.2) (world : σ) :
    (Run.start defines world).Unbroken := by
  refine ⟨⟨?_, ?_, ?_⟩, unbroken_initialMacros hdefines⟩
  · intro line hline
    exact absurd hline List.not_mem_nil
  · intro line hline
    exact absurd hline (Array.not_mem_empty line)
  · intro name hname
    obtain rfl := List.mem_singleton.mp hname
    decide

/-- Preprocessing a shader breaks no line. -/
theorem unbroken_shader_of (resolver : Resolver σ) {run : Run σ} (hrun : run.Unbroken) (text : Text) :
    (run.shader resolver text).1.source.Unbroken :=
  ((steps_shader text run).keeps unbroken_step hrun).source

/-- The source map of every shader is made of unbroken lines, if no value that macros
are given at the start has a line feed in it. -/
theorem unbroken_shader (resolver : Resolver σ) {defines : Entries Text}
    (hdefines : ∀ e ∈ defines, '\n' ∉ e.2) (world : σ) (text : Text) :
    ((Run.start defines world).shader resolver text).1.source.Unbroken :=
  unbroken_shader_of resolver (unbroken_start hdefines world) text

end ShaderPlayer.Shader
