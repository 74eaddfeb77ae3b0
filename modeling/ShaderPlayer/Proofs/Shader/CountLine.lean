/-
A directive that gives a count.

The line names an entry point and gives the numeral of its dispatches.  What it is read as is
shown for every run of digits:

* `tokens_dispatchCountLine` — its tokens are the directive's name, the entry point and the numeral;
* `not_mem_word` — its words have no other characters, so they name no macro with capital letters;
* `ofText_dispatchCountLine` — where its words are no macros, it is that directive.
-/
import ShaderPlayer.Proofs.Shader.Inlining

namespace ShaderPlayer.Shader

/-- The line that asks for a number of dispatches. -/
def dispatchCountLine (numeral : Text) : Text := "#dispatch_count f ".toList ++ numeral

theorem isBlank_of_isDigit {c : Char} (h : c.isDigit) : Text.isBlank c = false := by
  obtain ⟨hlow, hhigh⟩ := Char.isDigit_iff_toNat.mp h
  change 48 ≤ c.toNat at hlow
  change c.toNat ≤ 57 at hhigh
  simp only [Text.isBlank, Bool.or_eq_false_iff, Bool.and_eq_false_iff, decide_eq_false_iff_not,
    beq_eq_false_iff_ne]
  omega

/-! ### The line -/

section Line

variable {numeral : Text} (hdigits : ∀ c ∈ numeral, c.isDigit)

include hdigits

/-- The line has no character but those of its directive and digits. -/
theorem not_mem_dispatchCountLine {d : Char} (hd : d.isDigit = false)
    (hfront : d ∉ "#dispatch_count f ".toList) : d ∉ dispatchCountLine numeral := by
  intro h
  rcases List.mem_append.mp h with h | h
  · exact hfront h
  · rw [hdigits d h] at hd
    cases hd

theorem not_mem_word {word : Text} (h : word ∈ Text.words (dispatchCountLine numeral)) {d : Char}
    (hd : d.isDigit = false) (hfront : d ∉ "#dispatch_count f ".toList) : d ∉ word := fun hmem =>
  not_mem_dispatchCountLine hdigits hd hfront (Text.mem_of_mem_words h hmem)

theorem tokens_dispatchCountLine (hne : numeral ≠ []) :
    Text.tokens (dispatchCountLine numeral) = ["#dispatch_count".toList, ['f'], numeral] := by
  obtain ⟨c, rest, rfl⟩ := List.exists_cons_of_ne_nil hne
  have hkeyword : ∀ d ∈ '#' :: "dispatch_count".toList, Text.isBlank d = false := by
    have hnone : "#dispatch_count".toList.any Text.isBlank = false := by decide
    exact fun d hd => Bool.eq_false_iff.mpr (List.any_eq_false.mp hnone d hd)
  have hentry : ∀ d ∈ ['f'], Text.isBlank d = false := List.forall_mem_singleton.mpr (by decide)
  calc Text.tokens (dispatchCountLine (c :: rest))
      = Text.tokens ('#' :: ("dispatch_count".toList
          ++ (' ' :: 'f' :: ([] ++ (' ' :: c :: rest))))) := rfl
    _ = "#dispatch_count".toList :: Text.tokens ('f' :: ([] ++ (' ' :: c :: rest))) := by
        rw [Text.tokens_append hkeyword fun d hd => by cases hd; decide,
          Text.tokens_of_blank (by decide)]
        rfl
    _ = ["#dispatch_count".toList, ['f'], c :: rest] := by
        rw [Text.tokens_append hentry fun d hd => by cases hd; decide,
          Text.tokens_of_blank (by decide),
          Text.tokens_single fun d hd => isBlank_of_isDigit (hdigits d hd)]

theorem ofText_dispatchCountLine (hne : numeral ≠ []) {macros : MacroTable}
    (hmacros : ∀ word ∈ Text.words (dispatchCountLine numeral), macros.get? word = none) :
    Line.ofText (macros.expandLine (dispatchCountLine numeral))
      = .directive ["#dispatch_count".toList, ['f'], numeral] := by
  have hstart : (dispatchCountLine numeral).dropWhile Text.isBlank = dispatchCountLine numeral :=
    List.dropWhile_cons_of_neg (by decide)
  have hkeyword : "#define".toList.isPrefixOf (dispatchCountLine numeral) = false := rfl
  have hdefinition : splitDefinition? (dispatchCountLine numeral) = none := by
    simp only [splitDefinition?, hstart, hkeyword, Bool.false_eq_true, if_false]
  have hsign : ['#'] <+: (dispatchCountLine numeral).trimLeft := by
    rw [Text.trimLeft, hstart]
    exact ⟨_, rfl⟩
  have hcomments : stripComments (dispatchCountLine numeral) = dispatchCountLine numeral :=
    stripComments_eq_self (not_mem_dispatchCountLine hdigits (by decide) (by decide))
  rw [MacroTable.expandLine_eq_self hdefinition hmacros, ofText_sign hsign, hcomments,
    tokens_dispatchCountLine hdigits hne]

end Line

end ShaderPlayer.Shader
