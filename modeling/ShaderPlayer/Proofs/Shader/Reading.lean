/-
The kinds of lines and the forms of directives.

A line is told by how it starts (`ofText_enable`, `ofText_sign`, `ofText_plain`).  `Reads` lists the forms, one for each directive, with the literals that they take.
Reading tokens accepts exactly these:

* `reads_of_ofTokens` — tokens that are read have one of the forms;
* `mem_tokens_of_mem_texts` — the texts of a directive have the characters of its
  tokens, and spaces between them;
* `values_of_data` — a data directive has at least one value, and each of them fits
  into 32 bits.
-/
import ShaderPlayer.Proofs.Effect
import ShaderPlayer.Proofs.Text.Characters
import ShaderPlayer.Shader.Directive

namespace ShaderPlayer.Shader

/-! ### Lines -/

section Lines

variable {line : Text}

theorem ofText_enable (h : "enable".toList <+: line.trimLeft) :
    Line.ofText line = .extension (stripComments line) :=
  if_pos (List.isPrefixOf_iff_prefix.mpr h)

theorem not_enable_of_sign {t : Text} (h : ['#'] <+: t) : ¬ "enable".toList <+: t := by
  rintro ⟨rest, rfl⟩
  exact absurd (List.cons_prefix_cons.mp h).1 (by decide)

theorem ofText_sign (h : ['#'] <+: line.trimLeft) :
    Line.ofText line = .directive (stripComments line).tokens := by
  have henable : ¬ Text.startsWith "enable".toList line.trimLeft := fun hprefix =>
    not_enable_of_sign h (List.isPrefixOf_iff_prefix.mp hprefix)
  exact (if_neg henable).trans (if_pos (List.isPrefixOf_iff_prefix.mpr h))

theorem ofText_plain (henable : ¬ "enable".toList <+: line.trimLeft)
    (hsign : ¬ ['#'] <+: line.trimLeft) : Line.ofText line = .plain line := by
  rw [← List.isPrefixOf_iff_prefix] at henable hsign
  exact (if_neg henable).trans (if_neg hsign)

theorem ofText_eq_directive_iff {tokens : List Text} :
    Line.ofText line = .directive tokens
      ↔ ['#'] <+: line.trimLeft ∧ (stripComments line).tokens = tokens := by
  constructor
  · intro h
    by_cases hsign : ['#'] <+: line.trimLeft
    · rw [ofText_sign hsign] at h
      exact ⟨hsign, Line.directive.inj h⟩
    · by_cases henable : "enable".toList <+: line.trimLeft
      · rw [ofText_enable henable] at h
        cases h
      · rw [ofText_plain henable hsign] at h
        cases h
  · rintro ⟨hsign, rfl⟩
    exact ofText_sign hsign

end Lines

/-! ### Directives -/

/-- The tokens of a directive. -/
inductive Reads : List Text → Directive → Prop
  | includeText {argument : Text} {path : IncludePath}
      (enclosed : IncludePath.ofArgument? argument = some path) :
      Reads ["#include".toList, argument] (.includeText path argument)
  | workgroupCount {entry x y z : Text} {a b c : Nat} (hx : literal x = .ok a)
      (hy : literal y = .ok b) (hz : literal z = .ok c) :
      Reads ["#workgroup_count".toList, entry, x, y, z] (.workgroupCount entry ⟨a, b, c⟩)
  | dispatchOnce (entry : Text) : Reads ["#dispatch_once".toList, entry] (.dispatchOnce entry)
  | dispatchCount {entry count : Text} {n : Nat} (hcount : literal count = .ok n) :
      Reads ["#dispatch_count".toList, entry, count] (.dispatchCount entry n)
  | define (name : Text) (parts : List Text) :
      Reads ("#define".toList :: name :: parts) (.define name (spaced parts))
  | storage (name part : Text) (parts : List Text) :
      Reads ("#storage".toList :: name :: part :: parts) (.storage name (spaced (part :: parts)))
  | assertion (part : Text) (parts : List Text) :
      Reads ("#assert".toList :: part :: parts) (.assertion (spaced (part :: parts)))
  | data {name part : Text} {parts : List Text} {values : List Nat}
      (hvalues : dataValues (part :: parts) = .ok values) :
      Reads ("#data".toList :: name :: "u32".toList :: part :: parts) (.data name values)

theorem reads_of_ofTokens {tokens : List Text} {directive : Directive}
    (h : Directive.ofTokens tokens = .ok directive) : Reads tokens directive := by
  rcases tokens with _ | ⟨keyword, arguments⟩
  · cases h
  unfold Directive.ofTokens at h
  dsimp only at h
  by_cases hinclude : keyword = "#include".toList
  · rw [if_pos hinclude] at h
    subst hinclude
    split at h
    · split at h
      · next enclosed =>
        cases h
        exact .includeText enclosed
      · cases h
    · cases h
  rw [if_neg hinclude] at h
  by_cases hworkgroup : keyword = "#workgroup_count".toList
  · rw [if_pos hworkgroup] at h
    subst hworkgroup
    split at h
    · obtain ⟨a, ha, h⟩ := bind_eq_ok_iff.mp h
      obtain ⟨b, hb, h⟩ := bind_eq_ok_iff.mp h
      obtain ⟨c, hc, h⟩ := bind_eq_ok_iff.mp h
      cases h
      exact .workgroupCount ha hb hc
    · cases h
  rw [if_neg hworkgroup] at h
  by_cases honce : keyword = "#dispatch_once".toList
  · rw [if_pos honce] at h
    subst honce
    split at h
    · cases h
      exact .dispatchOnce _
    · cases h
  rw [if_neg honce] at h
  by_cases hcount : keyword = "#dispatch_count".toList
  · rw [if_pos hcount] at h
    subst hcount
    split at h
    · next entry count =>
      rcases hliteral : literal count with stop | n
      · rw [hliteral] at h
        cases h
      · rw [hliteral] at h
        cases h
        exact .dispatchCount hliteral
    · cases h
  rw [if_neg hcount] at h
  by_cases hdefine : keyword = "#define".toList
  · rw [if_pos hdefine] at h
    subst hdefine
    split at h
    · cases h
      exact .define _ _
    · cases h
  rw [if_neg hdefine] at h
  by_cases hstorage : keyword = "#storage".toList
  · rw [if_pos hstorage] at h
    subst hstorage
    split at h
    · cases h
      exact .storage _ _ _
    · cases h
  rw [if_neg hstorage] at h
  by_cases hassert : keyword = "#assert".toList
  · rw [if_pos hassert] at h
    subst hassert
    split at h
    · cases h
      exact .assertion _ _
    · cases h
  rw [if_neg hassert] at h
  by_cases hdata : keyword = "#data".toList
  · rw [if_pos hdata] at h
    subst hdata
    split at h
    · next name type part parts =>
      by_cases htype : type = "u32".toList
      · rw [if_pos htype] at h
        subst htype
        rcases hvalues : dataValues (part :: parts) with stop | values
        · rw [hvalues] at h
          cases h
        · rw [hvalues] at h
          cases h
          exact .data hvalues
      · rw [if_neg htype] at h
        cases h
    · cases h
  rw [if_neg hdata] at h
  cases h

/-! ### Texts -/

/-- The texts that a directive carries into the source map or the macro table. -/
def Directive.texts : Directive → List Text
  | .includeText _ _ => []
  | .workgroupCount entry _ => [entry]
  | .dispatchOnce entry => [entry]
  | .dispatchCount entry _ => [entry]
  | .define name value => [name, value]
  | .storage name type => [name, type]
  | .assertion predicate => [predicate]
  | .data name _ => [name]

theorem mem_spaced {parts : List Text} {c : Char} (h : c ∈ spaced parts) :
    c = ' ' ∨ ∃ part ∈ parts, c ∈ part := by
  rcases Text.mem_join h with h | h
  · exact .inl (List.mem_singleton.mp h)
  · exact .inr h

theorem mem_tokens_of_mem_texts {tokens : List Text} {directive : Directive}
    (h : Reads tokens directive) {text : Text} (ht : text ∈ directive.texts)
    {c : Char} (hc : c ∈ text) : c = ' ' ∨ ∃ token ∈ tokens, c ∈ token := by
  cases h with
  | includeText => exact absurd ht List.not_mem_nil
  | workgroupCount => exact .inr ⟨text, by simp_all [Directive.texts], hc⟩
  | dispatchOnce => exact .inr ⟨text, by simp_all [Directive.texts], hc⟩
  | dispatchCount => exact .inr ⟨text, by simp_all [Directive.texts], hc⟩
  | data => exact .inr ⟨text, by simp_all [Directive.texts], hc⟩
  | assertion part parts =>
    rw [Directive.texts, List.mem_singleton] at ht
    subst ht
    exact (mem_spaced hc).imp_right fun ⟨p, hp, h⟩ => ⟨p, List.mem_cons_of_mem _ hp, h⟩
  | define name parts =>
    rw [Directive.texts, List.mem_pair] at ht
    rcases ht with rfl | rfl
    · exact .inr ⟨text, by simp, hc⟩
    · exact (mem_spaced hc).imp_right fun ⟨p, hp, h⟩ => ⟨p, by simp [hp], h⟩
  | storage name part parts =>
    rw [Directive.texts, List.mem_pair] at ht
    rcases ht with rfl | rfl
    · exact .inr ⟨text, by simp, hc⟩
    · exact (mem_spaced hc).imp_right
        fun ⟨p, hp, h⟩ => ⟨p, List.mem_cons_of_mem _ (List.mem_cons_of_mem _ hp), h⟩

/-! ### Values -/

theorem lt_of_literal {t : Text} {n : Nat} (h : literal t = .ok n) : n < 0x100000000 := by
  unfold literal at h
  split at h
  · next hread =>
    cases h
    exact lt_of_readU32 hread
  · cases h
  · cases h

/-- A data directive has values, and they are those of 32-bit literals. -/
theorem values_of_data {parts : List Text} {values : List Nat}
    (h : dataValues parts = .ok values) : values ≠ [] ∧ ∀ n ∈ values, n < 0x100000000 := by
  constructor
  · rintro rfl
    have hpieces := List.forall₂_nil_right_iff.mp (mapM_eq_ok_iff.mp h)
    exact List.splitOn_ne_nil ',' parts.flatten hpieces
  · intro n hn
    obtain ⟨piece, _, hpiece⟩ := exists_of_mem_mapM h hn
    exact lt_of_literal hpiece

end ShaderPlayer.Shader
