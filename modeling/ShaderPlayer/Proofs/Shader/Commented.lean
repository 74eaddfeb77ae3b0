/-
Comments and the entry points around them.

To the shading language a comment is a blank, and a block comment may have others in it.  The scan
for entry points drops comments without leaving anything, and ends a block comment where the first
end of one stands:

* `pieces` — the code and the comments of a text, with or without block comments in one another;
* `stripComments_eq` — what is scanned is the code of the reading without;
* `findEntryPoints_blankComments` — where both readings agree, and no comment has a word right
  before and right behind it, a blank for each comment leaves the entry points as they are;
* `comments_seen` — elsewhere a comment hides a function, or shows one that it hides.
-/
import ShaderPlayer.Proofs.Shader.Inert

namespace ShaderPlayer.Shader

open Text (isWord isBlank)

/-! ### The end of a block comment -/

theorem afterBlockEnd_eq_none_iff {t : Text} :
    afterBlockEnd t = none ↔ ¬ ['*', '/'] <:+: t := by
  fun_induction afterBlockEnd t with
  | case1 => simp
  | case2 rest => simp [List.infix_cons_iff]
  | case3 c rest hend ih =>
    rw [ih, List.infix_cons_iff, List.cons_prefix_cons, not_or]
    refine ⟨fun h => ⟨?_, h⟩, And.right⟩
    rintro ⟨rfl, more, rfl⟩
    exact hend more rfl rfl

theorem suffix_of_afterBlockEnd {t rest : Text} (h : afterBlockEnd t = some rest) :
    rest <:+ t := by
  fun_induction afterBlockEnd t with
  | case1 => cases h
  | case2 rest' =>
    cases h
    exact (List.suffix_cons _ _).trans (List.suffix_cons _ _)
  | case3 c rest' _ ih => exact (ih h).trans (List.suffix_cons c rest')

theorem suffix_of_line (rest : Text) : rest.dropWhile (· ≠ '\n') <:+ '/' :: '/' :: rest :=
  (List.dropWhile_suffix _).trans (List.suffix_append ['/', '/'] rest)

theorem suffix_of_block {rest after : Text} (h : afterBlockEnd rest = some after) :
    after <:+ '/' :: '*' :: rest :=
  (suffix_of_afterBlockEnd h).trans (List.suffix_append ['/', '*'] rest)

theorem stripComments_block {rest after : Text} (h : afterBlockEnd rest = some after) :
    stripComments ('/' :: '*' :: rest) = stripComments after := by
  rw [stripComments]
  split
  · next after' h' => rw [Option.some.inj (h.symm.trans h')]
  · next h' => cases h.symm.trans h'

theorem stripComments_open {rest : Text} (h : afterBlockEnd rest = none) :
    stripComments ('/' :: '*' :: rest) = '/' :: stripComments ('*' :: rest) := by
  rw [stripComments]
  split
  · next after h' => cases h.symm.trans h'
  · rfl

/-- The text after the end of a block comment that may have others in it: `depth` of them have to
end before it does. -/
def afterNestedEnd (depth : Nat) : Text → Option Text
  | [] => none
  | '/' :: '*' :: rest => afterNestedEnd (depth + 1) rest
  | '*' :: '/' :: rest => if depth = 0 then some rest else afterNestedEnd (depth - 1) rest
  | _ :: rest => afterNestedEnd depth rest

/-- The text after a block comment that has just begun, with or without others in it. -/
def afterBlock (nested : Bool) (t : Text) : Option Text :=
  if nested then afterNestedEnd 0 t else afterBlockEnd t

theorem length_of_afterNestedEnd {depth : Nat} {t rest : Text}
    (h : afterNestedEnd depth t = some rest) : rest.length < t.length := by
  fun_induction afterNestedEnd depth t with
  | case1 => cases h
  | case2 depth more ih =>
    have := ih h
    simp only [List.length_cons]
    omega
  | case3 more =>
    cases h
    simp only [List.length_cons]
    omega
  | case4 depth more hdepth ih =>
    have := ih h
    simp only [List.length_cons]
    omega
  | case5 depth c more _ _ ih =>
    have := ih h
    simp only [List.length_cons]
    omega

theorem length_of_afterBlock {nested : Bool} {t rest : Text}
    (h : afterBlock nested t = some rest) : rest.length < t.length := by
  cases nested with
  | false => exact length_of_afterBlockEnd h
  | true => exact length_of_afterNestedEnd h

/-! ### Code and comments -/

/-- A piece of a text: a character of its code, or a comment. -/
inductive Piece where
  | code (c : Char)
  | comment
  deriving DecidableEq, Repr

/-- The character of a piece of code. -/
def Piece.code? : Piece → Option Char
  | .code c => some c
  | .comment => none

/-- A piece, shown with a blank for a comment. -/
def Piece.blanked : Piece → Char
  | .code c => c
  | .comment => ' '

/-- The code and the comments of a text, block comments read with or without others in them.  A
block comment that does not end is none. -/
def pieces (nested : Bool) : Text → List Piece
  | [] => []
  | '/' :: '/' :: rest => .comment :: pieces nested (rest.dropWhile (· ≠ '\n'))
  | '/' :: '*' :: rest =>
    match _h : afterBlock nested rest with
    | some after => .comment :: pieces nested after
    | none => .code '/' :: pieces nested ('*' :: rest)
  | c :: rest => .code c :: pieces nested rest
termination_by t => t.length
decreasing_by
  · have : (rest.dropWhile (· ≠ '\n')).length ≤ rest.length :=
      (List.dropWhile_sublist _).length_le
    simp only [List.length_cons]
    omega
  · have := length_of_afterBlock _h
    simp only [List.length_cons]
    omega
  · simp
  · simp

/-- The code alone. -/
def codeOf (ps : List Piece) : Text := ps.filterMap Piece.code?

/-- The text with a blank in place of each comment, as the shading language has comments. -/
def blankComments (t : Text) : Text := (pieces true t).map Piece.blanked

/-- No block comment has another in it: it makes no difference to the pieces. -/
def Unnested (t : Text) : Prop := pieces true t = pieces false t

instance (t : Text) : Decidable (Unnested t) := inferInstanceAs (Decidable (_ = _))

/-- Whether code without its comments has a word where a comment stood in between, the character
before the pieces being one of a word or not. -/
def joinsWords (inWord : Bool) : List Piece → Bool
  | [] => false
  | .code c :: ps => joinsWords (isWord c) ps
  | .comment :: ps => inWord && (codeOf ps).head?.any isWord || joinsWords false ps

@[simp] theorem codeOf_code (c : Char) (ps : List Piece) :
    codeOf (.code c :: ps) = c :: codeOf ps := rfl

@[simp] theorem codeOf_comment (ps : List Piece) : codeOf (.comment :: ps) = codeOf ps := rfl

theorem stripComments_eq (t : Text) : stripComments t = codeOf (pieces false t) := by
  fun_induction pieces false t with
  | case1 => rw [stripComments]; rfl
  | case2 rest ih => rw [stripComments, ih, codeOf_comment]
  | case3 rest after h ih => rw [stripComments_block h, ih, codeOf_comment]
  | case4 rest h ih => rw [stripComments_open h, ih, codeOf_code]
  | case5 c rest hline hblock ih => rw [stripComments.eq_4 c rest hline hblock, ih, codeOf_code]

/-! ### Blanks for comments -/

/-- The text with a blank in place of each comment, block comments read without others in them. -/
def blanked (t : Text) : Text := (pieces false t).map Piece.blanked

theorem head_blanked {t : Text} {c : Char} (h : (blanked t).head? = some c) :
    c = ' ' ∨ t.head? = some c := by
  unfold blanked at h
  fun_induction pieces false t with
  | case1 => cases h
  | case2 => exact .inl (Option.some.inj h).symm
  | case3 => exact .inl (Option.some.inj h).symm
  | case4 => exact .inr h
  | case5 => exact .inr h

theorem pair_prefix_of_blanked {a b c : Char} (hb : b ≠ ' ') {t : Text}
    (h : [a, b] <+: c :: blanked t) : [a, b] <+: c :: t := by
  obtain ⟨rfl, more, hmore⟩ := List.cons_prefix_cons.mp h
  have hhead : (blanked t).head? = some b := by simp [← hmore]
  obtain ⟨rest, rfl⟩ := List.head?_eq_some_iff.mp ((head_blanked hhead).resolve_left hb)
  exact ⟨rest, rfl⟩

/-- A block comment that does not end does not end in a blank's stead either. -/
theorem afterBlockEnd_blanked {t : Text} (h : afterBlockEnd t = none) :
    afterBlockEnd (blanked t) = none := by
  have hblank : ∀ {u : Text}, ['*', '/'] <:+: ' ' :: u → ['*', '/'] <:+: u := by
    intro u hu
    simpa [List.infix_cons_iff] using hu
  rw [afterBlockEnd_eq_none_iff] at h ⊢
  refine mt (fun hend => ?_) h
  clear h
  unfold blanked at hend
  fun_induction pieces false t with
  | case1 => exact hend
  | case2 rest ih => exact (ih (hblank hend)).trans (suffix_of_line rest).isInfix
  | case3 rest after hafter ih => exact (ih (hblank hend)).trans (suffix_of_block hafter).isInfix
  | case4 rest hnone ih =>
    rcases List.infix_cons_iff.mp hend with hprefix | hend
    · exact (pair_prefix_of_blanked (by decide) hprefix).isInfix
    · exact (ih hend).trans (List.suffix_cons _ _).isInfix
  | case5 c rest hline hblock ih =>
    rcases List.infix_cons_iff.mp hend with hprefix | hend
    · exact (pair_prefix_of_blanked (by decide) hprefix).isInfix
    · exact (ih hend).trans (List.suffix_cons _ _).isInfix

/-- Where blanks stand for comments, nothing is taken for one. -/
theorem stripComments_blanked (t : Text) : stripComments (blanked t) = blanked t := by
  have hblank : ∀ u : Text, stripComments (' ' :: u) = ' ' :: stripComments u := fun u =>
    stripComments_cons_of_ne (by decide) u
  unfold blanked
  fun_induction pieces false t with
  | case1 => rw [List.map_nil, stripComments]
  | case2 rest ih => rw [List.map_cons, Piece.blanked, hblank, ih]
  | case3 rest after hafter ih => rw [List.map_cons, Piece.blanked, hblank, ih]
  | case4 rest hnone ih =>
    have hstar : blanked ('*' :: rest) = '*' :: blanked rest := by
      rw [blanked, pieces.eq_4 _ _ _ (by simp) (by simp)]
      rfl
    show stripComments ('/' :: blanked ('*' :: rest)) = '/' :: blanked ('*' :: rest)
    rw [hstar, stripComments_open (afterBlockEnd_blanked hnone), ← hstar, blanked, ih]
  | case5 c rest hline hblock ih =>
    have hopener : ∀ {d : Char}, d ≠ ' ' → (∀ more, c = '/' → rest = d :: more → False) →
        ¬ ['/', d] <+: c :: blanked rest := by
      intro d hd hnone hprefix
      obtain ⟨more, hmore⟩ := pair_prefix_of_blanked hd hprefix
      obtain ⟨rfl, rfl⟩ := List.cons.inj hmore
      exact hnone more rfl rfl
    show stripComments (c :: blanked rest) = c :: blanked rest
    rw [stripComments_cons (hopener (by decide) hline) (hopener (by decide) hblock), blanked, ih]

/-! ### Words -/

theorem lexemes_append_of_head {rest : Text} (h : rest.head?.any isWord = false) (t : Text) :
    lexemes (t ++ rest) = lexemes t ++ lexemes rest := by
  cases rest with
  | nil => rw [List.append_nil, lexemes, List.append_nil]
  | cons c rest => exact lexemes_append h t rest

theorem lexemes_append_of_last {t : Text} (h : t.getLast?.any isWord = false) (rest : Text) :
    lexemes (t ++ rest) = lexemes t ++ lexemes rest := by
  rcases List.eq_nil_or_concat t with rfl | ⟨t, c, rfl⟩
  · rw [lexemes, List.nil_append, List.nil_append]
  · have hc : isWord c = false := by simpa using h
    have hsplit : ∀ u, lexemes (c :: u) = lexemes [c] ++ lexemes u := by
      intro u
      cases hblank : isBlank c with
      | true => simp [lexemes_of_blank hblank, lexemes]
      | false => simp [lexemes_of_sign hc hblank, lexemes]
    rw [List.concat_eq_append, List.append_assoc, List.singleton_append, lexemes_append hc, hsplit,
      lexemes_append hc, List.append_assoc]

/-- The lexemes behind a text are the same with and without blanks for comments, if no words are
joined.  The induction is on the pieces, with all that stands before them in the text. -/
theorem lexemes_map_blanked {ps : List Piece} (t : Text)
    (h : joinsWords (t.getLast?.any isWord) ps = false) :
    lexemes (t ++ ps.map Piece.blanked) = lexemes (t ++ codeOf ps) := by
  have hspace : isWord ' ' = false := by decide
  have hblank : isBlank ' ' := by decide
  induction ps generalizing t with
  | nil => rfl
  | cons p ps ih =>
    cases p with
    | code c =>
      have hps := ih (t ++ [c]) (by simpa [joinsWords] using h)
      simpa [Piece.blanked] using hps
    | comment =>
      rw [joinsWords, Bool.or_eq_false_iff, Bool.and_eq_false_iff] at h
      have hps : lexemes (' ' :: ps.map Piece.blanked) = lexemes (' ' :: codeOf ps) :=
        ih [' '] h.2
      have hapart : lexemes (t ++ codeOf ps) = lexemes t ++ lexemes (codeOf ps) :=
        h.1.elim (lexemes_append_of_last · _) (lexemes_append_of_head · t)
      rw [List.map_cons, Piece.blanked, lexemes_append hspace, hps,
        lexemes_of_blank hblank, codeOf_comment, hapart]

/-! ### Entry points -/

/-- Unless a block comment has another in it, or a comment has words on both sides, the entry points
are those of the text with a blank in place of each comment: comments part what they stand
between, and nothing in them is code. -/
theorem findEntryPoints_blankComments {t : Text} (hunnested : Unnested t)
    (hapart : joinsWords false (pieces true t) = false) :
    findEntryPoints (blankComments t) = findEntryPoints t := by
  have hblanked : blankComments t = blanked t := congrArg (List.map Piece.blanked) hunnested
  have hlexemes : lexemes (blankComments t) = lexemes (codeOf (pieces true t)) :=
    lexemes_map_blanked [] hapart
  have hstripped : stripComments (blankComments t) = blankComments t := by
    rw [hblanked, stripComments_blanked]
  unfold findEntryPoints
  rw [hstripped, hlexemes, stripComments_eq, hunnested]

/-- Comments of both kinds, next to words and signs. -/
def commentedText : Text :=
  "// fn a()\n@compute/* x */@workgroup_size(/**/8) fn /* @y */ b() \x7b\x7d".toList

theorem findEntryPoints_blankComments_commented :
    Unnested commentedText ∧ joinsWords false (pieces true commentedText) = false
      ∧ findEntryPoints (blankComments commentedText) = findEntryPoints commentedText := by
  have hunnested : Unnested commentedText := by decide +kernel
  have hapart : joinsWords false (pieces true commentedText) = false := by decide +kernel
  exact ⟨hunnested, hapart, findEntryPoints_blankComments hunnested hapart⟩

/-- A function with nothing but a comment before its name. -/
def joinedText : Text := "@compute @workgroup_size(1) fn/**/main() \x7b\x7d".toList

/-- A function in a block comment, behind another one in it. -/
def nestedText : Text := "/* /* */ @compute @workgroup_size(1) fn main() \x7b\x7d */".toList

/-- The first function is not found, though it is no comment's; the second is found, though it
is. -/
theorem comments_seen :
    findEntryPoints (blankComments joinedText) = .ok [⟨"main".toList, ⟨1, 1, 1⟩⟩]
      ∧ findEntryPoints joinedText = .ok []
      ∧ findEntryPoints (blankComments nestedText) = .ok []
      ∧ findEntryPoints nestedText = .ok [⟨"main".toList, ⟨1, 1, 1⟩⟩] := by
  decide +kernel

end ShaderPlayer.Shader
