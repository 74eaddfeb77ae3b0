/-
Text as a list of characters.

Shader text is scanned, cut and joined all over this library, so it is kept as
the list of its characters: a scanner is then a structural recursion, and a
length counts code points.  Here are the pieces every scanner shares: numerals,
cutting at a character (`splitOn`), and searching (`cut`).

Main statements: the pieces of `splitOn` joined by the separator give the text
back (`join_splitOn`), and no piece holds the separator (`sep_not_mem_splitOn`).
-/
namespace ShaderPlayer

/-- Text is the list of its characters. -/
abbrev Text := List Char

namespace Text

/-! ### Numerals -/

/-- The decimal numeral of a natural number. -/
def ofNat (n : Nat) : Text := Nat.toDigits 10 n

/-- The decimal numeral of an integer, a minus sign before a negative one. -/
def ofInt : Int → Text
  | .ofNat n => ofNat n
  | .negSucc n => '-' :: ofNat (n + 1)

/-- The text, filled up on the left to a width. -/
def padLeft (fill : Char) (width : Nat) (t : Text) : Text :=
  List.replicate (width - t.length) fill ++ t

/-- The lower-case hexadecimal numeral of a natural number, with leading zeros
up to a width. -/
def ofHex (width n : Nat) : Text := padLeft '0' width (Nat.toDigits 16 n)

/-- The value of a hexadecimal digit of either case. -/
def hexDigit? (c : Char) : Option Nat :=
  if '0' ≤ c ∧ c ≤ '9' then some (c.toNat - '0'.toNat)
  else if 'a' ≤ c ∧ c ≤ 'f' then some (c.toNat - 'a'.toNat + 10)
  else if 'A' ≤ c ∧ c ≤ 'F' then some (c.toNat - 'A'.toNat + 10)
  else none

/-- The value of a run of digits in a base, the digits' own values given. -/
def positional (base : Nat) (digits : List Nat) : Nat :=
  digits.foldl (fun n d => n * base + d) 0

theorem positional_append (base : Nat) (ds : List Nat) (d : Nat) :
    positional base (ds ++ [d]) = positional base ds * base + d := by
  simp [positional]

/-! ### Cutting and joining -/

/-- The pieces between the occurrences of a character; there is always one. -/
def splitOn (sep : Char) : Text → List Text
  | [] => [[]]
  | c :: rest =>
    if c = sep then [] :: splitOn sep rest
    else match splitOn sep rest with
      | [] => [[c]]
      | piece :: pieces => (c :: piece) :: pieces

/-- The pieces with a separator text between each two. -/
def join (sep : Text) : List Text → Text
  | [] => []
  | [piece] => piece
  | piece :: pieces => piece ++ sep ++ join sep pieces

theorem splitOn_ne_nil (sep : Char) (t : Text) : splitOn sep t ≠ [] := by
  cases t with
  | nil => simp [splitOn]
  | cons c rest =>
    unfold splitOn
    split
    · simp
    · split <;> simp

theorem join_splitOn (sep : Char) (t : Text) : join [sep] (splitOn sep t) = t := by
  induction t with
  | nil => rfl
  | cons c rest ih =>
    unfold splitOn
    split
    · next h =>
      obtain ⟨p, ps, hp⟩ := List.exists_cons_of_ne_nil (splitOn_ne_nil sep rest)
      rw [hp] at ih ⊢
      simp [join, ih, h]
    · split
      · next h => exact absurd h (splitOn_ne_nil sep rest)
      · next p ps hp =>
        rw [hp] at ih
        cases ps with
        | nil => simpa [join] using ih
        | cons q qs => simpa [join] using ih

theorem sep_not_mem_splitOn (sep : Char) (t : Text) :
    ∀ piece ∈ splitOn sep t, sep ∉ piece := by
  induction t with
  | nil => simp [splitOn]
  | cons c rest ih =>
    unfold splitOn
    split
    · simpa using ih
    · next hc =>
      split
      · next h => exact absurd h (splitOn_ne_nil sep rest)
      · next p ps hp =>
        rw [hp] at ih
        simp only [List.mem_cons, forall_eq_or_imp, not_or] at ih ⊢
        exact ⟨⟨fun h => hc h.symm, ih.1⟩, ih.2⟩

/-! ### Searching -/

/-- The text before the first occurrence of a needle and the text after it. -/
def cut (needle : Text) : Text → Option (Text × Text)
  | [] => if needle.isEmpty then some ([], []) else none
  | c :: rest =>
    if needle.isPrefixOf (c :: rest) then some ([], (c :: rest).drop needle.length)
    else (cut needle rest).map fun (before, after) => (c :: before, after)

/-- Whether a needle occurs in the text. -/
def hasInfix (needle t : Text) : Bool := (cut needle t).isSome

theorem length_of_cut {needle t before after : Text} (h : cut needle t = some (before, after)) :
    t.length = before.length + needle.length + after.length := by
  induction t generalizing before with
  | nil =>
    simp only [cut] at h
    split at h
    · simp_all
    · simp at h
  | cons c rest ih =>
    simp only [cut] at h
    split at h
    · next hp =>
      obtain ⟨u, hu⟩ := List.isPrefixOf_iff_prefix.1 hp
      simp only [Option.some.injEq, Prod.mk.injEq] at h
      obtain ⟨rfl, rfl⟩ := h
      rw [← hu]
      simp
    · simp only [Option.map_eq_some_iff, Prod.mk.injEq, Prod.exists] at h
      obtain ⟨b, a, hba, rfl, rfl⟩ := h
      simp only [List.length_cons, ih hba]
      omega

/-- The text with every occurrence of a non-empty needle replaced. -/
def replace (needle substitute : Text) (t : Text) : Text :=
  if _h : needle.length = 0 then t
  else match _hcut : cut needle t with
    | none => t
    | some (before, after) => before ++ substitute ++ replace needle substitute after
termination_by t.length
decreasing_by
  have := length_of_cut _hcut
  omega

/-- The text without its last occurrence of a character and all that follows. -/
def beforeLast? (stop : Char) (t : Text) : Option Text :=
  match t.reverse.dropWhile (· ≠ stop) with
  | [] => none
  | _ :: before => some before.reverse

/-- The text after its first occurrence of a character. -/
def afterFirst? (start : Char) (t : Text) : Option Text :=
  match t.dropWhile (· ≠ start) with
  | [] => none
  | _ :: after => some after

/-- Whether the text starts with a given one. -/
def startsWith (start t : Text) : Bool := start.isPrefixOf t

/-- Whether the text ends with a given one. -/
def endsWith (ending t : Text) : Bool := ending.isSuffixOf t

end Text

end ShaderPlayer
