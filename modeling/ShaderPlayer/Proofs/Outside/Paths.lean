/-
Paths and the locations they mean.

A path is followed by its names alone: empty names and single dots stay where they are, two
dots go back.

* `normal_ofPath` — so no such name is left in a location;
* `Reached.below` — where a path leads below its start, it leads there by going down alone;
* `ofPath_joinPath` — a path seen from a directory is followed from where the directory is;
* `ofPath_name` — the absolute name of a location means that location;
* `ofPath_directoryOf`, `isDoubled_directoryOf` — the directory of a path is one name before it,
  at the same root.
-/
import ShaderPlayer.Outside.FileTree
import ShaderPlayer.Proofs.Text.Lines

namespace ShaderPlayer.Location

/-! ### Names -/

/-- A name that leads one step down. -/
structure Plain (name : Text) : Prop where
  ne_nil : name ≠ []
  ne_dot : name ≠ ['.']
  ne_dots : name ≠ ['.', '.']
  slash : '/' ∉ name

instance (name : Text) : Decidable (Plain name) :=
  decidable_of_iff (name ≠ [] ∧ name ≠ ['.'] ∧ name ≠ ['.', '.'] ∧ '/' ∉ name)
    ⟨fun ⟨h1, h2, h3, h4⟩ => ⟨h1, h2, h3, h4⟩, fun h => ⟨h.ne_nil, h.ne_dot, h.ne_dots, h.slash⟩⟩

/-- All names lead down. -/
def Normal (l : Location) : Prop := ∀ name ∈ l, Plain name

theorem enter_plain {name : Text} (h : Plain name) (l : Location) : enter l name = l ++ [name] := by
  unfold enter
  simp [h.ne_nil, h.ne_dot, h.ne_dots]

/-- A location that names lead to which go back from another one first, and then down. -/
def Reached (base l : Location) : Prop :=
  ∃ kept below, kept <+: base ∧ Normal below ∧ l = kept ++ below

theorem reached_enter {base l : Location} (h : Reached base l) {name : Text} (hname : '/' ∉ name) :
    Reached base (enter l name) := by
  obtain ⟨kept, below, hkept, hbelow, rfl⟩ := h
  by_cases hstay : name = [] ∨ name = ['.']
  · have heq : enter (kept ++ below) name = kept ++ below := by
      rcases hstay with rfl | rfl <;> rfl
    exact ⟨kept, below, hkept, hbelow, heq⟩
  by_cases hback : name = ['.', '.']
  · subst hback
    show Reached base (kept ++ below).dropLast
    by_cases hnil : below = []
    · subst hnil
      refine ⟨kept.dropLast, [], (List.dropLast_prefix kept).trans hkept, hbelow, ?_⟩
      rw [List.append_nil, List.append_nil]
    · refine ⟨kept, below.dropLast, hkept, ?_, List.dropLast_append_of_ne_nil hnil⟩
      exact fun n hn => hbelow n ((List.dropLast_sublist below).mem hn)
  · rw [not_or] at hstay
    have hplain : Plain name := ⟨hstay.1, hstay.2, hback, hname⟩
    refine ⟨kept, below ++ [name], hkept, fun n hn => ?_, ?_⟩
    · rcases List.mem_append.mp hn with hn | hn
      · exact hbelow n hn
      · rwa [List.mem_singleton.mp hn]
    · rw [enter_plain hplain, List.append_assoc]

theorem reached_foldl_enter {base l : Location} (h : Reached base l) {names : List Text}
    (hnames : ∀ name ∈ names, '/' ∉ name) : Reached base (names.foldl enter l) := by
  induction names generalizing l with
  | nil => exact h
  | cons name names ih =>
    rw [List.forall_mem_cons] at hnames
    exact ih (reached_enter h hnames.1) hnames.2

theorem reached_ofPath (base : Location) (path : Text) : Reached base (ofPath base path) := by
  refine reached_foldl_enter ?_ (Text.sep_not_mem_splitOn '/' path)
  have hnil : Normal [] := fun n hn => absurd hn List.not_mem_nil
  split
  · exact ⟨[], [], List.nil_prefix, hnil, rfl⟩
  · exact ⟨base, [], List.prefix_refl base, hnil, (List.append_nil base).symm⟩

/-- The location of a path holds no name that would not lead down. -/
theorem normal_ofPath {base : Location} (hbase : Normal base) (path : Text) :
    Normal (ofPath base path) := by
  obtain ⟨kept, below, hkept, hbelow, heq⟩ := reached_ofPath base path
  rw [heq]
  intro name hname
  rcases List.mem_append.mp hname with hname | hname
  · exact hbase name (hkept.subset hname)
  · exact hbelow name hname

/-- What is reached from a location and lies below it is reached by going down alone. -/
theorem Reached.below {base l : Location} (h : Reached base l) (hbelow : base <+: l) :
    ∃ names, Normal names ∧ l = base ++ names := by
  obtain ⟨kept, below, ⟨rest, rfl⟩, hnormal, rfl⟩ := h
  obtain ⟨names, hnames⟩ := hbelow
  have hsplit : rest ++ names = below := by
    rw [List.append_assoc] at hnames
    exact List.append_cancel_left hnames
  refine ⟨names, fun n hn => hnormal n ?_, hnames.symm⟩
  rw [← hsplit]
  exact List.mem_append_right rest hn

theorem normal_workingDirectory : Normal workingDirectory := by
  unfold Normal
  decide

/-! ### Joined paths -/

theorem isAbsolute_append {path : Text} (hne : path ≠ []) (rest : Text) :
    isAbsolute (path ++ rest) = isAbsolute path := by
  rcases path with _ | ⟨c, path⟩
  · exact absurd rfl hne
  · rfl

/-- What stands behind a slash is followed from where the path before it leads. -/
theorem ofPath_append_slash (base : Location) {path : Text} (hne : path ≠ []) (rest : Text) :
    ofPath base (path ++ '/' :: rest) = (rest.splitOn '/').foldl enter (ofPath base path) := by
  unfold ofPath
  rw [isAbsolute_append hne, Text.splitOn_append_sep, List.foldl_append]

/-- A slash at the end of a path leads nowhere. -/
theorem ofPath_append_last (base : Location) {path : Text} (hne : path ≠ []) :
    ofPath base (path ++ ['/']) = ofPath base path := by
  rw [ofPath_append_slash base hne]
  rfl

theorem ofPath_of_isAbsolute {path : Text} (h : isAbsolute path) (base other : Location) :
    ofPath base path = ofPath other path := by
  unfold ofPath
  rw [if_pos h, if_pos h]

/-- A path seen from a directory is followed from where the directory is. -/
theorem ofPath_joinPath (base : Location) (directory path : Text) :
    ofPath base (joinPath directory path) = ofPath (ofPath base directory) path := by
  unfold joinPath
  by_cases habsolute : isAbsolute path
  · rw [if_pos habsolute]
    exact ofPath_of_isAbsolute habsolute _ _
  rw [if_neg habsolute]
  have hrelative : ∀ l : Location, ofPath l path = (path.splitOn '/').foldl enter l := by
    intro l
    unfold ofPath
    rw [if_neg habsolute]
  by_cases hempty : directory = []
  · subst hempty
    rfl
  by_cases hslash : directory.getLast? = some '/'
  · obtain ⟨init, rfl⟩ := List.getLast?_eq_some_iff.mp hslash
    rw [if_pos (by simp), List.append_assoc, List.singleton_append, hrelative]
    by_cases hinit : init = []
    · subst hinit
      rfl
    · rw [ofPath_append_slash base hinit, ofPath_append_last base hinit]
  · rw [if_neg (by simp [hempty, hslash]), ofPath_append_slash base hempty, hrelative]

/-- A plain name behind a directory leads one step down from it. -/
theorem ofPath_child (base : Location) {directory name : Text} (hne : directory ≠ [])
    (hname : Plain name) :
    ofPath base (directory ++ '/' :: name) = ofPath base directory ++ [name] := by
  rw [ofPath_append_slash base hne, Text.splitOn_of_not_mem hname.slash]
  exact enter_plain hname _

/-! ### Absolute names -/

theorem splitOn_append_path {name : Text} (hname : '/' ∉ name) {l : Location} (hl : Normal l) :
    Text.splitOn '/' (name ++ path l) = name :: l := by
  induction l generalizing name with
  | nil =>
    show Text.splitOn '/' (name ++ []) = [name]
    rw [List.append_nil, Text.splitOn_of_not_mem hname]
  | cons next l ih =>
    have hnext : '/' ∉ next := (hl next List.mem_cons_self).slash
    show Text.splitOn '/' (name ++ '/' :: (next ++ path l)) = name :: next :: l
    rw [Text.splitOn_append_cons hname, ih hnext fun n hn => hl n (List.mem_cons_of_mem next hn)]

theorem foldl_enter_of_normal {l : Location} (hl : Normal l) (base : Location) :
    l.foldl enter base = base ++ l := by
  induction l generalizing base with
  | nil => exact (List.append_nil base).symm
  | cons name l ih =>
    rw [List.foldl_cons, enter_plain (hl name List.mem_cons_self),
      ih fun n hn => hl n (List.mem_cons_of_mem name hn), List.append_assoc, List.singleton_append]

/-- The absolute name of a location means that location. -/
theorem ofPath_name {l : Location} (hl : Normal l) (base : Location) : ofPath base (name l) = l := by
  rcases l with _ | ⟨first, l⟩
  · rfl
  · have hsplit := splitOn_append_path List.not_mem_nil hl
    show (Text.splitOn '/' ([] ++ path (first :: l))).foldl enter [] = first :: l
    rw [hsplit]
    exact foldl_enter_of_normal hl []

theorem not_isDoubled_name {l : Location} (hl : Normal l) : isDoubled (name l) = false := by
  rcases l with _ | ⟨first, l⟩
  · rfl
  · obtain ⟨c, rest, rfl⟩ := List.exists_cons_of_ne_nil (hl first List.mem_cons_self).ne_nil
    have hslash : c ≠ '/' := fun h => (hl (c :: rest) List.mem_cons_self).slash (h ▸ List.mem_cons_self)
    show isDoubled ('/' :: c :: (rest ++ path l)) = false
    unfold isDoubled
    split
    · next h =>
      cases h
      exact absurd rfl hslash
    · rfl

/-- Another slash before the absolute name of a location. -/
theorem isDoubled_slash_name {l : Location} (hl : Normal l) : isDoubled ('/' :: name l) = true := by
  rcases l with _ | ⟨first, l⟩
  · rfl
  · obtain ⟨c, rest, rfl⟩ := List.exists_cons_of_ne_nil (hl first List.mem_cons_self).ne_nil
    have hslash : c ≠ '/' := fun h => (hl (c :: rest) List.mem_cons_self).slash (h ▸ List.mem_cons_self)
    show decide ((c :: (rest ++ path l)).head? ≠ some '/') = true
    simp [hslash]

theorem ofPath_slash {path : Text} (h : isAbsolute path) (base : Location) :
    ofPath base ('/' :: path) = ofPath base path := by
  have hsplit : Text.splitOn '/' ('/' :: path) = [] :: Text.splitOn '/' path :=
    Text.splitOn_append_cons List.not_mem_nil path
  unfold ofPath
  rw [hsplit, if_pos h]
  rfl

theorem isAbsolute_name (l : Location) : isAbsolute (name l) := by
  rcases l with _ | ⟨first, l⟩ <;> rfl

/-! ### The directory of a path -/

section Directory

variable (path : Text)

theorem normal_parent : Normal (ofPath workingDirectory path).dropLast := fun name hname =>
  normal_ofPath normal_workingDirectory path name ((List.dropLast_sublist _).mem hname)

theorem ofPath_directoryOf (base : Location) :
    ofPath base (directoryOf path) = (ofPath workingDirectory path).dropLast := by
  unfold directoryOf
  dsimp only
  split
  · rw [ofPath_slash (isAbsolute_name _), ofPath_name (normal_parent path)]
  · exact ofPath_name (normal_parent path) base

theorem isDoubled_directoryOf : isDoubled (directoryOf path) = isDoubled path := by
  unfold directoryOf
  dsimp only
  by_cases h : isDoubled path
  · rw [if_pos h, isDoubled_slash_name (normal_parent path), h]
  · rw [if_neg h, not_isDoubled_name (normal_parent path)]
    exact (Bool.eq_false_iff.mpr h).symm

end Directory

end ShaderPlayer.Location
