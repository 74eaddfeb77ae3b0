/-
Includes in directories.

A path is looked up in one directory after the other, in each first as it is and then with the
ending of shader files.  Only what lies strictly below a directory is found there, however the
path is written:

* `findFile_eq` — a look-up is a search through the candidates in this order;
* `findFile_first` — it finds the first candidate that means a file, and so it finds one if there
  is one.
-/
import ShaderPlayer.Include.Source
import ShaderPlayer.Proofs.Outside.Paths

namespace ShaderPlayer.Include

/-! ### Files below a directory -/

/-- The file at a location, if it is a regular one. -/
def regular? (files : FileTree) (l : Location) : Option File :=
  if l = nullDevice.1 then none else files.file? l

/-- A location lies strictly below another one: names that lead down go from there to it. -/
def StrictlyBelow (l root : Location) : Prop :=
  ∃ names, names ≠ [] ∧ Location.Normal names ∧ l = root ++ names

/-- The location of a directory, by the normalised absolute name of its path. -/
def Directory.root : Directory → Location
  | .library => libraryRoot
  | .named path => Location.ofPath Location.workingDirectory path

/-- The files that a directory is one of. -/
def Directory.tree (files : FileTree) : Directory → FileTree
  | .library => Include.library
  | .named _ => files

/-- Whether a directory's path starts with exactly two slashes. -/
def Directory.isDoubled : Directory → Bool
  | .library => false
  | .named path => Location.isDoubled path

/-- What a path may mean in a directory. -/
structure Candidate where
  directory : Directory
  path : Text
  deriving DecidableEq, Repr

/-- The normalised absolute name of a candidate: that of the directory's path joined with the
candidate's own. -/
def Candidate.place : Candidate → Location
  | ⟨.library, path⟩ => Location.ofPath libraryRoot path
  | ⟨.named directory, path⟩ =>
    Location.ofPath Location.workingDirectory (Location.joinPath directory path)

/-- A candidate means a regular file strictly below its directory. -/
structure Candidate.Means (files : FileTree) (c : Candidate) (file : File) : Prop where
  below : StrictlyBelow c.place c.directory.root
  file : regular? (c.directory.tree files) c.place = some file

/-- What is tried for a path, in order: in each directory the path itself, and then the path with
the ending. -/
def candidates (directories : List Directory) (path : Text) : List Candidate :=
  directories.flatMap fun d => [⟨d, path⟩, ⟨d, path ++ extension⟩]

theorem directory_of_mem_candidates {directories : List Directory} {path : Text} {c : Candidate}
    (h : c ∈ candidates directories path) : c.directory ∈ directories := by
  obtain ⟨d, hd, hc⟩ := List.mem_flatMap.mp h
  simp only [List.mem_cons, List.not_mem_nil, or_false] at hc
  rcases hc with rfl | rfl <;> exact hd

/-! ### The search -/

/-- The file that a candidate stands for, as it is looked up. -/
def Candidate.find? (files : FileTree) (c : Candidate) : Option File :=
  if c.place.isBelow c.directory.root ∧ c.place ≠ nullDevice.1 then
    (c.directory.tree files).file? c.place
  else none

theorem Candidate.place_eq (d : Directory) (path : Text) :
    (⟨d, path⟩ : Candidate).place = Location.ofPath d.root path := by
  cases d with
  | library => rfl
  | named directory => exact Location.ofPath_joinPath _ directory path

theorem find_of_not_doubled {d : Directory} (h : d.isDoubled = false) (files : FileTree)
    (path : Text) :
    d.find? files path = [⟨d, path⟩, ⟨d, path ++ extension⟩].findSome? (Candidate.find? files) := by
  have hbelow : d.find? files path = fileBelow? (d.tree files) d.root path := by
    cases d with
    | library => rfl
    | named directory =>
      unfold Directory.find?
      exact if_neg (by rw [← Directory.isDoubled, h]; exact Bool.false_ne_true)
  rw [hbelow]
  unfold fileBelow?
  simp only [List.findSome?_cons, List.findSome?_nil, Candidate.find?, Candidate.place_eq]

theorem find_of_doubled {d : Directory} (h : d.isDoubled) (files : FileTree) (path : Text) :
    d.find? files path = none := by
  cases d with
  | library => cases h
  | named directory =>
    unfold Directory.find?
    exact if_pos h

/-- A look-up is a search through the candidates, in directories that are not doubled. -/
theorem findFile_eq (files : FileTree) (directories : List Directory) (path : Text) :
    findFile? files directories path
      = (candidates (directories.filter (!·.isDoubled)) path).findSome? (Candidate.find? files) := by
  unfold findFile? candidates
  induction directories with
  | nil => rfl
  | cons d directories ih =>
    by_cases h : d.isDoubled
    · rw [List.findSome?_cons, find_of_doubled h, ih, List.filter_cons_of_neg (by simp [h])]
    · rw [Bool.not_eq_true] at h
      rw [List.filter_cons_of_pos (by simp [h]), List.flatMap_cons, List.findSome?_append,
        ← find_of_not_doubled h, ← ih, List.findSome?_cons]
      cases d.find? files path <;> rfl

/-- What is looked up is what is meant, if the directory's own name is not that of a file. -/
theorem find_eq_some_iff {files : FileTree} {c : Candidate}
    (h : regular? (c.directory.tree files) c.directory.root = none) {file : File} :
    c.find? files = some file ↔ c.Means files file := by
  obtain ⟨d, path⟩ := c
  constructor
  · intro hfind
    unfold Candidate.find? at hfind
    split at hfind
    · next hplace =>
      obtain ⟨hbelow, hdevice⟩ := hplace
      have hfile : regular? (d.tree files) (⟨d, path⟩ : Candidate).place = some file := by
        unfold regular?
        rwa [if_neg hdevice]
      refine ⟨?_, hfile⟩
      have hprefix := List.isPrefixOf_iff_prefix.mp hbelow
      rw [Candidate.place_eq] at hprefix hfile ⊢
      obtain ⟨names, hnormal, heq⟩ := (Location.reached_ofPath d.root path).below hprefix
      refine ⟨names, ?_, hnormal, heq⟩
      rintro rfl
      rw [heq, List.append_nil, h] at hfile
      cases hfile
    · cases hfind
  · rintro ⟨⟨names, _, _, hplace⟩, hfile⟩
    have hbelow : (⟨d, path⟩ : Candidate).place.isBelow d.root :=
      List.isPrefixOf_iff_prefix.mpr ⟨names, hplace.symm⟩
    unfold regular? at hfile
    unfold Candidate.find?
    split at hfile
    · cases hfile
    · next hdevice => rwa [if_pos ⟨hbelow, hdevice⟩]

/-- A search through candidates ends at the first one that means a file. -/
theorem findSome_eq_some_iff {files : FileTree} {cs : List Candidate}
    (h : ∀ c ∈ cs, regular? (c.directory.tree files) c.directory.root = none) {file : File} :
    cs.findSome? (Candidate.find? files) = some file
      ↔ ∃ before c after, cs = before ++ c :: after ∧ c.Means files file
          ∧ ∀ b ∈ before, ∀ other, ¬ b.Means files other := by
  have hnone : ∀ c ∈ cs, c.find? files = none ↔ ∀ other, ¬ c.Means files other := by
    intro c hc
    rw [Option.eq_none_iff_forall_ne_some]
    exact forall_congr' fun other => not_congr (find_eq_some_iff (h c hc))
  have hmem : ∀ {before c after}, cs = before ++ c :: after → c ∈ cs ∧ ∀ b ∈ before, b ∈ cs := by
    rintro before c after rfl
    exact ⟨by simp, fun b hb => List.mem_append_left _ hb⟩
  rw [List.findSome?_eq_some_iff]
  constructor
  · rintro ⟨before, c, after, hcut, hfind, hbefore⟩
    obtain ⟨hc, hb⟩ := hmem hcut
    exact ⟨before, c, after, hcut, (find_eq_some_iff (h c hc)).mp hfind,
      fun b hb' => (hnone b (hb b hb')).mp (hbefore b hb')⟩
  · rintro ⟨before, c, after, hcut, hmeans, hbefore⟩
    obtain ⟨hc, hb⟩ := hmem hcut
    exact ⟨before, c, after, hcut, (find_eq_some_iff (h c hc)).mpr hmeans,
      fun b hb' => (hnone b (hb b hb')).mpr (hbefore b hb')⟩

/-- A file that is found lies strictly below one of the directories.  It is the first candidate
that means a file, and if a candidate means one then one is found, unless directories have paths
that start with exactly two slashes: nothing is found in those. -/
theorem findFile_first (files : FileTree) (directories : List Directory) (path : Text)
    (hdirectories : ∀ d ∈ directories, regular? (d.tree files) d.root = none) :
    (∀ file, findFile? files directories path = some file →
      ∃ c ∈ candidates directories path, c.Means files file)
    ∧ ((∀ d ∈ directories, d.isDoubled = false) →
      (∀ file, findFile? files directories path = some file
        ↔ ∃ before c after, candidates directories path = before ++ c :: after
          ∧ c.Means files file ∧ ∀ b ∈ before, ∀ other, ¬ b.Means files other)
      ∧ ((∃ c ∈ candidates directories path, ∃ file, c.Means files file) →
        ∃ file, findFile? files directories path = some file)) := by
  have hregular : ∀ c ∈ candidates directories path,
      regular? (c.directory.tree files) c.directory.root = none :=
    fun c hc => hdirectories c.directory (directory_of_mem_candidates hc)
  constructor
  · intro file hfile
    rw [findFile_eq] at hfile
    obtain ⟨c, hc, hfind⟩ := List.exists_of_findSome?_eq_some hfile
    obtain ⟨d, hd, hc⟩ := List.mem_flatMap.mp hc
    have hmem : c ∈ candidates directories path :=
      List.mem_flatMap.mpr ⟨d, (List.mem_filter.mp hd).1, hc⟩
    exact ⟨c, hmem, (find_eq_some_iff (hregular c hmem)).mp hfind⟩
  · intro hsingle
    have hfilter : directories.filter (!·.isDoubled) = directories :=
      List.filter_eq_self.mpr fun d hd => by rw [hsingle d hd]; rfl
    rw [findFile_eq, hfilter]
    refine ⟨fun file => findSome_eq_some_iff hregular, ?_⟩
    rintro ⟨c, hc, file, hmeans⟩
    have hsome := (find_eq_some_iff (hregular c hc)).mpr hmeans
    rw [← Option.isSome_iff_exists, List.findSome?_isSome_iff]
    exact ⟨c, hc, hsome ▸ rfl⟩

/-- A directory and a file next to it. -/
def siblings : FileTree :=
  (FileTree.put {} (Location.workingDirectory ++ ["sub".toList, "a.wgsl".toList]) [] none).put
    (Location.workingDirectory ++ ["b.wgsl".toList]) [120] none

/-- A path that goes back is followed in the directory that holds all it leads to, and not in the
one that it leads out of. -/
theorem findFile_first_siblings :
    (∀ d ∈ [.named "sub".toList, .named ".".toList],
        regular? (Directory.tree siblings d) d.root = none)
      ∧ (∀ d ∈ [.named "sub".toList, .named ".".toList], Directory.isDoubled d = false)
      ∧ ∃ file, findFile? siblings [.named "sub".toList, .named ".".toList] "sub/../b".toList
          = some file := by
  have hdirectories : ∀ d ∈ [.named "sub".toList, .named ".".toList],
      regular? (Directory.tree siblings d) d.root = none := by decide
  have hsingle : ∀ d ∈ [.named "sub".toList, .named ".".toList],
      Directory.isDoubled d = false := by decide
  refine ⟨hdirectories, hsingle, ?_⟩
  refine ((findFile_first siblings _ "sub/../b".toList hdirectories).2 hsingle).2 ?_
  refine ⟨⟨.named ".".toList, "sub/../b.wgsl".toList⟩, by decide, ?_⟩
  have hplace : Candidate.place ⟨.named ".".toList, "sub/../b.wgsl".toList⟩
      = Location.workingDirectory ++ ["b.wgsl".toList] := by decide
  refine ⟨⟨[120], .counted 2⟩, ⟨["b.wgsl".toList], by decide, ?_, hplace⟩, by decide⟩
  unfold Location.Normal
  decide

example : findFile? siblings [.named "sub".toList] "../b".toList = none := by decide

end ShaderPlayer.Include
