/-
Trees that grow.

Making directories and writing a file that was not there leave what is there alone, and so what a
path leads to.

* `eq_ofPath_of_resolve` — a path that can be followed leads where its names do;
* `Leads`, `resolve_child` — what is looked up in a directory is found or not by its name alone;
* `Extends`, `Extends.resolve` — a path still leads where it did in a tree that grew;
* `makeDirectories_spec`, `makeDirectories_of_leads` — making directories makes no files, and does
  nothing where the directory is there;
* `Writes.extends`, `file?_put_place` — a file that is written where nothing was is the one that is
  new.
-/
import ShaderPlayer.Proofs.Effect
import ShaderPlayer.Proofs.Outside.Paths

namespace ShaderPlayer.FileTree

open Location

variable {t t' : FileTree}

/-! ### Following paths -/

theorem le_foldl_utf8Size (rest : Text) (n : Nat) :
    n ≤ rest.foldl (fun n c => n + c.utf8Size) n := by
  induction rest generalizing n with
  | nil => exact Nat.le_refl n
  | cons c rest ih => exact Nat.le_trans (Nat.le_add_right n c.utf8Size) (ih (n + c.utf8Size))

theorem byteLength_le_append (path rest : Text) :
    path.byteLength ≤ (path ++ rest).byteLength := by
  unfold Text.byteLength
  rw [List.foldl_append]
  exact le_foldl_utf8Size rest _

theorem follow_append (t : FileTree) (l : Location) (names rest : List Text) :
    t.follow l (names ++ rest) = (do t.follow (← t.follow l names) rest) := by
  induction names generalizing l with
  | nil => rfl
  | cons name names ih =>
    rw [List.cons_append, follow, follow]
    split
    · rfl
    split
    · rfl
    split
    · rfl
    · exact ih (l.enter name)

theorem eq_foldl_of_follow {l l' : Location} {names : List Text} (h : t.follow l names = .ok l') :
    l' = names.foldl enter l := by
  induction names generalizing l with
  | nil =>
    cases h
    rfl
  | cons name names ih =>
    rw [follow] at h
    split at h
    · cases h
    split at h
    · cases h
    split at h
    · cases h
    · exact ih h

/-- Where a path starts. -/
def startOf (path : Text) : Location := if isAbsolute path then [] else workingDirectory

theorem resolve_eq_ok_iff {path : Text} {l : Location} :
    t.resolve path = .ok l
      ↔ '\x00' ∉ path ∧ path ≠ [] ∧ path.byteLength ≤ maxPath
        ∧ t.follow (startOf path) (path.splitOn '/') = .ok l := by
  unfold resolve startOf
  by_cases hnull : '\x00' ∈ path
  · simp [hnull]
  by_cases hempty : path = []
  · simp [hempty]
  by_cases hlong : maxPath < path.byteLength
  · simp [hnull, hempty, hlong, Nat.not_le.mpr hlong]
  dsimp only
  rcases t.follow (if isAbsolute path then [] else workingDirectory) (path.splitOn '/') with
    defect | l'
  all_goals simp [hnull, hempty, hlong, Nat.not_lt.mp hlong]

/-- A path that can be followed leads where its names do. -/
theorem eq_ofPath_of_resolve {path : Text} {l : Location} (h : t.resolve path = .ok l) :
    l = ofPath workingDirectory path :=
  eq_foldl_of_follow (resolve_eq_ok_iff.mp h).2.2.2

theorem fileAt_eq_ok_iff {path : Text} {file : File} :
    t.fileAt path = .ok file ↔ ∃ l, t.resolve path = .ok l ∧ t.file? l = some file := by
  unfold fileAt
  rw [bind_eq_ok_iff]
  refine exists_congr fun l => and_congr_right fun _ => ?_
  rcases t.file? l with _ | found
  · exact ⟨fun h => (by cases h), fun h => (by cases h)⟩
  · constructor
    · intro h
      cases h
      rfl
    · intro h
      cases h
      rfl

/-- There is something at a path if it leads to a file or directory. -/
theorem hasPath_eq (t : FileTree) (path : Text) :
    t.hasPath path = match t.resolve path with
      | .ok l => (t.file? l).isSome || t.isDirectory l
      | .error _ => false := by
  unfold hasPath stamp?
  rcases t.resolve path with fault | l
  · rfl
  · dsimp only
    rcases t.file? l with _ | file <;> rfl

/-! ### Directories that paths lead to -/

/-- A location is a directory and no file. -/
structure Opens (t : FileTree) (l : Location) : Prop where
  file : t.file? l = none
  directory : t.isDirectory l

/-- A path leads to a directory. -/
structure Leads (t : FileTree) (path : Text) (l : Location) : Prop where
  resolve : t.resolve path = .ok l
  opens : t.Opens l

theorem follow_cons_eq_ok {l l' : Location} {name : Text} {names : List Text}
    (h : t.follow l (name :: names) = .ok l') : t.Opens l := by
  rw [follow] at h
  split at h
  · cases h
  next hfile =>
  split at h
  · cases h
  next hdirectory =>
  exact ⟨Option.not_isSome_iff_eq_none.mp hfile, by simpa using hdirectory⟩

/-- What an open directory has under a name is decided by the name. -/
theorem Opens.follow {l : Location} (h : t.Opens l) (name : Text) :
    t.follow l [name]
      = if maxName < name.byteLength then .error .nameTooLong else .ok (l.enter name) := by
  rw [FileTree.follow, h.file, h.directory, if_neg (by simp), if_neg (by simp)]
  rfl

theorem follow_child {directory name : Text} (hslash : '/' ∉ name) (l : Location) :
    t.follow l ((directory ++ '/' :: name).splitOn '/')
      = (do t.follow (← t.follow l (directory.splitOn '/')) [name]) := by
  rw [Text.splitOn_append_sep, Text.splitOn_of_not_mem hslash, follow_append]

theorem startOf_child {directory : Text} (hne : directory ≠ []) (name : Text) :
    startOf (directory ++ '/' :: name) = startOf directory := by
  unfold startOf
  rw [isAbsolute_append hne]

/-- What can be looked up behind a directory's path is looked up in that directory. -/
theorem leads_of_resolve_child {directory name : Text} {l : Location} (hne : directory ≠ [])
    (hslash : '/' ∉ name) (h : t.resolve (directory ++ '/' :: name) = .ok l) :
    t.Leads directory (ofPath workingDirectory directory) := by
  obtain ⟨hnull, _, hlong, hfollow⟩ := resolve_eq_ok_iff.mp h
  rw [startOf_child hne, follow_child hslash] at hfollow
  obtain ⟨between, hbetween, hlast⟩ := bind_eq_ok_iff.mp hfollow
  obtain rfl : between = ofPath workingDirectory directory := eq_foldl_of_follow hbetween
  have hshort : directory.byteLength ≤ maxPath := Nat.le_trans (byteLength_le_append _ _) hlong
  refine ⟨resolve_eq_ok_iff.mpr ⟨?_, hne, hshort, hbetween⟩, follow_cons_eq_ok hlast⟩
  exact fun hmem => hnull (List.mem_append_left _ hmem)

/-- A name is looked up in the same way in all trees in which a path leads to a directory. -/
theorem resolve_child {directory : Text} {l : Location} (h : t.Leads directory l)
    (h' : t'.Leads directory l) {name : Text} (hslash : '/' ∉ name) :
    t.resolve (directory ++ '/' :: name) = t'.resolve (directory ++ '/' :: name) := by
  obtain ⟨_, hne, _, hfollow⟩ := resolve_eq_ok_iff.mp h.resolve
  obtain ⟨_, _, _, hfollow'⟩ := resolve_eq_ok_iff.mp h'.resolve
  have hsame : t.follow (startOf (directory ++ '/' :: name)) ((directory ++ '/' :: name).splitOn '/')
      = t'.follow (startOf (directory ++ '/' :: name))
          ((directory ++ '/' :: name).splitOn '/') := by
    rw [startOf_child hne, follow_child hslash, follow_child hslash, hfollow, hfollow']
    exact (h.opens.follow name).trans (h'.opens.follow name).symm
  unfold startOf at hsame
  unfold resolve
  dsimp only
  rw [hsame]

/-! ### Trees that grow -/

/-- A tree has the files and directories that another one has, and no file in the place of one of
its directories. -/
structure Extends (t t' : FileTree) : Prop where
  file : ∀ {l file}, t.file? l = some file → t'.file? l = some file
  directory : ∀ {l}, t.isDirectory l → t'.isDirectory l
  opens : ∀ {l}, t.Opens l → t'.Opens l

namespace Extends

theorem refl (t : FileTree) : t.Extends t := ⟨id, id, id⟩

theorem trans {t'' : FileTree} (h : t.Extends t') (h' : t'.Extends t'') : t.Extends t'' :=
  ⟨fun hfile => h'.file (h.file hfile), fun hdirectory => h'.directory (h.directory hdirectory),
    fun hopens => h'.opens (h.opens hopens)⟩

/-- A tree with the same files and more directories. -/
theorem of_files (hfiles : t'.files = t.files) (hdirectory : ∀ {l}, t.isDirectory l → t'.isDirectory l) :
    t.Extends t' := by
  have hsame : ∀ l, t'.file? l = t.file? l := fun l => by rw [file?, hfiles, file?]
  exact ⟨fun {l _} hfile => (hsame l).trans hfile, hdirectory,
    fun {l} hopens => ⟨(hsame l).trans hopens.file, hdirectory hopens.directory⟩⟩

theorem follow (h : t.Extends t') {l l' : Location} {names : List Text}
    (hfollow : t.follow l names = .ok l') : t'.follow l names = .ok l' := by
  induction names generalizing l with
  | nil => exact hfollow
  | cons name names ih =>
    have hopens : t.Opens l := follow_cons_eq_ok hfollow
    rw [← List.singleton_append, follow_append, hopens.follow] at hfollow
    rw [← List.singleton_append, follow_append, (h.opens hopens).follow]
    split at hfollow
    · cases hfollow
    · next hshort =>
      rw [if_neg hshort]
      exact ih hfollow

/-- Where a path leads, it still leads when the tree grew. -/
theorem resolve (h : t.Extends t') {path : Text} {l : Location} (hresolve : t.resolve path = .ok l) :
    t'.resolve path = .ok l := by
  obtain ⟨hnull, hne, hlong, hfollow⟩ := resolve_eq_ok_iff.mp hresolve
  exact resolve_eq_ok_iff.mpr ⟨hnull, hne, hlong, h.follow hfollow⟩

theorem leads (h : t.Extends t') {path : Text} {l : Location} (hleads : t.Leads path l) :
    t'.Leads path l :=
  ⟨h.resolve hleads.resolve, h.opens hleads.opens⟩

end Extends

/-! ### Making directories -/

/-- What is put at a location in the place of what was there leaves all others alone. -/
theorem lookup_replaced {α : Type} (entries : List (Location × α)) (l : Location) (a : α)
    (place : Location) :
    ((l, a) :: entries.filter fun (other, _) => other != l).lookup place
      = if place = l then some a else entries.lookup place := by
  by_cases heq : place = l
  · rw [List.lookup_cons, if_pos heq, beq_iff_eq.mpr heq]
  rw [List.lookup_cons, if_neg heq, beq_eq_false_iff_ne.mpr heq]
  dsimp only
  induction entries with
  | nil => rfl
  | cons entry entries ih =>
    obtain ⟨other, b⟩ := entry
    by_cases hother : other = l
    · have hplace : (place == other) = false := beq_eq_false_iff_ne.mpr fun h => heq (h.trans hother)
      rw [List.filter_cons_of_neg (by simpa using hother), ih, List.lookup_cons, hplace]
    · rw [List.filter_cons_of_pos (by simpa using hother), List.lookup_cons, List.lookup_cons, ih]

theorem isDirectory_touch (t : FileTree) (l place : Location) :
    (t.touch l).isDirectory place = (decide (place = l) || t.isDirectory place) := by
  unfold isDirectory directory?
  rw [touch, lookup_replaced]
  by_cases heq : place = l
  · rw [if_pos heq, decide_eq_true heq]
    rfl
  · rw [if_neg heq, decide_eq_false heq]
    rfl

theorem extends_touch (t : FileTree) (l : Location) : t.Extends (t.touch l) :=
  .of_files rfl fun {place} hplace => by rw [isDirectory_touch, hplace, Bool.or_true]

theorem files_addDirectory (t : FileTree) (l : Location) : (t.addDirectory l).files = t.files := by
  unfold addDirectory
  split <;> rfl

theorem extends_addDirectory (t : FileTree) (l : Location) : t.Extends (t.addDirectory l) := by
  unfold addDirectory
  split
  · exact .refl t
  · exact (extends_touch t l).trans (extends_touch _ l.dropLast)

theorem trimSlashes_of_last {path : Text} {last : Char} (h : last ≠ '/') :
    trimSlashes (path ++ [last]) = path ++ [last] := by
  have hreverse : (path ++ [last]).reverse.dropWhile (· = '/') = (path ++ [last]).reverse := by
    rw [List.reverse_append]
    exact List.dropWhile_cons_of_neg (by simpa using h)
  unfold trimSlashes
  dsimp only
  rw [hreverse, List.reverse_reverse]
  exact if_neg (by simp)

/-- A directory that is made is there then. -/
theorem makeDirectory_spec {path : Text} (h : t.makeDirectory path = .ok t') :
    t'.files = t.files ∧ t.Extends t' := by
  unfold makeDirectory at h
  split at h
  · cases h
  · cases h
  split at h
  · cases h
  split at h
  · cases h
    exact ⟨rfl, .refl _⟩
  · cases h
    exact ⟨files_addDirectory t _, (extends_addDirectory t _).trans (.of_files rfl id)⟩

/-- The tree with a path's last directory made. -/
def makeLast (path : Text) (t : FileTree) : FileTree × Option Fault :=
  match t.makeDirectory path with
  | .ok t => (t, none)
  | .error fault => (t, if t.leadsToDirectory path then none else some fault)

theorem makeLast_spec (path : Text) (t : FileTree) :
    (makeLast path t).1.files = t.files ∧ t.Extends (makeLast path t).1 := by
  unfold makeLast
  rcases h : t.makeDirectory path with fault | t'
  · exact ⟨rfl, .refl t⟩
  · exact makeDirectory_spec h

/-- The directory that is made before a path's last one, and the name of that one. -/
def lastParts (path : Text) : Text × Text :=
  let (head, tail) := splitPath path
  if tail.isEmpty then splitPath head else (head, tail)

theorem makeDirectories_succ (depth : Nat) (path : Text) (t : FileTree) :
    makeDirectories (depth + 1) path t
      = if (lastParts path).1.isEmpty || (lastParts path).2.isEmpty || t.hasPath (lastParts path).1 then
          makeLast path t
        else match makeDirectories depth (lastParts path).1 t with
          | (t, none) | (t, some (.file .exists _)) =>
            if (lastParts path).2 = ['.'] then (t, none) else makeLast path t
          | stopped => stopped := rfl

/-- Making directories changes no file, also where it stops. -/
theorem makeDirectories_spec (depth : Nat) (path : Text) (t : FileTree) :
    (makeDirectories depth path t).1.files = t.files
      ∧ t.Extends (makeDirectories depth path t).1 := by
  induction depth generalizing path t with
  | zero => exact ⟨rfl, .refl t⟩
  | succ depth ih =>
    obtain ⟨hfiles, hextends⟩ := ih (lastParts path).1 t
    have hlast : ∀ between : FileTree, between.files = t.files → t.Extends between →
        (if (lastParts path).2 = ['.'] then (between, none) else makeLast path between).1.files
            = t.files
          ∧ t.Extends (if (lastParts path).2 = ['.'] then (between, none)
              else makeLast path between).1 := by
      intro between hbetween hextends
      split
      · exact ⟨hbetween, hextends⟩
      · obtain ⟨hsame, hmore⟩ := makeLast_spec path between
        exact ⟨hsame.trans hbetween, hextends.trans hmore⟩
    rw [makeDirectories_succ]
    split
    · exact makeLast_spec path t
    · split
      · next hend =>
        rw [hend] at hfiles hextends
        exact hlast _ hfiles hextends
      · next hend =>
        rw [hend] at hfiles hextends
        exact hlast _ hfiles hextends
      · exact ⟨hfiles, hextends⟩

theorem splitPath_child {directory name : Text} {last : Char} (hlast : last ≠ '/')
    (hslash : '/' ∉ name) :
    splitPath (directory ++ [last] ++ '/' :: name) = (directory ++ [last], name) := by
  have hname : ∀ c ∈ name.reverse, decide (c ≠ '/') = true := by
    intro c hc
    exact decide_eq_true fun h => hslash (h ▸ List.mem_reverse.mp hc)
  have hreverse : (directory ++ [last] ++ '/' :: name).reverse
      = name.reverse ++ '/' :: (directory ++ [last]).reverse := by
    rw [List.reverse_append, List.reverse_cons, List.append_assoc]
    rfl
  have htail : ((directory ++ [last] ++ '/' :: name).reverse.takeWhile (· ≠ '/')).reverse = name := by
    rw [hreverse, List.takeWhile_append_of_pos hname, List.takeWhile_cons_of_neg (by simp),
      List.append_nil, List.reverse_reverse]
  have htake : (directory ++ [last] ++ '/' :: name).take
      ((directory ++ [last] ++ '/' :: name).length - name.length) = directory ++ [last] ++ ['/'] := by
    rw [show directory ++ [last] ++ '/' :: name = directory ++ [last] ++ ['/'] ++ name by simp]
    exact List.take_left' (by simp only [List.length_append, List.length_cons, List.length_nil]; omega)
  have htrim : trimSlashes (directory ++ [last] ++ ['/']) = directory ++ [last] := by
    have hkept : ((directory ++ [last] ++ ['/']).reverse.dropWhile (· = '/')).reverse
        = directory ++ [last] := by
      rw [List.reverse_append, List.reverse_append]
      show (List.dropWhile _ ('/' :: last :: directory.reverse)).reverse = _
      rw [List.dropWhile_cons_of_pos (by simp), List.dropWhile_cons_of_neg (by simpa using hlast),
        List.reverse_cons, List.reverse_reverse]
    unfold trimSlashes
    dsimp only
    rw [hkept]
    exact if_neg (by simp)
  unfold splitPath
  dsimp only
  rw [htail, htake, htrim]

/-- A directory that is there is not made again. -/
theorem makeDirectories_of_leads {directory name : Text} {last final : Char} {l : Location}
    (hlast : last ≠ '/') (hslash : '/' ∉ name) (hfinal : final ≠ '/')
    (h : t.Leads (directory ++ [last] ++ '/' :: (name ++ [final])) l) (depth : Nat) :
    makeDirectories (depth + 1) (directory ++ [last] ++ '/' :: (name ++ [final])) t = (t, none) := by
  have hname : '/' ∉ name ++ [final] := by
    simp [hslash, hfinal.symm]
  have hparts : lastParts (directory ++ [last] ++ '/' :: (name ++ [final]))
      = (directory ++ [last], name ++ [final]) := by
    unfold lastParts
    rw [splitPath_child hlast hname]
    exact if_neg (by simp)
  have hparent : t.Leads (directory ++ [last]) (ofPath workingDirectory (directory ++ [last])) :=
    leads_of_resolve_child (by simp) hname h.resolve
  have hthere : t.hasPath (directory ++ [last]) := by
    rw [hasPath_eq, hparent.resolve]
    dsimp only
    rw [hparent.opens.directory, Bool.or_true]
  have hmade : t.makeDirectory (directory ++ [last] ++ '/' :: (name ++ [final])) = .ok t := by
    have htrim := @trimSlashes_of_last (directory ++ [last] ++ '/' :: name) final hfinal
    rw [List.append_assoc, List.cons_append] at htrim
    unfold makeDirectory
    rw [htrim, h.resolve]
    dsimp only
    rw [h.opens.file, if_neg (by simp), if_pos h.opens.directory]
  rw [makeDirectories_succ, hparts, hthere, Bool.or_true, if_pos rfl, makeLast, hmade]

/-! ### Writing files -/

/-- What is written is a file where there was none. -/
structure Writes (t : FileTree) (path : Text) (l : Location) : Prop where
  resolve : t.resolve path = .ok l
  file : t.file? l = none
  directory : t.isDirectory l = false

theorem write_eq_ok_iff {path : Text} {bytes : Bytes} {seconds : Option Int} :
    t.write path bytes seconds = .ok t'
      ↔ ∃ l, t.resolve path = .ok l ∧ t.isDirectory l = false ∧ t' = t.put l bytes seconds := by
  unfold write
  rw [bind_eq_ok_iff]
  refine exists_congr fun l => and_congr_right fun _ => ?_
  by_cases hdirectory : t.isDirectory l
  · rw [if_pos hdirectory, hdirectory]
    exact ⟨fun h => (by cases h), fun h => (by cases h.1)⟩
  · rw [if_neg hdirectory, Bool.not_eq_true] at *
    constructor
    · intro h
      cases h
      exact ⟨hdirectory, rfl⟩
    · rintro ⟨_, rfl⟩
      rfl

/-- The tree that a file is put into: one in which there is a directory for it. -/
def prepared (t : FileTree) (l : Location) : FileTree :=
  if (t.file? l).isSome then t else (t.addAncestors l).touch l.dropLast

theorem addAncestors_spec (t : FileTree) (l : Location) :
    (t.addAncestors l).files = t.files ∧ t.Extends (t.addAncestors l) := by
  unfold addAncestors
  induction l.ancestors generalizing t with
  | nil => exact ⟨rfl, .refl t⟩
  | cons place places ih =>
    obtain ⟨hfiles, hextends⟩ := ih (t.addDirectory place)
    exact ⟨hfiles.trans (files_addDirectory t place), (extends_addDirectory t place).trans hextends⟩

theorem prepared_spec (t : FileTree) (l : Location) :
    (t.prepared l).files = t.files ∧ t.Extends (t.prepared l) := by
  unfold prepared
  split
  · exact ⟨rfl, .refl t⟩
  · obtain ⟨hfiles, hextends⟩ := addAncestors_spec t l
    exact ⟨hfiles, hextends.trans (extends_touch _ _)⟩

section Put

variable (t : FileTree) (l : Location) (bytes : Bytes) (seconds : Option Int)

/-- A file that is put at a location leaves all others alone. -/
theorem file?_put_place :
    ∃ stamp, ∀ place, (t.put l bytes seconds).file? place
      = if place = l then some ⟨bytes, stamp⟩ else t.file? place := by
  refine ⟨(seconds.map Stamp.set).getD (t.prepared l).nextStamp, fun place => ?_⟩
  show ((l, _) :: (t.prepared l).files.filter _).lookup place = _
  rw [(prepared_spec t l).1, lookup_replaced]
  rfl

end Put

/-- A file that is written where there was none leaves all others alone. -/
theorem Writes.extends {path : Text} {l : Location} (h : t.Writes path l) (bytes : Bytes)
    (seconds : Option Int) : t.Extends (t.put l bytes seconds) := by
  have hextends : t.Extends (t.prepared l) := (prepared_spec t l).2
  have hdirectory : ∀ {place}, t.isDirectory place → (t.put l bytes seconds).isDirectory place :=
    fun {_} hplace => hextends.directory hplace
  refine ⟨fun {place file} hfile => ?_, hdirectory, fun {place} hopens => ⟨?_, hdirectory hopens.directory⟩⟩
  · obtain ⟨stamp, hput⟩ := file?_put_place t l bytes seconds
    rw [hput, if_neg]
    · exact hfile
    · rintro rfl
      rw [h.file] at hfile
      cases hfile
  · obtain ⟨stamp, hput⟩ := file?_put_place t l bytes seconds
    rw [hput, if_neg]
    · exact hopens.file
    · rintro rfl
      have hplace := hopens.directory
      rw [h.directory] at hplace
      cases hplace

theorem isDirectory_addDirectory {place l : Location} (h : l.length < place.length) :
    (t.addDirectory l).isDirectory place = t.isDirectory place := by
  have hne : place ≠ l := fun heq => absurd h (by rw [heq]; exact Nat.lt_irrefl _)
  have hne' : place ≠ l.dropLast := by
    intro heq
    have hlength : l.dropLast.length = l.length - 1 := List.length_dropLast
    rw [heq, hlength] at h
    omega
  unfold addDirectory
  split
  · rfl
  · rw [isDirectory_touch, isDirectory_touch, decide_eq_false hne, decide_eq_false hne']
    rfl

theorem isDirectory_foldl_addDirectory {place : Location} {places : List Location}
    (h : ∀ l ∈ places, l.length < place.length) :
    (places.foldl addDirectory t).isDirectory place = t.isDirectory place := by
  induction places generalizing t with
  | nil => rfl
  | cons l places ih =>
    rw [List.forall_mem_cons] at h
    rw [List.foldl_cons, ih h.2, isDirectory_addDirectory h.1]

/-- Directories that are made for a file lie above it. -/
theorem isDirectory_put {l place : Location} (hl : l ≠ []) (h : l.length ≤ place.length)
    (bytes : Bytes) (seconds : Option Int) :
    (t.put l bytes seconds).isDirectory place = t.isDirectory place := by
  have hpositive : 0 < l.length := List.length_pos_iff.mpr hl
  have hancestors : (t.addAncestors l).isDirectory place = t.isDirectory place := by
    refine isDirectory_foldl_addDirectory fun other hother => ?_
    obtain ⟨n, hn, rfl⟩ := List.mem_map.mp hother
    rw [List.length_take]
    have hlt : n < l.length := List.mem_range.mp hn
    omega
  have hne : place ≠ l.dropLast := by
    intro heq
    have hlength : l.dropLast.length = l.length - 1 := List.length_dropLast
    rw [heq, hlength] at h
    omega
  show (t.prepared l).isDirectory place = _
  unfold prepared
  split
  · rfl
  · rw [isDirectory_touch, decide_eq_false hne, Bool.false_or, hancestors]

end ShaderPlayer.FileTree
