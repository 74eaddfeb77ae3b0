/-
What a server's texts are kept as.

Texts are kept in one directory of the user's home, each under the cache name of its path.

* `plain_cacheName`, `keptAt_eq_iff` — a cache name is one name, so two paths have one place exactly
  if they have one cache name;
* `places_cachePath` — looking for the place makes directories at most;
* `answers_download` — what a server's response comes to;
* `fetches_fetchCached` — a text is read from its place, or downloaded and written there.
-/
import ShaderPlayer.Include.Source
import ShaderPlayer.Proofs.Outside.Tree
import ShaderPlayer.Proofs.Text.Stored

namespace ShaderPlayer.Include

open Location

/-! ### Cache names -/

theorem cut_single {c : Char} {t : Text} :
    match Text.cut [c] t with
    | none => c ∉ t
    | some (before, after) => c ∉ before ∧ t = before ++ c :: after := by
  induction t with
  | nil => exact List.not_mem_nil
  | cons d rest ih =>
    unfold Text.cut
    by_cases hd : c = d
    · subst hd
      rw [if_pos (by simp [List.isPrefixOf])]
      exact ⟨List.not_mem_nil, rfl⟩
    · rw [if_neg (by simpa [List.isPrefixOf] using hd)]
      rcases hcut : Text.cut [c] rest with _ | ⟨before, after⟩
      all_goals
        rw [hcut] at ih
        dsimp only [Option.map_none, Option.map_some] at ih ⊢
      · exact List.not_mem_cons_of_ne_of_not_mem hd ih
      · exact ⟨List.not_mem_cons_of_ne_of_not_mem hd ih.1, by rw [ih.2, List.cons_append]⟩

/-- A character is replaced wherever it stands. -/
theorem replace_single (c : Char) (substitute t : Text) :
    Text.replace [c] substitute t = t.flatMap fun d => if d = c then substitute else [d] := by
  have hkept : ∀ {before : Text}, c ∉ before →
      (before.flatMap fun d => if d = c then substitute else [d]) = before := by
    intro before hbefore
    induction before with
    | nil => rfl
    | cons d before ih =>
      rw [List.mem_cons, not_or] at hbefore
      rw [List.flatMap_cons, if_neg (Ne.symm hbefore.1), ih hbefore.2, List.singleton_append]
  induction hlength : t.length using Nat.strongRecOn generalizing t with
  | ind n ih =>
    have hcut := @cut_single c t
    rw [Text.replace, dif_neg (by simp)]
    split
    · next hnone =>
      rw [hnone] at hcut
      exact (hkept hcut).symm
    · next before after hsome =>
      rw [hsome] at hcut
      obtain ⟨hbefore, rfl⟩ := hcut
      have hshort : after.length < n := by
        rw [← hlength, List.length_append, List.length_cons]
        omega
      rw [ih after.length hshort after rfl, List.flatMap_append, List.flatMap_cons, if_pos rfl,
        hkept hbefore, List.append_assoc]

/-- A cache name is the name of a file in a directory. -/
theorem plain_cacheName (path : Text) : Plain (cacheName path) := by
  have hlength : 5 ≤ (cacheName path).length := by
    rw [cacheName, List.length_append]
    exact Nat.le_add_left 5 _
  refine ⟨?_, ?_, ?_, ?_⟩
  · intro h
    rw [h] at hlength
    cases hlength
  · intro h
    rw [h] at hlength
    exact absurd hlength (by decide)
  · intro h
    rw [h] at hlength
    exact absurd hlength (by decide)
  · rw [cacheName, replace_single, List.mem_append, List.mem_flatMap]
    rintro (⟨d, _, hd⟩ | h)
    · split at hd
      · exact absurd hd (by decide)
      · next hne => exact hne (List.mem_singleton.mp hd).symm
    · exact absurd h (by decide)

/-! ### The cache directory -/

/-- The user's cache directory. -/
def cacheHome? (environment : Entries Text) : Option Text :=
  environment.lookup "XDG_CACHE_HOME".toList
    <|> (environment.lookup "HOME".toList).map fun home => joinPath home ".cache".toList

/-- The directory for the texts of includes. -/
def cacheRoot (home : Text) : Text :=
  joinPath (joinPath home "codeskew".toList) "includes".toList

/-- The fault that stands for one while directories are made. -/
def blocked (path : Text) : Fault → Fault
  | .file defect stopped => .cacheDirectory path defect stopped
  | fault => fault

theorem setting_eq (name : Text) (o : Outside) :
    Outside.setting name o
      = match o.environment.lookup name with
        | some value => .ok value o
        | none => .error (.unknownKey name) o := by
  show (match o.environment.lookup name with
    | some value => pure value
    | none => throw (.unknownKey name) : Reach Text) o = _
  rcases o.environment.lookup name with _ | value <;> rfl

theorem cacheHome_eq (o : Outside) :
    Outside.cacheHome "linux".toList o
      = match cacheHome? o.environment with
        | some home => .ok home o
        | none => .error (.unknownKey "HOME".toList) o := by
  show (match o.environment.lookup "XDG_CACHE_HOME".toList with
    | some home => pure home
    | none => do
      return joinPath (← Outside.setting "HOME".toList) ".cache".toList : Reach Text) o = _
  unfold cacheHome?
  rcases o.environment.lookup "XDG_CACHE_HOME".toList with _ | home
  · have hhome := setting_eq "HOME".toList o
    rcases h : o.environment.lookup "HOME".toList with _ | home
    · rw [h] at hhome
      exact run_bind_of_error hhome
    · rw [h] at hhome
      exact run_bind_of_ok hhome
  · rfl

theorem makeDirectories_eq (path : Text) (o : Outside) :
    Outside.makeDirectories path o
      = match FileTree.makeDirectories (path.length + 1) path o.files with
        | (files, none) => .ok () { o with files }
        | (files, some fault) => .error fault { o with files } := by
  unfold Outside.makeDirectories
  rw [run_bind_of_ok (show (get : Reach Outside) o = .ok o o from rfl)]
  rcases FileTree.makeDirectories (path.length + 1) path o.files with ⟨files, _ | fault⟩ <;> rfl

theorem cacheDirectory_eq (o : Outside) :
    Outside.cacheDirectory "linux".toList "includes".toList o
      = match cacheHome? o.environment with
        | none => .error (.unknownKey "HOME".toList) o
        | some home =>
          match FileTree.makeDirectories ((cacheRoot home).length + 1) (cacheRoot home) o.files with
          | (files, none) => .ok (cacheRoot home) { o with files }
          | (files, some fault) => .error (blocked (cacheRoot home) fault) { o with files } := by
  have hhome := cacheHome_eq o
  rcases h : cacheHome? o.environment with _ | home
  · rw [h] at hhome
    exact run_bind_of_error hhome
  · rw [h] at hhome
    refine (run_bind_of_ok hhome).trans ?_
    have hmake := makeDirectories_eq (cacheRoot home) o
    dsimp only
    rcases hdirectories : FileTree.makeDirectories ((cacheRoot home).length + 1) (cacheRoot home)
      o.files with ⟨files, _ | fault⟩
    all_goals rw [hdirectories] at hmake
    · exact run_bind_eq_ok_iff.mpr
        ⟨_, _, run_tryCatch_of_ok (run_bind_eq_ok_iff.mpr ⟨_, _, hmake, rfl⟩), rfl⟩
    · refine run_bind_of_error ((run_tryCatch_of_error (run_bind_of_error hmake)).trans ?_)
      cases fault <;> rfl

/-- The directory for the texts of includes, for an environment. -/
def keeping (environment : Entries Text) : Text :=
  cacheRoot ((cacheHome? environment).getD [])

/-- The path of the file that keeps a path's text. -/
def keptPath (environment : Entries Text) (path : Text) : Text :=
  joinPath (keeping environment) (cacheName path)

/-- Where the file is. -/
def keptAt (environment : Entries Text) (path : Text) : Location :=
  ofPath workingDirectory (keptPath environment path)

theorem joinPath_of_last {directory name : Text} {last : Char} (hlast : last ≠ '/')
    (hname : isAbsolute name = false) :
    joinPath (directory ++ [last]) name = directory ++ [last] ++ '/' :: name := by
  unfold joinPath
  rw [if_neg (by rw [hname]; exact Bool.false_ne_true), if_neg]
  simpa using hlast

theorem isAbsolute_of_slash {name : Text} (h : '/' ∉ name) : isAbsolute name = false := by
  rcases name with _ | ⟨c, name⟩
  · rfl
  · refine decide_eq_false fun hc => h ?_
    cases hc
    exact List.mem_cons_self

/-- The directory's path ends in the names of two directories. -/
theorem cacheRoot_eq (home : Text) :
    ∃ program, cacheRoot home = program ++ ['w'] ++ '/' :: ("include".toList ++ ['s']) := by
  have hprogram : ∃ above, joinPath home "codeskew".toList = above ++ ['w'] := by
    unfold joinPath
    rw [if_neg (by decide)]
    split
    · exact ⟨home ++ "codeske".toList, by rw [List.append_assoc]; rfl⟩
    · exact ⟨home ++ '/' :: "codeske".toList, by rw [List.append_assoc]; rfl⟩
  obtain ⟨above, habove⟩ := hprogram
  refine ⟨above, ?_⟩
  rw [cacheRoot, habove]
  exact joinPath_of_last (by decide) (by decide)

theorem keptPath_eq (environment : Entries Text) (path : Text) :
    keptPath environment path = keeping environment ++ '/' :: cacheName path := by
  obtain ⟨program, hprogram⟩ := cacheRoot_eq ((cacheHome? environment).getD [])
  unfold keptPath keeping
  rw [hprogram, ← List.cons_append, ← List.append_assoc]
  exact joinPath_of_last (by decide) (isAbsolute_of_slash (plain_cacheName path).slash)

theorem keeping_ne_nil (environment : Entries Text) : keeping environment ≠ [] := by
  obtain ⟨program, hprogram⟩ := cacheRoot_eq ((cacheHome? environment).getD [])
  rw [keeping, hprogram]
  simp

/-- All texts are kept in one directory, each under its cache name. -/
theorem keptAt_eq (environment : Entries Text) (path : Text) :
    keptAt environment path
      = ofPath workingDirectory (keeping environment) ++ [cacheName path] := by
  rw [keptAt, keptPath_eq]
  exact ofPath_child workingDirectory (keeping_ne_nil environment) (plain_cacheName path)

theorem keptAt_eq_iff {environment : Entries Text} {path other : Text} :
    keptAt environment path = keptAt environment other ↔ cacheName path = cacheName other := by
  rw [keptAt_eq, keptAt_eq, List.append_cancel_left_eq, List.singleton_inj]

/-! ### One look-up -/

/-- A tree with more directories. -/
structure Made (t t' : FileTree) : Prop where
  files : t'.files = t.files
  grown : t.Extends t'

theorem Made.file? {t t' : FileTree} (h : Made t t') (l : Location) : t'.file? l = t.file? l := by
  unfold FileTree.file?
  rw [h.files]

/-- How looking for the place of a path's text ends. -/
inductive Places (path : Text) (o : Outside) : EStateM.Result Fault Outside Text → Prop
  | failed (fault : Fault) {files : FileTree} (made : Made o.files files) :
      Places path o (.error fault { o with files })
  | found {files : FileTree} (home : (cacheHome? o.environment).isSome)
      (directories : FileTree.makeDirectories ((keeping o.environment).length + 1)
        (keeping o.environment) o.files = (files, none)) (made : Made o.files files) :
      Places path o (.ok (keptPath o.environment path) { o with files })

theorem places_cachePath (path : Text) (o : Outside) : Places path o (cachePath path o) := by
  have hdirectory := cacheDirectory_eq o
  have hroot : ∀ home, cacheHome? o.environment = some home →
      keeping o.environment = cacheRoot home := by
    intro home hhome
    rw [keeping, hhome, Option.getD_some]
  unfold cachePath
  rcases h : cacheHome? o.environment with _ | home
  · rw [h] at hdirectory
    rw [run_bind_of_error hdirectory]
    exact .failed _ ⟨rfl, .refl _⟩
  · obtain ⟨hfiles, hgrown⟩ := FileTree.makeDirectories_spec ((cacheRoot home).length + 1)
      (cacheRoot home) o.files
    rw [h] at hdirectory
    dsimp only at hdirectory
    rcases hmake : FileTree.makeDirectories ((cacheRoot home).length + 1) (cacheRoot home) o.files
      with ⟨files, _ | fault⟩
    all_goals rw [hmake] at hdirectory hfiles hgrown
    · rw [← hroot home h] at hmake
      rw [run_bind_of_ok hdirectory, ← hroot home h]
      exact .found (by rw [h]; rfl) hmake ⟨hfiles, hgrown⟩
    · rw [run_bind_of_error hdirectory]
      exact .failed _ ⟨hfiles, hgrown⟩

/-- The address that a path's text is downloaded from. -/
def address (base path : Text) : Text := base ++ path ++ extension

/-- What is made of a response. -/
def respond (address : Text) (response : Response) : Reach (Option Text) := do
  let failed := "Failed to fetch include ".toList ++ address
  match response with
  | .answer 200 text => return some text
  | .answer status _ =>
    Outside.note ⟨.warning, failed ++ " with status code ".toList ++ Text.ofInt status⟩
    return none
  | .unreachable message =>
    Outside.note ⟨.warning, failed ++ ": ".toList ++ message⟩
    return none
  | .breakdown message => throw (.breakdown message)

theorem download_eq (base path : Text) (o : Outside) :
    download base path o
      = respond (address base path)
          ((o.servers.lookup (address base path)).getD (.unreachable "offline".toList))
          { o with requests := o.requests.push (address base path) } := rfl

theorem respond_of_status {status : Int} (h : status ≠ 200) (address text : Text) :
    respond address (.answer status text) = (do
      Outside.note ⟨.warning, "Failed to fetch include ".toList ++ address
        ++ " with status code ".toList ++ Text.ofInt status⟩
      return none) := by
  unfold respond
  split
  · next heq =>
    cases heq
    exact absurd rfl h
  · next heq =>
    cases heq
    rfl
  · next heq => cases heq
  · next heq => cases heq

/-- The text that a server has at an address. -/
def delivered? (servers : Entries Response) (address : Text) : Option Text :=
  match servers.lookup address with
  | some (.answer status text) => if status = 200 then some text else none
  | _ => none

theorem delivered_eq_some_iff {servers : Entries Response} {address text : Text} :
    delivered? servers address = some text ↔ servers.lookup address = some (.answer 200 text) := by
  unfold delivered?
  rcases servers.lookup address with _ | ⟨status, found⟩ | message | message
  · exact ⟨fun h => (by cases h), fun h => (by cases h)⟩
  · dsimp only
    by_cases hstatus : status = 200
    · rw [if_pos hstatus, hstatus]
      constructor
      · intro h
        cases h
        rfl
      · intro h
        cases h
        rfl
    · rw [if_neg hstatus]
      refine ⟨fun h => (by cases h), fun h => ?_⟩
      cases h
      exact absurd rfl hstatus
  · exact ⟨fun h => (by cases h), fun h => (by cases h)⟩
  · exact ⟨fun h => (by cases h), fun h => (by cases h)⟩

/-- How a download ends. -/
inductive Answers (base path : Text) (o : Outside) :
    EStateM.Result Fault Outside (Option Text) → Prop
  | refused {notes : Array Note} (undelivered : delivered? o.servers (address base path) = none) :
      Answers base path o
        (.ok none { o with requests := o.requests.push (address base path), notes })
  | failed (fault : Fault) (undelivered : delivered? o.servers (address base path) = none) :
      Answers base path o
        (.error fault { o with requests := o.requests.push (address base path) })
  | given {text : Text} (delivered : delivered? o.servers (address base path) = some text) :
      Answers base path o
        (.ok (some text) { o with requests := o.requests.push (address base path) })

theorem answers_download (base path : Text) (o : Outside) :
    Answers base path o (download base path o) := by
  rw [download_eq]
  rcases h : o.servers.lookup (address base path) with _ | ⟨status, text⟩ | message | message
  · exact .refused (by rw [delivered?, h])
  · by_cases hstatus : status = 200
    · subst hstatus
      exact .given (delivered_eq_some_iff.mpr h)
    · rw [Option.getD_some, respond_of_status hstatus]
      refine .refused ?_
      rw [delivered?, h]
      exact if_neg hstatus
  · exact .refused (by rw [delivered?, h])
  · exact .failed _ (by rw [delivered?, h])

theorem download_of_delivered {base path text : Text} {o : Outside}
    (h : delivered? o.servers (address base path) = some text) :
    download base path o
      = .ok (some text) { o with requests := o.requests.push (address base path) } := by
  rw [download_eq, delivered_eq_some_iff.mp h]
  rfl

/-- Keeps a text that was downloaded. -/
def keep (path text : Text) : Reach (Option Text) := do
  Outside.write (← cachePath path) text.encode
  return some text

/-- A look-up once the place of the path's text is known. -/
theorem fetchCached_of_found {base path place : Text} {o between : Outside}
    (h : cachePath path o = .ok place between) :
    fetchCached base path o
      = if between.files.hasPath place then
          match between.files.readText place with
          | .ok text => .ok (some text) between
          | .error fault => .error fault between
        else match download base path between with
          | .ok (some text) after => keep path text after
          | .ok none after => .ok none after
          | .error fault after => .error fault after := by
  have hcached : cached? path o
      = (if between.files.hasPath place then do return some (← Outside.readText place)
          else return none : Reach (Option Text)) between := run_bind_of_ok h
  unfold fetchCached
  by_cases hpath : between.files.hasPath place
  · rw [if_pos hpath] at hcached ⊢
    have hread : Outside.readText place between
        = (MonadExcept.ofExcept (between.files.readText place) : Reach Text) between := rfl
    rcases hend : between.files.readText place with fault | text
    all_goals rw [hend] at hread
    · exact run_bind_of_error (hcached.trans (run_bind_of_error hread))
    · exact run_bind_eq_ok_iff.mpr ⟨_, _, hcached.trans (run_bind_of_ok hread), rfl⟩
  · rw [if_neg hpath] at hcached ⊢
    rw [run_bind_of_ok (hcached.trans rfl)]
    rcases hdownload : download base path between with ⟨_ | text, after⟩ | ⟨fault, after⟩
    · exact run_bind_eq_ok_iff.mpr ⟨_, _, hdownload, rfl⟩
    · exact run_bind_of_ok hdownload
    · exact run_bind_of_error hdownload

theorem write_eq (place : Text) (bytes : Bytes) (o : Outside) :
    Outside.write place bytes o
      = match o.files.write place bytes none, o.files.resolve place with
        | .ok files, .ok l => .ok () { o with files, pictures := o.pictures.filter (·.1 != l) }
        | .ok _, .error fault => .error fault o
        | .error fault, _ => .error fault o := by
  show (do
    let files ← MonadExcept.ofExcept (o.files.write place bytes none)
    let l ← MonadExcept.ofExcept (o.files.resolve place)
    set ({ o with files := files, pictures := o.pictures.filter (·.1 != l) } : Outside) : Reach Unit) o = _
  rcases o.files.write place bytes none with fault | files
  · rfl
  · rcases o.files.resolve place with fault | l <;> rfl

/-- What a look-up leaves as it was: the files, and what says where they are kept. -/
structure Leaves (o after : Outside) : Prop where
  environment : after.environment = o.environment
  made : Made o.files after.files

/-- How a look-up ends. -/
inductive Fetches (base path : Text) (o : Outside) :
    EStateM.Result Fault Outside (Option Text) → Prop
  | stopped (fault : Fault) {after : Outside} (leaves : Leaves o after) :
      Fetches base path o (.error fault after)
  | missing {after : Outside} (leaves : Leaves o after) : Fetches base path o (.ok none after)
  /-- The text was there already. -/
  | served {file : File} {text : Text} {after : Outside} (leaves : Leaves o after)
      (requests : after.requests = o.requests)
      (kept : o.files.file? (keptAt o.environment path) = some file)
      (read : FileTree.File.text file = .ok text) : Fetches base path o (.ok (some text) after)
  /-- The text was asked for, and is there now. -/
  | downloaded {stamp : Stamp} {text : Text} {after : Outside}
      (environment : after.environment = o.environment)
      (requests : after.requests = o.requests.push (address base path))
      (answer : o.servers.lookup (address base path) = some (.answer 200 text))
      (written : ∀ place, after.files.file? place
        = if place = keptAt o.environment path then some ⟨text.encode, stamp⟩
          else o.files.file? place) : Fetches base path o (.ok (some text) after)

theorem fetches_served {base path : Text} {o : Outside} {files : FileTree}
    (made : Made o.files files) :
    Fetches base path o
      (match files.readText (keptPath o.environment path) with
        | .ok text => .ok (some text) { o with files }
        | .error fault => .error fault { o with files }) := by
  rcases hread : files.readText (keptPath o.environment path) with fault | text
  · exact .stopped fault ⟨rfl, made⟩
  · obtain ⟨file, hat, htext⟩ := bind_eq_ok_iff.mp hread
    obtain ⟨l, hresolve, hfile⟩ := FileTree.fileAt_eq_ok_iff.mp hat
    obtain rfl : l = keptAt o.environment path := FileTree.eq_ofPath_of_resolve hresolve
    rw [made.file?] at hfile
    exact .served ⟨rfl, made⟩ rfl hfile htext

/-- A text that was downloaded is given once it is kept. -/
theorem fetches_keep {base path text : Text} {o asked : Outside}
    (environment : asked.environment = o.environment) (made : Made o.files asked.files)
    (requests : asked.requests = o.requests.push (address base path))
    (answer : o.servers.lookup (address base path) = some (.answer 200 text)) :
    Fetches base path o (keep path text asked) := by
  have hplaces := places_cachePath path asked
  unfold keep
  rcases hfound : cachePath path asked with ⟨place, between⟩ | ⟨fault, between⟩
  all_goals rw [hfound] at hplaces
  · cases hplaces with
    | @found files _ _ again =>
    have hmade : Made o.files files := ⟨again.files.trans made.files, made.grown.trans again.grown⟩
    rw [run_bind_of_ok hfound]
    have hwrite := write_eq (keptPath asked.environment path) text.encode { asked with files }
    rcases hend : files.write (keptPath asked.environment path) text.encode none with fault | written
    · rw [hend] at hwrite
      rw [run_bind_of_error hwrite]
      exact .stopped fault ⟨environment, hmade⟩
    · obtain ⟨l, hresolve, _, rfl⟩ := FileTree.write_eq_ok_iff.mp hend
      obtain rfl : l = keptAt asked.environment path := FileTree.eq_ofPath_of_resolve hresolve
      rw [hend, hresolve] at hwrite
      rw [run_bind_of_ok hwrite]
      obtain ⟨stamp, hput⟩ :=
        FileTree.file?_put_place files (keptAt asked.environment path) text.encode none
      rw [environment] at hput ⊢
      have hwritten : ∀ place, _ = if place = keptAt o.environment path then
          some ⟨text.encode, stamp⟩ else o.files.file? place :=
        fun place => (hput place).trans (by rw [hmade.file?])
      exact .downloaded rfl requests answer hwritten
  · cases hplaces with
    | @failed _ files again =>
    rw [run_bind_of_error hfound]
    exact .stopped fault ⟨environment, again.files.trans made.files, made.grown.trans again.grown⟩

theorem fetches_fetchCached (base path : Text) (o : Outside) :
    Fetches base path o (fetchCached base path o) := by
  have hplaces := places_cachePath path o
  rcases hfound : cachePath path o with ⟨place, between⟩ | ⟨fault, between⟩
  all_goals rw [hfound] at hplaces
  · cases hplaces with
    | @found files _ _ made =>
    rw [fetchCached_of_found hfound]
    split
    · exact fetches_served made
    · have hanswers := answers_download base path { o with files }
      rcases hdownload : download base path { o with files } with ⟨text, after⟩ | ⟨fault, after⟩
      all_goals rw [hdownload] at hanswers
      · cases hanswers with
        | refused _ => exact .missing ⟨rfl, made⟩
        | given answer => exact fetches_keep rfl made rfl (delivered_eq_some_iff.mp answer)
      · cases hanswers with
        | failed fault _ => exact .stopped fault ⟨rfl, made⟩
  · cases hplaces with
    | @failed _ files made =>
    have hcached : cached? path o = .error fault { o with files } := run_bind_of_error hfound
    unfold fetchCached
    rw [run_bind_of_error hcached]
    exact .stopped fault ⟨rfl, made⟩

end ShaderPlayer.Include
