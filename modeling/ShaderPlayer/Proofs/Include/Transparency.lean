/-
Texts that are fetched again.

A text that was downloaded is read back from then on.  A run cannot tell where its texts come from,
as long as they have the lines that they would have if nothing was kept.

* `Entry`, `fetchCached_of_ready` — a look-up is decided by what is in a path's place;
* `Shelved`, `shelved_passing` — a text that is kept stays, whatever is asked of whichever server;
* `Stands`, `agreeing_resolver` — two look-ups agree for good when one has a text to read that the
  other has to download;
* `fetch_again` — a text is downloaded first and then read back, and a shader is preprocessed to the
  same source where its lines hold no carriage return.
-/
import ShaderPlayer.Proofs.Include.History
import ShaderPlayer.Proofs.Shader.Simulation

namespace ShaderPlayer.Include

open Location Shader

/-! ### Trees with a place for texts -/

/-- The location of the directory for texts. -/
def shelf (environment : Entries Text) : Location := ofPath workingDirectory (keeping environment)

/-- The directory for texts can be made, which leads to another tree. -/
structure Ready (environment : Entries Text) (files ready : FileTree) : Prop where
  home : (cacheHome? environment).isSome
  made : FileTree.makeDirectories ((keeping environment).length + 1) (keeping environment) files
    = (ready, none)
  leads : ready.Leads (keeping environment) (shelf environment)

theorem cachePath_of_ready {o : Outside} {ready : FileTree} (h : Ready o.environment o.files ready)
    (path : Text) :
    cachePath path o = .ok (keptPath o.environment path) { o with files := ready } := by
  obtain ⟨home, hhome⟩ := Option.isSome_iff_exists.mp h.home
  have hkeeping : keeping o.environment = cacheRoot home := by
    rw [keeping, hhome, Option.getD_some]
  have hdirectory := cacheDirectory_eq o
  have hmade := h.made
  rw [hkeeping] at hmade
  rw [hhome] at hdirectory
  dsimp only at hdirectory
  rw [hmade] at hdirectory
  unfold cachePath keptPath
  rw [run_bind_of_ok hdirectory, hkeeping]
  rfl

/-- A directory for texts that is there is not made again. -/
theorem ready_of_leads {environment : Entries Text} {files : FileTree}
    (hhome : (cacheHome? environment).isSome)
    (h : files.Leads (keeping environment) (shelf environment)) : Ready environment files files := by
  obtain ⟨program, hprogram⟩ := cacheRoot_eq ((cacheHome? environment).getD [])
  refine ⟨hhome, ?_, h⟩
  unfold keeping at h ⊢
  rw [hprogram] at h ⊢
  exact FileTree.makeDirectories_of_leads (by decide) (by decide) (by decide) h _

/-! ### Entries -/

/-- What a tree has for a path's text. -/
inductive Entry where
  /-- A file, which may have a text, or something else. -/
  | kept (text : Except Fault Text)
  /-- Nothing, and a file can be written. -/
  | free
  /-- Nothing, and no file can be written. -/
  | barred (fault : Fault)

/-- The entry at a place. -/
def entry (t : FileTree) (place : Text) : Entry :=
  match t.resolve place with
  | .error fault => .barred fault
  | .ok l =>
    match t.file? l with
    | some file => .kept (FileTree.File.text file)
    | none => if t.isDirectory l then .kept (.error (.file .isDirectory place)) else .free

/-- An entry is decided by what is at the place. -/
theorem entry_congr {t t' : FileTree} {place : Text} (hresolve : t.resolve place = t'.resolve place)
    (hsame : ∀ {l}, t.resolve place = .ok l →
      t.file? l = t'.file? l ∧ t.isDirectory l = t'.isDirectory l) :
    entry t place = entry t' place := by
  unfold entry
  rw [← hresolve]
  rcases h : t.resolve place with fault | l
  · rfl
  · obtain ⟨hfile, hdirectory⟩ := hsame h
    dsimp only
    rw [hfile, hdirectory]

theorem entry_of_hasPath {t : FileTree} {place : Text} (h : t.hasPath place) :
    entry t place = .kept (t.readText place) := by
  rw [FileTree.hasPath_eq] at h
  unfold entry FileTree.readText FileTree.fileAt
  rcases hresolve : t.resolve place with fault | l
  all_goals rw [hresolve] at h
  · cases h
  · simp only [bind, Except.bind] at h ⊢
    rcases hfile : t.file? l with _ | file
    · rw [hfile] at h
      have hdirectory : t.isDirectory l := h
      dsimp only
      rw [hdirectory]
      rfl
    · rfl

/-- Where there is nothing, a file can be written or not. -/
theorem entry_of_not_hasPath {t : FileTree} {place : Text} (h : t.hasPath place = false) :
    (∃ l, entry t place = .free ∧ t.Writes place l)
      ∨ ∃ fault, entry t place = .barred fault ∧ t.resolve place = .error fault := by
  rw [FileTree.hasPath_eq] at h
  unfold entry
  rcases hresolve : t.resolve place with fault | l
  · exact .inr ⟨fault, rfl, rfl⟩
  · rw [hresolve] at h
    dsimp only at h ⊢
    rw [Bool.or_eq_false_iff] at h
    have hfile : t.file? l = none := Option.isSome_eq_false_iff.mp h.1 |> Option.isNone_iff_eq_none.mp
    rw [hfile, h.2]
    exact .inl ⟨l, rfl, hresolve, hfile, h.2⟩

theorem writes_of_free {environment : Entries Text} {t : FileTree} {path : Text}
    (h : entry t (keptPath environment path) = .free) :
    t.Writes (keptPath environment path) (keptAt environment path) := by
  by_cases hpath : t.hasPath (keptPath environment path)
  · rw [entry_of_hasPath hpath] at h
    cases h
  rw [Bool.not_eq_true] at hpath
  rcases entry_of_not_hasPath hpath with ⟨l, _, hwrites⟩ | ⟨fault, hbarred, _⟩
  · obtain rfl : l = keptAt environment path := FileTree.eq_ofPath_of_resolve hwrites.resolve
    exact hwrites
  · rw [hbarred] at h
    cases h

/-! ### Look-ups -/

/-- The surroundings with a text kept at a location. -/
def shelve (l : Location) (text : Text) (o : Outside) : Outside :=
  { o with
    files := o.files.put l text.encode none
    pictures := o.pictures.filter (·.1 != l) }

section Keep

variable {o : Outside} {path : Text} (h : Ready o.environment o.files o.files) (text : Text)

include h

theorem keep_of_writes {l : Location} (hwrites : o.files.Writes (keptPath o.environment path) l) :
    keep path text o = .ok (some text) (shelve l text o) := by
  have hwrite := write_eq (keptPath o.environment path) text.encode o
  have hput : o.files.write (keptPath o.environment path) text.encode none = .ok _ :=
    FileTree.write_eq_ok_iff.mpr ⟨l, hwrites.resolve, hwrites.directory, rfl⟩
  rw [hput, hwrites.resolve] at hwrite
  unfold keep
  rw [run_bind_of_ok (cachePath_of_ready h path), run_bind_of_ok hwrite]
  rfl

theorem keep_of_barred {fault : Fault}
    (hbarred : o.files.resolve (keptPath o.environment path) = .error fault) :
    keep path text o = .error fault o := by
  have hwrite := write_eq (keptPath o.environment path) text.encode o
  have hput : o.files.write (keptPath o.environment path) text.encode none = .error fault := by
    unfold FileTree.write
    rw [hbarred]
    rfl
  rw [hput] at hwrite
  unfold keep
  rw [run_bind_of_ok (cachePath_of_ready h path), run_bind_of_error hwrite]

end Keep

/-- What a look-up does, by the entry for the path. -/
theorem fetchCached_of_ready {o : Outside} {ready : FileTree}
    (h : Ready o.environment o.files ready) (base path : Text) :
    let prepared : Outside := { o with files := ready }
    let place := keptPath o.environment path
    fetchCached base path o
      = match entry ready place with
        | .kept (.ok text) => .ok (some text) prepared
        | .kept (.error fault) => .error fault prepared
        | .free =>
          match download base path prepared with
          | .ok (some text) after => .ok (some text) (shelve (keptAt o.environment path) text after)
          | other => other
        | .barred fault =>
          match download base path prepared with
          | .ok (some _) after => .error fault after
          | other => other := by
  intro prepared place
  have hready : Ready o.environment ready ready := ready_of_leads h.home h.leads
  have hanswers := answers_download base path prepared
  rw [fetchCached_of_found (cachePath_of_ready h path)]
  by_cases hpath : ready.hasPath place
  · rw [if_pos hpath, entry_of_hasPath hpath]
    rcases ready.readText place with fault | text <;> rfl
  · rw [if_neg hpath]
    rw [Bool.not_eq_true] at hpath
    rcases entry_of_not_hasPath hpath with ⟨l, hentry, hwrites⟩ | ⟨fault, hentry, hbarred⟩
    all_goals
      rw [hentry]
      dsimp only
      rcases hdownload : download base path prepared with ⟨_ | text, after⟩ | ⟨fault', after⟩
    · rfl
    · rw [hdownload] at hanswers
      cases hanswers
      obtain rfl : l = keptAt o.environment path := FileTree.eq_ofPath_of_resolve hwrites.resolve
      exact keep_of_writes hready text hwrites
    · rfl
    · rfl
    · rw [hdownload] at hanswers
      cases hanswers
      exact keep_of_barred hready text hbarred
    · rfl

/-! ### Texts that are kept -/

/-- What a look-up leaves is the tree with the directory for texts, and in it the text if there was
none. -/
theorem left_fetchCached {o : Outside} {t : FileTree} (h : Ready o.environment o.files t)
    (base path : Text) :
    (left (fetchCached base path o)).environment = o.environment
      ∧ ((left (fetchCached base path o)).files = t
        ∨ entry t (keptPath o.environment path) = .free
          ∧ ∃ text : Text, (left (fetchCached base path o)).files
              = t.put (keptAt o.environment path) text.encode none) := by
  have hfetch := fetchCached_of_ready h base path
  have hanswers := answers_download base path { o with files := t }
  dsimp only at hfetch
  rw [hfetch]
  rcases hentry : entry t (keptPath o.environment path) with (fault | text) | _ | fault
  · exact ⟨rfl, .inl rfl⟩
  · exact ⟨rfl, .inl rfl⟩
  all_goals
    dsimp only
    rcases hdownload : download base path { o with files := t } with ⟨_ | text, after⟩ | ⟨fault', after⟩
  all_goals
    rw [hdownload] at hanswers
    cases hanswers
  · exact ⟨rfl, .inl rfl⟩
  · exact ⟨rfl, .inr ⟨rfl, text, rfl⟩⟩
  · exact ⟨rfl, .inl rfl⟩
  · exact ⟨rfl, .inl rfl⟩
  · exact ⟨rfl, .inl rfl⟩
  · exact ⟨rfl, .inl rfl⟩

/-- Looking up leaves what is there. -/
theorem extends_fetchCached {o : Outside} {t : FileTree} (h : Ready o.environment o.files t)
    (base path : Text) : t.Extends (left (fetchCached base path o)).files := by
  obtain ⟨_, hsame | ⟨hfree, text, hput⟩⟩ := left_fetchCached h base path
  · rw [hsame]
    exact .refl t
  · rw [hput]
    exact (writes_of_free hfree).extends text.encode none

/-- A tree keeps the text of a path. -/
structure Shelved (environment : Entries Text) (path text : Text) (t : FileTree) : Prop where
  home : (cacheHome? environment).isSome
  leads : t.Leads (keeping environment) (shelf environment)
  resolve : t.resolve (keptPath environment path) = .ok (keptAt environment path)
  file : ∃ stamp, t.file? (keptAt environment path) = some ⟨text.encode, stamp⟩

theorem Shelved.of_extends {environment : Entries Text} {path text : Text} {t t' : FileTree}
    (h : Shelved environment path text t) (hextends : t.Extends t') :
    Shelved environment path text t' := by
  obtain ⟨stamp, hfile⟩ := h.file
  exact ⟨h.home, hextends.leads h.leads, hextends.resolve h.resolve, stamp, hextends.file hfile⟩

theorem Shelved.entry {environment : Entries Text} {path text : Text} {t : FileTree}
    (h : Shelved environment path text t) :
    entry t (keptPath environment path) = .kept (.ok text.unifyNewlines) := by
  obtain ⟨stamp, hfile⟩ := h.file
  unfold Include.entry
  rw [h.resolve]
  dsimp only
  rw [hfile]
  dsimp only
  rw [Text.text_of_encode]

/-- A text that is kept is served, and nothing changes. -/
theorem fetchCached_of_shelved {o : Outside} {path text : Text}
    (h : Shelved o.environment path text o.files) (base : Text) :
    fetchCached base path o = .ok (some text.unifyNewlines) o := by
  have hfetch := fetchCached_of_ready (ready_of_leads h.home h.leads) base path
  dsimp only at hfetch
  rw [hfetch, h.entry]

theorem shelved_passing {o : Outside} {path text : Text}
    (h : Shelved o.environment path text o.files) (asks : List Ask) :
    (passing asks o).environment = o.environment
      ∧ Shelved o.environment path text (passing asks o).files := by
  induction asks using List.reverseRecOn with
  | nil => exact ⟨rfl, h⟩
  | append_singleton asks a ih =>
    obtain ⟨henvironment, hshelved⟩ := ih
    have hworld : (a.world (passing asks o)).environment = o.environment := henvironment
    have hready : Ready (a.world (passing asks o)).environment (a.world (passing asks o)).files
        (a.world (passing asks o)).files := by
      rw [hworld]
      exact ready_of_leads hshelved.home hshelved.leads
    rw [passing_snoc, Ask.perform, Source.fetch]
    exact ⟨(left_fetchCached hready a.base a.path).1.trans hworld,
      hshelved.of_extends (extends_fetchCached hready a.base a.path)⟩

/-! ### A text more in a tree -/

/-- A text that is put into the directory makes no directory in it. -/
theorem isDirectory_put_kept (environment : Entries Text) (t : FileTree) (path : Text)
    (bytes : Bytes) (name : Text) :
    (t.put (keptAt environment path) bytes none).isDirectory (shelf environment ++ [name])
      = t.isDirectory (shelf environment ++ [name]) := by
  have hplace : keptAt environment path = shelf environment ++ [cacheName path] :=
    keptAt_eq environment path
  refine FileTree.isDirectory_put ?_ ?_ bytes none
  · rw [hplace]
    exact List.append_ne_nil_of_right_ne_nil _ (List.cons_ne_nil _ _)
  · rw [hplace, List.length_append, List.length_append]
    exact Nat.le_refl _

section Put

variable {environment : Entries Text} {t : FileTree} {path : Text}
  (hleads : t.Leads (keeping environment) (shelf environment))
  (hwrites : t.Writes (keptPath environment path) (keptAt environment path)) (text : Text)

include hwrites

theorem entry_put_self :
    entry (t.put (keptAt environment path) text.encode none) (keptPath environment path)
      = .kept (.ok text.unifyNewlines) := by
  obtain ⟨stamp, hput⟩ := t.file?_put_place (keptAt environment path) text.encode none
  unfold entry
  rw [(hwrites.extends text.encode none).resolve hwrites.resolve]
  dsimp only
  rw [hput, if_pos rfl]
  dsimp only
  rw [Text.text_of_encode]

include hleads

/-- What is kept for a path is nothing to the other cache names. -/
theorem entry_put_of_ne {other : Text} (hne : cacheName other ≠ cacheName path) :
    entry (t.put (keptAt environment path) text.encode none) (keptPath environment other)
      = entry t (keptPath environment other) := by
  obtain ⟨stamp, hput⟩ := t.file?_put_place (keptAt environment path) text.encode none
  have hleads' := (hwrites.extends text.encode none).leads hleads
  refine entry_congr ?_ fun {l} hresolve => ?_
  · rw [keptPath_eq]
    exact FileTree.resolve_child hleads' hleads (plain_cacheName other).slash
  · obtain rfl : l = keptAt environment other := FileTree.eq_ofPath_of_resolve hresolve
    have hplace : keptAt environment other ≠ keptAt environment path := fun h =>
      hne (keptAt_eq_iff.mp h)
    refine ⟨by rw [hput, if_neg hplace], ?_⟩
    rw [keptAt_eq environment other]
    exact isDirectory_put_kept environment t path text.encode (cacheName other)

end Put

/-! ### Cache names in place of trees -/

/-- A tree that may keep a path's text, and has the rest by cache names. -/
structure Offers (environment : Entries Text) (path text : Text) (rest : Text → Entry)
    (t : FileTree) : Prop where
  leads : t.Leads (keeping environment) (shelf environment)
  own : entry t (keptPath environment path) = .free
    ∨ entry t (keptPath environment path) = .kept (.ok text.unifyNewlines)
  others : ∀ {other}, cacheName other ≠ cacheName path →
    entry t (keptPath environment other) = rest (cacheName other)

/-- The rest with a text more. -/
def withText (rest : Text → Entry) (name text : Text) : Text → Entry := fun other =>
  if other = name then .kept (.ok text.unifyNewlines) else rest other

/-- What a look-up besides that path gives, by the rest alone, and the rest then. -/
def consult (servers : Entries Response) (base : Text) (rest : Text → Entry) (path : Text) :
    Option Text × (Text → Entry) :=
  match rest (cacheName path) with
  | .kept (.ok text) => (some text, rest)
  | .kept (.error _) => (none, rest)
  | .barred _ => (none, rest)
  | .free =>
    match delivered? servers (address base path) with
    | some text => (some text, withText rest (cacheName path) text)
    | none => (none, rest)

/-- The text of an answer. -/
def textOf : EStateM.Result Fault Outside (Option Text) → Option Text
  | .ok text _ => text
  | .error _ _ => none

variable {environment : Entries Text} {base path text : Text} {rest : Text → Entry} {t : FileTree}

theorem Offers.put_own (h : Offers environment path text rest t)
    (hwrites : t.Writes (keptPath environment path) (keptAt environment path)) :
    Offers environment path text rest (t.put (keptAt environment path) text.encode none) where
  leads := (hwrites.extends text.encode none).leads h.leads
  own := .inr (entry_put_self hwrites text)
  others := fun hne => (entry_put_of_ne h.leads hwrites text hne).trans (h.others hne)

theorem keptPath_congr {other : Text} (h : cacheName other = cacheName path) :
    keptPath environment other = keptPath environment path := by
  rw [keptPath, keptPath, h]

theorem Offers.put_other (h : Offers environment path text rest t) {other : Text}
    (hne : cacheName other ≠ cacheName path)
    (hwrites : t.Writes (keptPath environment other) (keptAt environment other)) (more : Text) :
    Offers environment path text (withText rest (cacheName other) more)
      (t.put (keptAt environment other) more.encode none) where
  leads := (hwrites.extends more.encode none).leads h.leads
  own := by
    rw [entry_put_of_ne h.leads hwrites more hne.symm]
    exact h.own
  others := by
    intro third hthird
    unfold withText
    by_cases hsame : cacheName third = cacheName other
    · rw [if_pos hsame, keptPath_congr hsame]
      exact entry_put_self hwrites more
    · rw [if_neg hsame, entry_put_of_ne h.leads hwrites more hsame]
      exact h.others hthird

/-- Surroundings that have the rest by cache names, once the directory for texts is made. -/
structure Stands (environment : Entries Text) (servers : Entries Response) (path text : Text)
    (rest : Text → Entry) (o : Outside) : Prop where
  settings : o.environment = environment
  servers : o.servers = servers
  ready : ∃ t, Ready environment o.files t ∧ Offers environment path text rest t

section Stands

variable {servers : Entries Response} {o : Outside}
  (h : Stands environment servers path text rest o)

include h

/-- Another path is looked up by the rest alone. -/
theorem fetchCached_of_stands (base : Text) {other : Text} (hne : cacheName other ≠ cacheName path) :
    textOf (fetchCached base other o) = (consult servers base rest other).1
      ∧ Stands environment servers path text (consult servers base rest other).2
          (left (fetchCached base other o)) := by
  obtain ⟨rfl, rfl, t, hready, hoffers⟩ := h
  have hagain : Ready o.environment t t := ready_of_leads hready.home hready.leads
  have hfetch := fetchCached_of_ready hready base other
  have hanswers := answers_download base other { o with files := t }
  dsimp only at hfetch
  rw [hfetch]
  unfold consult
  rw [← hoffers.others hne]
  rcases hentry : entry t (keptPath o.environment other) with (fault | found) | _ | fault
  · exact ⟨rfl, rfl, rfl, t, hagain, hoffers⟩
  · exact ⟨rfl, rfl, rfl, t, hagain, hoffers⟩
  · dsimp only
    rcases hdownload : download base other { o with files := t } with
      ⟨found, after⟩ | ⟨fault, after⟩
    all_goals rw [hdownload] at hanswers
    · cases hanswers with
      | refused undelivered =>
        rw [show delivered? o.servers (address base other) = none from undelivered]
        exact ⟨rfl, rfl, rfl, t, hagain, hoffers⟩
      | @given found delivered =>
        rw [show delivered? o.servers (address base other) = some found from delivered]
        have hwrites := writes_of_free hentry
        exact ⟨rfl, rfl, rfl, _, ready_of_leads hready.home
          ((hwrites.extends found.encode none).leads hready.leads),
          hoffers.put_other hne hwrites found⟩
    · cases hanswers with
      | failed _ undelivered =>
        rw [show delivered? o.servers (address base other) = none from undelivered]
        exact ⟨rfl, rfl, rfl, t, hagain, hoffers⟩
  · dsimp only
    rcases hdownload : download base other { o with files := t } with
      ⟨_ | found, after⟩ | ⟨fault', after⟩
    all_goals
      rw [hdownload] at hanswers
      cases hanswers
      exact ⟨rfl, rfl, rfl, t, hagain, hoffers⟩

/-- The path itself has its text, as the server has it or with its line endings unified. -/
theorem fetchCached_own (hanswer : delivered? servers (address base path) = some text) :
    (textOf (fetchCached base path o) = some text
        ∨ textOf (fetchCached base path o) = some text.unifyNewlines)
      ∧ Stands environment servers path text rest (left (fetchCached base path o)) := by
  obtain ⟨rfl, rfl, t, hready, hoffers⟩ := h
  have hagain : Ready o.environment t t := ready_of_leads hready.home hready.leads
  have hfetch := fetchCached_of_ready hready base path
  dsimp only at hfetch
  rw [hfetch]
  rcases hoffers.own with hentry | hentry
  · have hwrites := writes_of_free hentry
    rw [hentry, @download_of_delivered base path text { o with files := t } hanswer]
    exact ⟨.inl rfl, rfl, rfl, _, ready_of_leads hready.home
      ((hwrites.extends text.encode none).leads hready.leads), hoffers.put_own hwrites⟩
  · rw [hentry]
    exact ⟨.inr rfl, rfl, rfl, t, hagain, hoffers⟩

end Stands

/-! ### Runs -/

theorem fetch_resolver (base path : Text) (o : Outside) :
    ((Source.server base true).resolver.fetch path o).1.lines?
        = (textOf (fetchCached base path { o with notes := #[] })).map Text.lines
      ∧ ((Source.server base true).resolver.fetch path o).2.2
        = { left (fetchCached base path { o with notes := #[] }) with notes := o.notes } := by
  unfold Source.resolver EStateM.run
  dsimp only
  rw [Source.fetch]
  rcases fetchCached base path { o with notes := #[] } with ⟨_ | found, after⟩ | ⟨fault, after⟩
  all_goals exact ⟨rfl, rfl⟩

theorem Stands.noted {servers : Entries Response} {o : Outside}
    (h : Stands environment servers path text rest o) (notes : Array Note) :
    Stands environment servers path text rest { o with notes } :=
  ⟨h.settings, h.servers, h.ready⟩

/-- Surroundings that have the same rest. -/
def Beside (environment : Entries Text) (servers : Entries Response) (path text : Text)
    (o o' : Outside) : Prop :=
  ∃ rest, Stands environment servers path text rest o
    ∧ Stands environment servers path text rest o'

/-- The server answers alike whether or not a text is kept that has the same lines as what is read
back, for paths that have their cache names for themselves. -/
theorem agreeing_resolver {servers : Entries Response}
    (hanswer : delivered? servers (address base path) = some text)
    (hlines : Text.lines text.unifyNewlines = text.lines) :
    Agreeing (Source.server base true).resolver (Source.server base true).resolver
      (Beside environment servers path text)
      (fun other => cacheName other = cacheName path → other = path) := by
  have hstep : ∀ {other o o'}, (cacheName other = cacheName path → other = path) →
      Beside environment servers path text o o' →
      (textOf (fetchCached base other { o with notes := #[] })).map Text.lines
          = (textOf (fetchCached base other { o' with notes := #[] })).map Text.lines
        ∧ Beside environment servers path text
          (left (fetchCached base other { o with notes := #[] }))
          (left (fetchCached base other { o' with notes := #[] })) := by
    intro other o o' hother ⟨rest, ho, ho'⟩
    by_cases hname : cacheName other = cacheName path
    · obtain rfl := hother hname
      obtain ⟨htext, hstands⟩ := fetchCached_own (ho.noted #[]) hanswer
      obtain ⟨htext', hstands'⟩ := fetchCached_own (ho'.noted #[]) hanswer
      refine ⟨?_, rest, hstands, hstands'⟩
      have hsame : ∀ {found : Option Text}, found = some text ∨ found = some text.unifyNewlines →
          found.map Text.lines = some text.lines := by
        rintro found (rfl | rfl)
        · rfl
        · exact congrArg some hlines
      rw [hsame htext, hsame htext']
    · obtain ⟨htext, hstands⟩ := fetchCached_of_stands (ho.noted #[]) base hname
      obtain ⟨htext', hstands'⟩ := fetchCached_of_stands (ho'.noted #[]) base hname
      exact ⟨by rw [htext, htext'], _, hstands, hstands'⟩
  constructor
  · intro other o o' hother hbeside
    rw [(fetch_resolver base other o).1, (fetch_resolver base other o').1]
    exact (hstep hother hbeside).1
  · intro other o o' hother hbeside
    rw [(fetch_resolver base other o).2, (fetch_resolver base other o').2]
    obtain ⟨rest, hstands, hstands'⟩ := (hstep hother hbeside).2
    exact ⟨rest, hstands.noted _, hstands'.noted _⟩

/-! ### Fetching again -/

/-- Whether there is room for a path's text: the directory for texts can be made, and nothing is in
it under the path's cache name, where a file can be written. -/
def hasRoom (path : Text) (o : Outside) : Bool :=
  match cachePath path o with
  | .ok place after => !after.files.hasPath place && (after.files.write place [] none).toBool
  | .error _ _ => false

theorem exists_ready_of_write {path place : Text} {o between : Outside} {files : FileTree}
    (hplace : cachePath path o = .ok place between) (hpath : between.files.hasPath place = false)
    (hwrite : between.files.write place [] none = .ok files) :
    ∃ t, Ready o.environment o.files t ∧ entry t (keptPath o.environment path) = .free := by
  have hplaces := places_cachePath path o
  rw [hplace] at hplaces
  cases hplaces with
  | @found t home directories _ =>
  obtain ⟨l, hresolve, _, _⟩ := FileTree.write_eq_ok_iff.mp hwrite
  have hentry : entry t (keptPath o.environment path) = .free := by
    rcases entry_of_not_hasPath hpath with ⟨_, hentry, _⟩ | ⟨fault, _, hbarred⟩
    · exact hentry
    · rw [hresolve] at hbarred
      cases hbarred
  have hchild : t.resolve (keptPath o.environment path) = .ok l := hresolve
  rw [keptPath_eq] at hchild
  have hleads : t.Leads (keeping o.environment) (shelf o.environment) :=
    FileTree.leads_of_resolve_child (keeping_ne_nil _) (plain_cacheName path).slash hchild
  exact ⟨t, ⟨home, directories, hleads⟩, hentry⟩

theorem exists_ready_of_room {path : Text} {o : Outside} (h : hasRoom path o) :
    ∃ t, Ready o.environment o.files t ∧ entry t (keptPath o.environment path) = .free := by
  unfold hasRoom at h
  rcases hplace : cachePath path o with ⟨place, between⟩ | ⟨fault, between⟩
  all_goals rw [hplace] at h
  · dsimp only at h
    rw [Bool.and_eq_true, Bool.not_eq_true'] at h
    obtain ⟨hpath, hwrite⟩ := h
    rcases hfiles : between.files.write place [] none with fault | files
    · rw [hfiles] at hwrite
      cases hwrite
    · exact exists_ready_of_write hplace hpath hfiles
  · cases h

/-- A text that there is room for is downloaded and kept, and the rest stays as it was. -/
theorem fetchCached_of_room {base path text : Text} {o : Outside} (hroom : hasRoom path o)
    (hanswer : delivered? o.servers (address base path) = some text) :
    ∃ after, fetchCached base path o = .ok (some text) after
      ∧ after.requests = o.requests.push (address base path)
      ∧ Shelved after.environment path text after.files
      ∧ Beside o.environment o.servers path text o after := by
  obtain ⟨t, hready, hentry⟩ := exists_ready_of_room hroom
  have hwrites := writes_of_free hentry
  have hleads := (hwrites.extends text.encode none).leads hready.leads
  have hfetch := fetchCached_of_ready hready base path
  dsimp only at hfetch
  rw [hentry, @download_of_delivered base path text { o with files := t } hanswer] at hfetch
  obtain ⟨stamp, hput⟩ := t.file?_put_place (keptAt o.environment path) text.encode none
  have hshelved : Shelved o.environment path text (t.put (keptAt o.environment path) text.encode none) :=
    ⟨hready.home, hleads, (hwrites.extends text.encode none).resolve hwrites.resolve, stamp,
      (hput _).trans (if_pos rfl)⟩
  have hoffers : Offers o.environment path text
      (fun name => entry t (keeping o.environment ++ '/' :: name)) t :=
    ⟨hready.leads, .inl hentry, fun {other} _ => by rw [keptPath_eq]⟩
  exact ⟨_, hfetch, rfl, hshelved, _, ⟨rfl, rfl, t, hready, hoffers⟩,
    rfl, rfl, _, ready_of_leads hready.home hleads, hoffers.put_own hwrites⟩

/-- A text that is fetched with room for it is the server's, and after that it is read back, with its
line endings unified, which leaves just the texts without carriage returns as they are.  Where no
line holds one, a shader is preprocessed to the same source as if it had not been fetched before,
unless it asks for another path of the same cache name. -/
theorem fetch_again {base path text : Text} {o : Outside} (hroom : hasRoom path o)
    (hanswer : o.servers.lookup (base ++ path ++ extension) = some (.answer 200 text)) :
    ∃ after, (Source.server base true).fetch path o = .ok (some text) after
      ∧ after.requests = o.requests.push (base ++ path ++ extension)
      ∧ (∀ asks, (Source.server base true).fetch path (passing asks after)
          = .ok (some text.unifyNewlines) (passing asks after))
      ∧ (text.unifyNewlines = text ↔ '\r' ∉ text)
      ∧ ((∀ line ∈ text.lines, '\r' ∉ line) → ∀ defines shader,
        let resolver := (Source.server base true).resolver
        let fresh := (Run.start defines o).shader resolver shader
        (∀ other ∈ fresh.1.asked, cacheName other = cacheName path → other = path) →
        ∃ notes world, (Run.start defines after).shader resolver shader
          = (fresh.1.within notes world, fresh.2)) := by
  have hdelivered : delivered? o.servers (address base path) = some text :=
    delivered_eq_some_iff.mpr hanswer
  obtain ⟨after, hfetch, hrequests, hshelved, hbeside⟩ := fetchCached_of_room hroom hdelivered
  refine ⟨after, ?_, hrequests, fun asks => ?_, Text.unifyNewlines_eq_self_iff, ?_⟩
  · rw [Source.fetch]
    exact hfetch
  · obtain ⟨henvironment, hkept⟩ := shelved_passing hshelved asks
    rw [Source.fetch]
    rw [← henvironment] at hkept
    exact fetchCached_of_shelved hkept base
  · intro hreturn defines shader resolver fresh hasked
    exact shader_agreeing (agreeing_resolver hdelivered (Text.lines_unifyNewlines_iff.mpr hreturn)) shader #[]
      hbeside hasked

/-- An include of a server that has one text. -/
def askOf (text : Text) : Ask where
  servers := [("u/a.wgsl".toList, .answer 200 text)]
  base := "u/".toList
  path := ['a']

/-- A shader that includes it. -/
def includingA : Text := "#include \"a\"\n".toList

/-- The lines that the shader is preprocessed to. -/
def linesFrom (o : Outside) : Array Text :=
  ((Run.start [] o).shader (Source.server "u/".toList true).resolver includingA).1.source.emitted.map
    (·.text)

theorem fetch_again_feeds :
    hasRoom ['a'] ((askOf "x\r\n".toList).world homely)
      ∧ (askOf "x\r\n".toList).servers.lookup (askOf "x\r\n".toList).address
        = some (.answer 200 "x\r\n".toList)
      ∧ ∃ after, (askOf "x\r\n".toList).perform homely = .ok (some "x\r\n".toList) after
        ∧ (Source.server "u/".toList true).fetch ['a'] after = .ok (some "x\n".toList) after
        ∧ linesFrom after = linesFrom ((askOf "x\r\n".toList).world homely) := by
  have hroom : hasRoom ['a'] ((askOf "x\r\n".toList).world homely) := by decide +kernel
  have hanswer : (askOf "x\r\n".toList).servers.lookup (askOf "x\r\n".toList).address
      = some (.answer 200 "x\r\n".toList) := by decide
  obtain ⟨after, hfetch, _, hagain, _, hshader⟩ := fetch_again hroom hanswer
  obtain ⟨notes, world, hsame⟩ := hshader (by decide +kernel) [] includingA (by decide +kernel)
  have hlines : linesFrom after = linesFrom ((askOf "x\r\n".toList).world homely) :=
    congrArg (fun ended => ended.1.source.emitted.map (·.text)) hsame
  exact ⟨hroom, hanswer, after, hfetch, hagain [], hlines⟩

/-- A text with a carriage return in a line is another one when it is fetched again, of two lines. -/
theorem fetch_again_return :
    (askOf "x\ry".toList).Downloads homely "x\ry".toList
      ∧ (askOf "x\ry".toList).Serves (passing [askOf "x\ry".toList] homely) "x\ny".toList
      ∧ linesFrom ((askOf "x\ry".toList).world homely) = #["x\ry".toList]
      ∧ linesFrom (passing [askOf "x\ry".toList] homely) = #["x".toList, "y".toList] := by
  have hdownloads : (askOf "x\ry".toList).Downloads homely "x\ry".toList :=
    ⟨by decide, exists_of_outcome (by decide +kernel)⟩
  have hserves : (askOf "x\ry".toList).Serves (passing [askOf "x\ry".toList] homely) "x\ny".toList :=
    exists_of_outcome (by decide +kernel)
  exact ⟨hdownloads, hserves, by decide +kernel, by decide +kernel⟩

end ShaderPlayer.Include
