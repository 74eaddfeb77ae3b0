/-
Downloads that fail.

A text is kept once a server gave it, and nothing else is.  So a download that fails leaves no
trace: its path is asked for again, until there is a text for its cache name, and not after that.

* `Fits`, `resolve_of_fits` — a path that fits has its place in the directory for texts;
* `SucceededBy`, `succeededBy_snoc` — the asks that had a text;
* `Tidy`, `tidy_passing` — after any asks the directory holds a file for each of these, and no
  directories; `Tidy.perform_eq` says what is answered then;
* `requested_until_found` — every file is the text of a response, and a path is requested exactly as
  long as nothing was found for its cache name.
-/
import ShaderPlayer.Proofs.Include.Transparency

namespace ShaderPlayer.Include

open Location

/-! ### Paths that fit -/

/-- A path's text can be kept: its file has a name and a path that are not too long. -/
structure Fits (environment : Entries Text) (path : Text) : Prop where
  null : '\x00' ∉ path
  name : (cacheName path).byteLength ≤ FileTree.maxName
  whole : (keptPath environment path).byteLength ≤ FileTree.maxPath

theorem not_mem_cacheName {c : Char} {path : Text} (hc : c ∉ '_' :: extension) (h : c ∉ path) :
    c ∉ cacheName path := by
  rw [List.mem_cons, not_or] at hc
  rw [cacheName, replace_single, List.mem_append, List.mem_flatMap]
  rintro (⟨d, hd, hmem⟩ | hextension)
  · split at hmem
    · have hunderscore : c = '_' := by simpa using hmem
      exact hc.1 hunderscore
    · exact h (List.mem_singleton.mp hmem ▸ hd)
  · exact hc.2 hextension

/-- A path that fits has its place in the directory for texts. -/
theorem resolve_of_fits {environment : Entries Text} {t : FileTree} {path : Text}
    (hleads : t.Leads (keeping environment) (shelf environment)) (h : Fits environment path) :
    t.resolve (keptPath environment path) = .ok (keptAt environment path) := by
  obtain ⟨hnull, hne, _, hfollow⟩ := FileTree.resolve_eq_ok_iff.mp hleads.resolve
  -- the directory is followed as it is, so only the last name can be too long
  have hchild : t.follow (FileTree.startOf (keptPath environment path))
      ((keptPath environment path).splitOn '/') = .ok ((shelf environment).enter (cacheName path)) := by
    rw [keptPath_eq, FileTree.startOf_child hne, FileTree.follow_child (plain_cacheName path).slash,
      hfollow]
    exact (hleads.opens.follow _).trans (if_neg (Nat.not_lt.mpr h.name))
  have hplace : '\x00' ∉ keptPath environment path := by
    rw [keptPath_eq, List.mem_append, List.mem_cons, not_or, not_or]
    exact ⟨hnull, by decide, not_mem_cacheName (by decide) h.null⟩
  have hsome : keptPath environment path ≠ [] := by
    rw [keptPath_eq]
    exact List.append_ne_nil_of_left_ne_nil hne _
  have hresolve := FileTree.resolve_eq_ok_iff.mpr ⟨hplace, hsome, h.whole, hchild⟩
  exact hresolve.trans (congrArg Except.ok (FileTree.eq_ofPath_of_resolve hresolve))

/-! ### Asks that have a text -/

/-- One of some asks has a text, from the server or from the directory. -/
def SucceededBy (asks : List Ask) (o : Outside) (b : Ask) : Prop :=
  ∃ before rest text after, asks = before ++ b :: rest
    ∧ b.perform (passing before o) = .ok (some text) after

theorem DownloadedBy.succeededBy {asks : List Ask} {o : Outside} {b : Ask} {text : Text}
    (h : DownloadedBy asks o b text) : SucceededBy asks o b := by
  obtain ⟨before, rest, hasks, hdownloads⟩ := h
  obtain ⟨after, hresult, _⟩ := hdownloads.result
  exact ⟨before, rest, text, after, hasks, hresult⟩

theorem not_succeededBy_nil (o : Outside) (b : Ask) : ¬ SucceededBy [] o b := by
  rintro ⟨before, rest, text, after, hasks, _⟩
  exact absurd hasks.symm (List.append_ne_nil_of_right_ne_nil _ (List.cons_ne_nil _ _))

/-- The last of some asks has a text, or one before it had. -/
theorem succeededBy_snoc {asks : List Ask} {a b : Ask} {o : Outside}
    (h : SucceededBy (asks ++ [a]) o b) :
    SucceededBy asks o b
      ∨ b = a ∧ ∃ text after, a.perform (passing asks o) = .ok (some text) after := by
  obtain ⟨before, rest, text, after, hasks, hresult⟩ := h
  rcases List.eq_nil_or_concat rest with rfl | ⟨rest, last, rfl⟩
  · obtain ⟨rfl, hlast⟩ := List.append_inj' hasks rfl
    obtain rfl : a = b := List.singleton_inj.mp hlast
    exact .inr ⟨rfl, text, after, hresult⟩
  · rw [List.concat_eq_append, ← List.cons_append, ← List.append_assoc] at hasks
    obtain ⟨rfl, _⟩ := List.append_inj' hasks rfl
    exact .inl ⟨before, rest, text, after, rfl, hresult⟩

/-! ### The directory after asks -/

theorem Ready.file? {environment : Entries Text} {files ready : FileTree}
    (h : Ready environment files ready) (l : Location) : ready.file? l = files.file? l := by
  have hfiles := (FileTree.makeDirectories_spec ((keeping environment).length + 1)
    (keeping environment) files).1
  rw [h.made] at hfiles
  unfold FileTree.file?
  rw [hfiles]

/-- A look-up takes no file away. -/
theorem Fetches.isSome_left {base path : Text} {o : Outside}
    {result : EStateM.Result Fault Outside (Option Text)} (h : Fetches base path o result)
    {l : Location} (hl : (o.files.file? l).isSome) : ((left result).files.file? l).isSome := by
  cases h with
  | stopped _ leaves | missing leaves | served leaves _ _ _ =>
    exact (leaves.made.file? l).symm ▸ hl
  | @downloaded stamp text after _ _ _ written =>
    show (after.files.file? l).isSome
    rw [written]
    split
    · rfl
    · exact hl

/-- There is a file for a path whose text was found. -/
theorem Fetches.isSome_found {base path text : Text} {o after : Outside}
    (h : Fetches base path o (.ok (some text) after)) :
    (after.files.file? (keptAt o.environment path)).isSome := by
  cases h with
  | served leaves _ kept _ =>
    rw [leaves.made.file?, kept]
    rfl
  | downloaded _ _ _ written =>
    rw [written, if_pos rfl]
    rfl

/-- The surroundings after some asks: the directory for texts can be made or is there, has no
directories in it, and has a file for each ask that had a text. -/
structure Tidy (asks : List Ask) (o now : Outside) (t : FileTree) : Prop where
  environment : now.environment = o.environment
  ready : Ready o.environment now.files t
  directory : ∀ name, t.isDirectory (shelf o.environment ++ [name]) = false
  found : ∀ {b}, SucceededBy asks o b → (now.files.file? (keptAt o.environment b.path)).isSome

/-- The induction is on the asks, the last one first.  From the first ask on the directory is there,
so the tree that an ask leaves is the one that the next ask is ready with. -/
theorem tidy_passing {o : Outside} {t : FileTree} (hready : Ready o.environment o.files t)
    (hdirectory : ∀ name, t.isDirectory (shelf o.environment ++ [name]) = false) (asks : List Ask) :
    ∃ now, Tidy asks o (passing asks o) now := by
  induction asks using List.reverseRecOn with
  | nil => exact ⟨t, rfl, hready, hdirectory, fun {b} hb => absurd hb (not_succeededBy_nil o b)⟩
  | append_singleton asks a ih =>
    obtain ⟨now, ih⟩ := ih
    have henvironment : (a.world (passing asks o)).environment = o.environment := ih.environment
    have hagain : Ready (a.world (passing asks o)).environment (a.world (passing asks o)).files now :=
      henvironment.symm ▸ ih.ready
    have hfetches := fetches_perform a (passing asks o)
    obtain ⟨hsame, hfiles⟩ := left_fetchCached hagain a.base a.path
    have hleads := (extends_fetchCached hagain a.base a.path).leads ih.ready.leads
    rw [henvironment] at hsame hfiles
    rw [passing_snoc]
    have hperform : a.perform (passing asks o) = fetchCached a.base a.path (a.world (passing asks o)) := by
      rw [Ask.perform, Source.fetch]
    rw [hperform] at hfetches ⊢
    refine ⟨_, hsame, ready_of_leads ih.ready.home hleads, fun name => ?_, fun {b} hb => ?_⟩
    · rcases hfiles with hfiles | ⟨_, text, hfiles⟩
      · rw [hfiles]
        exact ih.directory name
      · rw [hfiles, isDirectory_put_kept]
        exact ih.directory name
    · -- a look-up takes no file away, and one that has a text leaves a file for it
      rcases succeededBy_snoc hb with hb | ⟨rfl, text, after, hresult⟩
      · exact hfetches.isSome_left (ih.found hb)
      · rw [← hperform, hresult] at hfetches ⊢
        have hfound := hfetches.isSome_found
        rw [henvironment] at hfound
        exact hfound

/-! ### Requests -/

/-- The server does not give a text: the request fails, or has another status than 200. -/
def Ask.isRefused (a : Ask) : Bool :=
  match a.servers.lookup a.address with
  | some (.answer status _) => status ≠ 200
  | some (.breakdown _) => false
  | some (.unreachable _) | none => true

theorem download_of_refused {a : Ask} (h : a.isRefused) (files : FileTree) (o : Outside) :
    ∃ notes, download a.base a.path { a.world o with files }
      = .ok none { a.world o with files, requests := o.requests.push a.address, notes } := by
  unfold Ask.isRefused at h
  rw [download_eq]
  show ∃ notes, respond a.address ((a.servers.lookup a.address).getD _) _ = _
  rcases hlookup : a.servers.lookup a.address with _ | ⟨status, text⟩ | message | message
  all_goals rw [hlookup] at h
  · exact ⟨_, rfl⟩
  · rw [Option.getD_some, respond_of_status (of_decide_eq_true h)]
    exact ⟨_, rfl⟩
  · exact ⟨_, rfl⟩
  · cases h

section Tidy

variable {asks : List Ask} {o now : Outside} {t : FileTree} (h : Tidy asks o now t) {a : Ask}
  (hfits : Fits o.environment a.path)

include h hfits

/-- What is in the place of a path that fits is the file for it, if there is one. -/
theorem Tidy.entry_eq :
    entry t (keptPath o.environment a.path)
      = match now.files.file? (keptAt o.environment a.path) with
        | some file => .kept (FileTree.File.text file)
        | none => .free := by
  have hplace : keptAt o.environment a.path = shelf o.environment ++ [cacheName a.path] :=
    keptAt_eq o.environment a.path
  unfold entry
  rw [resolve_of_fits h.ready.leads hfits]
  dsimp only
  rw [h.ready.file?, hplace, h.directory]
  rfl

/-- What a path that fits is looked up as. -/
theorem Tidy.perform_eq :
    a.perform now
      = match now.files.file? (keptAt o.environment a.path) with
        | some file =>
          match FileTree.File.text file with
          | .ok text => .ok (some text) { a.world now with files := t }
          | .error fault => .error fault { a.world now with files := t }
        | none =>
          match download a.base a.path { a.world now with files := t } with
          | .ok (some text) after => .ok (some text) (shelve (keptAt o.environment a.path) text after)
          | other => other := by
  have henvironment : (a.world now).environment = o.environment := h.environment
  have hready : Ready (a.world now).environment (a.world now).files t := henvironment.symm ▸ h.ready
  have hfetch := fetchCached_of_ready hready a.base a.path
  have hentry : entry t (keptPath (a.world now).environment a.path) = _ :=
    (congrArg (fun environment => entry t (keptPath environment a.path)) henvironment).trans
      (h.entry_eq hfits)
  have hplace : keptAt (a.world now).environment a.path = keptAt o.environment a.path :=
    congrArg (keptAt · a.path) henvironment
  dsimp only at hfetch
  rw [hentry, hplace] at hfetch
  rw [Ask.perform, Source.fetch, hfetch]
  rcases now.files.file? (keptAt o.environment a.path) with _ | file
  · rfl
  · dsimp only
    rcases FileTree.File.text file <;> rfl

section Missing

variable (hmissing : now.files.file? (keptAt o.environment a.path) = none)

include hmissing

/-- A path that nothing is kept for is requested. -/
theorem Tidy.requests : (left (a.perform now)).requests = now.requests.push a.address := by
  have hanswers := answers_download a.base a.path { a.world now with files := t }
  rw [h.perform_eq hfits, hmissing]
  dsimp only
  rcases hdownload : download a.base a.path { a.world now with files := t } with
    ⟨_ | text, after⟩ | ⟨fault, after⟩
  all_goals
    rw [hdownload] at hanswers
    cases hanswers
    rfl

/-- A request that is refused gives no text and leaves every file as it was. -/
theorem Tidy.refused (hrefused : a.isRefused) :
    ∃ after, a.perform now = .ok none after ∧ ∀ l, after.files.file? l = now.files.file? l := by
  obtain ⟨notes, hdownload⟩ := download_of_refused hrefused t now
  rw [h.perform_eq hfits, hmissing, hdownload]
  exact ⟨_, rfl, h.ready.file?⟩

/-- A text that is given is downloaded. -/
theorem Tidy.downloads {text : Text} (hanswer : a.servers.lookup a.address = some (.answer 200 text)) :
    a.Downloads now text := by
  have hdownload := download_of_delivered (o := { a.world now with files := t })
    (delivered_eq_some_iff.mpr hanswer)
  refine ⟨hanswer, shelve (keptAt o.environment a.path) text
    { a.world now with files := t, requests := now.requests.push a.address }, ?_, rfl⟩
  rw [h.perform_eq hfits, hmissing, hdownload]
  rfl

end Missing

/-- A text that is kept is served. -/
theorem Tidy.serves {file : File} {text : Text}
    (hkept : now.files.file? (keptAt o.environment a.path) = some file)
    (hbytes : file.bytes = text.encode) : a.Serves now text.unifyNewlines := by
  have htext : FileTree.File.text file = .ok text.unifyNewlines := by
    have hencoded := Text.text_of_encode text file.modified
    rw [← hbytes] at hencoded
    exact hencoded
  refine ⟨{ a.world now with files := t }, ?_, rfl⟩
  rw [h.perform_eq hfits, hkept]
  dsimp only
  rw [htext]

end Tidy

/-! ### Any asks -/

/-- There was a text for a path's cache name. -/
def Found (asks : List Ask) (o : Outside) (path : Text) : Prop :=
  ∃ b, SucceededBy asks o b ∧ cacheName b.path = cacheName path

/-- The directory for texts can be made, and then holds nothing. -/
structure Vacant (o : Outside) (t : FileTree) : Prop where
  ready : Ready o.environment o.files t
  file : ∀ name, t.file? (shelf o.environment ++ [name]) = none
  directory : ∀ name, t.isDirectory (shelf o.environment ++ [name]) = false

/-- What is in a directory that was empty is the text of a response. -/
theorem Vacant.downloaded {o : Outside} {t : FileTree} (h : Vacant o t) {asks : List Ask}
    {name : Text} {file : File}
    (hfile : (passing asks o).files.file? (shelf o.environment ++ [name]) = some file) :
    ∃ b text, DownloadedBy asks o b text ∧ cacheName b.path = name ∧ file.bytes = text.encode := by
  rcases (kept_passing asks o).file hfile with hstart | ⟨b, text, hdownloaded, hplace, hbytes⟩
  · rw [← h.ready.file?, h.file] at hstart
    cases hstart
  · rw [keptAt_eq] at hplace
    exact ⟨b, text, hdownloaded, (List.singleton_inj.mp (List.append_cancel_left hplace)).symm, hbytes⟩

/-- There is a file for a path exactly if there was a text for its cache name. -/
theorem Vacant.found_iff {o : Outside} {t now : FileTree} {asks : List Ask} (h : Vacant o t)
    (htidy : Tidy asks o (passing asks o) now) {path : Text} :
    Found asks o path ↔ ((passing asks o).files.file? (keptAt o.environment path)).isSome := by
  constructor
  · rintro ⟨b, hsucceeded, hname⟩
    rw [← keptAt_eq_iff.mpr hname]
    exact htidy.found hsucceeded
  · intro hsome
    obtain ⟨file, hfile⟩ := Option.isSome_iff_exists.mp hsome
    rw [keptAt_eq] at hfile
    obtain ⟨b, text, hdownloaded, hname, _⟩ := h.downloaded hfile
    exact ⟨b, hdownloaded.succeededBy, hname⟩

/-! ### A directory that is empty -/

/-- What lies deeper than all entries is none of them. -/
theorem lookup_of_deep {α : Type} {entries : List (Location × α)} {l : Location}
    (h : ∀ entry ∈ entries, entry.1.length < l.length) : entries.lookup l = none := by
  refine List.lookup_eq_none_iff.mpr fun entry hentry => ?_
  have hne : l ≠ entry.1 := fun heq => absurd (h entry hentry) (heq ▸ Nat.lt_irrefl l.length)
  simpa using hne

theorem exists_vacant_homely : ∃ t, Vacant homely t := by
  have hroom : hasRoom ['a'] homely := by decide +kernel
  have hshelf : shelf homely.environment = ["home".toList, "u".toList, ".cache".toList,
      "codeskew".toList, "includes".toList] := by decide +kernel
  have hlength : ∀ name : Text, (shelf homely.environment ++ [name]).length = 6 := by
    intro name
    rw [hshelf]
    rfl
  obtain ⟨t, hready, _⟩ := exists_ready_of_room hroom
  have hmade : t = (FileTree.makeDirectories ((keeping homely.environment).length + 1)
      (keeping homely.environment) homely.files).1 := (congrArg Prod.fst hready.made).symm
  -- no entry lies as deep in the tree as what is in the directory for texts
  refine ⟨t, hready, fun name => ?_, fun name => ?_⟩
  · rw [hready.file?]
    refine lookup_of_deep fun entry hentry => ?_
    rw [hlength, List.mem_singleton.mp hentry]
    decide
  · have hdeep : t.directories.lookup (shelf homely.environment ++ [name]) = none := by
      refine lookup_of_deep fun entry hentry => ?_
      rw [hlength]
      revert entry
      rw [hmade]
      decide +kernel
    have hstanding : (shelf homely.environment ++ [name]).isStanding = false := by
      rw [hshelf]
      rfl
    rw [FileTree.isDirectory, FileTree.directory?, hdeep, hstanding]
    rfl

/-- An include that no server is there for. -/
def unanswered : Ask where
  servers := []
  base := "u/".toList
  path := ['a']

/-! ### Requests until there is a text -/

/-- In a directory that was empty, every file is the text of a response to a request for a path of
its cache name.  A path that fits is served without a request once there was a text for its cache
name.  Until then it is requested each time: if that is refused, there is no text and every file
stays as it was, and a text that is given is taken. -/
theorem requested_until_found {o : Outside} {t : FileTree} (hvacant : Vacant o t) (asks : List Ask) :
    let now := passing asks o
    (∀ name file, now.files.file? (shelf o.environment ++ [name]) = some file →
        ∃ b text, DownloadedBy asks o b text ∧ cacheName b.path = name ∧ file.bytes = text.encode)
      ∧ ∀ a : Ask, Fits o.environment a.path →
        (Found asks o a.path → ∃ text, a.Serves now text)
          ∧ (¬ Found asks o a.path →
            (left (a.perform now)).requests = now.requests.push a.address
              ∧ (a.isRefused → ∃ after, a.perform now = .ok none after
                ∧ ∀ l, after.files.file? l = now.files.file? l)
              ∧ ∀ text, a.servers.lookup a.address = some (.answer 200 text) →
                a.Downloads now text) := by
  intro now
  obtain ⟨t', htidy⟩ := tidy_passing hvacant.ready hvacant.directory asks
  refine ⟨fun name file => hvacant.downloaded, fun a hfits => ⟨fun hfound => ?_, fun hfound => ?_⟩⟩
  · obtain ⟨file, hfile⟩ := Option.isSome_iff_exists.mp ((hvacant.found_iff htidy).mp hfound)
    have hplace := hfile
    rw [keptAt_eq] at hplace
    obtain ⟨b, text, _, _, hbytes⟩ := hvacant.downloaded hplace
    exact ⟨text.unifyNewlines, htidy.serves hfits hfile hbytes⟩
  · rw [hvacant.found_iff htidy, Option.not_isSome_iff_eq_none] at hfound
    exact ⟨htidy.requests hfits hfound, htidy.refused hfits hfound,
      fun text => htidy.downloads hfits hfound⟩

/-- An include that could not be fetched is there once the server is, and stays when it is gone. -/
theorem requested_until_found_recovers :
    ∃ t, Vacant homely t ∧ Fits homely.environment ['a']
      ∧ (∃ after, unanswered.perform homely = .ok none after)
      ∧ (askOf ['x']).Downloads (passing [unanswered] homely) ['x']
      ∧ ∃ text, unanswered.Serves (passing [unanswered, askOf ['x']] homely) text := by
  obtain ⟨t, hvacant⟩ := exists_vacant_homely
  have hfits : Fits homely.environment ['a'] :=
    ⟨by decide, by decide +kernel, by decide +kernel⟩
  have hfirst : ¬ Found [] homely ['a'] := fun ⟨b, hb, _⟩ => not_succeededBy_nil homely b hb
  obtain ⟨after, hrefused, _⟩ :=
    (((requested_until_found hvacant []).2 unanswered hfits).2 hfirst).2.1 (by decide)
  have hsecond : ¬ Found [unanswered] homely ['a'] := by
    rintro ⟨b, hsucceeded, hname⟩
    have hb : SucceededBy ([] ++ [unanswered]) homely b := hsucceeded
    rcases succeededBy_snoc hb with hnone | ⟨_, text, later, hresult⟩
    · exact hfirst ⟨b, hnone, hname⟩
    · rw [hrefused] at hresult
      cases hresult
  have hdownloads : (askOf ['x']).Downloads (passing [unanswered] homely) ['x'] :=
    (((requested_until_found hvacant [unanswered]).2 (askOf ['x']) hfits).2 hsecond).2.2 ['x']
      (by decide)
  have hthird : Found [unanswered, askOf ['x']] homely ['a'] := by
    have hdownloaded : DownloadedBy [unanswered, askOf ['x']] homely (askOf ['x']) ['x'] :=
      ⟨[unanswered], [], rfl, hdownloads⟩
    exact ⟨_, hdownloaded.succeededBy, rfl⟩
  exact ⟨t, hvacant, hfits, ⟨after, hrefused⟩, hdownloads,
    ((requested_until_found hvacant [unanswered, askOf ['x']]).2 unanswered hfits).1 hthird⟩

end ShaderPlayer.Include
