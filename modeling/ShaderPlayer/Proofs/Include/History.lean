/-
Where a text that is served was downloaded.

Includes are asked of servers one after the other, and what is downloaded is kept under a cache
name, which says neither the server nor all of the path.

* `Kept`, `kept_passing` — every file is one from the start, or keeps the text of an earlier ask;
* `served_from` — a text that is served without a request was there or was downloaded for the same
  cache name;
* `served_for_address` — so it was downloaded for the same address, if the asks before that have its
  cache name have its address.
-/
import Mathlib.Data.List.Induction
import ShaderPlayer.Proofs.Include.Cache

namespace ShaderPlayer.Include

/-- An include that is asked of a server whose texts are kept, while servers answer as they do. -/
structure Ask where
  servers : Entries Response
  base : Text
  path : Text

namespace Ask

/-- The address that the include is requested from. -/
def address (a : Ask) : Text := Include.address a.base a.path

/-- The surroundings that the include is asked in. -/
def world (a : Ask) (o : Outside) : Outside := { o with servers := a.servers }

/-- What is answered. -/
def perform (a : Ask) (o : Outside) : EStateM.Result Fault Outside (Option Text) :=
  (Source.server a.base true).fetch a.path (a.world o)

/-- The text is downloaded: it is requested, and it is what the server answers. -/
structure Downloads (a : Ask) (o : Outside) (text : Text) : Prop where
  answer : a.servers.lookup a.address = some (.answer 200 text)
  result : ∃ after, a.perform o = .ok (some text) after
    ∧ after.requests = o.requests.push a.address

/-- The text is served without a request. -/
def Serves (a : Ask) (o : Outside) (text : Text) : Prop :=
  ∃ after, a.perform o = .ok (some text) after ∧ after.requests = o.requests

end Ask

/-- The surroundings after asks, one after the other. -/
def passing (asks : List Ask) (o : Outside) : Outside :=
  asks.foldl (fun o a => left (a.perform o)) o

theorem passing_snoc (asks : List Ask) (a : Ask) (o : Outside) :
    passing (asks ++ [a]) o = left (a.perform (passing asks o)) := by
  unfold passing
  rw [List.foldl_append]
  rfl

theorem fetches_perform (a : Ask) (o : Outside) : Fetches a.base a.path (a.world o) (a.perform o) := by
  unfold Ask.perform
  rw [Source.fetch]
  exact fetches_fetchCached a.base a.path (a.world o)

/-- One of some asks downloads a text. -/
def DownloadedBy (asks : List Ask) (o : Outside) (b : Ask) (text : Text) : Prop :=
  ∃ before rest, asks = before ++ b :: rest ∧ b.Downloads (passing before o) text

theorem DownloadedBy.mem {asks : List Ask} {o : Outside} {b : Ask} {text : Text}
    (h : DownloadedBy asks o b text) : b ∈ asks := by
  obtain ⟨before, rest, hasks, _⟩ := h
  exact hasks ▸ List.mem_append_right before List.mem_cons_self

/-- Every file was there before some asks, or keeps a text that one of them downloads. -/
structure Kept (asks : List Ask) (o now : Outside) : Prop where
  environment : now.environment = o.environment
  file : ∀ {l file}, now.files.file? l = some file → o.files.file? l = some file
    ∨ ∃ b text, DownloadedBy asks o b text ∧ l = keptAt o.environment b.path
        ∧ file.bytes = text.encode

theorem Kept.snoc {asks : List Ask} {o now : Outside} (h : Kept asks o now) (a : Ask)
    {after : Outside} (henvironment : after.environment = now.environment)
    (hfile : ∀ {l file}, after.files.file? l = some file → now.files.file? l = some file
      ∨ ∃ text, a.Downloads (passing asks o) text ∧ l = keptAt o.environment a.path
          ∧ file.bytes = text.encode) :
    Kept (asks ++ [a]) o after := by
  refine ⟨henvironment.trans h.environment, fun {l file} hl => ?_⟩
  rcases hfile hl with hl | ⟨text, hdownloads, hplace, hbytes⟩
  · rcases h.file hl with hl | ⟨b, text, ⟨before, rest, hasks, hdownloads⟩, hplace, hbytes⟩
    · exact .inl hl
    · refine .inr ⟨b, text, ⟨before, rest ++ [a], ?_, hdownloads⟩, hplace, hbytes⟩
      rw [hasks, List.append_assoc, List.cons_append]
  · exact .inr ⟨a, text, ⟨asks, [], rfl, hdownloads⟩, hplace, hbytes⟩

/-- The induction is on the asks, the last one first: what that one leaves is what is kept. -/
theorem kept_passing (asks : List Ask) (o : Outside) : Kept asks o (passing asks o) := by
  induction asks using List.reverseRecOn with
  | nil => exact ⟨rfl, fun h => .inl h⟩
  | append_singleton asks a ih =>
    have hfetches := fetches_perform a (passing asks o)
    rw [passing_snoc]
    have hleaves : ∀ {after}, Leaves (a.world (passing asks o)) after → Kept (asks ++ [a]) o after := by
      intro after hleaves
      refine ih.snoc a hleaves.environment fun {l file} hl => .inl ?_
      rw [hleaves.made.file?] at hl
      exact hl
    rcases hend : a.perform (passing asks o) with ⟨text, after⟩ | ⟨fault, after⟩
    all_goals rw [hend] at hfetches
    · cases hfetches with
      | missing leaves => exact hleaves leaves
      | served leaves _ _ _ => exact hleaves leaves
      | downloaded environment requests answer written =>
        refine ih.snoc a environment fun {l file} hl => ?_
        have hl : after.files.file? l = some file := hl
        rw [written] at hl
        split at hl
        · next hplace =>
          cases hl
          refine .inr ⟨_, ⟨answer, after, hend, requests⟩, ?_, rfl⟩
          rw [hplace, ← ih.environment]
          rfl
        · exact .inl hl
    · cases hfetches with
      | stopped _ leaves => exact hleaves leaves

/-- A text that is served without a request was there from the start, or was downloaded for the
same cache name. -/
theorem served_from {asks : List Ask} {a : Ask} {o after : Outside} {text : Text}
    (h : a.perform (passing asks o) = .ok (some text) after) :
    a.Downloads (passing asks o) text ∨ a.Serves (passing asks o) text
      ∧ ((∃ file, o.files.file? (keptAt o.environment a.path) = some file
          ∧ FileTree.File.text file = .ok text)
        ∨ ∃ b downloaded, DownloadedBy asks o b downloaded ∧ cacheName b.path = cacheName a.path
          ∧ text = downloaded.unifyNewlines) := by
  have hkept := kept_passing asks o
  have hfetches := fetches_perform a (passing asks o)
  rw [h] at hfetches
  cases hfetches with
  | downloaded _ requests answer _ => exact .inl ⟨answer, after, h, requests⟩
  | @served file _ _ _ requests kept read =>
    refine .inr ⟨⟨after, h, requests⟩, ?_⟩
    have henvironment : (a.world (passing asks o)).environment = o.environment := hkept.environment
    rw [henvironment] at kept
    rcases hkept.file kept with hfile | ⟨b, downloaded, hdownloaded, hplace, hbytes⟩
    · exact .inl ⟨file, hfile, read⟩
    · refine .inr ⟨b, downloaded, hdownloaded, (keptAt_eq_iff.mp hplace).symm, ?_⟩
      have htext := Text.text_of_encode downloaded file.modified
      rw [← hbytes] at htext
      exact Except.ok.inj (read.symm.trans htext)

/-- A text that is served without a request was there from the start, or was downloaded for the
same address, if the asks before that have the same cache name have the same address. -/
theorem served_for_address {asks : List Ask} {a : Ask} {o after : Outside} {text : Text}
    (hnames : ∀ b ∈ asks, cacheName b.path = cacheName a.path → b.address = a.address)
    (h : a.perform (passing asks o) = .ok (some text) after) :
    a.Downloads (passing asks o) text ∨ a.Serves (passing asks o) text
      ∧ ((∃ file, o.files.file? (keptAt o.environment a.path) = some file
          ∧ FileTree.File.text file = .ok text)
        ∨ ∃ b downloaded, DownloadedBy asks o b downloaded ∧ b.address = a.address
          ∧ text = downloaded.unifyNewlines) := by
  rcases served_from h with hdownloads | ⟨hserves, hstart | ⟨b, downloaded, hdownloaded, hname, htext⟩⟩
  · exact .inl hdownloads
  · exact .inr ⟨hserves, .inl hstart⟩
  · have haddress : b.address = a.address := hnames b hdownloaded.mem hname
    exact .inr ⟨hserves, .inr ⟨b, downloaded, hdownloaded, haddress, htext⟩⟩

/-! ### Two includes of one cache name -/

/-- What an answer and the requests made for it are. -/
def outcome (result : EStateM.Result Fault Outside (Option Text)) : Option (Option Text × Array Text) :=
  match result with
  | .ok text after => some (text, after.requests)
  | .error _ _ => none

theorem exists_of_outcome {result : EStateM.Result Fault Outside (Option Text)} {text : Option Text}
    {requests : Array Text} (h : outcome result = some (text, requests)) :
    ∃ after, result = .ok text after ∧ after.requests = requests := by
  rcases result with ⟨found, after⟩ | ⟨fault, after⟩
  · cases h
    exact ⟨after, rfl, rfl⟩
  · cases h

/-- Surroundings with a place to keep texts. -/
def homely : Outside := { environment := [("HOME".toList, "/home/u".toList)] }

/-- An include of a server that has two texts. -/
def askFor (path : String) : Ask where
  servers := [("u/a/b.wgsl".toList, .answer 200 ['A']), ("u/a__b.wgsl".toList, .answer 200 ['B'])]
  base := "u/".toList
  path := path.toList

theorem downloads_first : (askFor "a/b").Downloads homely ['A'] where
  answer := by decide
  result := exists_of_outcome (by decide +kernel)

theorem serves_then (path : String) (h : path = "a/b" ∨ path = "a__b") :
    (askFor path).Serves (passing [askFor "a/b"] homely) ['A'] := by
  rcases h with rfl | rfl <;> exact exists_of_outcome (by decide +kernel)

theorem served_for_address_again :
    (∀ b ∈ [askFor "a/b"], cacheName b.path = cacheName (askFor "a/b").path →
        b.address = (askFor "a/b").address)
      ∧ ∃ b downloaded, DownloadedBy [askFor "a/b"] homely b downloaded
        ∧ b.address = (askFor "a/b").address ∧ ['A'] = downloaded.unifyNewlines := by
  have hnames : ∀ b ∈ [askFor "a/b"], cacheName b.path = cacheName (askFor "a/b").path →
      b.address = (askFor "a/b").address := by
    intro b hb _
    rw [List.mem_singleton.mp hb]
  refine ⟨hnames, ?_⟩
  obtain ⟨after, hserved, hrequests⟩ := serves_then "a/b" (.inl rfl)
  rcases served_for_address hnames hserved with hdownloads | ⟨_, ⟨file, hfile, _⟩ | hsource⟩
  · obtain ⟨_, other, hother, hmore⟩ := hdownloads
    rw [hserved] at hother
    cases hother
    rw [hrequests] at hmore
    exact absurd (congrArg Array.size hmore) (by rw [Array.size_push]; omega)
  · have hnone : homely.files.file? (keptAt homely.environment (askFor "a/b").path) = none := by
      decide +kernel
    rw [hnone] at hfile
    cases hfile
  · exact hsource

/-- The text of one include is served for another one, whose slash is written as two underscores. -/
theorem served_of_another :
    (askFor "a/b").address ≠ (askFor "a__b").address
      ∧ (askFor "a/b").Downloads homely ['A']
      ∧ (askFor "a__b").Serves (passing [askFor "a/b"] homely) ['A']
      ∧ (askFor "a__b").servers.lookup (askFor "a__b").address = some (.answer 200 ['B']) := by
  exact ⟨by decide, downloads_first, serves_then "a__b" (.inr rfl), by decide⟩

end ShaderPlayer.Include
