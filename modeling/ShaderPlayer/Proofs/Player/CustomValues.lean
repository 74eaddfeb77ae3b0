/-
Custom uniforms where a shader reads them.

A shader reads the fields of the structure of custom uniforms one after the other from the buffer.
The host puts every value where the last field of its name is, so a name that comes again leaves
its earlier fields without a value.

* `overlaid_of_last`, `getElem_wordsOf` — which of several values of a name is put, and where;
* `host_setCustom` — what becomes of the host does not depend on the connection;
* `Met` — the states of bindings, on their own or those of a player;
* `custom_values` — the structure has the names that were set, and the bytes of each field are those
  of its value, unless its name comes again;
* `custom_values_repeated` — if it does, they are zeros.
-/
import ShaderPlayer.Proofs.Bindings.TableBytes
import ShaderPlayer.Proofs.Number.Nearest
import ShaderPlayer.Proofs.Player.Blocks
import ShaderPlayer.Proofs.Shader.Structures

namespace ShaderPlayer

open Function (update)

/-! ### Values of a name -/

namespace Host

theorem overlaid_of_not_mem {pairs : List (Text × Double)} {name : Text}
    (h : name ∉ pairs.map (·.1)) (word : Text → UInt32) : overlaid word pairs name = word name := by
  induction pairs generalizing word with
  | nil => rfl
  | cons pair pairs ih =>
    rw [List.map_cons, List.mem_cons, not_or] at h
    exact (ih h.2 _).trans (Function.update_of_ne h.1 _ _)

/-- The last value of a name is the one that is put. -/
theorem overlaid_of_last {names : List Text} {values : List Double} {i : Nat} {name : Text}
    {x : Double} (hname : names[i]? = some name) (hx : values[i]? = some x)
    (hlast : name ∉ names.drop (i + 1)) (word : Text → UInt32) :
    overlaid word (names.zip values) name = x.toSingle := by
  induction names generalizing values i word with
  | nil => cases hname
  | cons head rest ih =>
    rcases values with _ | ⟨value, values⟩
    · cases hx
    rcases i with _ | i
    · -- what comes after has other names
      cases hname
      cases hx
      have hother : name ∉ (rest.zip values).map (·.1) := by
        intro hmem
        obtain ⟨pair, hpair, rfl⟩ := List.mem_map.mp hmem
        exact hlast (List.of_mem_zip hpair).1
      exact (overlaid_of_not_mem hother _).trans (Function.update_self ..)
    · exact ih hname hx hlast _

/-- The word of a field, that of its name unless this comes again. -/
theorem getElem_wordsOf {names : List Text} {i : Nat} {name : Text} (h : names[i]? = some name)
    (word : Text → UInt32) :
    (wordsOf word names)[i]? = some (if name ∈ names.drop (i + 1) then 0 else word name) := by
  induction names generalizing i with
  | nil => cases h
  | cons head rest ih =>
    cases i with
    | zero =>
      cases h
      rfl
    | succ i => exact ih h

/-- The word at the place of a field is that of its value, or zero if its name comes again. -/
theorem word_setCustom {h : Host} (hh : h.Tidy) {names : List Text} {values : List Double}
    (hlength : names.length = values.length) {i : Nat} {name : Text} {x : Double}
    (hname : names[i]? = some name) (hx : values[i]? = some x) :
    (h.setCustom (names.zip values)).custom.words[i]?
      = some (if name ∈ names.drop (i + 1) then 0 else x.toSingle) := by
  obtain ⟨word, _, hcustom⟩ := custom_setCustom hh (names.zip values)
  have hi : i < names.length := (List.getElem?_eq_some_iff.mp hname).1
  rw [hcustom, List.map_fst_zip (le_of_eq hlength)]
  show (wordsOf _ names ++ _)[i]? = _
  rw [List.getElem?_append_left (by rwa [length_wordsOf]), getElem_wordsOf hname]
  by_cases hagain : name ∈ names.drop (i + 1)
  · rw [if_pos hagain, if_pos hagain]
  · rw [if_neg hagain, if_neg hagain, overlaid_of_last hname hx hagain]

end Host

namespace Rig

open Gpu Shader

/-! ### Setting custom uniforms -/

/-- What becomes of the host does not depend on the connection. -/
theorem host_setCustom (pairs : List (Text × Double)) (r : Rig) :
    (left (setCustom pairs r)).host = r.host.setCustom pairs := by
  let Same (h : Host) : Prop := h = r.host.setCustom pairs
  have hrebind : Keeps (fun r => Same r.host)
      (rebind do return { custom := some (← makeUniform (← get).host.custom "custom") }) :=
    keepsHost_rebind (keeps_bind keeps_get fun _ => keeps_bind (keepsHost_onDevice _) fun _ =>
      keeps_pure _)
  exact keeps_ite hrebind (keeps_pure _) { r with host := r.host.setCustom pairs } rfl

/-- The states of bindings, on their own or those of a player. -/
inductive Met : Rig → Prop
  | alone {r : Rig} (used : Used r) : Met r
  | ofPlayer {p : Player} (reachable : Player.Reachable p) : Met p.rig

theorem arranged_of_met {r : Rig} (hr : Met r) : r.host.Arranged := by
  cases hr with
  | alone used => exact arranged_of_used used
  | ofPlayer reachable => exact Player.arranged_of_reachable reachable

/-- Custom uniforms are where a shader reads them, if their names come once. -/
structure Landed (names : List Text) (values : List Double) (r : Rig) : Prop where
  named : r.host.customNames = names
  /-- The structure in the prelude has a field for each name, in this order. -/
  declared : ∀ tables, fieldsOf "Custom".toList (prelude r.host.customNames tables r.host.wide)
    = names.map fun name => (name, "float".toList)
  /-- The word of a field, from the bytes of the block. -/
  written : ∀ {i : Nat} {name : Text} {x : Double}, names[i]? = some name → values[i]? = some x →
    ∃ word, wordFrom? r.host.custom.bytes (4 * i) = some word.toNat
      ∧ if name ∈ names.drop (i + 1) then word = 0 else x.NearestSingle word
  /-- These bytes are written to the buffer of custom uniforms before a frame. -/
  staged : ∀ {b : HostBuffers}, r.connection.buffers? = some b →
    ∃ gpu, stage r = .ok () { r with gpu } ∧ gpu.told = r.gpu.told ++ stageCalls b r.host

theorem landed_setCustom {r after : Rig} (hr : r.host.Tidy) {names : List Text}
    {values : List Double} (hlength : names.length = values.length) (hnames : Host.Proper names)
    (hafter : after.host = r.host.setCustom (names.zip values)) : Landed names values after := by
  have hset : after.host.customNames = names := by
    rw [hafter, Host.customNames_setCustom]
    exact List.map_fst_zip (le_of_eq hlength)
  refine ⟨hset, fun tables => ?_, fun hname hx => ?_, fun hb => ?_⟩
  · rw [hset]
    exact fieldsOf_prelude_custom hnames.identifiers tables _
  · have hword := Host.word_setCustom hr hlength hname hx
    rw [← hafter] at hword
    refine ⟨_, wordFrom_flatMap hword, ?_⟩
    split
    · rfl
    · exact Double.nearestSingle_toSingle _
  · obtain ⟨gpu, _, htold, hrun⟩ := stage_of_buffers hb
    exact ⟨gpu, hrun, htold⟩

/-- Where custom uniforms can be set to a list of names that is not empty, in any state of bindings,
the names are those of the list, with a field for each in the prelude, and at the place of each
field are the bytes of the value that was given with it, unless its name comes again. -/
theorem custom_values {r after : Rig} (hr : Met r) {names values : Value} {items : List Value}
    (hitems : names.items = .ok items) (hsome : items ≠ [])
    (hset : setCustomValues names values r = .ok () after) :
    ∃ (texts : List Text) (numbers : List Value) (doubles : List Double),
      items.map Value.text? = texts.map some ∧ values.items = .ok numbers
      ∧ numbers.mapM Value.toDouble = .ok doubles ∧ texts.length = doubles.length
      ∧ Landed texts doubles after := by
  rcases hgiven : Host.customArguments names values with fault | given
  · cases (run_ofExcept_bind_of_error hgiven _ r).symm.trans hset
  obtain ⟨items', numbers, hitems', htexts, hnumbers, hdoubles, hlength⟩ :=
    Host.customArguments_spec hgiven
  cases hitems.symm.trans hitems'
  have hread := Host.map_text_of_customName htexts
  have hne : given.1 ≠ [] := by
    intro hnil
    rw [hnil, List.map_nil, List.map_eq_nil_iff] at hread
    exact hsome hread
  have hpairs : Host.customOrPlaceholder given.1 given.2 = given.1.zip given.2 := by
    unfold Host.customOrPlaceholder
    rw [if_neg (by rwa [List.isEmpty_iff])]
  have hproper := Host.proper_of_customArguments hgiven
  rw [Host.map_fst_customOrPlaceholder hlength hne] at hproper
  have hrun : setCustom (given.1.zip given.2) r = .ok () after := by
    rw [← hpairs]
    exact (run_ofExcept_bind_of_ok hgiven _ r).symm.trans hset
  have hhost := host_setCustom (given.1.zip given.2) r
  rw [hrun] at hhost
  exact ⟨given.1, numbers, given.2, hread, hnumbers, hdoubles, hlength,
    landed_setCustom (arranged_of_met hr).tidy hlength hproper hhost⟩

/-! ### Names that come once, and again -/

/-- New bindings of a small screen. -/
def smallRig : Rig := { host := plainHost }

/-- The numbers one and two. -/
def oneAndTwo : Value := .list [.float (.ofDecimal false 1 0), .float (.ofDecimal false 2 0)]

/-- The bindings after two names were set to these numbers. -/
def afterTwo (first second : Text) : Rig :=
  { host := plainHost.setCustom
      [(first, .ofDecimal false 1 0), (second, .ofDecimal false 2 0)] }

theorem met_smallRig : Met smallRig := .alone .start

theorem custom_values_twoNames :
    ∃ after, setCustomValues (.list [.text ['a'], .text ['b']]) oneAndTwo smallRig = .ok () after
      ∧ ∃ (texts : List Text) (numbers : List Value) (doubles : List Double),
        [Value.text ['a'], .text ['b']].map Value.text? = texts.map some
          ∧ oneAndTwo.items = .ok numbers ∧ numbers.mapM Value.toDouble = .ok doubles
          ∧ texts.length = doubles.length ∧ Landed texts doubles after := by
  have hset : setCustomValues (.list [.text ['a'], .text ['b']]) oneAndTwo smallRig
      = .ok () (afterTwo ['a'] ['b']) := rfl
  exact ⟨_, hset, custom_values met_smallRig rfl (List.cons_ne_nil _ _) hset⟩

/-- A name that comes twice leaves its first field without a value. -/
theorem custom_values_repeated :
    Met smallRig ∧ ∃ after,
      setCustomValues (.list [.text ['a'], .text ['a']]) oneAndTwo smallRig = .ok () after
      ∧ after.host.customNames = [['a'], ['a']]
      ∧ wordFrom? after.host.custom.bytes 0 = some 0
      ∧ (Double.ofDecimal false 1 0).toSingle ≠ 0 := by
  refine ⟨met_smallRig, afterTwo ['a'] ['a'], rfl, rfl, ?_, ?_⟩ <;> decide +kernel

end Rig

end ShaderPlayer
