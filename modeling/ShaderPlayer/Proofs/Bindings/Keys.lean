/-
Keys as a shader reads them.

The host keeps one bit for each key in eight words.  A shader sees the bytes of these words as two
vectors of four components, and looks a key up by a vector, a component and a bit.

* `keyDown?` — what a shader reads for a key, from the bytes of the block of the keyboard;
* `HeldDown` — the last call for a key set it down;
* `keyBit_setKey` — setting a key moves its bit and no other;
* `keyDown_iff_heldDown` — so after any calls a shader reads for every key what the last call for
  it said, and calls for what is no key change nothing.
-/
import ShaderPlayer.Bindings.Rig
import ShaderPlayer.Proofs.Bindings.TableBytes
import Mathlib.Data.List.Induction

namespace ShaderPlayer

/-! ### Reading keys -/

/-- A component of one of the vectors of four words that follow each other in bytes. -/
def component? (bytes : Bytes) (vector component : Nat) : Option Nat :=
  wordFrom? bytes (16 * vector + 4 * component)

/-- What the built-in function `keyDown` of a shader answers for a key, where the block of the
keyboard has such bytes. -/
def keyDown? (bytes : Bytes) (key : Nat) : Option Bool :=
  (component? bytes (key / 128) (key % 128 / 32)).map fun word =>
    ((word >>> (key % 32)) &&& 1) == 1

/-- This is the expression that the function returns. -/
example : "    return ((_keyboard[keycode / 128u][(keycode % 128u) / 32u] >> (keycode % 32u)) & 1u) == 1u;"
    ∈ Shader.functionLines := by decide

namespace Host

/-! ### One key -/

/-- The bit that a host keeps for a key. -/
def keyBit (h : Host) (key : Nat) : Bool :=
  ((h.keyboard.words[key / 32]?).getD 0).toNat.testBit (key % 32)

/-- The block of the keyboard has a bit for every key. -/
def Keyed (h : Host) : Prop := h.keyboard.words.length = 8

theorem Keyed.setKey {h : Host} (hh : h.Keyed) (key : Nat) (down : Bool) :
    (h.setKey key down).Keyed := by
  show (h.keyboard.words.set _ _).length = 8
  rw [List.length_set]
  exact hh

theorem toNat_mask {bit : Nat} (h : bit < 32) :
    ((1 : UInt32) <<< UInt32.ofNat bit).toNat = 2 ^ bit := by
  have hbit : (UInt32.ofNat bit).toNat = bit := by
    rw [UInt32.toNat_ofNat']
    exact Nat.mod_eq_of_lt (by omega)
  have hpow : 2 ^ bit < 2 ^ 32 := Nat.pow_lt_pow_right (by decide) h
  rw [UInt32.toNat_shiftLeft, hbit, Nat.mod_eq_of_lt h, UInt32.toNat_one, Nat.shiftLeft_eq,
    Nat.one_mul, Nat.mod_eq_of_lt hpow]

/-- Of a word only the bit that is set changes. -/
theorem testBit_withBit (word : UInt32) {bit other : Nat} (hbit : bit < 32) (hother : other < 32)
    (down : Bool) :
    (withBit word bit down).toNat.testBit other
      = if other = bit then down else word.toNat.testBit other := by
  cases down with
  | true =>
    show (word ||| (1 : UInt32) <<< UInt32.ofNat bit).toNat.testBit other = _
    rw [UInt32.toNat_or, Nat.testBit_or, toNat_mask hbit, Nat.testBit_two_pow]
    by_cases h : other = bit
    · simp [h]
    · simp [h, Ne.symm h]
  | false =>
    show (word &&& ~~~ ((1 : UInt32) <<< UInt32.ofNat bit)).toNat.testBit other = _
    have hpow : 2 ^ bit < 2 ^ 32 := Nat.pow_lt_pow_right (by decide) hbit
    have hmask : UInt32.size - 1 - 2 ^ bit = 2 ^ 32 - (2 ^ bit + 1) := by
      show 2 ^ 32 - 1 - 2 ^ bit = _
      omega
    rw [UInt32.toNat_and, Nat.testBit_and, UInt32.toNat_not, toNat_mask hbit, hmask,
      Nat.testBit_two_pow_sub_succ hpow, Nat.testBit_two_pow]
    by_cases h : other = bit
    · simp [h]
    · simp [h, Ne.symm h, hother]

/-- Setting a key moves its bit and no other. -/
theorem keyBit_setKey {h : Host} (hh : h.Keyed) {key other : Nat} (hkey : key < 256)
    (down : Bool) :
    (h.setKey key down).keyBit other = if other = key then down else h.keyBit other := by
  have hword : key / 32 < h.keyboard.words.length := by
    rw [show h.keyboard.words.length = 8 from hh]
    omega
  show (((h.keyboard.words.set (key / 32) (withBit ((h.keyboard.words[key / 32]?).getD 0)
    (key % 32) down))[other / 32]?).getD 0).toNat.testBit (other % 32) = _
  rw [List.getElem?_set]
  by_cases hsame : key / 32 = other / 32
  · rw [if_pos hsame, if_pos hword, Option.getD_some,
      testBit_withBit _ (Nat.mod_lt key (by decide)) (Nat.mod_lt other (by decide)), hsame]
    -- in one word, keys with the same bit are the same
    have hplace : other % 32 = key % 32 ↔ other = key := by omega
    simp only [hplace]
    rfl
  · have hne : other ≠ key := fun heq => hsame (by rw [heq])
    rw [if_neg hsame, if_neg hne]
    rfl

/-- A shader finds the bit of a key where the host keeps it. -/
theorem keyDown_eq_keyBit {h : Host} (hh : h.Keyed) {key : Nat} (hkey : key < 256) :
    keyDown? h.keyboard.bytes key = some (h.keyBit key) := by
  have hword : key / 32 < h.keyboard.words.length := by
    rw [show h.keyboard.words.length = 8 from hh]
    omega
  have hplace : 16 * (key / 128) + 4 * (key % 128 / 32) = 4 * (key / 32) := by omega
  have hget := List.getElem?_eq_getElem hword
  have hread : wordFrom? h.keyboard.bytes (4 * (key / 32))
      = some (h.keyboard.words[key / 32]).toNat := wordFrom_flatMap hget
  unfold keyDown? component? keyBit
  rw [hplace, hread, hget, Option.map_some, Option.getD_some, Nat.testBit_eq_decide_div_mod_eq,
    Nat.and_one_is_mod, Nat.shiftRight_eq_div_pow]
  rfl

/-! ### What is a key -/

theorem keycode_eq_ok_iff {code : Value} {key : Nat} :
    keycode code = .ok key ↔ code.integer? = some (key : Int) ∧ key < 256 := by
  -- a whole number is a key by its range, and nothing else is one
  have whole : ∀ (n : Int) (shown : Text),
      (if 0 ≤ n ∧ n < 256 then Except.ok n.toNat else .error (Fault.keycode shown)) = .ok key
        ↔ some n = some (key : Int) ∧ key < 256 := by
    intro n shown
    by_cases hn : 0 ≤ n ∧ n < 256
    · simp only [if_pos hn, Except.ok.injEq, Option.some.injEq]
      omega
    · simp only [if_neg hn, reduceCtorEq, Option.some.injEq, false_iff]
      omega
  cases code with
  | bool b => exact whole _ _
  | int n => exact whole _ _
  | float x =>
    simp only [Value.integer?, reduceCtorEq, false_and, iff_false]
    simp only [keycode]
    split
    · split <;> simp
    · simp
  | _ => simp [keycode, Value.integer?]

end Host

namespace Rig

/-! ### Calls -/

theorem setKey_of_ok {code : Value} {key : Nat} (h : Host.keycode code = .ok key) (down : Bool)
    (r : Rig) : setKey code down r = .ok () { r with host := r.host.setKey key down } :=
  run_ofExcept_bind_of_ok h _ r

theorem setKey_of_error {code : Value} {fault : Fault} (h : Host.keycode code = .error fault)
    (down : Bool) (r : Rig) : setKey code down r = .error fault r :=
  run_ofExcept_bind_of_error h _ r

/-- The bindings after keys were set one after the other, whether or not each could be. -/
def press (calls : List (Value × Bool)) (r : Rig) : Rig :=
  calls.foldl (fun r call => left (setKey call.1 call.2 r)) r

/-- The last call for a key set it down. -/
def HeldDown (calls : List (Value × Bool)) (key : Nat) : Prop :=
  ∃ before code after, calls = before ++ (code, true) :: after
    ∧ code.integer? = some (key : Int) ∧ ∀ call ∈ after, call.1.integer? ≠ some (key : Int)

theorem heldDown_snoc (calls : List (Value × Bool)) (code : Value) (down : Bool) (key : Nat) :
    HeldDown (calls ++ [(code, down)]) key
      ↔ if code.integer? = some (key : Int) then down = true else HeldDown calls key := by
  constructor
  · rintro ⟨before, code', after, hcalls, hcode', hafter⟩
    -- the call that set the key down is the last one, or it was among the calls before
    rcases List.eq_nil_or_concat after with rfl | ⟨rest, last, rfl⟩
    · obtain ⟨rfl, hcall⟩ := List.append_inj' hcalls rfl
      simp only [List.cons.injEq, Prod.mk.injEq, and_true] at hcall
      obtain ⟨rfl, rfl⟩ := hcall
      rw [if_pos hcode']
    · have hsplit : calls ++ [(code, down)] = (before ++ (code', true) :: rest) ++ [last] := by
        simpa using hcalls
      obtain ⟨rfl, hlast⟩ := List.append_inj' hsplit rfl
      simp only [List.cons.injEq, and_true] at hlast
      subst hlast
      rw [if_neg (hafter (code, down) (by simp))]
      exact ⟨before, code', rest, rfl, hcode',
        fun call hcall => hafter call (by simp [hcall])⟩
  · intro h
    split at h
    case isTrue hcode =>
      subst h
      exact ⟨calls, code, [], rfl, hcode, by simp⟩
    case isFalse hcode =>
      obtain ⟨before, code', after, rfl, hcode', hafter⟩ := h
      refine ⟨before, code', after ++ [(code, down)], by simp, hcode', ?_⟩
      intro call hcall
      rcases List.mem_append.mp hcall with hcall | hcall
      · exact hafter call hcall
      · obtain rfl := List.mem_singleton.mp hcall
        exact hcode

/-! ### Runs -/

theorem press_snoc (calls : List (Value × Bool)) (call : Value × Bool) (r : Rig) :
    press (calls ++ [call]) r = left (setKey call.1 call.2 (press calls r)) := by
  simp [press]

/-- A call moves the bit of its key and no other, and none if it is for no key. -/
theorem keyBit_left_setKey {r : Rig} (hr : r.host.Keyed) (code : Value) (down : Bool) {key : Nat}
    (hkey : key < 256) :
    (left (setKey code down r)).host.Keyed
      ∧ (left (setKey code down r)).host.keyBit key
        = if code.integer? = some (key : Int) then down else r.host.keyBit key := by
  cases hcode : Host.keycode code with
  | error fault =>
    have hother : code.integer? ≠ some (key : Int) := by
      intro h
      rw [Host.keycode_eq_ok_iff.mpr ⟨h, hkey⟩] at hcode
      cases hcode
    rw [setKey_of_error hcode, if_neg hother]
    exact ⟨hr, rfl⟩
  | ok pressed =>
    obtain ⟨hinteger, hpressed⟩ := Host.keycode_eq_ok_iff.mp hcode
    have hsame : code.integer? = some (key : Int) ↔ key = pressed := by
      rw [hinteger, Option.some.injEq]
      omega
    simp only [setKey_of_ok hcode, hsame]
    exact ⟨hr.setKey pressed down, Host.keyBit_setKey hr hpressed down⟩

/-- A host that starts has no key down. -/
theorem keyBit_start (width height : Int) (wide : Bool) (storageSize : Int) (key : Nat) :
    (Host.start width height wide storageSize).keyBit key = false := by
  have hwords : (Host.start width height wide storageSize).keyboard.words
      = List.replicate 8 0 := rfl
  rw [Host.keyBit, hwords, List.getElem?_replicate]
  split <;> simp

theorem keyBit_press (calls : List (Value × Bool)) {r : Rig} (hr : r.host.Keyed)
    (hstart : ∀ key, r.host.keyBit key = false) {key : Nat} (hkey : key < 256) :
    (press calls r).host.Keyed
      ∧ ((press calls r).host.keyBit key = true ↔ HeldDown calls key) := by
  induction calls using List.reverseRecOn with
  | nil =>
    refine ⟨hr, ?_⟩
    show r.host.keyBit key = true ↔ _
    simp [hstart, HeldDown]
  | append_singleton calls call ih =>
    obtain ⟨hkeyed, hbit⟩ := ih
    obtain ⟨hnext, hmoved⟩ := keyBit_left_setKey hkeyed call.1 call.2 hkey
    rw [press_snoc]
    refine ⟨hnext, ?_⟩
    rw [hmoved, heldDown_snoc]
    split
    · exact Iff.rfl
    · exact hbit

/-- After any calls, a shader reads that a key is down if the last call for it said so.  A call
for a number outside the keys raises, and any call that raises changes nothing. -/
theorem keyDown_iff_heldDown (width height : Int) (wide : Bool) (storageSize : Int)
    (gpu : Gpu.State) (connection : Connection) (calls : List (Value × Bool)) :
    let fresh : Rig := { host := .start width height wide storageSize, gpu, connection }
    let pressed := press calls fresh
    pressed.host.keyboard.bytes.length = 32
      ∧ (∀ key < 256, ∃ held, keyDown? pressed.host.keyboard.bytes key = some held
          ∧ (held = true ↔ HeldDown calls key))
      ∧ (∀ (n : Int) (down : Bool), ¬ (0 ≤ n ∧ n < 256) →
          setKey (.int n) down pressed = .error (.keycode (Value.int n).shown) pressed)
      ∧ ∀ (code : Value) (down : Bool) (fault : Fault) (after : Rig),
          setKey code down pressed = .error fault after → after = pressed := by
  intro fresh pressed
  have hfresh : fresh.host.Keyed := rfl
  have hstart : ∀ key, fresh.host.keyBit key = false :=
    keyBit_start width height wide storageSize
  have hpressed : pressed.host.Keyed := (keyBit_press calls hfresh hstart (by decide : 0 < 256)).1
  refine ⟨?_, ?_, ?_, ?_⟩
  · rw [UniformBlock.bytes, length_flatMap_littleEndian, show _ = 8 from hpressed]
  · intro key hkey
    exact ⟨_, Host.keyDown_eq_keyBit hpressed hkey, (keyBit_press calls hfresh hstart hkey).2⟩
  · intro n down hn
    have hcode : Host.keycode (.int n) = .error (.keycode (Value.int n).shown) := if_neg hn
    exact setKey_of_error hcode down pressed
  · intro code down fault after h
    cases hcode : Host.keycode code with
    | ok key =>
      rw [setKey_of_ok hcode] at h
      cases h
    | error _ =>
      rw [setKey_of_error hcode] at h
      cases h
      rfl

/-- A key that was let go is up, one in the other vector is down, and a number that is no key
disturbs neither. -/
theorem keyDown_released :
    let calls : List (Value × Bool) :=
      [(.int 65, true), (.int 200, true), (.int 456, false), (.int 65, false)]
    let pressed := press calls { host := .start 8 8 false 256 }
    keyDown? pressed.host.keyboard.bytes 200 = some true
      ∧ keyDown? pressed.host.keyboard.bytes 65 = some false := by
  intro calls pressed
  obtain ⟨_, hkeys, _⟩ := keyDown_iff_heldDown 8 8 false 256 {} .absent calls
  have hdown : HeldDown calls 200 :=
    ⟨[(.int 65, true)], .int 200, [(.int 456, false), (.int 65, false)], rfl, rfl,
      by simp [Value.integer?]⟩
  have hup : ¬ HeldDown calls 65 := by
    intro h
    have hlast := (heldDown_snoc (calls.take 3) (.int 65) false 65).mp h
    simp [Value.integer?] at hlast
  constructor
  · obtain ⟨held, hread, hheld⟩ := hkeys 200 (by decide)
    rw [hread, hheld.mpr hdown]
  · obtain ⟨held, hread, hheld⟩ := hkeys 65 (by decide)
    rw [hread, Bool.eq_false_iff.mpr fun h => hup (hheld.mp h)]

end Rig

end ShaderPlayer
