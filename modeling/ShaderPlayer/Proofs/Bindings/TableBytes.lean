/-
The bytes of data tables.

Tables follow each other in a buffer without gaps, each value as a word of 32 bits:

* `wordFrom?` — the number whose bytes stand at an offset, the lowest first;
* `wordFrom_flatMap` — words that are written one after the other are read at multiples of
  four;
* `wordFrom_tableBytes` — so a value of a table is read behind all values of the tables
  before it.
-/
import Mathlib.Algebra.Ring.Nat
import ShaderPlayer.Bindings.Host
import ShaderPlayer.Proofs.Effect

namespace ShaderPlayer

/-! ### Words -/

/-- The number whose four bytes stand at an offset, the lowest first. -/
def wordFrom? (bytes : Bytes) (offset : Nat) : Option Nat := do
  let first ← bytes[offset]?
  let second ← bytes[offset + 1]?
  let third ← bytes[offset + 2]?
  let fourth ← bytes[offset + 3]?
  return first.toNat + 2 ^ 8 * second.toNat + 2 ^ 16 * third.toNat + 2 ^ 24 * fourth.toNat

/-- A byte of a word, by how far it is shifted. -/
theorem toNat_shifted (word : UInt32) {shift : UInt32} {bits : Nat} (hshift : shift.toNat = bits)
    (hbits : bits < 32) : (word >>> shift).toUInt8.toNat = word.toNat / 2 ^ bits % 2 ^ 8 := by
  rw [UInt32.toNat_toUInt8, UInt32.toNat_shiftRight, Nat.shiftRight_eq_div_pow, hshift,
    Nat.mod_eq_of_lt hbits]

theorem wordFrom_littleEndian (before after : Bytes) (word : UInt32) :
    wordFrom? (before ++ (littleEndian word ++ after)) before.length = some word.toNat := by
  have hbyte : ∀ i, (before ++ (littleEndian word ++ after))[before.length + i]?
      = (littleEndian word ++ after)[i]? := by
    intro i
    rw [List.getElem?_append_right (Nat.le_add_right _ _), Nat.add_sub_cancel_left]
  have hword : word.toNat < 2 ^ 32 := word.toNat_lt
  have hfirst : word.toUInt8.toNat = word.toNat % 2 ^ 8 := UInt32.toNat_toUInt8 word
  have hsecond : (word >>> 8).toUInt8.toNat = word.toNat / 2 ^ 8 % 2 ^ 8 :=
    toNat_shifted word rfl (by decide)
  have hthird : (word >>> 16).toUInt8.toNat = word.toNat / 2 ^ 16 % 2 ^ 8 :=
    toNat_shifted word rfl (by decide)
  have hfourth : (word >>> 24).toUInt8.toNat = word.toNat / 2 ^ 24 % 2 ^ 8 :=
    toNat_shifted word rfl (by decide)
  unfold wordFrom?
  rw [show before.length = before.length + 0 from rfl, hbyte 0, Nat.add_assoc, Nat.add_assoc,
    Nat.add_assoc, hbyte, hbyte, hbyte]
  show some (word.toUInt8.toNat + 2 ^ 8 * (word >>> 8).toUInt8.toNat
    + 2 ^ 16 * (word >>> 16).toUInt8.toNat + 2 ^ 24 * (word >>> 24).toUInt8.toNat) = _
  rw [hfirst, hsecond, hthird, hfourth]
  congr 1
  omega

theorem length_flatMap_littleEndian (words : List UInt32) :
    (words.flatMap littleEndian).length = 4 * words.length := by
  induction words with
  | nil => rfl
  | cons word words ih =>
    rw [List.flatMap_cons, List.length_append, ih, List.length_cons]
    show 4 + 4 * words.length = _
    omega

/-- Words in a row are read at multiples of four. -/
theorem wordFrom_flatMap {words : List UInt32} {i : Nat} {word : UInt32}
    (h : words[i]? = some word) :
    wordFrom? (words.flatMap littleEndian) (4 * i) = some word.toNat := by
  obtain ⟨hi, rfl⟩ := List.getElem?_eq_some_iff.mp h
  -- the bytes before the word are those of the words before it
  have hsplit : words = words.take i ++ words[i] :: words.drop (i + 1) := by
    rw [← List.drop_eq_getElem_cons hi, List.take_append_drop]
  have hread := wordFrom_littleEndian ((words.take i).flatMap littleEndian)
    ((words.drop (i + 1)).flatMap littleEndian) words[i]
  rw [length_flatMap_littleEndian, List.length_take_of_le (Nat.le_of_lt hi), ← List.flatMap_cons,
    ← List.flatMap_append, ← hsplit] at hread
  exact hread

/-! ### Tables -/

namespace Host

/-- How many values stand in a buffer before those of a table. -/
def valuesBefore (tables : Shader.Tables) (i : Nat) : Nat :=
  ((tables.take i).map (·.2.length)).sum

theorem getElem_flatMap {tables : Shader.Tables} {i k : Nat} {t : Text × List Int} {v : Int}
    (ht : tables[i]? = some t) (hv : t.2[k]? = some v) :
    (tables.flatMap (·.2))[valuesBefore tables i + k]? = some v := by
  obtain ⟨hi, rfl⟩ := List.getElem?_eq_some_iff.mp ht
  have hsplit : tables = tables.take i ++ tables[i] :: tables.drop (i + 1) := by
    rw [← List.drop_eq_getElem_cons hi, List.take_append_drop]
  have hbefore : ((tables.take i).flatMap (·.2)).length = valuesBefore tables i :=
    List.length_flatMap
  have hk : k < tables[i].2.length := (List.getElem?_eq_some_iff.mp hv).1
  calc (tables.flatMap (·.2))[valuesBefore tables i + k]?
      = ((tables.take i).flatMap (·.2)
          ++ (tables[i].2 ++ (tables.drop (i + 1)).flatMap (·.2)))[valuesBefore tables i + k]? := by
        rw [← List.flatMap_cons, ← List.flatMap_append, ← hsplit]
    _ = (tables[i].2 ++ (tables.drop (i + 1)).flatMap (·.2))[k]? := by
        rw [← hbefore, List.getElem?_append_right (Nat.le_add_right _ _), Nat.add_sub_cancel_left]
    _ = some v := by rw [List.getElem?_append_left hk, hv]

/-- A value of a table as it is read from the bytes of all of them. -/
theorem wordFrom_tableBytes {tables : Shader.Tables} {bytes : Bytes}
    (h : tableBytes tables = .ok bytes) {i k : Nat} {t : Text × List Int} {v : Int}
    (ht : tables[i]? = some t) (hv : t.2[k]? = some v) :
    (wordFrom? bytes (4 * (valuesBefore tables i + k))).map Int.ofNat = some v := by
  obtain ⟨words, hwords, hbytes⟩ := bind_eq_ok_iff.mp h
  cases hbytes
  -- among all values this one has the word of the same place
  have hvalue := getElem_flatMap ht hv
  have hpairs := mapM_eq_ok_iff.mp hwords
  obtain ⟨hplace, hget⟩ := List.getElem?_eq_some_iff.mp hvalue
  have hplace' : valuesBefore tables i + k < words.length := by rwa [← hpairs.length_eq]
  have hword := hpairs.get hplace hplace'
  simp only [List.get_eq_getElem] at hword
  rw [hget] at hword
  split at hword
  · next hrange =>
    have heq := Except.ok.inj hword
    rw [wordFrom_flatMap (List.getElem?_eq_getElem hplace'), ← heq, Option.map_some,
      UInt32.toNat_ofNat', Nat.mod_eq_of_lt (by omega)]
    exact congrArg some (Int.toNat_of_nonneg hrange.1)
  · cases hword

end Host

end ShaderPlayer
