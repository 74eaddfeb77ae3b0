/-
Entries in insertion order.

A list of keys with values in which a key occurs once: putting a value under a
known key keeps the key's place, a new key goes to the end.

Main statements: the value just put is found (`lookup_put_self`), the values of
other keys stay (`lookup_put_of_ne`), and the keys in their order are those from
before, with a new one at the end (`keys_put`).
-/
import ShaderPlayer.Text.Basic

namespace ShaderPlayer

/-- Keys with values in the order in which the keys came. -/
abbrev Entries (α : Type) := List (Text × α)

namespace Entries

variable {α : Type}

/-- The keys in their order. -/
def keys (es : Entries α) : List Text := es.map (·.1)

/-- The entries with a value put under a key. -/
def put : Entries α → Text → α → Entries α
  | [], key, value => [(key, value)]
  | (k, v) :: es, key, value =>
    if k = key then (k, value) :: es else (k, v) :: put es key value

/-- The entries of a list of pairs, in which a repeated key keeps its first place
and takes its last value. -/
def ofList (pairs : List (Text × α)) : Entries α :=
  pairs.foldl (fun es (key, value) => es.put key value) []

theorem lookup_put_self (es : Entries α) (key : Text) (value : α) :
    (es.put key value).lookup key = some value := by
  induction es with
  | nil => simp [put]
  | cons e es ih =>
    obtain ⟨k, v⟩ := e
    by_cases h : k = key
    · simp [put, h]
    · have h' : (key == k) = false := by simpa using fun h'' => h h''.symm
      simp [put, h, List.lookup_cons, h', ih]

theorem lookup_put_of_ne (es : Entries α) {key other : Text} (value : α) (h : other ≠ key) :
    (es.put key value).lookup other = es.lookup other := by
  induction es with
  | nil =>
    have h' : (other == key) = false := by simpa using h
    simp [put, List.lookup_cons, h']
  | cons e es ih =>
    obtain ⟨k, v⟩ := e
    by_cases hk : k = key
    · have h' : (other == k) = false := by simpa [hk] using h
      simp [put, hk, List.lookup_cons, hk ▸ h']
    · simp [put, hk, List.lookup_cons, ih]

theorem keys_put (es : Entries α) (key : Text) (value : α) :
    (es.put key value).keys = if key ∈ es.keys then es.keys else es.keys ++ [key] := by
  induction es with
  | nil => simp [put, keys]
  | cons e es ih =>
    obtain ⟨k, v⟩ := e
    by_cases h : k = key
    · simp [put, keys, h]
    · have h' : key ≠ k := fun h'' => h h''.symm
      simp only [keys] at ih ⊢
      simp only [put, h, if_false, List.map_cons, ih, List.mem_cons, h', false_or]
      split <;> simp_all

end Entries

end ShaderPlayer
