/-
Where the fields of a uniform block lie.

Fields that are declared one after the other lie one after the other, without gaps, and the memory
is filled up to groups of sixteen bytes:

* `declared_eq` — the block of declared fields, each placed behind those before it;
* `field_placed`, `at_eq_of_name` — of fields with different names, each name means its own;
* `apart_of_split` — and what one of them takes is before or behind what another takes;
* `isLeast_size` — the size is the least multiple of sixteen that holds them, sixteen at least;
* `getElem_overwritten` — what is written into memory is there, and everything else stays;
* `getElem_bytes` — a byte of the memory is one of its word.
-/
import Mathlib.Order.Bounds.Basic
import ShaderPlayer.Proofs.Bindings.TableBytes
import ShaderPlayer.Uniform

namespace ShaderPlayer.UniformBlock

/-! ### Fields -/

/-- A field as it is declared. -/
structure Declared where
  name : Text
  scalar : Scalar
  count : Nat
  positive : 0 < count

/-- The field at an offset. -/
def Declared.at (d : Declared) (offset : Nat) : UniformField := ⟨d.name, d.scalar, offset, d.count⟩

/-- How many elements fields have. -/
def total (fields : List Declared) : Nat := (fields.map (·.count)).sum

/-- The block of declared fields, all zero. -/
def declared (fields : List Declared) : UniformBlock :=
  make (fields.map fun d => (d.name, d.scalar, (d.count : Int)))

/-- Fields one after the other, from an offset on. -/
def placed : Nat → List Declared → List UniformField
  | _, [] => []
  | offset, d :: rest => d.at offset :: placed (offset + d.count) rest

section Fields

variable {fields before after : List Declared} {d : Declared}

theorem total_append (first second : List Declared) :
    total (first ++ second) = total first + total second := by
  rw [total, List.map_append, List.sum_append, ← total, ← total]

theorem total_cons (d : Declared) (rest : List Declared) :
    total (d :: rest) = d.count + total rest := List.sum_cons

theorem place_declared {size : Nat} (fields : List Declared) {offset : Nat}
    (hroom : offset + total fields ≤ size) :
    place size offset (fields.map fun d => (d.name, d.scalar, (d.count : Int)))
      = placed offset fields := by
  induction fields generalizing offset with
  | nil => rfl
  | cons d rest ih =>
    rw [total_cons] at hroom
    rw [List.map_cons, place, placed, ← Int.natCast_add, ih (by omega), inside_of_le (by omega),
      inside_of_le (by omega), Nat.add_sub_cancel_left]
    rfl

theorem sum_declared (fields : List Declared) (start : Nat) :
    (fields.map fun d => (d.name, d.scalar, (d.count : Int))).foldl
      (fun n field => n + field.2.2) (start : Int) = (start + total fields : Nat) := by
  induction fields generalizing start with
  | nil => rfl
  | cons d rest ih =>
    rw [List.map_cons, List.foldl_cons, ← Int.natCast_add, ih, total_cons, Nat.add_assoc]

theorem declared_eq (fields : List Declared) :
    declared fields = ⟨placed 0 fields, List.replicate (paddedWords (total fields)) 0⟩ := by
  have hneeded := sum_declared fields 0
  rw [Nat.zero_add] at hneeded
  have hroom : 0 + total fields ≤ paddedWords (total fields) := by
    rw [Nat.zero_add]
    exact le_paddedWords _
  unfold declared make
  dsimp only
  rw [show ((0 : Int) = (0 : Nat)) from rfl, hneeded, Int.toNat_natCast]
  exact congrArg (UniformBlock.mk · _) (place_declared fields hroom)

theorem placed_append (offset : Nat) (first second : List Declared) :
    placed offset (first ++ second)
      = placed offset first ++ placed (offset + total first) second := by
  induction first generalizing offset with
  | nil => rfl
  | cons d first ih =>
    rw [List.cons_append, placed, ih, placed, List.cons_append, total_cons, Nat.add_assoc]

theorem map_name_placed (offset : Nat) (fields : List Declared) :
    (placed offset fields).map (·.name) = fields.map (·.name) := by
  induction fields generalizing offset with
  | nil => rfl
  | cons d rest ih => rw [placed, List.map_cons, ih, List.map_cons]; rfl

/-- A field that is found by its name is one of those that were declared. -/
theorem exists_split_of_mem_placed {f : UniformField} {offset : Nat} (h : f ∈ placed offset fields) :
    ∃ before d after, fields = before ++ d :: after ∧ f = d.at (offset + total before) := by
  induction fields generalizing offset with
  | nil => exact absurd h List.not_mem_nil
  | cons e rest ih =>
    rcases List.mem_cons.mp h with rfl | h
    · exact ⟨[], e, rest, rfl, rfl⟩
    · obtain ⟨before, d, after, rfl, rfl⟩ := ih h
      refine ⟨e :: before, d, after, rfl, ?_⟩
      rw [total_cons, Nat.add_assoc]

/-- Of fields with different names, each name means its own. -/
theorem field_placed (hnames : (fields.map (·.name)).Nodup) (hsplit : fields = before ++ d :: after)
    {b : UniformBlock} (hfields : b.fields = placed 0 fields) :
    b.field? d.name = some (d.at (total before)) := by
  have hlater : (placed (0 + total before + d.count) after).reverse.find? (·.name = d.name) = none := by
    rw [List.find?_eq_none]
    intro f hf
    have hmem : f.name ∈ after.map (·.name) := by
      rw [← map_name_placed (0 + total before + d.count)]
      exact List.mem_map_of_mem (List.mem_reverse.mp hf)
    rw [hsplit, List.map_append, List.map_cons, List.nodup_append, List.nodup_cons] at hnames
    rw [decide_eq_true_eq]
    rintro hname
    exact hnames.2.1.1 (hname ▸ hmem)
  rw [field?, hfields, hsplit, placed_append, placed, List.reverse_append, List.reverse_cons,
    List.append_assoc, List.find?_append, hlater, Nat.zero_add, Option.none_or,
    List.singleton_append]
  exact List.find?_cons_of_pos (by simp [Declared.at])

/-- A name is at one place only. -/
theorem at_eq_of_name (hnames : (fields.map (·.name)).Nodup) {before' after' : List Declared}
    {d' : Declared} (hsplit : fields = before ++ d :: after)
    (hsplit' : fields = before' ++ d' :: after') (hname : d.name = d'.name) :
    d.at (total before) = d'.at (total before') := by
  have hfield := field_placed hnames hsplit (b := ⟨placed 0 fields, []⟩) rfl
  have hfield' := field_placed hnames hsplit' (b := ⟨placed 0 fields, []⟩) rfl
  rw [hname, hfield'] at hfield
  exact (Option.some.inj hfield).symm

/-- What a field takes is before or behind what another field takes. -/
theorem apart_of_split {before' after' : List Declared} {d' : Declared}
    (hsplit : fields = before ++ d :: after) (hsplit' : fields = before' ++ d' :: after')
    (hname : d.name ≠ d'.name) :
    total before + d.count ≤ total before' ∨ total before' + d'.count ≤ total before := by
  rw [hsplit] at hsplit'
  rcases List.append_eq_append_iff.mp hsplit' with ⟨more, rfl, hrest⟩ | ⟨more, rfl, hrest⟩
  · rcases more with _ | ⟨e, more⟩
    · exact absurd (congrArg Declared.name (List.cons.inj hrest).1) hname
    · obtain ⟨rfl, _⟩ := List.cons.inj hrest
      left
      rw [total_append, total_cons]
      omega
  · rcases more with _ | ⟨e, more⟩
    · exact absurd (congrArg Declared.name (List.cons.inj hrest).1).symm hname
    · obtain ⟨rfl, _⟩ := List.cons.inj hrest
      right
      rw [total_append, total_cons]
      omega

/-- The size is the least multiple of sixteen in which the fields have room, sixteen at least. -/
theorem isLeast_size (fields : List Declared) :
    IsLeast {size | 16 ∣ size ∧ max 16 (4 * total fields) ≤ size} (declared fields).size := by
  have hsize : (declared fields).size = 4 * paddedWords (total fields) := by
    rw [declared_eq, size, List.length_replicate]
  rw [hsize, paddedWords]
  constructor
  · show 16 ∣ _ ∧ _
    omega
  · intro size hsize
    obtain ⟨hgroups, hroom⟩ : 16 ∣ size ∧ max 16 (4 * total fields) ≤ size := hsize
    omega

end Fields

/-! ### Memory -/

/-- Words with others written over them from an offset on. -/
def overwritten (words : List UInt32) (offset : Nat) (written : List UInt32) : List UInt32 :=
  words.take offset ++ (written ++ words.drop (offset + written.length))

section Memory

variable {words written : List UInt32} {offset : Nat}

theorem length_overwritten (hroom : offset + written.length ≤ words.length) :
    (overwritten words offset written).length = words.length := by
  rw [overwritten, List.length_append, List.length_append, List.length_take, List.length_drop]
  omega

/-- What is written is there, and everything else stays. -/
theorem getElem_overwritten (hroom : offset + written.length ≤ words.length) (i : Nat) :
    (overwritten words offset written)[i]?
      = if offset ≤ i ∧ i < offset + written.length then written[i - offset]? else words[i]? := by
  have htake : (words.take offset).length = offset := List.length_take_of_le (by omega)
  rw [overwritten, List.getElem?_append, htake]
  by_cases hbefore : i < offset
  · rw [if_pos hbefore, if_neg (by omega), List.getElem?_take_of_lt hbefore]
  · rw [if_neg hbefore, List.getElem?_append]
    by_cases hinside : i < offset + written.length
    · rw [if_pos (by omega), if_pos (by omega)]
    · rw [if_neg (by omega), if_neg (by omega), List.getElem?_drop]
      congr 1
      omega

theorem overwritten_cons {word : UInt32} (hroom : offset < words.length) :
    overwritten words offset (word :: written)
      = overwritten (words.set offset word) (offset + 1) written := by
  have htake : (words.set offset word).take (offset + 1) = words.take offset ++ [word] := by
    rw [List.take_add_one, List.take_set_of_le (le_refl _), List.getElem?_set_self hroom]
    rfl
  rw [overwritten, overwritten, htake, List.drop_set_of_lt (by omega), List.length_cons,
    List.append_assoc, Nat.add_right_comm, Nat.add_assoc]
  rfl

/-- A byte of the memory is a byte of its word. -/
theorem getElem_bytes (words : List UInt32) (i : Nat) :
    (words.flatMap littleEndian)[i]? = words[i / 4]?.bind fun word => (littleEndian word)[i % 4]? := by
  induction words generalizing i with
  | nil => rfl
  | cons word words ih =>
    rw [List.flatMap_cons, List.getElem?_append]
    by_cases hfirst : i < 4
    · rw [if_pos (show i < (littleEndian word).length from hfirst), Nat.div_eq_of_lt hfirst,
        Nat.mod_eq_of_lt hfirst]
      rfl
    · have hquotient : i / 4 = (i - 4) / 4 + 1 := by omega
      have hremainder : i % 4 = (i - 4) % 4 := by omega
      rw [if_neg (show ¬ i < (littleEndian word).length from hfirst),
        show (littleEndian word).length = 4 from rfl, ih, hquotient, hremainder,
        List.getElem?_cons_succ]

end Memory

end ShaderPlayer.UniformBlock
