/-
Planes.

One part of all the texels of a picture, in rows.  Bytes that come so many to a texel are
taken apart into planes and put together again.

Main statement: a plane that is made of a function has the rows and columns asked for
(`size_ofFn`, `size_of_mem_ofFn`).
-/
import ShaderPlayer.Text.Utf8

namespace ShaderPlayer.Picture

/-- Values in rows. -/
abbrev Plane (α : Type) := Array (Array α)

namespace Plane

variable {α : Type}

/-- The plane with the values of a function at each column and row. -/
def ofFn (columns rows : Nat) (f : Nat → Nat → α) : Plane α :=
  (Array.range rows).map fun y => (Array.range columns).map fun x => f x y

theorem size_ofFn (columns rows : Nat) (f : Nat → Nat → α) : (ofFn columns rows f).size = rows := by
  simp [ofFn]

theorem size_of_mem_ofFn {columns rows : Nat} {f : Nat → Nat → α} {row : Array α}
    (h : row ∈ ofFn columns rows f) : row.size = columns := by
  simp only [ofFn, Array.mem_map] at h
  obtain ⟨y, -, rfl⟩ := h
  simp

/-- The value at a column and a row. -/
def value [Inhabited α] (p : Plane α) (x y : Nat) : α := (p.getD y #[]).getD x default

/-- The plane with its columns, so many, as its rows. -/
def turn [Inhabited α] (columns : Nat) (p : Plane α) : Plane α :=
  ofFn p.size columns fun x y => p.value y x

/-- The plane with so many columns and rows: cut off, or with its last ones repeated. -/
def fit [Inhabited α] (width height columns rows : Nat) (p : Plane α) : Plane α :=
  ofFn columns rows fun x y => p.value (min x (width - 1)) (min y (height - 1))

/-- The planes of bytes that come so many to a texel. -/
def ofBytes (channels width height : Nat) (bytes : Bytes) : List (Plane UInt8) :=
  let bytes := bytes.toArray
  (List.range channels).map fun channel =>
    ofFn width height fun x y => bytes.getD ((y * width + x) * channels + channel) 0

/-- The bytes of planes with so many columns and rows, texel by texel. -/
def toBytes (columns rows : Nat) (planes : List (Plane UInt8)) : Bytes :=
  (List.range rows).flatMap fun y =>
    let lines := planes.map (·.getD y #[])
    (List.range columns).flatMap fun x => lines.map (·.getD x 0)

end Plane

end ShaderPlayer.Picture
