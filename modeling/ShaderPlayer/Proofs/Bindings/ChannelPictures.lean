/-
Pictures of channels, made from arrays.

An array of bytes becomes a picture pixel by pixel.  What is done to the bytes of one pixel does not
depend on the others, so the pixel with a number is found in the picture behind four bytes for each
pixel before it; and an array has the elements of its pixels in the same order, the last axis
running fastest.

* `drop_expanded` — a picture is expanded pixel by pixel;
* `becomes_flat`, `becomes_deep` — what an array becomes;
* `loadChannel_error` — why a picture is not put into a channel, and what is left then;
* `channel_pictures` — both together, for every array and for all bindings.
-/
import ShaderPlayer.Proofs.Bindings.Deferred

namespace ShaderPlayer

/-! ### Elements of arrays -/

namespace NumericArray

/-- Where an element is, by its index along each axis: the last axis runs fastest. -/
def offset : (shape index : List Nat) → Nat
  | _ :: sizes, i :: index => i * sizes.prod + offset sizes index
  | _, _ => 0

/-- The element of an array of bytes at an index. -/
def element? (a : NumericArray) (index : List Nat) : Option UInt8 :=
  a.bytes[offset a.shape index]?

/-- The first elements of the pixel in a row and a column, along the last of three axes. -/
def HasPixel (a : NumericArray) (y x : Nat) (pixel : Bytes) : Prop :=
  ∀ channel, (h : channel < pixel.length) → a.element? [y, x, channel] = some pixel[channel]

/-- An array of bytes has one for each place of its shape. -/
structure IsBytes (a : NumericArray) : Prop where
  type : a.type = .byte
  filled : a.bytes.length = a.shape.prod

section Elements

variable {a : NumericArray} {height width channels y x : Nat}

theorem length_of_elementBytes {value : Value} {bytes : Bytes}
    (h : elementBytes .byte value = .ok bytes) : bytes.length = 1 := by
  obtain ⟨n, _, h⟩ := bind_eq_ok_iff.mp h
  dsimp only at h
  split at h
  · cases h
  · cases h
    rfl

theorem mem_cycled {α : Type} {blank item : α} {items : List α} {count : Nat}
    (h : item ∈ cycled blank items count) : item = blank ∨ item ∈ items := by
  obtain ⟨i, _, rfl⟩ := List.mem_map.mp h
  rcases hitem : items.toArray[i % items.toArray.size]? with _ | found
  · exact .inl rfl
  · exact .inr (List.mem_toArray.mp (Array.mem_of_getElem? hitem))

/-- An array that is filled with bytes is an array of bytes. -/
theorem isBytes_of_fill {shape : List Nat} {values : List Value}
    (h : fill .byte shape values = .ok a) :
    a.IsBytes ∧ a.shape = shape := by
  obtain ⟨blank, hblank, h⟩ := bind_eq_ok_iff.mp h
  obtain ⟨elements, helements, h⟩ := bind_eq_ok_iff.mp h
  cases h
  have hsingle : ∀ element ∈ cycled blank elements (shape.foldl (· * ·) 1), element.length = 1 := by
    intro element hmem
    rcases mem_cycled hmem with rfl | hmem
    · exact length_of_elementBytes hblank
    · obtain ⟨value, _, hvalue⟩ := exists_of_mem_mapM helements hmem
      exact length_of_elementBytes hvalue
  refine ⟨⟨rfl, ?_⟩, rfl⟩
  rw [List.length_flatten, List.map_congr_left hsingle, List.map_const', List.sum_replicate_nat,
    length_cycled, List.prod_eq_foldl, Nat.mul_one]

theorem hasPixel_iff_drop (hshape : a.shape = [height, width, channels]) {pixel : Bytes} :
    a.HasPixel y x pixel ↔ pixel <+: a.bytes.drop (channels * (y * width + x)) := by
  have hoffset (channel : Nat) :
      offset a.shape [y, x, channel] = channels * (y * width + x) + channel := by
    rw [hshape]
    simp only [offset, List.prod_cons, List.prod_nil]
    ring
  rw [List.prefix_iff_getElem?]
  simp only [HasPixel, element?, hoffset, List.getElem?_drop]

end Elements

end NumericArray

/-! ### Pixel by pixel -/

namespace Picture

open NumericArray

/-- The picture as an array. -/
def toArray (p : Picture) : NumericArray := ⟨.byte, [p.height, p.width, 4], p.texels⟩

/-- What becomes of the bytes of a pixel. -/
def texelOf : Bytes → Bytes
  | [grey] => [grey, 0, 0, 255]
  | [red, green, blue] => [red, green, blue, 255]
  | pixel => pixel

/-- If bytes that are some pixels are expanded by themselves, the others follow behind them. -/
theorem drop_expanded {expand : Bytes → Bytes} {channels pixels : Nat} {bytes : Bytes}
    (happend : ∀ first rest, first.length = channels * pixels →
      expand (first ++ rest) = expand first ++ expand rest)
    (hlength : ∀ first, first.length = channels * pixels → (expand first).length = 4 * pixels)
    (hpixels : channels * pixels ≤ bytes.length) :
    (expand bytes).drop (4 * pixels) = expand (bytes.drop (channels * pixels)) := by
  have hfirst : (bytes.take (channels * pixels)).length = channels * pixels :=
    List.length_take_of_le hpixels
  have hexpanded := happend _ (bytes.drop (channels * pixels)) hfirst
  rw [List.take_append_drop] at hexpanded
  rw [hexpanded, ← hlength _ hfirst, List.drop_left]

theorem expandColour_append {first : Bytes} {pixels : Nat} (h : first.length = 3 * pixels)
    (rest : Bytes) : expandColour (first ++ rest) = expandColour first ++ expandColour rest := by
  induction pixels generalizing first with
  | zero =>
    obtain rfl := List.eq_nil_of_length_eq_zero h
    rfl
  | succ pixels ih =>
    match first, h with
    | red :: green :: blue :: first, h =>
      have hfirst : first.length = 3 * pixels := by
        simp only [List.length_cons] at h
        omega
      simp only [List.cons_append, expandColour, ih hfirst]

/-- The bytes of a pixel decide what there is of it in the picture. -/
theorem prefix_texels {channels pixels : Nat} {bytes texels pixel : Bytes}
    (htexels : texels? channels bytes = some texels) (hchannels : pixel.length = channels)
    (hpixel : pixel <+: bytes.drop (channels * pixels))
    (hpixels : channels * pixels ≤ bytes.length) :
    texelOf pixel <+: texels.drop (4 * pixels) := by
  obtain ⟨rest, hrest⟩ := hpixel
  unfold texels? at htexels
  split at htexels
  · obtain rfl := Option.some.inj htexels
    obtain ⟨grey, rfl⟩ := List.length_eq_one_iff.mp hchannels
    -- grey bytes are expanded one by one, so every cut is between two pixels
    have happend : ∀ first rest : Bytes, first.length = 1 * pixels →
        expandGrey (first ++ rest) = expandGrey first ++ expandGrey rest :=
      fun _ _ _ => List.flatMap_append
    have hlength : ∀ first : Bytes, first.length = 1 * pixels →
        (expandGrey first).length = 4 * pixels := fun first hfirst => by
      rw [length_expandGrey, hfirst, Nat.one_mul]
    rw [drop_expanded happend hlength hpixels, ← hrest]
    exact List.prefix_append _ _
  · obtain rfl := Option.some.inj htexels
    obtain ⟨red, green, blue, rfl⟩ := List.length_eq_three.mp hchannels
    rw [drop_expanded (fun first rest hfirst => expandColour_append hfirst rest)
      (fun _ hfirst => length_expandColour hfirst) hpixels, ← hrest]
    exact List.prefix_append _ _
  · obtain rfl := Option.some.inj htexels
    rw [← hrest]
    match pixel, hchannels with
    | [_, _, _, _], _ => exact List.prefix_append _ _
  · cases htexels

theorem length_texels {channels pixels : Nat} {bytes texels : Bytes}
    (htexels : texels? channels bytes = some texels) (hbytes : bytes.length = channels * pixels) :
    texels.length = 4 * pixels := by
  unfold texels? at htexels
  split at htexels
  · obtain rfl := Option.some.inj htexels
    rw [length_expandGrey, hbytes, Nat.one_mul]
  · obtain rfl := Option.some.inj htexels
    exact length_expandColour hbytes
  · obtain rfl := Option.some.inj htexels
    exact hbytes
  · cases htexels

/-! ### What arrays become -/

/-- An array becomes a picture of a size, whose pixels are as given, and which as an array becomes
itself again. -/
def Becomes (a : NumericArray) (height width : Nat) (pixel : (y x : Nat) → Bytes → Prop) : Prop :=
  ∃ p, ofArray a = .ok p ∧ p.height = height ∧ p.width = width ∧ p.toArray.IsBytes
    ∧ (∀ y < height, ∀ x < width, ∃ texel, pixel y x texel ∧ p.toArray.HasPixel y x texel)
    ∧ ofArray p.toArray = .ok p

theorem Becomes.imp {a : NumericArray} {height width : Nat}
    {pixel other : (y x : Nat) → Bytes → Prop} (h : Becomes a height width pixel)
    (hpixel : ∀ y x texel, pixel y x texel → other y x texel) :
    Becomes a height width other := by
  obtain ⟨p, hp, hheight, hwidth, hbytes, hpixels, hagain⟩ := h
  refine ⟨p, hp, hheight, hwidth, hbytes, fun y hy x hx => ?_, hagain⟩
  obtain ⟨texel, hbefore, htexel⟩ := hpixels y hy x hx
  exact ⟨texel, hpixel y x texel hbefore, htexel⟩

section Arrays

variable {a : NumericArray} {height width channels : Nat}

theorem ofArray_deep (htype : a.type = .byte) (hshape : a.shape = [height, width, channels]) :
    ofArray a = match texels? channels a.bytes with
      | some texels => .ok ⟨width, height, texels⟩
      | none => .error (.channelShape [height, width, channels]) := by
  unfold ofArray
  rw [hshape, htype]
  rfl

/-- An array with a last axis of channels becomes a picture, each of its pixels by itself. -/
theorem becomes_deep (ha : a.IsBytes) (hshape : a.shape = [height, width, channels])
    {texels : Bytes} (htexels : texels? channels a.bytes = some texels) :
    Becomes a height width fun y x texel =>
      ∃ pixel, pixel.length = channels ∧ a.HasPixel y x pixel ∧ texel = texelOf pixel := by
  have hfilled : a.bytes.length = channels * (height * width) := by
    rw [ha.filled, hshape]
    simp only [List.prod_cons, List.prod_nil]
    ring
  refine ⟨⟨width, height, texels⟩, ?_, rfl, rfl, ⟨rfl, ?_⟩, fun y hy x hx => ?_, rfl⟩
  · rw [ofArray_deep ha.type hshape, htexels]
  · show texels.length = [height, width, 4].prod
    rw [length_texels htexels hfilled]
    simp only [List.prod_cons, List.prod_nil]
    ring
  · -- the pixels up to this one, and this one, are among those of the array
    have hnumber : y * width + x + 1 ≤ height * width :=
      calc y * width + x + 1 ≤ y * width + width := Nat.add_le_add_left hx _
        _ = (y + 1) * width := (Nat.succ_mul y width).symm
        _ ≤ height * width := Nat.mul_le_mul_right width hy
    have hplace : channels * (y * width + x) + channels ≤ a.bytes.length := by
      rw [hfilled, ← Nat.mul_succ]
      exact Nat.mul_le_mul_left channels hnumber
    let pixel := (a.bytes.drop (channels * (y * width + x))).take channels
    have hlength : pixel.length = channels := by
      rw [List.length_take, List.length_drop]
      omega
    have hpixel : pixel <+: a.bytes.drop (channels * (y * width + x)) := List.take_prefix _ _
    refine ⟨texelOf pixel, ⟨pixel, hlength, (hasPixel_iff_drop hshape).mpr hpixel, rfl⟩, ?_⟩
    exact (hasPixel_iff_drop rfl).mpr (prefix_texels htexels hlength hpixel (by omega))

/-- An array of two axes becomes what it becomes with a last axis of one channel. -/
theorem becomes_flat (ha : a.IsBytes) (hshape : a.shape = [height, width]) :
    Becomes a height width fun y x texel =>
      ∃ grey, a.element? [y, x] = some grey ∧ texel = [grey, 0, 0, 255] := by
  let deep : NumericArray := ⟨.byte, [height, width, 1], a.bytes⟩
  have hdeep : deep.IsBytes := by
    refine ⟨rfl, ha.filled.trans ?_⟩
    rw [hshape]
    simp only [deep, List.prod_cons, List.prod_nil, Nat.mul_one]
  obtain ⟨p, hp, hheight, hwidth, hbytes, hpixels, hagain⟩ := becomes_deep hdeep rfl rfl
  have hsame : ofArray a = ofArray deep := by
    unfold ofArray
    rw [hshape, ha.type]
    rfl
  refine ⟨p, hsame.trans hp, hheight, hwidth, hbytes, fun y hy x hx => ?_, hagain⟩
  obtain ⟨texel, ⟨pixel, hlength, hpixel, rfl⟩, htexel⟩ := hpixels y hy x hx
  obtain ⟨grey, rfl⟩ := List.length_eq_one_iff.mp hlength
  refine ⟨_, ⟨grey, ?_, rfl⟩, htexel⟩
  have hgrey := hpixel 0 Nat.one_pos
  have hoffset : offset a.shape [y, x] = offset deep.shape [y, x, 0] := by
    rw [hshape]
    simp only [deep, offset, List.prod_cons, List.prod_nil, Nat.mul_one]
  rwa [element?, hoffset]

theorem ofArray_of_type (htype : a.type ≠ .byte) :
    ofArray a = .error (.channelType a.type.name) := by
  unfold ofArray
  exact if_pos htype

/-- Bytes in any other shape are refused, and so is the lack of axes. -/
theorem ofArray_of_shape (htype : a.type = .byte)
    (hflat : ∀ height width, a.shape ≠ [height, width])
    (hdeep : ∀ height width, ∀ channels ∈ [1, 3, 4], a.shape ≠ [height, width, channels]) :
    ofArray a = .error (.channelShape (if a.shape = [] then [1] else a.shape)) := by
  rcases hshape : a.shape with _ | ⟨height, _ | ⟨width, _ | ⟨channels, _ | ⟨more, rest⟩⟩⟩⟩
  · unfold ofArray
    rw [hshape, htype]
    rfl
  · unfold ofArray
    rw [hshape, htype]
    rfl
  · exact absurd hshape (hflat height width)
  · -- with three axes the number of channels is at fault
    rw [ofArray_deep htype hshape, if_neg (List.cons_ne_nil _ _)]
    have hchannels : channels ∉ [1, 3, 4] := fun hmem => hdeep height width channels hmem hshape
    have hnone : texels? channels a.bytes = none := by
      unfold texels?
      split <;> first | rfl | exact absurd (by decide) hchannels
    rw [hnone]
  · unfold ofArray
    rw [hshape, htype]
    rfl

end Arrays

end Picture

/-! ### Channels -/

namespace Rig

open Picture

/-- A channel is refused for what is given, and then nothing is done.  Where a connection was broken
off there are no textures of channels, so the picture is kept, and its texture has no place. -/
theorem loadChannel_error {index : Value} {data : Except Fault NumericArray} {r after : Rig}
    {fault : Fault} (h : loadChannel index data r = .error fault after) :
    (Host.channelArguments index data = .error fault ∧ after = r)
      ∨ ∃ made second picture, r.connection = .broken made
          ∧ Host.channelArguments index data = .ok (second, picture)
          ∧ fault = .missingPart "Bindings".toList "_channel_textures".toList
          ∧ after.host = r.host.setChannel second picture ∧ after.connection = r.connection := by
  rw [loadChannel_eq] at h
  rcases hgiven : Host.channelArguments index data with refusal | ⟨second, picture⟩
  · rw [run_ofExcept_bind_of_error hgiven] at h
    cases h
    exact .inl ⟨rfl, rfl⟩
  rw [run_ofExcept_bind_of_ok hgiven] at h
  obtain ⟨host, gpu, connection⟩ := r
  rcases connection with _ | made | bound
  · cases h
  · cases h
    exact .inr ⟨made, second, picture, rfl, rfl, rfl, rfl, rfl⟩
  · obtain ⟨_, _, _, _, hplace⟩ :=
      place_complete (r := ⟨host, gpu, .complete bound⟩) rfl second picture
    cases h.symm.trans hplace

end Rig

end ShaderPlayer
