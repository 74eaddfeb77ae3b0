/-
Writes to uniform blocks that are refused.

A refused write is no write at all only as long as no element was stored before the one that is
refused.  The position of the mouse is a field of two elements: where the second is no place on the
screen, the first is there already.

* `refuses_pair` — how a field of two elements refuses a pair of integers;
* `setMousePosition_cases` — what a player does that cannot set the position of its mouse;
* `refused_write` — what a refused assignment leaves, to any block, and to the mouse of a player;
* `refused_write_stored` — which may be another position than before.
-/
import ShaderPlayer.Proofs.Player.Blocks
import ShaderPlayer.Proofs.Player.Exchange

namespace ShaderPlayer

namespace UniformBlock

variable {short fault : Fault} {n m : Int} {words : List UInt32}

/-- An element without a sign takes integers of 32 bits. -/
theorem encode_uint_eq_ok_iff {word : UInt32} :
    encode .uint (.int n) = .ok word ↔ (0 ≤ n ∧ n < 2 ^ 32) ∧ word = .ofNat n.toNat := by
  show integerWord .uint 0 0x100000000 (.int n) = .ok word ↔ _
  rw [integerWord_eq_ok_iff]
  constructor
  · rintro ⟨_, hn, hlow, hhigh, hword⟩
    cases hn
    refine ⟨⟨hlow, hhigh⟩, UInt32.toNat_inj.mp ?_⟩
    rw [hword, UInt32.toNat_ofNat']
    omega
  · rintro ⟨⟨hlow, hhigh⟩, rfl⟩
    refine ⟨n, rfl, hlow, hhigh, ?_⟩
    rw [UInt32.toNat_ofNat']
    omega

theorem encode_uint_eq_error (h : encode .uint (.int n) = .error fault) :
    ¬ (0 ≤ n ∧ n < 2 ^ 32) := by
  intro hrange
  cases h.symm.trans (encode_uint_eq_ok_iff.mpr ⟨hrange, rfl⟩)

/-- Two elements refuse a pair for its first integer, or for its second after the first was stored. -/
theorem refuses_pair (h : Refuses short .uint 2 (.list [.int n, .int m]) words fault) :
    words = [] ∨ ((0 ≤ n ∧ n < 2 ^ 32) ∧ ¬ (0 ≤ m ∧ m < 2 ^ 32) ∧ words = [.ofNat n.toNat]) := by
  cases h with
  | noList _ other => exact absurd rfl (other _)
  | list _ breaks =>
    cases breaks with
    | refused => exact .inl rfl
    | later hstored breaks =>
      obtain ⟨hrange, rfl⟩ := encode_uint_eq_ok_iff.mp hstored
      cases breaks with
      | refused hrefused => exact .inr ⟨hrange, encode_uint_eq_error hrefused, rfl⟩
      | later _ breaks => exact absurd breaks.length_lt (Nat.not_lt_zero _)

end UniformBlock

namespace Player

open UniformBlock

/-- The position is the field of two elements at the start of the block. -/
def positionField : UniformField := ⟨"pos".toList, .uint, 0, 2⟩

theorem field_position {b : UniformBlock} (hb : Alike b Host.mouseBlock) :
    b.field? "pos".toList = some positionField := by
  rw [hb.field?_eq]
  decide

/-- The first integer of a position was stored, and the second is out of range. -/
structure Halfway (x y : Value) (p after : Player) (n m : Int) : Prop where
  first : texelsOf x p.rig.host.width = .ok n
  second : texelsOf y p.rig.host.height = .ok m
  inside : 0 ≤ n ∧ n < 2 ^ 32
  outside : ¬ (0 ≤ m ∧ m < 2 ^ 32)
  /-- Nothing else was changed. -/
  stored : after = { p with rig.host.mouse := p.rig.host.mouse.store 0 (.ofNat n.toNat) }
  position : ∃ left top, p.rig.host.mouse.wordsAt "pos".toList = [left, top]
    ∧ after.rig.host.mouse.wordsAt "pos".toList = [.ofNat n.toNat, top]

/-- Storing the first word of the position leaves the second. -/
theorem wordsAt_position {b : UniformBlock} (hb : Alike b Host.mouseBlock) (word : UInt32) :
    ∃ left top, b.wordsAt "pos".toList = [left, top]
      ∧ (b.store 0 word).wordsAt "pos".toList = [word, top] := by
  have hlength : b.words.length = 4 := hb.length
  have hwords : ∀ other, Alike other Host.mouseBlock →
      other.wordsAt "pos".toList = other.words.take 2 := by
    intro other hother
    rw [wordsAt, field_position hother]
    rfl
  rw [hwords b hb, hwords _ (hb.store 0 word)]
  match hmemory : b.words, hlength with
  | [left, top, third, fourth], _ =>
    refine ⟨left, top, rfl, ?_⟩
    rw [store, hmemory]
    rfl

theorem onMouse_of_error {op : EStateM Fault UniformBlock Unit} {p : Player} {fault : Fault}
    {b : UniformBlock} (h : op p.rig.host.mouse = .error fault b) :
    onRig (Rig.onMouse op) p = .error fault { p with rig.host.mouse := b } := by
  unfold onRig Rig.onMouse Rig.onBlock
  dsimp only
  rw [h]

theorem onMouse_of_ok {op : EStateM Fault UniformBlock Unit} {p : Player} {b : UniformBlock}
    (h : op p.rig.host.mouse = .ok () b) :
    onRig (Rig.onMouse op) p = .ok () { p with rig.host.mouse := b } := by
  unfold onRig Rig.onMouse Rig.onBlock
  dsimp only
  rw [h]

/-- Setting the position is refused before anything is stored, or halfway. -/
theorem halfway_of_error {p : Player} (hmouse : Alike p.rig.host.mouse Host.mouseBlock)
    {x y : Value} {fault : Fault} {after : Player} (h : setMousePosition x y p = .error fault after) :
    after = p ∨ ∃ n m, Halfway x y p after n m := by
  unfold setMousePosition at h
  change (if p.rig.host.mouse.wordAt "click".toList = 1 then (_ : Op Unit) else _) p = _ at h
  split at h
  · rcases hfirst : texelsOf x p.rig.host.width with refused | n
    · rw [run_ofExcept_bind_of_error hfirst] at h
      cases h
      exact .inl rfl
    rw [run_ofExcept_bind_of_ok hfirst] at h
    rcases hsecond : texelsOf y p.rig.host.height with refused | m
    · rw [run_ofExcept_bind_of_error hsecond] at h
      cases h
      exact .inl rfl
    rw [run_ofExcept_bind_of_ok hsecond] at h
    -- both are integers, and one of them is refused
    rcases hassign : assign .tupleTooShort "pos".toList (.list [.int n, .int m])
      p.rig.host.mouse with ⟨_, b⟩ | ⟨refused, b⟩
    · cases (onMouse_of_ok hassign).symm.trans h
    · cases (onMouse_of_error hassign).symm.trans h
      rcases assign_refused hmouse hassign with ⟨_, rfl⟩ | ⟨f, words, hf, hrefuses, rfl, _⟩
      · exact .inl rfl
      · cases (field_position hmouse).symm.trans hf
        rcases refuses_pair hrefuses with rfl | ⟨hinside, houtside, rfl⟩
        · rw [overwrite_nil]
          exact .inl rfl
        · have hroom : 0 < p.rig.host.mouse.words.length := by
            rw [hmouse.length]
            decide
          rw [show positionField.offset = 0 from rfl, overwrite_singleton hroom]
          exact .inr ⟨n, m, hfirst, hsecond, hinside, houtside, rfl, wordsAt_position hmouse _⟩
  · cases h

/-- A refused assignment leaves the words that were stored before the refused element, in any block,
and so it changes nothing exactly if they were there already.  In particular, a player that is
refused a position of its mouse keeps the one it has, unless the first integer could be stored. -/
theorem refused_write {p : Player} (hp : Reachable p) :
    (∀ {fields : List (Text × Scalar × Int)} {b after : UniformBlock} {short fault : Fault}
        {name : Text} {value : Value}, Alike b (UniformBlock.make fields) →
      assign short name value b = .error fault after →
        (b.field? name = none ∧ after = b)
          ∨ ∃ f words, b.field? name = some f ∧ Refuses short f.scalar f.count value words fault
            ∧ after = b.overwrite f.offset words ∧ (after = b ↔ words <+: b.wordsOf f))
    ∧ ∀ {after : Player} {x y : Value} {fault : Fault},
        setMousePosition x y p = .error fault after →
          after = p ∨ ∃ n m, Halfway x y p after n m :=
  ⟨fun hb h => assign_refused hb h, fun h => halfway_of_error (arranged_of_reachable hp).mouse h⟩

/-! ### A position that is refused halfway -/

/-- The block of a mouse that is clicked and was not moved. -/
def clickedBlock : UniformBlock := Host.mouseBlock.store 2 1

theorem exists_clicked :
    ∃ p, Reachable p ∧ p.rig.host = { plainHost with mouse := clickedBlock } := by
  obtain ⟨p, hmade, hhost, _⟩ := exists_willing
  have hclick : UniformBlock.set "click".toList (.int 1) p.rig.host.mouse = .ok () clickedBlock := by
    rw [hhost]
    rfl
  refine ⟨_, .acted (.setMouseClick true) (.made hmade), ?_⟩
  show (left (onRig (Rig.onMouse (UniformBlock.set "click".toList (.int 1))) p)).rig.host = _
  rw [onMouse_of_ok hclick]
  show ({ p.rig.host with mouse := clickedBlock } : Host) = _
  rw [hhost]

/-- A pointer in the middle of the screen, and above it. -/
theorem setMousePosition_above {p : Player}
    (hhost : p.rig.host = { plainHost with mouse := clickedBlock }) :
    ∃ fault, setMousePosition (.float (.ofDecimal false 5 (-1))) (.float (.ofDecimal true 25 (-2))) p
      = .error fault { p with rig.host.mouse := clickedBlock.store 0 4 } := by
  have hmiddle : texelsOf (.float (.ofDecimal false 5 (-1))) p.rig.host.width = .ok 4 := by
    rw [hhost]
    decide +kernel
  have habove : texelsOf (.float (.ofDecimal true 25 (-2))) p.rig.host.height = .ok (-2) := by
    rw [hhost]
    decide +kernel
  have hassign : assign .tupleTooShort "pos".toList (.list [.int 4, .int (-2)]) p.rig.host.mouse
      = .error (.elementRange .uint) (clickedBlock.store 0 4) := by
    rw [hhost]
    rfl
  have hclicked : p.rig.host.mouse.wordAt "click".toList = 1 := by
    rw [hhost]
    decide
  refine ⟨.elementRange .uint, ?_⟩
  unfold setMousePosition
  show (if p.rig.host.mouse.wordAt "click".toList = 1 then (_ : Op Unit) else _) p = _
  rw [if_pos hclicked, run_ofExcept_bind_of_ok hmiddle, run_ofExcept_bind_of_ok habove]
  exact onMouse_of_error hassign

theorem refused_write_above :
    ∃ (p after : Player) (x y : Value) (fault : Fault), Reachable p
      ∧ setMousePosition x y p = .error fault after ∧ (after = p ∨ ∃ n m, Halfway x y p after n m)
      ∧ ∃ b, assign .listTooShort "pos".toList (.list [.int 5, .int (-1)]) Host.mouseBlock
          = .error (.elementRange .uint) b
        ∧ ∃ f words, Host.mouseBlock.field? "pos".toList = some f
          ∧ b = Host.mouseBlock.overwrite f.offset words
          ∧ (b = Host.mouseBlock ↔ words <+: Host.mouseBlock.wordsOf f) := by
  obtain ⟨p, hp, hhost⟩ := exists_clicked
  obtain ⟨fault, hrun⟩ := setMousePosition_above hhost
  have hmade : Alike Host.mouseBlock
      (UniformBlock.make [("pos".toList, .uint, 2), ("click".toList, .int, 1)]) := .refl _
  have hassign : assign .listTooShort "pos".toList (.list [.int 5, .int (-1)]) Host.mouseBlock
      = .error (.elementRange .uint) (Host.mouseBlock.store 0 5) := rfl
  refine ⟨p, _, _, _, fault, hp, hrun, (refused_write hp).2 hrun, _, hassign, ?_⟩
  rcases (refused_write hp).1 hmade hassign with ⟨hnone, _⟩ | ⟨f, words, hf, _, hleft, hsame⟩
  · cases (field_position (.refl _)).symm.trans hnone
  · exact ⟨f, words, hf, hleft, hsame⟩

/-- The first integer is stored, in a block by itself and in that of a player's mouse. -/
theorem refused_write_stored :
    (∃ fault after, UniformBlock.set "pos".toList (.list [.int 5, .int (-1)]) Host.mouseBlock
        = .error fault after ∧ after ≠ Host.mouseBlock)
      ∧ ∃ (p after : Player) (x y : Value) (fault : Fault), Reachable p
        ∧ setMousePosition x y p = .error fault after
        ∧ p.rig.host.mouse.wordsAt "pos".toList = [0, 0]
        ∧ after.rig.host.mouse.wordsAt "pos".toList = [4, 0] := by
  refine ⟨⟨_, _, rfl, by decide⟩, ?_⟩
  obtain ⟨p, hp, hhost⟩ := exists_clicked
  obtain ⟨fault, hrun⟩ := setMousePosition_above hhost
  refine ⟨p, _, _, _, fault, hp, hrun, ?_, ?_⟩
  · rw [hhost]
    decide
  · show (clickedBlock.store 0 4).wordsAt "pos".toList = [4, 0]
    decide

end Player

end ShaderPlayer
