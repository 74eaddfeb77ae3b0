/-
Effects: lists that are checked item by item, and operations on a state.

* `mapM_eq_ok_iff` — a list passes a check if each of its items does;
* `Keeps` — what an operation keeps of its state, whether it ends or breaks off: the
  lemmas beside it follow the ways in which operations are put together;
* `run_bind_of_ok`, `run_bind_of_error` — an operation that others follow, run from a state,
  and `run_ofExcept_bind_of_ok`, `run_ofExcept_bind_of_error` for a check before others;
* `Ends` — an operation ends, and how: where one follows the other, the second takes over from
  how the first ends (`ends_bind`).
-/
import Mathlib.Data.List.Forall2

namespace ShaderPlayer

/-! ### Checked lists -/

section Checked

variable {ε α β : Type}

theorem bind_eq_ok_iff {x : Except ε α} {f : α → Except ε β} {b : β} :
    (x >>= f) = .ok b ↔ ∃ a, x = .ok a ∧ f a = .ok b := by
  cases x with
  | error e =>
    constructor
    · intro h
      cases h
    · rintro ⟨a, h, _⟩
      cases h
  | ok a =>
    constructor
    · intro h
      exact ⟨a, rfl, h⟩
    · rintro ⟨_, heq, h⟩
      cases heq
      exact h

theorem bind_eq_error_iff {x : Except ε α} {f : α → Except ε β} {e : ε} :
    (x >>= f) = .error e ↔ x = .error e ∨ ∃ a, x = .ok a ∧ f a = .error e := by
  cases x with
  | error e' =>
    constructor
    · intro h
      cases h
      exact .inl rfl
    · rintro (h | ⟨a, h, _⟩)
      · cases h
        rfl
      · cases h
  | ok a =>
    constructor
    · intro h
      exact .inr ⟨a, rfl, h⟩
    · rintro (h | ⟨_, heq, h⟩)
      · cases h
      · cases heq
        exact h

/-- What is related to the items of a list is related to one of them. -/
theorem exists_of_mem_forall₂ {R : α → β → Prop} {l : List α} {r : List β}
    (h : List.Forall₂ R l r) {b : β} (hb : b ∈ r) : ∃ a ∈ l, R a b := by
  induction h with
  | nil => exact absurd hb List.not_mem_nil
  | cons hhead _ ih =>
    rcases List.mem_cons.mp hb with rfl | hb
    · exact ⟨_, List.mem_cons_self, hhead⟩
    · obtain ⟨a, ha, hab⟩ := ih hb
      exact ⟨a, List.mem_cons_of_mem _ ha, hab⟩

theorem mapM_eq_ok_iff {f : α → Except ε β} {l : List α} {r : List β} :
    l.mapM f = .ok r ↔ List.Forall₂ (fun a b => f a = .ok b) l r := by
  induction l generalizing r with
  | nil =>
    rw [List.mapM_nil, List.forall₂_nil_left_iff]
    constructor
    · intro h
      cases h
      rfl
    · rintro rfl
      rfl
  | cons a l ih =>
    rw [List.mapM_cons, bind_eq_ok_iff, List.forall₂_cons_left_iff]
    constructor
    · rintro ⟨b, hb, h⟩
      obtain ⟨bs, hbs, h⟩ := bind_eq_ok_iff.mp h
      cases h
      exact ⟨b, bs, hb, ih.mp hbs, rfl⟩
    · rintro ⟨b, bs, hb, hbs, rfl⟩
      exact ⟨b, hb, bind_eq_ok_iff.mpr ⟨bs, ih.mpr hbs, rfl⟩⟩

/-- What passes a check comes from an item of the list. -/
theorem exists_of_mem_mapM {f : α → Except ε β} {l : List α} {r : List β}
    (h : l.mapM f = .ok r) {b : β} (hb : b ∈ r) : ∃ a ∈ l, f a = .ok b :=
  exists_of_mem_forall₂ (mapM_eq_ok_iff.mp h) hb

/-- A list fails a check as its first item that does. -/
theorem mapM_eq_error_iff {f : α → Except ε β} {l : List α} {e : ε} :
    l.mapM f = .error e
      ↔ ∃ before a after, l = before ++ a :: after ∧ (∀ b ∈ before, ∃ r, f b = .ok r)
          ∧ f a = .error e := by
  induction l with
  | nil =>
    constructor
    · intro h
      cases h
    · rintro ⟨before, a, after, h, _⟩
      exact absurd h (List.append_ne_nil_of_right_ne_nil before (List.cons_ne_nil a after)).symm
  | cons c l ih =>
    rw [List.mapM_cons, bind_eq_error_iff]
    constructor
    · rintro (hc | ⟨r, hc, h⟩)
      · exact ⟨[], c, l, rfl, fun b hb => absurd hb List.not_mem_nil, hc⟩
      · rcases bind_eq_error_iff.mp h with h | ⟨rs, _, h⟩
        · obtain ⟨before, a, after, rfl, hbefore, ha⟩ := ih.mp h
          exact ⟨c :: before, a, after, rfl, List.forall_mem_cons.mpr ⟨⟨r, hc⟩, hbefore⟩, ha⟩
        · cases h
    · rintro ⟨before, a, after, h, hbefore, ha⟩
      rcases before with _ | ⟨b, before⟩
      · cases h
        exact .inl ha
      · cases h
        obtain ⟨⟨r, hc⟩, hbefore⟩ := List.forall_mem_cons.mp hbefore
        have hrest := ih.mpr ⟨before, a, after, rfl, hbefore, ha⟩
        exact .inr ⟨r, hc, bind_eq_error_iff.mpr (.inl hrest)⟩

theorem exists_mapM_of_forall {f : α → Except ε β} {l : List α} (h : ∀ a ∈ l, ∃ b, f a = .ok b) :
    ∃ r, l.mapM f = .ok r := by
  induction l with
  | nil => exact ⟨[], rfl⟩
  | cons a l ih =>
    rw [List.forall_mem_cons] at h
    obtain ⟨b, hb⟩ := h.1
    obtain ⟨bs, hbs⟩ := ih h.2
    refine ⟨b :: bs, ?_⟩
    rw [List.mapM_cons, hb, hbs]
    rfl

end Checked

/-! ### Operations on a state -/

/-- The state that an operation leaves, whether it ends or breaks off. -/
def left {ε σ α : Type} : EStateM.Result ε σ α → σ
  | .ok _ s => s
  | .error _ s => s

/-- The error with which an operation breaks off. -/
def thrown {ε σ α : Type} : EStateM.Result ε σ α → Option ε
  | .ok _ _ => none
  | .error e _ => some e

/-- An operation keeps a property of its state: it holds after the operation, also
where that breaks off, if it held before. -/
def Keeps {ε σ α : Type} (holds : σ → Prop) (op : EStateM ε σ α) : Prop :=
  ∀ s, holds s → holds (left (op s))

section Keeping

variable {ε σ α β : Type} {holds : σ → Prop}

theorem keeps_pure (a : α) : Keeps holds (pure a : EStateM ε σ α) := fun _ h => h

theorem keeps_throw (e : ε) : Keeps holds (throw e : EStateM ε σ α) := fun _ h => h

theorem keeps_get : Keeps holds (get : EStateM ε σ σ) := fun _ h => h

theorem keeps_set {s : σ} (hs : holds s) : Keeps holds (set s : EStateM ε σ PUnit) :=
  fun _ _ => hs

theorem keeps_modify {f : σ → σ} (hf : ∀ s, holds s → holds (f s)) :
    Keeps holds (modify f : EStateM ε σ PUnit) := hf

theorem keeps_ofExcept (x : Except ε α) :
    Keeps holds (MonadExcept.ofExcept x : EStateM ε σ α) := by
  cases x with
  | error e => exact keeps_throw e
  | ok a => exact keeps_pure a

/-- Operations one after the other. -/
theorem keeps_bind {x : EStateM ε σ α} {f : α → EStateM ε σ β} (hx : Keeps holds x)
    (hf : ∀ a, Keeps holds (f a)) : Keeps holds (x >>= f) := by
  intro s hs
  have hleft := hx s hs
  show holds (left (EStateM.bind x f s))
  unfold EStateM.bind
  rcases hend : x s with ⟨a, after⟩ | ⟨e, after⟩
  · rw [hend] at hleft
    exact hf a after hleft
  · rw [hend] at hleft
    exact hleft

/-- What follows reading the state may use what is read. -/
theorem keeps_get_bind {f : σ → EStateM ε σ β} (hf : ∀ s, holds s → holds (left (f s s))) :
    Keeps holds (get >>= f) := hf

theorem keeps_ite {c : Prop} [Decidable c] {x y : EStateM ε σ α} (hx : Keeps holds x)
    (hy : Keeps holds y) : Keeps holds (if c then x else y) := by
  split
  · exact hx
  · exact hy

/-- What an operation did before a fault stays for the one that handles it. -/
theorem keeps_tryCatch {x : EStateM ε σ α} {handle : ε → EStateM ε σ α} (hx : Keeps holds x)
    (hhandle : ∀ e, Keeps holds (handle e)) : Keeps holds (tryCatch x handle) := by
  intro s hs
  have hleft := hx s hs
  show holds (left (EStateM.tryCatch x handle s))
  unfold EStateM.tryCatch
  rcases hend : x s with ⟨a, after⟩ | ⟨e, after⟩
  · rw [hend] at hleft
    exact hleft
  · rw [hend] at hleft
    exact hhandle e after hleft

theorem left_discard (x : EStateM ε σ α) (s : σ) :
    left ((discard x : EStateM ε σ PUnit) s) = left (x s) := by
  show left (EStateM.map (Function.const α PUnit.unit) x s) = _
  unfold EStateM.map
  rcases x s with ⟨a, after⟩ | ⟨e, after⟩ <;> rfl

theorem left_bind_pure (x : EStateM ε σ α) (f : α → β) (s : σ) :
    left ((x >>= fun a => pure (f a) : EStateM ε σ β) s) = left (x s) := by
  show left (EStateM.bind x (fun a => EStateM.pure (f a)) s) = _
  unfold EStateM.bind
  rcases x s with ⟨a, after⟩ | ⟨e, after⟩ <;> rfl

theorem keeps_discard {x : EStateM ε σ α} (hx : Keeps holds x) :
    Keeps holds (discard x : EStateM ε σ PUnit) := by
  intro s hs
  rw [left_discard]
  exact hx s hs

theorem keeps_forM {l : List α} {f : α → EStateM ε σ PUnit} (hf : ∀ a, Keeps holds (f a)) :
    Keeps holds (l.forM f) := by
  induction l with
  | nil => exact keeps_pure PUnit.unit
  | cons a l ih => exact keeps_bind (hf a) fun _ => ih

end Keeping

section Running

variable {ε σ α β : Type}

theorem run_bind_of_ok {x : EStateM ε σ α} {f : α → EStateM ε σ β} {s between : σ} {a : α}
    (h : x s = .ok a between) : (x >>= f) s = f a between := by
  show EStateM.bind x f s = _
  unfold EStateM.bind
  rw [h]

theorem run_bind_of_error {x : EStateM ε σ α} {f : α → EStateM ε σ β} {s between : σ} {e : ε}
    (h : x s = .error e between) : (x >>= f) s = .error e between := by
  show EStateM.bind x f s = _
  unfold EStateM.bind
  rw [h]

theorem run_tryCatch_of_ok {x : EStateM ε σ α} {handle : ε → EStateM ε σ α} {s between : σ} {a : α}
    (h : x s = .ok a between) : tryCatch x handle s = .ok a between := by
  show EStateM.tryCatch x handle s = _
  unfold EStateM.tryCatch
  rw [h]

theorem run_tryCatch_of_error {x : EStateM ε σ α} {handle : ε → EStateM ε σ α} {s between : σ} {e : ε}
    (h : x s = .error e between) : tryCatch x handle s = handle e between := by
  show EStateM.tryCatch x handle s = _
  unfold EStateM.tryCatch
  rw [h]
  rfl

theorem run_ofExcept_bind_of_ok {x : Except ε α} {a : α} (h : x = .ok a)
    (f : α → EStateM ε σ β) (s : σ) : (MonadExcept.ofExcept x >>= f) s = f a s := by
  rw [h]
  rfl

theorem run_ofExcept_bind_of_error {x : Except ε α} {e : ε} (h : x = .error e)
    (f : α → EStateM ε σ β) (s : σ) : (MonadExcept.ofExcept x >>= f) s = .error e s := by
  rw [h]
  rfl

/-- Two operations end if the second ends where the first does. -/
theorem run_bind_eq_ok_iff {x : EStateM ε σ α} {f : α → EStateM ε σ β} {s after : σ} {b : β} :
    (x >>= f) s = .ok b after ↔ ∃ a between, x s = .ok a between ∧ f a between = .ok b after := by
  rcases hend : x s with ⟨a, between⟩ | ⟨e, between⟩
  · rw [run_bind_of_ok hend]
    constructor
    · intro h
      exact ⟨a, between, rfl, h⟩
    · rintro ⟨_, _, heq, h⟩
      cases heq
      exact h
  · rw [run_bind_of_error hend]
    constructor
    · intro h
      cases h
    · rintro ⟨_, _, h, _⟩
      cases h

/-- An operation, run from a state, ends with an answer and a state of which something holds. -/
def Ends (op : EStateM ε σ α) (s : σ) (good : α → σ → Prop) : Prop :=
  ∃ a after, op s = .ok a after ∧ good a after

theorem Ends.imp {op : EStateM ε σ α} {s : σ} {good good' : α → σ → Prop} (h : Ends op s good)
    (himp : ∀ a after, good a after → good' a after) : Ends op s good' := by
  obtain ⟨a, after, hrun, ha⟩ := h
  exact ⟨a, after, hrun, himp a after ha⟩

theorem ends_pure {s : σ} {good : α → σ → Prop} {a : α} (h : good a s) :
    Ends (pure a : EStateM ε σ α) s good := ⟨a, s, rfl, h⟩

theorem ends_bind {x : EStateM ε σ α} {f : α → EStateM ε σ β} {s : σ} {between : α → σ → Prop}
    {good : β → σ → Prop} (hx : Ends x s between)
    (hf : ∀ a after, between a after → Ends (f a) after good) : Ends (x >>= f) s good := by
  obtain ⟨a, after, hrun, ha⟩ := hx
  obtain ⟨b, last, hlast, hb⟩ := hf a after ha
  exact ⟨b, last, (run_bind_of_ok hrun).trans hlast, hb⟩

/-- What follows reading the state may use what is read. -/
theorem ends_get_bind {f : σ → EStateM ε σ α} {s : σ} {good : α → σ → Prop}
    (h : Ends (f s) s good) : Ends (get >>= f) s good := h

theorem ends_ofExcept_bind {x : Except ε α} {a : α} (h : x = .ok a) {f : α → EStateM ε σ β} {s : σ}
    {good : β → σ → Prop} (hf : Ends (f a) s good) : Ends (MonadExcept.ofExcept x >>= f) s good := by
  rw [h]
  exact hf

theorem ends_modify_bind {change : σ → σ} {f : PUnit → EStateM ε σ α} {s : σ} {good : α → σ → Prop}
    (h : Ends (f ⟨⟩) (change s) good) : Ends (modify change >>= f) s good := h

end Running

end ShaderPlayer
