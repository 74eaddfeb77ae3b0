/-
Key events.

A window passes its key events on to the keyboard, by the codes of their keys.  A key without a
code is ignored.  There is one kind of key that is neither: a letter whose capital form has several
characters has no code point to compare, and its event raises.

* `keycode_eq_wideKey_iff`, `keycode_of_not_wide` — which keys these are;
* `receive_keyEvent` — what a player does with an event, by the code of its key;
* `lastFor_snoc`, `keyBit_hear` — the last event for a code says whether its key is down;
* `key_events` — so it is after all events, and no event changes more than the bit of its key;
* `key_event_raises` — but not every event is handled.
-/
import ShaderPlayer.Proofs.Bindings.Keys
import ShaderPlayer.Proofs.Player.Blocks
import ShaderPlayer.Proofs.Player.Exchange

namespace ShaderPlayer

namespace Keyboard

/-- A single letter whose capital form has several characters. -/
def Wide (key : Text) : Prop := ∃ c, key = [c] ∧ 1 < capitalLength c

/-- No key with a name is such a letter. -/
theorem lookup_named_of_wide {c : Char} (h : 1 < capitalLength c) : named.lookup [c] = none := by
  by_contra hnamed
  obtain ⟨code, hcode⟩ := Option.ne_none_iff_exists'.mp hnamed
  obtain ⟨before, after, happ, _⟩ := List.lookup_eq_some_iff.mp hcode
  have hall : ∀ e ∈ named, ∀ c, e.1 = [c] → capitalLength c = 1 := by
    have hlengths : ∀ e ∈ named, e.1.length = 1 → e.1 = [' '] := by decide
    intro e he c hc
    have hspace := hlengths e he (by rw [hc, List.length_singleton])
    rw [hc] at hspace
    obtain rfl := List.singleton_inj.mp hspace
    decide
  have hone := hall ([c], code) (by simp [happ]) c rfl
  omega

/-- The keys that raise. -/
theorem keycode_eq_wideKey_iff {key : Text} {fault : Fault} :
    keycode? key = .error fault
      ↔ ∃ c, key = [c] ∧ 1 < capitalLength c ∧ fault = .wideKey (capitalLength c) := by
  constructor
  · intro h
    unfold keycode? at h
    split at h
    · cases h
    · split at h
      · split at h
        · next hwide =>
          cases h
          exact ⟨_, rfl, hwide, rfl⟩
        · cases h
      · cases h
  · rintro ⟨c, rfl, hwide, rfl⟩
    rw [keycode?, lookup_named_of_wide hwide]
    exact if_pos hwide

/-- Every other key has a code below 256, or none. -/
theorem keycode_of_not_wide {key : Text} (h : ¬ Wide key) :
    keycode? key = .ok none ∨ ∃ code < 256, keycode? key = .ok (some code) := by
  rcases hcode : keycode? key with fault | _ | code
  · obtain ⟨c, hkey, hwide, _⟩ := keycode_eq_wideKey_iff.mp hcode
    exact absurd ⟨c, hkey, hwide⟩ h
  · exact .inl rfl
  · exact .inr ⟨code, keycode?_lt hcode, rfl⟩

end Keyboard

namespace Player

open Keyboard (Wide keycode?)

/-! ### One event -/

/-- A key event: whether its key goes down, and its particulars, among them the key. -/
structure KeyEvent where
  down : Bool
  particulars : Event
  key : Text
  hasKey : particulars.lookup "key".toList = some (.text key)

/-- The name by which the window receives the event. -/
def KeyEvent.name (e : KeyEvent) : Text :=
  if e.down then "key_down".toList else "key_up".toList

/-- What a player does when its window receives the event. -/
def KeyEvent.receive (e : KeyEvent) : Op Unit := Player.receive e.name e.particulars

/-- The player with a key set down or up. -/
def withKey (p : Player) (code : Nat) (down : Bool) : Player :=
  { p with rig.host := p.rig.host.setKey code down }

/-- A window that was completed, so that it listens to events. -/
def Listens (p : Player) : Prop := (p.window.bind (·.blitter)).isSome

theorem setKey_of_lt {code : Nat} (h : code < 256) (down : Bool) (p : Player) :
    setKey (.int code) down p = .ok () (p.withKey code down) := by
  have hcode : Host.keycode (.int code) = .ok code := Host.keycode_eq_ok_iff.mpr ⟨rfl, h⟩
  show onRig (Rig.setKey (.int code) down) p = _
  rw [onRig, Rig.setKey_of_ok hcode]
  rfl

theorem onKey_eq {event : Event} {key : Text} (h : event.lookup "key".toList = some (.text key))
    (down : Bool) (p : Player) :
    onKey event down p
      = match keycode? key with
        | .error fault => .error fault p
        | .ok none => .ok () p
        | .ok (some code) => .ok () (p.withKey code down) := by
  have hkey : Value.field event "key".toList = .ok (.text key) := by
    rw [Value.field, h]
  unfold onKey particular
  rw [run_ofExcept_bind_of_ok hkey]
  rcases hcode : keycode? key with fault | _ | code
  · exact run_ofExcept_bind_of_error hcode _ p
  · exact run_ofExcept_bind_of_ok hcode _ p
  · exact (run_ofExcept_bind_of_ok hcode _ p).trans
      (setKey_of_lt (Keyboard.keycode?_lt hcode) down p)

/-- A player raises for an event, ignores it or sets its key. -/
theorem receive_keyEvent {p : Player} (hp : p.Listens) (e : KeyEvent) :
    e.receive p
      = match keycode? e.key with
        | .error fault => .error fault p
        | .ok none => .ok () p
        | .ok (some code) => .ok () (p.withKey code e.down) := by
  obtain ⟨blitter, hblitter⟩ := Option.isSome_iff_exists.mp hp
  have hkind : EventKind.named.lookup e.name = some (if e.down then .keyDown else .keyUp) := by
    rw [KeyEvent.name]
    cases e.down <;> decide
  have hget : (get : Op Player) p = .ok p p := rfl
  have hhandle : e.receive p = handle (if e.down then .keyDown else .keyUp) e.particulars p := by
    rw [KeyEvent.receive, Player.receive, run_bind_of_ok hget, hblitter, hkind]
  rw [hhandle, ← onKey_eq e.hasKey]
  cases e.down <;> rfl

/-! ### Events one after the other -/

/-- The player after events, whether or not it raised for some of them. -/
def hear (events : List KeyEvent) (p : Player) : Player :=
  events.foldl (fun p e => left (e.receive p)) p

/-- Whether the last event whose key has a code was for a key that went down, if there was one. -/
def lastFor (code : Nat) (events : List KeyEvent) : Option Bool :=
  (events.filter fun e => keycode? e.key = .ok (some code)).getLast?.map (·.down)

theorem hear_snoc (events : List KeyEvent) (e : KeyEvent) (p : Player) :
    hear (events ++ [e]) p = left (e.receive (hear events p)) := by
  simp [hear]

theorem lastFor_snoc (code : Nat) (events : List KeyEvent) (e : KeyEvent) :
    lastFor code (events ++ [e])
      = if keycode? e.key = .ok (some code) then some e.down else lastFor code events := by
  rw [lastFor, List.filter_append]
  by_cases h : keycode? e.key = .ok (some code)
  · simp [h]
  · simp [h, lastFor]

/-- The induction is on the events, the last one first: it decides for the code of its key. -/
theorem keyBit_hear {p : Player} (hp : p.Listens) (hkeyed : p.rig.host.Keyed)
    (events : List KeyEvent) :
    (hear events p).Listens ∧ (hear events p).rig.host.Keyed
      ∧ ∀ code < 256, (hear events p).rig.host.keyBit code
          = (lastFor code events).getD (p.rig.host.keyBit code) := by
  induction events using List.reverseRecOn with
  | nil => exact ⟨hp, hkeyed, fun _ _ => rfl⟩
  | append_singleton events e ih =>
    obtain ⟨hlistens, hbefore, hbits⟩ := ih
    have hidle : (∀ code, keycode? e.key ≠ .ok (some code)) → ∀ code < 256,
        (hear events p).rig.host.keyBit code
          = (lastFor code (events ++ [e])).getD (p.rig.host.keyBit code) := by
      intro hnone code hlt
      rw [lastFor_snoc, if_neg (hnone code)]
      exact hbits code hlt
    rw [hear_snoc, receive_keyEvent hlistens]
    rcases hcode : keycode? e.key with fault | _ | pressed
    · exact ⟨hlistens, hbefore, hidle (by simp [hcode])⟩
    · exact ⟨hlistens, hbefore, hidle (by simp [hcode])⟩
    · have hpressed := Keyboard.keycode?_lt hcode
      refine ⟨hlistens, hbefore.setKey pressed e.down, fun code hlt => ?_⟩
      show ((hear events p).rig.host.setKey pressed e.down).keyBit code = _
      rw [Host.keyBit_setKey hbefore hpressed, lastFor_snoc, hcode]
      by_cases h : code = pressed
      · simp [h]
      · simp [h, Ne.symm h, hbits code hlt]

/-! ### A window that listens -/

/-- A player of a small screen whose window was opened. -/
theorem exists_listening : ∃ p, Reachable p ∧ p.Listens :=
  ⟨_, .acted (.openWindow false) (.made (rfl : make small {} {} = .ok () _)), rfl⟩

/-- The event of a key, with no other particulars. -/
def keyEvent (down : Bool) (key : Text) : KeyEvent :=
  ⟨down, [("key".toList, .text key)], key, by simp⟩

/-! ### All events -/

/-- After any key events, a window raises for the next one exactly if its key is a letter whose
capital form has several characters, and is then as it was before.  Every other key is ignored, or
has a code below 256 that is set.  Whatever was raised meanwhile, the key of a code is down if the
last event for the code said so, and as it was where there was none. -/
theorem key_events {p : Player} (hp : Reachable p) (hlistens : p.Listens) (events : List KeyEvent) :
    let after := hear events p
    (∀ e : KeyEvent, Wide e.key → ∃ fault, e.receive after = .error fault after)
      ∧ (∀ e : KeyEvent, ¬ Wide e.key →
          (keycode? e.key = .ok none ∧ e.receive after = .ok () after)
            ∨ ∃ code < 256, keycode? e.key = .ok (some code)
              ∧ setKey (.int code) e.down after = .ok () (after.withKey code e.down)
              ∧ e.receive after = .ok () (after.withKey code e.down))
      ∧ ∀ code < 256, ∃ held, keyDown? after.rig.host.keyboard.bytes code = some held
          ∧ (held = true ↔ lastFor code events = some true
              ∨ lastFor code events = none ∧ p.rig.host.keyBit code = true) := by
  intro after
  have hkeyed : p.rig.host.Keyed := (arranged_of_reachable hp).keyboard.length
  obtain ⟨hafter, hkept, hbits⟩ := keyBit_hear hlistens hkeyed events
  refine ⟨?_, ?_, ?_⟩
  · rintro e ⟨c, hkey, hwide⟩
    have hcode := Keyboard.keycode_eq_wideKey_iff.mpr ⟨c, hkey, hwide, rfl⟩
    refine ⟨.wideKey (Keyboard.capitalLength c), ?_⟩
    rw [receive_keyEvent hafter, hcode]
  · intro e hwide
    rcases Keyboard.keycode_of_not_wide hwide with hcode | ⟨code, hlt, hcode⟩
    · refine .inl ⟨hcode, ?_⟩
      rw [receive_keyEvent hafter, hcode]
    · refine .inr ⟨code, hlt, hcode, setKey_of_lt hlt e.down after, ?_⟩
      rw [receive_keyEvent hafter, hcode]
  · intro code hlt
    refine ⟨_, Host.keyDown_eq_keyBit hkept hlt, ?_⟩
    rw [hbits code hlt]
    rcases lastFor code events with _ | down <;> simp

/-- A key that is held while another one raises, and a third that was let go. -/
theorem key_events_held :
    let events := [keyEvent true ['a'], keyEvent true "Shift".toList, keyEvent true ['ß'],
      keyEvent false "Shift".toList]
    ∃ p, Reachable p ∧ p.Listens
      ∧ keyDown? (hear events p).rig.host.keyboard.bytes 65 = some true
      ∧ keyDown? (hear events p).rig.host.keyboard.bytes 16 = some false := by
  intro events
  obtain ⟨p, hp, hlistens⟩ := exists_listening
  obtain ⟨_, _, hkeys⟩ := key_events hp hlistens events
  have hheld : lastFor 65 events = some true := by decide +kernel
  have hreleased : lastFor 16 events = some false := by decide +kernel
  refine ⟨p, hp, hlistens, ?_, ?_⟩
  · obtain ⟨held, hread, hiff⟩ := hkeys 65 (by decide)
    rw [hread, hiff.mpr (.inl hheld)]
  · obtain ⟨held, hread, hiff⟩ := hkeys 16 (by decide)
    have hup : held = false := by
      rw [Bool.eq_false_iff, Ne, hiff, hreleased]
      simp
    rw [hread, hup]

/-- The event of a key whose capital form has two characters raises. -/
theorem key_event_raises :
    ∃ p, Reachable p ∧ p.Listens
      ∧ (keyEvent true ['ß']).receive p = .error (.wideKey 2) p := by
  obtain ⟨p, hp, hlistens⟩ := exists_listening
  have hcode : keycode? ['ß'] = .error (.wideKey 2) := by decide +kernel
  refine ⟨p, hp, hlistens, ?_⟩
  rw [receive_keyEvent hlistens, keyEvent, hcode]

end Player

end ShaderPlayer
