import UmbraHost.Input.ButtonsAndKeys
import UmbraHost.Transition.Run

/-! # Nothing stays pressed

What is down at the platform is remembered: a button in `mouse_press` or by the
delayed release of the left button, a virtual key by a pressed key that maps to
it.  The task of `reset` lifts what is remembered by the client's codes. -/

namespace UmbraHost.Input

open UmbraHost.Strokes

namespace Pressed

/-- Everything down at the platform is remembered. -/
structure Remembered (config : InputConfig) (input : Pressed) : Prop where
  button : ∀ button, isDown (.button button) input.strokes = true →
    input.mousePress button = true ∨ button = buttonLeft ∧ input.leftReleases ≠ []
  key : ∀ keyCode, isDown (.key keyCode) input.strokes = true →
    ∃ id ∈ input.keyPress, mapKeycode config id.keyCode = keyCode
  tracked : ∀ button, input.mousePress button = true → button < mousePressSize
  bytes : ∀ id ∈ input.keyPress, id.keyCode < 256

/-- The left button is pressed, or no release of it is outstanding. -/
def LeftSettled (input : Pressed) : Prop :=
  input.mousePress buttonLeft = true ∨ input.leftReleases = []

/-- The condition on the steps of a run: only the buttons of `mouse_press` are
pressed, no release of the left button is outstanding at a reset, and the keys
it finds pressed are not bound to others. -/
def Resettable (config : InputConfig) : InputEvent → Pressed → Prop
  | .mouseButton packet, _ =>
      packet.release = false → 0 < packet.button ∧ packet.button < mousePressSize
  | .reset, input => input.LeftSettled
  | .resetTask, input =>
      input.LeftSettled ∧
        (input.resetTasks ≠ 0 → ∀ id ∈ input.keyPress, mapKeycode config id.keyCode = id.keyCode)
  | _, _ => True

/-! ## Keys and modifiers -/

def keyStrokes (keyCodes : List Nat) : List Target := keyCodes.map .key

theorem strokes_keyboardUpdate (keyCodes : List Nat) (release : Bool) (flags : Nat) :
    (keyCodes.map fun keyCode => PressCall.keyboardUpdate keyCode release flags).map
        PressCall.stroke =
      (keyStrokes keyCodes).map fun target => { target, release } := by
  simp [keyStrokes, PressCall.stroke, Function.comp_def]

/-- Synthetic modifiers are up again once a key is sent. -/
theorem isDown_sendKeyAndModifiers {config : InputConfig} {keyCode flags : Nat} {release : Bool}
    {modifiers : SyntheticModifiers} {before : List (Stroke Target)} {target : Target}
    (down : isDown target
      (before ++ (sendKeyAndModifiers config keyCode release flags modifiers).map
        PressCall.stroke) = true) :
    if release then isDown target before = true ∧ target ≠ .key (mapKeycode config keyCode)
    else isDown target before = true ∨ target = .key (mapKeycode config keyCode) := by
  unfold sendKeyAndModifiers at down
  cases release with
  | true => exact isDown_lift down
  | false =>
      simp only [Bool.false_eq_true, if_false, List.map_append, strokes_keyboardUpdate,
        ← List.append_assoc] at down ⊢
      obtain ⟨pressed, other⟩ := isDown_lifts down
      rcases isDown_press pressed with earlier | same
      · rcases isDown_presses earlier with before | modifier
        · exact .inl before
        · exact absurd modifier other
      · exact .inr same

theorem isDown_button_sendKeyAndModifiers {config : InputConfig} {keyCode flags button : Nat}
    {release : Bool} {modifiers : SyntheticModifiers} {before : List (Stroke Target)}
    (down : isDown (.button button)
      (before ++ (sendKeyAndModifiers config keyCode release flags modifiers).map
        PressCall.stroke) = true) :
    isDown (.button button) before = true := by
  have cases := isDown_sendKeyAndModifiers down
  cases release with
  | true => exact cases.1
  | false => exact cases.elim id nofun

/-! ## Steps -/

section Steps

variable {config : InputConfig} {input : Pressed}

theorem remembered_send_lift (remembered : Remembered config input) (button : Nat) :
    Remembered config (input.send [.buttonMouse button true]) := by
  have earlier : ∀ target, isDown target (input.send [.buttonMouse button true]).strokes = true →
      isDown target input.strokes = true := by
    intro target down
    rw [strokes_send] at down
    exact (isDown_lift down).1
  exact ⟨fun other down => remembered.button other (earlier _ down),
    fun keyCode down => remembered.key keyCode (earlier _ down), remembered.tracked,
    remembered.bytes⟩

theorem isDown_send_lift (button : Nat) :
    isDown (.button button) (input.send [.buttonMouse button true]).strokes = false := by
  rw [strokes_send]
  cases down : isDown (.button button)
      (input.strokes ++ [PressCall.buttonMouse button true].map PressCall.stroke) with
  | false => rfl
  | true => exact absurd rfl (isDown_lift down).2

/-- A button that is up need not be remembered. -/
theorem remembered_forget (remembered : Remembered config input) {button : Nat}
    (up : isDown (.button button) input.strokes = false) :
    Remembered config (input.press button false) := by
  refine ⟨fun other down => ?_, remembered.key, fun other pressed => ?_, remembered.bytes⟩
  · by_cases same : other = button
    · subst same
      rw [show (input.press other false).strokes = input.strokes from rfl, up] at down
      cases down
    · rcases remembered.button other down with pressed | released
      · left
        simp only [press, same, if_false]
        exact pressed
      · exact .inr released
  · simp only [press] at pressed
    split at pressed
    · cases pressed
    · exact remembered.tracked other pressed

theorem remembered_send_press (remembered : Remembered config input) {button : Nat}
    (inside : button < mousePressSize) :
    Remembered config ((input.press button true).send [.buttonMouse button false]) := by
  refine ⟨fun other down => ?_, fun keyCode down => ?_, fun other pressed => ?_, remembered.bytes⟩
  · by_cases same : other = button
    · left
      simp [send, press, same]
    · rw [strokes_send] at down
      rcases isDown_press down with earlier | other
      · rcases remembered.button _ earlier with pressed | released
        · left
          simp only [send, press, same, if_false]
          exact pressed
        · exact .inr released
      · cases other
        exact absurd rfl same
  · rw [strokes_send] at down
    rcases isDown_press down with earlier | other
    · exact remembered.key keyCode earlier
    · cases other
  · simp only [send, press] at pressed
    split at pressed
    · rename_i same
      rwa [same]
    · exact remembered.tracked other pressed

/-- A stroke of a tracked button, sent at once. -/
theorem remembered_send (remembered : Remembered config input) {button : Nat}
    (inside : button < mousePressSize) (release : Bool) :
    Remembered config ((input.press button (!release)).send [.buttonMouse button release]) := by
  cases release with
  | false => exact remembered_send_press remembered inside
  | true =>
      exact remembered_forget (remembered_send_lift remembered button) (isDown_send_lift button)

/-- A right click during the delay of the left button. -/
theorem remembered_click (remembered : Remembered config input) {button : Nat}
    (inside : button < mousePressSize) :
    Remembered config
      (((input.press button true).send
        [.buttonMouse button false, .buttonMouse button true]).press button false) := by
  have pressed := remembered_send_press remembered inside
  have lifted := remembered_send_lift pressed button
  have forgotten := remembered_forget lifted (isDown_send_lift button)
  simpa [send] using forgotten

theorem remembered_delay (remembered : Remembered config input) :
    Remembered config
      { input.press buttonLeft false with
        leftReleases := input.leftReleases ++ [input.nextTask]
        mouseLeftButtonTimeout := .task input.nextTask
        nextTask := input.nextTask + 1 } := by
  refine ⟨fun button down => ?_, remembered.key, fun button pressed => ?_, remembered.bytes⟩
  · by_cases same : button = buttonLeft
    · exact .inr ⟨same, List.append_ne_nil_of_right_ne_nil _ (List.cons_ne_nil _ _)⟩
    · rcases remembered.button button down with pressed | ⟨left, _⟩
      · left
        simp only [press, same, if_false]
        exact pressed
      · exact absurd left same
  · simp only [press] at pressed
    split at pressed
    · cases pressed
    · exact remembered.tracked button pressed

theorem remembered_sendButton (remembered : Remembered config input) {button : Nat}
    (inside : button < mousePressSize) (release : Bool) :
    Remembered config ((input.press button (!release)).sendButton button release) := by
  unfold sendButton
  split
  · rename_i delayed
    obtain ⟨rfl, rfl, _⟩ := delayed
    exact remembered_delay remembered
  · split
    · split
      · rename_i click
        obtain ⟨rfl, rfl⟩ := click
        exact remembered_click remembered inside
      · exact remembered_send remembered inside release
    · exact remembered_send remembered inside release

theorem sendButton_untracked {button : Nat} (outside : ¬ (0 < button ∧ button < mousePressSize)) :
    input.sendButton button true = input.send [.buttonMouse button true] := by
  unfold sendButton
  split
  · rename_i delayed
    rw [delayed.1] at outside
    exact absurd (by decide) outside
  · split
    · split
      · rename_i click
        cases click.2
      · rfl
    · rfl

theorem remembered_mouseButton (remembered : Remembered config input) {packet : MouseButtonPacket}
    (inside : packet.release = false → 0 < packet.button ∧ packet.button < mousePressSize) :
    Remembered config (input.mouseButton config packet) := by
  unfold mouseButton
  split
  · exact remembered
  · split
    · rename_i tracked
      split
      · exact remembered
      · exact remembered_sendButton remembered tracked.2 packet.release
    · rename_i outside
      have release : packet.release = true := by
        cases release : packet.release with
        | true => rfl
        | false => exact absurd (inside release) outside
      rw [release, sendButton_untracked outside]
      exact remembered_send_lift remembered packet.button

theorem remembered_leftRelease (remembered : Remembered config input) (task : Nat) :
    Remembered config (input.leftRelease task) := by
  unfold leftRelease
  split
  · exact remembered
  · split
    · rename_i pressed
      refine ⟨fun button down => ?_, remembered.key, remembered.tracked, remembered.bytes⟩
      rcases remembered.button button down with held | ⟨rfl, _⟩
      · exact .inl held
      · exact .inl pressed
    · have forgotten := remembered_forget (remembered_send_lift remembered buttonLeft)
        (isDown_send_lift buttonLeft)
      refine ⟨fun button down => ?_, forgotten.key, forgotten.tracked, forgotten.bytes⟩
      rcases forgotten.button button down with held | ⟨rfl, _⟩
      · exact .inl held
      · have up : isDown (.button buttonLeft)
            (input.send [.buttonMouse buttonLeft true]).strokes = false :=
          isDown_send_lift buttonLeft
        exact absurd (up.symm.trans down) Bool.false_ne_true

/-- A key that stays remembered is sent again. -/
theorem remembered_send_key (remembered : Remembered config input) {id : KeyPressId}
    (held : id ∈ input.keyPress) (flags : Nat) (modifiers : SyntheticModifiers) :
    Remembered config
      (input.send (sendKeyAndModifiers config id.keyCode false flags modifiers)) := by
  refine ⟨fun button down => ?_, fun keyCode down => ?_, remembered.tracked, remembered.bytes⟩
  · rw [strokes_send] at down
    exact remembered.button button (isDown_button_sendKeyAndModifiers down)
  · rw [strokes_send] at down
    rcases isDown_sendKeyAndModifiers down with earlier | same
    · exact remembered.key keyCode earlier
    · cases same
      exact ⟨id, held, rfl⟩

theorem remembered_repeatKey (remembered : Remembered config input) (task : Nat) :
    Remembered config (input.repeatKey config task) := by
  unfold repeatKey
  split
  · exact remembered
  · rename_i repeated found
    simp only
    split
    · exact ⟨remembered.button, remembered.key, remembered.tracked, remembered.bytes⟩
    · rename_i held
      have sent := remembered_send_key remembered (not_not.mp held) repeated.flags
        repeated.modifiers
      exact ⟨sent.button, sent.key, sent.tracked, sent.bytes⟩

theorem remembered_keyDown (remembered : Remembered config input) {id : KeyPressId}
    (byte : id.keyCode < 256) :
    Remembered config { input with keyPress := id :: input.keyPress } :=
  ⟨remembered.button,
    fun keyCode down =>
      let ⟨other, held, mapped⟩ := remembered.key keyCode down
      ⟨other, List.mem_cons_of_mem _ held, mapped⟩,
    remembered.tracked,
    fun other member => by
      rcases List.mem_cons.mp member with rfl | earlier
      · exact byte
      · exact remembered.bytes other earlier⟩

theorem remembered_keyUp (remembered : Remembered config input) (id : KeyPressId) (flags : Nat)
    (modifiers : SyntheticModifiers) :
    Remembered config
      ({ input with keyPress := input.keyPress.filter (· ≠ id) }.send
        (sendKeyAndModifiers config id.keyCode true flags modifiers)) := by
  refine ⟨fun button down => ?_, fun keyCode down => ?_, remembered.tracked,
    fun other member => remembered.bytes other (List.mem_of_mem_filter member)⟩
  · rw [strokes_send] at down
    exact remembered.button button (isDown_button_sendKeyAndModifiers down)
  · rw [strokes_send] at down
    obtain ⟨earlier, different⟩ := isDown_sendKeyAndModifiers down
    obtain ⟨other, held, mapped⟩ := remembered.key keyCode earlier
    refine ⟨other, List.mem_filter.mpr ⟨held, ?_⟩, mapped⟩
    have distinct : other ≠ id := by
      intro same
      rw [← mapped, same] at different
      exact different rfl
    simpa using distinct

theorem remembered_keyboard (remembered : Remembered config input) (packet : KeyboardPacket) :
    Remembered config (input.keyboard config packet) := by
  have byte : packet.keyCode % 256 < 256 := Nat.mod_lt _ (by decide)
  unfold keyboard
  simp only
  split
  · exact remembered
  · split
    · split
      · rename_i release
        rw [release]
        have up := remembered_keyUp remembered
          { keyCode := packet.keyCode % 256, flags := packet.flags } packet.flags
          (syntheticModifiers packet input.shortcutFlags)
        exact ⟨up.button, up.key, up.tracked, up.bytes⟩
      · exact remembered
    · split
      · exact remembered
      · split
        · exact remembered
        · rename_i pressed _
          have release : packet.release = false := by simpa using pressed
          rw [release]
          have sent : ∀ repeating : Pressed, Remembered config repeating →
              Remembered config
                ({ repeating with
                  keyPress := { keyCode := packet.keyCode % 256, flags := packet.flags } ::
                    repeating.keyPress }.send
                  (sendKeyAndModifiers config (packet.keyCode % 256) false packet.flags
                    (syntheticModifiers packet input.shortcutFlags))) := by
            intro repeating held
            exact remembered_send_key
              (remembered_keyDown held byte) List.mem_cons_self packet.flags _
          have cancelled : Remembered config input.cancelRepeat :=
            ⟨remembered.button, remembered.key, remembered.tracked, remembered.bytes⟩
          by_cases repeats : config.keyRepeat = true
          · have held := sent (input.cancelRepeat.scheduleRepeat (packet.keyCode % 256) packet.flags
              (syntheticModifiers packet input.shortcutFlags))
              ⟨cancelled.button, cancelled.key, cancelled.tracked, cancelled.bytes⟩
            simp only [repeats, if_true]
            exact ⟨held.button, held.key, held.tracked, held.bytes⟩
          · have held := sent input.cancelRepeat cancelled
            simp only [repeats]
            exact ⟨held.button, held.key, held.tracked, held.bytes⟩

theorem remembered_reset (remembered : Remembered config input) (settled : input.LeftSettled) :
    Remembered config input.reset := by
  refine ⟨fun button down => ?_, remembered.key, remembered.tracked, remembered.bytes⟩
  rcases remembered.button button down with held | ⟨rfl, pending⟩
  · exact .inl held
  · exact .inl (settled.resolve_right pending)

/-! ## The task of the reset -/

/-- Nothing is down and no key is remembered. -/
structure Up (input : Pressed) : Prop where
  lifted : ∀ target, isDown target input.strokes = false
  keys : input.keyPress = []

theorem strokes_resetTask (queued : input.resetTasks ≠ 0) :
    input.resetTask.strokes =
      input.strokes ++
          (((List.range mousePressSize).filter input.mousePress).map Target.button).map lift ++
        (input.keyPress.map fun id => Target.key (id.keyCode % 256)).map lift := by
  simp [resetTask, strokes, queued, PressCall.stroke, lift, Function.comp_def]

theorem resetTask_up (remembered : Remembered config input) (settled : input.LeftSettled)
    (bound : ∀ id ∈ input.keyPress, mapKeycode config id.keyCode = id.keyCode)
    (queued : input.resetTasks ≠ 0) : Up input.resetTask := by
  refine ⟨fun target => ?_, by simp [resetTask, queued]⟩
  cases down : isDown target input.resetTask.strokes with
  | false => rfl
  | true =>
      exfalso
      rw [strokes_resetTask queued] at down
      obtain ⟨buttonsDown, notKey⟩ := isDown_lifts down
      obtain ⟨before, notButton⟩ := isDown_lifts buttonsDown
      cases target with
      | button button =>
          have pressed : input.mousePress button = true := by
            rcases remembered.button button before with held | ⟨rfl, pending⟩
            · exact held
            · exact settled.resolve_right pending
          have inside := remembered.tracked button pressed
          exact notButton (List.mem_map_of_mem
            (List.mem_filter.mpr ⟨List.mem_range.mpr inside, pressed⟩))
      | key keyCode =>
          obtain ⟨id, held, mapped⟩ := remembered.key keyCode before
          have byte := remembered.bytes id held
          rw [bound id held] at mapped
          refine notKey (List.mem_map.mpr ⟨id, held, ?_⟩)
          rw [Nat.mod_eq_of_lt byte, mapped]

theorem remembered_resetTask (remembered : Remembered config input)
    (resettable : Resettable config .resetTask input) :
    Remembered config input.resetTask := by
  by_cases idle : input.resetTasks = 0
  · rw [resetTask, if_pos idle]
    exact remembered
  · have up := resetTask_up remembered resettable.1 (resettable.2 idle) idle
    refine ⟨fun button down => ?_, fun keyCode down => ?_, fun button pressed => ?_,
      fun id held => ?_⟩
    · rw [up.lifted] at down
      cases down
    · rw [up.lifted] at down
      cases down
    · simp only [resetTask, idle, if_false] at pressed
      split at pressed
      · cases pressed
      · exact remembered.tracked button pressed
    · rw [up.keys] at held
      cases held

theorem remembered_step (event : InputEvent) (resettable : Resettable config event input)
    (remembered : Remembered config input) : Remembered config (step config event input) := by
  cases event with
  | mouseButton packet => exact remembered_mouseButton remembered resettable
  | keyboard packet => exact remembered_keyboard remembered packet
  | relMouseMove =>
      simp only [step]
      split
      · exact ⟨remembered.button, remembered.key, remembered.tracked, remembered.bytes⟩
      · exact remembered
  | absMouseMove =>
      simp only [step]
      split
      · exact ⟨remembered.button, remembered.key, remembered.tracked, remembered.bytes⟩
      · exact remembered
  | leftRelease task => exact remembered_leftRelease remembered task
  | repeatKey task => exact remembered_repeatKey remembered task
  | reset => exact remembered_reset remembered resettable
  | resetTask => exact remembered_resetTask remembered resettable

/-! ## After the reset -/

theorem up_leftRelease (up : Up input) (task : Nat) : Up (input.leftRelease task) := by
  unfold leftRelease
  split
  · exact up
  · split
    · exact ⟨up.lifted, up.keys⟩
    · refine ⟨fun target => ?_, up.keys⟩
      cases down : isDown target (input.send [.buttonMouse buttonLeft true]).strokes with
      | false => exact down
      | true =>
          rw [strokes_send] at down
          have before := (isDown_lift down).1
          rw [up.lifted] at before
          cases before

theorem up_repeatKey (up : Up input) (task : Nat) : Up (input.repeatKey config task) := by
  unfold repeatKey
  split
  · exact up
  · simp only [up.keys, List.not_mem_nil, not_false_eq_true, if_true]
    exact ⟨up.lifted, rfl⟩

theorem up_resetTask (up : Up input) : Up input.resetTask := by
  by_cases idle : input.resetTasks = 0
  · rw [resetTask, if_pos idle]
    exact up
  · refine ⟨fun target => ?_, by simp [resetTask, idle]⟩
    cases down : isDown target input.resetTask.strokes with
    | false => rfl
    | true =>
        rw [strokes_resetTask idle] at down
        have before := (isDown_lifts (isDown_lifts down).1).1
        rw [up.lifted] at before
        cases before

theorem up_step {event : InputEvent} (noPacket : event.isPacket = false) (up : Up input) :
    Up (step config event input) := by
  cases event with
  | leftRelease task => exact up_leftRelease up task
  | repeatKey task => exact up_repeatKey up task
  | reset => exact ⟨up.lifted, up.keys⟩
  | resetTask => exact up_resetTask up
  | _ => cases noPacket

end Steps

theorem remembered_initial (config : InputConfig) : Remembered config {} := by
  refine ⟨fun button down => ?_, fun keyCode down => ?_, fun button pressed => ?_, nofun⟩
  · cases down
  · cases down
  · cases pressed

/-- Every press has had a later release. -/
def Released (calls : List PressCall) : Prop :=
  ∀ before call after, calls = before ++ call :: after → call.stroke.release = false →
    ∃ later ∈ after, later.stroke.target = call.stroke.target ∧ later.stroke.release = true

theorem Up.released {input : Pressed} (up : Up input) : Released input.calls := by
  intro before call after split pressed
  have lifted := up.lifted call.stroke.target
  rw [strokes, split, List.map_append, List.map_cons] at lifted
  obtain ⟨stroke, member, same, released⟩ := lifted_of_not_isDown pressed lifted
  obtain ⟨later, held, rfl⟩ := List.mem_map.mp member
  exact ⟨later, held, same, released⟩

/-- In runs that meet the condition nothing is down from the task of a reset on,
as long as no packet comes. -/
theorem run_releases (config : InputConfig) (events later : List InputEvent)
    (resettable : Transition.Meets (step config) (Resettable config)
      (events ++ .resetTask :: later) {})
    (queued : (Transition.run (step config) events {}).resetTasks ≠ 0)
    (noPackets : ∀ event ∈ later, event.isPacket = false) :
    Released (Transition.run (step config) (events ++ .resetTask :: later) {}).calls := by
  obtain ⟨before, now, _⟩ := Transition.Meets.append (step config) resettable
  have remembered := Transition.run_preserves_of_meets (step config) (Remembered config)
    (fun event input resettable => remembered_step event resettable) before
    (remembered_initial config)
  have reset := resetTask_up remembered now.1 (now.2 queued) queued
  rw [Transition.run_append, Transition.run_cons]
  refine Up.released (Transition.run_preserves_of_meets (step config) Up
    (fun event input noPacket => up_step noPacket)
    (Transition.Meets.of_forall (step config) noPackets _) reset)

theorem run_releases_session :
    Released (Transition.run (step {})
      [.mouseButton { button := 1, release := false },
       .keyboard { keyCode := 0x41, release := false, modifiers := 1 },
       .reset, .resetTask, .repeatKey 0] {}).calls :=
  run_releases {}
    [.mouseButton { button := 1, release := false },
     .keyboard { keyCode := 0x41, release := false, modifiers := 1 }, .reset]
    [.repeatKey 0]
    ⟨fun _ => by decide, trivial, .inl rfl, ⟨.inl rfl, fun _ id held => by
      cases held with
      | head => rfl
      | tail _ rest => cases rest⟩, trivial, trivial⟩
    (by decide) (by decide)

/-- A bound key is lifted by its own code while the key it is bound to stays
down. -/
theorem boundKey_stays_down :
    ¬ ∀ (config : InputConfig) (events later : List InputEvent),
      (Transition.run (step config) events {}).resetTasks ≠ 0 →
      (∀ event ∈ later, event.isPacket = false) →
      Released (Transition.run (step config) (events ++ .resetTask :: later) {}).calls := by
  intro claimed
  have released := claimed { keybindings := [(0x41, 0x42)] }
    [.keyboard { keyCode := 0x41, release := false }, .reset] [] (by decide) nofun
  obtain ⟨later, member, same, _⟩ := released []
    (.keyboardUpdate 0x42 false 0) [.keyboardUpdate 0x41 true 0] (by decide) rfl
  rw [List.mem_singleton.mp member] at same
  cases same

end Pressed

end UmbraHost.Input
