import UmbraHost.Input.ButtonsAndKeys
import UmbraHost.Transition.Run

/-! # The delayed release of the left button

`mouse_left_button_timeout` names the task that will release the left button.  The task that
finds the button pressed again leaves its name behind. -/

namespace UmbraHost.Input

open UmbraHost.Strokes UmbraHost.Transition

inductive MouseEvent where
  | button (packet : MouseButtonPacket)
  | relMove
  | absMove
  | leftRelease (task : Nat)
deriving DecidableEq, Repr

def MouseEvent.input : MouseEvent → InputEvent
  | .button packet => .mouseButton packet
  | .relMove => .relMouseMove
  | .absMove => .absMouseMove
  | .leftRelease task => .leftRelease task

namespace Pressed

variable {config : InputConfig} {input : Pressed}

def mouseStep (config : InputConfig) (event : MouseEvent) (input : Pressed) : Pressed :=
  input.step config event.input

/-- A right click sent whole: its press and its release at once. -/
def rightClick : List PressCall :=
  [.buttonMouse buttonRight false, .buttonMouse buttonRight true]

structure LeftReleaseKept (config : InputConfig) (input : Pressed) : Prop where
  named : ∀ task, input.mouseLeftButtonTimeout = .task task → task ∈ input.leftReleases
  clicks : ∀ packet, (input.mouseButton config packet).calls = input.calls ++ rightClick →
    input.leftReleases ≠ []
  released : ∀ task ∈ input.leftReleases,
    isDown (.button buttonLeft) (input.leftRelease task).strokes =
      (input.leftRelease task).mousePress buttonLeft

/-- The release that the timeout names does not fire while the button is pressed again. -/
def NotPressedAgain : MouseEvent → Pressed → Prop
  | .leftRelease task, input =>
      task ∈ input.leftReleases → input.mousePress buttonLeft = true →
        input.mouseLeftButtonTimeout ≠ .task task
  | _, _ => True

structure LeftTracked (input : Pressed) : Prop where
  down : input.mousePress buttonLeft = true → isDown (.button buttonLeft) input.strokes = true
  distinct : input.leftReleases.Nodup
  used : ∀ task ∈ input.leftReleases, task < input.nextTask

/-! ## Steps -/

/-- What `sendButton` does. -/
theorem sendButton_cases (button : Nat) (release : Bool) (input : Pressed) :
    (button = buttonLeft ∧ release = true ∧ input.mouseLeftButtonTimeout = .enabled ∧
        input.sendButton button release =
          { input with
            leftReleases := input.leftReleases ++ [input.nextTask]
            mouseLeftButtonTimeout := .task input.nextTask
            nextTask := input.nextTask + 1 }) ∨
      (button = buttonRight ∧ release = false ∧
        (∃ task, input.mouseLeftButtonTimeout = .task task) ∧
        input.sendButton button release = (input.send rightClick).press buttonRight false) ∨
      input.sendButton button release = input.send [.buttonMouse button release] := by
  unfold sendButton
  split
  · next delayed => exact .inl ⟨delayed.1, delayed.2.1, delayed.2.2, rfl⟩
  · right
    split
    · next task named =>
        split
        · next click => exact .inl ⟨click.1, click.2, ⟨task, named⟩, rfl⟩
        · exact .inr rfl
    · exact .inr rfl

theorem isDown_left_send (button : Nat) (release : Bool) (input : Pressed) :
    isDown (.button buttonLeft) (input.send [.buttonMouse button release]).strokes =
      if button = buttonLeft then !release else isDown (.button buttonLeft) input.strokes := by
  rw [strokes_send, List.map_singleton, isDown_append_singleton]
  simp [PressCall.stroke]

/-- The state of the left button is set before its calls are made. -/
theorem LeftTracked.sendButton (distinct : input.leftReleases.Nodup)
    (used : ∀ task ∈ input.leftReleases, task < input.nextTask) (button : Nat) (release : Bool)
    (left : button = buttonLeft → input.mousePress buttonLeft = !release)
    (down : button ≠ buttonLeft → input.mousePress buttonLeft = true →
      isDown (.button buttonLeft) input.strokes = true) :
    (input.sendButton button release).LeftTracked := by
  rcases sendButton_cases button release input with
    ⟨isLeft, isRelease, _, delayed⟩ | ⟨isRight, _, _, click⟩ | sent
  · rw [delayed]
    have lifted := left isLeft
    rw [isRelease] at lifted
    refine ⟨fun pressed => ?_, ?_, ?_⟩
    · exact absurd (pressed.symm.trans lifted) nofun
    · refine List.nodup_append.mpr ⟨distinct, by simp, ?_⟩
      intro task member other last
      rw [List.mem_singleton.mp last]
      exact Nat.ne_of_lt (used task member)
    · intro task member
      rcases List.mem_append.mp member with earlier | last
      · exact Nat.lt_succ_of_lt (used task earlier)
      · rw [List.mem_singleton.mp last]
        exact Nat.lt_succ_self _
  · rw [click]
    refine ⟨fun pressed => ?_, distinct, used⟩
    have before := down (by rw [isRight]; decide) pressed
    simpa [rightClick, strokes, Pressed.press, Pressed.send, PressCall.stroke, isDown,
      Stroke.apply, buttonLeft, buttonRight] using before
  · rw [sent]
    refine ⟨fun pressed => ?_, distinct, used⟩
    rw [isDown_left_send]
    split
    · next isLeft => exact (left isLeft).symm.trans pressed
    · next other => exact down other pressed

/-- The buttons that `mouse_press` has no place for are sent as they come. -/
theorem mouseButton_cases (config : InputConfig) (packet : MouseButtonPacket) (input : Pressed) :
    input.mouseButton config packet = input ∨
      (input.mouseButton config packet =
          (input.press packet.button (!packet.release)).sendButton packet.button packet.release) ∨
      packet.button ≠ buttonLeft ∧
        input.mouseButton config packet = input.sendButton packet.button packet.release := by
  unfold mouseButton
  split
  · exact .inl rfl
  split
  · split
    · exact .inl rfl
    · exact .inr (.inl rfl)
  · next outside =>
      refine .inr (.inr ⟨fun isLeft => outside ?_, rfl⟩)
      rw [isLeft]
      decide

theorem LeftTracked.mouseButton (tracked : input.LeftTracked) (packet : MouseButtonPacket) :
    (input.mouseButton config packet).LeftTracked := by
  rcases mouseButton_cases config packet input with same | pressed | ⟨other, sent⟩
  · rw [same]
    exact tracked
  · rw [pressed]
    have distinct : (input.press packet.button (!packet.release)).leftReleases.Nodup :=
      tracked.distinct
    apply LeftTracked.sendButton distinct tracked.used
    · intro isLeft
      simp [Pressed.press, isLeft]
    · intro other isPressed
      apply tracked.down
      simpa [Pressed.press, Ne.symm other] using isPressed
  · rw [sent]
    apply LeftTracked.sendButton tracked.distinct tracked.used
    · intro isLeft
      exact absurd isLeft other
    · intro _ isPressed
      exact tracked.down isPressed

/-- What a pending release does. -/
theorem leftRelease_cases {task : Nat} (pending : task ∈ input.leftReleases) :
    (input.mousePress buttonLeft = true ∧
        input.leftRelease task =
          { input with leftReleases := input.leftReleases.erase task }) ∨
      (input.mousePress buttonLeft = false ∧
        input.leftRelease task =
          { ({ input with leftReleases := input.leftReleases.erase task }.send
              [.buttonMouse buttonLeft true]).press buttonLeft false with
            mouseLeftButtonTimeout := .enabled }) := by
  cases pressed : input.mousePress buttonLeft with
  | true => exact .inl ⟨rfl, by simp [leftRelease, pending, pressed]⟩
  | false => exact .inr ⟨rfl, by simp [leftRelease, pending, pressed]⟩

theorem LeftTracked.leftRelease (tracked : input.LeftTracked) (task : Nat) :
    (input.leftRelease task).LeftTracked := by
  by_cases pending : task ∈ input.leftReleases
  · have distinct := tracked.distinct.erase task
    have used : ∀ other ∈ input.leftReleases.erase task, other < input.nextTask :=
      fun other member => tracked.used other (List.mem_of_mem_erase member)
    rcases leftRelease_cases pending with ⟨_, early⟩ | ⟨_, lifted⟩
    · rw [early]
      exact ⟨tracked.down, distinct, used⟩
    · rw [lifted]
      refine ⟨fun pressed => ?_, distinct, used⟩
      simp [Pressed.press] at pressed
  · simpa [Pressed.leftRelease, pending] using tracked

theorem LeftTracked.step (tracked : input.LeftTracked) (event : MouseEvent) :
    (input.mouseStep config event).LeftTracked := by
  cases event with
  | button packet => exact tracked.mouseButton packet
  | relMove =>
      simp only [mouseStep, MouseEvent.input, Pressed.step]
      split
      · exact ⟨tracked.down, tracked.distinct, tracked.used⟩
      · exact tracked
  | absMove =>
      simp only [mouseStep, MouseEvent.input, Pressed.step]
      split
      · exact ⟨tracked.down, tracked.distinct, tracked.used⟩
      · exact tracked
  | leftRelease task => exact tracked.leftRelease task

/-! ## The name -/

/-- The task that the timeout names is pending. -/
def NamesPending (input : Pressed) : Prop :=
  ∀ task, input.mouseLeftButtonTimeout = .task task → task ∈ input.leftReleases

theorem NamesPending.sendButton (named : input.NamesPending) (button : Nat) (release : Bool) :
    (input.sendButton button release).NamesPending := by
  rcases sendButton_cases button release input with
    ⟨_, _, _, delayed⟩ | ⟨_, _, _, click⟩ | sent
  · rw [delayed]
    intro task names
    cases names
    exact List.mem_append_right _ (List.mem_singleton.mpr rfl)
  · rw [click]
    exact named
  · rw [sent]
    exact named

theorem NamesPending.step (tracked : input.LeftTracked) (named : input.NamesPending)
    (event : MouseEvent) :
    (input.mouseStep config event).NamesPending ↔ NotPressedAgain event input := by
  cases event with
  | button packet =>
      refine iff_of_true ?_ trivial
      change (input.mouseButton config packet).NamesPending
      rcases mouseButton_cases config packet input with same | pressed | ⟨_, sent⟩
      · rw [same]
        exact named
      · rw [pressed]
        have still : (input.press packet.button (!packet.release)).NamesPending := named
        exact still.sendButton _ _
      · rw [sent]
        exact named.sendButton _ _
  | relMove =>
      refine iff_of_true ?_ trivial
      simp only [mouseStep, MouseEvent.input, Pressed.step]
      split
      · exact nofun
      · exact named
  | absMove =>
      refine iff_of_true ?_ trivial
      simp only [mouseStep, MouseEvent.input, Pressed.step]
      split
      · exact nofun
      · exact named
  | leftRelease task =>
      change (input.leftRelease task).NamesPending ↔ _
      by_cases pending : task ∈ input.leftReleases
      · rcases leftRelease_cases pending with ⟨pressed, early⟩ | ⟨lifted, released⟩
        · rw [early]
          constructor
          · intro still _ _ names
            exact tracked.distinct.not_mem_erase (still task names)
          · intro unnamed other names
            refine (List.mem_erase_of_ne ?_).mpr (named other names)
            intro same
            exact unnamed pending pressed (same ▸ names)
        · rw [released]
          refine iff_of_true nofun ?_
          intro _ pressed
          rw [lifted] at pressed
          cases pressed
      · refine iff_of_true ?_ fun inside => absurd inside pending
        simpa [Pressed.leftRelease, pending] using named

/-- After a release that was pending the button is as `mouse_press` says. -/
theorem LeftTracked.released (tracked : input.LeftTracked) {task : Nat}
    (pending : task ∈ input.leftReleases) :
    isDown (.button buttonLeft) (input.leftRelease task).strokes =
      (input.leftRelease task).mousePress buttonLeft := by
  rcases leftRelease_cases pending with ⟨pressed, early⟩ | ⟨_, released⟩
  · rw [early]
    exact (tracked.down pressed).trans pressed.symm
  · rw [released]
    change isDown (.button buttonLeft)
      ({ input with leftReleases := input.leftReleases.erase task }.send
        [.buttonMouse buttonLeft true]).strokes = _
    rw [isDown_left_send]
    simp [Pressed.press]

theorem not_rightClick {calls more : List PressCall} (short : more.length < 2) :
    calls ++ more ≠ calls ++ rightClick := by
  intro same
  have lengths := congrArg List.length (List.append_cancel_left same)
  rw [lengths] at short
  exact absurd short (by decide)

theorem clicked_of_sendButton {button : Nat} {release : Bool}
    (clicked : (input.sendButton button release).calls = input.calls ++ rightClick) :
    ∃ task, input.mouseLeftButtonTimeout = .task task := by
  rcases sendButton_cases button release input with
    ⟨_, _, _, delayed⟩ | ⟨_, _, named, _⟩ | sent
  · rw [delayed] at clicked
    exact absurd ((List.append_nil _).trans clicked) (not_rightClick (by decide))
  · exact named
  · rw [sent] at clicked
    exact absurd clicked (not_rightClick (by simp))

theorem NamesPending.clicks (named : input.NamesPending) {packet : MouseButtonPacket}
    (clicked : (input.mouseButton config packet).calls = input.calls ++ rightClick) :
    input.leftReleases ≠ [] := by
  have names : ∃ task, input.mouseLeftButtonTimeout = .task task := by
    rcases mouseButton_cases config packet input with same | pressed | ⟨_, sent⟩
    · rw [same] at clicked
      exact absurd ((List.append_nil _).trans clicked) (not_rightClick (by decide))
    · rw [pressed] at clicked
      have sent : ((input.press packet.button (!packet.release)).sendButton packet.button
          packet.release).calls =
            (input.press packet.button (!packet.release)).calls ++ rightClick := clicked
      obtain ⟨task, names⟩ := clicked_of_sendButton sent
      exact ⟨task, names⟩
    · rw [sent] at clicked
      exact clicked_of_sendButton clicked
  obtain ⟨task, names⟩ := names
  exact List.ne_nil_of_mem (named task names)

theorem leftReleaseKept_iff (tracked : input.LeftTracked) :
    LeftReleaseKept config input ↔ input.NamesPending :=
  ⟨fun kept => kept.named, fun named =>
    ⟨named, fun _ => named.clicks, fun _ => tracked.released⟩⟩

/-- The name is that of a pending task in every state of a run if and only if no named release
finds the button pressed again. -/
theorem leftReleases_kept_iff (config : InputConfig) (events : List MouseEvent) :
    (∀ past, past <+: events → LeftReleaseKept config (run (mouseStep config) past {})) ↔
      Meets (mouseStep config) NotPressedAgain events {} := by
  have initial : LeftTracked {} := ⟨nofun, List.nodup_nil, nofun⟩
  apply reached_iff_meets (mouseStep config) LeftTracked (LeftReleaseKept config)
  · intro event input tracked
    exact tracked.step event
  · intro event input tracked kept
    rw [leftReleaseKept_iff (tracked.step event)]
    exact NamesPending.step tracked kept.named event
  · exact initial
  · exact (leftReleaseKept_iff initial).mpr nofun

/-- The left button is clicked and pressed again; the release that is due then is left out. -/
def pressedAgain : List MouseEvent :=
  [.button { button := buttonLeft, release := false },
    .button { button := buttonLeft, release := true },
    .button { button := buttonLeft, release := false }, .leftRelease 0]

/-- A right button pressed a while later is released at once. -/
theorem pressedAgain_clicks :
    let input := run (mouseStep {}) pressedAgain {}
    input.mouseLeftButtonTimeout = .task 0 ∧ input.leftReleases = [] ∧
      (input.mouseButton {} { button := buttonRight, release := false }).calls =
        input.calls ++ rightClick ∧
      ¬ LeftReleaseKept {} input := by
  refine ⟨by decide, by decide, by decide, ?_⟩
  intro kept
  exact absurd (kept.named 0 (by decide)) (by decide)

end Pressed

end UmbraHost.Input
