import UmbraHost.Input.Batching
import UmbraHost.Queue.Superseding

/-! # What each device receives

The packets that `passthrough_next_message` sends until the queue is empty. -/

namespace UmbraHost.Input

open Queue

/-- So many runs of `passthrough_next_message`. -/
def deliverRuns : Nat → List QueuedPacket → List QueuedPacket
  | 0, _ => []
  | _ + 1, [] => []
  | runs + 1, first :: rest => (scan first rest).1 :: deliverRuns runs (scan first rest).2

/-- Each run takes a packet at least, so as many runs as packets empty the queue. -/
def deliver (queue : List QueuedPacket) : List QueuedPacket := deliverRuns queue.length queue

/-- The packets of a queue, numbered from the first. -/
def numbered (packets : List Packet) : List QueuedPacket :=
  packets.mapIdx QueuedPacket.mk

variable {first dest : QueuedPacket} {rest queue : List QueuedPacket}

theorem deliverRuns_eq {runs enough : Nat} (long : queue.length ≤ runs)
    (long' : queue.length ≤ enough) : deliverRuns runs queue = deliverRuns enough queue := by
  induction runs generalizing queue enough with
  | zero =>
      obtain rfl := List.length_eq_zero_iff.mp (Nat.le_zero.mp long)
      cases enough <;> rfl
  | succ runs ih =>
      cases queue with
      | nil => cases enough <;> rfl
      | cons first rest =>
          obtain ⟨enough, rfl⟩ := Nat.exists_eq_add_of_le' (Nat.le_of_add_left_le long')
          have shorter := (scan_sublist first rest).length_le
          rw [List.length_cons] at long long'
          have emptied : deliverRuns runs (scan first rest).2 =
            deliverRuns enough (scan first rest).2 := ih (by omega) (by omega)
          rw [deliverRuns, deliverRuns, emptied]

theorem deliver_cons (first : QueuedPacket) (rest : List QueuedPacket) :
    deliver (first :: rest) = (scan first rest).1 :: deliver (scan first rest).2 := by
  rw [deliver, List.length_cons, deliverRuns,
    deliverRuns_eq (scan_sublist first rest).length_le (Nat.le_refl _), deliver]

/-- Induction over the runs that empty a queue. -/
theorem deliver_induction {motive : List QueuedPacket → List QueuedPacket → Prop}
    (empty : motive [] [])
    (run : ∀ first rest delivered, motive (scan first rest).2 delivered →
      motive (first :: rest) ((scan first rest).1 :: delivered)) (queue : List QueuedPacket) :
    motive queue (deliver queue) := by
  induction length : queue.length using Nat.strongRecOn generalizing queue with
  | ind length ih =>
      cases queue with
      | nil => exact empty
      | cons first rest =>
          have shorter := (scan_sublist first rest).length_le
          rw [List.length_cons] at length
          rw [deliver_cons]
          exact run first rest _ (ih _ (by omega) _ rfl)

/-! ## One device -/

/-- A queued packet is superseded by the same update in the next one. -/
def SupersededBy (queued next : QueuedPacket) : Prop := SameUpdate queued.packet next.packet

theorem isFor_merge {src : QueuedPacket} {merged : Packet}
    (merges : Merges dest.packet src.packet merged) (device : Device) :
    src.isFor device = dest.isFor device ∧
      (dest.merge src merged).isFor device = dest.isFor device := by
  cases kind : dest.packet.relative with
  | false =>
      have same := (merges.latest kind).1.device
      rw [QueuedPacket.merge_latest merges kind, QueuedPacket.isFor, QueuedPacket.isFor, same]
      exact ⟨rfl, rfl⟩
  | true =>
      obtain ⟨relative, sum⟩ := merges.sum kind
      simp only [QueuedPacket.isFor, QueuedPacket.merge, Packet.device_of_relative kind,
        Packet.device_of_relative relative, Packet.device_of_relative sum, and_self]

/-- What every merge keeps of its first packet is kept by a whole batch. -/
theorem scan_keeps {α : Type} (feature : QueuedPacket → α)
    (kept : ∀ dest src merged, batch dest.packet src.packet = .batched merged →
      feature (dest.merge src merged) = feature dest)
    (dest : QueuedPacket) (rest : List QueuedPacket) :
    feature (scan dest rest).1 = feature dest := by
  induction rest generalizing dest with
  | nil => rfl
  | cons src rest ih =>
      cases result : batch dest.packet src.packet with
      | terminateBatch => simp only [scan, result]
      | batched merged =>
          simp only [scan, result]
          exact (ih _).trans (kept dest src merged result)
      | notBatchable =>
          simp only [scan, result]
          exact ih dest

theorem isFor_scan (device : Device) (dest : QueuedPacket) (rest : List QueuedPacket) :
    (scan dest rest).1.isFor device = dest.isFor device := by
  apply scan_keeps (·.isFor device)
  intro dest src merged result
  exact (isFor_merge (batch_merges result) device).2

/-- A batch for another device takes nothing from this one. -/
theorem filter_scan {device : Device} (other : dest.isFor device = false)
    (rest : List QueuedPacket) :
    (scan dest rest).2.filter (·.isFor device) = rest.filter (·.isFor device) := by
  induction rest generalizing dest with
  | nil => rfl
  | cons src rest ih =>
      cases result : batch dest.packet src.packet with
      | terminateBatch => simp only [scan, result]
      | batched merged =>
          obtain ⟨same, kept⟩ := isFor_merge (batch_merges result) device
          simp only [scan, result]
          rw [ih (kept.trans other), List.filter_cons, same, other]
          rfl
      | notBatchable =>
          simp only [scan, result]
          rw [List.filter_cons, List.filter_cons, ih other]

/-- A batch for the device takes its next updates and leaves the last of them. -/
theorem scan_thinned {device : Device} (own : dest.isFor device = true)
    {rest kept : List QueuedPacket}
    (later : Thinned SupersededBy ((scan dest rest).2.filter (·.isFor device)) kept) :
    Thinned SupersededBy (dest :: rest.filter (·.isFor device)) ((scan dest rest).1 :: kept) := by
  induction rest generalizing dest with
  | nil => exact .keep later
  | cons src rest ih =>
      cases result : batch dest.packet src.packet with
      | terminateBatch =>
          simp only [scan, result] at later ⊢
          exact .keep later
      | batched merged =>
          have merges := batch_merges result
          obtain ⟨same, -⟩ := isFor_merge merges device
          have still : dest.packet.relative = false := by
            by_contra relative
            rw [Bool.not_eq_false] at relative
            simp [QueuedPacket.isFor, Packet.device_of_relative relative] at own
          simp only [scan, result, QueuedPacket.merge_latest merges still] at later ⊢
          rw [List.filter_cons_of_pos (same.trans own)]
          exact .drop (merges.latest still).1 (ih (same.trans own) later)
      | notBatchable =>
          have differs : src.isFor device = false := by
            by_contra same
            rw [Bool.not_eq_false, QueuedPacket.isFor, decide_eq_true_eq] at same
            rw [QueuedPacket.isFor, decide_eq_true_eq] at own
            exact (batch_passes result).2 (own.trans same.symm)
          simp only [scan, result] at later ⊢
          rw [List.filter_cons_of_neg (by simp [differs])] at later ⊢
          exact ih own later

theorem deliver_thinned (device : Device) (queue : List QueuedPacket) :
    Thinned SupersededBy (queue.filter (·.isFor device))
      ((deliver queue).filter (·.isFor device)) := by
  refine deliver_induction (motive := fun queue delivered => Thinned SupersededBy
    (queue.filter (·.isFor device)) (delivered.filter (·.isFor device))) .nil ?_ queue
  intro first rest delivered later
  rw [List.filter_cons, List.filter_cons, isFor_scan]
  split
  next own => exact scan_thinned own later
  next other =>
    rw [Bool.not_eq_true] at other
    rwa [filter_scan other] at later

/-! ## Packets that are never merged -/

/-- Buttons, keys, text, arrivals, battery reports, and the touch and pen events that are no
movement. -/
def Packet.lasting : Packet → Bool
  | .mouseButton _ | .keyboard _ | .unicode | .controllerArrival | .controllerBattery => true
  | .touch packet => !packet.eventType.moves
  | .pen packet => !packet.eventType.moves
  | .controllerTouch packet => !packet.eventType.moves
  | _ => false

theorem SameUpdate.not_lasting {packet next : Packet} (same : SameUpdate packet next) :
    packet.lasting = false ∧ next.lasting = false := by
  unfold SameUpdate at same
  split at same
  · exact ⟨rfl, rfl⟩
  · exact ⟨rfl, rfl⟩
  · simp [Packet.lasting, ← same.2.2, same.2.1]
  · simp [Packet.lasting, ← same.2.1, same.1]
  · simp [Packet.lasting, ← same.2.2.2, same.2.2.1]
  · exact ⟨rfl, rfl⟩
  · exact same.elim

theorem Packet.not_lasting_of_relative {packet : Packet} (relative : packet.relative = true) :
    packet.lasting = false := by
  cases packet <;> first | rfl | cases relative

theorem Merges.not_lasting {dest src merged : Packet} (merges : Merges dest src merged) :
    dest.lasting = false ∧ src.lasting = false ∧ merged.lasting = false := by
  cases kind : dest.relative with
  | false =>
      obtain ⟨same, rfl⟩ := merges.latest kind
      exact ⟨same.not_lasting.1, same.not_lasting.2, same.not_lasting.2⟩
  | true =>
      obtain ⟨relative, sum⟩ := merges.sum kind
      exact ⟨Packet.not_lasting_of_relative kind, Packet.not_lasting_of_relative relative,
        Packet.not_lasting_of_relative sum⟩

theorem scan_lasting (dest : QueuedPacket) (rest : List QueuedPacket) :
    [(scan dest rest).1].filter (·.packet.lasting) = [dest].filter (·.packet.lasting) ∧
      (scan dest rest).2.filter (·.packet.lasting) = rest.filter (·.packet.lasting) := by
  induction rest generalizing dest with
  | nil => exact ⟨rfl, rfl⟩
  | cons src rest ih =>
      cases result : batch dest.packet src.packet with
      | terminateBatch =>
          simp only [scan, result]
          trivial
      | batched merged =>
          obtain ⟨first, second, sum⟩ := (batch_merges result).not_lasting
          obtain ⟨here, later⟩ := ih (dest.merge src merged)
          simp only [scan, result]
          rw [here, later]
          constructor
          · simp [first, sum, QueuedPacket.merge]
          · simp [second]
      | notBatchable =>
          obtain ⟨here, later⟩ := ih dest
          simp only [scan, result]
          exact ⟨here, by rw [List.filter_cons, List.filter_cons, later]⟩

theorem deliver_lasting (queue : List QueuedPacket) :
    (deliver queue).filter (·.packet.lasting) = queue.filter (·.packet.lasting) := by
  refine deliver_induction (motive := fun queue delivered =>
    delivered.filter (·.packet.lasting) = queue.filter (·.packet.lasting)) rfl ?_ queue
  intro first rest delivered later
  obtain ⟨here, kept⟩ := scan_lasting first rest
  have split (item : QueuedPacket) (items : List QueuedPacket) :
      (item :: items).filter (·.packet.lasting) =
        [item].filter (·.packet.lasting) ++ items.filter (·.packet.lasting) := by
    rw [← List.filter_append, List.singleton_append]
  rw [split, split first, here, later, kept]

/-! ## The order of the message types -/

def Precedes (queued next : QueuedPacket) : Prop := queued.index < next.index

theorem pairwise_merge {src : QueuedPacket} {merged : Packet}
    (merges : Merges dest.packet src.packet merged)
    (sorted : (dest :: src :: rest).Pairwise Precedes) :
    (dest.merge src merged :: rest).Pairwise Precedes := by
  cases kind : dest.packet.relative with
  | false =>
      rw [QueuedPacket.merge_latest merges kind]
      exact sorted.tail
  | true =>
      obtain ⟨first, later⟩ := List.pairwise_cons.mp sorted
      refine List.pairwise_cons.mpr ⟨?_, later.tail⟩
      intro other member
      rw [Precedes, QueuedPacket.merge, kind, if_pos rfl]
      exact first other (List.mem_cons_of_mem _ member)

theorem magic_scan (dest : QueuedPacket) (rest : List QueuedPacket) :
    (scan dest rest).1.magic = dest.magic := by
  apply scan_keeps QueuedPacket.magic
  intro dest src merged result
  exact (batch_merges result).kept

/-- What is left in front of the packet being sent has its type. -/
theorem scan_overtakes (sorted : (dest :: rest).Pairwise Precedes) :
    ∀ left ∈ (scan dest rest).2, Precedes left (scan dest rest).1 →
      left.magic = (scan dest rest).1.magic := by
  induction rest generalizing dest with
  | nil => exact fun left member => absurd member List.not_mem_nil
  | cons src rest ih =>
      cases result : batch dest.packet src.packet with
      | terminateBatch =>
          simp only [scan, result]
          intro left member before
          have after := (List.pairwise_cons.mp sorted).1 left member
          exact absurd before (Nat.lt_asymm after)
      | batched merged =>
          simp only [scan, result]
          exact ih (pairwise_merge (batch_merges result) sorted)
      | notBatchable =>
          simp only [scan, result]
          intro left member before
          rcases List.mem_cons.mp member with rfl | behind
          · exact (batch_passes result).1.symm.trans (magic_scan dest rest).symm
          · apply ih _ left behind before
            exact sorted.sublist ((List.sublist_cons_self src rest).cons_cons dest)

/-- The packet being sent has the number and the type of one that it was made of. -/
theorem scan_origin (dest : QueuedPacket) (rest : List QueuedPacket) :
    ∃ origin ∈ dest :: rest,
      origin.index = (scan dest rest).1.index ∧ origin.magic = dest.magic := by
  induction rest generalizing dest with
  | nil => exact ⟨dest, List.mem_cons_self, rfl, rfl⟩
  | cons src rest ih =>
      cases result : batch dest.packet src.packet with
      | terminateBatch =>
          simp only [scan, result]
          exact ⟨dest, List.mem_cons_self, rfl, rfl⟩
      | batched merged =>
          have merges := batch_merges result
          obtain ⟨origin, member, same, type⟩ := ih (dest.merge src merged)
          simp only [scan, result]
          rcases List.mem_cons.mp member with rfl | behind
          · rw [← same, QueuedPacket.merge]
            split
            · exact ⟨dest, List.mem_cons_self, rfl, rfl⟩
            · exact ⟨src, List.mem_cons_of_mem _ List.mem_cons_self, rfl, merges.magic.symm⟩
          · exact ⟨origin, List.mem_cons_of_mem _ (List.mem_cons_of_mem _ behind), same,
              type.trans merges.kept⟩
      | notBatchable =>
          obtain ⟨origin, member, same, type⟩ := ih dest
          simp only [scan, result]
          rcases List.mem_cons.mp member with rfl | behind
          · exact ⟨origin, List.mem_cons_self, same, type⟩
          · exact ⟨origin, List.mem_cons_of_mem _ (List.mem_cons_of_mem _ behind), same, type⟩

/-- A later packet is sent first only when the earlier one has its type. -/
def InTypeOrder (sent later : QueuedPacket) : Prop :=
  Precedes later sent → later.magic = sent.magic

theorem deliver_inTypeOrder (sorted : queue.Pairwise Precedes) :
    (deliver queue).Pairwise InTypeOrder := by
  refine (deliver_induction (motive := fun queue delivered => queue.Pairwise Precedes →
    delivered.Pairwise InTypeOrder ∧ ∀ sent ∈ delivered, ∃ origin ∈ queue,
      origin.index = sent.index ∧ origin.magic = sent.magic) ?_ ?_ queue sorted).1
  · exact fun _ => ⟨.nil, nofun⟩
  intro first rest delivered ih sorted
  have left := scan_sublist first rest
  obtain ⟨ordered, origins⟩ := ih (sorted.tail.sublist left)
  constructor
  · refine List.pairwise_cons.mpr ⟨?_, ordered⟩
    intro later member before
    obtain ⟨origin, waiting, same, type⟩ := origins later member
    rw [Precedes, ← same] at before
    rw [← type]
    exact scan_overtakes sorted origin waiting before
  · intro sent member
    rcases List.mem_cons.mp member with rfl | behind
    · obtain ⟨origin, taken, same, type⟩ := scan_origin first rest
      exact ⟨origin, taken, same, type.trans (magic_scan first rest).symm⟩
    · obtain ⟨origin, waiting, same⟩ := origins sent behind
      exact ⟨origin, List.mem_cons_of_mem _ (left.mem waiting), same⟩

theorem numbered_sorted (packets : List Packet) : (numbered packets).Pairwise Precedes := by
  apply List.pairwise_iff_getElem.mpr
  intro i j inside inside' before
  simpa [numbered, Precedes] using before

/-! ## The whole queue -/

/-- The buttons that a packet holds, with the active gamepads or the pen's tool. -/
def Packet.held : Packet → List Nat
  | .multiController packet => [packet.activeGamepadMask, packet.buttonFlags, packet.buttonFlags2]
  | .pen packet => [packet.penButtons, packet.toolType]
  | _ => []

theorem SameUpdate.held {packet next : Packet} (same : SameUpdate packet next) :
    packet.held = next.held := by
  unfold SameUpdate at same
  split at same
  · rfl
  · rw [Packet.held, Packet.held, same.2.1, same.2.2.1, same.2.2.2]
  · rfl
  · rw [Packet.held, Packet.held, same.2.2.1, same.2.2.2]
  · rfl
  · rfl
  · exact same.elim

/-- The button states that a device goes through. -/
def statesOf (device : Device) (queue : List QueuedPacket) : List (List Nat) :=
  ((queue.filter (·.isFor device)).map (·.packet.held)).destutter (· ≠ ·)

/-- What was sent, against what was queued. -/
structure Faithful (queue delivered : List QueuedPacket) : Prop where
  devices : ∀ device, Thinned SupersededBy (queue.filter (·.isFor device))
    (delivered.filter (·.isFor device))
  states : ∀ device, statesOf device delivered = statesOf device queue
  lasting : delivered.filter (·.packet.lasting) = queue.filter (·.packet.lasting)
  order : delivered.Pairwise InTypeOrder

theorem deliver_faithful (packets : List Packet) :
    Faithful (numbered packets) (deliver (numbered packets)) where
  devices device := deliver_thinned device _
  states device := by
    apply (deliver_thinned device _).destutter_map
    intro queued next same
    exact same.held
  lasting := deliver_lasting _
  order := deliver_inTypeOrder (numbered_sorted packets)

/-- Three packets of a controller: the second presses a button, the third holds it. -/
def heldButton : List Packet :=
  [.multiController { activeGamepadMask := 1, controllerNumber := 0, buttonFlags := 0
                      buttonFlags2 := 0 },
    .multiController { activeGamepadMask := 1, controllerNumber := 0, buttonFlags := 1
                       buttonFlags2 := 0 },
    .multiController { activeGamepadMask := 1, controllerNumber := 0, buttonFlags := 1
                       buttonFlags2 := 0 }]

/-- The packet that presses the button is merged into the one behind it. -/
theorem pressed_merged : ¬ ∀ packets controllerNumber front before pressed back,
    (numbered packets).filter (·.isFor (.controller controllerNumber)) =
      front ++ before :: pressed :: back →
    before.packet.held ≠ pressed.packet.held →
    (deliver (numbered packets)).count pressed = 1 := by
  intro once
  have delivered := once heldButton 0 [] _ _ _ rfl (by decide)
  revert delivered
  decide

end UmbraHost.Input
