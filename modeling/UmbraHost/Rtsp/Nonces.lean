import UmbraHost.Rtsp.LaunchSession
import UmbraHost.Stream.HeaderInsertion
import Mathlib.Data.List.Nodup

/-! # Nonces

A counter is never used twice for one purpose.  The IV leaves out which streaming
session it is used in, so that uniqueness rests on there being one. -/

namespace UmbraHost.Rtsp

open UmbraHost.Stream

/-! ## Little-endian fields -/

theorem length_little (width value : Nat) : (little width value).length = width := by
  rw [little, List.length_map, List.length_range]

theorem little_succ (width value : Nat) :
    little (width + 1) value = little width value ++ [UInt8.ofNat (value / 256 ^ width)] := by
  rw [little, little, List.range_succ, List.map_append]
  rfl

/-- The field determines the value as far as its width goes. -/
theorem mod_eq_of_little {width first second : Nat} (same : little width first = little width second) :
    first % 256 ^ width = second % 256 ^ width := by
  induction width with
  | zero => simp [Nat.mod_one]
  | succ width ih =>
      rw [little_succ, little_succ] at same
      obtain ⟨front, last⟩ := List.append_inj same (by rw [length_little, length_little])
      have byte : first / 256 ^ width % 256 = second / 256 ^ width % 256 := by
        have bytes := congrArg UInt8.toNat (List.cons.inj last).1
        simpa using bytes
      rw [Nat.mod_pow_succ, Nat.mod_pow_succ, ih front, byte]

theorem little_injective {width first second : Nat} (same : little width first = little width second)
    (small : first < 256 ^ width) (small' : second < 256 ^ width) : first = second := by
  have values := mod_eq_of_little same
  rwa [Nat.mod_eq_of_lt small, Nat.mod_eq_of_lt small'] at values

/-! ## Used counters -/

namespace Server

/-- The counter of this purpose has moved past the encryption. -/
def Used (server : Server) (encryption : Encryption) : Prop :=
  match encryption.origin with
  | .rtsp => encryption.counter ≤ server.rtspIvCounter
  | .control index v2 => ∃ session, server.sessions[index]? = some session ∧
      encryption.counter < session.seq ∧ v2 = session.config.controlV2
  | .video index => ∃ session, server.sessions[index]? = some session ∧
      encryption.counter < session.gcmIvCounter

/-- Counters only move forward and sessions stay. -/
structure Advances (before after : Server) : Prop where
  rtsp : before.rtspIvCounter ≤ after.rtspIvCounter
  sessions : ∀ (index : Nat) (session : StreamSession), before.sessions[index]? = some session →
    ∃ later : StreamSession, after.sessions[index]? = some later ∧ session.seq ≤ later.seq ∧
      session.gcmIvCounter ≤ later.gcmIvCounter ∧ later.config = session.config

variable {before after : Server}

theorem Advances.of_sessions (rtsp : before.rtspIvCounter ≤ after.rtspIvCounter)
    (same : after.sessions = before.sessions) : Advances before after where
  rtsp
  sessions _ session found := ⟨session, same ▸ found, Nat.le_refl _, Nat.le_refl _, rfl⟩

theorem Advances.of_modify {index : Nat} {change : StreamSession → StreamSession}
    (rtsp : before.rtspIvCounter ≤ after.rtspIvCounter)
    (sessions : after.sessions = before.sessions.modify index change)
    (forward : ∀ session, session.seq ≤ (change session).seq ∧
      session.gcmIvCounter ≤ (change session).gcmIvCounter ∧
      (change session).config = session.config) : Advances before after where
  rtsp
  sessions place session found := by
    rw [sessions, List.getElem?_modify, found]
    by_cases here : index = place
    · simp only [if_pos here]
      exact ⟨_, rfl, forward session⟩
    · simp only [if_neg here]
      exact ⟨_, rfl, Nat.le_refl _, Nat.le_refl _, rfl⟩

theorem Used.advances {encryption : Encryption} (used : before.Used encryption)
    (advances : Advances before after) : after.Used encryption := by
  obtain ⟨origin, counter⟩ := encryption
  cases origin with
  | rtsp => exact Nat.le_trans used advances.rtsp
  | control index v2 =>
      obtain ⟨session, found, below, version⟩ := used
      obtain ⟨later, kept, seq, -, config⟩ := advances.sessions index session found
      exact ⟨later, kept, by omega, by rw [version, config]⟩
  | video index =>
      obtain ⟨session, found, below⟩ := used
      obtain ⟨later, kept, -, gcm, -⟩ := advances.sessions index session found
      exact ⟨later, kept, by omega⟩

/-- No encryption is repeated and every one is behind its counter. -/
structure Stamped (server : Server) : Prop where
  nodup : server.encryptions.Nodup
  used : ∀ encryption ∈ server.encryptions, server.Used encryption

theorem Stamped.quiet (stamped : before.Stamped) (advances : Advances before after)
    (same : after.encryptions = before.encryptions) : after.Stamped where
  nodup := by
    rw [same]
    exact stamped.nodup
  used encryption member := by
    rw [same] at member
    exact (stamped.used encryption member).advances advances

theorem Stamped.encrypts (stamped : before.Stamped) (advances : Advances before after)
    {encryption : Encryption} (fresh : ¬ before.Used encryption) (used : after.Used encryption)
    (logged : after.encryptions = before.encryptions ++ [encryption]) : after.Stamped where
  nodup := by
    rw [logged]
    refine stamped.nodup.append (List.nodup_singleton encryption) ?_
    intro other earlier last
    obtain rfl := List.mem_singleton.mp last
    exact fresh (stamped.used other earlier)
  used other member := by
    rw [logged] at member
    rcases List.mem_append.mp member with earlier | last
    · exact (stamped.used other earlier).advances advances
    · obtain rfl := List.mem_singleton.mp last
      exact used

theorem modify_found {sessions : List StreamSession} {index : Nat} {session : StreamSession}
    {change : StreamSession → StreamSession} (found : sessions[index]? = some session) :
    (sessions.modify index change)[index]? = some (change session) := by
  rw [List.getElem?_modify, found]
  simp

/-! ## One step -/

variable {server : Server}

theorem respond_stamped (stamped : server.Stamped) : server.respond.Stamped := by
  refine stamped.encrypts (.of_sessions (Nat.le_succ _) rfl) ?_ (Nat.le_refl _) rfl
  exact Nat.not_succ_le_self _

theorem accept_stamped (remoteAddress : String) (stamped : server.Stamped) :
    (server.accept remoteAddress).Stamped := by
  rw [accept]
  split
  · exact stamped
  · split
    · exact stamped.quiet (.of_sessions (Nat.le_refl _) rfl) rfl
    · split
      · exact stamped.quiet (.of_sessions (Nat.le_refl _) rfl) rfl
      · exact stamped

theorem request_stamped (announced : Option EncryptionConfig) (stamped : server.Stamped) :
    (server.request announced).Stamped := by
  rw [request]
  split
  · exact stamped
  · cases announced with
    | none =>
        apply respond_stamped
        exact stamped.quiet (.of_sessions (Nat.le_refl _) rfl) rfl
    | some config => exact stamped.quiet (.of_sessions (Nat.le_refl _) rfl) rfl

theorem complete_stamped (stamped : server.Stamped) : server.complete.Stamped := by
  rw [complete]
  split
  · exact stamped
  · apply respond_stamped
    exact stamped.quiet (.of_sessions (Nat.le_refl _) rfl) rfl

/-- A session that is added behind the others uses no counter yet. -/
theorem startup_stamped (started : Bool) (stamped : server.Stamped) :
    (server.startup started).Stamped := by
  rw [startup]
  split
  · exact stamped
  · next config rest _ =>
    simp only
    split
    · refine stamped.quiet ⟨Nat.le_refl _, ?_⟩ rfl
      intro index session found
      refine ⟨session, ?_, Nat.le_refl _, Nat.le_refl _, rfl⟩
      rw [List.getElem?_append_left (List.getElem?_eq_some_iff.mp found).1]
      exact found
    · exact stamped.quiet (.of_sessions (Nat.le_refl _) rfl) rfl

theorem connectControl_stamped (stamped : server.Stamped) : server.connectControl.Stamped := by
  rw [connectControl]
  split
  · exact stamped
  · exact stamped.quiet (.of_modify (Nat.le_refl _) rfl
      fun session => ⟨Nat.le_refl _, Nat.le_refl _, rfl⟩) rfl

theorem control_stamped (index : Nat) (stamped : server.Stamped) :
    (server.control index).Stamped := by
  rw [control]
  split
  · exact stamped
  · next session found =>
    split
    · refine stamped.encrypts (.of_modify (Nat.le_refl _) rfl
        fun session => ⟨Nat.le_succ _, Nat.le_refl _, rfl⟩) ?_ ?_ rfl
      · rintro ⟨_, found', below, -⟩
        rw [found] at found'
        cases found'
        exact Nat.lt_irrefl _ below
      · exact ⟨_, modify_found found, Nat.lt_succ_self _, rfl⟩
    · exact stamped

theorem shard_stamped (index : Nat) (stamped : server.Stamped) : (server.shard index).Stamped := by
  rw [shard]
  split
  · exact stamped
  · next session found =>
    split
    · refine stamped.encrypts (.of_modify (Nat.le_refl _) rfl
        fun session => ⟨Nat.le_refl _, Nat.le_succ _, rfl⟩) ?_ ?_ rfl
      · rintro ⟨_, found', below⟩
        rw [found] at found'
        cases found'
        exact Nat.lt_irrefl _ below
      · exact ⟨_, modify_found found, Nat.lt_succ_self _⟩
    · exact stamped

theorem frame_stamped (index shards : Nat) (stamped : server.Stamped) :
    (server.frame index shards).Stamped := by
  induction shards with
  | zero => exact stamped
  | succ shards ih => exact shard_stamped index ih

theorem step_stamped (event : Event) (stamped : server.Stamped) : (server.step event).Stamped := by
  cases event with
  | accept remoteAddress => exact accept_stamped remoteAddress stamped
  | request announced => exact request_stamped announced stamped
  | startup started => exact startup_stamped started stamped
  | complete => exact complete_stamped stamped
  | expire => exact stamped.quiet (.of_sessions (Nat.le_refl _) rfl) rfl
  | connectControl => exact connectControl_stamped stamped
  | control session => exact control_stamped session stamped
  | frame session shards => exact frame_stamped session shards stamped

/-! ## Distinct initialization vectors -/

/-- Fewer than `2 ^ 32` messages per counter. -/
structure Bounded (server : Server) : Prop where
  rtsp : server.rtspIvCounter < 2 ^ 32
  control : ∀ session ∈ server.sessions, session.seq < 2 ^ 32
  video : ∀ session ∈ server.sessions, session.gcmIvCounter < 2 ^ 32

theorem Used.index_zero {index : Nat} {session : StreamSession} (single : server.sessions.length ≤ 1)
    (found : server.sessions[index]? = some session) : index = 0 ∧ session ∈ server.sessions := by
  obtain ⟨inside, -⟩ := List.getElem?_eq_some_iff.mp found
  exact ⟨by omega, List.mem_of_getElem? found⟩

theorem padded_injective {width padding first second : Nat} {tag tag' : Bytes}
    (same : little width first ++ zeros padding ++ tag = little width second ++ zeros padding ++ tag')
    (small : first < 256 ^ width) (small' : second < 256 ^ width) :
    first = second ∧ tag = tag' := by
  rw [List.append_assoc, List.append_assoc] at same
  obtain ⟨fields, rest⟩ := List.append_inj same (by rw [length_little, length_little])
  exact ⟨little_injective fields small small', List.append_cancel_left rest⟩

/-- The last byte of the IV: the fixed field, or nothing in the old style. -/
def Origin.tag : Origin → UInt8
  | .rtsp => 0x52
  | .control _ true => 0x43
  | .control _ false => 0
  | .video _ => 0x56

theorem iv_getLast? (encryption : Encryption) :
    encryption.iv.getLast? = some (Origin.tag encryption.origin) := by
  obtain ⟨origin, counter⟩ := encryption
  cases origin with
  | rtsp => simp [Encryption.iv, Origin.tag]
  | control index v2 => cases v2 <;> simp [Encryption.iv, Origin.tag, zeros]
  | video index => simp [Encryption.iv, Origin.tag]

theorem length_iv_old (index counter : Nat) :
    (Encryption.iv { origin := .control index false, counter }).length = 16 := by
  simp [Encryption.iv, length_little, zeros]

/-- With one streaming session the IV determines the use. -/
theorem iv_injective (single : server.sessions.length ≤ 1) (bounded : server.Bounded)
    {first second : Encryption} (used : server.Used first) (used' : server.Used second)
    (short : first.iv.length = 12) (same : first.iv = second.iv) : first = second := by
  have tags : Origin.tag first.origin = Origin.tag second.origin := by
    have last := congrArg List.getLast? same
    rw [iv_getLast?, iv_getLast?] at last
    exact Option.some.inj last
  obtain ⟨origin, counter⟩ := first
  obtain ⟨origin', counter'⟩ := second
  cases origin with
  | rtsp =>
      cases origin' with
      | rtsp =>
          have small := Nat.lt_of_le_of_lt used bounded.rtsp
          have small' := Nat.lt_of_le_of_lt used' bounded.rtsp
          obtain ⟨rfl, -⟩ := padded_injective same small small'
          rfl
      | control index v2 => cases v2 <;> simp [Origin.tag] at tags
      | video index => simp [Origin.tag] at tags
  | control index v2 =>
      cases v2 with
      | false =>
          rw [length_iv_old] at short
          omega
      | true =>
          cases origin' with
          | rtsp => simp [Origin.tag] at tags
          | video index => simp [Origin.tag] at tags
          | control index' v2 =>
              cases v2 with
              | false => simp [Origin.tag] at tags
              | true =>
                  obtain ⟨session, found, below, -⟩ := used
                  obtain ⟨session', found', below', -⟩ := used'
                  obtain ⟨rfl, member⟩ := Used.index_zero single found
                  obtain ⟨rfl, member'⟩ := Used.index_zero single found'
                  obtain ⟨rfl, -⟩ := padded_injective same
                    (Nat.lt_trans below (bounded.control session member))
                    (Nat.lt_trans below' (bounded.control session' member'))
                  rfl
  | video index =>
      cases origin' with
      | rtsp => simp [Origin.tag] at tags
      | control index' v2 => cases v2 <;> simp [Origin.tag] at tags
      | video index' =>
          obtain ⟨session, found, below⟩ := used
          obtain ⟨session', found', below'⟩ := used'
          obtain ⟨rfl, member⟩ := Used.index_zero single found
          obtain ⟨rfl, member'⟩ := Used.index_zero single found'
          have small := bounded.video session member
          have small' := bounded.video session' member'
          obtain ⟨rfl, -⟩ := padded_injective same (by omega) (by omega)
          rfl

/-! ## Runs -/

/-- A startup task runs for a pending launch only before any session has been
started from it. -/
def StartsOnce (event : Event) (server : Server) : Prop :=
  event = .startup true → server.launchPending = true → server.sessions = []

theorem length_sessions_frame (index shards : Nat) (server : Server) :
    (server.frame index shards).sessions.length = server.sessions.length := by
  induction shards with
  | zero => rfl
  | succ shards ih =>
      rw [frame, shard]
      split
      · exact ih
      · split
        · rw [List.length_modify]
          exact ih
        · exact ih

theorem step_single (event : Event) (once : StartsOnce event server)
    (single : server.sessions.length ≤ 1) : (server.step event).sessions.length ≤ 1 := by
  cases event with
  | accept remoteAddress =>
      rw [step, accept]
      split
      · exact single
      · split
        · exact single
        · split <;> exact single
  | request announced =>
      rw [step, request]
      split
      · exact single
      · cases announced <;> exact single
  | startup started =>
      rw [step, startup]
      split
      · exact single
      · simp only
        split
        next launched =>
          obtain ⟨pending, rfl⟩ := Bool.and_eq_true_iff.mp launched
          rw [once rfl pending]
          exact Nat.le_refl 1
        next => exact single
  | complete =>
      rw [step, complete]
      split <;> exact single
  | expire => exact single
  | connectControl =>
      rw [step, connectControl]
      split
      · exact single
      · rw [List.length_modify]
        exact single
  | control session =>
      rw [step, control]
      split
      · exact single
      · split
        · rw [List.length_modify]
          exact single
        · exact single
  | frame session shards =>
      rw [step, length_sessions_frame]
      exact single

/-- Two requests of one client, an answer, a frame and a control message. -/
def singleLaunch : List Event :=
  [.accept "10.0.0.2", .request none, .accept "10.0.0.2",
    .request (some { controlProtocolType := 13, controlV2 := true, video := true }),
    .startup true, .complete, .connectControl, .control 0, .control 0, .frame 0 2]

/-- The client announces twice before its control stream connects: both sessions
start, two peers connect with the same data, and both count from zero. -/
def announcedTwice : List Event :=
  [.accept "10.0.0.2",
    .request (some { controlProtocolType := 13, controlV2 := true, video := true }),
    .startup true, .complete, .accept "10.0.0.2",
    .request (some { controlProtocolType := 13, controlV2 := true, video := true }),
    .startup true, .complete, .connectControl, .connectControl, .control 0, .control 1]

end Server

end UmbraHost.Rtsp
