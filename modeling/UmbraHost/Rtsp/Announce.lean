import UmbraHost.Stream.Packetization

/-! # ANNOUNCE

The attributes of an ANNOUNCE body and what `cmd_announce` takes from them for
the packetization (`rtsp.cpp`, `utility.h`).  A body is a list of bytes, each
one character. -/

namespace UmbraHost.Rtsp

open UmbraHost.Stream

abbrev Text := List Char

/-! ## The body -/

def whitespace (ch : Char) : Bool := ch == '\n' || ch == '\r'

/-- The lines of a body; one that no line break ends is dropped.  `skipping` is
set behind a line break. -/
def lines (skipping : Bool) (current : Text) : Text → List Text
  | [] => []
  | ch :: rest =>
      if whitespace ch then
        if skipping then lines true [] rest else current :: lines true [] rest
      else lines false (current ++ [ch]) rest

/-- The name and the value of an `a=` line.  Without a colon the value is the
whole line. -/
def argument : Text → Option (Text × Text)
  | 'a' :: '=' :: rest =>
      let val := if ':' ∈ rest then (rest.dropWhile (· != ':')).tail else 'a' :: '=' :: rest
      some (rest.takeWhile (· != ':'), if val.getLast? = some ' ' then val.dropLast else val)
  | _ => none

/-- `args.emplace` keeps the first value of a name. -/
def args (payload : Text) : List (Text × Text) := (lines false [] payload).filterMap argument

def announceDefaults : List (Text × Text) :=
  [("x-nv-video[0].encoderCscMode", "0"), ("x-nv-vqos[0].bitStreamFormat", "0"),
    ("x-nv-video[0].dynamicRangeMode", "0"), ("x-nv-aqos.packetDuration", "5"),
    ("x-nv-general.useReliableUdp", "1"), ("x-nv-vqos[0].fec.minRequiredFecPackets", "0"),
    ("x-nv-general.featureFlags", "135"), ("x-ml-general.featureFlags", "0"),
    ("x-nv-vqos[0].qosTrafficType", "5"), ("x-nv-aqos.qosTrafficType", "4"),
    ("x-ml-video.configuredBitrateKbps", "0"), ("x-ss-general.encryptionEnabled", "0"),
    ("x-ss-video[0].chromaSamplingType", "0"), ("x-ss-video[0].intraRefresh", "0"),
    ("x-nv-video[0].clientRefreshRateX100", "0")].map fun (name, val) => (name.toList, val.toList)

/-! ## Numbers -/

/-- The digits from the last one to the first, which may be a sign. -/
def fromCharsLoop (res mul : Int) : Text → Int
  | [] => 0
  | [ch] => if ch = '-' then -res else res + (ch.toNat - 48) * mul
  | ch :: rest => fromCharsLoop (res + (ch.toNat - 48) * mul) (mul * 10) rest

/-- `util::from_view`, as an unbounded integer. -/
def fromView (number : Text) : Int := fromCharsLoop 0 1 number.reverse

/-- The conversion to `int`; the wrapping of `std::int64_t` before it is the same
conversion. -/
def toInt (value : Int) : Int := value.bmod (2 ^ 32)

theorem toInt_isInt (value : Int) : IsInt (toInt value) := by
  have lower := Int.le_bmod (x := value) (m := 2 ^ 32) (by decide)
  have upper := Int.bmod_lt (x := value) (m := 2 ^ 32) (by decide)
  rw [toInt, IsInt]
  omega

/-! ## cmd_announce -/

def packetsizeMin : Int := 200

def packetsizeMax : Int := 65535

/-- The host's settings in their configured ranges, and its decisions about the
encryption that a client of this address asks for. -/
structure AnnounceHost where
  packetsize : Int
  hevcMode : Nat
  av1Mode : Nat
  acceptsEncryption : (encryptionEnabled featureFlags : Int) → Bool
  packetsize_range : 0 ≤ packetsize ∧ packetsize ≤ packetsizeMax := by decide

/-- The packet size under the host's limit. -/
def limitPacketsize (limit packetsize : Int) : Int :=
  if limit ≠ 0 ∧ limit < packetsize then
    if limit < packetsizeMin ∨ packetsizeMax < limit then packetsize else limit
  else packetsize

/-- The `int` of an attribute; without the attribute the request is answered with 400. -/
def argsAt (payload : Text) (name : String) : Except Nat Int :=
  match (args payload ++ announceDefaults).lookup name.toList with
  | some val => pure (fromView val)
  | none => throw 400

/-- The attributes that are read in front of the packet size, and behind it. -/
def attributesBefore : List String :=
  ["x-nv-audio.surround.numChannels", "x-nv-audio.surround.channelMask",
    "x-nv-aqos.packetDuration", "x-nv-audio.surround.AudioQuality",
    "x-nv-general.useReliableUdp"]

def attributesBehind : List String :=
  ["x-ml-general.featureFlags", "x-nv-aqos.qosTrafficType", "x-nv-vqos[0].qosTrafficType",
    "x-nv-video[0].clientViewportHt", "x-nv-video[0].clientViewportWd", "x-nv-video[0].maxFPS",
    "x-nv-video[0].clientRefreshRateX100", "x-nv-vqos[0].bw.maximumBitrateKbps",
    "x-nv-video[0].videoEncoderSlicesPerFrame", "x-nv-video[0].maxNumReferenceFrames",
    "x-nv-video[0].encoderCscMode", "x-nv-video[0].dynamicRangeMode",
    "x-ss-video[0].chromaSamplingType", "x-ss-video[0].intraRefresh",
    "x-ml-video.configuredBitrateKbps"]

/-- The configuration of a session that goes on to its startup, or the status of
the response. -/
def cmdAnnounce (host : AnnounceHost) (payload : Text) : Except Nat SessionConfig := do
  let _ ← attributesBefore.mapM (argsAt payload)
  let packetsize ← argsAt payload "x-nv-video[0].packetSize"
  let minRequiredFecPackets ← argsAt payload "x-nv-vqos[0].fec.minRequiredFecPackets"
  let encryptionEnabled ← argsAt payload "x-ss-general.encryptionEnabled"
  let featureFlags ← argsAt payload "x-nv-general.featureFlags"
  let videoFormat ← argsAt payload "x-nv-vqos[0].bitStreamFormat"
  let _ ← attributesBehind.mapM (argsAt payload)
  if toInt videoFormat = 1 ∧ host.hevcMode = 1 then throw 400
  if toInt videoFormat = 2 ∧ host.av1Mode = 1 then throw 400
  if host.acceptsEncryption encryptionEnabled featureFlags = false then throw 403
  pure {
    packetsize := limitPacketsize host.packetsize (toInt packetsize)
    minRequiredFecPackets := toInt minRequiredFecPackets
    packetsize_int := by
      have range := host.packetsize_range
      have given := toInt_isInt packetsize
      rw [packetsizeMax] at range
      rw [IsInt] at *
      rw [limitPacketsize]
      split
      · split <;> omega
      · exact given
    minRequiredFecPackets_int := toInt_isInt minRequiredFecPackets
  }

end UmbraHost.Rtsp
