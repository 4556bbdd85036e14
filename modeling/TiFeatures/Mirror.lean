/-
This file exchanges the two directions of a flow. The code for the forward direction
is repeated for the backward direction, and the two copies agree: the features of one
direction become those of the other, and the others stay as they are, but for the few
that name one direction.
-/

import TiFeatures.Keys
import TiFeatures.Lockstep
import TiFeatures.TcpStreams

namespace TiFeatures

open BoundedStore

variable {D : Type}

/-! ### Exchanged directions -/

/-- The other direction. -/
def mirrorDir (direction : Nat) : Nat :=
  if direction = dirFwd then dirBwd else if direction = dirBwd then dirFwd else direction

/-- A direction as a byte of the sequence, exchanged. -/
def mirrorByte (byte : Nat) : Nat := if byte = 1 then 255 else if byte = 255 then 1 else byte

theorem mirrorDir_mirrorDir (direction : Nat) : mirrorDir (mirrorDir direction) = direction := by
  unfold mirrorDir dirFwd dirBwd
  split_ifs <;> omega

theorem mirrorDir_eq_fwd (direction : Nat) : mirrorDir direction = dirFwd ↔ direction = dirBwd := by
  unfold mirrorDir dirFwd dirBwd
  split_ifs <;> omega

theorem mirrorDir_eq_bwd (direction : Nat) : mirrorDir direction = dirBwd ↔ direction = dirFwd := by
  unfold mirrorDir dirFwd dirBwd
  split_ifs <;> omega

theorem dirVal_mirrorDir (direction : Nat) :
    dirVal (mirrorDir direction) = mirrorByte (dirVal direction) := by
  unfold dirVal mirrorDir mirrorByte dirFwd dirBwd
  split_ifs <;> omega

/-- A packet that goes the other way. -/
def RawPacket.mirror (packet : RawPacket) : RawPacket :=
  { packet with curdir := mirrorDir packet.curdir }

theorem RawPacket.mirror_mirror (packet : RawPacket) : packet.mirror.mirror = packet := by
  simp only [RawPacket.mirror, mirrorDir_mirrorDir]

def PacketInfo.mirror (info : PacketInfo) : PacketInfo :=
  { info with direction := mirrorDir info.direction }

def DirArray.mirror : DirArray → DirArray
  | .fwdPktLens => .bwdPktLens
  | .bwdPktLens => .fwdPktLens
  | .fwdIats => .bwdIats
  | .bwdIats => .fwdIats
  | .fwdPayloadSizes => .bwdPayloadSizes
  | .bwdPayloadSizes => .fwdPayloadSizes

def ArrayId.mirror : ArrayId → ArrayId
  | .fwdPktLens => .bwdPktLens
  | .bwdPktLens => .fwdPktLens
  | .fwdIats => .bwdIats
  | .bwdIats => .fwdIats
  | .fwdPayloadSizes => .bwdPayloadSizes
  | .bwdPayloadSizes => .fwdPayloadSizes
  | array => array

def CounterState.mirror (state : CounterState) : CounterState :=
  { state with
    fwdPackets := state.bwdPackets
    bwdPackets := state.fwdPackets
    fwdBytes := state.bwdBytes
    bwdBytes := state.fwdBytes
    fwdPayloadBytes := state.bwdPayloadBytes
    bwdPayloadBytes := state.fwdPayloadBytes }

def TcpState.mirror (state : TcpState D) : TcpState D :=
  { state with
    hasLastFwdSeq := state.hasLastBwdSeq
    hasLastBwdSeq := state.hasLastFwdSeq
    lastFwdSeq := state.lastBwdSeq
    lastBwdSeq := state.lastFwdSeq }

def DirectionalRunningStats.mirror (stats : DirectionalRunningStats D) :
    DirectionalRunningStats D := ⟨stats.bwd, stats.fwd⟩

def PktLenState.mirror (state : PktLenState D) : PktLenState D :=
  { state with fwdPktLen := state.bwdPktLen.mirror, bwdPktLen := state.fwdPktLen.mirror }

def IatState.mirror (state : IatState D) : IatState D :=
  { state with
    lastFwdUs := state.lastBwdUs
    lastBwdUs := state.lastFwdUs
    fwdIat := state.bwdIat.mirror
    bwdIat := state.fwdIat.mirror }

def PayloadDirState.mirror (state : PayloadDirState D) : PayloadDirState D :=
  ⟨state.bwdPayloadStats, state.fwdPayloadStats⟩

def DerivedState.mirror (state : DerivedState) : DerivedState :=
  { state with
    lastUplinkRateSeqLen := state.lastDownlinkRateSeqLen
    lastDownlinkRateSeqLen := state.lastUplinkRateSeqLen }

/-- The fields of a flow whose packets go the other way, with another request that waits. -/
def Fields.mirror (fields : Fields D) (response : ResponseState) : Fields D :=
  { fields with
    counters := fields.counters.mirror
    tcp := fields.tcp.mirror
    pktLen := fields.pktLen.mirror
    iat := fields.iat.mirror
    payloadDir := fields.payloadDir.mirror
    derived := fields.derived.mirror
    response }

/-- The same access for a packet that goes the other way. -/
def Access.mirror : Access D → Access D
  | .push .dirSeq value => .push .dirSeq (mirrorByte value)
  | .append array value => .append array.mirror value
  | access => access

/-! ### Calls for packets that go the other way -/

/-- A choice by the direction of a packet that goes the other way. -/
theorem ite_mirrorDir {Value : Type} (direction : Nat) (fwd bwd neither : Value) :
    (if mirrorDir direction = dirFwd then fwd
      else if mirrorDir direction = dirBwd then bwd else neither) =
      if direction = dirFwd then bwd else if direction = dirBwd then fwd else neither := by
  simp only [mirrorDir_eq_fwd, mirrorDir_eq_bwd]
  by_cases isFwd : direction = dirFwd
  · have other : ¬ direction = dirBwd := by
      rw [isFwd]
      decide
    rw [if_neg other, if_pos isFwd, if_pos isFwd]
  · rw [if_neg isFwd, if_neg isFwd]

section Calls

variable [Double D] (cfg : FeatureConfig) (info : PacketInfo)

theorem directionalStatsUpdate_mirror (stats : DirectionalRunningStats D) (direction : Nat)
    (value : D) : directionalStatsUpdate stats.mirror (mirrorDir direction) value =
      (directionalStatsUpdate stats direction value).mirror := by
  rw [directionalStatsUpdate, ite_mirrorDir, directionalStatsUpdate]
  split_ifs <;> rfl

theorem countersCall_mirror (state : CounterState) (payload : PayloadDirState D) :
    countersCall cfg info.mirror state.mirror payload.mirror =
      let result := countersCall cfg info state payload
      (result.1.mirror, result.2.1.mirror, result.2.2.map Access.mirror) := by
  refine Prod.ext ?_ (Prod.ext ?_ ?_)
  · simp only [countersCall_counters, PacketInfo.mirror, CounterState.mirror, mirrorDir_eq_fwd,
      mirrorDir_eq_bwd]
  · simp only [countersCall_payload, PacketInfo.mirror, ite_mirrorDir]
    split_ifs <;> rfl
  · simp only [countersCall_accesses, PacketInfo.mirror, ite_mirrorDir]
    split_ifs <;> rfl

theorem pktLenCall_mirror (state : PktLenState D) :
    pktLenCall cfg info.mirror state.mirror =
      ((pktLenCall cfg info state).1.mirror, (pktLenCall cfg info state).2.map Access.mirror) := by
  refine Prod.ext ?_ ?_
  · simp only [pktLenCall_state, PacketInfo.mirror, PktLenState.mirror,
      directionalStatsUpdate_mirror]
    split_ifs <;> rfl
  · show (calcPacketLengthStats cfg state.mirror (mirrorDir info.direction) info.pktLen).2 = _
    simp only [pktLenCall, calcPacketLengthStats, ite_mirrorDir]
    split_ifs <;> rfl

omit [Double D] in
theorem seqPushes_mirror : (seqPushes cfg info.mirror : List (Access D)) =
    (seqPushes cfg info).map Access.mirror := by
  simp only [seqPushes, PacketInfo.mirror, dirVal_mirrorDir]
  split_ifs <;> rfl

theorem iatCall_mirror (state : IatState D) : iatCall cfg info.mirror state.mirror =
    ((iatCall cfg info state).1.mirror, (iatCall cfg info state).2.map Access.mirror) := by
  by_cases first : state.lastArrivalUs = 0
  · have mirrored : state.mirror.lastArrivalUs = 0 := first
    rw [iatCall_first cfg info first, iatCall_first cfg info.mirror mirrored]
    rfl
  · have mirrored : state.mirror.lastArrivalUs ≠ 0 := first
    have direction_eq : info.mirror.direction = mirrorDir info.direction := rfl
    have tsUs_eq : info.mirror.tsUs = info.tsUs := rfl
    generalize info.mirror = other at direction_eq tsUs_eq ⊢
    have fwdSet : (cfg.needFwdBwdIats && decide (state.mirror.lastBwdUs > 0)) =
        (cfg.needFwdBwdIats && decide (state.lastFwdUs > 0)) := rfl
    have bwdSet : (cfg.needFwdBwdIats && decide (state.mirror.lastFwdUs > 0)) =
        (cfg.needFwdBwdIats && decide (state.lastBwdUs > 0)) := rfl
    rw [iatCall_later cfg info first, iatCall_later cfg other mirrored]
    simp only [direction_eq, tsUs_eq, mirrorDir_eq_fwd, mirrorDir_eq_bwd]
    -- a packet is recorded for at most one direction
    by_cases isFwd : info.direction = dirFwd
    · simp only [isFwd, dirFwd_ne_dirBwd, decide_true, decide_false, Bool.and_true, Bool.and_false,
        Bool.false_and, if_true, if_false, Bool.false_eq_true, List.nil_append]
      rw [fwdSet]
      cases cfg.needFwdBwdIats && decide (state.lastFwdUs > 0) <;> cases cfg.needIatSeq <;> rfl
    · by_cases isBwd : info.direction = dirBwd
      · simp only [isBwd, dirBwd_ne_dirFwd, decide_true, decide_false, Bool.and_true,
          Bool.and_false, Bool.false_and, if_true, if_false, Bool.false_eq_true, List.nil_append,
          List.append_nil]
        rw [bwdSet]
        cases cfg.needFwdBwdIats && decide (state.lastBwdUs > 0) <;> cases cfg.needIatSeq <;> rfl
      · simp only [isFwd, isBwd, decide_false, Bool.and_false, Bool.false_and, if_false,
          Bool.false_eq_true, List.nil_append]
        cases cfg.needIatSeq <;> rfl

theorem tcpCall_mirror (state : TcpState D) : tcpCall cfg info.mirror state.mirror =
    ((tcpCall cfg info state).1.mirror, (tcpCall cfg info state).2.map Access.mirror) := by
  unfold tcpCall
  simp only [PacketInfo.mirror]
  split
  · split
    · simp only [calcProtocolTcpUpdate, updateRetransmission, ite_mirrorDir]
      split_ifs <;> rfl
    · rfl
  · rfl

/-- The DATA branch does to the fields of a packet that goes the other way what it does to those
of the packet, but for the request that waits. -/
theorem dataFields_mirror (platform : Platform D) (fields : Fields D) (response : ResponseState) :
    dataFields cfg platform info.mirror (fields.mirror response) =
      (dataFields cfg platform info fields).mirror
        (responseCall (D := D) cfg info.mirror response).1 := by
  have counters := countersCall_mirror cfg info fields.counters fields.payloadDir
  have countersState := congrArg Prod.fst counters
  have payloadDir := congrArg (Prod.fst ∘ Prod.snd) counters
  have pktLen := congrArg Prod.fst (pktLenCall_mirror cfg info fields.pktLen)
  have iat := congrArg Prod.fst (iatCall_mirror cfg info fields.iat)
  have tcp := congrArg Prod.fst (tcpCall_mirror cfg info fields.tcp)
  unfold dataFields Fields.mirror
  rw [Fields.mk.injEq]
  exact ⟨rfl, countersState, tcp, rfl, pktLen, iat, rfl, rfl, payloadDir, rfl, rfl, rfl, rfl, rfl,
    rfl, rfl⟩

/-- The accesses of a packet before and after those of the response delay. -/
def dataAccessesBefore (platform : Platform D) (fields : Fields D) : List (Access D) :=
  (ipCall cfg info fields.ip).2 ++
  (countersCall cfg info fields.counters fields.payloadDir).2.2 ++
  (pktLenCall cfg info fields.pktLen).2 ++
  seqPushes cfg info ++
  (iatCall cfg info fields.iat).2 ++
  (tcpCall cfg info fields.tcp).2 ++
  (udpCall cfg info fields.udpLenStats).2 ++
  (payloadCall cfg info platform fields.payload).2 ++
  (burstCall cfg info fields.burst (burstIat info fields.iat)).2

theorem dataAccesses_split (platform : Platform D) (fields : Fields D) :
    dataAccesses cfg platform info fields =
      dataAccessesBefore cfg info platform fields ++ (responseCall cfg info fields.response).2 ++
        (windowCall cfg info fields.window).2 := rfl

omit [Double D] in
/-- An access that has nothing to do with directions is the same both ways. -/
theorem Access.mirror_eq {access : Access D} (notDir : access.target ≠ .ring .dirSeq)
    (notArray : ∀ dir, access.target ≠ .array dir) : access.mirror = access := by
  cases access with
  | push seq value =>
    cases seq with
    | dirSeq => exact absurd rfl notDir
    | _ => rfl
  | append dir value => exact absurd rfl (notArray dir)
  | _ => rfl

/-- The calls that have nothing to do with directions make the same accesses both ways. -/
theorem callAccesses_mirror (platform : Platform D) (fields : Fields D) {call : Call}
    (apart : call ∉ [.counters, .pktLen, .seqs, .iat]) :
    (callAccesses cfg platform info fields call).map Access.mirror =
      callAccesses cfg platform info fields call := by
  have own : ∀ access ∈ callAccesses cfg platform info fields call, access.target.call = call :=
    fun access member => call_of_mem_targets cfg platform info fields
      (List.mem_map_of_mem (f := Access.target) member)
  refine (List.map_congr_left fun access member => ?_).trans (List.map_id _)
  have owner := own access member
  refine Access.mirror_eq (fun same => ?_) fun dir same => ?_
  · rw [same] at owner
    exact apart (owner ▸ by decide)
  · rw [same] at owner
    refine apart (owner ▸ ?_)
    cases dir <;> decide

theorem dataAccessesBefore_mirror (platform : Platform D) (fields : Fields D)
    (response : ResponseState) :
    dataAccessesBefore cfg info.mirror platform (fields.mirror response) =
      (dataAccessesBefore cfg info platform fields).map Access.mirror := by
  have same : ∀ call, call ∉ [Call.counters, .pktLen, .seqs, .iat] →
      callAccesses cfg platform info fields call =
        (callAccesses cfg platform info fields call).map Access.mirror :=
    fun call apart => (callAccesses_mirror cfg info platform fields apart).symm
  simp only [dataAccessesBefore, List.map_append]
  refine congrArg₂ (· ++ ·) (congrArg₂ (· ++ ·) (congrArg₂ (· ++ ·) (congrArg₂ (· ++ ·)
    (congrArg₂ (· ++ ·) (congrArg₂ (· ++ ·) (congrArg₂ (· ++ ·) (congrArg₂ (· ++ ·)
      (same .ip (by decide)) ?_) ?_) (seqPushes_mirror cfg info)) ?_) ?_)
      (same .udp (by decide))) (same .payload (by decide))) (same .burst (by decide))
  · exact congrArg (Prod.snd ∘ Prod.snd)
      (countersCall_mirror cfg info fields.counters fields.payloadDir)
  · exact congrArg Prod.snd (pktLenCall_mirror cfg info fields.pktLen)
  · exact congrArg Prod.snd (iatCall_mirror cfg info fields.iat)
  · exact congrArg Prod.snd (tcpCall_mirror cfg info fields.tcp)

end Calls

/-! ### The values held -/

/-- The bytes of directions. -/
def dirBytes : List Nat := [0, 1, 255]

/-- The values of a flow whose packets go the other way. The response delays may be others. -/
structure FlowContents.Mirrored (contents other : FlowContents D) : Prop where
  dirs : other.seqs .dirSeq = (contents.seqs .dirSeq).map mirrorByte
  bytes : ∀ byte ∈ contents.seqs .dirSeq, byte ∈ dirBytes
  seqs : ∀ seq, seq ≠ .dirSeq → other.seqs seq = contents.seqs seq
  arrays : ∀ array, other.arrays array.mirror = contents.arrays array
  firstNLens : other.firstNLens = contents.firstNLens

theorem stored_dirByte : ∀ byte ∈ dirBytes, SeqId.stored .dirSeq byte = byte := by decide

theorem stored_mirrorByte :
    ∀ byte ∈ dirBytes, SeqId.stored .dirSeq (mirrorByte byte) = mirrorByte byte := by decide

theorem ArrayId.stored_mirror (array : ArrayId) (value : Nat) :
    array.mirror.stored value = array.stored value := by
  cases array <;> rfl

theorem DirArray.arrayId_mirror (dir : DirArray) : dir.mirror.arrayId = dir.arrayId.mirror := by
  cases dir <;> rfl

theorem ArrayId.mirror_eq_iff {first second : ArrayId} :
    first.mirror = second.mirror ↔ first = second := by
  constructor
  · intro same
    cases first <;> cases second <;> first | rfl | cases same
  · exact congrArg _

/-- An access that pushes a direction, if it pushes one. -/
def Access.Signed (access : Access D) : Prop :=
  ∀ value, access = .push .dirSeq value → value ∈ dirBytes

namespace FlowContents.Mirrored

variable {contents other : FlowContents D}

theorem access (mirrored : Mirrored contents other) {access : Access D} (signed : access.Signed)
    (seqLen firstNCapacity : Nat) :
    Mirrored (contents.access seqLen firstNCapacity access)
      (other.access seqLen firstNCapacity access.mirror) := by
  cases access with
  | push seq value =>
    by_cases isDir : seq = .dirSeq
    · subst isDir
      have byte := signed value rfl
      refine ⟨?_, fun held member => ?_, fun seq apart => ?_, mirrored.arrays,
        mirrored.firstNLens⟩
      · simp only [FlowContents.access, Access.mirror, Function.update_self]
        rw [mirrored.dirs, stored_dirByte value byte, stored_mirrorByte value byte, map_slide]
      · simp only [FlowContents.access, Function.update_self, stored_dirByte value byte] at member
        rcases List.mem_append.mp (List.mem_of_mem_drop member) with older | newest
        · exact mirrored.bytes held older
        · exact List.mem_singleton.mp newest ▸ byte
      · simp only [FlowContents.access, Access.mirror, Function.update_of_ne apart]
        exact mirrored.seqs seq apart
    · have same : Access.mirror (.push seq value : Access D) = .push seq value := by
        cases seq <;> first | exact absurd rfl isDir | rfl
      rw [same]
      refine ⟨?_, ?_, fun changed apart => ?_, mirrored.arrays, mirrored.firstNLens⟩
      · simp only [FlowContents.access, Function.update_of_ne (Ne.symm isDir)]
        exact mirrored.dirs
      · simp only [FlowContents.access, Function.update_of_ne (Ne.symm isDir)]
        exact mirrored.bytes
      · simp only [FlowContents.access, Function.update_apply, mirrored.seqs changed apart,
          mirrored.seqs seq isDir]
  | append dir value =>
    refine ⟨mirrored.dirs, mirrored.bytes, mirrored.seqs, fun array => ?_, mirrored.firstNLens⟩
    have held := mirrored.arrays dir.arrayId
    simp only [FlowContents.access, Access.mirror, Function.update_apply, dir.arrayId_mirror,
      ArrayId.stored_mirror, ArrayId.mirror_eq_iff, held, mirrored.arrays array]
  | appendFirstN pktLen =>
    refine ⟨mirrored.dirs, mirrored.bytes, mirrored.seqs, mirrored.arrays, ?_⟩
    simp only [FlowContents.access, Access.mirror, mirrored.firstNLens]
  | recordBurst byteCount duration pktCount interval =>
    have sizes : other.arrays .burstSizes = contents.arrays .burstSizes :=
      mirrored.arrays .burstSizes
    simp only [FlowContents.access, Access.mirror, FlowContents.recordBurst, sizes]
    split
    · refine ⟨mirrored.dirs, mirrored.bytes, mirrored.seqs, fun array => ?_, mirrored.firstNLens⟩
      have held := mirrored.arrays array
      cases array <;> simp only [ArrayId.mirror] at held ⊢ <;> simp only [held]
    · exact mirrored
  | appendRespDelay value =>
    exact ⟨mirrored.dirs, mirrored.bytes, mirrored.seqs, mirrored.arrays, mirrored.firstNLens⟩
  | setWindowBitrate window windowSizeUs =>
    have bitrate : other.arrays .windowBitrate = contents.arrays .windowBitrate :=
      mirrored.arrays .windowBitrate
    have byteCounts : other.arrays .windowByteCounts = contents.arrays .windowByteCounts :=
      mirrored.arrays .windowByteCounts
    refine ⟨mirrored.dirs, mirrored.bytes, mirrored.seqs, fun array => ?_, mirrored.firstNLens⟩
    have fixed : array.mirror = ArrayId.windowBitrate.mirror ↔ array = .windowBitrate :=
      ArrayId.mirror_eq_iff
    rw [show ArrayId.windowBitrate.mirror = .windowBitrate from rfl] at fixed
    simp only [FlowContents.access, Access.mirror, Function.update_apply, fixed, bitrate,
      byteCounts, mirrored.arrays array]
  | countWindow window pktLen =>
    refine ⟨mirrored.dirs, mirrored.bytes, mirrored.seqs, fun array => ?_, mirrored.firstNLens⟩
    have held := mirrored.arrays array
    cases array <;> simp only [FlowContents.access, Access.mirror, ArrayId.mirror] at held ⊢ <;>
      simp only [held]

theorem accesses (mirrored : Mirrored contents other) {accesses : List (Access D)}
    (signed : ∀ access ∈ accesses, access.Signed) (seqLen firstNCapacity : Nat) :
    Mirrored (accesses.foldl (FlowContents.access seqLen firstNCapacity) contents)
      ((accesses.map Access.mirror).foldl (FlowContents.access seqLen firstNCapacity) other) := by
  induction accesses generalizing contents other with
  | nil => exact mirrored
  | cons access rest inductionHypothesis =>
    exact inductionHypothesis (mirrored.access (signed access List.mem_cons_self) _ _)
      fun later member => signed later (List.mem_cons_of_mem _ member)

theorem rebound (mirrored : Mirrored contents other) (snapshot : SeqId → Bool) :
    Mirrored (contents.rebound snapshot) (other.rebound snapshot) := by
  refine ⟨?_, ?_, fun seq apart => ?_, mirrored.arrays, mirrored.firstNLens⟩
  · simp only [FlowContents.rebound]
    split
    · exact mirrored.dirs
    · rfl
  · simp only [FlowContents.rebound]
    split
    · exact mirrored.bytes
    · exact List.forall_mem_nil _
  · simp only [FlowContents.rebound, mirrored.seqs seq apart]

/-- The response delays do not matter. -/
theorem respDelays (mirrored : Mirrored contents other) {values otherValues : List D} :
    Mirrored { contents with respDelays := values } { other with respDelays := otherValues } :=
  ⟨mirrored.dirs, mirrored.bytes, mirrored.seqs, mirrored.arrays, mirrored.firstNLens⟩

end FlowContents.Mirrored

/-! ### Flows -/

section Flows

variable [Double D] (cfg : FeatureConfig) (info : PacketInfo)

/-- The response call writes response delays only. -/
theorem foldl_responseCall (state : ResponseState) (contents : FlowContents D)
    (seqLen firstNCapacity : Nat) :
    ∃ values, (responseCall cfg info state).2.foldl
      (FlowContents.access seqLen firstNCapacity) contents =
        { contents with respDelays := values } := by
  simp only [responseCall, calcResponseDelay]
  split_ifs
  · exact ⟨contents.respDelays, rfl⟩
  · exact ⟨fill poolRespDelayCapacity contents.respDelays _, rfl⟩
  · exact ⟨contents.respDelays, rfl⟩
  · exact ⟨contents.respDelays, rfl⟩

theorem dataAccesses_signed (platform : Platform D) (fields : Fields D) :
    ∀ access ∈ dataAccesses cfg platform info fields, access.Signed := by
  rintro access member value rfl
  rw [dataAccesses_eq] at member
  obtain ⟨call, -, inside⟩ := List.mem_flatMap.mp member
  obtain rfl : Call.seqs = call := call_of_mem_targets cfg platform info fields
    (List.mem_map_of_mem (f := Access.target) inside)
  have pushed : value = dirVal info.direction := by
    simp only [callAccesses, seqPushes, List.mem_append] at inside
    rcases inside with (inside | inside) | inside <;> split at inside <;> simp_all
  rw [pushed, dirVal]
  split_ifs <;> decide

/-- A flow beside one whose packets go the other way. -/
def mirrorLockstep (platform : Platform D) (streamType : StreamType) :
    Lockstep cfg platform streamType where
  packets packet other := other = packet.mirror
  fields first second := ∃ response, second = first.mirror response
  contents := FlowContents.Mirrored
  start := by
    rintro packet other rfl
    exact ⟨⟨0⟩, rfl⟩
  empty := by
    refine ⟨rfl, List.forall_mem_nil _, fun _ _ => rfl, fun array => ?_, rfl⟩
    cases array <;> rfl
  data := by
    rintro packet other rfl first second ⟨response, rfl⟩
    exact ⟨_, dataFields_mirror cfg (packetInfo cfg streamType packet) platform first response⟩
  accesses := by
    rintro packet other rfl first second ⟨response, rfl⟩ held otherHeld mirrored seqLen
      firstNCapacity
    show FlowContents.Mirrored _
      ((dataAccesses cfg platform (packetInfo cfg streamType packet).mirror _).foldl _ _)
    generalize packetInfo cfg streamType packet = info
    have signed := dataAccesses_signed cfg info platform first
    rw [dataAccesses_split] at signed
    rw [dataAccesses_split, dataAccesses_split, dataAccessesBefore_mirror, List.foldl_append,
      List.foldl_append, List.foldl_append, List.foldl_append]
    have before := mirrored.accesses (fun access member => signed access
      (List.mem_append_left _ (List.mem_append_left _ member))) seqLen firstNCapacity
    obtain ⟨values, values_eq⟩ := foldl_responseCall cfg info first.response
      ((dataAccessesBefore cfg info platform first).foldl
        (FlowContents.access seqLen firstNCapacity) held) seqLen firstNCapacity
    obtain ⟨otherValues, otherValues_eq⟩ := foldl_responseCall cfg info.mirror response
      (((dataAccessesBefore cfg info platform first).map Access.mirror).foldl
        (FlowContents.access seqLen firstNCapacity) otherHeld) seqLen firstNCapacity
    have windowSame : (windowCall cfg info first.window).2.map Access.mirror =
        (windowCall (D := D) cfg info.mirror first.window).2 :=
      callAccesses_mirror cfg info platform first (show Call.window ∉ _ by decide)
    have response_eq : (first.mirror response).response = response := rfl
    have window_eq : (first.mirror response).window = first.window := rfl
    rw [response_eq, window_eq, values_eq, otherValues_eq, ← windowSame]
    exact before.respDelays.accesses
      (fun access member => signed access (List.mem_append_right _ member)) seqLen firstNCapacity
  rebound mirrored := mirrored.rebound

end Flows

end TiFeatures
