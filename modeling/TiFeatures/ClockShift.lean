/-
This file moves all packets of a flow to a later time. Times are used through their
differences, through their order and through being set at all, so nothing that is
written out when the flow closes changes but the creation time of the stream, which
the platform gives, and the two features that the duration of the first burst
enters, which starts at the zero of the clock.
-/

import TiFeatures.Lockstep
import TiFeatures.Schema

namespace TiFeatures

open BoundedStore

variable {D : Type}

/-! ### Later times -/

/-- A time that is kept, zero where none is. -/
def laterTime (delay time : Nat) : Nat := if time = 0 then 0 else time + delay

theorem laterTime_of_pos {time : Nat} (positive : 0 < time) (delay : Nat) :
    laterTime delay time = time + delay := if_neg positive.ne'

theorem laterTime_eq_zero (delay time : Nat) : laterTime delay time = 0 ↔ time = 0 := by
  unfold laterTime
  split <;> omega

theorem laterTime_pos (delay time : Nat) : 0 < laterTime delay time ↔ 0 < time := by
  rw [Nat.pos_iff_ne_zero, Nat.pos_iff_ne_zero, ne_eq, laterTime_eq_zero]

/-- A difference of times does not change. -/
theorem u64Sub_later (first second delay : Nat) :
    u64Sub (first + delay) (second + delay) = u64Sub first second := by
  unfold u64Sub
  omega

theorem u64Sub_laterTime {second : Nat} (positive : 0 < second) (first delay : Nat) :
    u64Sub (first + delay) (laterTime delay second) = u64Sub first second := by
  rw [laterTime_of_pos positive, u64Sub_later]

/-- A packet at a later time. -/
def PacketInfo.later (delay : Nat) (info : PacketInfo) : PacketInfo :=
  { info with tsUs := info.tsUs + delay }

def ClockState.later (delay : Nat) (state : ClockState) : ClockState :=
  ⟨laterTime delay state.flowStartUs, laterTime delay state.lastPktUs⟩

def TcpState.later (delay : Nat) (state : TcpState D) : TcpState D :=
  { state with lastRstTs := laterTime delay state.lastRstTs }

def IatState.later (delay : Nat) (state : IatState D) : IatState D :=
  { state with
    lastFwdUs := laterTime delay state.lastFwdUs
    lastBwdUs := laterTime delay state.lastBwdUs
    lastArrivalUs := laterTime delay state.lastArrivalUs }

def WindowState.later (delay : Nat) (state : WindowState) : WindowState :=
  { state with windowStartUs := laterTime delay state.windowStartUs }

def BurstState.later (delay : Nat) (state : BurstState) : BurstState :=
  { state with burstStartUs := laterTime delay state.burstStartUs }

def ResponseState.later (delay : Nat) (state : ResponseState) : ResponseState :=
  ⟨laterTime delay state.lastReqTs⟩

/-- The fields of a flow whose packets come later. -/
def Fields.later (delay : Nat) (fields : Fields D) : Fields D :=
  { fields with
    clock := fields.clock.later delay
    tcp := fields.tcp.later delay
    iat := fields.iat.later delay
    window := fields.window.later delay
    burst := fields.burst.later delay
    response := fields.response.later delay }

/-- The same access for a later packet: the time is a later one, and a burst may have another
duration. -/
def Access.Later (delay : Nat) : Access D → Access D → Prop
  | .push .tsSeq time, other => other = .push .tsSeq (time + delay)
  | .recordBurst byteCount _ pktCount interval, other =>
    ∃ duration, other = .recordBurst byteCount duration pktCount interval
  | access, other => other = access

theorem Access.later_refl {access : Access D} (other : access.target ≠ .ring .tsSeq)
    (delay : Nat) : access.Later delay access := by
  cases access with
  | push seq value =>
    cases seq with
    | tsSeq => exact absurd rfl other
    | _ => rfl
  | recordBurst byteCount duration pktCount interval => exact ⟨duration, rfl⟩
  | _ => rfl

theorem forall₂_later_refl {accesses : List (Access D)}
    (other : ∀ access ∈ accesses, access.target ≠ .ring .tsSeq) (delay : Nat) :
    List.Forall₂ (Access.Later delay) accesses accesses :=
  List.forall₂_same.mpr fun access member => Access.later_refl (other access member) delay

/-! ### Calls at later times -/

section Calls

variable [Double D] (cfg : FeatureConfig) (info : PacketInfo) (delay : Nat)

omit [Double D] in
theorem burstIat_atLater (state : IatState D) :
    burstIat (info.later delay) (state.later delay) = burstIat info state := by
  by_cases set : state.lastArrivalUs > 0
  · simp only [burstIat, PacketInfo.later, IatState.later, gt_iff_lt, laterTime_pos, if_pos set,
      u64Sub_laterTime set]
  · simp only [burstIat, PacketInfo.later, IatState.later, gt_iff_lt, laterTime_pos, if_neg set]

theorem iatCall_atLater (positive : 0 < info.tsUs) (state : IatState D) :
    iatCall cfg (info.later delay) (state.later delay) =
      ((iatCall cfg info state).1.later delay, (iatCall cfg info state).2) := by
  by_cases first : state.lastArrivalUs = 0
  · rw [iatCall_first cfg info first, iatCall_first cfg _ ((laterTime_eq_zero delay _).mpr first)]
    simp only [IatState.later, PacketInfo.later, laterTime_of_pos positive]
  · have arrival : u64Sub (info.tsUs + delay) (laterTime delay state.lastArrivalUs) =
        u64Sub info.tsUs state.lastArrivalUs := u64Sub_laterTime (Nat.pos_of_ne_zero first) _ _
    have gap : ∀ last, last > 0 → u64Sub (info.tsUs + delay) (laterTime delay last) =
        u64Sub info.tsUs last := fun last set => u64Sub_laterTime set _ _
    have recorded : ∀ {Value : Type} (dir last : Nat) (value : Nat → Value) (other : Value),
        (if cfg.needFwdBwdIats && decide (info.direction = dir) && decide (last > 0) then
          value (u64Sub (info.tsUs + delay) (laterTime delay last)) else other) =
        if cfg.needFwdBwdIats && decide (info.direction = dir) && decide (last > 0) then
          value (u64Sub info.tsUs last) else other := by
      intro Value dir last value other
      by_cases set : last > 0
      · rw [gap last set]
      · simp only [set, decide_false, Bool.and_false, Bool.false_eq_true, if_false]
    have times : ∀ dir last, (if info.direction = dir then info.tsUs + delay
        else laterTime delay last) =
          laterTime delay (if info.direction = dir then info.tsUs else last) := by
      intro dir last
      split
      · exact (laterTime_of_pos positive delay).symm
      · rfl
    rw [iatCall_later cfg info first, iatCall_later cfg _
      (mt (laterTime_eq_zero delay _).mp first)]
    simp only [IatState.later, PacketInfo.later, gt_iff_lt, laterTime_pos] at *
    simp only [arrival, laterTime_of_pos positive]
    refine Prod.ext ?_ ?_
    · dsimp only
      congr 1
      · exact times dirFwd _
      · exact times dirBwd _
      · exact recorded dirFwd _
          (fun gap => { state.fwdIat with fwd := runningStatsUpdate state.fwdIat.fwd (gap : D) }) _
      · exact recorded dirBwd _
          (fun gap => { state.bwdIat with bwd := runningStatsUpdate state.bwdIat.bwd (gap : D) }) _
    · dsimp only
      congr 1
      exact congrArg₂ (· ++ ·) (recorded dirFwd _ (fun gap => [Access.append .fwdIats gap]) [])
        (recorded dirBwd _ (fun gap => [Access.append .bwdIats gap]) [])

omit [Double D] in
/-- The intervals between resets, if the last one is kept at a later time. -/
theorem updateRst_interval {tsUs : Nat} {state other : TcpState D}
    (last : other.lastRstTs = laterTime delay state.lastRstTs)
    (sum : other.rstIntervalSumUs = state.rstIntervalSumUs)
    (count : other.rstIntervalCount = state.rstIntervalCount) :
    (updateRst other (tsUs + delay)).rstIntervalSumUs = (updateRst state tsUs).rstIntervalSumUs ∧
      (updateRst other (tsUs + delay)).rstIntervalCount =
        (updateRst state tsUs).rstIntervalCount := by
  simp only [updateRst, last, sum, count]
  by_cases set : state.lastRstTs > 0
  · have later : (tsUs + delay > state.lastRstTs + delay) = (tsUs > state.lastRstTs) :=
      propext (Nat.add_lt_add_iff_right)
    simp only [laterTime_of_pos set, Nat.add_sub_add_right, decide_eq_true set,
      decide_eq_true (Nat.add_pos_left set delay), later, and_self]
  · have unset : ¬ laterTime delay state.lastRstTs > 0 := mt (laterTime_pos delay _).mp set
    simp only [decide_eq_false set, decide_eq_false unset, Bool.false_and, Bool.false_eq_true,
      if_false, countIf, and_self]

omit [Double D] in
/-- A state with the time of the last reset moved, and the rest as it is. -/
theorem TcpState.eq_later {state other : TcpState D}
    (same : { other with lastRstTs := 0, rstIntervalSumUs := 0, rstIntervalCount := 0 } =
      { state with lastRstTs := 0, rstIntervalSumUs := 0, rstIntervalCount := 0 })
    (last : other.lastRstTs = laterTime delay state.lastRstTs)
    (interval : other.rstIntervalSumUs = state.rstIntervalSumUs ∧
      other.rstIntervalCount = state.rstIntervalCount) : other = state.later delay := by
  obtain ⟨sum, count⟩ := interval
  cases state
  cases other
  simp only [TcpState.mk.injEq, TcpState.later] at same last sum count ⊢
  simp only [same, last, sum, count, and_self]

theorem calcProtocolTcpUpdate_atLater {tsUs : Nat} (positive : 0 < tsUs) (state : TcpState D)
    (tcph : TcpHeader) (payloadLen window direction tcpSeq : Nat) :
    calcProtocolTcpUpdate (state.later delay) tcph payloadLen window direction tcpSeq
        (tsUs + delay) =
      let result := calcProtocolTcpUpdate state tcph payloadLen window direction tcpSeq tsUs
      (result.1.later delay, result.2) := by
  have last := (laterTime_of_pos positive delay).symm
  simp only [calcProtocolTcpUpdate, updateRetransmission]
  refine Prod.ext ?_ rfl
  by_cases rst : tcph.rst = true
  · simp only [if_pos rst]
    split_ifs <;> exact TcpState.eq_later delay rfl last (updateRst_interval delay rfl rfl rfl)
  · simp only [if_neg rst]
    split_ifs <;> rfl

theorem tcpCall_atLater (positive : 0 < info.tsUs) (state : TcpState D) :
    tcpCall cfg (info.later delay) (state.later delay) =
      ((tcpCall cfg info state).1.later delay, (tcpCall cfg info state).2) := by
  simp only [tcpCall, PacketInfo.later]
  split
  · split
    · exact calcProtocolTcpUpdate_atLater delay positive state _ _ _ _ _
    · rfl
  · rfl

theorem responseCall_atLater (positive : 0 < info.tsUs) (state : ResponseState) :
    responseCall (D := D) cfg (info.later delay) (state.later delay) =
      ((responseCall (D := D) cfg info state).1.later delay,
        (responseCall cfg info state).2) := by
  by_cases set : state.lastReqTs > 0
  · simp only [responseCall, calcResponseDelay, PacketInfo.later, ResponseState.later, gt_iff_lt,
      laterTime_pos, u64Sub_laterTime set]
    split_ifs
    · rw [laterTime_of_pos positive]
    · rfl
    · rfl
    · rfl
  · simp only [responseCall, calcResponseDelay, PacketInfo.later, ResponseState.later, gt_iff_lt,
      laterTime_pos, set, and_false, if_false]
    split_ifs <;> simp only [laterTime_of_pos positive]

theorem started_atLater {tsUs : Nat} (positive : 0 < tsUs) (state : WindowState) :
    (state.later delay).started (tsUs + delay) = (state.started tsUs).later delay ∧
      0 < (state.started tsUs).windowStartUs := by
  unfold WindowState.started
  by_cases set : state.windowStartUs = 0
  · have unset : (state.later delay).windowStartUs = 0 := (laterTime_eq_zero delay _).mpr set
    rw [if_pos set, if_pos unset]
    refine ⟨?_, positive⟩
    simp only [WindowState.later, laterTime_of_pos positive]
  · have later : ¬ (state.later delay).windowStartUs = 0 := mt (laterTime_eq_zero delay _).mp set
    rw [if_neg set, if_neg later]
    exact ⟨rfl, Nat.pos_of_ne_zero set⟩

omit [Double D] in
theorem windowCall_atLater (positive : 0 < info.tsUs) (state : WindowState) :
    windowCall (D := D) cfg (info.later delay) (state.later delay) =
      ((windowCall (D := D) cfg info state).1.later delay, (windowCall cfg info state).2) := by
  obtain ⟨started_eq, start⟩ := started_atLater delay positive state
  have elapsed : u64Sub (info.tsUs + delay) ((state.started info.tsUs).later delay).windowStartUs =
      u64Sub info.tsUs (state.started info.tsUs).windowStartUs := u64Sub_laterTime start _ _
  have size : (state.later delay).windowSizeMs = state.windowSizeMs := rfl
  have windows : ((state.started info.tsUs).later delay).numWindows =
      (state.started info.tsUs).numWindows := rfl
  simp only [windowCall, calcWindowUpdate, PacketInfo.later, started_eq, elapsed, size, windows]
  split_ifs <;> rfl

omit [Double D] in
theorem burstCall_atLater (positive : 0 < info.tsUs) (state : BurstState) (iatUs : Nat) :
    (burstCall (D := D) cfg (info.later delay) (state.later delay) iatUs).1 =
        (burstCall (D := D) cfg info state iatUs).1.later delay ∧
      List.Forall₂ (Access.Later delay) (burstCall (D := D) cfg info state iatUs).2
        (burstCall cfg (info.later delay) (state.later delay) iatUs).2 := by
  obtain ⟨start, byteCount, pktCount⟩ := state
  have later : BurstState.later delay ⟨start, byteCount, pktCount⟩ =
      ⟨laterTime delay start, byteCount, pktCount⟩ := rfl
  rw [later]
  simp only [burstCall, calcBurstUpdate, PacketInfo.later]
  by_cases on : cfg.enableBurst = true
  · by_cases inside : iatUs ≤ cfg.burstIatThresholdUs
    · rw [if_pos on, if_pos on, if_pos inside, if_pos inside]
      exact ⟨rfl, .nil⟩
    · rw [if_pos on, if_pos on, if_neg inside, if_neg inside]
      refine ⟨?_, ?_⟩
      · rw [BurstState.later, laterTime_of_pos positive]
      · by_cases more : pktCount > 1
        · rw [if_pos more, if_pos more]
          exact .cons ⟨_, rfl⟩ .nil
        · rw [if_neg more, if_neg more]
          exact .nil
  · rw [if_neg on, if_neg on]
    exact ⟨rfl, .nil⟩

omit [Double D] in
theorem seqPushes_atLater : List.Forall₂ (Access.Later (D := D) delay) (seqPushes cfg info)
    (seqPushes cfg (info.later delay)) := by
  simp only [seqPushes, PacketInfo.later]
  refine List.rel_append (List.rel_append ?_ ?_) ?_
  · split
    · exact .cons rfl .nil
    · exact .nil
  · split
    · exact .cons rfl .nil
    · exact .nil
  · split
    · exact .cons rfl (.cons rfl (.cons rfl .nil))
    · exact .nil

/-- The DATA branch does to the fields of a later packet what it does to those of the packet. -/
theorem dataFields_atLater (platform : Platform D) (positive : 0 < info.tsUs)
    (fields : Fields D) :
    dataFields cfg platform (info.later delay) (fields.later delay) =
      (dataFields cfg platform info fields).later delay := by
  have clock : (⟨laterTime delay fields.clock.flowStartUs, info.tsUs + delay⟩ : ClockState) =
      ⟨laterTime delay fields.clock.flowStartUs, laterTime delay info.tsUs⟩ := by
    rw [laterTime_of_pos positive]
  have tcp := congrArg Prod.fst (tcpCall_atLater cfg info delay positive fields.tcp)
  have iat := congrArg Prod.fst (iatCall_atLater cfg info delay positive fields.iat)
  have window := congrArg Prod.fst (windowCall_atLater (D := D) cfg info delay positive
    fields.window)
  have burst := (burstCall_atLater (D := D) cfg info delay positive fields.burst
    (burstIat info fields.iat)).1
  have response := congrArg Prod.fst (responseCall_atLater (D := D) cfg info delay positive
    fields.response)
  unfold dataFields Fields.later
  rw [Fields.mk.injEq]
  refine ⟨clock, rfl, tcp, rfl, rfl, iat, rfl, rfl, rfl, rfl, rfl, window, ?_, response, rfl,
    rfl⟩
  refine Eq.trans ?_ burst
  rw [burstIat_atLater]

/-- The accesses for a later packet. -/
theorem dataAccesses_atLater (platform : Platform D) (positive : 0 < info.tsUs)
    (fields : Fields D) :
    List.Forall₂ (Access.Later delay) (dataAccesses cfg platform info fields)
      (dataAccesses cfg platform (info.later delay) (fields.later delay)) := by
  have kept : ∀ call, call ≠ .seqs →
      ∀ access ∈ callAccesses cfg platform info fields call, access.target ≠ .ring .tsSeq := by
    intro call different access member same
    refine different ?_
    have inTargets : Target.ring .tsSeq ∈ targets (callAccesses cfg platform info fields call) :=
      same ▸ List.mem_map_of_mem member
    exact (call_of_mem_targets cfg platform info fields inTargets).symm
  have same : ∀ call, call ≠ .seqs →
      List.Forall₂ (Access.Later delay) (callAccesses cfg platform info fields call)
        (callAccesses cfg platform info fields call) :=
    fun call different => forall₂_later_refl (kept call different) delay
  have started : burstIat (info.later delay) (fields.later delay).iat =
      burstIat info fields.iat := burstIat_atLater info delay fields.iat
  rw [dataAccesses, dataAccesses, started]
  refine List.rel_append (List.rel_append (List.rel_append (List.rel_append (List.rel_append
    (List.rel_append (List.rel_append (List.rel_append (List.rel_append (List.rel_append
      (same .ip (by decide)) (same .counters (by decide))) (same .pktLen (by decide)))
      (seqPushes_atLater cfg info delay)) ?_) ?_) (same .udp (by decide)))
      (same .payload (by decide))) ?_) ?_) ?_
  · have calls := congrArg Prod.snd (iatCall_atLater cfg info delay positive fields.iat)
    exact (congrArg _ calls).mpr (same .iat (by decide))
  · have calls := congrArg Prod.snd (tcpCall_atLater cfg info delay positive fields.tcp)
    exact (congrArg _ calls).mpr (same .tcp (by decide))
  · exact (burstCall_atLater cfg info delay positive fields.burst _).2
  · have calls := congrArg Prod.snd (responseCall_atLater (D := D) cfg info delay positive
      fields.response)
    exact (congrArg _ calls).mpr (same .response (by decide))
  · have calls := congrArg Prod.snd (windowCall_atLater (D := D) cfg info delay positive
      fields.window)
    exact (congrArg _ calls).mpr (same .window (by decide))

end Calls

/-! ### The values held -/

/-- The values of a flow whose packets come later: the times are later ones, and the durations of
the bursts may be others. -/
structure FlowContents.Later (delay : Nat) (contents other : FlowContents D) : Prop where
  times : other.seqs .tsSeq = (contents.seqs .tsSeq).map fun time => u64 (time + delay)
  seqs : ∀ seq, seq ≠ .tsSeq → other.seqs seq = contents.seqs seq
  arrays : ∀ array, array ≠ .burstDurations → other.arrays array = contents.arrays array
  respDelays : other.respDelays = contents.respDelays
  firstNLens : other.firstNLens = contents.firstNLens

namespace FlowContents.Later

variable {delay : Nat} {contents other : FlowContents D}

/-- A later time as an element of the sequence keeps it. -/
theorem stored_tsSeq (time delay : Nat) :
    SeqId.stored .tsSeq (time + delay) = u64 (SeqId.stored .tsSeq time + delay) := by
  change (time + delay) % 2 ^ 64 = (time % 2 ^ 64 + delay) % 2 ^ 64
  omega

theorem access (later : Later delay contents other) {one another : Access D}
    (same : one.Later delay another) (seqLen firstNCapacity : Nat) :
    Later delay (contents.access seqLen firstNCapacity one)
      (other.access seqLen firstNCapacity another) := by
  cases one with
  | push seq value =>
    by_cases isTime : seq = .tsSeq
    · subst isTime
      obtain rfl : another = .push .tsSeq (value + delay) := same
      refine ⟨?_, fun seq apart => ?_, later.arrays, later.respDelays, later.firstNLens⟩
      · simp only [FlowContents.access, Function.update_self]
        rw [later.times, stored_tsSeq, map_slide]
      · simp only [FlowContents.access, Function.update_of_ne apart]
        exact later.seqs seq apart
    · obtain rfl : another = .push seq value := by
        cases seq <;> first | exact absurd rfl isTime | exact same
      refine ⟨?_, fun changed apart => ?_, later.arrays, later.respDelays, later.firstNLens⟩
      · simp only [FlowContents.access, Function.update_of_ne (Ne.symm isTime)]
        exact later.times
      · simp only [FlowContents.access, Function.update_apply, later.seqs changed apart,
          later.seqs seq isTime]
  | append dir value =>
    obtain rfl : another = .append dir value := same
    refine ⟨later.times, later.seqs, fun array apart => ?_, later.respDelays, later.firstNLens⟩
    have stored := later.arrays dir.arrayId (by cases dir <;> decide)
    simp only [FlowContents.access, Function.update_apply, later.arrays array apart, stored]
  | appendFirstN pktLen =>
    obtain rfl : another = .appendFirstN pktLen := same
    refine ⟨later.times, later.seqs, later.arrays, later.respDelays, ?_⟩
    simp only [FlowContents.access, later.firstNLens]
  | recordBurst byteCount duration pktCount interval =>
    obtain ⟨laterDuration, rfl⟩ := same
    simp only [FlowContents.access, FlowContents.recordBurst, later.arrays .burstSizes (by decide)]
    split
    · refine ⟨later.times, later.seqs, fun array apart => ?_, later.respDelays,
        later.firstNLens⟩
      have kept := later.arrays array apart
      cases array <;> first | exact absurd rfl apart | simp only [kept]
    · exact later
  | appendRespDelay value =>
    obtain rfl : another = .appendRespDelay value := same
    refine ⟨later.times, later.seqs, later.arrays, ?_, later.firstNLens⟩
    simp only [FlowContents.access, later.respDelays]
  | setWindowBitrate window windowSizeUs =>
    obtain rfl : another = .setWindowBitrate window windowSizeUs := same
    refine ⟨later.times, later.seqs, fun array apart => ?_, later.respDelays, later.firstNLens⟩
    simp only [FlowContents.access, Function.update_apply, later.arrays array apart,
      later.arrays .windowBitrate (by decide), later.arrays .windowByteCounts (by decide)]
  | countWindow window pktLen =>
    obtain rfl : another = .countWindow window pktLen := same
    refine ⟨later.times, later.seqs, fun array apart => ?_, later.respDelays, later.firstNLens⟩
    have kept := later.arrays array apart
    cases array <;> simp only [FlowContents.access, kept]

theorem accesses (later : Later delay contents other) {ones others : List (Access D)}
    (same : List.Forall₂ (Access.Later delay) ones others) (seqLen firstNCapacity : Nat) :
    Later delay (ones.foldl (FlowContents.access seqLen firstNCapacity) contents)
      (others.foldl (FlowContents.access seqLen firstNCapacity) other) := by
  induction same generalizing contents other with
  | nil => exact later
  | cons one _ inductionHypothesis =>
    exact inductionHypothesis (later.access one seqLen firstNCapacity)

theorem rebound (later : Later delay contents other) (snapshot : SeqId → Bool) :
    Later delay (contents.rebound snapshot) (other.rebound snapshot) := by
  refine ⟨?_, fun seq apart => ?_, later.arrays, later.respDelays, later.firstNLens⟩
  · simp only [FlowContents.rebound]
    split
    · exact later.times
    · rfl
  · simp only [FlowContents.rebound, later.seqs seq apart]

end FlowContents.Later

/-! ### Flows -/

section Flows

variable [Double D] {cfg : FeatureConfig} {delay : Nat} {state other : FlowFeatureState D}

/-- A packet without its clocks and the creation time of its stream. -/
def RawPacket.unclocked (packet : RawPacket) : RawPacket :=
  { packet with
    tvSec := 0
    tvUsec := 0
    platformMs := 0
    detail := packet.detail.map fun detail => { detail with createtime := 0 } }

/-- The same packet at a later time. The time is set, and the later one fits in 64 bits. -/
structure LaterPacket (cfg : FeatureConfig) (delay : Nat) (packet other : RawPacket) : Prop where
  positive : 0 < packetTsUs cfg packet
  tsUs_eq : packetTsUs cfg other = packetTsUs cfg packet + delay
  packet_eq : other.unclocked = packet.unclocked

omit [Double D] in
theorem LaterPacket.info_eq {packet other : RawPacket} (later : LaterPacket cfg delay packet other)
    (streamType : StreamType) :
    packetInfo cfg streamType other = (packetInfo cfg streamType packet).later delay := by
  have unclocked : ∀ packet : RawPacket, packetInfo cfg streamType packet =
      { packetInfo cfg streamType packet.unclocked with tsUs := packetTsUs cfg packet } := by
    intro packet
    cases packet with
    | mk _ _ _ _ detail => cases detail <;> rfl
  rw [unclocked, unclocked packet, later.packet_eq, later.tsUs_eq]
  rfl

theorem fieldsInit_atLater {tsUs : Nat} (positive : 0 < tsUs) :
    (fieldsInit cfg (tsUs + delay) : Fields D) = (fieldsInit cfg tsUs).later delay := by
  simp only [fieldsInit, Fields.later, ClockState.later, laterTime_of_pos positive]
  rfl

/-- A flow beside one whose packets come later. -/
def laterLockstep (cfg : FeatureConfig) (delay : Nat) (platform : Platform D)
    (streamType : StreamType) : Lockstep cfg platform streamType where
  packets := LaterPacket cfg delay
  fields first second := second = first.later delay
  contents := FlowContents.Later delay
  start later := by
    rw [later.tsUs_eq]
    exact fieldsInit_atLater later.positive
  empty := ⟨rfl, fun _ _ => rfl, fun _ _ => rfl, rfl, rfl⟩
  data later first second fields_eq := by
    rw [later.info_eq, fields_eq]
    exact dataFields_atLater cfg _ delay platform later.positive first
  accesses later first second fields_eq held otherHeld contents seqLen firstNCapacity := by
    rw [later.info_eq, fields_eq]
    exact contents.accesses (dataAccesses_atLater cfg _ delay platform later.positive first)
      seqLen firstNCapacity
  rebound contents := contents.rebound

/-- The same callback at a later time. -/
def LaterCallback (cfg : FeatureConfig) (delay : Nat) (callback other : Allocs × RawPacket) :
    Prop :=
  other.1 = callback.1 ∧ LaterPacket cfg delay callback.2 other.2

theorem LaterCallback.positive_of_mem {callbacks others : List (Allocs × RawPacket)}
    (same : List.Forall₂ (LaterCallback cfg delay) callbacks others) :
    ∀ callback ∈ callbacks, 0 < packetTsUs cfg callback.2 := by
  induction same with
  | nil => exact List.forall_mem_nil _
  | cons one _ inductionHypothesis =>
    exact List.forall_mem_cons.mpr ⟨one.2.positive, inductionHypothesis⟩

end Flows

/-! ### What is written out -/

/-- The creation time of the stream, and the features that the duration of a burst enters. -/
def clockKeys : List String := ["createtime", "avg_burst_duration", "burst_packet_rate_peak"]

section Views

variable [Double D]

theorem u64Sub_u64_later (first second delay : Nat) :
    u64Sub (u64 (first + delay)) (u64 (second + delay)) = u64Sub first second := by
  unfold u64Sub u64
  omega

/-- The chunks of packets that come later. -/
theorem chunkLoop_atLater (delay : Nat) (packets : List (Nat × Nat × Int)) (lastTs : Nat)
    (lastDir : Int) (chunkBytes : Nat) :
    chunkLoop (packets.map (Prod.map (fun time => u64 (time + delay)) id)) (u64 (lastTs + delay))
      lastDir chunkBytes = chunkLoop packets lastTs lastDir chunkBytes := by
  induction packets generalizing lastTs lastDir chunkBytes with
  | nil => rfl
  | cons packet rest inductionHypothesis =>
    obtain ⟨ts, len, dir⟩ := packet
    simp only [List.map_cons, Prod.map_apply, id_eq, chunkLoop, u64Sub_u64_later,
      inductionHypothesis]

theorem chunkValues_atLater (delay : Nat) (packets : List (Nat × Nat × Int)) :
    chunkValues (packets.map (Prod.map (fun time => u64 (time + delay)) id)) =
      chunkValues packets := by
  cases packets with
  | nil => rfl
  | cons packet rest =>
    obtain ⟨ts, len, dir⟩ := packet
    simp only [List.map_cons, Prod.map_apply, id_eq, chunkValues, chunkLoop_atLater]

omit [Double D] in
theorem sequencesMatch_atLater (delay : Nat) (tsSeq lens : List Nat) (dirs : List Int) :
    sequencesMatch (tsSeq.map fun time => u64 (time + delay)) lens dirs =
      sequencesMatch tsSeq lens dirs := by
  rw [sequencesMatch, sequencesMatch, List.length_map]

theorem chunkSequences_atLater (delay : Nat) (tsSeq lens : List Nat) (dirs : List Int)
    (lastDlChunkCount : Nat) :
    (chunkSequences (tsSeq.map fun time => u64 (time + delay)) lens dirs lastDlChunkCount :
      Output D) = chunkSequences tsSeq lens dirs lastDlChunkCount := by
  rw [chunkSequences, chunkSequences, sequencesMatch_atLater, List.zip_map_left,
    chunkValues_atLater]

theorem getD_atLater {tsSeq : List Nat} {index : Nat} (inside : index < tsSeq.length)
    (delay : Nat) : (tsSeq.map fun time => u64 (time + delay)).getD index 0 =
      u64 (tsSeq.getD index 0 + delay) := by
  rw [List.getD_eq_getElem?_getD, List.getD_eq_getElem?_getD, List.getElem?_map,
    List.getElem?_eq_getElem inside]
  rfl

theorem rateWindowCount_atLater {tsSeq : List Nat} (nonempty : 0 < tsSeq.length) (delay : Nat) :
    rateWindowCount (tsSeq.map fun time => u64 (time + delay)) = rateWindowCount tsSeq := by
  rw [rateWindowCount, rateWindowCount, List.length_map, getD_atLater (by omega),
    getD_atLater nonempty, u64Sub_u64_later]

theorem rateWindowIndex_atLater {tsSeq : List Nat} (nonempty : 0 < tsSeq.length)
    (delay time : Nat) :
    rateWindowIndex (tsSeq.map fun time => u64 (time + delay)) (u64 (time + delay)) =
      rateWindowIndex tsSeq time := by
  rw [rateWindowIndex, rateWindowIndex, rateWindowCount_atLater nonempty, getD_atLater nonempty,
    u64Sub_u64_later]

theorem rateSequence_atLater {tsSeq : List Nat} (nonempty : 0 < tsSeq.length) (delay : Nat)
    (lens : List Nat) (dirs : List Int) (counts : Int → Bool) :
    (rateSequence (tsSeq.map fun time => u64 (time + delay)) lens dirs counts : List D) =
      rateSequence tsSeq lens dirs counts := by
  rw [rateSequence, rateSequence, List.zip_map_left, List.foldl_map,
    rateWindowCount_atLater nonempty]
  simp only [Prod.map_fst, Prod.map_snd, id_eq, rateWindowIndex_atLater nonempty]

theorem rateSequences_atLater (platform : Platform D) (delay : Nat) (tsSeq lens : List Nat)
    (dirs : List Int) (derived : DerivedState) :
    rateSequences platform (tsSeq.map fun time => u64 (time + delay)) lens dirs derived =
      rateSequences platform tsSeq lens dirs derived := by
  rw [rateSequences, rateSequences, sequencesMatch_atLater]
  by_cases matching : sequencesMatch tsSeq lens dirs = true
  · have nonempty : 0 < tsSeq.length := by
      simp only [sequencesMatch, Bool.and_eq_true, decide_eq_true_eq] at matching
      exact matching.1.1
    rw [if_pos matching, if_pos matching]
    simp only [rateSequence_atLater nonempty, rateWindowCount_atLater nonempty]
  · rw [if_neg matching, if_neg matching]

theorem calcBurstStatistics_atLater (sizes durations otherDurations intervals
    packetCounts : List Nat) :
    List.Forall₂ (SameUpTo clockKeys)
      (calcBurstStatistics sizes durations intervals packetCounts : Output D)
      (calcBurstStatistics sizes otherDurations intervals packetCounts) := by
  simp only [calcBurstStatistics]
  by_cases none : sizes.length = 0
  · rw [if_pos none, if_pos none]
    exact sameUpTo_same _
  · have changed : ∀ key : String, key ∈ clockKeys → ∀ value other : D,
        SameUpTo clockKeys (addNumber key value) (addNumber key other) :=
      fun key member value other => ⟨rfl, fun apart => absurd member apart⟩
    rw [if_neg none, if_neg none]
    exact .cons (.refl _) (.cons (.refl _) (.cons (changed _ (by decide) _ _)
      (.cons (.refl _) (.cons (changed _ (by decide) _ _) (sameUpTo_same _)))))

/-- What a group adds for a flow whose packets come later. -/
theorem Group.features_atLater {cfg : FeatureConfig} (platform : Platform D) {delay : Nat}
    {fields : Fields D} {contents other : FlowContents D}
    (started : 0 < fields.clock.flowStartUs) (ended : 0 < fields.clock.lastPktUs)
    (later : FlowContents.Later delay contents other) (tempUintBufferSize : Nat)
    (group : Group) :
    List.Forall₂ (SameUpTo clockKeys)
      (group.features cfg platform (contentsView fields contents tempUintBufferSize))
      (group.features cfg platform
        (contentsView (fields.later delay) other tempUintBufferSize)) := by
  have seqs : other.seqs = Function.update contents.seqs .tsSeq
      ((contents.seqs .tsSeq).map fun time => u64 (time + delay)) :=
    Function.eq_update_iff.mpr ⟨later.times, later.seqs⟩
  have arrays : other.arrays = Function.update contents.arrays .burstDurations
      (other.arrays .burstDurations) :=
    Function.eq_update_iff.mpr ⟨rfl, later.arrays⟩
  generalize other.arrays .burstDurations = durations at arrays
  obtain rfl : other = { contents with
      seqs := Function.update contents.seqs .tsSeq
        ((contents.seqs .tsSeq).map fun time => u64 (time + delay))
      arrays := Function.update contents.arrays .burstDurations durations } :=
    FlowContents.ext seqs arrays later.respDelays later.firstNLens
  cases group with
  | burst => exact calcBurstStatistics_atLater _ _ _ _ _
  | chunkSequences =>
    exact sameUpTo_of_eq (chunkSequences_atLater delay (contents.seqs .tsSeq) _ _ _)
  | rateSequences =>
    exact sameUpTo_of_eq (rateSequences_atLater platform delay (contents.seqs .tsSeq) _ _ _)
  | behaviorBasic =>
    have duration : (flowDuration (fields.clock.later delay) : D) = flowDuration fields.clock := by
      rw [flowDuration, flowDuration, ClockState.later, laterTime_of_pos ended,
        u64Sub_laterTime started]
    refine sameUpTo_of_eq ?_
    show TiFeatures.behaviorBasic cfg (fields.clock.later delay) fields.counters =
      TiFeatures.behaviorBasic cfg fields.clock fields.counters
    unfold TiFeatures.behaviorBasic
    rw [duration]
  | _ => exact sameUpTo_of_eq rfl

end Views

section Outputs

variable [Double D] {cfg : FeatureConfig} {delay : Nat} {streamType : StreamType}

/-- The clock of a flow is set if the times of its packets are. -/
theorem flowRun_clock_pos {platform : Platform D} {callbacks : List (Allocs × RawPacket)}
    {state : FlowFeatureState D} (run : flowRun cfg platform streamType callbacks = some state)
    (positive : ∀ callback ∈ callbacks, 0 < packetTsUs cfg callback.2) :
    0 < state.fields.clock.flowStartUs ∧ 0 < state.fields.clock.lastPktUs := by
  match callbacks with
  | [] => cases run
  | first :: rest =>
    let infos := packetInfos cfg streamType (first.2 :: rest.map Prod.snd)
    have some : infos ≠ [] := List.cons_ne_nil _ _
    have clocked : Clocked (packetTsUs cfg first.2) infos state.fields.clock :=
      flowRun_fields run ▸ flowFields_clocked platform first.2 (rest.map Prod.snd)
    obtain ⟨info, member, last_eq⟩ := exists_lastTsUs_eq some
    rw [clocked.flowStartUs_eq, clocked.lastPktUs_eq some, last_eq]
    refine ⟨positive first List.mem_cons_self, ?_⟩
    obtain ⟨packet, inside, rfl⟩ := List.mem_map.mp member
    obtain ⟨callback, found, rfl⟩ := List.mem_map.mp
      (show packet ∈ (first :: rest).map Prod.snd from inside)
    exact positive callback found

/-- The tuple of a closing packet, up to the creation time of its stream. -/
theorem addFlowTupleIdentifier_atLater (platform : Platform D) (streamType : StreamType)
    {closing laterClosing : RawPacket} (same : laterClosing.unclocked = closing.unclocked) :
    List.Forall₂ (SameUpTo clockKeys) (addFlowTupleIdentifier platform streamType closing)
      (addFlowTupleIdentifier platform streamType laterClosing) := by
  have addr : laterClosing.unclocked.addr = closing.unclocked.addr := congrArg _ same
  have curdir : laterClosing.unclocked.curdir = closing.unclocked.curdir := congrArg _ same
  change laterClosing.addr = closing.addr at addr
  change laterClosing.curdir = closing.curdir at curdir
  have createtime : "createtime" ∈ clockKeys := by decide
  unfold addFlowTupleIdentifier
  rw [addr, curdir]
  exact .cons ⟨rfl, fun apart => absurd createtime apart⟩ (sameUpTo_same _)

/-- What is written when a flow closes whose packets came later. -/
theorem features_atLater {platform : Platform D} {state other : FlowFeatureState D}
    (later : (laterLockstep cfg delay platform streamType).Holds state other)
    (started : 0 < state.fields.clock.flowStartUs) (ended : 0 < state.fields.clock.lastPktUs)
    {closing laterClosing : RawPacket} (same : laterClosing.unclocked = closing.unclocked) :
    List.Forall₂ (SameUpTo clockKeys)
      (flowStateComputeFeatures cfg platform streamType closing state.view)
      (flowStateComputeFeatures cfg platform streamType laterClosing other.view) := by
  have tuple := addFlowTupleIdentifier_atLater platform streamType same
  have sni : laterClosing.sni = closing.sni := by
    change laterClosing.unclocked.sni = closing.unclocked.sni
    rw [same]
  rw [later.wellFormed.view_eq, later.otherWellFormed.view_eq, later.level_eq,
    show other.fields = state.fields.later delay from later.fields, flowStateComputeFeatures_eq,
    flowStateComputeFeatures_eq, sni]
  refine List.rel_append (List.rel_append (List.rel_append tuple (sameUpTo_same _)) ?_)
    (sameUpTo_same _)
  refine List.rel_flatMap (List.forall₂_same.mpr fun group _ => rfl) fun group another eq => ?_
  obtain rfl := eq
  unfold Group.emitted
  split
  · exact group.features_atLater platform started ended later.contents _
  · exact .nil

/-- Packets whose times are set and that all come later by the same time make the same object, with
the keys in the same order, up to the creation time and the two features that the duration of a
burst enters, with the same failures of the flow's own allocations. -/
theorem flowOutput_atLater (cfg : FeatureConfig) (delay : Nat) (platform : Platform D)
    (streamType : StreamType) {callbacks others : List (Allocs × RawPacket)}
    (same : List.Forall₂ (LaterCallback cfg delay) callbacks others)
    {closing laterClosing : Allocs × RawPacket}
    (sameClosing : laterClosing.2.unclocked = closing.2.unclocked) :
    Option.Rel (List.Forall₂ (SameUpTo clockKeys))
      (flowOutput cfg platform streamType callbacks closing)
      (flowOutput cfg platform streamType others laterClosing) := by
  have states := (laterLockstep cfg delay platform streamType).flowRun same
  rw [flowOutput_eq, flowOutput_eq]
  cases run : flowRun cfg platform streamType callbacks with
  | none =>
    rw [run] at states
    generalize flowRun cfg platform streamType others = laterRun at states ⊢
    cases states
    exact .none
  | some state =>
    rw [run] at states
    generalize flowRun cfg platform streamType others = laterRun at states ⊢
    cases states with
    | some later =>
      obtain ⟨started, ended⟩ := flowRun_clock_pos run (LaterCallback.positive_of_mem same)
      exact .some (features_atLater later started ended sameClosing)

/-- Three packets that come seven microseconds later, of a stream that is created later. -/
theorem flowOutput_atLater_three :
    Option.Rel (List.Forall₂ (SameUpTo clockKeys))
      (flowOutput defaultConfig (barePlatform Float) .tcp (allocated
        [barePacket 1 1 100, barePacket 3 2 100, barePacket 5003 1 100])
        (.succeed, barePacket 5003 1 0))
      (flowOutput defaultConfig (barePlatform Float) .tcp (allocated
        [barePacket 8 1 100, barePacket 10 2 100, barePacket 5010 1 100])
        (.succeed, { barePacket 5010 1 0 with detail := some ⟨0, 7⟩ })) := by
  have later : ∀ tvUsec curdir datalen : Nat, 0 < tvUsec → tvUsec < 10000 →
      LaterCallback defaultConfig 7 (.succeed, barePacket tvUsec curdir datalen)
        (.succeed, barePacket (tvUsec + 7) curdir datalen) := by
    intro tvUsec curdir datalen positive small
    have clock : ∀ tvUsec, tvUsec < 20000 →
        packetTsUs defaultConfig (barePacket tvUsec curdir datalen) = tvUsec := by
      intro tvUsec small
      have tsUs_eq : packetTsUs defaultConfig (barePacket tvUsec curdir datalen) =
          u64 (0 * 1000000 + tvUsec) := rfl
      rw [tsUs_eq, u64, Nat.zero_mul, Nat.zero_add, Nat.mod_eq_of_lt (by omega)]
    refine ⟨rfl, ?_, ?_, rfl⟩
    · rw [clock _ (by omega)]
      exact positive
    · rw [clock _ (by omega), clock _ (by omega)]
  exact flowOutput_atLater defaultConfig 7 (barePlatform Float) .tcp
    (.cons (later 1 1 100 (by decide) (by decide)) (.cons (later 3 2 100 (by decide) (by decide))
      (.cons (later 5003 1 100 (by decide) (by decide)) .nil))) rfl

end Outputs

end TiFeatures
