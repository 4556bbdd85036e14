/-
This file settles on which other switches the payload, protocol and pattern
groups and the basic information of a flow depend. Their collectors serve several
groups but are gated by a single switch each, so a group that is on shows zeros
where the switch of the collector it reads is off.
-/

import TiFeatures.Arithmetic
import TiFeatures.Collection
import TiFeatures.Independence

namespace TiFeatures

open BoundedStore

variable {D : Type} [Double D]

/-! ### Parts of the output -/

/-- The parts of the output that read what collectors of other switches leave. -/
inductive OutputPart where
  | payloadSize
  | payloadContent
  | payloadHist
  | payloadMagic
  | payloadStats
  | protocolTcpFlags
  | protocolTcpWindow
  | protocolIp
  | protocolUdp
  | protocolPort
  | behaviorPattern
  | flowInformation
  deriving DecidableEq

/-- The group of a part. The basic information of the flow belongs to none. -/
def OutputPart.group : OutputPart → Option Group
  | .payloadSize => some .payloadSize
  | .payloadContent => some .payloadContent
  | .payloadHist => some .payloadHist
  | .payloadMagic => some .payloadMagic
  | .payloadStats => some .payloadStats
  | .protocolTcpFlags => some .protocolTcpFlags
  | .protocolTcpWindow => some .protocolTcpWindow
  | .protocolIp => some .protocolIp
  | .protocolUdp => some .protocolUdp
  | .protocolPort => some .protocolPort
  | .behaviorPattern => some .behaviorPattern
  | .flowInformation => none

/-- A part is written: its group is on, or it is always written. -/
def OutputPart.on (switches : Switches) (part : OutputPart) : Bool :=
  match part.group with
  | some group => group.on switches
  | none => true

/-- The values of a part. -/
def OutputPart.values (cfg : FeatureConfig) (platform : Platform D) (view : View D)
    (part : OutputPart) : Output D :=
  match part.group with
  | some group => group.features cfg platform view
  | none => TiFeatures.flowInformation view.counters view.tcp

/-- The gates of what a part reads. -/
def OutputPart.gates (part : OutputPart) : List Gate :=
  match part.group with
  | some group => group.gates
  | none => [.tcp]

/-- The same values of a part come out of every run under two settings of the switches. -/
def OutputPart.Independent (thresholds : Thresholds) (platform : Platform D)
    (switches other : Switches) (part : OutputPart) : Prop :=
  ∀ streamType callbacks,
    (flowRun (featConfigRead thresholds switches) platform streamType callbacks).map
        (fun state => part.values (featConfigRead thresholds switches) platform state.view) =
      (flowRun (featConfigRead thresholds other) platform streamType callbacks).map
        fun state => part.values (featConfigRead thresholds other) platform state.view

/-- TCP headers are evaluated. -/
def Switches.tcp (switches : Switches) : Bool :=
  switches.enableProtocolTcpFlags || switches.enableProtocolTcpWindow

/-- Two settings agree on the switches of the collectors a part reads. -/
def OutputPart.SameCollectors (switches other : Switches) : OutputPart → Prop
  | .payloadSize | .payloadContent | .payloadHist | .payloadMagic =>
    switches.enablePayloadStats = other.enablePayloadStats
  | .payloadStats | .protocolTcpFlags | .protocolTcpWindow | .protocolIp | .protocolUdp => True
  | .protocolPort => switches.tcp = other.tcp ∧
      switches.enableProtocolIp = other.enableProtocolIp
  | .behaviorPattern => switches.tcp = other.tcp ∧
      switches.enableIatStats = other.enableIatStats
  | .flowInformation => switches.tcp = other.tcp

/-- Two settings under which a part is written agree on the switches of its collectors if and
only if they agree on the gates of what it reads. -/
theorem OutputPart.gates_iff (thresholds : Thresholds) {switches other : Switches}
    {part : OutputPart} (on : part.on switches = true) (otherOn : part.on other = true) :
    (∀ gate ∈ part.gates, gate.on (featConfigRead thresholds switches) =
      gate.on (featConfigRead thresholds other)) ↔ part.SameCollectors switches other := by
  cases part <;>
    simp [OutputPart.gates, OutputPart.group, Group.gates, OutputPart.SameCollectors, Gate.on,
      featConfigRead, compoundFlags, Switches.tcp, OutputPart.on, Group.on] at on otherOn ⊢ <;>
    simp [on, otherOn]

/-- The values of a part are those of two flows that agree, if the configurations agree on the
gates of what it reads. -/
theorem OutputPart.values_eq {cfg other : FeatureConfig} {first second : FlowFeatureState D}
    (thresholds : cfg.toThresholds = other.toThresholds) (platform : Platform D)
    (agree : first.Agree cfg other second) {part : OutputPart}
    (same : ∀ gate ∈ part.gates, gate.on cfg = gate.on other) :
    part.values cfg platform first.view = part.values other platform second.view := by
  unfold OutputPart.gates at same
  unfold OutputPart.values
  cases found : part.group with
  | some group =>
    simp only [found] at same
    exact (Group.features_eq (agree.sameReads same)).trans
      (Group.features_congr thresholds platform second.view group)
  | none =>
    simp only [found] at same
    have tcp := agree.fields.tcp (same .tcp (by decide))
    have counters := agree.fields.counters
    rw [agree.wellFormed.view_eq, agree.otherWellFormed.view_eq]
    exact congrArg₂ TiFeatures.flowInformation counters tcp

/-! ### One probe -/

section Probe

variable (cfg : FeatureConfig) (platform : Platform D)

/-- The view after one probe. -/
def probeView : View D := closingView cfg platform .tcp (probePacket 1) []

theorem probeView_fields : (probeView cfg platform).toFields =
    dataFields cfg platform (packetInfo cfg .tcp (probePacket 1))
      (fieldsInit cfg (packetTsUs cfg (probePacket 1))) := rfl

theorem probeView_totalPackets : (probeView cfg platform).counters.totalPackets = 1 := by
  simp only [probeView_fields, dataFields, countersCall_counters]
  rfl

theorem probeView_tcp :
    (probeView cfg platform).tcp.tcpPackets =
        (if cfg.enableProtocolTcpFlags || cfg.enableProtocolTcpWindow then 1 else 0) ∧
      (probeView cfg platform).tcp.tcpSynCount =
        if cfg.enableProtocolTcpFlags || cfg.enableProtocolTcpWindow then 1 else 0 := by
  simp only [probeView_fields, dataFields, tcpCall, packetInfo_probe_streamType,
    packetInfo_probe_tcph]
  cases cfg.enableProtocolTcpFlags || cfg.enableProtocolTcpWindow
  · exact ⟨rfl, rfl⟩
  · simp only [if_true, calcProtocolTcpUpdate_counters]
    exact ⟨rfl, rfl⟩

theorem probeView_srcIpIsPrivate :
    (probeView cfg platform).ip.srcIpIsPrivate = cfg.enableProtocolIp := by
  simp only [probeView_fields, dataFields, ipCall, packetInfo_probe_iph]
  cases cfg.enableProtocolIp
  · rfl
  · simp only [if_true, calcProtocolIpUpdate]
    decide

theorem probeView_payload : (probeView cfg platform).payload =
    if cfg.enablePayloadStats then
      (calcPayloadStats platform payloadStateInit [71, 69, 84, 32] 4).1
    else payloadStateInit := by
  simp only [probeView_fields, dataFields, payloadCall, packetInfo_probe_payload,
    payloadBytes_probe, packetInfo_probe_payloadLen]
  cases cfg.enablePayloadStats <;> rfl

theorem probeView_payloadSizeSeq : ((probeView cfg platform).seqs .payloadSizeSeq).length =
    if cfg.enablePayloadStats then 1 else 0 := by
  have pushed : (flowAccesses cfg platform .tcp (probePacket 1) []).filterMap
      (Access.pushed .payloadSizeSeq) = if cfg.enablePayloadStats then [4] else [] := by
    have one : flowAccesses cfg platform .tcp (probePacket 1) [] =
        dataAccesses cfg platform (packetInfo cfg .tcp (probePacket 1))
          (fieldsInit cfg (packetTsUs cfg (probePacket 1))) := List.append_nil _
    rw [one, filterMap_dataAccesses cfg platform _ _ (.ring .payloadSizeSeq)
      fun _ => Access.pushed_eq_none]
    simp only [Target.call, callAccesses, payloadCall, packetInfo_probe_payload,
      packetInfo_probe_payloadLen]
    cases cfg.enablePayloadStats <;> rfl
  rw [probeView, closingView_seqs, flowContents_seqs, pushed, length_rtake]
  cases cfg.enablePayloadStats <;> rfl

end Probe

/-! ### Uneven intervals -/

section Intervals

variable (exact : ExactIntegers D)

include exact

/-- Welford's update where the new mean is an integer. -/
theorem runningStatsUpdate_exact {s : RunningStats D} (mean m2 count step : Nat)
    (mean_eq : s.mean = (mean : D)) (m2_eq : s.m2 = (m2 : D)) (count_eq : s.count = count)
    (few : count + 1 < 2 ^ 53) (small : mean + step * (count + 1) < 2 ^ 53)
    (squares : m2 + step * (count + 1) * (step * count) < 2 ^ 53) :
    let next := runningStatsUpdate s ((mean + step * (count + 1) : Nat) : D)
    next.mean = ((mean + step : Nat) : D) ∧
      next.m2 = ((m2 + step * (count + 1) * (step * count) : Nat) : D) ∧
      next.count = count + 1 := by
  have counted : u64 (s.count + 1) = count + 1 := by
    rw [count_eq, u64_of_lt (by omega)]
  have grows : step ≤ step * (count + 1) := Nat.le_mul_of_pos_right _ (Nat.succ_pos _)
  have more : step * count ≤ step * (count + 1) := Nat.mul_le_mul_left _ (Nat.le_succ _)
  have delta : ((mean + step * (count + 1) : Nat) : D) - s.mean =
      ((step * (count + 1) : Nat) : D) := by
    rw [mean_eq, exact.sub_eq _ _ (Nat.le_add_right _ _) small, Nat.add_sub_cancel_left]
  have newMean : s.mean + ((step * (count + 1) : Nat) : D) / ((count + 1 : Nat) : D) =
      ((mean + step : Nat) : D) := by
    rw [exact.div_eq step (count + 1) (Nat.succ_pos _) (by omega)
      (show step * (count + 1) < 2 ^ 53 by omega),
      mean_eq, exact.add_eq _ _ (by omega)]
  have rest : mean + step * (count + 1) - (mean + step) = step * count := by
    rw [Nat.mul_succ]
    omega
  have delta2 : ((mean + step * (count + 1) : Nat) : D) - ((mean + step : Nat) : D) =
      ((step * count : Nat) : D) := by
    rw [exact.sub_eq _ _ (by omega) small, rest]
  simp only [runningStatsUpdate, counted, delta, newMean, delta2, m2_eq, and_true, true_and]
  rw [exact.mul_eq _ _ (by omega) (by omega) (by omega), exact.add_eq _ _ squares]

/-- Without intervals the intervals count as regular. -/
theorem hasRegularIntervals_init :
    hasRegularIntervals (runningStatsCv (runningStatsInit : RunningStats D)) = true := by
  have zero : ((0 : D) == 0) = true := by
    rw [exact.zero_eq, exact.beq_eq 0 0 (by decide) (by decide)]
    rfl
  have half : Double.blt (0 : D) (1 / 2) = true := by
    rw [exact.one_eq]
    exact exact.blt_zero_div 1 (show 0 < 2 by decide) (by decide) (by decide)
  simp only [hasRegularIntervals, runningStatsCv, runningStatsInit, zero, if_true, half]

/-- The intervals 0, 2000 and 1000 are not regular. -/
theorem hasRegularIntervals_uneven :
    hasRegularIntervals (runningStatsCv (runningStatsUpdate (runningStatsUpdate
      (runningStatsUpdate (runningStatsInit : RunningStats D) ((0 : Nat) : D))
      ((2000 : Nat) : D)) ((1000 : Nat) : D))) = false := by
  obtain ⟨mean1, squares1, count1⟩ := runningStatsUpdate_exact exact 0 0 0 0
    (show (runningStatsInit : RunningStats D).mean = _ from exact.zero_eq) exact.zero_eq rfl
    (by decide) (by decide) (by decide)
  obtain ⟨mean2, squares2, count2⟩ := runningStatsUpdate_exact exact 0 0 1 1000 mean1 squares1
    count1 (by decide) (by decide) (by decide)
  obtain ⟨mean3, squares3, count3⟩ := runningStatsUpdate_exact exact 1000 2000000 2 0 mean2
    squares2 count2 (by decide) (by decide) (by decide)
  set stats := runningStatsUpdate _ ((1000 : Nat) : D) with stats_eq
  have variance : runningStatsVariance stats = ((1000 * 1000 : Nat) : D) := by
    have several : stats.count > 1 := by
      rw [count3]
      decide
    rw [runningStatsVariance, if_pos several, count3, squares3]
    exact exact.div_eq (1000 * 1000) 2 (by decide) (by decide) (by decide)
  have nonzero : (stats.mean == 0) = false := by
    rw [mean3, exact.zero_eq, exact.beq_eq _ _ (by decide) (by decide)]
    rfl
  have cv : runningStatsCv stats = ((1 : Nat) : D) := by
    rw [runningStatsCv, nonzero, if_neg Bool.false_ne_true, runningStatsStd, variance,
      exact.sqrt_eq 1000 (by decide), mean3]
    exact exact.div_eq 1 1000 (by decide) (by decide) (by decide)
  have half : Double.blt ((1 : Nat) : D) (1 / 2) = false := by
    rw [exact.one_eq]
    exact exact.blt_div_eq 1 1 2 (by decide) (by decide) (by decide) (by decide)
  rw [hasRegularIntervals, cv, half]

end Intervals

/-! ### Four packets at uneven intervals -/

/-- The view after four probes, the intervals between which are 0, 2000 and 1000. -/
def unevenView (cfg : FeatureConfig) (platform : Platform D) : View D :=
  closingView cfg platform .tcp (probePacket 1) [probePacket 1, probePacket 3, probePacket 4]

theorem unevenView_iatStats (cfg : FeatureConfig) (platform : Platform D) :
    (unevenView cfg platform).iat.iatStats =
      if cfg.enableIatStats then
        runningStatsUpdate (runningStatsUpdate (runningStatsUpdate runningStatsInit
          ((0 : Nat) : D)) ((2000 : Nat) : D)) ((1000 : Nat) : D)
      else runningStatsInit := by
  have ts1 := packetInfo_probe_tsUs cfg .tcp (show 1 < 1000 by decide)
  have ts3 := packetInfo_probe_tsUs cfg .tcp (show 3 < 1000 by decide)
  have ts4 := packetInfo_probe_tsUs cfg .tcp (show 4 < 1000 by decide)
  have unset : (fieldsInit cfg (packetTsUs cfg (probePacket 1)) : Fields D).iat.lastArrivalUs = 0 :=
    rfl
  have begins := iatCall_first cfg (packetInfo cfg .tcp (probePacket 1)) unset
  have gap1 : u64Sub 1000 1000 = 0 := by decide
  have gap2 : u64Sub 3000 1000 = 2000 := by decide
  have gap3 : u64Sub 4000 3000 = 1000 := by decide
  have fields : (unevenView cfg platform).iat = ([probePacket 1, probePacket 1, probePacket 3,
      probePacket 4].map (packetInfo cfg .tcp)).foldl (fun state info =>
        (iatCall cfg info state).1)
      (fieldsInit cfg (packetTsUs cfg (probePacket 1)) : Fields D).iat := rfl
  rw [fields]
  simp only [List.map_cons, List.map_nil, List.foldl_cons, List.foldl_nil, begins]
  rw [iatCall_later cfg (packetInfo cfg .tcp (probePacket 1)) (by simp [ts1]),
    iatCall_later cfg (packetInfo cfg .tcp (probePacket 3)) (by simp [ts1]),
    iatCall_later cfg (packetInfo cfg .tcp (probePacket 4)) (by simp [ts3])]
  simp only [ts1, ts3, ts4, gap1, gap2, gap3, fieldsInit]
  cases cfg.enableIatStats <;> rfl

/-! ### What a part shows of its collectors -/

section Shown

variable (exact : ExactIntegers D) {cfg other : FeatureConfig} (platform : Platform D)

omit [Double D] in
/-- Two equal outputs have the same number at the same place. -/
theorem number_eq {first second : Output D} (same : first = second) (place : Nat) (key : String)
    {value other : D} (found : first[place]? = some (addNumber key value))
    (otherFound : second[place]? = some (addNumber key other)) : value = other := by
  rw [same, otherFound, Option.some.injEq] at found
  exact (Json.num.inj (Prod.ext_iff.mp found).2).symm

/-- The sizes and the contents of the payloads show whether they were collected. -/
theorem payloadSize_shown
    (same : Group.payloadSize.features cfg platform (probeView cfg platform) =
      Group.payloadSize.features other platform (probeView other platform)) :
    cfg.enablePayloadStats = other.enablePayloadStats := by
  have diffs : ∀ cfg : FeatureConfig,
      (probeView cfg platform).payload.payloadSizeDiffStats.count = 0 := by
    intro cfg
    rw [probeView_payload]
    cases cfg.enablePayloadStats
    · rfl
    · exact (calcPayloadStats_counters platform payloadStateInit _ (by decide)).2.2.2.1
  have lengths := congrArg List.length same
  simp only [Group.features, payloadSize, quartileFeatures, probeView_payloadSizeSeq, diffs,
    List.length_append, runningStatsFeatures, List.length_cons, List.length_nil] at lengths
  revert lengths
  cases cfg.enablePayloadStats <;> cases other.enablePayloadStats <;> simp

theorem payloadContent_shown
    (same : Group.payloadContent.features cfg platform (probeView cfg platform) =
      Group.payloadContent.features other platform (probeView other platform)) :
    cfg.enablePayloadStats = other.enablePayloadStats := by
  have total : ∀ cfg : FeatureConfig, (probeView cfg platform).payload.payloadTotalBytes =
      if cfg.enablePayloadStats then 4 else 0 := by
    intro cfg
    rw [probeView_payload]
    cases cfg.enablePayloadStats
    · rfl
    · exact (calcPayloadStats_counters platform payloadStateInit _ (by decide)).2.1
  have lengths := congrArg List.length same
  simp only [Group.features, payloadContent, total, probeView_totalPackets] at lengths
  revert lengths
  cases cfg.enablePayloadStats <;> cases other.enablePayloadStats <;> simp

include exact

theorem payloadHist_shown
    (same : Group.payloadHist.features cfg platform (probeView cfg platform) =
      Group.payloadHist.features other platform (probeView other platform)) :
    cfg.enablePayloadStats = other.enablePayloadStats := by
  have hist : ∀ cfg : FeatureConfig, (probeView cfg platform).payload.payloadByteHist =
      if cfg.enablePayloadStats then [0, 0, 1, 0, 2, 1, 0, 0, 0, 0, 0, 0, 0, 0, 0, 0]
      else List.replicate 16 0 := by
    intro cfg
    rw [probeView_payload]
    cases cfg.enablePayloadStats <;> rfl
  have bin : ∀ cfg : FeatureConfig,
      (Group.payloadHist.features cfg platform (probeView cfg platform))[4]? =
        some (addNumber "payload_hist_bin_4"
          (if cfg.enablePayloadStats then ((2 : Nat) : D) / ((4 : Nat) : D) else 0)) := by
    intro cfg
    simp only [Group.features, payloadHist, hist]
    cases cfg.enablePayloadStats <;> rfl
  have values := number_eq same _ _ (bin cfg) (bin other)
  have positive := exact.blt_zero_div 2 (show 0 < 4 by decide) (by decide) (by decide)
  have zero : Double.blt (0 : D) 0 = false := by
    rw [exact.zero_eq]
    exact exact.blt_eq 0 0 (by decide) (by decide)
  revert values
  cases cfg.enablePayloadStats <;> cases other.enablePayloadStats
  · exact fun _ => rfl
  · intro values
    exact absurd (zero.symm.trans (congrArg (Double.blt 0) values |>.trans positive)) (by decide)
  · intro values
    exact absurd (zero.symm.trans (congrArg (Double.blt 0) values.symm |>.trans positive))
      (by decide)
  · exact fun _ => rfl

theorem payloadMagic_shown
    (same : Group.payloadMagic.features cfg platform (probeView cfg platform) =
      Group.payloadMagic.features other platform (probeView other platform)) :
    cfg.enablePayloadStats = other.enablePayloadStats := by
  have http : ∀ cfg : FeatureConfig,
      (probeView cfg platform).payload.payloadLooksLikeHttp = cfg.enablePayloadStats := by
    intro cfg
    rw [probeView_payload]
    cases cfg.enablePayloadStats <;> rfl
  have shown := number_eq same 11 "payload_looks_like_http" rfl rfl
  rwa [exact.ofBool_inj, http, http] at shown

theorem flowInformation_shown
    (same : flowInformation (probeView cfg platform).counters (probeView cfg platform).tcp =
      flowInformation (probeView other platform).counters (probeView other platform).tcp) :
    (cfg.enableProtocolTcpFlags || cfg.enableProtocolTcpWindow) =
      (other.enableProtocolTcpFlags || other.enableProtocolTcpWindow) := by
  have shown := number_eq same 6 "tcp_syn_count" rfl rfl
  rw [(probeView_tcp cfg platform).2, (probeView_tcp other platform).2] at shown
  revert shown
  cases cfg.enableProtocolTcpFlags || cfg.enableProtocolTcpWindow <;>
    cases other.enableProtocolTcpFlags || other.enableProtocolTcpWindow <;>
    simp [exact.cast_inj]

theorem protocolPort_shown
    (same : Group.protocolPort.features cfg platform (probeView cfg platform) =
      Group.protocolPort.features other platform (probeView other platform)) :
    (cfg.enableProtocolTcpFlags || cfg.enableProtocolTcpWindow) =
        (other.enableProtocolTcpFlags || other.enableProtocolTcpWindow) ∧
      cfg.enableProtocolIp = other.enableProtocolIp := by
  have privateShown := number_eq same 2 "src_ip_is_private" rfl rfl
  have tcpShown := number_eq same 22 "tcppseqcnt" rfl rfl
  rw [exact.ofBool_inj, probeView_srcIpIsPrivate, probeView_srcIpIsPrivate] at privateShown
  refine ⟨?_, privateShown⟩
  rw [(probeView_tcp cfg platform).1, (probeView_tcp other platform).1] at tcpShown
  revert tcpShown
  cases cfg.enableProtocolTcpFlags || cfg.enableProtocolTcpWindow <;>
    cases other.enableProtocolTcpFlags || other.enableProtocolTcpWindow <;>
    simp [exact.cast_inj]

theorem behaviorPattern_shown_tcp
    (same : Group.behaviorPattern.features cfg platform (probeView cfg platform) =
      Group.behaviorPattern.features other platform (probeView other platform)) :
    (cfg.enableProtocolTcpFlags || cfg.enableProtocolTcpWindow) =
        (other.enableProtocolTcpFlags || other.enableProtocolTcpWindow) := by
  have ratio : ∀ cfg : FeatureConfig,
      (Group.behaviorPattern.features cfg platform (probeView cfg platform))[3]? =
        some (addNumber "protocol_tcp_ratio"
          (((probeView cfg platform).tcp.tcpPackets : D) / ((1 : Nat) : D))) := by
    intro cfg
    simp only [Group.features, behaviorPattern, probeView_totalPackets]
    rfl
  have shown := number_eq same _ _ (ratio cfg) (ratio other)
  rw [(probeView_tcp cfg platform).1, (probeView_tcp other platform).1] at shown
  have one : ((1 : Nat) : D) / ((1 : Nat) : D) = ((1 : Nat) : D) :=
    exact.div_eq 1 1 (by decide) (by decide) (by decide)
  have zero : ((0 : Nat) : D) / ((1 : Nat) : D) = ((0 : Nat) : D) :=
    exact.div_eq 0 1 (by decide) (by decide) (by decide)
  revert shown
  cases cfg.enableProtocolTcpFlags || cfg.enableProtocolTcpWindow <;>
    cases other.enableProtocolTcpFlags || other.enableProtocolTcpWindow <;>
    simp [one, zero, exact.cast_inj]

theorem behaviorPattern_shown_iat
    (same : Group.behaviorPattern.features cfg platform (unevenView cfg platform) =
      Group.behaviorPattern.features other platform (unevenView other platform)) :
    cfg.enableIatStats = other.enableIatStats := by
  have shown := number_eq same 2 "has_regular_intervals" rfl rfl
  rw [exact.ofBool_inj, unevenView_iatStats, unevenView_iatStats] at shown
  have regular := hasRegularIntervals_init exact
  have uneven := hasRegularIntervals_uneven exact
  revert shown
  cases cfg.enableIatStats <;> cases other.enableIatStats <;>
    simp only [if_true, if_false, Bool.false_eq_true, regular, uneven, imp_self, reduceCtorEq]

end Shown

/-! ### Which switches a part depends on -/

/-- The values of an independent part are the same when a flow closes. -/
theorem OutputPart.Independent.closingView {thresholds : Thresholds} {platform : Platform D}
    {switches other : Switches} {part : OutputPart}
    (independent : part.Independent thresholds platform switches other) (first : RawPacket)
    (rest : List RawPacket) :
    part.values (featConfigRead thresholds switches) platform
        (closingView (featConfigRead thresholds switches) platform .tcp first rest) =
      part.values (featConfigRead thresholds other) platform
        (closingView (featConfigRead thresholds other) platform .tcp first rest) := by
  have same := independent .tcp (allocated (first :: rest))
  have closed : ∀ cfg : FeatureConfig,
      (flowRun cfg platform .tcp (allocated (first :: rest))).map
          (fun state => part.values cfg platform state.view) =
        some (part.values cfg platform (TiFeatures.closingView cfg platform .tcp first rest)) := by
    intro cfg
    have view := congrArg (Option.map (part.values cfg platform ·))
      (flowRun_view cfg platform .tcp first rest)
    rwa [Option.map_map, Option.map_some] at view
  rwa [closed, closed, Option.some.injEq] at same

/-- A part that is on under two settings shows the same under both, after every run, if and only
if the settings agree on the switches of the collectors the part reads. -/
theorem OutputPart.independent_iff (exact : ExactIntegers D) (thresholds : Thresholds)
    (platform : Platform D) {switches other : Switches} {part : OutputPart}
    (on : part.on switches = true) (otherOn : part.on other = true) :
    part.Independent thresholds platform switches other ↔
      part.SameCollectors switches other := by
  constructor
  · intro independent
    have probe := independent.closingView (probePacket 1) []
    have uneven := independent.closingView (probePacket 1)
      [probePacket 1, probePacket 3, probePacket 4]
    cases part with
    | payloadSize => exact payloadSize_shown platform probe
    | payloadContent => exact payloadContent_shown platform probe
    | payloadHist => exact payloadHist_shown exact platform probe
    | payloadMagic => exact payloadMagic_shown exact platform probe
    | payloadStats => trivial
    | protocolTcpFlags => trivial
    | protocolTcpWindow => trivial
    | protocolIp => trivial
    | protocolUdp => trivial
    | protocolPort => exact protocolPort_shown exact platform probe
    | behaviorPattern =>
      exact ⟨behaviorPattern_shown_tcp exact platform probe,
        behaviorPattern_shown_iat exact platform uneven⟩
    | flowInformation => exact flowInformation_shown exact platform probe
  · intro same streamType callbacks
    have thresholds_eq : (featConfigRead thresholds switches).toThresholds =
        (featConfigRead thresholds other).toThresholds := rfl
    have agree := flowRun_agree (D := D) thresholds_eq platform streamType callbacks
    have gates := (OutputPart.gates_iff thresholds on otherOn).mpr same
    revert agree
    generalize flowRun (featConfigRead thresholds switches) platform streamType callbacks = first
    generalize flowRun (featConfigRead thresholds other) platform streamType callbacks = second
    intro agree
    cases agree with
    | none => rfl
    | some agree => exact congrArg some (OutputPart.values_eq thresholds_eq platform agree gates)

/-- The basic information of a flow does not depend on the payload switches. -/
theorem OutputPart.flowInformation_independent :
    OutputPart.flowInformation.Independent defaultThresholds (barePlatform ℝ) defaultSwitches
      { defaultSwitches with enablePayload := false } :=
  (OutputPart.independent_iff real_exactIntegers defaultThresholds (barePlatform ℝ) rfl rfl).mpr
    rfl

/-- The sizes of the payloads are on, but without the payload statistics one packet with a
payload leaves no sizes to show. -/
theorem OutputPart.payloadSize_not_independent :
    let switches := { defaultSwitches with enablePayloadStats := false }
    OutputPart.payloadSize.on switches = true ∧
      OutputPart.payloadSize.on defaultSwitches = true ∧
        ¬ OutputPart.payloadSize.Independent defaultThresholds (barePlatform Float) switches
          defaultSwitches := by
  refine ⟨rfl, rfl, fun independent => ?_⟩
  have shown := payloadSize_shown (barePlatform Float)
    (independent.closingView (probePacket 1) [])
  exact absurd shown (by decide)

end TiFeatures
