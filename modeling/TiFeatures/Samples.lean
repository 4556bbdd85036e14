/-
This file says which samples the running statistics of a flow are made of. Each
statistic is the fold of `running_stats_update` over samples that are a function
of the packets, whatever the directions and times of these are.
-/

import TiFeatures.Gaps
import TiFeatures.Gates
import TiFeatures.Groups

namespace TiFeatures

variable {D : Type}

/-! ### Samples -/

/-- A running statistic after one more integer. -/
def addSample [Double D] (stats : RunningStats D) (sample : Nat) : RunningStats D :=
  runningStatsUpdate stats (sample : D)

/-- The running statistic of some samples. -/
def runningStatsOf (D : Type) [Double D] (samples : List Nat) : RunningStats D :=
  samples.foldl addSample runningStatsInit

theorem runningStatsOf_concat [Double D] (samples : List Nat) (sample : Nat) :
    runningStatsOf D (samples ++ [sample]) = addSample (runningStatsOf D samples) sample :=
  List.foldl_concat addSample runningStatsInit sample samples

/-- The packets that come after one whose time is not zero, each with that time. A packet after
one at time zero leaves `calc_iat_update` early, as the first packet does. -/
def followers : List PacketInfo → List (Nat × PacketInfo)
  | first :: next :: rest =>
    if first.tsUs = 0 then followers (next :: rest)
    else (first.tsUs, next) :: followers (next :: rest)
  | _ => []

/-- The packets that `calc_iat_update` does not leave early. -/
def laterPackets (infos : List PacketInfo) : List PacketInfo := (followers infos).map Prod.snd

/-- The gaps before packets that come after one whose time is not zero. -/
def timedGaps (infos : List PacketInfo) : List Nat :=
  (followers infos).map fun follower => u64Sub follower.2.tsUs follower.1

/-- The time of the last packet. -/
def lastTsUs (infos : List PacketInfo) : Nat := (infos.getLast?.map PacketInfo.tsUs).getD 0

theorem lastTsUs_concat (infos : List PacketInfo) (info : PacketInfo) :
    lastTsUs (infos ++ [info]) = info.tsUs := by
  rw [lastTsUs, List.getLast?_concat]
  rfl

theorem followers_concat (infos : List PacketInfo) (info : PacketInfo) :
    followers (infos ++ [info]) =
      followers infos ++ if lastTsUs infos = 0 then [] else [(lastTsUs infos, info)] := by
  induction infos using followers.induct with
  | case1 first next rest zero inductionHypothesis =>
    rw [List.cons_append] at inductionHypothesis
    rw [List.cons_append, List.cons_append, followers, if_pos zero, inductionHypothesis,
      followers, if_pos zero, lastTsUs, lastTsUs, List.getLast?_cons_cons]
  | case2 first next rest nonzero inductionHypothesis =>
    rw [List.cons_append] at inductionHypothesis
    rw [List.cons_append, List.cons_append, followers, if_neg nonzero, inductionHypothesis,
      followers, if_neg nonzero, lastTsUs, lastTsUs, List.getLast?_cons_cons, List.cons_append]
  | case3 infos short =>
    match infos with
    | [] => rfl
    | [only] => rfl
    | first :: next :: rest => exact absurd rfl (short first next rest)

theorem laterPackets_concat (infos : List PacketInfo) (info : PacketInfo) :
    laterPackets (infos ++ [info]) =
      laterPackets infos ++ if lastTsUs infos = 0 then [] else [info] := by
  rw [laterPackets, followers_concat, List.map_append]
  split
  · rfl
  · rfl

theorem timedGaps_concat (infos : List PacketInfo) (info : PacketInfo) :
    timedGaps (infos ++ [info]) = timedGaps infos ++
      if lastTsUs infos = 0 then [] else [u64Sub info.tsUs (lastTsUs infos)] := by
  rw [timedGaps, followers_concat, List.map_append]
  split
  · rfl
  · rfl

theorem Side.of_concat (side : Side) (infos : List PacketInfo) (info : PacketInfo) :
    side.of (infos ++ [info]) =
      side.of infos ++ if info.direction = side.dir then [info] else [] := by
  simp only [Side.of, List.filter_append, List.filter_cons, List.filter_nil, decide_eq_true_eq]

/-! ### Inter-arrival times -/

/-- The statistics of the inter-arrival times of a direction. -/
def Side.iatStats (state : IatState D) : Side → RunningStats D
  | .fwd => state.fwdIat.fwd
  | .bwd => state.bwdIat.bwd

/-- What the inter-arrival times of a flow are after its packets. -/
structure IatSampled [Double D] (cfg : FeatureConfig) (infos : List PacketInfo)
    (state : IatState D) : Prop where
  arrival_eq : state.lastArrivalUs = lastTsUs infos
  side_eq : ∀ side : Side, side.lastUs state = lastTsUs (side.of (laterPackets infos))
  stats_eq : state.iatStats =
    runningStatsOf D (if cfg.enableIatStats then timedGaps infos else [])
  sideStats_eq : ∀ side : Side, side.iatStats state = runningStatsOf D
    (if cfg.needFwdBwdIats then timedGaps (side.of (laterPackets infos)) else [])

section Steps

variable [Double D] {cfg : FeatureConfig}

/-- A sample is added where it is collected. -/
theorem runningStatsOf_if_concat (collected : Bool) (samples : List Nat) (sample : Nat) :
    runningStatsOf D (if collected then samples ++ [sample] else []) =
      if collected then addSample (runningStatsOf D (if collected then samples else [])) sample
      else runningStatsOf D (if collected then samples else []) := by
  cases collected with
  | true => exact runningStatsOf_concat samples sample
  | false => rfl

/-- A packet adds the gaps before it. -/
theorem IatSampled.step {infos : List PacketInfo} {state : IatState D}
    (sampled : IatSampled cfg infos state) (info : PacketInfo) :
    IatSampled cfg (infos ++ [info]) (iatCall cfg info state).1 := by
  by_cases first : state.lastArrivalUs = 0
  · have same : laterPackets (infos ++ [info]) = laterPackets infos := by
      rw [laterPackets_concat, if_pos (sampled.arrival_eq ▸ first), List.append_nil]
    have gaps_eq : timedGaps (infos ++ [info]) = timedGaps infos := by
      rw [timedGaps_concat, if_pos (sampled.arrival_eq ▸ first), List.append_nil]
    rw [iatCall_first cfg info first]
    refine ⟨(lastTsUs_concat infos info).symm, fun side => ?_, ?_, fun side => ?_⟩
    · rw [same, ← sampled.side_eq]
      cases side <;> rfl
    · rw [gaps_eq]
      exact sampled.stats_eq
    · rw [same, ← sampled.sideStats_eq]
      cases side <;> rfl
  · have nonzero : lastTsUs infos ≠ 0 := sampled.arrival_eq ▸ first
    have later : laterPackets (infos ++ [info]) = laterPackets infos ++ [info] := by
      rw [laterPackets_concat, if_neg nonzero]
    rw [iatCall_later cfg info first]
    refine ⟨(lastTsUs_concat infos info).symm, fun side => ?_, ?_, fun side => ?_⟩
    · rw [later, Side.of_concat]
      by_cases own : info.direction = side.dir
      · rw [if_pos own, lastTsUs_concat]
        cases side with
        | fwd => exact if_pos own
        | bwd => exact if_pos own
      · rw [if_neg own, List.append_nil, ← sampled.side_eq]
        cases side with
        | fwd => exact if_neg own
        | bwd => exact if_neg own
    · rw [timedGaps_concat, if_neg nonzero, runningStatsOf_if_concat, ← sampled.stats_eq,
        ← sampled.arrival_eq]
      rfl
    · have kept : side.iatStats (iatCall cfg info state).1 =
          if (cfg.needFwdBwdIats && info.direction = side.dir && side.lastUs state > 0) then
            runningStatsUpdate (side.iatStats state)
              ((u64Sub info.tsUs (side.lastUs state) : Nat) : D)
          else side.iatStats state := by
        rw [iatCall_later cfg info first]
        cases side with
        | fwd => exact apply_ite DirectionalRunningStats.fwd _ _ _
        | bwd => exact apply_ite DirectionalRunningStats.bwd _ _ _
      rw [iatCall_later cfg info first] at kept
      rw [kept, later, Side.of_concat]
      by_cases own : info.direction = side.dir
      · rw [if_pos own, timedGaps_concat, ← sampled.side_eq]
        by_cases last : side.lastUs state = 0
        · rw [if_pos last, List.append_nil, ← sampled.sideStats_eq, if_neg]
          simp only [last, gt_iff_lt, Nat.lt_irrefl, decide_false, Bool.and_false,
            Bool.false_eq_true, not_false_eq_true]
        · rw [if_neg last, runningStatsOf_if_concat, ← sampled.sideStats_eq]
          simp only [own, Nat.pos_of_ne_zero last, decide_true, Bool.and_true]
          rfl
      · rw [if_neg own, List.append_nil, ← sampled.sideStats_eq, if_neg]
        simp only [own, decide_false, Bool.and_false, Bool.false_and, Bool.false_eq_true,
          not_false_eq_true]

end Steps

/-! ### The statistics of a flow -/

/-- The statistics of the payloads of a direction. -/
def Side.payloadStats (state : PayloadDirState D) : Side → RunningStats D
  | .fwd => state.fwdPayloadStats
  | .bwd => state.bwdPayloadStats

/-- The running statistics and payload counters that are written with a mean, a minimum and a
maximum. -/
inductive Summary where
  | iat
  | fwdIat
  | bwdIat
  | fwdPayload
  | bwdPayload
  | payloadSize
  | payloadByte
  | tcpWindow
  | ipTtl
  | ipTos
  | udpLength
  deriving DecidableEq

/-- The gate behind which a statistic is collected. -/
def Summary.gate : Summary → Gate
  | .iat => .iatStats
  | .fwdIat | .bwdIat => .fwdBwdIats
  | .fwdPayload | .bwdPayload => .payloadDir
  | .payloadSize | .payloadByte => .payload
  | .tcpWindow => .tcp
  | .ipTtl | .ipTos => .ip
  | .udpLength => .udp

/-- The running statistic of a flow. -/
def Summary.stats (fields : Fields D) : Summary → RunningStats D
  | .iat => fields.iat.iatStats
  | .fwdIat => Side.fwd.iatStats fields.iat
  | .bwdIat => Side.bwd.iatStats fields.iat
  | .fwdPayload => Side.fwd.payloadStats fields.payloadDir
  | .bwdPayload => Side.bwd.payloadStats fields.payloadDir
  | .payloadSize => fields.payload.payloadSizeStats
  | .payloadByte => fields.payload.payloadByteStats
  | .tcpWindow => fields.tcp.tcpWindowStats
  | .ipTtl => fields.ip.ipTtlStats
  | .ipTos => fields.ip.ipTosStats
  | .udpLength => fields.udpLenStats

/-- The sizes of the payloads that are not empty. -/
def payloadSizes (infos : List PacketInfo) : List Nat :=
  (infos.map PacketInfo.payloadLen).filter fun size => size > 0

theorem payloadSizes_singleton (info : PacketInfo) :
    payloadSizes [info] = if info.payloadLen > 0 then [info.payloadLen] else [] := by
  simp only [payloadSizes, List.map_cons, List.map_nil, List.filter_cons, List.filter_nil,
    decide_eq_true_eq]

/-- The bytes of the payload that the payload functions are given. -/
def givenBytes (info : PacketInfo) : List Nat :=
  match info.payload with
  | some bytes => (payloadBytes info bytes).map UInt8.toNat
  | none => []

/-- The size of the payload that the payload functions are given. -/
def givenSize (info : PacketInfo) : List Nat :=
  match info.payload with
  | some _ => if info.payloadLen = 0 then [] else [info.payloadLen]
  | none => []

/-- The window a packet of a TCP stream advertises. -/
def advertisedWindow (info : PacketInfo) : List Nat :=
  match info.streamType, info.tcph with
  | .tcp, some tcph => [tcph.window]
  | _, _ => []

/-- The length of a datagram. -/
def datagramLength (info : PacketInfo) : List Nat :=
  if info.streamType = .udp then [u32 (info.payloadLen + 8)] else []

/-- The samples of a statistic. -/
def Summary.samples (infos : List PacketInfo) : Summary → List Nat
  | .iat => timedGaps infos
  | .fwdIat => timedGaps (Side.fwd.of (laterPackets infos))
  | .bwdIat => timedGaps (Side.bwd.of (laterPackets infos))
  | .fwdPayload => payloadSizes (Side.fwd.of infos)
  | .bwdPayload => payloadSizes (Side.bwd.of infos)
  | .payloadSize => infos.flatMap givenSize
  | .payloadByte => infos.flatMap givenBytes
  | .tcpWindow => infos.flatMap advertisedWindow
  | .ipTtl => infos.flatMap fun info => info.iph.toList.map IpHeader.ttl
  | .ipTos => infos.flatMap fun info => info.iph.toList.map IpHeader.tos
  | .udpLength => infos.flatMap datagramLength

section Runs

variable [Double D] {cfg : FeatureConfig} {platform : Platform D}

/-- A statistic that every packet adds its samples to, if they are collected, is made of the
samples of all packets. -/
theorem run_stats (stats : Fields D → RunningStats D) (given : PacketInfo → List Nat)
    (collected : Bool)
    (step : ∀ info fields, stats (dataFields cfg platform info fields) =
      if collected then (given info).foldl addSample (stats fields) else stats fields)
    {fields : Fields D} (start : stats fields = runningStatsInit) (infos : List PacketInfo) :
    stats ((flowMachine cfg platform).run fields infos) =
      runningStatsOf D (if collected then infos.flatMap given else []) := by
  have general : ∀ fields : Fields D, stats ((flowMachine cfg platform).run fields infos) =
      if collected then (infos.flatMap given).foldl addSample (stats fields)
      else stats fields := by
    induction infos with
    | nil =>
      intro fields
      cases collected with
      | true => rfl
      | false => rfl
    | cons info rest inductionHypothesis =>
      intro fields
      rw [Mealy.run_cons, inductionHypothesis,
        show stats ((flowMachine cfg platform).step fields info) = _ from step info fields]
      cases collected with
      | true => simp only [if_true, List.flatMap_cons, List.foldl_append]
      | false => rfl
  rw [general, start]
  cases collected with
  | true => rfl
  | false => rfl

/-- A packet adds the size of its payload to the statistics of its direction. -/
theorem countersCall_payloadStats (side : Side) (info : PacketInfo) (state : CounterState)
    (payload : PayloadDirState D) :
    side.payloadStats (countersCall cfg info state payload).2.1 =
      if cfg.needPayloadDir then
        (if info.direction = side.dir then payloadSizes [info] else []).foldl addSample
          (side.payloadStats payload)
      else side.payloadStats payload := by
  rw [countersCall_payload]
  by_cases sent : (cfg.needPayloadDir && info.payloadLen > 0) = true
  · simp only [Bool.and_eq_true, decide_eq_true_eq] at sent
    simp only [payloadSizes_singleton, sent, decide_true, Bool.and_self, if_true]
    cases side with
    | fwd =>
      by_cases fwd : info.direction = dirFwd
      · simp only [fwd, Side.dir, if_true]
        rfl
      · simp only [fwd, Side.dir, if_false]
        split
        · rfl
        · rfl
    | bwd =>
      by_cases bwd : info.direction = dirBwd
      · simp only [bwd, Side.dir, show (dirBwd = dirFwd) = False from eq_false (by decide),
          if_true, if_false]
        rfl
      · simp only [bwd, Side.dir, if_false]
        split
        · rfl
        · rfl
  · rw [if_neg sent]
    cases collected : cfg.needPayloadDir with
    | true =>
      have unsent : ¬ info.payloadLen > 0 := by
        simpa only [collected, Bool.true_and, decide_eq_true_eq] using sent
      simp only [payloadSizes_singleton, if_neg unsent, ite_self, if_true]
      rfl
    | false => rfl

/-- Every TCP header adds its window. -/
theorem calcProtocolTcpUpdate_windowStats (state : TcpState D) (tcph : TcpHeader)
    (payloadLen window direction tcpSeq tsUs : Nat) :
    (calcProtocolTcpUpdate state tcph payloadLen window direction tcpSeq tsUs).1.tcpWindowStats =
      addSample state.tcpWindowStats window := by
  simp only [calcProtocolTcpUpdate, updateRetransmission, updateRst]
  split_ifs <;> rfl

/-- The payload functions add the size and the bytes of the payload they are given. -/
theorem payloadCall_stats (info : PacketInfo) (state : PayloadState D) :
    let next := (payloadCall cfg info platform state).1
    next.payloadSizeStats =
        (if cfg.enablePayloadStats then (givenSize info).foldl addSample state.payloadSizeStats
          else state.payloadSizeStats) ∧
      next.payloadByteStats =
        if cfg.enablePayloadStats then (givenBytes info).foldl addSample state.payloadByteStats
        else state.payloadByteStats := by
  have byteStats : ∀ (payload : List UInt8) (state : PayloadState D),
      (payload.foldl updatePayloadByte state).payloadByteStats =
        (payload.map UInt8.toNat).foldl addSample state.payloadByteStats := by
    intro payload
    induction payload with
    | nil => exact fun _ => rfl
    | cons byte rest inductionHypothesis => exact fun state => inductionHypothesis _
  unfold payloadCall givenSize givenBytes
  cases info.payload with
  | none => exact ⟨(ite_self _).symm, (ite_self _).symm⟩
  | some bytes =>
    by_cases collected : cfg.enablePayloadStats = true
    · simp only [collected, if_true]
      by_cases empty : info.payloadLen = 0
      · simp only [calcPayloadStats, payloadBytes, empty]
        exact ⟨rfl, rfl⟩
      · simp only [calcPayloadStats, if_neg empty, byteStats]
        rw [foldl_updatePayloadByte PayloadState.payloadSizeStats fun _ _ => rfl]
        exact ⟨rfl, trivial⟩
    · simp only [if_neg collected, and_self]

end Runs

section Flows

variable [Double D] (cfg : FeatureConfig) (platform : Platform D) (streamType : StreamType)
  (first : RawPacket) (rest : List RawPacket)

/-- The inter-arrival times of a flow are those of its packets. -/
theorem flowFields_iatSampled :
    IatSampled cfg (packetInfos cfg streamType (first :: rest))
      (flowFields cfg platform streamType first rest).iat := by
  have start : IatSampled cfg [] (fieldsInit cfg (packetTsUs cfg first) : Fields D).iat :=
    { arrival_eq := rfl
      side_eq := fun side => by cases side <;> rfl
      stats_eq := by split <;> rfl
      sideStats_eq := fun side => by cases side <;> split <;> rfl }
  exact Mealy.run_history (fun seen (fields : Fields D) => IatSampled cfg seen fields.iat)
    (fun _ _ info sampled => sampled.step info) start _

/-- The payload statistics of a direction are made of the sizes of its payloads. -/
theorem flowFields_payloadStats (side : Side) :
    side.payloadStats (flowFields cfg platform streamType first rest).payloadDir =
      runningStatsOf D (if cfg.needPayloadDir then
        payloadSizes (side.of (packetInfos cfg streamType (first :: rest))) else []) := by
  have sizes_eq : ∀ infos : List PacketInfo,
      (infos.flatMap fun info => payloadSizes [info]) = payloadSizes infos := by
    intro infos
    induction infos with
    | nil => rfl
    | cons info rest inductionHypothesis =>
      rw [List.flatMap_cons, inductionHypothesis]
      exact (List.filter_append [info.payloadLen] (rest.map PacketInfo.payloadLen)).symm
  rw [← sizes_eq, ← flatMap_side]
  exact run_stats (fun fields => side.payloadStats fields.payloadDir) _ cfg.needPayloadDir
    (fun info fields => countersCall_payloadStats side info fields.counters fields.payloadDir)
    (by cases side <;> rfl) _

/-- Every running statistic of a flow is made of its samples, if they are collected. -/
theorem Summary.flowFields_stats (summary : Summary) :
    summary.stats (flowFields cfg platform streamType first rest) = runningStatsOf D
      (if summary.gate.on cfg then summary.samples (packetInfos cfg streamType (first :: rest))
        else []) := by
  have sampled := flowFields_iatSampled cfg platform streamType first rest
  cases summary with
  | iat => exact sampled.stats_eq
  | fwdIat => exact sampled.sideStats_eq .fwd
  | bwdIat => exact sampled.sideStats_eq .bwd
  | fwdPayload => exact flowFields_payloadStats cfg platform streamType first rest .fwd
  | bwdPayload => exact flowFields_payloadStats cfg platform streamType first rest .bwd
  | payloadSize =>
    exact run_stats (fun fields => fields.payload.payloadSizeStats) givenSize _
      (fun info fields => (payloadCall_stats info fields.payload).1) rfl _
  | payloadByte =>
    exact run_stats (fun fields => fields.payload.payloadByteStats) givenBytes _
      (fun info fields => (payloadCall_stats info fields.payload).2) rfl _
  | tcpWindow =>
    refine run_stats (fun fields => fields.tcp.tcpWindowStats) advertisedWindow
      (cfg.enableProtocolTcpFlags || cfg.enableProtocolTcpWindow) ?_ rfl _
    intro info fields
    show (tcpCall cfg info fields.tcp).1.tcpWindowStats = _
    unfold tcpCall advertisedWindow
    cases info.streamType with
    | udp => exact (ite_self _).symm
    | tcp =>
      cases info.tcph with
      | none => exact (ite_self _).symm
      | some tcph =>
        dsimp only
        split
        · exact calcProtocolTcpUpdate_windowStats fields.tcp tcph _ _ _ _ _
        · rfl
  | ipTtl =>
    refine run_stats (fun fields => fields.ip.ipTtlStats) _ cfg.enableProtocolIp ?_ rfl _
    intro info fields
    show (ipCall cfg info fields.ip).1.ipTtlStats = _
    unfold ipCall
    cases info.iph with
    | none => exact (ite_self _).symm
    | some iph =>
      dsimp only
      split
      · rfl
      · rfl
  | ipTos =>
    refine run_stats (fun fields => fields.ip.ipTosStats) _ cfg.enableProtocolIp ?_ rfl _
    intro info fields
    show (ipCall cfg info fields.ip).1.ipTosStats = _
    unfold ipCall
    cases info.iph with
    | none => exact (ite_self _).symm
    | some iph =>
      dsimp only
      split
      · rfl
      · rfl
  | udpLength =>
    refine run_stats (fun fields => fields.udpLenStats) datagramLength cfg.enableProtocolUdp ?_
      rfl _
    intro info fields
    show (udpCall cfg info fields.udpLenStats).1 = _
    unfold udpCall datagramLength
    by_cases udp : info.streamType = .udp
    · simp only [udp, true_and, if_true]
      split
      · rfl
      · rfl
    · simp only [udp, false_and, if_false]
      exact (ite_self _).symm

end Flows

end TiFeatures
