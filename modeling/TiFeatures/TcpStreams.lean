/-
This file follows the two TCP streams of a flow through `calc_protocol_tcp_update`.
A retransmission is counted where a sequence number does not exceed the last one of
its direction as an integer, so an in-order stream that passes the end of the
sequence space counts one for every passage. A window update is counted against the
last window of either direction, so what is counted depends on how the two streams
are interleaved.
-/

import TiFeatures.Samples
import TiFeatures.PayloadBytes
import TiFeatures.Responses

namespace TiFeatures

variable {D : Type} [Double D]

/-! ### Calls -/

/-- The arguments of a call of `calc_protocol_tcp_update`. -/
structure TcpPacket where
  tcph : TcpHeader
  payloadLen : Nat
  window : Nat
  direction : Nat
  tcpSeq : Nat
  tsUs : Nat
  deriving DecidableEq

/-- The state after a call. -/
def TcpState.receive (state : TcpState D) (packet : TcpPacket) : TcpState D :=
  (calcProtocolTcpUpdate state packet.tcph packet.payloadLen packet.window packet.direction
    packet.tcpSeq packet.tsUs).1

/-- The state after a call for each of some packets. -/
def tcpRun (D : Type) [Double D] (packets : List TcpPacket) : TcpState D :=
  packets.foldl TcpState.receive tcpStateInit

theorem tcpRun_concat (packets : List TcpPacket) (packet : TcpPacket) :
    tcpRun D (packets ++ [packet]) = (tcpRun D packets).receive packet :=
  List.foldl_concat _ _ _ _

/-- The call that a packet of a flow leads to. -/
def PacketInfo.tcpPacket (info : PacketInfo) : Option TcpPacket :=
  match info.streamType, info.tcph with
  | .tcp, some tcph =>
    some ⟨tcph, info.payloadLen, tcph.window, info.direction, tcph.seq, info.tsUs⟩
  | _, _ => none

theorem filterMap_tcpPacket_singleton (info : PacketInfo) :
    [info].filterMap PacketInfo.tcpPacket = info.tcpPacket.toList := by
  rw [List.filterMap_cons]
  cases info.tcpPacket with
  | none => rfl
  | some packet => rfl

/-- The TCP state of a flow is that of the calls its packets lead to. -/
theorem flowFields_tcp {cfg : FeatureConfig}
    (counted : (cfg.enableProtocolTcpFlags || cfg.enableProtocolTcpWindow) = true)
    (platform : Platform D) (streamType : StreamType) (first : RawPacket) (rest : List RawPacket) :
    (flowFields cfg platform streamType first rest).tcp =
      tcpRun D ((packetInfos cfg streamType (first :: rest)).filterMap PacketInfo.tcpPacket) := by
  have start : (fieldsInit cfg (packetTsUs cfg first) : Fields D).tcp =
      tcpRun D (([] : List PacketInfo).filterMap PacketInfo.tcpPacket) := rfl
  refine Mealy.run_history (fun infos (fields : Fields D) =>
    fields.tcp = tcpRun D (infos.filterMap PacketInfo.tcpPacket))
    (fun infos fields info before => ?_) start _
  show (tcpCall cfg info fields.tcp).1 = _
  rw [before, List.filterMap_append, filterMap_tcpPacket_singleton, tcpCall, PacketInfo.tcpPacket]
  cases info.streamType with
  | udp => simp only [Option.toList_none, List.append_nil]
  | tcp =>
    cases info.tcph with
    | none => simp only [Option.toList_none, List.append_nil]
    | some tcph =>
      simp only [if_pos counted]
      rw [Option.toList_some, tcpRun_concat]
      rfl

/-! ### Retransmissions -/

theorem dirBwd_ne_dirFwd : (dirBwd = dirFwd) = False := eq_false (by decide)

/-- The sequence number that is remembered of a direction. -/
def Side.lastSeq (state : TcpState D) : Side → Option Nat
  | .fwd => if state.hasLastFwdSeq then some state.lastFwdSeq else none
  | .bwd => if state.hasLastBwdSeq then some state.lastBwdSeq else none

/-- The packet is a segment with payload of a direction. -/
def Side.isSegment (side : Side) (packet : TcpPacket) : Prop :=
  packet.payloadLen > 0 ∧ packet.direction = side.dir

instance (side : Side) : DecidablePred side.isSegment := fun packet =>
  inferInstanceAs (Decidable (packet.payloadLen > 0 ∧ packet.direction = side.dir))

/-- The segments of a direction. -/
def Side.segments (side : Side) (packets : List TcpPacket) : List TcpPacket :=
  packets.filter fun packet => side.isSegment packet

/-- The sequence number of a segment does not exceed the last one of its direction. -/
def Side.regresses (side : Side) (state : TcpState D) (packet : TcpPacket) : Bool :=
  side.isSegment packet && (side.lastSeq state).any fun last => packet.tcpSeq ≤ last

/-- What a call does to the fields of the retransmission part. -/
theorem receive_sequences (state : TcpState D) (packet : TcpPacket) :
    let next := state.receive packet
    let updated := if packet.payloadLen > 0 then
        updateRetransmission state packet.direction packet.tcpSeq
      else state
    (next.hasLastFwdSeq = updated.hasLastFwdSeq ∧ next.lastFwdSeq = updated.lastFwdSeq) ∧
      (next.hasLastBwdSeq = updated.hasLastBwdSeq ∧ next.lastBwdSeq = updated.lastBwdSeq) ∧
      next.tcpRetransmissionCount = updated.tcpRetransmissionCount := by
  simp only [TcpState.receive, calcProtocolTcpUpdate, updateRetransmission, updateRst]
  split_ifs <;> exact ⟨⟨rfl, rfl⟩, ⟨rfl, rfl⟩, rfl⟩

/-- A segment is remembered by its direction. -/
theorem receive_lastSeq (state : TcpState D) (packet : TcpPacket) (side : Side) :
    side.lastSeq (state.receive packet) =
      if side.isSegment packet then some packet.tcpSeq else side.lastSeq state := by
  obtain ⟨⟨hasFwd, lastFwd⟩, ⟨hasBwd, lastBwd⟩, -⟩ := receive_sequences state packet
  cases side with
  | fwd =>
    rw [Side.lastSeq, hasFwd, lastFwd]
    simp only [Side.isSegment, Side.dir, updateRetransmission]
    by_cases nonempty : packet.payloadLen > 0
    · by_cases fwd : packet.direction = dirFwd
      · simp only [nonempty, fwd, and_self, if_true]
      · simp only [nonempty, fwd, and_false, if_true, if_false]
        split <;> rfl
    · simp only [nonempty, false_and, if_false]
      rfl
  | bwd =>
    rw [Side.lastSeq, hasBwd, lastBwd]
    simp only [Side.isSegment, Side.dir, updateRetransmission]
    by_cases nonempty : packet.payloadLen > 0
    · by_cases bwd : packet.direction = dirBwd
      · simp only [nonempty, bwd, and_self, if_true, dirBwd_ne_dirFwd, if_false]
      · simp only [nonempty, bwd, and_false, if_true, if_false]
        split <;> rfl
    · simp only [nonempty, false_and, if_false]
      rfl

/-- A segment that does not exceed the last one of its direction counts. -/
theorem receive_retransmissions (state : TcpState D) (packet : TcpPacket) :
    (state.receive packet).tcpRetransmissionCount =
      countIf (Side.fwd.regresses state packet || Side.bwd.regresses state packet)
        state.tcpRetransmissionCount := by
  obtain ⟨-, -, count⟩ := receive_sequences state packet
  rw [count]
  simp only [Side.regresses, Side.isSegment, Side.dir, Side.lastSeq, updateRetransmission]
  by_cases nonempty : packet.payloadLen > 0
  · by_cases fwd : packet.direction = dirFwd
    · simp only [nonempty, fwd, dirFwd_ne_dirBwd, if_true]
      cases state.hasLastFwdSeq <;> simp
    · by_cases bwd : packet.direction = dirBwd
      · simp only [nonempty, bwd, dirBwd_ne_dirFwd, if_true, if_false]
        cases state.hasLastBwdSeq <;> simp
      · simp only [nonempty, fwd, bwd, if_true, if_false]
        rfl
  · simp only [nonempty, false_and, if_false]
    rfl

/-- How many adjacent pairs of a list are related. -/
def adjacentCount {Item : Type} (related : Item → Item → Bool) (items : List Item) : Nat :=
  (items.zip items.tail).countP fun pair => related pair.1 pair.2

omit [Double D] in
theorem adjacentCount_concat {Item : Type} (related : Item → Item → Bool) (items : List Item)
    (item : Item) : adjacentCount related (items ++ [item]) =
      adjacentCount related items +
        if items.getLast?.any fun last => related last item then 1 else 0 := by
  rw [adjacentCount, zip_tail_concat, List.countP_append]
  cases items.getLast? with
  | none => rfl
  | some last => rw [Option.toList_some, List.map_singleton, List.countP_singleton]; rfl

/-- How often a segment of a direction does not exceed the one before. -/
def Side.regressions (side : Side) (packets : List TcpPacket) : Nat :=
  adjacentCount (fun last next => next.tcpSeq ≤ last.tcpSeq) (side.segments packets)

omit [Double D] in
theorem Side.segments_concat (side : Side) (packets : List TcpPacket) (packet : TcpPacket) :
    side.segments (packets ++ [packet]) =
      if side.isSegment packet then side.segments packets ++ [packet]
      else side.segments packets := by
  rw [Side.segments, List.filter_append, List.filter_singleton]
  by_cases segment : side.isSegment packet
  · rw [if_pos segment, decide_eq_true segment]
    rfl
  · rw [if_neg segment, decide_eq_false segment]
    exact List.append_nil _

/-- What is remembered of a direction is the sequence number of its last segment. -/
theorem tcpRun_lastSeq (side : Side) (packets : List TcpPacket) :
    side.lastSeq (tcpRun D packets) = (side.segments packets).getLast?.map TcpPacket.tcpSeq := by
  induction packets using List.reverseRecOn with
  | nil => cases side <;> rfl
  | append_singleton packets packet inductionHypothesis =>
    rw [tcpRun_concat, receive_lastSeq, Side.segments_concat, inductionHypothesis]
    by_cases segment : side.isSegment packet
    · rw [if_pos segment, if_pos segment, List.getLast?_concat, Option.map_some]
    · rw [if_neg segment, if_neg segment]

/-- The regressions of a direction grow by one where a segment regresses. -/
theorem Side.regressions_concat (side : Side) (packets : List TcpPacket) (packet : TcpPacket) :
    side.regressions (packets ++ [packet]) = side.regressions packets +
      if side.regresses (tcpRun D packets) packet then 1 else 0 := by
  rw [Side.regressions, Side.regressions, Side.segments_concat, Side.regresses, tcpRun_lastSeq,
    Option.any_map]
  by_cases segment : side.isSegment packet
  · rw [if_pos segment, adjacentCount_concat, decide_eq_true segment, Bool.true_and]
  · rw [if_neg segment, decide_eq_false segment, Bool.false_and, if_neg Bool.false_ne_true,
      Nat.add_zero]

omit [Double D] in
/-- A packet has one direction. -/
theorem not_regresses_both (state : TcpState D) (packet : TcpPacket) :
    (Side.fwd.regresses state packet && Side.bwd.regresses state packet) = false := by
  refine Bool.eq_false_iff.mpr fun both => ?_
  simp only [Side.regresses, Bool.and_eq_true, decide_eq_true_eq] at both
  exact absurd (both.1.1.2.symm.trans both.2.1.2) (by decide)

/-- The retransmissions counted are the regressions of both directions. -/
theorem tcpRun_retransmissions (packets : List TcpPacket) :
    (tcpRun D packets).tcpRetransmissionCount =
      u32 (Side.fwd.regressions packets + Side.bwd.regressions packets) := by
  induction packets using List.reverseRecOn with
  | nil => rfl
  | append_singleton packets packet inductionHypothesis =>
    rw [tcpRun_concat, receive_retransmissions, inductionHypothesis,
      Side.regressions_concat (D := D) .fwd, Side.regressions_concat (D := D) .bwd]
    have both := not_regresses_both (tcpRun D packets) packet
    cases fwd : Side.fwd.regresses (tcpRun D packets) packet with
    | true =>
      rw [fwd, Bool.true_and] at both
      rw [both, Bool.true_or, countIf, if_pos rfl, if_pos rfl, u32_add_u32,
        if_neg Bool.false_ne_true]
      exact congrArg u32 (by omega)
    | false =>
      cases bwd : Side.bwd.regresses (tcpRun D packets) packet with
      | true =>
        rw [Bool.or_true, countIf, if_pos rfl, if_pos rfl, u32_add_u32, if_neg Bool.false_ne_true]
        exact congrArg u32 (by omega)
      | false => rfl

/-! ### Streams in order -/

/-- A segment starts where the one before ends, modulo the sequence space. -/
def TcpPacket.precedes (last next : TcpPacket) : Prop :=
  next.tcpSeq = u32 (last.tcpSeq + last.payloadLen)

instance : DecidableRel TcpPacket.precedes := fun last next =>
  inferInstanceAs (Decidable (next.tcpSeq = u32 (last.tcpSeq + last.payloadLen)))

/-- The segments of both directions are in order, however the directions are interleaved with
each other and with packets that carry no payload. -/
structure InOrder (packets : List TcpPacket) : Prop where
  chained : ∀ side : Side, (side.segments packets).IsChain TcpPacket.precedes
  tcpSeq_lt : ∀ packet ∈ packets, packet.tcpSeq < 2 ^ 32
  payloadLen_lt : ∀ packet ∈ packets, packet.payloadLen < 2 ^ 31

/-- The sequence number of the last segment, counted on from the first without wrapping. -/
def unwrappedSeq : List TcpPacket → Nat
  | [] => 0
  | first :: rest => first.tcpSeq + ((first :: rest).dropLast.map TcpPacket.payloadLen).sum

/-- How often a direction passes the end of the sequence space before its last segment. -/
def Side.passages (side : Side) (packets : List TcpPacket) : Nat :=
  unwrappedSeq (side.segments packets) / 2 ^ 32

/-- A segment in order regresses where the one before reaches the end of the sequence space. -/
theorem adjacentCount_inOrder (segments : List TcpPacket)
    (chained : segments.IsChain TcpPacket.precedes)
    (bounded : ∀ segment ∈ segments,
      segment.tcpSeq < 2 ^ 32 ∧ 0 < segment.payloadLen ∧ segment.payloadLen < 2 ^ 31) :
    adjacentCount (fun last next => next.tcpSeq ≤ last.tcpSeq) segments =
      unwrappedSeq segments / 2 ^ 32 := by
  induction segments with
  | nil => rfl
  | cons first rest inductionHypothesis =>
    obtain ⟨first_lt, nonempty, short⟩ := bounded first List.mem_cons_self
    cases rest with
    | nil =>
      have single : unwrappedSeq [first] = first.tcpSeq := Nat.add_zero _
      rw [single, Nat.div_eq_of_lt first_lt]
      rfl
    | cons second others =>
      obtain ⟨next, later⟩ := List.isChain_cons_cons.mp chained
      have after := inductionHypothesis later fun segment member =>
        bounded segment (List.mem_cons_of_mem _ member)
      have counted : adjacentCount (fun last next => next.tcpSeq ≤ last.tcpSeq)
          (first :: second :: others) =
          adjacentCount (fun last next => next.tcpSeq ≤ last.tcpSeq) (second :: others) +
            if decide (second.tcpSeq ≤ first.tcpSeq) = true then 1 else 0 :=
        List.countP_cons
      have unwrapped : unwrappedSeq (first :: second :: others) + second.tcpSeq =
          first.tcpSeq + first.payloadLen + unwrappedSeq (second :: others) := by
        simp only [unwrappedSeq, List.dropLast_cons_cons, List.map_cons, List.sum_cons]
        omega
      rw [counted, after]
      unfold TcpPacket.precedes u32 at next
      by_cases regress : second.tcpSeq ≤ first.tcpSeq
      · rw [if_pos (decide_eq_true regress)]
        omega
      · rw [if_neg fun decided => regress (of_decide_eq_true decided)]
        omega

omit [Double D] in
/-- In a run in order the regressions of a direction are its passages. -/
theorem InOrder.regressions_eq {packets : List TcpPacket} (inOrder : InOrder packets)
    (side : Side) : side.regressions packets = side.passages packets := by
  refine adjacentCount_inOrder _ (inOrder.chained side) fun segment member => ?_
  obtain ⟨inside, segmentOf⟩ := List.mem_filter.mp member
  exact ⟨inOrder.tcpSeq_lt segment inside, (of_decide_eq_true segmentOf).1,
    inOrder.payloadLen_lt segment inside⟩

/-- In a run in order nothing is retransmitted, and nothing is counted as a retransmission exactly
where the passages of the sequence space of both directions are none (or wrap the counter). -/
theorem tcpRun_inOrder_iff (packets : List TcpPacket) (inOrder : InOrder packets) :
    (tcpRun D packets).tcpRetransmissionCount = 0 ↔
      2 ^ 32 ∣ Side.fwd.passages packets + Side.bwd.passages packets := by
  rw [tcpRun_retransmissions, inOrder.regressions_eq .fwd, inOrder.regressions_eq .bwd]
  exact Nat.dvd_iff_mod_eq_zero.symm

/-- A segment with the fields that matter here. -/
def bareSegment (direction tcpSeq payloadLen window : Nat) : TcpPacket where
  tcph := ⟨tcpSeq, 5, false, false, false, false, true, false, window⟩
  payloadLen
  window
  direction
  tcpSeq
  tsUs := 0

/-- A stream that starts close to the end of the sequence space. -/
def wrappingStream : List TcpPacket :=
  [bareSegment 1 4294967196 100 1000, bareSegment 2 7 0 1000, bareSegment 1 0 100 1000]

theorem wrappingStream_inOrder : InOrder wrappingStream where
  chained side := by cases side <;> decide
  tcpSeq_lt := by decide
  payloadLen_lt := by decide

/-- A new segment behind the end of the sequence space counts as retransmitted. -/
theorem tcpRun_inOrder_wraps :
    InOrder wrappingStream ∧ (tcpRun ℝ wrappingStream).tcpRetransmissionCount ≠ 0 := by
  refine ⟨wrappingStream_inOrder, ?_⟩
  rw [tcpRun_retransmissions]
  decide

/-- A stream that stays below the end of the sequence space. -/
def risingStream : List TcpPacket :=
  [bareSegment 1 1000 100 1000, bareSegment 2 7 0 1000, bareSegment 1 1100 100 1000]

theorem risingStream_inOrder : InOrder risingStream where
  chained side := by cases side <;> decide
  tcpSeq_lt := by decide
  payloadLen_lt := by decide

theorem tcpRun_inOrder_rising : (tcpRun ℝ risingStream).tcpRetransmissionCount = 0 :=
  (tcpRun_inOrder_iff risingStream risingStream_inOrder).mpr (by decide)

/-! ### Window updates -/

/-- The packet acknowledges and carries no payload. -/
def TcpPacket.isPureAck (packet : TcpPacket) : Bool := packet.tcph.ack && packet.payloadLen == 0

/-- A packet updates the window against another one. -/
def updatesWindow (last next : TcpPacket) : Bool := next.isPureAck && next.window != last.window

/-- The packets of a direction. -/
def Side.tcpPackets (side : Side) (packets : List TcpPacket) : List TcpPacket :=
  packets.filter fun packet => packet.direction = side.dir

/-- What a call does to the fields of the window part. -/
theorem receive_window (state : TcpState D) (packet : TcpPacket) :
    let next := state.receive packet
    next.hasLastTcpWindow = true ∧ next.lastTcpWindow = packet.window ∧
      next.tcpWindowUpdateCount = countIf (state.hasLastTcpWindow && packet.isPureAck &&
        packet.window != state.lastTcpWindow) state.tcpWindowUpdateCount := by
  simp only [TcpState.receive, calcProtocolTcpUpdate, updateRetransmission, updateRst,
    TcpPacket.isPureAck, ← Bool.and_assoc]
  split_ifs <;> exact ⟨rfl, rfl, rfl⟩

/-- A window update is counted against the packet before, of whatever direction. -/
theorem tcpRun_windowUpdates (packets : List TcpPacket) :
    (if (tcpRun D packets).hasLastTcpWindow then some (tcpRun D packets).lastTcpWindow else none) =
        packets.getLast?.map TcpPacket.window ∧
      (tcpRun D packets).tcpWindowUpdateCount = u32 (adjacentCount updatesWindow packets) := by
  induction packets using List.reverseRecOn with
  | nil => exact ⟨rfl, rfl⟩
  | append_singleton packets packet inductionHypothesis =>
    obtain ⟨has, last, count⟩ := receive_window (tcpRun D packets) packet
    rw [tcpRun_concat, has, last, count, List.getLast?_concat, adjacentCount_concat]
    refine ⟨rfl, ?_⟩
    obtain ⟨remembered, counted⟩ := inductionHypothesis
    rw [counted]
    cases has : (tcpRun D packets).hasLastTcpWindow with
    | false =>
      rw [has, if_neg Bool.false_ne_true] at remembered
      rw [Option.map_eq_none_iff.mp remembered.symm]
      rfl
    | true =>
      rw [has, if_pos rfl] at remembered
      obtain ⟨before, before_eq, window_eq⟩ := Option.map_eq_some_iff.mp remembered.symm
      rw [before_eq, ← window_eq, Bool.true_and, Option.any_some, updatesWindow, countIf]
      split
      · exact u32_add_u32 _ _
      · rfl

/-! ### One state for both directions -/

/-- The packets of a run, each with those before it. -/
def occasions {Item : Type} (items : List Item) : List (List Item × Item) :=
  items.inits.zip items

/-- A packet updates the window against the last of some packets before it. -/
def updatesAfter (before : List TcpPacket) (packet : TcpPacket) : Bool :=
  before.getLast?.any fun last => updatesWindow last packet

/-- The packet updates the window of its own direction. -/
def updatesOwn (before : List TcpPacket) (packet : TcpPacket) : Bool :=
  (packet.direction == dirFwd && updatesAfter (Side.fwd.tcpPackets before) packet) ||
    (packet.direction == dirBwd && updatesAfter (Side.bwd.tcpPackets before) packet)

/-- The packets that differ from the one before, but not from the last one of their direction. -/
def spuriousUpdates (packets : List TcpPacket) : Nat :=
  (occasions packets).countP fun occasion =>
    updatesAfter occasion.1 occasion.2 && !updatesOwn occasion.1 occasion.2

/-- The packets that differ from the last one of their direction, but not from the one before. -/
def missedUpdates (packets : List TcpPacket) : Nat :=
  (occasions packets).countP fun occasion =>
    updatesOwn occasion.1 occasion.2 && !updatesAfter occasion.1 occasion.2

omit [Double D] in
theorem occasions_concat {Item : Type} (items : List Item) (item : Item) :
    occasions (items ++ [item]) = occasions items ++ [(items, item)] := by
  have cons_eq : ∀ (first : Item) (rest : List Item), occasions (first :: rest) =
      ([], first) :: (occasions rest).map (Prod.map (first :: ·) id) := by
    intro first rest
    rw [occasions, List.inits_cons, List.zip_cons_cons, occasions, List.zip_map_left]
  induction items with
  | nil => rfl
  | cons first rest inductionHypothesis =>
    rw [List.cons_append, cons_eq, inductionHypothesis, cons_eq, List.map_append]
    rfl

omit [Double D] in
/-- The updates against the packet before, packet by packet. -/
theorem adjacentCount_updatesWindow (packets : List TcpPacket) :
    adjacentCount updatesWindow packets =
      (occasions packets).countP fun occasion => updatesAfter occasion.1 occasion.2 := by
  induction packets using List.reverseRecOn with
  | nil => rfl
  | append_singleton packets packet inductionHypothesis =>
    rw [adjacentCount_concat, occasions_concat, List.countP_append, List.countP_singleton,
      inductionHypothesis]
    rfl

omit [Double D] in
/-- The updates of one direction, packet by packet of the run. -/
theorem adjacentCount_tcpPackets (side : Side) (packets : List TcpPacket) :
    adjacentCount updatesWindow (side.tcpPackets packets) =
      (occasions packets).countP fun occasion => occasion.2.direction == side.dir &&
        updatesAfter (side.tcpPackets occasion.1) occasion.2 := by
  induction packets using List.reverseRecOn with
  | nil => rfl
  | append_singleton packets packet inductionHypothesis =>
    rw [occasions_concat, List.countP_append, List.countP_singleton, ← inductionHypothesis,
      Side.tcpPackets, List.filter_append, List.filter_singleton]
    by_cases own : packet.direction = side.dir
    · rw [decide_eq_true own, beq_iff_eq.mpr own, Bool.true_and]
      exact adjacentCount_concat updatesWindow (side.tcpPackets packets) packet
    · rw [decide_eq_false own, beq_eq_false_iff_ne.mpr own, Bool.false_and,
        if_neg Bool.false_ne_true]
      exact congrArg (adjacentCount updatesWindow) (List.append_nil _)

/-- The items of two kinds that exclude each other count together. -/
theorem countP_add_countP_or {Item : Type} (first second : Item → Bool)
    (apart : ∀ item, ¬ (first item && second item) = true) (items : List Item) :
    items.countP first + items.countP second =
      items.countP fun item => first item || second item := by
  induction items with
  | nil => rfl
  | cons item items inductionHypothesis =>
    have excluded := apart item
    rw [List.countP_cons, List.countP_cons, List.countP_cons]
    cases isFirst : first item <;> cases isSecond : second item <;> simp_all <;> omega

omit [Double D] in
/-- The updates of both directions, packet by packet of the run. -/
theorem adjacentCount_own (packets : List TcpPacket) :
    adjacentCount updatesWindow (Side.fwd.tcpPackets packets) +
        adjacentCount updatesWindow (Side.bwd.tcpPackets packets) =
      (occasions packets).countP fun occasion => updatesOwn occasion.1 occasion.2 := by
  rw [adjacentCount_tcpPackets, adjacentCount_tcpPackets]
  refine countP_add_countP_or _ _ (fun occasion both => ?_) _
  simp only [Bool.and_eq_true, beq_iff_eq] at both
  exact absurd (both.1.1.symm.trans both.2.1) (by decide)

/-- The items of one kind and not the other make up the difference of the counts. -/
theorem countP_add_countP_not {Item : Type} (first second : Item → Bool) (items : List Item) :
    items.countP first + items.countP (fun item => second item && !first item) =
      items.countP second + items.countP fun item => first item && !second item := by
  induction items with
  | nil => rfl
  | cons item items inductionHypothesis =>
    rw [List.countP_cons, List.countP_cons, List.countP_cons, List.countP_cons]
    cases first item <;> cases second item <;> simp <;> omega

/-- Every packet has one of the two directions and the window that its side advertises
throughout. -/
def ConstantWindows (fwdWindow bwdWindow : Nat) (packets : List TcpPacket) : Prop :=
  ∀ packet ∈ packets, (packet.direction = dirFwd ∧ packet.window = fwdWindow) ∨
    (packet.direction = dirBwd ∧ packet.window = bwdWindow)

/-- The packet acknowledges without payload, right after a packet of the other side. -/
def answersOther (last next : TcpPacket) : Bool :=
  next.isPureAck && next.direction != last.direction

omit [Double D] in
/-- Of constant windows that differ, those are updates that follow the other side. -/
theorem adjacentCount_constant {fwdWindow bwdWindow : Nat} {packets : List TcpPacket}
    (constant : ConstantWindows fwdWindow bwdWindow packets) :
    adjacentCount updatesWindow packets =
      if fwdWindow = bwdWindow then 0 else adjacentCount answersOther packets := by
  have sides : ∀ pair ∈ packets.zip packets.tail, updatesWindow pair.1 pair.2 =
      (answersOther pair.1 pair.2 && fwdWindow != bwdWindow) := by
    intro pair member
    obtain ⟨first, second⟩ := List.of_mem_zip (a := pair.1) (b := pair.2) member
    rw [updatesWindow, answersOther]
    rcases constant _ first with ⟨dir, window⟩ | ⟨dir, window⟩
    · rcases constant _ (List.mem_of_mem_tail second) with ⟨dir', window'⟩ | ⟨dir', window'⟩
      · rw [dir, window, dir', window', bne_self_eq_false, bne_self_eq_false, Bool.and_false,
          Bool.false_and]
      · rw [dir, window, dir', window', show (dirBwd != dirFwd) = true from rfl, Bool.and_true,
          bne_comm]
    · rcases constant _ (List.mem_of_mem_tail second) with ⟨dir', window'⟩ | ⟨dir', window'⟩
      · rw [dir, window, dir', window', show (dirFwd != dirBwd) = true from rfl, Bool.and_true]
      · rw [dir, window, dir', window', bne_self_eq_false, bne_self_eq_false, Bool.and_false,
          Bool.false_and]
  rw [adjacentCount, List.countP_congr fun pair member => by rw [sides pair member]]
  by_cases same : fwdWindow = bwdWindow
  · rw [if_pos same]
    refine List.countP_eq_zero.mpr fun pair _ => ?_
    rw [same, bne_self_eq_false, Bool.and_false]
    exact Bool.false_ne_true
  · rw [if_neg same]
    refine List.countP_congr fun pair _ => ?_
    rw [bne_iff_ne.mpr same, Bool.and_true]

/-- The number of window updates is the sum over the directions exactly when as many are counted
that are none of their direction as are missed. Of constant windows that differ, every pure
acknowledgement right after a packet of the other side is counted. -/
theorem tcpRun_windowUpdates_iff (packets : List TcpPacket) :
    ((tcpRun D packets).tcpWindowUpdateCount =
        u32 ((tcpRun D (Side.fwd.tcpPackets packets)).tcpWindowUpdateCount +
          (tcpRun D (Side.bwd.tcpPackets packets)).tcpWindowUpdateCount) ↔
      u32 (spuriousUpdates packets) = u32 (missedUpdates packets)) ∧
    ∀ fwdWindow bwdWindow : Nat, ConstantWindows fwdWindow bwdWindow packets →
      ((tcpRun D packets).tcpWindowUpdateCount = 0 ↔
        fwdWindow = bwdWindow ∨ 2 ^ 32 ∣ adjacentCount answersOther packets) := by
  have balance := countP_add_countP_not
    (fun occasion : List TcpPacket × TcpPacket => updatesAfter occasion.1 occasion.2)
    (fun occasion => updatesOwn occasion.1 occasion.2) (occasions packets)
  refine ⟨?_, fun fwdWindow bwdWindow constant => ?_⟩
  · rw [(tcpRun_windowUpdates packets).2, (tcpRun_windowUpdates (Side.fwd.tcpPackets packets)).2,
      (tcpRun_windowUpdates (Side.bwd.tcpPackets packets)).2, u32_add_u32, Nat.add_comm,
      u32_add_u32, Nat.add_comm, adjacentCount_own, adjacentCount_updatesWindow, spuriousUpdates,
      missedUpdates]
    unfold u32
    omega
  · rw [(tcpRun_windowUpdates packets).2, adjacentCount_constant constant]
    by_cases same : fwdWindow = bwdWindow
    · rw [if_pos same]
      exact iff_of_true rfl (Or.inl same)
    · rw [if_neg same, or_iff_right same]
      exact Nat.dvd_iff_mod_eq_zero.symm

/-- The acknowledgements of two sides that never change their windows. -/
def constantSides : List TcpPacket := [bareSegment 1 0 0 1000, bareSegment 2 0 0 2000]

/-- The window of one side counts as an update of the other. -/
theorem tcpRun_windowUpdates_constant :
    ConstantWindows 1000 2000 constantSides ∧
      (tcpRun ℝ constantSides).tcpWindowUpdateCount = 1 ∧
      (tcpRun ℝ (Side.fwd.tcpPackets constantSides)).tcpWindowUpdateCount = 0 ∧
      (tcpRun ℝ (Side.bwd.tcpPackets constantSides)).tcpWindowUpdateCount = 0 := by
  refine ⟨by unfold ConstantWindows; decide, ?_, ?_, ?_⟩
  · rw [(tcpRun_windowUpdates _).2]
    decide
  · rw [(tcpRun_windowUpdates _).2]
    decide
  · rw [(tcpRun_windowUpdates _).2]
    decide

/-- The acknowledgements of two sides that begin with the same window, until one of them opens
its own. -/
def openingSides : List TcpPacket :=
  [bareSegment 1 0 0 1000, bareSegment 2 0 0 1000, bareSegment 1 0 0 1000, bareSegment 2 0 0 2000]

/-- Updates are those of the directions where the acknowledgements of both sides alternate. -/
theorem tcpRun_windowUpdates_alternating :
    ((tcpRun ℝ openingSides).tcpWindowUpdateCount =
        u32 ((tcpRun ℝ (Side.fwd.tcpPackets openingSides)).tcpWindowUpdateCount +
          (tcpRun ℝ (Side.bwd.tcpPackets openingSides)).tcpWindowUpdateCount) ∧
      (tcpRun ℝ openingSides).tcpWindowUpdateCount = 1) ∧
    (tcpRun ℝ (openingSides.take 3)).tcpWindowUpdateCount = 0 := by
  refine ⟨⟨(tcpRun_windowUpdates_iff openingSides).1.mpr (by decide), ?_⟩, ?_⟩
  · rw [(tcpRun_windowUpdates _).2]
    decide
  · exact ((tcpRun_windowUpdates_iff (openingSides.take 3)).2 1000 1000
      (by unfold ConstantWindows; decide)).mpr (Or.inl rfl)

end TiFeatures
