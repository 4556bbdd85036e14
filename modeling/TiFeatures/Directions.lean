/-
This file proves that what a flow records of one direction is a function of the
packets of that direction alone. The arrays are relocated by upgrades whose time
depends on the packets of both directions, and none of this can be seen.
-/

import TiFeatures.Calls
import TiFeatures.Rings

namespace TiFeatures

open BoundedStore

variable {D : Type}

/-! ### Directions -/

/-- The directions that have counters and arrays of their own. -/
inductive Side where
  | fwd
  | bwd
  deriving DecidableEq

/-- The value of `curdir` for a direction. -/
def Side.dir : Side → Nat
  | .fwd => dirFwd
  | .bwd => dirBwd

/-- The packet lengths of a direction. -/
def Side.pktLens : Side → DirArray
  | .fwd => .fwdPktLens
  | .bwd => .bwdPktLens

/-- The payload lengths of a direction. -/
def Side.payloadSizes : Side → DirArray
  | .fwd => .fwdPayloadSizes
  | .bwd => .bwdPayloadSizes

/-- The packets of a direction. -/
def Side.of (side : Side) (infos : List PacketInfo) : List PacketInfo :=
  infos.filter fun info => info.direction = side.dir

theorem Side.of_cons (side : Side) (info : PacketInfo) (rest : List PacketInfo) :
    side.of (info :: rest) =
      if info.direction = side.dir then info :: side.of rest else side.of rest := by
  simp only [Side.of, List.filter_cons, decide_eq_true_eq]

/-- The number of packets of a direction. -/
def Side.packets (counters : CounterState) : Side → Nat
  | .fwd => counters.fwdPackets
  | .bwd => counters.bwdPackets

/-- The number of bytes of a direction. -/
def Side.bytes (counters : CounterState) : Side → Nat
  | .fwd => counters.fwdBytes
  | .bwd => counters.bwdBytes

/-- The number of payload bytes of a direction. -/
def Side.payloadBytes (counters : CounterState) : Side → Nat
  | .fwd => counters.fwdPayloadBytes
  | .bwd => counters.bwdPayloadBytes

/-- The arrays and counters of one direction. -/
structure DirectionRecord where
  pktLens : List Nat
  payloadSizes : List Nat
  packets : Nat
  bytes : Nat
  payloadBytes : Nat
  deriving DecidableEq

/-- What a flow has recorded of a direction. -/
def FlowFeatureState.record (state : FlowFeatureState D) (side : Side) : DirectionRecord where
  pktLens := state.store.dirValues side.pktLens
  payloadSizes := state.store.dirValues side.payloadSizes
  packets := side.packets state.fields.counters
  bytes := side.bytes state.fields.counters
  payloadBytes := side.payloadBytes state.fields.counters

/-- What there is to record of the packets of a direction. -/
def directionRecord (cfg : FeatureConfig) (infos : List PacketInfo) : DirectionRecord where
  pktLens := if cfg.needFwdBwdPktLens then (infos.map PacketInfo.pktLen).take 5000 else []
  payloadSizes := if cfg.needPayloadDir then
      ((infos.map PacketInfo.payloadLen).filter fun size => size > 0).take 5000
    else []
  packets := u64 infos.length
  bytes := u64 (infos.map PacketInfo.pktLen).sum
  payloadBytes := u64 (infos.map PacketInfo.payloadLen).sum

/-! ### Counters -/

/-- A counter of 64 bits that every packet adds to holds the sum of what they add. -/
theorem run_counter [Double D] {cfg : FeatureConfig} {platform : Platform D}
    (count : Fields D → Nat) (weight : PacketInfo → Nat)
    (counts : ∀ fields info total, count fields = u64 total →
      count (dataFields cfg platform info fields) = u64 (total + weight info))
    {fields : Fields D} {total : Nat} (start : count fields = u64 total)
    (infos : List PacketInfo) :
    count ((flowMachine cfg platform).run fields infos) =
      u64 (total + (infos.map weight).sum) := by
  induction infos generalizing fields total with
  | nil => exact start
  | cons info rest inductionHypothesis =>
    rw [Mealy.run_cons, List.map_cons, List.sum_cons, ← Nat.add_assoc]
    exact inductionHypothesis (counts fields info total start)

/-- What the packets of a direction add is the sum over them. -/
theorem sum_map_side (side : Side) (amount : PacketInfo → Nat) (infos : List PacketInfo) :
    (infos.map fun info => if info.direction = side.dir then amount info else 0).sum =
      ((side.of infos).map amount).sum := by
  induction infos with
  | nil => rfl
  | cons info rest inductionHypothesis =>
    rw [List.map_cons, List.sum_cons, inductionHypothesis, Side.of_cons]
    split
    · rw [List.map_cons, List.sum_cons]
    · rw [Nat.zero_add]

/-- What the packets of a direction show is what all packets show through their direction. -/
theorem flatMap_side {Image : Type} (side : Side) (of : PacketInfo → List Image)
    (infos : List PacketInfo) :
    (infos.flatMap fun info => if info.direction = side.dir then of info else []) =
      (side.of infos).flatMap of := by
  induction infos with
  | nil => rfl
  | cons info rest inductionHypothesis =>
    rw [List.flatMap_cons, inductionHypothesis, Side.of_cons]
    split
    · rw [List.flatMap_cons]
    · rw [List.nil_append]

/-- Adding to a reduced counter and reducing again is adding to the counter. -/
theorem u64_add_u64 (total amount : Nat) : u64 (u64 total + amount) = u64 (total + amount) :=
  Nat.mod_add_mod _ _ _

section Runs

variable [Double D] (cfg : FeatureConfig) (platform : Platform D) (streamType : StreamType)
  (first : RawPacket) (rest : List RawPacket)

/-- The counters of a direction count its packets. -/
theorem flowFields_sides (side : Side) :
    let counters := (flowFields cfg platform streamType first rest).counters
    let infos := side.of (packetInfos cfg streamType (first :: rest))
    side.packets counters = u64 infos.length ∧
      side.bytes counters = u64 (infos.map PacketInfo.pktLen).sum ∧
      side.payloadBytes counters = u64 (infos.map PacketInfo.payloadLen).sum := by
  have sided : ∀ (count : CounterState → Nat) (amount : PacketInfo → Nat),
      count ⟨0, 0, 0, 0, 0, 0, 0, 0, 0, 0, 0⟩ = 0 →
      (∀ info state payload, count (countersCall (D := D) cfg info state payload).1 =
        if info.direction = side.dir then u64 (count state + amount info) else count state) →
      count (flowFields cfg platform streamType first rest).counters =
        u64 ((side.of (packetInfos cfg streamType (first :: rest))).map amount).sum := by
    intro count amount start counted
    rw [← sum_map_side, ← Nat.zero_add (List.sum _)]
    refine run_counter (fun fields => count fields.counters) _ ?_ start _
    intro fields info total same
    refine (counted info fields.counters fields.payloadDir).trans ?_
    split
    · rw [same, u64_add_u64]
    · exact same
  have packets := sided (Side.packets · side) (fun _ => 1) (by cases side <;> rfl)
    fun info state payload => by
      rw [countersCall_counters]
      cases side <;> rfl
  have bytes := sided (Side.bytes · side) PacketInfo.pktLen (by cases side <;> rfl)
    fun info state payload => by
      rw [countersCall_counters]
      cases side <;> rfl
  have payloadBytes := sided (Side.payloadBytes · side) PacketInfo.payloadLen
    (by cases side <;> rfl) fun info state payload => by
      rw [countersCall_counters]
      cases side <;> rfl
  rw [List.map_const', List.sum_replicate_nat, Nat.mul_one] at packets
  exact ⟨packets, bytes, payloadBytes⟩

/-- A directional array of packet lengths is appended to by the packets of its direction. -/
theorem appended_pktLens (side : Side) (info : PacketInfo) (fields : Fields D) :
    (dataAccesses cfg platform info fields).filterMap (Access.appended side.pktLens) =
      if info.direction = side.dir then
        if cfg.needFwdBwdPktLens then [info.pktLen] else []
      else [] := by
  rw [filterMap_dataAccesses cfg platform info fields (.array side.pktLens)
    fun _ => Access.appended_eq_none]
  simp only [callAccesses, Target.call, pktLenCall, calcPacketLengthStats]
  cases side with
  | fwd =>
    simp only [Side.pktLens, Side.dir]
    split_ifs <;> rfl
  | bwd =>
    simp only [Side.pktLens, Side.dir]
    by_cases fwd : info.direction = dirFwd
    · simp only [fwd, dirFwd_ne_dirBwd, if_true, if_false]
      split_ifs <;> rfl
    · simp only [fwd, if_false]
      split_ifs <;> rfl

/-- A directional array of payload lengths is appended to by the packets of its direction that
have a payload. -/
theorem appended_payloadSizes (side : Side) (info : PacketInfo) (fields : Fields D) :
    (dataAccesses cfg platform info fields).filterMap (Access.appended side.payloadSizes) =
      if info.direction = side.dir then
        if cfg.needPayloadDir && info.payloadLen > 0 then [info.payloadLen] else []
      else [] := by
  rw [filterMap_dataAccesses cfg platform info fields (.array side.payloadSizes)
    fun _ => Access.appended_eq_none]
  simp only [callAccesses, Target.call]
  cases side with
  | fwd =>
    simp only [Side.payloadSizes, Side.dir, countersCall_accesses]
    split_ifs <;> rfl
  | bwd =>
    simp only [Side.payloadSizes, Side.dir, countersCall_accesses]
    by_cases fwd : info.direction = dirFwd
    · simp only [fwd, dirFwd_ne_dirBwd, if_true, if_false]
      split_ifs <;> rfl
    · simp only [fwd, if_false]
      split_ifs <;> rfl

theorem flatMap_if_filter {Value : Type} (condition : Bool) (value : PacketInfo → Value)
    (keep : Value → Bool) (infos : List PacketInfo) :
    (infos.flatMap fun info =>
      if condition && keep (value info) then [value info] else []) =
      if condition then (infos.map value).filter keep else [] := by
  cases condition with
  | true =>
    induction infos with
    | nil => rfl
    | cons info rest inductionHypothesis =>
      rw [List.flatMap_cons, inductionHypothesis, List.map_cons, Bool.true_and, if_pos rfl,
        if_pos rfl]
      split
      · rename_i kept
        rw [List.filter_cons_of_pos kept]
        rfl
      · rename_i dropped
        rw [List.filter_cons_of_neg dropped]
        rfl
  | false => exact List.flatMap_eq_nil_iff.mpr fun _ _ => rfl

/-- What a flow has recorded of a direction is what there is to record of the packets of this
direction. So two flows with the same packets in one direction record the same of it, however
these are interleaved with other packets. -/
theorem flowRun_record :
    ∃ state, flowRun cfg platform streamType (allocated (first :: rest)) = some state ∧
      (∀ side, state.record side =
        directionRecord cfg (side.of (packetInfos cfg streamType (first :: rest)))) ∧
      ∀ otherFirst otherRest other,
        flowRun cfg platform streamType (allocated (otherFirst :: otherRest)) = some other →
        ∀ side : Side, side.of (packetInfos cfg streamType (otherFirst :: otherRest)) =
            side.of (packetInfos cfg streamType (first :: rest)) →
          other.record side = state.record side := by
  have recorded : ∀ first rest, ∃ state,
      flowRun cfg platform streamType (allocated (first :: rest)) = some state ∧
        ∀ side, state.record side =
          directionRecord cfg (side.of (packetInfos cfg streamType (first :: rest))) := by
    intro first rest
    obtain ⟨state, run, fields_eq, after⟩ := flowRun_allocated cfg platform streamType first rest
    refine ⟨state, run, fun side => ?_⟩
    obtain ⟨packets, bytes, payloadBytes⟩ :=
      flowFields_sides cfg platform streamType first rest side
    have dirValues : ∀ dir, state.store.dirValues dir =
        ((flowAccesses cfg platform streamType first rest).filterMap
          (Access.appended dir)).take 5000 := by
      intro dir
      rw [← flowContents_arrays, ← after.contents_eq]
      cases dir <;> rfl
    simp only [FlowFeatureState.record, directionRecord, DirectionRecord.mk.injEq, fields_eq]
    refine ⟨?_, ?_, packets, bytes, payloadBytes⟩
    · rw [dirValues, filterMap_flowAccesses cfg platform streamType first rest
        (appended_pktLens cfg platform side), flatMap_side, flatMap_if_singleton]
      split
      · rfl
      · exact List.take_nil
    · rw [dirValues, filterMap_flowAccesses cfg platform streamType first rest
        (appended_payloadSizes cfg platform side), flatMap_side,
        flatMap_if_filter cfg.needPayloadDir PacketInfo.payloadLen (fun size => size > 0)]
      split
      · rfl
      · exact List.take_nil
  obtain ⟨state, run, sides⟩ := recorded first rest
  refine ⟨state, run, sides, fun otherFirst otherRest other otherRun side same => ?_⟩
  obtain ⟨found, foundRun, foundSides⟩ := recorded otherFirst otherRest
  obtain rfl := Option.some.inj (foundRun.symm.trans otherRun)
  rw [sides, foundSides, same]

end Runs

end TiFeatures
