/-
This file proves that the tiered storage cannot be seen: after any packets whose
allocations succeed, every circular buffer holds the last 5000 values pushed to
it, and those that take a value from every packet hold the values of the last
5000 packets.
-/

import TiFeatures.Streams

namespace TiFeatures

open BoundedStore

variable {D : Type} [Double D] (cfg : FeatureConfig) (platform : Platform D)

/-! ### The buffers that take a value from every packet -/

/-- The flag and the value of a circular buffer that every packet pushes to. -/
def packetSeq : SeqId → Option (Bool × (PacketInfo → Nat))
  | .pktLenSeq => some (cfg.needPktLenSeq, PacketInfo.pktLen)
  | .dirSeq => some (cfg.needDirSeq, fun info => dirVal info.direction)
  | .tsSeq => some (cfg.needTsSeq, PacketInfo.tsUs)
  | .l3LenSeq => some (cfg.needL3L4PayloadSeq, PacketInfo.l3Len)
  | .l4LenSeq => some (cfg.needL3L4PayloadSeq, PacketInfo.l4Len)
  | .payloadLenSeq => some (cfg.needL3L4PayloadSeq, PacketInfo.payloadLen)
  | _ => none

theorem pushed_packetSeq {seq : SeqId} {need : Bool} {value : PacketInfo → Nat}
    (every : packetSeq cfg seq = some (need, value)) (info : PacketInfo) (fields : Fields D) :
    (dataAccesses cfg platform info fields).filterMap (Access.pushed seq) =
      if need then [value info] else [] := by
  rw [filterMap_dataAccesses cfg platform info fields (.ring seq) fun _ => Access.pushed_eq_none]
  cases seq with
  | pktLenSeq =>
    cases every
    simp only [Target.call, callAccesses, pktLenCall, calcPacketLengthStats]
    split_ifs <;> rfl
  | dirSeq | tsSeq | l3LenSeq | l4LenSeq | payloadLenSeq =>
    cases every
    simp only [Target.call, callAccesses, seqPushes]
    split_ifs <;> rfl
  | _ => cases every

/-! ### Runs -/

section Runs

variable (streamType : StreamType) (first : RawPacket) (rest : List RawPacket)

/-- What the accesses of a flow show is what those of its packets show, if that depends on
nothing but the packet. -/
theorem filterMap_flowAccesses {Image : Type} {image : Access D → Option Image}
    {of : PacketInfo → List Image}
    (emitted : ∀ info fields, (dataAccesses cfg platform info fields).filterMap image = of info) :
    (flowAccesses cfg platform streamType first rest).filterMap image =
      (packetInfos cfg streamType (first :: rest)).flatMap of :=
  Mealy.filterMap_trace (fun fields info _ => emitted info fields) _

/-- What no access of a packet shows, no access of a flow shows. -/
theorem filterMap_flowAccesses_eq_nil {Image : Type} {image : Access D → Option Image}
    (none : ∀ info fields, (dataAccesses cfg platform info fields).filterMap image = []) :
    (flowAccesses cfg platform streamType first rest).filterMap image = [] :=
  (filterMap_flowAccesses cfg platform streamType first rest none).trans
    (List.flatMap_eq_nil_iff.mpr fun _ _ => rfl)

theorem flatMap_if_singleton {Value : Type} (condition : Bool) (value : PacketInfo → Value)
    (infos : List PacketInfo) :
    (infos.flatMap fun info => if condition then [value info] else []) =
      if condition then infos.map value else [] := by
  cases condition with
  | true => exact List.map_eq_flatMap.symm
  | false => exact List.flatMap_eq_nil_iff.mpr fun _ _ => rfl

theorem pushed_flowAccesses {seq : SeqId} {need : Bool} {value : PacketInfo → Nat}
    (every : packetSeq cfg seq = some (need, value)) :
    (flowAccesses cfg platform streamType first rest).filterMap (Access.pushed seq) =
      if need then (packetInfos cfg streamType (first :: rest)).map value else [] := by
  rw [filterMap_flowAccesses cfg platform streamType first rest
    (pushed_packetSeq cfg platform every)]
  exact flatMap_if_singleton need value _

variable {cfg platform streamType first rest} in
/-- A circular buffer of a flow holds the last 5000 of the values pushed to it, as if there were no
levels. -/
theorem FlowFeatureState.After.seqValues_eq {state : FlowFeatureState D} {count : Nat}
    (after : state.After cfg count (flowContents cfg platform streamType first rest))
    (seq : SeqId) : state.store.seqValues seq =
      ((flowAccesses cfg platform streamType first rest).filterMap
        (Access.pushed seq)).rtake 5000 := by
  rw [← flowContents_seqs, ← after.contents_eq]
  rfl

/-- The circular buffers of a flow hold the last 5000 of the values pushed to them, as if there
were no levels. Those that every packet pushes to hold the values of the last 5000 packets. -/
theorem flowRun_seqValues :
    ∃ state, flowRun cfg platform streamType (allocated (first :: rest)) = some state ∧
      (∀ seq, state.store.seqValues seq =
        ((flowAccesses cfg platform streamType first rest).filterMap
          (Access.pushed seq)).rtake 5000) ∧
      let last := (packetInfos cfg streamType (first :: rest)).rtake 5000
      state.store.seqValues .pktLenSeq =
        (if cfg.needPktLenSeq then last.map PacketInfo.pktLen else []) ∧
      state.store.seqValues .dirSeq =
        (if cfg.needDirSeq then last.map fun info => dirVal info.direction else []) ∧
      state.store.seqValues .tsSeq =
        (if cfg.needTsSeq then last.map PacketInfo.tsUs else []) ∧
      state.store.seqValues .l3LenSeq =
        (if cfg.needL3L4PayloadSeq then last.map PacketInfo.l3Len else []) ∧
      state.store.seqValues .l4LenSeq =
        (if cfg.needL3L4PayloadSeq then last.map PacketInfo.l4Len else []) ∧
      state.store.seqValues .payloadLenSeq =
        (if cfg.needL3L4PayloadSeq then last.map PacketInfo.payloadLen else []) := by
  obtain ⟨state, run, -, after⟩ := flowRun_allocated cfg platform streamType first rest
  have window := after.seqValues_eq
  have packets : ∀ {seq need value}, packetSeq cfg seq = some (need, value) →
      state.store.seqValues seq = if need then
        ((packetInfos cfg streamType (first :: rest)).rtake 5000).map value else [] := by
    intro seq need value every
    rw [window, pushed_flowAccesses cfg platform streamType first rest every]
    split
    · exact map_rtake value _ 5000
    · rfl
  exact ⟨state, run, window, packets rfl, packets rfl, packets rfl, packets rfl, packets rfl,
    packets rfl⟩

end Runs

end TiFeatures
