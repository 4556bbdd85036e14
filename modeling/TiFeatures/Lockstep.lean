/-
This file runs two flows side by side. Their packets, their fields and the values in
their memory stand in relations that one packet keeps; then so do two runs, since the
level of a flow's memory depends on nothing but the number of packets and on which
allocations succeed.
-/

import TiFeatures.Gates

namespace TiFeatures

open BoundedStore

variable {D : Type} [Double D]

/-- Relations between the packets, the fields and the memory of two flows that one packet keeps. -/
structure Lockstep (cfg : FeatureConfig) (platform : Platform D) (streamType : StreamType) where
  packets : RawPacket → RawPacket → Prop
  fields : Fields D → Fields D → Prop
  contents : FlowContents D → FlowContents D → Prop
  start : ∀ {packet other}, packets packet other →
    fields (fieldsInit cfg (packetTsUs cfg packet)) (fieldsInit cfg (packetTsUs cfg other))
  empty : contents FlowContents.init FlowContents.init
  data : ∀ {packet other}, packets packet other → ∀ {first second}, fields first second →
    fields (dataFields cfg platform (packetInfo cfg streamType packet) first)
      (dataFields cfg platform (packetInfo cfg streamType other) second)
  accesses : ∀ {packet other}, packets packet other → ∀ {first second}, fields first second →
    ∀ {held otherHeld}, contents held otherHeld → ∀ seqLen firstNCapacity,
    contents
      ((dataAccesses cfg platform (packetInfo cfg streamType packet) first).foldl
        (FlowContents.access seqLen firstNCapacity) held)
      ((dataAccesses cfg platform (packetInfo cfg streamType other) second).foldl
        (FlowContents.access seqLen firstNCapacity) otherHeld)
  rebound : ∀ {held otherHeld}, contents held otherHeld → ∀ snapshot,
    contents (held.rebound snapshot) (otherHeld.rebound snapshot)

namespace Lockstep

variable {cfg : FeatureConfig} {platform : Platform D} {streamType : StreamType}
  (lockstep : Lockstep cfg platform streamType)

/-- Two flows in lockstep, at the same level. -/
structure Holds (first second : FlowFeatureState D) : Prop where
  wellFormed : first.WellFormed cfg
  otherWellFormed : second.WellFormed cfg
  fields : lockstep.fields first.fields second.fields
  contents : lockstep.contents first.store.contents second.store.contents
  level_eq : second.store.memPool.level = first.store.memPool.level
  currentPktCount_eq : second.store.memPool.currentPktCount = first.store.memPool.currentPktCount

/-- Callbacks with related packets in which the same allocations succeed. -/
def Callbacks (callback other : Allocs × RawPacket) : Prop :=
  other.1 = callback.1 ∧ lockstep.packets callback.2 other.2

variable {lockstep}

theorem Holds.processData {first second : FlowFeatureState D} (holds : lockstep.Holds first second)
    {callback other : Allocs × RawPacket} (same : lockstep.Callbacks callback other) :
    lockstep.Holds (processData cfg platform streamType callback.1 callback.2 first)
      (processData cfg platform streamType other.1 other.2 second) := by
  obtain ⟨allocs, packet⟩ := callback
  obtain ⟨otherAllocs, otherPacket⟩ := other
  obtain ⟨rfl, packets⟩ : otherAllocs = allocs ∧ lockstep.packets packet otherPacket := same
  have seqLen_eq : second.store.memPool.actualSeqLen = first.store.memPool.actualSeqLen := by
    rw [holds.wellFormed.store.pool.seqLen_eq, holds.otherWellFormed.store.pool.seqLen_eq,
      holds.level_eq]
  have processed := holds.wellFormed.processed platform streamType otherAllocs packet
  have otherProcessed := holds.otherWellFormed.processed platform streamType otherAllocs otherPacket
  obtain ⟨due_eq, count_eq⟩ := flowMemPoolCheckUpgrade_congr holds.level_eq
    holds.currentPktCount_eq seqLen_eq
  have level_eq : (TiFeatures.processData cfg platform streamType otherAllocs otherPacket
      second).store.memPool.level =
        (TiFeatures.processData cfg platform streamType otherAllocs packet
          first).store.memPool.level := by
    rw [processed.level_eq, otherProcessed.level_eq, due_eq, holds.level_eq]
  refine ⟨processed.wellFormed, otherProcessed.wellFormed, lockstep.data packets holds.fields, ?_,
    level_eq, ?_⟩
  · rw [processed.contents_eq, otherProcessed.contents_eq, level_eq, due_eq]
    refine lockstep.accesses packets holds.fields ?_ _ _
    split
    · exact lockstep.rebound holds.contents _
    · exact holds.contents
  · exact otherProcessed.currentPktCount_eq.trans
      (count_eq.trans processed.currentPktCount_eq.symm)

theorem Holds.foldl {first second : FlowFeatureState D} (holds : lockstep.Holds first second)
    {callbacks others : List (Allocs × RawPacket)}
    (same : List.Forall₂ lockstep.Callbacks callbacks others) :
    lockstep.Holds
      (callbacks.foldl (fun state callback =>
        TiFeatures.processData cfg platform streamType callback.1 callback.2 state) first)
      (others.foldl (fun state callback =>
        TiFeatures.processData cfg platform streamType callback.1 callback.2 state) second) := by
  induction same generalizing first second with
  | nil => exact holds
  | cons one _ inductionHypothesis => exact inductionHypothesis (holds.processData one)

variable (lockstep)

/-- A flow that can be created can be created beside the other one. -/
theorem created {callback other : Allocs × RawPacket} (same : lockstep.Callbacks callback other) :
    Option.Rel lockstep.Holds (createFlow cfg callback.1 (packetTsUs cfg callback.2))
      (createFlow cfg other.1 (packetTsUs cfg other.2)) := by
  obtain ⟨allocs_eq, packets⟩ := same
  have store_eq : ∀ tsUs, createFlow (D := D) cfg callback.1 tsUs =
      if callback.1.state then
        (flowStateInit cfg callback.1).map fun store => ⟨fieldsInit cfg tsUs, store⟩
      else none := by
    intro tsUs
    unfold createFlow
    cases callback.1.state <;> rfl
  rw [allocs_eq]
  cases one : createFlow (D := D) cfg callback.1 (packetTsUs cfg callback.2) with
  | none =>
    have none_eq : createFlow (D := D) cfg callback.1 (packetTsUs cfg other.2) = none := by
      rw [store_eq] at one ⊢
      split at one
      · rw [if_pos ‹_›, Option.map_eq_none_iff]
        exact Option.map_eq_none_iff.mp one
      · rw [if_neg ‹_›]
    rw [none_eq]
    exact .none
  | some state =>
    have two : createFlow cfg callback.1 (packetTsUs cfg other.2) =
        some ⟨fieldsInit cfg (packetTsUs cfg other.2), state.store⟩ := by
      rw [store_eq] at one ⊢
      split at one
      · rw [if_pos ‹_›]
        obtain ⟨store, store_eq, rfl⟩ := Option.map_eq_some_iff.mp one
        rw [store_eq]
        rfl
      · cases one
    rw [two]
    obtain ⟨fields_eq, initial⟩ := createFlow_eq_some one
    refine .some ⟨createFlow_wellFormed one, createFlow_wellFormed two, ?_, ?_, rfl, rfl⟩
    · rw [fields_eq]
      exact lockstep.start packets
    · rw [initial.contents_eq]
      exact lockstep.empty

/-- Two flows with related packets are in lockstep, whatever allocations fail. -/
theorem flowRun {callbacks others : List (Allocs × RawPacket)}
    (same : List.Forall₂ lockstep.Callbacks callbacks others) :
    Option.Rel lockstep.Holds (flowRun cfg platform streamType callbacks)
      (TiFeatures.flowRun cfg platform streamType others) := by
  cases same with
  | nil => exact .none
  | cons one rest =>
    rw [flowRun_cons, flowRun_cons]
    have start := lockstep.created one
    revert start
    generalize createFlow (D := D) cfg _ (packetTsUs cfg _) = first
    generalize createFlow (D := D) cfg _ (packetTsUs cfg _) = second
    rintro (holds | -)
    · exact .some (holds.foldl (.cons one rest))
    · exact .none

end Lockstep

/-! ### What is written out -/

omit [Double D]

/-- The same item, unless its key is one of the given ones. -/
def SameUpTo (keys : List String) (item other : String × Json D) : Prop :=
  other.1 = item.1 ∧ (item.1 ∉ keys → other = item)

theorem SameUpTo.refl {keys : List String} (item : String × Json D) : SameUpTo keys item item :=
  ⟨rfl, fun _ => rfl⟩

theorem sameUpTo_same {keys : List String} (items : Output D) :
    List.Forall₂ (SameUpTo keys) items items :=
  List.forall₂_same.mpr fun item _ => .refl item

theorem sameUpTo_of_eq {keys : List String} {items others : Output D} (same : others = items) :
    List.Forall₂ (SameUpTo keys) items others := same ▸ sameUpTo_same others

end TiFeatures
