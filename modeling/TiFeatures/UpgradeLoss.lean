/-
This file settles what an upgrade attempt keeps when allocations fail. A failed
pool allocation changes nothing. A failed snapshot empties its circular buffer,
because the attempt goes on without it: the values are kept exactly when no
buffer that has values loses its snapshot in an upgrade that goes through.
-/

import TiFeatures.Rings

namespace TiFeatures

open BoundedStore

variable {D : Type}

/-- A circular buffer has values exactly when its count is positive. -/
theorem Store.WellFormed.seqValues_eq_nil_iff {store : Store D} (wellFormed : store.WellFormed)
    (seq : SeqId) : store.seqValues seq = [] ↔ (store.seqs seq).count = 0 := by
  rw [wellFormed.seqValues_eq, List.map_eq_nil_iff, ← List.length_eq_zero_iff,
    CircularBuffer.length_contents]

/-- What comes back from the snapshots is what was there if no buffer with values lost its. -/
theorem FlowContents.rebound_eq_iff (contents : FlowContents D) (snapshot : SeqId → Bool) :
    contents.rebound snapshot = contents ↔
      ∀ seq, contents.seqs seq ≠ [] → snapshot seq = true := by
  refine ⟨fun same seq some => ?_, fun kept => FlowContents.ext (funext fun seq => ?_) rfl rfl rfl⟩
  · by_contra failed
    have lost : (contents.rebound snapshot).seqs seq = [] := if_neg failed
    rw [same] at lost
    exact some lost
  · by_cases empty : contents.seqs seq = []
    · simp only [FlowContents.rebound, empty, ite_self]
    · exact if_pos (kept seq empty)

/-- The upgrade step of a packet keeps the values of a flow exactly if it does not upgrade, or
the snapshot of every circular buffer that has values succeeds. -/
theorem upgradeIfNeeded_contents_iff [Double D] {cfg : FeatureConfig} {platform : Platform D}
    {state : FlowFeatureState D} (reachable : Reachable cfg platform state) (allocs : Allocs) :
    (upgradeIfNeeded allocs state.store).contents = state.store.contents ↔
      ((flowMemPoolCheckUpgrade state.store.memPool).2 = true → allocs.upgrade = true →
        ∀ seq, (state.store.seqs seq).count ≠ 0 → allocs.snapshot seq = true) := by
  have store := reachable.wellFormed.store
  rw [(store.upgradeIfNeeded allocs).contents_eq]
  have counts : (∀ seq, state.store.contents.seqs seq ≠ [] → allocs.snapshot seq = true) ↔
      ∀ seq, (state.store.seqs seq).count ≠ 0 → allocs.snapshot seq = true :=
    forall_congr' fun seq => imp_congr_left (store.seqValues_eq_nil_iff seq).not
  by_cases upgraded : (flowMemPoolCheckUpgrade state.store.memPool).2 = true ∧
      allocs.upgrade = true
  · rw [if_pos (Bool.and_eq_true_iff.mpr upgraded), FlowContents.rebound_eq_iff, counts]
    exact ⟨fun kept _ _ => kept, fun kept => kept upgraded.1 upgraded.2⟩
  · rw [if_neg fun both => upgraded (Bool.and_eq_true_iff.mp both)]
    exact ⟨fun _ due succeed => absurd ⟨due, succeed⟩ upgraded, fun _ => rfl⟩

/-- Every allocation succeeds but the snapshot of the packet lengths. -/
def lostPktLens : Allocs :=
  { Allocs.succeed with snapshot := fun seq => decide (seq ≠ .pktLenSeq) }

/-- After fifty packets a flow holds their lengths, and its next packet upgrades the pool. -/
theorem flowRun_fifty_due : ∃ state : FlowFeatureState Float,
    flowRun defaultConfig (barePlatform Float) .tcp
        (allocated (List.replicate 50 (barePacket 1 1 100))) = some state ∧
      state.store.seqValues .pktLenSeq = List.replicate 50 100 ∧
      (flowMemPoolCheckUpgrade state.store.memPool).2 = true := by
  obtain ⟨state, run, -, after⟩ := flowRun_allocated (D := Float) defaultConfig
    (barePlatform Float) .tcp (barePacket 1 1 100) (List.replicate 49 (barePacket 1 1 100))
  have pktLens : state.store.seqValues .pktLenSeq = List.replicate 50 100 := by
    rw [after.seqValues_eq, pushed_flowAccesses defaultConfig (barePlatform Float) .tcp _ _ rfl]
    rfl
  rw [List.length_replicate] at after
  have store := after.wellFormed.store
  have next : state.store.memPool.level.next = some .small := by
    rw [after.level_eq]
    rfl
  have few : state.store.memPool.currentPktCount < 2 ^ 32 - 1 := by
    rw [after.currentPktCount_eq]
    decide
  refine ⟨state, run, pktLens, ?_⟩
  rw [(flowMemPoolCheckUpgrade_below store.pool next few).2, after.level_eq,
    after.currentPktCount_eq]
  rfl

/-- With the snapshot of the packet lengths lost, the upgrade that the fifty-first packet of a
flow causes leaves none of the fifty lengths. -/
theorem upgradeIfNeeded_loses_pktLens : ∃ state : FlowFeatureState Float,
    flowRun defaultConfig (barePlatform Float) .tcp
        (allocated (List.replicate 50 (barePacket 1 1 100))) = some state ∧
      state.store.seqValues .pktLenSeq = List.replicate 50 100 ∧
      (upgradeIfNeeded lostPktLens state.store).seqValues .pktLenSeq = [] := by
  obtain ⟨state, run, pktLens, due⟩ := flowRun_fifty_due
  have contents_eq :=
    ((flowRun_reachable run).wellFormed.store.upgradeIfNeeded lostPktLens).contents_eq
  rw [due] at contents_eq
  exact ⟨state, run, pktLens, congrFun (congrArg FlowContents.seqs contents_eq) .pktLenSeq⟩

/-- The values of a flow survive the upgrade that its fifty-first packet causes if every snapshot
succeeds. -/
theorem upgradeIfNeeded_keeps : ∃ state : FlowFeatureState Float,
    flowRun defaultConfig (barePlatform Float) .tcp
        (allocated (List.replicate 50 (barePacket 1 1 100))) = some state ∧
      (flowMemPoolCheckUpgrade state.store.memPool).2 = true ∧
      (upgradeIfNeeded .succeed state.store).contents = state.store.contents ∧
      (upgradeIfNeeded .succeed state.store).seqValues .pktLenSeq = List.replicate 50 100 := by
  obtain ⟨state, run, pktLens, due⟩ := flowRun_fifty_due
  have kept := (upgradeIfNeeded_contents_iff (flowRun_reachable run) .succeed).mpr
    fun _ _ _ _ => rfl
  exact ⟨state, run, due, kept, (congrFun (congrArg FlowContents.seqs kept) .pktLenSeq).trans
    pktLens⟩

end TiFeatures
