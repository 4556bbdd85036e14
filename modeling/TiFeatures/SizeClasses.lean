/-
This file compares the two classifications of packets by their size. The bigram
table counts one pair for every packet, since the first packet is paired with a
class that no packet had, and `large_pkt_count` takes in the packets of exactly
the threshold, which `get_pkt_size_class` does not call large.
-/

import TiFeatures.Calls
import TiFeatures.PayloadBytes
import TiFeatures.Responses

namespace TiFeatures

/-! ### Bigrams -/

/-- The size classes of the packets of a flow. -/
def sizeClasses (cfg : FeatureConfig) (infos : List PacketInfo) : List PktSizeClass :=
  infos.map fun info => getPktSizeClass cfg info.pktLen

theorem sizeClasses_concat (cfg : FeatureConfig) (infos : List PacketInfo) (info : PacketInfo) :
    PktSizeClass.small :: sizeClasses cfg (infos ++ [info]) =
      (.small :: sizeClasses cfg infos) ++ [getPktSizeClass cfg info.pktLen] := by
  rw [sizeClasses, List.map_append]
  rfl

/-- The number of adjacent pairs of two classes. -/
def bigramCount (classes : List PktSizeClass) (first second : PktSizeClass) : Nat :=
  (classes.zip classes.tail).countP fun pair => pair = (first, second)

/-- The place of a bigram in the table tells its classes. -/
theorem bigramIndex_inj {first second other next : PktSizeClass} :
    first.rank * 3 + second.rank = other.rank * 3 + next.rank ↔
      (first, second) = (other, next) := by
  cases first <;> cases second <;> cases other <;> cases next <;> decide

/-- An update changes the count of its bigram only. -/
theorem getD_set_bigram {counts : List Nat} (length_eq : counts.length = 9)
    (prev curr first second : PktSizeClass) (value : Nat) :
    (counts.set (prev.rank * 3 + curr.rank) value).getD (first.rank * 3 + second.rank) 0 =
      if (prev, curr) = (first, second) then value
      else counts.getD (first.rank * 3 + second.rank) 0 := by
  have inside := bigramIndex_lt prev curr
  rw [List.getD_eq_getElem?_getD, List.getElem?_set, List.getD_eq_getElem?_getD]
  simp only [bigramIndex_inj]
  split
  · rw [if_pos (by omega), Option.getD_some]
  · rfl

/-- What the bigrams are after some packets: the first of them is paired with the class the state
starts with. -/
structure BigramsCounted (cfg : FeatureConfig) (infos : List PacketInfo) (state : BigramState) :
    Prop where
  last_eq : some state.lastPktSizeClass = (.small :: sizeClasses cfg infos).getLast?
  length_eq : state.bigramStats.counts.length = 9
  counts_eq : ∀ first second : PktSizeClass,
    state.bigramStats.counts.getD (first.rank * 3 + second.rank) 0 =
      u32 (bigramCount (.small :: sizeClasses cfg infos) first second)
  total_eq : state.bigramStats.total = u32 infos.length

theorem bigramsCounted_nil (cfg : FeatureConfig) :
    BigramsCounted cfg [] ⟨bigramInit, .small⟩ where
  last_eq := rfl
  length_eq := rfl
  counts_eq first second := by cases first <;> cases second <;> rfl
  total_eq := rfl

/-- A packet is paired with the one before it. -/
theorem BigramsCounted.step {cfg : FeatureConfig} (counted : cfg.enableSequenceStats = true)
    {infos : List PacketInfo} {state : BigramState} (before : BigramsCounted cfg infos state)
    (info : PacketInfo) : BigramsCounted cfg (infos ++ [info]) (bigramCall cfg info state) := by
  rw [bigramCall, if_pos counted]
  dsimp only
  rw [bigramUpdate_eq]
  refine ⟨?_, ?_, fun first second => ?_, ?_⟩
  · rw [sizeClasses_concat, List.getLast?_concat]
  · rw [List.length_set]
    exact before.length_eq
  · rw [getD_set_bigram before.length_eq, sizeClasses_concat, bigramCount, zip_tail_concat,
      ← before.last_eq, Option.toList_some, List.map_singleton, u32_countP_concat]
    simp only [decide_eq_true_eq]
    rw [← bigramCount, ← before.counts_eq]
    by_cases same : (state.lastPktSizeClass, getPktSizeClass cfg info.pktLen) = (first, second)
    · obtain ⟨rfl, rfl⟩ := Prod.mk.inj same
      rw [if_pos rfl]
    · rw [if_neg same, if_neg same]
  · show u32 (state.bigramStats.total + 1) = _
    rw [before.total_eq, u32_add_u32, List.length_append, List.length_singleton]

/-- The bigrams of a flow. -/
theorem run_bigramsCounted {D : Type} [Double D] {cfg : FeatureConfig}
    (counted : cfg.enableSequenceStats = true) (platform : Platform D) (tsUs : Nat)
    (infos : List PacketInfo) :
    BigramsCounted cfg infos
      ((flowMachine cfg platform).run (fieldsInit cfg tsUs) infos).bigram := by
  have start : BigramsCounted cfg [] (fieldsInit cfg tsUs : Fields D).bigram :=
    bigramsCounted_nil cfg
  exact Mealy.run_history (fun seen (fields : Fields D) => BigramsCounted cfg seen fields.bigram)
    (fun _ _ info before => before.step counted info) start infos

/-- The table holds the adjacent pairs of the packets of a flow, by their classes. -/
structure BigramTable (cfg : FeatureConfig) (infos : List PacketInfo) (stats : BigramStats) :
    Prop where
  counts_eq : ∀ first second : PktSizeClass,
    stats.counts.getD (3 * first.rank + second.rank) 0 =
      bigramCount (sizeClasses cfg infos) first second
  total_eq : stats.total = infos.length - 1

/-- The table of a flow counts a pair for every packet, the first included. -/
theorem bigramTable_iff {D : Type} [Double D] {cfg : FeatureConfig}
    (counted : cfg.enableSequenceStats = true) (platform : Platform D) (streamType : StreamType)
    (tsUs : Nat) (packets : List RawPacket) (few : packets.length < 2 ^ 32) :
    BigramTable cfg (packetInfos cfg streamType packets)
        ((flowMachine cfg platform).run (fieldsInit cfg tsUs)
          (packetInfos cfg streamType packets)).bigram.bigramStats ↔
      packets = [] := by
  have after := run_bigramsCounted counted platform tsUs (packetInfos cfg streamType packets)
  have length_eq : (packetInfos cfg streamType packets).length = packets.length := List.length_map _
  refine ⟨fun table => ?_, fun empty => ?_⟩
  · have total := table.total_eq
    rw [after.total_eq, length_eq, u32_of_lt few] at total
    exact List.eq_nil_of_length_eq_zero (by omega)
  · subst empty
    exact ⟨fun first second => by cases first <;> cases second <;> rfl, rfl⟩

theorem bigramTable_empty :
    BigramTable defaultConfig (packetInfos defaultConfig .udp [])
      ((flowMachine defaultConfig (barePlatform ℝ)).run (fieldsInit defaultConfig 0)
        (packetInfos defaultConfig .udp [])).bigram.bigramStats :=
  (bigramTable_iff rfl (barePlatform ℝ) .udp 0 [] (by decide)).mpr rfl

/-- A single packet already counts as a pair. -/
theorem bigramTable_single :
    ¬ BigramTable defaultConfig (packetInfos defaultConfig .udp [barePacket 1 1 10])
      ((flowMachine defaultConfig (barePlatform ℝ)).run (fieldsInit defaultConfig 1)
        (packetInfos defaultConfig .udp [barePacket 1 1 10])).bigram.bigramStats := by
  intro table
  have after := @run_bigramsCounted ℝ _ defaultConfig rfl (barePlatform ℝ) 1
    (packetInfos defaultConfig .udp [barePacket 1 1 10])
  exact absurd (after.total_eq.symm.trans table.total_eq) (by decide)

/-! ### Small and large packets -/

section Counters

variable {D : Type} [Double D] {cfg : FeatureConfig}

/-- What the counters are after some packets, in 32 bits. -/
structure SizesCounted (cfg : FeatureConfig) (infos : List PacketInfo) (state : PktLenState D) :
    Prop where
  small_eq : state.smallPktCount =
    u32 (infos.countP fun info => info.pktLen ≤ cfg.smallPktThreshold)
  large_eq : state.largePktCount =
    u32 (infos.countP fun info => info.pktLen ≥ cfg.largePktThreshold)

theorem run_sizesCounted (counted : cfg.enableBasicPktLength = true) (platform : Platform D)
    (tsUs : Nat) (infos : List PacketInfo) :
    SizesCounted cfg infos
      ((flowMachine cfg platform).run (fieldsInit cfg tsUs) infos).pktLen := by
  have start : SizesCounted cfg [] (fieldsInit cfg tsUs : Fields D).pktLen := ⟨rfl, rfl⟩
  refine Mealy.run_history (fun seen (fields : Fields D) => SizesCounted cfg seen fields.pktLen)
    (fun seen fields info before => ?_) start infos
  show SizesCounted cfg _ (pktLenCall cfg info fields.pktLen).1
  rw [pktLenCall_state]
  constructor
  · rw [u32_countP_concat, ← before.small_eq]
    simp only [counted, Bool.true_and]
  · rw [u32_countP_concat, ← before.large_eq]
    simp only [counted, Bool.true_and]

/-- The counters, and the ratios written out from them, are those of the size classes. -/
structure SizeClassesAgree (cfg : FeatureConfig) (infos : List PacketInfo) (state : PktLenState D) :
    Prop where
  small_eq : state.smallPktCount = (sizeClasses cfg infos).count .small
  large_eq : state.largePktCount = (sizeClasses cfg infos).count .large
  ratios_eq : ∀ (totalPackets : Nat) (fwdPktLens bwdPktLens : List Nat) (maxLen : Nat),
    let pktCount := u32 totalPackets
    (basicPktLength totalPackets state fwdPktLens bwdPktLens maxLen).take 2 =
      [addNumber "small_packet_ratio" (if pktCount > 0 then
          ((sizeClasses cfg infos).count .small : D) / (pktCount : D) else 0),
        addNumber "large_packet_ratio" (if pktCount > 0 then
          ((sizeClasses cfg infos).count .large : D) / (pktCount : D) else 0)]

omit [Double D] in
theorem count_sizeClasses (infos : List PacketInfo) (size : PktSizeClass) :
    (sizeClasses cfg infos).count size =
      infos.countP fun info => decide (getPktSizeClass cfg info.pktLen = size) := by
  rw [sizeClasses, List.count, List.countP_map]
  exact List.countP_congr fun info _ => by
    rw [Function.comp_apply, beq_iff_eq, decide_eq_true_eq]

/-- The packets of the class small are those up to the lower threshold. -/
theorem getPktSizeClass_eq_small (len : Nat) :
    getPktSizeClass cfg len = .small ↔ len ≤ cfg.smallPktThreshold := by
  unfold getPktSizeClass
  split_ifs with small medium
  · exact iff_of_true rfl small
  · exact iff_of_false (fun same => nomatch same) small
  · exact iff_of_false (fun same => nomatch same) small

/-- The packets of the class large are those above the upper threshold. -/
theorem getPktSizeClass_eq_large (ordered : cfg.smallPktThreshold < cfg.largePktThreshold)
    (len : Nat) : getPktSizeClass cfg len = .large ↔ cfg.largePktThreshold < len := by
  unfold getPktSizeClass
  split_ifs with small medium
  · exact iff_of_false (fun same => nomatch same) (by omega)
  · exact iff_of_false (fun same => nomatch same) (by omega)
  · exact iff_of_true rfl (by omega)

/-- The counters agree with the classes when no packet has exactly the upper threshold, as long
as no counter wraps. -/
theorem sizeClassesAgree_iff (ordered : cfg.smallPktThreshold < cfg.largePktThreshold)
    (counted : cfg.enableBasicPktLength = true) (platform : Platform D) (streamType : StreamType)
    (tsUs : Nat) (packets : List RawPacket) :
    let infos := packetInfos cfg streamType packets
    SizeClassesAgree cfg infos
        ((flowMachine cfg platform).run (fieldsInit cfg tsUs) infos).pktLen ↔
      infos.countP (fun info => info.pktLen ≤ cfg.smallPktThreshold) < 2 ^ 32 ∧
        infos.countP (fun info => info.pktLen > cfg.largePktThreshold) < 2 ^ 32 ∧
        2 ^ 32 ∣ infos.countP fun info => info.pktLen = cfg.largePktThreshold := by
  intro infos
  have after := run_sizesCounted counted platform tsUs infos
  have small_count : (sizeClasses cfg infos).count .small =
      infos.countP fun info => info.pktLen ≤ cfg.smallPktThreshold := by
    rw [count_sizeClasses]
    simp only [getPktSizeClass_eq_small]
  have large_count : (sizeClasses cfg infos).count .large =
      infos.countP fun info => info.pktLen > cfg.largePktThreshold := by
    rw [count_sizeClasses]
    simp only [getPktSizeClass_eq_large ordered, gt_iff_lt]
  have split : infos.countP (fun info => info.pktLen > cfg.largePktThreshold) +
      infos.countP (fun info => info.pktLen = cfg.largePktThreshold) =
      infos.countP fun info => info.pktLen ≥ cfg.largePktThreshold :=
    countP_add_countP infos (fun info => by omega) fun info above same => by omega
  constructor
  · intro agree
    have small := after.small_eq.symm.trans (agree.small_eq.trans small_count)
    have large := after.large_eq.symm.trans (agree.large_eq.trans large_count)
    rw [← split, u32] at large
    exact ⟨small ▸ u32_lt _, by omega, by omega⟩
  · rintro ⟨small, large, boundary⟩
    have small_eq : ((flowMachine cfg platform).run (fieldsInit cfg tsUs)
        infos).pktLen.smallPktCount = (sizeClasses cfg infos).count .small := by
      rw [after.small_eq, u32_of_lt small, small_count]
    have large_eq : ((flowMachine cfg platform).run (fieldsInit cfg tsUs)
        infos).pktLen.largePktCount = (sizeClasses cfg infos).count .large := by
      rw [after.large_eq, large_count, ← split, u32]
      omega
    refine ⟨small_eq, large_eq, fun totalPackets fwdPktLens bwdPktLens maxLen => ?_⟩
    rw [← small_eq, ← large_eq]
    rfl

/-- A packet of 1200 bytes counts as large, and its class is medium. -/
theorem sizeClassesAgree_boundary :
    ¬ SizeClassesAgree defaultConfig (packetInfos defaultConfig .udp [barePacket 1 1 1192])
      ((flowMachine defaultConfig (barePlatform ℝ)).run (fieldsInit defaultConfig 1)
        (packetInfos defaultConfig .udp [barePacket 1 1 1192])).pktLen := by
  intro agree
  have after := @run_sizesCounted ℝ _ defaultConfig rfl (barePlatform ℝ) 1
    (packetInfos defaultConfig .udp [barePacket 1 1 1192])
  exact absurd (after.large_eq.symm.trans agree.large_eq) (by decide)

theorem sizeClassesAgree_medium :
    SizeClassesAgree defaultConfig (packetInfos defaultConfig .udp [barePacket 1 1 1191])
      ((flowMachine defaultConfig (barePlatform ℝ)).run (fieldsInit defaultConfig 1)
        (packetInfos defaultConfig .udp [barePacket 1 1 1191])).pktLen :=
  (sizeClassesAgree_iff (by decide) rfl (barePlatform ℝ) .udp 1 [barePacket 1 1 1191]).mpr
    (by decide)

end Counters

end TiFeatures
