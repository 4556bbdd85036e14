/-
This file compares the inter-arrival times a flow records of each direction with
the gaps between the packets of the direction. The first packet of a flow leaves
`calc_iat_update` early, before its time is kept for its direction, so the first
gap of that direction is missing.
-/

import TiFeatures.Directions

namespace TiFeatures

open BoundedStore

variable {D : Type}

/-! ### Gaps -/

/-- The gaps between consecutive times, by a given subtraction. -/
def gapsBy (sub : Nat → Nat → Nat) : List Nat → List Nat
  | first :: second :: rest => sub second first :: gapsBy sub (second :: rest)
  | _ => []

/-- The gaps between consecutive times. -/
def gaps (times : List Nat) : List Nat := gapsBy (· - ·) times

theorem gapsBy_eq_nil (sub : Nat → Nat → Nat) {times : List Nat}
    (short : ∀ first second rest, times = first :: second :: rest → False) :
    gapsBy sub times = [] := by
  match times with
  | [] => rfl
  | [_] => rfl
  | first :: second :: rest => exact absurd rfl (short first second rest)

theorem length_gapsBy (sub : Nat → Nat → Nat) (times : List Nat) :
    (gapsBy sub times).length = times.length - 1 := by
  induction times using gapsBy.induct with
  | case1 first second rest inductionHypothesis =>
    rw [gapsBy, List.length_cons, inductionHypothesis, List.length_cons, List.length_cons]
    rfl
  | case2 times short =>
    match times with
    | [] => rfl
    | [_] => rfl
    | first :: second :: rest => exact absurd rfl (short first second rest)

theorem length_gaps (times : List Nat) : (gaps times).length = times.length - 1 :=
  length_gapsBy _ times

/-- The times of a direction, with the one the flow has kept of it in front. -/
def withLast (last : Nat) (times : List Nat) : List Nat := if last > 0 then last :: times else times

/-- The inter-arrival times of a direction. -/
def Side.iats : Side → DirArray
  | .fwd => .fwdIats
  | .bwd => .bwdIats

/-- The time kept of the last packet of a direction. -/
def Side.lastUs (state : IatState D) : Side → Nat
  | .fwd => state.lastFwdUs
  | .bwd => state.lastBwdUs

/-- The number of inter-arrival times in the statistics of a direction. -/
def Side.iatCount (state : IatState D) : Side → Nat
  | .fwd => state.fwdIat.fwd.count
  | .bwd => state.bwdIat.bwd.count

theorem withLast_of_pos {last : Nat} (positive : last > 0) (times : List Nat) :
    withLast last times = last :: times := if_pos positive

theorem gapsBy_withLast_nil (sub : Nat → Nat → Nat) (last : Nat) :
    gapsBy sub (withLast last []) = [] := by
  unfold withLast
  split <;> rfl

/-- The gaps between times in order do not wrap. -/
theorem gapsBy_u64Sub_of_ordered {times : List Nat} (small : ∀ time ∈ times, time < 2 ^ 64)
    (ordered : times.Pairwise (· ≤ ·)) : gapsBy u64Sub times = gaps times := by
  rw [gaps]
  induction times using gapsBy.induct with
  | case1 first second rest inductionHypothesis =>
    have gap : u64Sub second first = second - first :=
      u64Sub_of_le (List.rel_of_pairwise_cons ordered List.mem_cons_self)
        (small second (List.mem_cons_of_mem _ List.mem_cons_self))
    have others := inductionHypothesis
      (fun time member => small time (List.mem_cons_of_mem _ member)) ordered.of_cons
    rw [gapsBy, gap, others, gapsBy]
  | case2 times short =>
    rw [gapsBy_eq_nil _ short, gapsBy_eq_nil _ short]

/-! ### Packets after the first -/

section Steps

variable [Double D] (cfg : FeatureConfig) (platform : Platform D) (info : PacketInfo)
  {fields : Fields D}

/-- What a packet after the first does to the times of a direction: it appends the gap from the
last packet, if the time of one has been kept, and keeps its own time. -/
theorem dataFields_side (later : fields.iat.lastArrivalUs ≠ 0)
    (need : cfg.needFwdBwdIats = true) (side : Side) :
    let next := dataFields cfg platform info fields
    let record := info.direction = side.dir ∧ side.lastUs fields.iat > 0
    (dataAccesses cfg platform info fields).filterMap (Access.appended side.iats) =
        (if record then [u64Sub info.tsUs (side.lastUs fields.iat)] else []) ∧
      side.iatCount next.iat =
        (if record then u64 (side.iatCount fields.iat + 1) else side.iatCount fields.iat) ∧
      side.lastUs next.iat =
        (if info.direction = side.dir then info.tsUs else side.lastUs fields.iat) ∧
      next.iat.lastArrivalUs = info.tsUs := by
  rw [filterMap_dataAccesses cfg platform info fields (.array side.iats)
    fun _ => Access.appended_eq_none]
  simp only [dataFields, iatCall_later cfg info later, need, Bool.true_and, and_true]
  cases side with
  | fwd =>
    simp only [Target.call, Side.iats, callAccesses, iatCall_later cfg info later, need,
      Bool.true_and, Bool.and_eq_true, decide_eq_true_eq, Side.iatCount, Side.lastUs, Side.dir]
    by_cases record : info.direction = dirFwd ∧ fields.iat.lastFwdUs > 0
    · simp only [record, and_self, if_true]
      refine ⟨?_, rfl, trivial⟩
      split_ifs <;> rfl
    · simp only [record, if_false]
      refine ⟨?_, trivial, rfl⟩
      split_ifs <;> rfl
  | bwd =>
    simp only [Target.call, Side.iats, callAccesses, iatCall_later cfg info later, need,
      Bool.true_and, Bool.and_eq_true, decide_eq_true_eq, Side.iatCount, Side.lastUs, Side.dir]
    by_cases record : info.direction = dirBwd ∧ fields.iat.lastBwdUs > 0
    · simp only [record, and_self, if_true]
      refine ⟨?_, rfl, trivial⟩
      split_ifs <;> rfl
    · simp only [record, if_false]
      refine ⟨?_, trivial, rfl⟩
      split_ifs <;> rfl

/-- The packets after the first record the gaps between the packets of each direction, from the
last one that has been kept. -/
theorem trace_iats (need : cfg.needFwdBwdIats = true) (side : Side) {infos : List PacketInfo}
    (later : fields.iat.lastArrivalUs ≠ 0) (positive : ∀ info ∈ infos, 0 < info.tsUs)
    {total : Nat} (counted : side.iatCount fields.iat = u64 total) :
    let recorded := gapsBy u64Sub
      (withLast (side.lastUs fields.iat) ((side.of infos).map PacketInfo.tsUs))
    ((flowMachine cfg platform).trace fields infos).filterMap (Access.appended side.iats) =
        recorded ∧
      side.iatCount ((flowMachine cfg platform).run fields infos).iat =
        u64 (total + recorded.length) := by
  induction infos generalizing fields total with
  | nil =>
    dsimp only
    rw [show (side.of []).map PacketInfo.tsUs = [] from rfl, gapsBy_withLast_nil]
    exact ⟨rfl, counted⟩
  | cons info rest inductionHypothesis =>
    obtain ⟨appended, count_eq, lastUs_eq, arrival_eq⟩ :=
      dataFields_side cfg platform info later need side
    have now := positive info (List.mem_cons_self ..)
    have nextLater : (dataFields cfg platform info fields).iat.lastArrivalUs ≠ 0 := by
      rw [arrival_eq]
      exact now.ne'
    have others : ∀ other ∈ rest, 0 < other.tsUs :=
      fun other member => positive other (List.mem_cons_of_mem _ member)
    dsimp only
    rw [Side.of_cons, Mealy.trace_cons, Mealy.run_cons, List.filterMap_append]
    by_cases same : info.direction = side.dir
    · rw [if_pos same, List.map_cons]
      simp only [same, true_and] at appended count_eq
      rw [if_pos same] at lastUs_eq
      by_cases kept : side.lastUs fields.iat > 0
      · rw [if_pos kept] at appended count_eq
        rw [counted, u64_add_u64] at count_eq
        obtain ⟨trace_eq, run_eq⟩ := inductionHypothesis nextLater others count_eq
        rw [lastUs_eq, withLast_of_pos now] at trace_eq run_eq
        rw [withLast_of_pos kept, gapsBy, List.length_cons, Nat.add_comm _ 1, ← Nat.add_assoc]
        exact ⟨congrArg₂ (· ++ ·) appended trace_eq, run_eq⟩
      · rw [if_neg kept] at appended count_eq
        obtain ⟨trace_eq, run_eq⟩ := inductionHypothesis nextLater others
          (count_eq.trans counted)
        rw [lastUs_eq, withLast_of_pos now] at trace_eq run_eq
        rw [withLast, if_neg kept]
        exact ⟨congrArg₂ (· ++ ·) appended trace_eq, run_eq⟩
    · simp only [same, false_and, if_false] at appended count_eq lastUs_eq ⊢
      obtain ⟨trace_eq, run_eq⟩ := inductionHypothesis nextLater others (count_eq.trans counted)
      rw [lastUs_eq] at trace_eq run_eq
      exact ⟨congrArg₂ (· ++ ·) appended trace_eq, run_eq⟩

end Steps

/-! ### Flows -/

/-- The inter-arrival times of a direction are the gaps between its packets: the array holds the
first 5000 of them, and the statistics have counted them all. -/
structure FlowFeatureState.IatsComplete (state : FlowFeatureState D) (infos : List PacketInfo)
    (side : Side) : Prop where
  iats_eq : state.store.dirValues side.iats =
    (gaps ((side.of infos).map PacketInfo.tsUs)).take 5000
  count_eq : side.iatCount state.fields.iat = u64 ((side.of infos).length - 1)

section Flows

variable [Double D] (cfg : FeatureConfig) (platform : Platform D) (streamType : StreamType)
  (first : RawPacket) (rest : List RawPacket)

/-- What the packets of a flow append to the inter-arrival times of a direction are the gaps
between its packets after the first, in whatever order these come. -/
theorem flowAccesses_iats (need : cfg.needFwdBwdIats = true)
    (positive : ∀ info ∈ packetInfos cfg streamType (first :: rest), info.tsUs > 0)
    (side : Side) :
    let recorded := gapsBy u64Sub ((side.of (packetInfos cfg streamType rest)).map PacketInfo.tsUs)
    (flowAccesses cfg platform streamType first rest).filterMap (Access.appended side.iats) =
        recorded ∧
      side.iatCount (flowFields cfg platform streamType first rest).iat = u64 recorded.length := by
  -- the first packet keeps nothing but its arrival time
  have firstIat : (dataFields cfg platform (packetInfo cfg streamType first)
      (fieldsInit cfg (packetTsUs cfg first))).iat =
      { (fieldsInit cfg (packetTsUs cfg first) : Fields D).iat with
        lastArrivalUs := (packetInfo cfg streamType first).tsUs } :=
    congrArg Prod.fst (iatCall_first cfg (packetInfo cfg streamType first) rfl)
  have firstNone : (dataAccesses cfg platform (packetInfo cfg streamType first)
      (fieldsInit cfg (packetTsUs cfg first))).filterMap (Access.appended side.iats) = [] := by
    rw [filterMap_dataAccesses cfg platform _ _ (.array side.iats)
      fun _ => Access.appended_eq_none]
    cases side <;> rfl
  have later : (dataFields cfg platform (packetInfo cfg streamType first)
      (fieldsInit cfg (packetTsUs cfg first))).iat.lastArrivalUs ≠ 0 := by
    rw [firstIat]
    exact (positive _ (List.mem_cons_self ..)).ne'
  have unkept : side.lastUs (dataFields cfg platform (packetInfo cfg streamType first)
      (fieldsInit cfg (packetTsUs cfg first))).iat = 0 := by
    rw [firstIat]
    cases side <;> rfl
  have uncounted : side.iatCount (dataFields cfg platform (packetInfo cfg streamType first)
      (fieldsInit cfg (packetTsUs cfg first))).iat = u64 0 := by
    rw [firstIat]
    cases side <;> rfl
  have recorded := trace_iats cfg platform need side later
    (fun info member => positive info (List.mem_cons_of_mem _ member)) uncounted
  simp only [unkept, Nat.zero_add] at recorded
  exact ⟨List.filterMap_append.trans (congrArg₂ (· ++ ·) firstNone recorded.1), recorded.2⟩

/-- What a flow records of a direction are the gaps between its packets after the first. -/
theorem flowRun_iats (need : cfg.needFwdBwdIats = true)
    (positive : ∀ info ∈ packetInfos cfg streamType (first :: rest), info.tsUs > 0)
    (ordered : ((packetInfos cfg streamType (first :: rest)).map PacketInfo.tsUs).Pairwise
      (· ≤ ·)) :
    ∃ state, flowRun cfg platform streamType (allocated (first :: rest)) = some state ∧
      ∀ side : Side,
        let recorded := gaps ((side.of (packetInfos cfg streamType rest)).map PacketInfo.tsUs)
        state.store.dirValues side.iats = recorded.take 5000 ∧
          side.iatCount state.fields.iat = u64 recorded.length := by
  obtain ⟨state, run, fields_eq, after⟩ := flowRun_allocated cfg platform streamType first rest
  refine ⟨state, run, fun side => ?_⟩
  have dirValues : state.store.dirValues side.iats =
      ((flowAccesses cfg platform streamType first rest).filterMap
        (Access.appended side.iats)).take 5000 := by
    rw [← flowContents_arrays, ← after.contents_eq]
    cases side <;> rfl
  have sideOrdered : ((side.of (packetInfos cfg streamType rest)).map PacketInfo.tsUs).Pairwise
      (· ≤ ·) :=
    ordered.of_cons.sublist (List.filter_sublist.map PacketInfo.tsUs)
  have small : ∀ time ∈ (side.of (packetInfos cfg streamType rest)).map PacketInfo.tsUs,
      time < 2 ^ 64 := by
    intro time member
    obtain ⟨info, inside, rfl⟩ := List.mem_map.mp member
    exact packetInfos_tsUs_lt cfg streamType rest info (List.mem_of_mem_filter inside)
  obtain ⟨appended, count⟩ := flowAccesses_iats cfg platform streamType first rest need positive
    side
  rw [gapsBy_u64Sub_of_ordered small sideOrdered] at appended count
  rw [dirValues, fields_eq]
  exact ⟨congrArg (List.take 5000) appended, count⟩

/-- Two forward packets have one gap between them, and the flow records none. -/
theorem flowRun_misses_gap : ∃ state : FlowFeatureState Float,
    flowRun defaultConfig (barePlatform Float) .tcp
        (allocated [barePacket 1 1 100, barePacket 2 1 100]) = some state ∧
      gaps ((Side.fwd.of (packetInfos defaultConfig .tcp
        [barePacket 1 1 100, barePacket 2 1 100])).map PacketInfo.tsUs) = [1] ∧
      state.store.dirValues .fwdIats = [] ∧ state.fields.iat.fwdIat.fwd.count = 0 := by
  obtain ⟨state, run, recorded⟩ := flowRun_iats defaultConfig (barePlatform Float) .tcp
    (barePacket 1 1 100) [barePacket 2 1 100] rfl (by decide) (by decide)
  obtain ⟨iats, count⟩ := recorded .fwd
  exact ⟨state, run, by decide, iats, count⟩

/-- The inter-arrival times of both directions are complete exactly if the first packet of the
flow has no direction, or no later packet has the same. -/
theorem flowRun_iatsComplete_iff (need : cfg.needFwdBwdIats = true)
    (positive : ∀ info ∈ packetInfos cfg streamType (first :: rest), info.tsUs > 0)
    (ordered : ((packetInfos cfg streamType (first :: rest)).map PacketInfo.tsUs).Pairwise
      (· ≤ ·)) :
    ∃ state, flowRun cfg platform streamType (allocated (first :: rest)) = some state ∧
      ((∀ side, state.IatsComplete (packetInfos cfg streamType (first :: rest)) side) ↔
        ∀ side : Side, first.curdir = side.dir → ∀ packet ∈ rest, packet.curdir ≠ side.dir) := by
  obtain ⟨state, run, recorded⟩ := flowRun_iats cfg platform streamType first rest need positive
    ordered
  refine ⟨state, run, forall_congr' fun side => ?_⟩
  obtain ⟨iats_eq, count_eq⟩ := recorded side
  rw [length_gaps, List.length_map] at count_eq
  have none_iff : (∀ packet ∈ rest, packet.curdir ≠ side.dir) ↔
      side.of (packetInfos cfg streamType rest) = [] := by
    simp only [Side.of, packetInfos, List.filter_eq_nil_iff, List.forall_mem_map,
      decide_eq_true_eq]
    rfl
  rw [none_iff]
  have cons := Side.of_cons side (packetInfo cfg streamType first)
    (packetInfos cfg streamType rest)
  by_cases same : first.curdir = side.dir
  · rw [if_pos (show (packetInfo cfg streamType first).direction = side.dir from same)] at cons
    refine ⟨fun complete _ => ?_, fun empty => ?_⟩
    · have counts := count_eq.symm.trans complete.count_eq
      rw [show packetInfos cfg streamType (first :: rest) = packetInfo cfg streamType first ::
        packetInfos cfg streamType rest from rfl, cons, List.length_cons] at counts
      rw [← List.length_eq_zero_iff]
      unfold u64 at counts
      omega
    · rw [empty same] at cons iats_eq count_eq
      exact ⟨by rw [packetInfos, List.map_cons, ← packetInfos, cons, iats_eq]; rfl,
        by rw [packetInfos, List.map_cons, ← packetInfos, cons, count_eq]; rfl⟩
  · rw [if_neg (show ¬(packetInfo cfg streamType first).direction = side.dir from same)] at cons
    refine ⟨fun _ taken => absurd taken same, fun _ => ⟨?_, ?_⟩⟩
    · rw [packetInfos, List.map_cons, ← packetInfos, cons, iats_eq]
    · rw [packetInfos, List.map_cons, ← packetInfos, cons, count_eq]

/-- The inter-arrival times of a flow whose later packets all go backward are complete. -/
theorem flowRun_iatsComplete_three : ∃ state : FlowFeatureState Float,
    flowRun defaultConfig (barePlatform Float) .tcp
        (allocated [barePacket 1 1 100, barePacket 2 2 100, barePacket 5 2 100]) = some state ∧
      (∀ side, state.IatsComplete (packetInfos defaultConfig .tcp
        [barePacket 1 1 100, barePacket 2 2 100, barePacket 5 2 100]) side) ∧
      state.store.dirValues .bwdIats = [3] ∧ state.fields.iat.bwdIat.bwd.count = 1 := by
  obtain ⟨state, run, complete_iff⟩ := flowRun_iatsComplete_iff defaultConfig (barePlatform Float)
    .tcp (barePacket 1 1 100) [barePacket 2 2 100, barePacket 5 2 100] rfl (by decide) (by decide)
  have complete := complete_iff.mpr fun side => by cases side <;> decide
  exact ⟨state, run, complete, (complete .bwd).iats_eq, (complete .bwd).count_eq⟩

end Flows

/-! ### The sequence of all inter-arrival times -/

section Sequence

variable [Double D] (cfg : FeatureConfig) (platform : Platform D)

/-- A packet after the first pushes its distance from the one before. -/
theorem pushed_iatSeq (info : PacketInfo) {fields : Fields D}
    (later : fields.iat.lastArrivalUs ≠ 0) :
    (dataAccesses cfg platform info fields).filterMap (Access.pushed .iatSeq) =
      if cfg.needIatSeq then [u64Sub info.tsUs fields.iat.lastArrivalUs] else [] := by
  rw [filterMap_dataAccesses cfg platform info fields (.ring .iatSeq)
    fun _ => Access.pushed_eq_none]
  simp only [Target.call, callAccesses, iatCall_later cfg info later]
  split_ifs <;> rfl

/-- Packets after the first push the gaps from one packet to the next. -/
theorem trace_iatSeq {infos : List PacketInfo} {fields : Fields D}
    (later : fields.iat.lastArrivalUs ≠ 0) (positive : ∀ info ∈ infos, info.tsUs > 0) :
    ((flowMachine cfg platform).trace fields infos).filterMap (Access.pushed .iatSeq) =
      if cfg.needIatSeq then gapsBy u64Sub (fields.iat.lastArrivalUs :: infos.map PacketInfo.tsUs)
      else [] := by
  induction infos generalizing fields with
  | nil => exact (ite_self _).symm
  | cons info rest inductionHypothesis =>
    have arrival : (dataFields cfg platform info fields).iat.lastArrivalUs = info.tsUs :=
      congrArg (fun call => call.1.lastArrivalUs) (iatCall_later cfg info later)
    have pushed := pushed_iatSeq cfg platform info later
    rw [Mealy.trace_cons, List.filterMap_append, List.map_cons, gapsBy]
    have nextLater : (dataFields cfg platform info fields).iat.lastArrivalUs ≠ 0 := by
      rw [arrival]
      exact (positive info (List.mem_cons_self ..)).ne'
    have others := inductionHypothesis nextLater
      fun other member => positive other (List.mem_cons_of_mem _ member)
    rw [arrival] at others
    refine (congrArg₂ (· ++ ·) pushed others).trans ?_
    split <;> rfl

variable (streamType : StreamType) (first : RawPacket) (rest : List RawPacket)

/-- The inter-arrival times of a flow are the gaps between its packets. -/
theorem pushed_iats
    (positive : ∀ info ∈ packetInfos cfg streamType (first :: rest), info.tsUs > 0) :
    (flowAccesses cfg platform streamType first rest).filterMap (Access.pushed .iatSeq) =
      if cfg.needIatSeq then
        gapsBy u64Sub ((packetInfos cfg streamType (first :: rest)).map PacketInfo.tsUs)
      else [] := by
  have firstNone : (dataAccesses cfg platform (packetInfo cfg streamType first)
      (fieldsInit cfg (packetTsUs cfg first))).filterMap (Access.pushed .iatSeq) = [] := by
    rw [filterMap_dataAccesses cfg platform _ _ (.ring .iatSeq) fun _ => Access.pushed_eq_none]
    rfl
  have firstTs : (dataFields cfg platform (packetInfo cfg streamType first)
      (fieldsInit cfg (packetTsUs cfg first))).iat.lastArrivalUs =
      (packetInfo cfg streamType first).tsUs := rfl
  have others := trace_iatSeq cfg platform
    (fun zero => (positive _ (List.mem_cons_self ..)).ne' (firstTs.symm.trans zero))
    fun info member => positive info (List.mem_cons_of_mem _ member)
  exact List.filterMap_append.trans (congrArg₂ (· ++ ·) firstNone others)

end Sequence

end TiFeatures
