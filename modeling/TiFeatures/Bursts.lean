/-
This file compares the bursts a flow records with the maximal runs of packets
whose gaps are within the threshold. A burst is recorded when a later packet
breaks it, so the run that is still open when the flow closes is missing.
-/

import TiFeatures.Library.Runs
import TiFeatures.Samples

namespace TiFeatures

open BoundedStore MaximalRuns

variable {D : Type}

/-! ### Bursts of packets -/

/-- A packet comes within the threshold of the one before. -/
def withinBurst (thresholdUs : Nat) (previous next : PacketInfo) : Bool :=
  decide (next.tsUs - previous.tsUs ≤ thresholdUs)

/-- The maximal runs of packets whose gaps are within the threshold. -/
def packetRuns (thresholdUs : Nat) (infos : List PacketInfo) : List (List PacketInfo) :=
  infos.splitBy (withinBurst thresholdUs)

/-- The byte sum and the packet count of a run. -/
def runBurst (run : List PacketInfo) : Nat × Nat :=
  ((run.map PacketInfo.pktLen).sum, run.length)

theorem runBurst_concat (run : List PacketInfo) (info : PacketInfo) :
    runBurst (run ++ [info]) = ((runBurst run).1 + info.pktLen, (runBurst run).2 + 1) := by
  rw [runBurst, List.map_append, List.sum_append, List.length_append]
  rfl

/-- The bursts among some runs: those of two or more packets. -/
def burstsOf (runs : List (List PacketInfo)) : List (Nat × Nat) :=
  (runs.filter fun run => 1 < run.length).map runBurst

/-- What is recorded of some runs, their byte sums and packet counts kept in 32 bits. -/
def recordedOf (runs : List (List PacketInfo)) : List (Nat × Nat) :=
  (runs.filter fun run => 1 < u32 run.length).map fun run =>
    (u32 (runBurst run).1, u32 (runBurst run).2)

theorem burstsOf_concat (runs : List (List PacketInfo)) (run : List PacketInfo) :
    burstsOf (runs ++ [run]) =
      burstsOf runs ++ if 1 < run.length then [runBurst run] else [] := by
  rw [burstsOf, List.filter_append, List.map_append]
  refine congrArg _ ?_
  by_cases long : 1 < run.length
  · simp only [List.filter_singleton, decide_eq_true long, if_pos long, cond_true,
      List.map_singleton]
  · simp only [List.filter_singleton, decide_eq_false long, if_neg long, cond_false, List.map_nil]

/-! ### What an access records -/

/-- What is recorded of a burst. -/
structure BurstRecord where
  byteCount : Nat
  duration : Nat
  pktCount : Nat
  interval : Nat
  deriving DecidableEq

/-- What an access records of a burst. -/
def Access.burstRecord : Access D → Option BurstRecord
  | .recordBurst byteCount duration pktCount interval =>
    some ⟨byteCount, duration, pktCount, interval⟩
  | _ => none

theorem Access.burstRecord_eq_none {access : Access D} (other : access.target ≠ .burst) :
    access.burstRecord = none := by
  cases access with
  | recordBurst byteCount duration pktCount interval => exact absurd rfl other
  | _ => rfl

/-- The burst arrays hold some records: the interval of the first one is left out. -/
structure FlowContents.Bursts (contents : FlowContents D) (kept : List BurstRecord) : Prop where
  sizes_eq : contents.arrays .burstSizes =
    kept.map fun record => ArrayId.stored .burstSizes record.byteCount
  durations_eq : contents.arrays .burstDurations =
    kept.map fun record => ArrayId.stored .burstDurations record.duration
  intervals_eq : contents.arrays .burstIntervals =
    kept.tail.map fun record => ArrayId.stored .burstIntervals record.interval
  packetCounts_eq : contents.arrays .burstPacketCounts =
    kept.map fun record => ArrayId.stored .burstPacketCounts record.pktCount

/-- A burst is added to the records that are kept. -/
theorem FlowContents.Bursts.recordBurst {contents : FlowContents D} {kept : List BurstRecord}
    (bursts : contents.Bursts kept) (record : BurstRecord) :
    (contents.recordBurst 5000 record.byteCount record.duration record.pktCount
      record.interval).Bursts (fill 5000 kept record) := by
  have length_eq : (contents.arrays .burstSizes).length = kept.length := by
    rw [bursts.sizes_eq, List.length_map]
  rw [FlowContents.recordBurst, fill, length_eq]
  by_cases room : kept.length < 5000
  · rw [if_pos room, if_pos room]
    refine ⟨?_, ?_, ?_, ?_⟩
    · rw [List.map_append, ← bursts.sizes_eq]
      rfl
    · rw [List.map_append, ← bursts.durations_eq]
      rfl
    · show (if kept.length > 0 then contents.arrays .burstIntervals ++
        [ArrayId.stored .burstIntervals record.interval] else contents.arrays .burstIntervals) = _
      rw [bursts.intervals_eq]
      cases kept with
      | nil => rfl
      | cons earlier later =>
        rw [if_pos (show (earlier :: later).length > 0 from Nat.succ_pos _), List.cons_append,
          List.tail_cons, List.tail_cons, List.map_append]
        rfl
    · rw [List.map_append, ← bursts.packetCounts_eq]
      rfl
  · rw [if_neg room, if_neg room]
    exact bursts

/-- The arrays hold the first bursts recorded. -/
theorem FlowContents.Bursts.accessAll {contents : FlowContents D} {kept : List BurstRecord}
    (bursts : contents.Bursts kept) (firstNCapacity : Nat) (accesses : List (Access D)) :
    (contents.accessAll firstNCapacity accesses).Bursts
      ((accesses.filterMap Access.burstRecord).foldl (fill 5000) kept) := by
  induction accesses generalizing contents kept with
  | nil => exact bursts
  | cons access rest inductionHypothesis =>
    cases access with
    | recordBurst byteCount duration pktCount interval =>
      exact inductionHypothesis
        (bursts.recordBurst ⟨byteCount, duration, pktCount, interval⟩)
    | append dir value =>
      have apart : ∀ array ∈ [ArrayId.burstSizes, .burstDurations, .burstIntervals,
          .burstPacketCounts], (contents.access (flowMemLevelToSeqLen .large) firstNCapacity
            (.append dir value)).arrays array = contents.arrays array := by
        intro array member
        refine Function.update_of_ne ?_ _ _
        rintro rfl
        exact absurd member (by cases dir <;> decide)
      exact inductionHypothesis ⟨(apart _ (by decide)).trans bursts.sizes_eq,
        (apart _ (by decide)).trans bursts.durations_eq,
        (apart _ (by decide)).trans bursts.intervals_eq,
        (apart _ (by decide)).trans bursts.packetCounts_eq⟩
    | _ =>
      exact inductionHypothesis ⟨bursts.sizes_eq, bursts.durations_eq, bursts.intervals_eq,
        bursts.packetCounts_eq⟩

/-! ### Broken runs -/

/-- The time of the first packet. -/
def firstTsUs (infos : List PacketInfo) : Nat := (infos.head?.map PacketInfo.tsUs).getD 0

theorem firstTsUs_append {infos : List PacketInfo} (nonempty : infos ≠ [])
    (more : List PacketInfo) : firstTsUs (infos ++ more) = firstTsUs infos := by
  rw [firstTsUs, List.head?_append_of_ne_nil _ nonempty]
  rfl

/-- A run that a later packet has broken, the time kept as its start, and the time of the packet
that broke it. -/
structure BrokenRun where
  run : List PacketInfo
  startUs : Nat
  nextUs : Nat

/-- The runs that the one after them has broken. The first starts at the time given, and any
other one at the time of its first packet. -/
def brokenRuns : Nat → List (List PacketInfo) → List BrokenRun
  | startUs, run :: next :: rest =>
    ⟨run, startUs, firstTsUs next⟩ :: brokenRuns (firstTsUs next) (next :: rest)
  | _, _ => []

/-- The time kept as the start of the last run. -/
def openStartUs : Nat → List (List PacketInfo) → Nat
  | _, _ :: next :: rest => openStartUs (firstTsUs next) (next :: rest)
  | startUs, _ => startUs

/-- What is recorded of a broken run. -/
def BrokenRun.record (broken : BrokenRun) : BurstRecord :=
  ⟨u32 (runBurst broken.run).1, u64Sub broken.nextUs broken.startUs, u32 broken.run.length,
    broken.nextUs - lastTsUs broken.run⟩

/-- The broken runs that are recorded: those of more than one packet, by the count in 32 bits. -/
def recordedRuns (runs : List BrokenRun) : List BrokenRun :=
  runs.filter fun broken => 1 < u32 broken.run.length

theorem recordedRuns_concat (runs : List BrokenRun) (broken : BrokenRun) :
    recordedRuns (runs ++ [broken]) =
      recordedRuns runs ++ if 1 < u32 broken.run.length then [broken] else [] := by
  simp only [recordedRuns, List.filter_append, List.filter_cons, List.filter_nil,
    decide_eq_true_eq]

theorem length_recordedRuns_le (runs : List BrokenRun) :
    (recordedRuns runs).length ≤ runs.length := List.length_filter_le _ _

/-- A new run breaks the last one. -/
theorem brokenRuns_concat (startUs : Nat) (ended : List (List PacketInfo))
    (last next : List PacketInfo) :
    brokenRuns startUs ((ended ++ [last]) ++ [next]) = brokenRuns startUs (ended ++ [last]) ++
      [⟨last, openStartUs startUs (ended ++ [last]), firstTsUs next⟩] := by
  induction ended generalizing startUs with
  | nil => rfl
  | cons run others inductionHypothesis =>
    cases others with
    | nil => rfl
    | cons second rest => exact congrArg (List.cons _) (inductionHypothesis (firstTsUs second))

theorem openStartUs_concat (startUs : Nat) (ended : List (List PacketInfo))
    (last next : List PacketInfo) :
    openStartUs startUs ((ended ++ [last]) ++ [next]) = firstTsUs next := by
  induction ended generalizing startUs with
  | nil => rfl
  | cons run others inductionHypothesis =>
    cases others with
    | nil => rfl
    | cons second rest => exact inductionHypothesis (firstTsUs second)

/-- A packet that joins the last run changes none of the broken ones, nor the time kept as the
start of the last. -/
theorem brokenRuns_grow (startUs : Nat) (ended : List (List PacketInfo)) {last : List PacketInfo}
    (nonempty : last ≠ []) (info : PacketInfo) :
    brokenRuns startUs (ended ++ [last ++ [info]]) = brokenRuns startUs (ended ++ [last]) ∧
      openStartUs startUs (ended ++ [last ++ [info]]) = openStartUs startUs (ended ++ [last]) := by
  induction ended generalizing startUs with
  | nil => exact ⟨rfl, rfl⟩
  | cons run others inductionHypothesis =>
    cases others with
    | nil =>
      refine ⟨?_, firstTsUs_append nonempty [info]⟩
      show [BrokenRun.mk run startUs (firstTsUs (last ++ [info]))] = _
      rw [firstTsUs_append nonempty]
      rfl
    | cons second rest =>
      obtain ⟨broken, start⟩ := inductionHypothesis (firstTsUs second)
      exact ⟨congrArg (List.cons _) broken, start⟩

/-- Every run but the last is broken. -/
theorem map_run_brokenRuns (startUs : Nat) (runs : List (List PacketInfo)) :
    (brokenRuns startUs runs).map BrokenRun.run = runs.dropLast := by
  induction runs generalizing startUs with
  | nil => rfl
  | cons run others inductionHypothesis =>
    cases others with
    | nil => rfl
    | cons second rest => exact congrArg (List.cons run) (inductionHypothesis (firstTsUs second))

/-! ### The open run -/

/-- The runs of the packets of a flow: those that have ended, and the open one, whose bytes and
packets are counted in the state. -/
structure OpenRun (thresholdUs : Nat) (infos : List PacketInfo)
    (ended : List (List PacketInfo)) (last : List PacketInfo) (fields : Fields D) : Prop where
  runs_eq : packetRuns thresholdUs infos = ended ++ [last]
  burstByteCount_eq : fields.burst.burstByteCount = u32 (runBurst last).1
  burstPktCount_eq : fields.burst.burstPktCount = u32 (runBurst last).2
  lastArrivalUs_eq : ∀ previous ∈ infos.getLast?, fields.iat.lastArrivalUs = previous.tsUs

section Steps

variable [Double D] (cfg : FeatureConfig) (platform : Platform D) {info : PacketInfo}
  {fields : Fields D}

/-- The arrival time is kept of every packet. -/
theorem dataFields_lastArrivalUs (info : PacketInfo) (fields : Fields D) :
    (dataFields cfg platform info fields).iat.lastArrivalUs = info.tsUs := by
  by_cases first : fields.iat.lastArrivalUs = 0
  · exact congrArg (fun call => call.1.lastArrivalUs) (iatCall_first cfg info first)
  · exact congrArg (fun call => call.1.lastArrivalUs) (iatCall_later cfg info first)

theorem filterMap_burstRecord (info : PacketInfo) (fields : Fields D) :
    (dataAccesses cfg platform info fields).filterMap Access.burstRecord =
      (burstCall cfg info fields.burst (burstIat info fields.iat)).2.filterMap
        (Access.burstRecord (D := D)) :=
  filterMap_dataAccesses cfg platform info fields .burst fun _ => Access.burstRecord_eq_none

/-- A packet joins the open run, or ends it and starts another one. -/
theorem OpenRun.step (collected : cfg.enableBurst = true) {infos : List PacketInfo}
    {ended : List (List PacketInfo)} {last : List PacketInfo}
    (state : OpenRun cfg.burstIatThresholdUs infos ended last fields)
    {previous : PacketInfo} (previous_eq : infos.getLast? = some previous)
    (positive : 0 < previous.tsUs) (ordered : previous.tsUs ≤ info.tsUs) (range : info.InRange) :
    let next := dataFields cfg platform info fields
    let records := (dataAccesses cfg platform info fields).filterMap Access.burstRecord
    (OpenRun cfg.burstIatThresholdUs (infos ++ [info]) ended (last ++ [info]) next ∧
        next.burst.burstStartUs = fields.burst.burstStartUs ∧ records = []) ∨
      (OpenRun cfg.burstIatThresholdUs (infos ++ [info]) (ended ++ [last]) [info] next ∧
        next.burst.burstStartUs = info.tsUs ∧
        records = if 1 < u32 last.length then
          [BrokenRun.record ⟨last, fields.burst.burstStartUs, info.tsUs⟩] else []) := by
  intro next records
  have arrival := state.lastArrivalUs_eq previous previous_eq
  have gap : burstIat info fields.iat = info.tsUs - previous.tsUs := by
    rw [burstIat, arrival, if_pos positive, u64Sub_of_le ordered range.tsUs_lt]
  have arrivalNext : ∀ other ∈ (infos ++ [info]).getLast?,
      next.iat.lastArrivalUs = other.tsUs := by
    intro other other_eq
    rw [List.getLast?_concat] at other_eq
    rw [dataFields_lastArrivalUs, Option.some.inj other_eq]
  have bytes := state.burstByteCount_eq
  have packets := state.burstPktCount_eq
  have burst_eq : next.burst =
      (burstCall (D := D) cfg info fields.burst (info.tsUs - previous.tsUs)).1 :=
    gap ▸ rfl
  have records_eq : records = (burstCall cfg info fields.burst
      (info.tsUs - previous.tsUs)).2.filterMap (Access.burstRecord (D := D)) :=
    gap ▸ filterMap_burstRecord cfg platform info fields
  simp only [burstCall, if_pos collected, calcBurstUpdate] at burst_eq records_eq
  by_cases within : info.tsUs - previous.tsUs ≤ cfg.burstIatThresholdUs
  · simp only [if_pos within] at burst_eq records_eq
    have joins : ∀ other ∈ infos.getLast?,
        withinBurst cfg.burstIatThresholdUs other info = true := by
      intro other other_eq
      obtain rfl := Option.some.inj (previous_eq.symm.trans other_eq)
      exact decide_eq_true within
    have runs := splitBy_concat_related state.runs_eq joins
    refine Or.inl ⟨⟨runs, ?_, ?_, arrivalNext⟩, ?_, records_eq⟩
    · rw [burst_eq, bytes, runBurst_concat]
      exact Nat.mod_add_mod _ _ _
    · rw [burst_eq, packets, runBurst_concat]
      exact Nat.mod_add_mod _ _ _
    · rw [burst_eq]
  · simp only [if_neg within] at burst_eq records_eq
    have apart : ∀ other ∈ infos.getLast?,
        withinBurst cfg.burstIatThresholdUs other info = false := by
      intro other other_eq
      obtain rfl := Option.some.inj (previous_eq.symm.trans other_eq)
      exact decide_eq_false within
    have runs := splitBy_concat_unrelated state.runs_eq apart
    have lastTs : lastTsUs last = previous.tsUs := by
      rw [lastTsUs, getLast?_last state.runs_eq, previous_eq]
      rfl
    refine Or.inr ⟨⟨runs, ?_, ?_, arrivalNext⟩, ?_, ?_⟩
    · rw [burst_eq]
      exact (Nat.mod_eq_of_lt range.pktLen_lt).symm
    · rw [burst_eq]
      rfl
    · rw [burst_eq]
    · rw [records_eq, bytes, packets, BrokenRun.record, lastTs]
      by_cases long : 1 < u32 last.length
      · rw [if_pos long, if_pos (show u32 (runBurst last).2 > 1 from long)]
        rfl
      · rw [if_neg long, if_neg (show ¬u32 (runBurst last).2 > 1 from long)]
        rfl

end Steps

/-! ### Flows -/

section Flows

variable [Double D] (cfg : FeatureConfig) (platform : Platform D) (streamType : StreamType)
  (first : RawPacket) (rest : List RawPacket)

/-- After the packets of a flow, the runs that have been broken are recorded, and the first run
has kept the start zero. -/
theorem flowFields_brokenRuns (collected : cfg.enableBurst = true)
    (positive : ∀ info ∈ packetInfos cfg streamType (first :: rest), 0 < info.tsUs)
    (ordered : ((packetInfos cfg streamType (first :: rest)).map PacketInfo.tsUs).Pairwise
      (· ≤ ·)) :
    ∃ ended last,
      OpenRun cfg.burstIatThresholdUs (packetInfos cfg streamType (first :: rest)) ended last
          (flowFields cfg platform streamType first rest) ∧
        (flowFields cfg platform streamType first rest).burst.burstStartUs =
          openStartUs 0 (ended ++ [last]) ∧
        (flowAccesses cfg platform streamType first rest).filterMap Access.burstRecord =
          (recordedRuns (brokenRuns 0 (ended ++ [last]))).map BrokenRun.record := by
  induction rest using List.reverseRecOn with
  | nil =>
    have fields_eq : flowFields cfg platform streamType first [] = dataFields cfg platform
      (packetInfo cfg streamType first) (fieldsInit cfg (packetTsUs cfg first)) := rfl
    have burst_eq : (flowFields cfg platform streamType first []).burst =
        ⟨0, u32 (packetInfo cfg streamType first).pktLen, 1⟩ := by
      rw [fields_eq]
      simp only [dataFields, burstCall, if_pos collected, calcBurstUpdate]
      rw [show burstIat (packetInfo cfg streamType first)
        (fieldsInit cfg (packetTsUs cfg first) : Fields D).iat = 0 from rfl, if_pos (Nat.zero_le _)]
      simp only [fieldsInit, Nat.zero_add]
      rfl
    refine ⟨[], [packetInfo cfg streamType first], ⟨rfl, ?_, ?_, ?_⟩, ?_, ?_⟩
    · rw [burst_eq]
      rfl
    · rw [burst_eq]
      rfl
    · intro previous previous_eq
      rw [fields_eq, dataFields_lastArrivalUs]
      exact congrArg PacketInfo.tsUs (Option.some.inj previous_eq)
    · rw [burst_eq]
      rfl
    · have accesses_eq : flowAccesses cfg platform streamType first [] = dataAccesses cfg platform
        (packetInfo cfg streamType first) (fieldsInit cfg (packetTsUs cfg first)) :=
        List.append_nil _
      rw [accesses_eq, filterMap_burstRecord]
      simp only [burstCall, if_pos collected, calcBurstUpdate]
      rw [show burstIat (packetInfo cfg streamType first)
        (fieldsInit cfg (packetTsUs cfg first) : Fields D).iat = 0 from rfl, if_pos (Nat.zero_le _)]
      rfl
  | append_singleton others packet inductionHypothesis =>
    have infos_eq : packetInfos cfg streamType (first :: (others ++ [packet])) =
        packetInfos cfg streamType (first :: others) ++ [packetInfo cfg streamType packet] :=
      packetInfos_append cfg streamType (first :: others) [packet]
    have fields_eq : flowFields cfg platform streamType first (others ++ [packet]) =
        dataFields cfg platform (packetInfo cfg streamType packet)
          (flowFields cfg platform streamType first others) := by
      rw [flowFields, infos_eq, Mealy.run_append]
      rfl
    have accesses_eq : flowAccesses cfg platform streamType first (others ++ [packet]) =
        flowAccesses cfg platform streamType first others ++
          dataAccesses cfg platform (packetInfo cfg streamType packet)
            (flowFields cfg platform streamType first others) := by
      rw [flowAccesses, infos_eq, Mealy.trace_append]
      exact congrArg _ (List.append_nil _)
    rw [infos_eq] at positive ordered ⊢
    rw [List.map_append, List.pairwise_append] at ordered
    obtain ⟨ended, last, state, start, recorded⟩ := inductionHypothesis
      (fun info member => positive info (List.mem_append_left _ member)) ordered.1
    obtain ⟨previous, previous_eq⟩ : ∃ previous,
        (packetInfos cfg streamType (first :: others)).getLast? = some previous :=
      ⟨_, List.getLast?_eq_some_getLast (List.cons_ne_nil _ _)⟩
    have member := List.mem_of_getLast? previous_eq
    rw [fields_eq, accesses_eq, List.filterMap_append, recorded]
    rcases state.step cfg platform collected previous_eq
      (positive previous (List.mem_append_left _ member))
      (ordered.2.2 _ (List.mem_map_of_mem member) _ List.mem_cons_self)
      (packetInfo_inRange cfg streamType packet) with
      ⟨next, startNext, recordedNext⟩ | ⟨next, startNext, recordedNext⟩
    · obtain ⟨broken, starts⟩ := brokenRuns_grow 0 ended (last_ne_nil state.runs_eq)
        (packetInfo cfg streamType packet)
      refine ⟨ended, last ++ [packetInfo cfg streamType packet], next, ?_, ?_⟩
      · rw [startNext, start, starts]
      · rw [recordedNext, broken, List.append_nil]
    · refine ⟨ended ++ [last], [packetInfo cfg streamType packet], next, ?_, ?_⟩
      · rw [startNext, openStartUs_concat]
        rfl
      · rw [recordedNext, brokenRuns_concat, recordedRuns_concat, List.map_append, ← start]
        by_cases long : 1 < u32 last.length
        · rw [if_pos long, if_pos long]
          rfl
        · rw [if_neg long, if_neg long]
          rfl

/-- What is recorded of the broken runs are their sizes and packet counts. -/
theorem map_record_brokenRuns (runs : List (List PacketInfo)) :
    ((recordedRuns (brokenRuns 0 runs)).map BrokenRun.record).map (fun record =>
      (ArrayId.stored .burstSizes record.byteCount,
        ArrayId.stored .burstPacketCounts record.pktCount)) = recordedOf runs.dropLast := by
  rw [← map_run_brokenRuns 0 runs, recordedOf, List.filter_map, List.map_map, List.map_map]
  refine List.map_congr_left fun broken _ => ?_
  exact Prod.ext (Nat.mod_eq_of_lt (u32_lt _)) (Nat.mod_eq_of_lt (u32_lt _))

/-- The arrays of a flow hold the first bursts recorded. -/
theorem flowContents_bursts : (flowContents cfg platform streamType first rest).Bursts
    (((flowAccesses cfg platform streamType first rest).filterMap Access.burstRecord).take
      5000) := by
  have empty : FlowContents.Bursts (FlowContents.init (D := D)) [] := ⟨rfl, rfl, rfl, rfl⟩
  have recorded := empty.accessAll (clampFirstN cfg.firstNPackets)
    (flowAccesses cfg platform streamType first rest)
  rwa [foldl_fill_nil] at recorded

/-- There is a run for every broken one, and one more. -/
theorem length_brokenRuns (startUs : Nat) (runs : List (List PacketInfo)) :
    (brokenRuns startUs runs).length = runs.length - 1 := by
  rw [← List.length_map, map_run_brokenRuns, List.length_dropLast]

/-- The broken runs of a flow that its arrays keep. -/
def keptRuns (capacity thresholdUs : Nat) (infos : List PacketInfo) : List BrokenRun :=
  (recordedRuns (brokenRuns 0 (packetRuns thresholdUs infos))).take capacity

/-- The burst arrays read at close hold some records. -/
structure View.Bursts (view : View D) (kept : List BurstRecord) : Prop where
  sizes_eq : view.burstSizes =
    kept.map fun record => ArrayId.stored .burstSizes record.byteCount
  durations_eq : view.burstDurations =
    kept.map fun record => ArrayId.stored .burstDurations record.duration
  intervals_eq : view.burstIntervals =
    kept.tail.map fun record => ArrayId.stored .burstIntervals record.interval
  packetCounts_eq : view.burstPacketCounts =
    kept.map fun record => ArrayId.stored .burstPacketCounts record.pktCount

/-- The burst arrays of a flow at close hold the first broken runs that are recorded. -/
theorem flowRun_bursts (collected : cfg.enableBurst = true)
    (positive : ∀ info ∈ packetInfos cfg streamType (first :: rest), 0 < info.tsUs)
    (ordered : ((packetInfos cfg streamType (first :: rest)).map PacketInfo.tsUs).Pairwise
      (· ≤ ·)) :
    ∃ state, flowRun cfg platform streamType (allocated (first :: rest)) = some state ∧
      state.view.Bursts ((keptRuns state.store.memPool.actualSeqLen cfg.burstIatThresholdUs
        (packetInfos cfg streamType (first :: rest))).map BrokenRun.record) := by
  obtain ⟨state, run, -, after⟩ := flowRun_allocated cfg platform streamType first rest
  refine ⟨state, run, ?_⟩
  obtain ⟨ended, last, openRun, -, recorded⟩ := flowFields_brokenRuns cfg platform streamType first
    rest collected positive ordered
  have capacity_eq : state.store.memPool.actualSeqLen =
      flowMemLevelToSeqLen (levelAt (rest.length + 1)) :=
    after.wellFormed.store.pool.seqLen_eq.trans (congrArg _ after.level_eq)
  rw [← openRun.runs_eq] at recorded
  -- below the largest level there are fewer runs than the arrays hold
  have few : (recordedRuns (brokenRuns 0 (packetRuns cfg.burstIatThresholdUs
        (packetInfos cfg streamType (first :: rest))))).take 5000 =
      keptRuns state.store.memPool.actualSeqLen cfg.burstIatThresholdUs
        (packetInfos cfg streamType (first :: rest)) := by
    rw [keptRuns]
    rcases lt_seqLen_levelAt rest.length with room | large
    · have total := length_splitBy_le (withinBurst cfg.burstIatThresholdUs)
        (packetInfos cfg streamType (first :: rest))
      rw [← packetRuns, packetInfos, List.length_map, List.length_cons, ← packetInfos] at total
      have broken := length_brokenRuns 0
        (packetRuns cfg.burstIatThresholdUs (packetInfos cfg streamType (first :: rest)))
      have counted := length_recordedRuns_le (brokenRuns 0
        (packetRuns cfg.burstIatThresholdUs (packetInfos cfg streamType (first :: rest))))
      have within := flowMemLevelToSeqLen_le_large (levelAt (rest.length + 1))
      rw [show flowMemLevelToSeqLen .large = 5000 from rfl] at within
      rw [List.take_of_length_le (by omega), List.take_of_length_le (by omega)]
    · rw [capacity_eq, large]
      rfl
  have bursts := flowContents_bursts cfg platform streamType first rest
  rw [recorded, ← List.map_take, few, ← after.contents_eq] at bursts
  have view_eq := after.wellFormed.view_eq
  exact ⟨(congrArg View.burstSizes view_eq).trans bursts.sizes_eq,
    (congrArg View.burstDurations view_eq).trans bursts.durations_eq,
    (congrArg View.burstIntervals view_eq).trans bursts.intervals_eq,
    (congrArg View.burstPacketCounts view_eq).trans bursts.packetCounts_eq⟩

/-- The bursts recorded at close are the bursts of the flow, up to the capacity of the arrays. -/
structure FlowFeatureState.BurstsComplete (state : FlowFeatureState D) (thresholdUs : Nat)
    (infos : List PacketInfo) : Prop where
  sizes_eq : state.view.burstSizes =
    ((burstsOf (packetRuns thresholdUs infos)).take state.store.memPool.actualSeqLen).map Prod.fst
  packetCounts_eq : state.view.burstPacketCounts =
    ((burstsOf (packetRuns thresholdUs infos)).take state.store.memPool.actualSeqLen).map Prod.snd

/-- The last run of the packets needs no record, as it is a single packet or begins when the
arrays are full, and the bursts recorded fit their elements. -/
structure BurstsEnded (capacity : Nat) (runs : List (List PacketInfo)) : Prop where
  last : (∀ run ∈ runs.getLast?, run.length < 2) ∨ capacity ≤ (burstsOf runs.dropLast).length
  fits : ∀ burst ∈ (burstsOf runs).take capacity, burst.1 < 2 ^ 32 ∧ burst.2 < 2 ^ 32

omit [Double D] in
theorem length_recordedOf_le (runs : List (List PacketInfo)) :
    (recordedOf runs).length ≤ (burstsOf runs).length := by
  rw [recordedOf, burstsOf, List.length_map, List.length_map]
  refine (List.monotone_filter_right runs fun run long => ?_).length_le
  rw [decide_eq_true_eq] at long ⊢
  exact long.trans_le (Nat.mod_le _ _)

/-- Recording the runs that have ended gives the bursts of all runs exactly if the last one needs
no record and the bursts fit. -/
theorem take_recordedOf_iff (capacity : Nat) (ended : List (List PacketInfo))
    (last : List PacketInfo) :
    (recordedOf ended).take capacity = (burstsOf (ended ++ [last])).take capacity ↔
      BurstsEnded capacity (ended ++ [last]) := by
  have dropped : (ended ++ [last]).dropLast = ended := List.dropLast_concat
  constructor
  · intro same
    refine ⟨?_, fun burst member => ?_⟩
    · rw [List.getLast?_concat, dropped]
      by_cases short : last.length < 2
      · exact Or.inl fun run run_eq => Option.some.inj run_eq ▸ short
      · refine Or.inr ?_
        have lengths := congrArg List.length same
        rw [burstsOf_concat, if_pos (by omega), List.length_take, List.length_take,
          List.length_append, List.length_singleton] at lengths
        have fewer := length_recordedOf_le ended
        omega
    · rw [← same] at member
      obtain ⟨run, -, rfl⟩ := List.mem_map.mp (List.mem_of_mem_take member)
      exact ⟨u32_lt _, u32_lt _⟩
  · rintro ⟨lastRun, fits⟩
    have firsts : (burstsOf (ended ++ [last])).take capacity =
        (burstsOf ended).take capacity := by
      rw [burstsOf_concat]
      rcases lastRun with short | full
      · have single := short last (List.getLast?_concat ..)
        rw [if_neg (by omega), List.append_nil]
      · rw [dropped] at full
        exact List.take_append_of_le_length full
    rw [firsts] at fits ⊢
    rw [burstsOf, ← List.map_take] at fits ⊢
    have small := List.forall_mem_map.mp fits
    rw [recordedOf, ← List.map_take, take_filter_of_forall ended capacity ?_ ?_]
    · refine List.map_congr_left fun run member => ?_
      obtain ⟨bytes, packets⟩ := small run member
      exact Prod.ext (Nat.mod_eq_of_lt bytes) (Nat.mod_eq_of_lt packets)
    · intro run _ long
      rw [decide_eq_true_eq] at long ⊢
      exact long.trans_le (Nat.mod_le _ _)
    · intro run member
      have long := (List.mem_filter.mp (List.mem_of_mem_take member)).2
      rw [decide_eq_true_eq] at long ⊢
      have packets : u32 run.length = run.length := Nat.mod_eq_of_lt (small run member).2
      rwa [packets]

/-- The bursts recorded at close are those of the flow exactly if the last run needs no record
and the bursts fit. -/
theorem flowRun_burstsComplete_iff (collected : cfg.enableBurst = true)
    (positive : ∀ info ∈ packetInfos cfg streamType (first :: rest), 0 < info.tsUs)
    (ordered : ((packetInfos cfg streamType (first :: rest)).map PacketInfo.tsUs).Pairwise
      (· ≤ ·)) :
    ∃ state, flowRun cfg platform streamType (allocated (first :: rest)) = some state ∧
      let infos := packetInfos cfg streamType (first :: rest)
      (state.BurstsComplete cfg.burstIatThresholdUs infos ↔
        BurstsEnded state.store.memPool.actualSeqLen
          (packetRuns cfg.burstIatThresholdUs infos)) := by
  obtain ⟨state, run, bursts⟩ := flowRun_bursts cfg platform streamType first rest collected
    positive ordered
  refine ⟨state, run, ?_⟩
  obtain ⟨ended, last, runs_eq⟩ : ∃ ended last, packetRuns cfg.burstIatThresholdUs
      (packetInfos cfg streamType (first :: rest)) = ended ++ [last] :=
    ⟨_, _, (List.dropLast_concat_getLast
      (List.splitBy_ne_nil.mpr (List.cons_ne_nil _ _))).symm⟩
  have pairs := congrArg (List.take state.store.memPool.actualSeqLen)
    (map_record_brokenRuns (ended ++ [last]))
  rw [List.dropLast_concat, ← runs_eq, ← List.map_take, ← List.map_take, ← keptRuns] at pairs
  have sizes_eq : state.view.burstSizes =
      ((recordedOf ended).take state.store.memPool.actualSeqLen).map Prod.fst := by
    rw [← pairs, List.map_map, bursts.sizes_eq]
    rfl
  have counts_eq : state.view.burstPacketCounts =
      ((recordedOf ended).take state.store.memPool.actualSeqLen).map Prod.snd := by
    rw [← pairs, List.map_map, bursts.packetCounts_eq]
    rfl
  dsimp only
  rw [runs_eq, ← take_recordedOf_iff]
  constructor
  · intro complete
    have firsts := sizes_eq.symm.trans complete.sizes_eq
    have seconds := counts_eq.symm.trans complete.packetCounts_eq
    rw [runs_eq] at firsts seconds
    exact (List.zip_of_prod firsts seconds).trans (List.zip_of_prod rfl rfl).symm
  · intro same
    exact ⟨sizes_eq.trans (by rw [same, runs_eq]),
      counts_eq.trans (by rw [same, runs_eq])⟩

/-- Two packets within the threshold are a burst, and the flow records none. -/
theorem flowRun_misses_burst : ∃ state : FlowFeatureState Float,
    flowRun defaultConfig (barePlatform Float) .tcp
        (allocated [barePacket 1 1 100, barePacket 2 1 100]) = some state ∧
      ¬ state.BurstsComplete defaultConfig.burstIatThresholdUs (packetInfos defaultConfig .tcp
        [barePacket 1 1 100, barePacket 2 1 100]) := by
  obtain ⟨state, run, complete_iff⟩ := flowRun_burstsComplete_iff defaultConfig
    (barePlatform Float) .tcp (barePacket 1 1 100) [barePacket 2 1 100] rfl (by decide) (by decide)
  refine ⟨state, run, fun complete => ?_⟩
  rcases (complete_iff.mp complete).last with short | full
  · exact absurd (short _ rfl) (by decide)
  · rw [(flowRun_reachable run).wellFormed.store.pool.seqLen_eq] at full
    have none : (burstsOf (packetRuns defaultConfig.burstIatThresholdUs (packetInfos defaultConfig
      .tcp [barePacket 1 1 100, barePacket 2 1 100])).dropLast).length = 0 := by decide
    have positive : 0 < flowMemLevelToSeqLen state.store.memPool.level := by
      cases state.store.memPool.level <;> decide
    exact absurd (positive.trans_le (full.trans_eq none)) (Nat.lt_irrefl 0)

/-- A burst that a third packet breaks is recorded. -/
theorem flowRun_burstsComplete_three : ∃ state : FlowFeatureState Float,
    flowRun defaultConfig (barePlatform Float) .tcp
        (allocated [barePacket 1 1 100, barePacket 2 1 100, barePacket 5000 1 100]) =
          some state ∧
      state.BurstsComplete defaultConfig.burstIatThresholdUs (packetInfos defaultConfig .tcp
        [barePacket 1 1 100, barePacket 2 1 100, barePacket 5000 1 100]) := by
  obtain ⟨state, run, complete_iff⟩ := flowRun_burstsComplete_iff defaultConfig
    (barePlatform Float) .tcp (barePacket 1 1 100) [barePacket 2 1 100, barePacket 5000 1 100] rfl
    (by decide) (by decide)
  refine ⟨state, run, complete_iff.mpr ⟨Or.inl ?_, fun burst member => ?_⟩⟩
  · decide
  · have bursts : ∀ burst ∈ burstsOf (packetRuns defaultConfig.burstIatThresholdUs
        (packetInfos defaultConfig .tcp
          [barePacket 1 1 100, barePacket 2 1 100, barePacket 5000 1 100])),
        burst.1 < 2 ^ 32 ∧ burst.2 < 2 ^ 32 := by decide
    exact bursts burst (List.mem_of_mem_take member)

end Flows

end TiFeatures
