/-
This file compares the counters of the time windows with the windows the times of
the packets fall in. The two agree unless the number of a window does not fit 32
bits and is reduced to that of a window that exists.
-/

import TiFeatures.Windows

namespace TiFeatures

variable {D : Type}

/-! ### Windows by time -/

/-- The number of the window a packet falls in, by its time. -/
def timeWindow (windowSizeUs startUs : Nat) (info : PacketInfo) : Nat :=
  (info.tsUs - startUs) / windowSizeUs

/-- The packets that fall in a window, by their times. -/
def fallenIn (windowSizeUs startUs : Nat) (infos : List PacketInfo) (window : Nat) :
    List PacketInfo :=
  infos.filter fun info => timeWindow windowSizeUs startUs info = window

/-- The window of a packet lies behind those that 32 bits can number, and is reduced to one of
the windows that exist. -/
def Stray (windowSizeUs startUs : Nat) (info : PacketInfo) : Prop :=
  2 ^ 32 ≤ timeWindow windowSizeUs startUs info ∧
    timeWindow windowSizeUs startUs info % 2 ^ 32 < poolNumWindows

/-- The counters of every window are those of the packets that fall in it, in 32 bits. -/
structure HistogramRight (windowSizeUs startUs : Nat) (infos : List PacketInfo)
    (view : View D) : Prop where
  packets_eq : ∀ window < poolNumWindows, view.windowPktCounts.getD window 0 =
    u32 (fallenIn windowSizeUs startUs infos window).length
  bytes_eq : ∀ window < poolNumWindows, view.windowByteCounts.getD window 0 =
    u32 ((fallenIn windowSizeUs startUs infos window).map PacketInfo.pktLen).sum

section Packet

variable {windowSizeUs startUs : Nat} {info : PacketInfo}

/-- A packet that does not come before the first one is counted in the reduced window. -/
theorem windowOf_eq (later : startUs ≤ info.tsUs) (small : info.tsUs < 2 ^ 64) :
    windowOf windowSizeUs startUs info = u32 (timeWindow windowSizeUs startUs info) := by
  rw [windowOf, u64Sub_of_le later small]
  rfl

/-- The windows of a packet that does not stray agree, as far as they exist. -/
theorem windowOf_eq_iff (later : startUs ≤ info.tsUs) (small : info.tsUs < 2 ^ 64)
    (settled : ¬ Stray windowSizeUs startUs info) {window : Nat}
    (inside : window < poolNumWindows) :
    windowOf windowSizeUs startUs info = window ↔
      timeWindow windowSizeUs startUs info = window := by
  have bound : poolNumWindows = 100 := rfl
  rw [windowOf_eq later small]
  unfold Stray at settled
  unfold u32
  omega

/-- A packet behind the last window is counted if and only if it strays. -/
theorem stray_iff (later : startUs ≤ info.tsUs) (small : info.tsUs < 2 ^ 64)
    (beyond : poolNumWindows ≤ timeWindow windowSizeUs startUs info) :
    Stray windowSizeUs startUs info ↔ windowOf windowSizeUs startUs info < poolNumWindows := by
  have bound : poolNumWindows = 100 := rfl
  rw [windowOf_eq later small]
  unfold Stray u32
  omega

theorem windowPackets_eq {infos : List PacketInfo}
    (later : ∀ info ∈ infos, startUs ≤ info.tsUs) (small : ∀ info ∈ infos, info.tsUs < 2 ^ 64)
    (settled : ∀ info ∈ infos, ¬ Stray windowSizeUs startUs info) {window : Nat}
    (inside : window < poolNumWindows) :
    windowPackets windowSizeUs startUs infos window =
        (fallenIn windowSizeUs startUs infos window).length ∧
      windowBytes windowSizeUs startUs infos window =
        ((fallenIn windowSizeUs startUs infos window).map PacketInfo.pktLen).sum := by
  have same : (infos.filter fun info => windowOf windowSizeUs startUs info = window) =
      fallenIn windowSizeUs startUs infos window :=
    List.filter_congr fun info member => decide_eq_decide.mpr
      (windowOf_eq_iff (later info member) (small info member) (settled info member) inside)
  rw [windowPackets, windowBytes, same]
  exact ⟨rfl, rfl⟩

end Packet

/-! ### Flows -/

section Flows

variable [Double D] {cfg : FeatureConfig} {platform : Platform D} {streamType : StreamType}
  {first : Allocs × RawPacket} {rest : List (Allocs × RawPacket)} {flow : FlowFeatureState D}

/-- The closing code reads the window counters from the arrays. -/
theorem flowRun_view_windows (run : flowRun cfg platform streamType (first :: rest) = some flow) :
    flow.view.windowPktCounts = flow.store.contents.arrays .windowPktCounts ∧
      flow.view.windowByteCounts = flow.store.contents.arrays .windowByteCounts := by
  have view_eq := (flowRun_reachable run).wellFormed.view_eq
  exact ⟨congrArg View.windowPktCounts view_eq, congrArg View.windowByteCounts view_eq⟩

/-- A shorter run has the first packets of a longer one. -/
theorem flowRun_of_prefix {callbacks seen : List (Allocs × RawPacket)} (within : seen <+: callbacks)
    (nonempty : seen ≠ []) (run : flowRun cfg platform streamType callbacks = some flow) :
    ∃ state, flowRun cfg platform streamType seen = some state := by
  obtain ⟨later, rfl⟩ := within
  obtain ⟨first, rest, rfl⟩ := List.exists_cons_of_ne_nil nonempty
  rw [List.cons_append, flowRun_cons] at run
  obtain ⟨created, created_eq, -⟩ := Option.map_eq_some_iff.mp run
  rw [flowRun_cons, created_eq]
  exact ⟨_, rfl⟩

/-- The windows of a run follow the times of its packets: after every packet the counters are
right, and a packet behind the last window changes none of them. -/
structure WindowsByTime (cfg : FeatureConfig) (platform : Platform D) (streamType : StreamType)
    (startUs : Nat) (callbacks : List (Allocs × RawPacket)) : Prop where
  right : ∀ seen flow, seen <+: callbacks → flowRun cfg platform streamType seen = some flow →
    HistogramRight (cfg.windowSizeMs * 1000) startUs
      (packetInfos cfg streamType (seen.map Prod.snd)) flow.view
  beyond : ∀ seen callback before after, seen ++ [callback] <+: callbacks →
    flowRun cfg platform streamType seen = some before →
    flowRun cfg platform streamType (seen ++ [callback]) = some after →
    poolNumWindows ≤ timeWindow (cfg.windowSizeMs * 1000) startUs
      (packetInfo cfg streamType callback.2) →
    after.view.windowPktCounts = before.view.windowPktCounts ∧
      after.view.windowByteCounts = before.view.windowByteCounts

section Counts

variable (need : cfg.needWindowUpdate = true) (size : cfg.windowSizeMs ≠ 0)
  (positive : packetTsUs cfg first.2 ≠ 0)

include need size positive

/-- A run whose packets do not stray counts them by their times. -/
theorem flowRun_histogramRight
    (run : flowRun cfg platform streamType (first :: rest) = some flow)
    (later : ∀ info ∈ packetInfos cfg streamType ((first :: rest).map Prod.snd),
      packetTsUs cfg first.2 ≤ info.tsUs)
    (settled : ∀ info ∈ packetInfos cfg streamType ((first :: rest).map Prod.snd),
      ¬ Stray (cfg.windowSizeMs * 1000) (packetTsUs cfg first.2) info) :
    HistogramRight (cfg.windowSizeMs * 1000) (packetTsUs cfg first.2)
      (packetInfos cfg streamType ((first :: rest).map Prod.snd)) flow.view := by
  have count := flowRun_packetsCount need size positive run
  obtain ⟨packets, bytes⟩ := flowRun_view_windows run
  have small : ∀ info ∈ packetInfos cfg streamType ((first :: rest).map Prod.snd),
      info.tsUs < 2 ^ 64 := packetInfos_tsUs_lt cfg streamType _
  constructor
  · intro window inside
    rw [packets, count.packets window inside, (windowPackets_eq later small settled inside).1]
  · intro window inside
    rw [bytes, count.bytes window inside, (windowPackets_eq later small settled inside).2]

/-- A packet that is not counted in a window changes no counter. -/
theorem flowRun_counts_kept {callback : Allocs × RawPacket} {after : FlowFeatureState D}
    (run : flowRun cfg platform streamType (first :: rest) = some flow)
    (next : flowRun cfg platform streamType (first :: rest ++ [callback]) = some after) :
    (after.view.windowPktCounts = flow.view.windowPktCounts ∧
      after.view.windowByteCounts = flow.view.windowByteCounts) ↔
    poolNumWindows ≤ windowOf (cfg.windowSizeMs * 1000) (packetTsUs cfg first.2)
      (packetInfo cfg streamType callback.2) := by
  rw [List.cons_append] at next
  have count := flowRun_packetsCount need size positive run
  have countNext := flowRun_packetsCount need size positive next
  have infos_eq : packetInfos cfg streamType ((first :: (rest ++ [callback])).map Prod.snd) =
      packetInfos cfg streamType ((first :: rest).map Prod.snd) ++
        [packetInfo cfg streamType callback.2] := by
    simp only [packetInfos, List.map_cons, List.map_append, List.map_nil, List.cons_append]
  rw [infos_eq] at countNext
  obtain ⟨packets, bytes⟩ := flowRun_view_windows run
  obtain ⟨packetsNext, bytesNext⟩ := flowRun_view_windows next
  rw [packets, bytes, packetsNext, bytesNext]
  constructor
  · rintro ⟨same, -⟩
    by_contra inside
    have counted := countNext.packets _ (not_le.mp inside)
    rw [same, count.packets _ (not_le.mp inside), windowPackets_concat, if_pos rfl] at counted
    unfold u32 at counted
    omega
  · intro outside
    constructor
    · refine List.ext_getElem (countNext.packets_length.trans count.packets_length.symm)
        fun window left right => ?_
      have inside : window < poolNumWindows := count.packets_length ▸ right
      have other : windowOf (cfg.windowSizeMs * 1000) (packetTsUs cfg first.2)
          (packetInfo cfg streamType callback.2) ≠ window := (inside.trans_le outside).ne'
      have counted := countNext.packets window inside
      rw [windowPackets_concat, if_neg other, Nat.add_zero, ← count.packets window inside,
        List.getD_eq_getElem _ _ left, List.getD_eq_getElem _ _ right] at counted
      exact counted
    · refine List.ext_getElem (countNext.length_eq.trans count.length_eq.symm)
        fun window left right => ?_
      have inside : window < poolNumWindows := count.length_eq ▸ right
      have other : windowOf (cfg.windowSizeMs * 1000) (packetTsUs cfg first.2)
          (packetInfo cfg streamType callback.2) ≠ window := (inside.trans_le outside).ne'
      have counted := countNext.bytes window inside
      rw [windowBytes_concat, if_neg other, Nat.add_zero, ← count.bytes window inside,
        List.getD_eq_getElem _ _ left, List.getD_eq_getElem _ _ right] at counted
      exact counted

/-- The windows of a run follow the times of its packets exactly if no packet strays. -/
theorem flowRun_windowsByTime_iff
    (ordered : ((packetInfos cfg streamType ((first :: rest).map Prod.snd)).map
      PacketInfo.tsUs).Pairwise (· ≤ ·))
    (run : flowRun cfg platform streamType (first :: rest) = some flow) :
    WindowsByTime cfg platform streamType (packetTsUs cfg first.2) (first :: rest) ↔
      ∀ info ∈ packetInfos cfg streamType ((first :: rest).map Prod.snd),
        ¬ Stray (cfg.windowSizeMs * 1000) (packetTsUs cfg first.2) info := by
  have small : ∀ packet : RawPacket, (packetInfo cfg streamType packet).tsUs < 2 ^ 64 :=
    packetInfo_tsUs_lt cfg streamType
  have later : ∀ info ∈ packetInfos cfg streamType ((first :: rest).map Prod.snd),
      packetTsUs cfg first.2 ≤ info.tsUs := by
    intro info member
    rcases List.mem_cons.mp member with rfl | after
    · exact le_rfl
    · exact List.rel_of_pairwise_cons ordered (List.mem_map_of_mem after)
  have among : ∀ {callback}, callback ∈ first :: rest → packetInfo cfg streamType callback.2 ∈
      packetInfos cfg streamType ((first :: rest).map Prod.snd) := fun member =>
    List.mem_map_of_mem (List.mem_map_of_mem member)
  constructor
  · intro byTime info member stray
    obtain ⟨packet, packets, rfl⟩ := List.mem_map.mp member
    obtain ⟨callback, callbacks, rfl⟩ := List.mem_map.mp packets
    obtain ⟨seen, others, split_eq⟩ := List.append_of_mem callbacks
    have within : seen ++ [callback] <+: first :: rest :=
      ⟨others, (List.append_assoc ..).trans split_eq.symm⟩
    rcases List.prefix_cons_iff.mp ((List.prefix_append _ _).trans within) with
      none | ⟨before, rfl, -⟩
    · rw [none, List.nil_append, List.cons.injEq] at split_eq
      rw [← split_eq.1] at stray
      have start : timeWindow (cfg.windowSizeMs * 1000) (packetTsUs cfg first.2)
          (packetInfo cfg streamType first.2) = 0 := by
        rw [timeWindow, show (packetInfo cfg streamType first.2).tsUs = packetTsUs cfg first.2
          from rfl, Nat.sub_self, Nat.zero_div]
      exact absurd (start ▸ stray.1) (by decide)
    · obtain ⟨state, seen_run⟩ := flowRun_of_prefix ((List.prefix_append _ _).trans within)
        (List.cons_ne_nil _ _) run
      obtain ⟨next, next_run⟩ := flowRun_of_prefix within
        (List.append_ne_nil_of_right_ne_nil _ (List.cons_ne_nil _ _)) run
      have beyond : poolNumWindows ≤ timeWindow (cfg.windowSizeMs * 1000)
          (packetTsUs cfg first.2) (packetInfo cfg streamType callback.2) :=
        (show poolNumWindows ≤ 2 ^ 32 by decide).trans stray.1
      have kept := (flowRun_counts_kept need size positive seen_run next_run).mp
        (byTime.beyond _ callback state next within seen_run next_run beyond)
      exact absurd ((stray_iff (later _ member) (small _) beyond).mp stray) (not_lt.mpr kept)
  · intro settled
    constructor
    · intro seen state within seen_run
      rcases List.prefix_cons_iff.mp within with rfl | ⟨before, rfl, inside⟩
      · cases seen_run
      · have subset : ∀ info ∈ packetInfos cfg streamType ((first :: before).map Prod.snd),
            info ∈ packetInfos cfg streamType ((first :: rest).map Prod.snd) := fun info member =>
          ((within.map Prod.snd).map _).subset member
        exact flowRun_histogramRight need size positive seen_run
          (fun info member => later info (subset info member))
          fun info member => settled info (subset info member)
    · intro seen callback before after within before_run after_run beyond
      rcases List.prefix_cons_iff.mp ((List.prefix_append _ _).trans within) with
        rfl | ⟨others, rfl, -⟩
      · cases before_run
      · have member := among (within.subset (List.mem_append_right _ (List.mem_singleton_self _)))
        refine (flowRun_counts_kept need size positive before_run after_run).mpr ?_
        exact not_lt.mp (mt (stray_iff (later _ member) (small _) beyond).mpr (settled _ member))

end Counts

end Flows

/-! ### Two packets -/

/-- Windows of a millisecond. -/
def narrowConfig : FeatureConfig := { defaultConfig with windowSizeMs := 1 }

/-- The second of two packets, 2 ^ 32 milliseconds later. -/
def strayPacket : RawPacket := { barePacket 296001 1 100 with tvSec := 4294967 }

/-- Two packets in windows that exist are counted by their times. -/
theorem flowRun_windowsByTime_two : WindowsByTime defaultConfig (barePlatform Float) .tcp
    (packetTsUs defaultConfig (barePacket 1 1 100))
    (allocated [barePacket 1 1 100, laterPacket]) := by
  obtain ⟨flow, run, -⟩ := flowRun_allocated (D := Float) defaultConfig (barePlatform Float) .tcp
    (barePacket 1 1 100) [laterPacket]
  refine (flowRun_windowsByTime_iff rfl (by decide) (by decide) (by decide) run).mpr ?_
  intro info member
  rcases List.mem_pair.mp member with rfl | rfl
  · exact fun stray => absurd stray.1 (by decide)
  · exact fun stray => absurd stray.1 (by decide)

/-- A packet that comes 2 ^ 32 windows after the first one is counted in the first window. -/
theorem flowRun_counts_stray : ∃ flow : FlowFeatureState Float,
    flowRun narrowConfig (barePlatform Float) .tcp
        (allocated [barePacket 1 1 100, strayPacket]) = some flow ∧
      flow.view.windowPktCounts.getD 0 0 = 2 ∧
      (fallenIn (narrowConfig.windowSizeMs * 1000)
        (packetTsUs narrowConfig (barePacket 1 1 100))
        (packetInfos narrowConfig .tcp [barePacket 1 1 100, strayPacket]) 0).length = 1 := by
  obtain ⟨flow, run, -⟩ := flowRun_allocated (D := Float) narrowConfig (barePlatform Float) .tcp
    (barePacket 1 1 100) [strayPacket]
  have count := flowRun_packetsCount rfl (by decide) (by decide) run
  refine ⟨flow, run, ?_, by decide⟩
  rw [(flowRun_view_windows run).1, count.packets 0 (by decide)]
  decide

end TiFeatures
