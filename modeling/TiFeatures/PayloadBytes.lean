/-
This file says what is collected from the bytes of payloads. The histograms, the
statistic of the byte values, the counts of printable and alphanumeric bytes and
the first bytes depend on the bytes in their order, however they are cut into
packets. The counts are kept in 32 bits, so their order survives only where no
wrap sets one of them apart from the others.
-/

import TiFeatures.Summaries

namespace TiFeatures

variable {D : Type}

/-! ### Tallies -/

/-- How many bytes of each class there are, each count in 32 bits. -/
def tally (classify : UInt8 → Nat) (size : Nat) (bytes : List UInt8) : List Nat :=
  (List.range size).map fun index => u32 (bytes.countP fun byte => classify byte = index)

theorem u32_add_u32 (total amount : Nat) : u32 (u32 total + amount) = u32 (total + amount) :=
  Nat.mod_add_mod _ _ _

theorem tally_nil (classify : UInt8 → Nat) (size : Nat) :
    tally classify size [] = List.replicate size 0 := by
  rw [tally, List.eq_replicate_iff]
  refine ⟨by rw [List.length_map, List.length_range], fun count member => ?_⟩
  obtain ⟨index, -, rfl⟩ := List.mem_map.mp member
  rfl

/-- Another byte adds one to the count of its class. -/
theorem tally_concat (classify : UInt8 → Nat) (size : Nat) (bytes : List UInt8) (byte : UInt8) :
    tally classify size (bytes ++ [byte]) =
      (tally classify size bytes).modify (classify byte) fun count => u32 (count + 1) := by
  refine List.ext_getElem ?_ fun index within _ => ?_
  · simp only [tally, List.length_modify, List.length_map]
  · simp only [tally, List.getElem_modify, List.getElem_map, List.getElem_range,
      List.countP_append, List.countP_singleton, decide_eq_true_eq]
    split
    · exact (u32_add_u32 _ _).symm
    · rfl

theorem getD_tally (classify : UInt8 → Nat) {size index : Nat} (within : index < size)
    (bytes : List UInt8) :
    (tally classify size bytes).getD index 0 =
      u32 (bytes.countP fun byte => classify byte = index) := by
  rw [tally, List.getD_eq_getElem?_getD, List.getElem?_map, List.getElem?_range within]
  rfl

theorem length_tally (classify : UInt8 → Nat) (size : Nat) (bytes : List UInt8) :
    (tally classify size bytes).length = size := by
  rw [tally, List.length_map, List.length_range]

/-- Reducing summands does not change the sum in 32 bits. -/
theorem u32_sum_map_u32 {Item : Type} (term : Item → Nat) (items : List Item) :
    u32 (items.map fun item => u32 (term item)).sum = u32 (items.map term).sum := by
  induction items with
  | nil => rfl
  | cons item items inductionHypothesis =>
    rw [List.map_cons, List.map_cons, List.sum_cons, List.sum_cons, u32_add_u32, u32, u32,
      Nat.add_mod, Nat.add_mod _ (List.map term items).sum]
    exact congrArg (fun rest => (_ % _ + rest) % _) inductionHypothesis

/-- Another item counts if it is of the kind. -/
theorem u32_countP_concat {Item : Type} (kind : Item → Bool) (items : List Item) (item : Item) :
    u32 ((items ++ [item]).countP kind) =
      if kind item = true then u32 (u32 (items.countP kind) + 1) else u32 (items.countP kind) := by
  rw [List.countP_append, List.countP_singleton]
  split
  · exact (u32_add_u32 _ _).symm
  · rfl

/-- Items of two kinds that exclude each other count together. -/
theorem countP_add_countP {Item : Type} {first second whole : Item → Prop} [DecidablePred first]
    [DecidablePred second] [DecidablePred whole] (items : List Item)
    (covers : ∀ item, whole item ↔ first item ∨ second item)
    (apart : ∀ item, first item → ¬second item) :
    items.countP (fun item => first item) + items.countP (fun item => second item) =
      items.countP fun item => whole item := by
  induction items with
  | nil => rfl
  | cons item items inductionHypothesis =>
    simp only [List.countP_cons, decide_eq_true_eq, ← inductionHypothesis, covers item]
    by_cases isFirst : first item
    · rw [if_pos isFirst, if_neg (apart item isFirst), if_pos (Or.inl isFirst)]
      omega
    · by_cases isSecond : second item
      · rw [if_neg isFirst, if_pos isSecond, if_pos (Or.inr isSecond)]
        omega
      · rw [if_neg isFirst, if_neg isSecond, if_neg (not_or.mpr ⟨isFirst, isSecond⟩)]
        omega

/-- The counts of successive classes sum to the count of their range. -/
theorem sum_countP_range (classify : UInt8 → Nat) (first width : Nat) (bytes : List UInt8) :
    ((List.range width).map fun step =>
        bytes.countP fun byte => classify byte = first + step).sum =
      bytes.countP fun byte => first ≤ classify byte ∧ classify byte < first + width := by
  induction width with
  | zero =>
    rw [List.range_zero, List.map_nil, List.sum_nil]
    refine (List.countP_eq_zero.mpr fun byte _ => ?_).symm
    rw [decide_eq_true_eq]
    omega
  | succ width inductionHypothesis =>
    rw [List.range_succ, List.map_append, List.sum_append, inductionHypothesis, List.map_singleton,
      List.sum_singleton]
    refine countP_add_countP bytes (fun byte => ?_) fun byte inside same => ?_
    · omega
    · omega

/-! ### One byte after another -/

/-- The byte is printable. -/
def isPrintable (byte : UInt8) : Prop := 32 ≤ byte.toNat ∧ byte.toNat ≤ 126

instance : DecidablePred isPrintable := fun byte =>
  inferInstanceAs (Decidable (32 ≤ byte.toNat ∧ byte.toNat ≤ 126))

variable [Double D]

/-- What is collected byte by byte: a function of the bytes in their order. -/
structure Collected (bytes : List UInt8) (state : PayloadState D) : Prop where
  hist_eq : state.payloadByteHist = tally (fun byte => byte.toNat / 16) 16 bytes
  histFull_eq : state.payloadByteHistFull = tally UInt8.toNat 256 bytes
  stats_eq : state.payloadByteStats = runningStatsOf D (bytes.map UInt8.toNat)
  printable_eq : state.payloadPrintableCount = u32 (bytes.countP fun byte => isPrintable byte)
  alnum_eq : state.payloadAlnumCount = u32 (bytes.countP fun byte => isAlnum byte.toNat)
  first_eq : state.payloadFirstBytes = bytes.take payloadFirstBytesSize

theorem payloadStateInit_collected : Collected [] (payloadStateInit : PayloadState D) where
  hist_eq := (tally_nil _ _).symm
  histFull_eq := (tally_nil _ _).symm
  stats_eq := rfl
  printable_eq := rfl
  alnum_eq := rfl
  first_eq := rfl

variable {bytes : List UInt8} {state : PayloadState D}

/-- The loop body adds a byte. -/
theorem Collected.byte (collected : Collected bytes state) (byte : UInt8) :
    Collected (bytes ++ [byte]) (updatePayloadByte state byte) where
  hist_eq := by
    rw [tally_concat, ← collected.hist_eq]
    rfl
  histFull_eq := by
    rw [tally_concat, ← collected.histFull_eq]
    rfl
  stats_eq := by
    rw [List.map_append, List.map_singleton, runningStatsOf_concat, ← collected.stats_eq]
    rfl
  printable_eq := by
    rw [u32_countP_concat, ← collected.printable_eq]
    simp only [decide_eq_true_eq]
    rfl
  alnum_eq := by
    rw [u32_countP_concat, ← collected.alnum_eq]
    rfl
  first_eq := by
    rw [← BoundedStore.fill_take, ← collected.first_eq]
    rfl

theorem Collected.payload (collected : Collected bytes state) (payload : List UInt8) :
    Collected (bytes ++ payload) (payload.foldl updatePayloadByte state) := by
  induction payload generalizing bytes state with
  | nil => rwa [List.append_nil]
  | cons byte payload inductionHypothesis =>
    rw [List.append_cons]
    exact inductionHypothesis (collected.byte byte)

/-- The byte loop leaves the total alone. -/
theorem foldl_updatePayloadByte_total (payload : List UInt8) (state : PayloadState D) :
    (payload.foldl updatePayloadByte state).payloadTotalBytes = state.payloadTotalBytes := by
  induction payload generalizing state with
  | nil => rfl
  | cons byte payload inductionHypothesis =>
    exact inductionHypothesis (updatePayloadByte state byte)

/-! ### One payload after another -/

/-- The payload statistics after `calc_payload_stats` was called with some payloads. -/
def payloadRun (platform : Platform D) (payloads : List (List UInt8)) : PayloadState D :=
  payloads.foldl (fun state payload => (calcPayloadStats platform state payload payload.length).1)
    payloadStateInit

/-- A call runs the byte loop from a state in which the bytes before are collected. -/
theorem calcPayloadStats_foldl (platform : Platform D) (collected : Collected bytes state)
    {payload : List UInt8} (nonempty : payload.length ≠ 0) :
    ∃ (start : PayloadState D) (mods : List (RunningStats D)), Collected bytes start ∧
      start.payloadTotalBytes = u32 (state.payloadTotalBytes + payload.length) ∧
      (calcPayloadStats platform state payload payload.length).1 =
        { payload.foldl updatePayloadByte start with payloadMod := mods } := by
  rw [calcPayloadStats, if_neg nonempty]
  dsimp only
  refine ⟨_, _, ?_, ?_, rfl⟩
  · exact ⟨collected.hist_eq, collected.histFull_eq, collected.stats_eq, collected.printable_eq,
      collected.alnum_eq, collected.first_eq⟩
  · rfl

/-- A call adds the bytes of its payload. -/
theorem calcPayloadStats_collected (platform : Platform D) (collected : Collected bytes state)
    (total_eq : state.payloadTotalBytes = u32 bytes.length) (payload : List UInt8) :
    let next := (calcPayloadStats platform state payload payload.length).1
    Collected (bytes ++ payload) next ∧
      next.payloadTotalBytes = u32 (bytes ++ payload).length := by
  intro next
  by_cases empty : payload.length = 0
  · have same : next = state := congrArg Prod.fst (if_pos empty)
    rw [same, List.eq_nil_of_length_eq_zero empty, List.append_nil]
    exact ⟨collected, total_eq⟩
  · obtain ⟨start, mods, before, total, next_eq⟩ :=
      calcPayloadStats_foldl platform collected empty
    have after := before.payload payload
    constructor
    · rw [show next = _ from next_eq]
      exact ⟨after.hist_eq, after.histFull_eq, after.stats_eq, after.printable_eq,
        after.alnum_eq, after.first_eq⟩
    · rw [show next = _ from next_eq]
      show (payload.foldl updatePayloadByte start).payloadTotalBytes = _
      rw [foldl_updatePayloadByte_total, total, total_eq, u32_add_u32, List.length_append]

theorem payloadRun_collected (platform : Platform D) (payloads : List (List UInt8)) :
    Collected payloads.flatten (payloadRun platform payloads) ∧
      (payloadRun platform payloads).payloadTotalBytes = u32 payloads.flatten.length := by
  induction payloads using List.reverseRecOn with
  | nil => exact ⟨payloadStateInit_collected, rfl⟩
  | append_singleton payloads payload inductionHypothesis =>
    rw [payloadRun, List.foldl_concat, List.flatten_append, List.flatten_singleton]
    exact calcPayloadStats_collected platform inductionHypothesis.1 inductionHypothesis.2 payload

/-- The payload that `traffic_process` hands on for a packet. -/
def givenPayload (info : PacketInfo) : List (List UInt8) :=
  match info.payload with
  | some bytes => [payloadBytes info bytes]
  | none => []

/-- The payload statistics of a flow are those of the payloads its packets hand on. -/
theorem flowFields_payload (cfg : FeatureConfig) (platform : Platform D)
    (streamType : StreamType) (first : RawPacket) (rest : List RawPacket) :
    (flowFields cfg platform streamType first rest).payload =
      if cfg.enablePayloadStats then payloadRun platform
        ((packetInfos cfg streamType (first :: rest)).flatMap givenPayload)
      else payloadStateInit := by
  have start : (fieldsInit cfg (packetTsUs cfg first) : Fields D).payload =
      if cfg.enablePayloadStats then
        payloadRun platform (([] : List PacketInfo).flatMap givenPayload)
      else payloadStateInit := (ite_self _).symm
  refine Mealy.run_history (fun infos (fields : Fields D) => fields.payload =
    if cfg.enablePayloadStats then payloadRun platform (infos.flatMap givenPayload)
    else payloadStateInit) (fun infos fields info before => ?_) start _
  show (payloadCall cfg info platform fields.payload).1 = _
  rw [before, payloadCall, List.flatMap_append, List.flatMap_singleton, givenPayload]
  cases info.payload with
  | none => rw [List.append_nil]
  | some bytes =>
    by_cases collects : cfg.enablePayloadStats = true
    · have length_eq : (payloadBytes info bytes).length = info.payloadLen := by
        rw [payloadBytes, List.length_map, List.length_range]
      simp only [if_pos collects]
      rw [payloadRun, payloadRun, List.foldl_concat, length_eq]
    · simp only [if_neg collects]

/-! ### The laws of the tallies -/

/-- The histogram in sixteen bins sums up the one by value. -/
theorem tally_bins (bytes : List UInt8) (bin : Nat) :
    u32 (bytes.countP fun byte => byte.toNat / 16 = bin) =
      u32 ((List.range 16).map fun step =>
        u32 (bytes.countP fun byte => byte.toNat = 16 * bin + step)).sum := by
  rw [u32_sum_map_u32, sum_countP_range]
  refine congrArg u32 (List.countP_congr fun byte _ => ?_)
  simp only [decide_eq_true_eq]
  omega

/-- A tally of classes within its size sums to the number of bytes. -/
theorem u32_sum_tally {classify : UInt8 → Nat} {size : Nat}
    (within : ∀ byte, classify byte < size) (bytes : List UInt8) :
    u32 (tally classify size bytes).sum = u32 bytes.length := by
  have counted := sum_countP_range classify 0 size bytes
  simp only [zero_add, Nat.zero_le, true_and] at counted
  rw [tally, u32_sum_map_u32, counted]
  exact congrArg u32 (List.countP_eq_length.mpr fun byte _ => decide_eq_true (within byte))

/-- What is collected from the bytes does not depend on how they are cut into payloads, and is
what a reading of all bytes gives. -/
theorem payloadRun_segmentation (platform : Platform D) (first second : List (List UInt8))
    (same : first.flatten = second.flatten) :
    let bytes := first.flatten
    let state := payloadRun platform first
    let other := payloadRun platform second
    (other.payloadByteHist = state.payloadByteHist ∧
      other.payloadByteHistFull = state.payloadByteHistFull ∧
      other.payloadByteStats = state.payloadByteStats ∧
      other.payloadTotalBytes = state.payloadTotalBytes ∧
      other.payloadPrintableCount = state.payloadPrintableCount ∧
      other.payloadAlnumCount = state.payloadAlnumCount ∧
      other.payloadFirstBytes = state.payloadFirstBytes) ∧
    (∀ value < 256, state.payloadByteHistFull.getD value 0 =
      u32 (bytes.countP fun byte => byte.toNat = value)) ∧
    (∀ bin < 16, state.payloadByteHist.getD bin 0 = u32 ((List.range 16).map fun step =>
      state.payloadByteHistFull.getD (16 * bin + step) 0).sum) ∧
    state.payloadByteHist.length = 16 ∧ state.payloadByteHistFull.length = 256 ∧
    u32 state.payloadByteHist.sum = state.payloadTotalBytes ∧
    u32 state.payloadByteHistFull.sum = state.payloadTotalBytes ∧
    state.payloadTotalBytes = u32 bytes.length ∧
    state.payloadPrintableCount = u32 (bytes.countP fun byte => isPrintable byte) ∧
    state.payloadAlnumCount = u32 (bytes.countP fun byte => isAlnum byte.toNat) ∧
    state.payloadByteStats = runningStatsOf D (bytes.map UInt8.toNat) ∧
    state.payloadFirstBytes = bytes.take (min 256 bytes.length) := by
  intro bytes state other
  obtain ⟨collected, total⟩ := payloadRun_collected platform first
  obtain ⟨again, totalAgain⟩ := payloadRun_collected platform second
  rw [← same] at again totalAgain
  have value_lt : ∀ byte : UInt8, byte.toNat < 256 := fun byte => byte.toNat_lt
  refine ⟨⟨?_, ?_, ?_, ?_, ?_, ?_, ?_⟩, fun value within => ?_, fun bin within => ?_, ?_, ?_, ?_,
    ?_, total, collected.printable_eq, collected.alnum_eq, collected.stats_eq, ?_⟩
  · exact again.hist_eq.trans collected.hist_eq.symm
  · exact again.histFull_eq.trans collected.histFull_eq.symm
  · exact again.stats_eq.trans collected.stats_eq.symm
  · exact totalAgain.trans total.symm
  · exact again.printable_eq.trans collected.printable_eq.symm
  · exact again.alnum_eq.trans collected.alnum_eq.symm
  · exact again.first_eq.trans collected.first_eq.symm
  · rw [collected.histFull_eq, getD_tally _ within]
  · rw [collected.hist_eq, collected.histFull_eq, getD_tally _ within, tally_bins]
    refine congrArg (fun counts : List Nat => u32 counts.sum)
      (List.map_congr_left fun step member => ?_)
    have inside := List.mem_range.mp member
    rw [getD_tally _ (by omega)]
  · rw [collected.hist_eq, length_tally]
  · rw [collected.histFull_eq, length_tally]
  · rw [collected.hist_eq, total, u32_sum_tally]
    exact fun byte => Nat.div_lt_of_lt_mul (value_lt byte)
  · rw [collected.histFull_eq, total, u32_sum_tally value_lt]
  · rw [collected.first_eq, payloadFirstBytesSize, List.take_eq_take_min]

theorem payloadRun_segmentation_get :
    ([[71, 69], [84]] : List (List UInt8)).flatten = [[71], [69, 84]].flatten ∧
      (payloadRun (barePlatform ℝ) [[71], [69, 84]]).payloadAlnumCount =
        (payloadRun (barePlatform ℝ) [[71, 69], [84]]).payloadAlnumCount :=
  ⟨rfl, (payloadRun_segmentation (barePlatform ℝ) [[71, 69], [84]] [[71], [69, 84]]
    rfl).1.2.2.2.2.2.1⟩

/-! ### Proportions -/

theorem countP_printable (bytes : List UInt8) :
    bytes.countP (fun byte => isAlnum byte.toNat) +
      bytes.countP (fun byte => isPrintable byte ∧ ¬isAlnum byte.toNat) =
        bytes.countP fun byte => isPrintable byte := by
  have printable_of : ∀ byte : UInt8, isAlnum byte.toNat = true → isPrintable byte := by
    intro byte alnum
    simp only [isAlnum, Bool.or_eq_true, Bool.and_eq_true, decide_eq_true_eq] at alnum
    unfold isPrintable
    omega
  have covers : ∀ byte : UInt8, isPrintable byte ↔
      isAlnum byte.toNat = true ∨ isPrintable byte ∧ ¬isAlnum byte.toNat = true := by
    intro byte
    constructor
    · intro printable
      by_cases alnum : isAlnum byte.toNat = true
      · exact Or.inl alnum
      · exact Or.inr ⟨printable, alnum⟩
    · rintro (alnum | ⟨printable, -⟩)
      · exact printable_of byte alnum
      · exact printable
  have counted := @countP_add_countP UInt8 (fun byte => isAlnum byte.toNat = true)
    (fun byte => isPrintable byte ∧ ¬isAlnum byte.toNat) isPrintable _ _ _ bytes covers
    fun byte alnum other => other.2 alnum
  simpa only [Bool.decide_eq_true] using counted

theorem countP_all (bytes : List UInt8) :
    bytes.countP (fun byte => isPrintable byte) +
      bytes.countP (fun byte => ¬isPrintable byte) = bytes.length := by
  have counted := @countP_add_countP UInt8 isPrintable (fun byte => ¬isPrintable byte)
    (fun _ => True) _ _ _ bytes (fun byte => iff_of_true trivial (em _))
    fun byte printable other => other printable
  simpa only [decide_true, List.countP_true] using counted

/-- The alphanumeric bytes and the other printable ones, and the printable bytes and the others,
add up without a carry, each number taken in 32 bits. -/
def AddUp (bytes : List UInt8) : Prop :=
  u32 (bytes.countP fun byte => isAlnum byte.toNat) +
    u32 (bytes.countP fun byte => isPrintable byte ∧ ¬isAlnum byte.toNat) < 2 ^ 32 ∧
  u32 (bytes.countP fun byte => isPrintable byte) +
    u32 (bytes.countP fun byte => ¬isPrintable byte) < 2 ^ 32

/-- The counters of a payload state are in order, and the ratios emitted of it are proportions. -/
structure PayloadState.Proportional (state : PayloadState D) : Prop where
  alnum_le : state.payloadAlnumCount ≤ state.payloadPrintableCount
  printable_le : state.payloadPrintableCount ≤ state.payloadTotalBytes
  ratios : ∀ key ∈ ["payload_printable_ratio", "payload_alnum_ratio"],
    ∀ (packets : Nat) (ratio : D),
      addNumber key ratio ∈ payloadContent state.payloadTotalBytes state.payloadPrintableCount
        state.payloadAlnumCount state.payloadNonEmptyCount packets →
      Double.ble 0 ratio = true ∧ Double.ble ratio 1 = true

/-- Reduced parts of a whole are in order exactly if they add up without a carry. -/
theorem u32_le_iff (part rest : Nat) :
    u32 part ≤ u32 (part + rest) ↔ u32 part + u32 rest < 2 ^ 32 := by
  unfold u32
  omega

/-- The emitted ratios are proportions if the counters are in order. -/
theorem payloadContent_proportions (quotients : OrderedQuotients D) {total printable alnum : Nat}
    (nonEmpty packets : Nat) (alnum_le : alnum ≤ printable) (printable_le : printable ≤ total)
    (small : total < 2 ^ 64) {key : String}
    (known : key ∈ ["payload_printable_ratio", "payload_alnum_ratio"]) {ratio : D}
    (member : addNumber key ratio ∈ payloadContent total printable alnum nonEmpty packets) :
    Double.ble 0 ratio = true ∧ Double.ble ratio 1 = true := by
  have proportion : ∀ part : Nat, part ≤ total → 0 < total →
      ratio = (part : D) / (total : D) →
      Double.ble 0 ratio = true ∧ Double.ble ratio 1 = true := by
    rintro part within positive rfl
    exact ⟨quotients.zero_ble_div part total (within.trans_lt small) positive small,
      quotients.div_ble_one part total within positive small⟩
  rw [payloadContent] at member
  rcases List.mem_append.mp member with shown | other
  · split at shown
    · rename_i positive
      rcases List.mem_pair.mp shown with same | same
      · exact proportion printable printable_le positive (Json.num.inj (Prod.mk.inj same).2)
      · exact proportion alnum (alnum_le.trans printable_le) positive
          (Json.num.inj (Prod.mk.inj same).2)
    · exact absurd shown List.not_mem_nil
  · split at other
    · have key_eq := (Prod.mk.inj (List.mem_singleton.mp other)).1
      rw [key_eq] at known
      exact absurd known (by decide)
    · exact absurd other List.not_mem_nil

/-- The counters of the content are in order, and so what is emitted of them is a proportion, in
every state of a run exactly if the bytes of a kind and the other ones never add up with a carry
out of 32 bits. -/
theorem payloadRun_proportions_iff (quotients : OrderedQuotients D) (platform : Platform D)
    (payloads : List (List UInt8)) :
    (∀ seen, seen <+: payloads → (payloadRun platform seen).Proportional) ↔
      ∀ seen, seen <+: payloads → AddUp seen.flatten := by
  refine forall₂_congr fun seen _ => ?_
  obtain ⟨collected, total⟩ := payloadRun_collected platform seen
  have small : (payloadRun platform seen).payloadTotalBytes < 2 ^ 64 :=
    (total ▸ u32_lt _).trans (by decide)
  rw [AddUp, ← u32_le_iff, ← u32_le_iff, countP_printable, countP_all, ← collected.alnum_eq,
    ← collected.printable_eq, ← total]
  refine ⟨fun inOrder => ⟨inOrder.alnum_le, inOrder.printable_le⟩,
    fun inOrder => ⟨inOrder.1, inOrder.2, ?_⟩⟩
  exact fun key known packets ratio member =>
    payloadContent_proportions quotients _ packets inOrder.1 inOrder.2 small known member

/-- Fewer bytes than 32 bits can count add up. -/
theorem AddUp.of_length_lt {bytes : List UInt8} (short : bytes.length < 2 ^ 32) :
    AddUp bytes := by
  have printables := countP_printable bytes
  have all := countP_all bytes
  have within : ∀ count, u32 count ≤ count := fun count => Nat.mod_le _ _
  constructor
  · exact (Nat.add_le_add (within _) (within _)).trans_lt (by omega)
  · exact (Nat.add_le_add (within _) (within _)).trans_lt (by omega)

theorem payloadRun_proportions_get :
    (payloadRun (barePlatform ℝ) [[71, 69, 84, 0]]).Proportional := by
  refine (payloadRun_proportions_iff real_orderedQuotients (barePlatform ℝ)
    [[71, 69, 84, 0]]).mpr (fun seen within => AddUp.of_length_lt ?_) _ List.prefix_rfl
  exact (within.flatten.length_le).trans_lt (by decide)

/-- Two letters and then zeros up to one byte more than 32 bits can count: two bytes are
printable, and one is in the total. -/
theorem payloadRun_ratio_above_one :
    let payloads := [65, 65] :: List.replicate 3342387 (List.replicate 1285 (0 : UInt8))
    (∀ payload ∈ payloads, payload ≠ []) ∧
      (payloadRun (barePlatform ℝ) payloads).payloadPrintableCount = 2 ∧
      (payloadRun (barePlatform ℝ) payloads).payloadTotalBytes = 1 := by
  intro payloads
  obtain ⟨collected, total⟩ := payloadRun_collected (barePlatform ℝ) payloads
  have flat : payloads.flatten = [65, 65] ++ List.replicate (3342387 * 1285) 0 := by
    rw [List.flatten_cons, List.flatten_replicate_replicate]
  refine ⟨fun payload member => ?_, ?_, ?_⟩
  · rcases List.mem_cons.mp member with rfl | zeros
    · exact List.cons_ne_nil _ _
    · rw [List.eq_of_mem_replicate zeros]
      exact List.cons_ne_nil _ _
  · rw [collected.printable_eq, flat, List.countP_append, List.countP_replicate,
      if_neg (by decide)]
    rfl
  · rw [total, flat, List.length_append, List.length_replicate]
    rfl

end TiFeatures
