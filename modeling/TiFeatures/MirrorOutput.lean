/-
This file reads the features of a flow whose packets go the other way. A key for one
direction holds what the key for the other direction held, every other key holds what
it held, but for the keys that name one direction only.
-/

import TiFeatures.Library.Pairing
import TiFeatures.Mirror

namespace TiFeatures

open Pairing

variable {D : Type}

/-! ### Keys for one direction -/

/-- What follows `fwd` and `bwd` in the keys for one direction. -/
def directionalSuffixes : List String :=
  ["_avg_packet_length", "_packets", "_bytes", "_total_payload",
    "_payload_mean", "_payload_std", "_payload_min", "_payload_max", "_payload_skew",
    "_payload_kurt", "_payload_median", "_payload_q1", "_payload_q3",
    "_packet_length_mean", "_packet_length_std", "_packet_length_min", "_packet_length_max",
    "_packet_length_median", "_packet_length_q1", "_packet_length_q3", "_packet_length_cv",
    "_packet_length_skew", "_packet_length_kurt",
    "_iat_mean", "_iat_std", "_iat_cv", "_iat_min", "_iat_max", "_iat_skew", "_iat_kurt",
    "_iat_median", "_iat_q1", "_iat_q3",
    "_fft_freq_0_idx", "_fft_mag_0", "_fft_freq_1_idx", "_fft_mag_1", "_fft_freq_2_idx",
    "_fft_mag_2", "_fft_freq_3_idx", "_fft_mag_3", "_fft_freq_4_idx", "_fft_mag_4",
    "_fft_magnitude_mean", "_fft_magnitude_std", "_fft_magnitude_min", "_fft_magnitude_max",
    "_fft_magnitude_median", "_fft_magnitude_q1", "_fft_magnitude_q3", "_fft_magnitude_skew",
    "_fft_magnitude_kurt"]

/-- The keys for one direction, the forward key first. -/
def directionalKeys : List (String × String) :=
  (directionalSuffixes.map fun suffix => ("fwd" ++ suffix, "bwd" ++ suffix)) ++
  (["_rate_seq", "_rate_seq_len"].map fun suffix => ("uplink" ++ suffix, "downlink" ++ suffix))

/-- The key for the other direction. -/
def mirrorKey (key : String) : String := partner directionalKeys key

/-- The keys whose features name one direction, or count a packet without direction as one that
goes backward. -/
def oneWayKeys : List String :=
  ["fwd_bwd_packet_ratio", "fwd_bwd_byte_ratio", "flow_asymmetry_ratio", "flow_pattern",
    "tcpiseqn", "packet_direction_seq", "length_direction_correlation",
    "direction_transition_unique_count"] ++ Group.iatResponse.keys

/-- The groups with features for both directions. -/
def Group.directional : List Group :=
  [.basicRatios, .basicPayloadDir, .basicPktLength, .iatFwdBwd, .rateSequences, .fftFwd, .fftBwd]

/-- The keys for no direction that are written outside of the groups, or by a group with features
for both directions. -/
def plainKeys : List String :=
  ["createtime", "src_ip", "dst_ip", "src_port", "dst_port", "trans_proto", "stream_dir", "sni",
    "total_packets", "total_bytes", "tcp_syn_count", "tcp_fin_count", "tcp_rst_count",
    "tcp_ack_count", "avg_packet_length", "small_packet_ratio", "large_packet_ratio"]

theorem directionalKeys_nodup : (members directionalKeys ++ (plainKeys ++ oneWayKeys)).Nodup :=
  DistinctMarks.nodup_of_fresh_map keyMark (by decide +kernel)

theorem directionalKeys_apart_groups : (members directionalKeys ++
    (groupOrder.filter fun group => group ∉ Group.directional).flatMap Group.keys).Nodup :=
  DistinctMarks.nodup_of_fresh_map keyMark (by decide +kernel)

theorem members_directionalKeys_nodup : (members directionalKeys).Nodup :=
  (List.nodup_append.mp directionalKeys_nodup).1

theorem mirrorKey_fwd {suffix : String} (directional : suffix ∈ directionalSuffixes) :
    mirrorKey ("fwd" ++ suffix) = "bwd" ++ suffix :=
  partner_fst members_directionalKeys_nodup
    (List.mem_append_left _ (List.mem_map_of_mem directional))

theorem mirrorKey_bwd {suffix : String} (directional : suffix ∈ directionalSuffixes) :
    mirrorKey ("bwd" ++ suffix) = "fwd" ++ suffix :=
  partner_snd members_directionalKeys_nodup
    (List.mem_append_left _ (List.mem_map_of_mem directional))

theorem mirrorKey_mirrorKey (key : String) : mirrorKey (mirrorKey key) = key :=
  partner_partner members_directionalKeys_nodup key

theorem mirrorKey_plain {key : String} (plain : key ∈ plainKeys) : mirrorKey key = key :=
  partner_of_notMem fun inside => (List.nodup_append.mp directionalKeys_nodup).2.2 key inside key
    (List.mem_append_left _ plain) rfl

theorem mirrorKey_oneWay {key : String} (oneWay : key ∈ oneWayKeys) : mirrorKey key = key :=
  partner_of_notMem fun inside => (List.nodup_append.mp directionalKeys_nodup).2.2 key inside key
    (List.mem_append_right _ oneWay) rfl

/-- The keys of a group without features for a direction are for none. -/
theorem Group.mirrorKey_eq {group : Group} (apart : group ∉ Group.directional) {key : String}
    (own : key ∈ group.keys) : mirrorKey key = key :=
  partner_of_notMem fun inside => (List.nodup_append.mp directionalKeys_apart_groups).2.2 key
    inside key (List.mem_flatMap.mpr ⟨group, List.mem_filter.mpr
      ⟨mem_groupOrder group, decide_eq_true apart⟩, own⟩) rfl

/-- An item under the key for the other direction. -/
def mirrorItem (item : String × Json D) : String × Json D := (mirrorKey item.1, item.2)

/-- The items for one direction become those for the other. -/
theorem map_mirrorItem_fwd [Double D] (entries : List (String × D))
    (directional : entries.map Prod.fst ⊆ directionalSuffixes) :
    (entries.map fun entry => addNumber ("fwd" ++ entry.1) entry.2).map mirrorItem =
      entries.map fun entry => addNumber ("bwd" ++ entry.1) entry.2 := by
  rw [List.map_map]
  exact List.map_congr_left fun entry member =>
    Prod.ext (mirrorKey_fwd (directional (List.mem_map_of_mem member))) rfl

/-- If the items for one direction become those for the other, so do those for the other. -/
theorem mirrorItem_back {items others : Output D} (same : items.map mirrorItem = others) :
    others.map mirrorItem = items := by
  have twice : mirrorItem ∘ mirrorItem = (id : String × Json D → String × Json D) :=
    funext fun item => Prod.ext (mirrorKey_mirrorKey item.1) rfl
  rw [← same, List.map_map, twice, List.map_id]

section Features

variable [Double D]

theorem payloadDirTotals_mirror (payloadBytes packets : Nat) (stats : RunningStats D) :
    (payloadDirTotals "fwd" payloadBytes packets stats).map mirrorItem =
      payloadDirTotals "bwd" payloadBytes packets stats := by
  have directional : ["_total_payload", "_payload_mean", "_payload_std", "_payload_min",
      "_payload_max"] ⊆ directionalSuffixes := by
    decide +kernel
  have withoutMean : ["_total_payload", "_payload_std", "_payload_min", "_payload_max"] ⊆
      directionalSuffixes := by
    decide +kernel
  unfold payloadDirTotals
  split
  · exact map_mirrorItem_fwd [("_total_payload", _), ("_payload_mean", _), ("_payload_std", _),
      ("_payload_min", _), ("_payload_max", _)] directional
  · exact map_mirrorItem_fwd [("_total_payload", _), ("_payload_std", _), ("_payload_min", _),
      ("_payload_max", _)] withoutMean

theorem payloadDirDistribution_mirror (sizes : List Nat) (stats : RunningStats D) (maxLen : Nat) :
    (payloadDirDistribution "fwd" sizes stats maxLen).map mirrorItem =
      payloadDirDistribution "bwd" sizes stats maxLen := by
  have directional : ["_payload_skew", "_payload_kurt", "_payload_median", "_payload_q1",
      "_payload_q3"] ⊆ directionalSuffixes := by
    decide +kernel
  unfold payloadDirDistribution
  split
  · exact map_mirrorItem_fwd [("_payload_skew", _), ("_payload_kurt", _), ("_payload_median", _),
      ("_payload_q1", _), ("_payload_q3", _)] directional
  · rfl

theorem pktLengthDistribution_mirror (pktLens : List Nat) (stats : RunningStats D)
    (maxLen : Nat) : (pktLengthDistribution "fwd" pktLens stats maxLen).map mirrorItem =
      pktLengthDistribution "bwd" pktLens stats maxLen := by
  have directional : ["_packet_length_mean", "_packet_length_std", "_packet_length_min",
      "_packet_length_max", "_packet_length_median", "_packet_length_q1", "_packet_length_q3",
      "_packet_length_cv", "_packet_length_skew", "_packet_length_kurt"] ⊆
        directionalSuffixes := by
    decide +kernel
  unfold pktLengthDistribution
  split
  · exact map_mirrorItem_fwd [("_packet_length_mean", _), ("_packet_length_std", _),
      ("_packet_length_min", _), ("_packet_length_max", _), ("_packet_length_median", _),
      ("_packet_length_q1", _), ("_packet_length_q3", _), ("_packet_length_cv", _),
      ("_packet_length_skew", _), ("_packet_length_kurt", _)] directional
  · rfl

theorem iatDirFeatures_mirror (stats : RunningStats D) (iats : List Nat) (maxLen : Nat) :
    (iatDirFeatures "fwd" stats iats maxLen).map mirrorItem =
      iatDirFeatures "bwd" stats iats maxLen := by
  have moments : ["_iat_mean", "_iat_std", "_iat_cv", "_iat_min", "_iat_max", "_iat_skew",
      "_iat_kurt"] ⊆ directionalSuffixes := by
    decide +kernel
  have quartiles : ["_iat_median", "_iat_q1", "_iat_q3"] ⊆ directionalSuffixes := by
    decide +kernel
  unfold iatDirFeatures
  rw [List.map_append]
  refine congrArg₂ (· ++ ·) (map_mirrorItem_fwd [("_iat_mean", _), ("_iat_std", _),
    ("_iat_cv", _), ("_iat_min", _), ("_iat_max", _), ("_iat_skew", _), ("_iat_kurt", _)]
    moments) ?_
  split
  · exact map_mirrorItem_fwd [("_iat_median", _), ("_iat_q1", _), ("_iat_q3", _)] quartiles
  · rfl

theorem fftDir_mirror (pktLens : List Nat) :
    (fftDir "fwd" pktLens : Output D).map mirrorItem = fftDir "bwd" pktLens := by
  have indexed : ∀ i ∈ List.range 5, "_fft_freq_" ++ (toString i ++ "_idx") ∈ directionalSuffixes ∧
      "_fft_mag_" ++ toString i ∈ directionalSuffixes := by
    decide +kernel
  have moments : ["_fft_magnitude_mean", "_fft_magnitude_std", "_fft_magnitude_min",
      "_fft_magnitude_max", "_fft_magnitude_median", "_fft_magnitude_q1", "_fft_magnitude_q3",
      "_fft_magnitude_skew", "_fft_magnitude_kurt"] ⊆ directionalSuffixes := by
    decide +kernel
  unfold fftDir
  split
  · rfl
  · simp only [outputFftResult, List.map_append, List.map_flatMap, String.append_assoc]
    refine congrArg₂ (· ++ ·) (List.flatMap_congr fun i inside => ?_) ?_
    · exact congrArg₂ (fun first second => [first, second])
        (Prod.ext (mirrorKey_fwd (indexed i inside).1) rfl)
        (Prod.ext (mirrorKey_fwd (indexed i inside).2) rfl)
    · exact map_mirrorItem_fwd [("_fft_magnitude_mean", _), ("_fft_magnitude_std", _),
        ("_fft_magnitude_min", _), ("_fft_magnitude_max", _), ("_fft_magnitude_median", _),
        ("_fft_magnitude_q1", _), ("_fft_magnitude_q3", _), ("_fft_magnitude_skew", _),
        ("_fft_magnitude_kurt", _)] moments

/-! ### Sequences of directions -/

omit [Double D] in
theorem signedChar_mirrorByte :
    ∀ byte ∈ dirBytes, signedChar (mirrorByte byte) = -signedChar byte := by
  decide

theorem calcDirectionEntropy_mirror (addComm : ∀ first second : D, first + second = second + first)
    (dirs : List Int) :
    (calcDirectionEntropy (dirs.map (-·)) : D) = calcDirectionEntropy dirs := by
  have fwd : ((dirs.map (-·)).filter fun dir => dir > 0).length =
      (dirs.filter fun dir => dir < 0).length := by
    simp only [List.filter_map, List.length_map, Function.comp_def, gt_iff_lt, Left.neg_pos_iff]
  have bwd : ((dirs.map (-·)).filter fun dir => dir < 0).length =
      (dirs.filter fun dir => dir > 0).length := by
    simp only [List.filter_map, List.length_map, Function.comp_def, gt_iff_lt, Left.neg_neg_iff]
  rw [calcDirectionEntropy, fwd, bwd, calcDirectionEntropy]
  simp only [Nat.add_comm (dirs.filter fun dir => dir > 0).length, or_comm, addComm]

omit [Double D] in
theorem chunkLoop_mirror (packets : List (Nat × Nat × Int)) (lastTs : Nat) (lastDir : Int)
    (chunkBytes : Nat) :
    chunkLoop (packets.map (Prod.map id (Prod.map id (-·)))) lastTs (-lastDir) chunkBytes =
      chunkLoop packets lastTs lastDir chunkBytes := by
  induction packets generalizing lastTs lastDir chunkBytes with
  | nil => rfl
  | cons packet rest inductionHypothesis =>
    obtain ⟨ts, len, dir⟩ := packet
    simp only [List.map_cons, Prod.map_apply, id_eq, chunkLoop, neg_inj, ne_eq,
      inductionHypothesis]

omit [Double D] in
theorem chunkValues_mirror (packets : List (Nat × Nat × Int)) :
    chunkValues (packets.map (Prod.map id (Prod.map id (-·)))) = chunkValues packets := by
  cases packets with
  | nil => rfl
  | cons packet rest =>
    obtain ⟨ts, len, dir⟩ := packet
    simp only [List.map_cons, Prod.map_apply, id_eq, chunkValues, chunkLoop_mirror]

omit [Double D] in
theorem zip_mirror (tsSeq lens : List Nat) (dirs : List Int) :
    tsSeq.zip (lens.zip (dirs.map (-·))) =
      (tsSeq.zip (lens.zip dirs)).map (Prod.map id (Prod.map id (-·))) := by
  rw [List.zip_map_right, List.zip_map_right]

omit [Double D] in
theorem sequencesMatch_mirror (tsSeq lens : List Nat) (dirs : List Int) :
    sequencesMatch tsSeq lens (dirs.map (-·)) = sequencesMatch tsSeq lens dirs := by
  rw [sequencesMatch, sequencesMatch, List.length_map]

theorem chunkSequences_mirror (tsSeq lens : List Nat) (dirs : List Int) (lastDlChunkCount : Nat) :
    (chunkSequences tsSeq lens (dirs.map (-·)) lastDlChunkCount : Output D) =
      chunkSequences tsSeq lens dirs lastDlChunkCount := by
  rw [chunkSequences, chunkSequences, sequencesMatch_mirror, zip_mirror, chunkValues_mirror]

/-- The rates of the packets whose direction passes a test. -/
theorem rateSequence_mirror (tsSeq lens : List Nat) (dirs : List Int) {counts others : Int → Bool}
    (same : ∀ dir, counts (-dir) = others dir) :
    (rateSequence tsSeq lens (dirs.map (-·)) counts : List D) =
      rateSequence tsSeq lens dirs others := by
  simp only [rateSequence, zip_mirror, List.foldl_map, Prod.map_fst, Prod.map_snd, id_eq, same]

end Features

/-! ### Features of the other direction -/

/-- Items that are found under the keys for the other direction, but for those under a key that
names one direction. -/
def Turned (items others : Output D) : Prop :=
  ∀ item ∈ items, item.1 ∉ oneWayKeys → mirrorItem item ∈ others

namespace Turned

variable {items others front back otherFront otherBack : Output D}

theorem nil : Turned ([] : Output D) others := List.forall_mem_nil _

theorem append (first : Turned front otherFront) (second : Turned back otherBack) :
    Turned (front ++ back) (otherFront ++ otherBack) := by
  intro item member apart
  rcases List.mem_append.mp member with inside | inside
  · exact List.mem_append_left _ (first item inside apart)
  · exact List.mem_append_right _ (second item inside apart)

/-- The features of one direction before those of the other. -/
theorem swap (first : Turned front otherBack) (second : Turned back otherFront) :
    Turned (front ++ back) (otherFront ++ otherBack) := by
  intro item member apart
  rcases List.mem_append.mp member with inside | inside
  · exact List.mem_append_right _ (first item inside apart)
  · exact List.mem_append_left _ (second item inside apart)

theorem of_map (same : items.map mirrorItem = others) : Turned items others :=
  fun _ member _ => same ▸ List.mem_map_of_mem (f := mirrorItem) member

/-- Items under keys that are for no direction are found where they are. -/
theorem of_sameUpTo (same : List.Forall₂ (SameUpTo oneWayKeys) items others)
    (fixed : ∀ item ∈ items, mirrorKey item.1 = item.1) : Turned items others := by
  induction same with
  | nil => exact nil
  | cons one _ inductionHypothesis =>
    intro found member apart
    rcases List.mem_cons.mp member with rfl | inside
    · have here : mirrorItem found = found := Prod.ext (fixed found List.mem_cons_self) rfl
      rw [here, one.2 apart]
      exact List.mem_cons_self
    · exact List.mem_cons_of_mem _ (inductionHypothesis
        (fun later found => fixed later (List.mem_cons_of_mem _ found)) found inside apart)

end Turned

section Groups

variable [Double D]

theorem rateSequences_mirror (platform : Platform D) (tsSeq lens : List Nat) (dirs : List Int)
    (derived : DerivedState) :
    Turned (rateSequences platform tsSeq lens dirs derived)
      (rateSequences platform tsSeq lens (dirs.map (-·)) derived.mirror) := by
  have up : (rateSequence tsSeq lens (dirs.map (-·)) fun dir => dir > 0 : List D) =
      rateSequence tsSeq lens dirs fun dir => dir < 0 :=
    rateSequence_mirror tsSeq lens dirs fun dir => by simp only [gt_iff_lt, Left.neg_pos_iff]
  have down : (rateSequence tsSeq lens (dirs.map (-·)) fun dir => dir < 0 : List D) =
      rateSequence tsSeq lens dirs fun dir => dir > 0 :=
    rateSequence_mirror tsSeq lens dirs fun dir => by simp only [gt_iff_lt, Left.neg_neg_iff]
  have pairs : ∀ suffix ∈ ["_rate_seq", "_rate_seq_len"],
      ("uplink" ++ suffix, "downlink" ++ suffix) ∈ directionalKeys :=
    fun suffix member => List.mem_append_right _ (List.mem_map_of_mem member)
  have there := fun suffix member =>
    partner_fst members_directionalKeys_nodup (pairs suffix member)
  have back := fun suffix member =>
    partner_snd members_directionalKeys_nodup (pairs suffix member)
  have seq : "_rate_seq" ∈ ["_rate_seq", "_rate_seq_len"] := List.mem_cons_self
  have len : "_rate_seq_len" ∈ ["_rate_seq", "_rate_seq_len"] :=
    List.mem_cons_of_mem _ List.mem_cons_self
  rw [rateSequences, rateSequences, sequencesMatch_mirror, up, down]
  intro item member _
  split at member
  · rw [if_pos ‹_›]
    simp only [List.mem_cons, List.not_mem_nil, or_false] at member ⊢
    rcases member with rfl | rfl | rfl | rfl
    · exact .inr (.inl (Prod.ext (there _ seq) rfl))
    · exact .inl (Prod.ext (back _ seq) rfl)
    · exact .inr (.inr (.inr (Prod.ext (there _ len) rfl)))
    · exact .inr (.inr (.inl (Prod.ext (back _ len) rfl)))
  · rw [if_neg ‹_›]
    simp only [List.mem_cons, List.not_mem_nil, or_false] at member ⊢
    rcases member with rfl | rfl
    · exact .inr (Prod.ext (there _ len) rfl)
    · exact .inl (Prod.ext (back _ len) rfl)

theorem basicRatios_mirror (state : CounterState) :
    Turned (basicRatios state : Output D) (basicRatios state.mirror) := by
  have packets : "fwd_bwd_packet_ratio" ∈ oneWayKeys := by decide
  have bytes : "fwd_bwd_byte_ratio" ∈ oneWayKeys := by decide
  have average : "avg_packet_length" ∈ plainKeys := by decide
  have directional : "_avg_packet_length" ∈ directionalSuffixes := List.mem_cons_self
  intro item member apart
  simp only [basicRatios, List.mem_cons, List.not_mem_nil, or_false] at member ⊢
  rcases member with rfl | rfl | rfl | rfl | rfl
  · exact absurd packets apart
  · exact absurd bytes apart
  · exact .inr (.inr (.inl (Prod.ext (mirrorKey_plain average) rfl)))
  · exact .inr (.inr (.inr (.inr (Prod.ext (mirrorKey_fwd directional) rfl))))
  · exact .inr (.inr (.inr (.inl (Prod.ext (mirrorKey_bwd directional) rfl))))

theorem basicPayloadDir_mirror (state : CounterState) (payload : PayloadDirState D)
    (fwdPayloadSizes bwdPayloadSizes : List Nat) (maxLen : Nat) :
    Turned (basicPayloadDir state payload fwdPayloadSizes bwdPayloadSizes maxLen)
      (basicPayloadDir state.mirror payload.mirror bwdPayloadSizes fwdPayloadSizes maxLen) := by
  rw [basicPayloadDir, basicPayloadDir, List.append_assoc (_ ++ _), List.append_assoc (_ ++ _)]
  refine .append (.swap ?_ ?_) (.swap ?_ ?_)
  · exact .of_map (payloadDirTotals_mirror _ _ _)
  · exact .of_map (mirrorItem_back (payloadDirTotals_mirror _ _ _))
  · exact .of_map (payloadDirDistribution_mirror _ _ _)
  · exact .of_map (mirrorItem_back (payloadDirDistribution_mirror _ _ _))

theorem basicPktLength_mirror (totalPackets : Nat) (state : PktLenState D)
    (fwdPktLens bwdPktLens : List Nat) (maxLen : Nat) :
    Turned (basicPktLength totalPackets state fwdPktLens bwdPktLens maxLen)
      (basicPktLength totalPackets state.mirror bwdPktLens fwdPktLens maxLen) := by
  have plain : ["small_packet_ratio", "large_packet_ratio"] ⊆ plainKeys := by decide
  simp only [basicPktLength, List.append_assoc]
  refine .append (.of_sameUpTo (sameUpTo_same _) fun item member => ?_) (.swap ?_ ?_)
  · exact mirrorKey_plain (plain (List.mem_map_of_mem (f := Prod.fst) member))
  · exact .of_map (pktLengthDistribution_mirror _ _ _)
  · exact .of_map (mirrorItem_back (pktLengthDistribution_mirror _ _ _))

theorem iatFwdBwdFeatures_mirror (fwdStats bwdStats : RunningStats D) (fwdIats bwdIats : List Nat)
    (maxLen : Nat) :
    Turned (iatFwdBwdFeatures fwdStats bwdStats fwdIats bwdIats maxLen)
      (iatFwdBwdFeatures bwdStats fwdStats bwdIats fwdIats maxLen) :=
  .swap (.of_map (iatDirFeatures_mirror _ _ _))
    (.of_map (mirrorItem_back (iatDirFeatures_mirror _ _ _)))

theorem protocolPort_mirror (tcp : TcpState D) (srcIpIsPrivate dstIpIsPrivate : Bool)
    (ipFragCount : Nat) (port : PortState) (counters : CounterState) :
    List.Forall₂ (SameUpTo oneWayKeys)
      (protocolPort tcp srcIpIsPrivate dstIpIsPrivate ipFragCount port counters)
      (protocolPort tcp.mirror srcIpIsPrivate dstIpIsPrivate ipFragCount port counters.mirror) := by
  have initialSeq : "tcpiseqn" ∈ oneWayKeys := by decide
  have sent : u64 (counters.mirror.fwdPayloadBytes + counters.mirror.bwdPayloadBytes) =
      u64 (counters.fwdPayloadBytes + counters.bwdPayloadBytes) :=
    congrArg u64 (Nat.add_comm counters.bwdPayloadBytes counters.fwdPayloadBytes)
  rw [protocolPort, protocolPort, sent]
  -- the items before the initial sequence number
  iterate 19 refine .cons (.refl _) ?_
  exact .cons ⟨rfl, fun apart => absurd initialSeq apart⟩ (sameUpTo_same _)

theorem directionTransitions_mirror (dirs : List Int) :
    List.Forall₂ (SameUpTo oneWayKeys) (directionTransitions dirs : Output D)
      (directionTransitions (dirs.map (-·))) := by
  have unique : "direction_transition_unique_count" ∈ oneWayKeys := by decide
  have changes : (((dirs.map (-·)).zip ((dirs.map (-·)).drop 1)).filter fun pair =>
      pair.2 ≠ pair.1).length = ((dirs.zip (dirs.drop 1)).filter fun pair =>
        pair.2 ≠ pair.1).length := by
    rw [← List.map_drop, List.zip_map, List.filter_map, List.length_map]
    simp only [Function.comp_def, Prod.map_fst, Prod.map_snd, ne_eq, neg_inj]
  rw [directionTransitions, directionTransitions, List.length_map]
  split
  · have frequency := congrArg (fun count : Nat => addNumber "direction_change_frequency"
      ((count : D) / ((dirs.length - 1 : Nat) : D))) changes
    exact .cons ⟨rfl, fun _ => frequency⟩ (.cons ⟨rfl, fun apart => absurd unique apart⟩ .nil)
  · exact sameUpTo_same _

theorem sequenceStats_mirror (addComm : ∀ first second : D, first + second = second + first)
    (lens iats : List Nat) (dirs : List Int) (bigrams : BigramStats) :
    List.Forall₂ (SameUpTo oneWayKeys) (sequenceStats lens iats dirs bigrams : Output D)
      (sequenceStats lens iats (dirs.map (-·)) bigrams) := by
  have correlation : "length_direction_correlation" ∈ oneWayKeys := by decide
  rw [sequenceStats, sequenceStats, List.length_map, calcDirectionEntropy_mirror addComm]
  refine List.rel_append (List.rel_append (List.rel_append (List.rel_append (List.rel_append
    (sameUpTo_same _) (directionTransitions_mirror dirs)) ?_) (sameUpTo_same _))
    (sameUpTo_same _)) (sameUpTo_same _)
  exact .cons ⟨rfl, fun apart => absurd correlation apart⟩ .nil

omit [Double D] in
theorem rawSequences_mirror (lens iats : List Nat) (dirs : List Int)
    (l3Lens l4Lens payloadLens : List Nat) :
    List.Forall₂ (SameUpTo oneWayKeys)
      (rawSequences lens iats dirs l3Lens l4Lens payloadLens : Output D)
      (rawSequences lens iats (dirs.map (-·)) l3Lens l4Lens payloadLens) := by
  have directions : "packet_direction_seq" ∈ oneWayKeys := by decide
  rw [rawSequences, rawSequences, List.length_map]
  refine List.rel_append (List.rel_append (sameUpTo_same _) ?_) (sameUpTo_same _)
  split
  · exact .cons ⟨rfl, fun apart => absurd directions apart⟩ .nil
  · exact .nil

theorem behaviorPattern_mirror (state : CounterState) (tcpPackets : Nat)
    (iatStats : RunningStats D) (windowPktCounts windowBitrate : List Nat) :
    List.Forall₂ (SameUpTo oneWayKeys)
      (behaviorPattern state tcpPackets iatStats windowPktCounts windowBitrate)
      (behaviorPattern state.mirror tcpPackets iatStats windowPktCounts windowBitrate) := by
  have asymmetry : "flow_asymmetry_ratio" ∈ oneWayKeys := by decide
  have pattern : "flow_pattern" ∈ oneWayKeys := by decide
  exact .cons ⟨rfl, fun apart => absurd asymmetry apart⟩
    (.cons ⟨rfl, fun apart => absurd pattern apart⟩ (sameUpTo_same _))

/-- The group for the other direction. -/
def Group.mirror : Group → Group
  | .fftFwd => .fftBwd
  | .fftBwd => .fftFwd
  | group => group

omit [Double D] in
theorem dirs_mirror (fields other : Fields D) {contents otherContents : FlowContents D}
    (mirrored : FlowContents.Mirrored contents otherContents) (tempUintBufferSize : Nat) :
    (contentsView other otherContents tempUintBufferSize).dirs =
      (contentsView fields contents tempUintBufferSize).dirs.map (-·) := by
  show (otherContents.seqs .dirSeq).map signedChar =
    ((contents.seqs .dirSeq).map signedChar).map (-·)
  rw [mirrored.dirs, List.map_map, List.map_map]
  exact List.map_congr_left fun byte member =>
    signedChar_mirrorByte byte (mirrored.bytes byte member)

/-- What a group adds for a flow whose packets go the other way. -/
theorem Group.features_mirror (addComm : ∀ first second : D, first + second = second + first)
    {cfg : FeatureConfig} (platform : Platform D) {fields : Fields D} {response : ResponseState}
    {contents other : FlowContents D} (mirrored : FlowContents.Mirrored contents other)
    (tempUintBufferSize : Nat) (group : Group) :
    Turned (group.features cfg platform (contentsView fields contents tempUintBufferSize))
      (group.mirror.features cfg platform
        (contentsView (fields.mirror response) other tempUintBufferSize)) := by
  have dirs := dirs_mirror fields (fields.mirror response) mirrored tempUintBufferSize
  have seqs : other.seqs = Function.update contents.seqs .dirSeq (other.seqs .dirSeq) :=
    Function.eq_update_iff.mpr ⟨rfl, mirrored.seqs⟩
  have arrays : other.arrays = fun array => contents.arrays array.mirror := by
    funext array
    have held := mirrored.arrays array.mirror
    cases array <;> exact held
  generalize other.seqs .dirSeq = bytes at seqs
  generalize delays_eq : other.respDelays = delays
  obtain rfl : other = { contents with
      seqs := Function.update contents.seqs .dirSeq bytes
      arrays := fun array => contents.arrays array.mirror
      respDelays := delays } :=
    FlowContents.ext seqs arrays delays_eq mirrored.firstNLens
  have shared : ∀ {group : Group} {others : Output D}, group ∉ Group.directional →
      List.Forall₂ (SameUpTo oneWayKeys)
        (group.features cfg platform (contentsView fields contents tempUintBufferSize)) others →
      Turned (group.features cfg platform (contentsView fields contents tempUintBufferSize))
        others :=
    fun apart same => .of_sameUpTo same fun item member =>
      Group.mirrorKey_eq apart (Group.key_mem member)
  cases group with
  | basicRatios => exact basicRatios_mirror fields.counters
  | basicPayloadDir => exact basicPayloadDir_mirror fields.counters fields.payloadDir _ _ _
  | basicPktLength => exact basicPktLength_mirror _ fields.pktLen _ _ _
  | iatFwdBwd => exact iatFwdBwdFeatures_mirror _ _ _ _ _
  | iatResponse =>
    exact fun item member apart => absurd (List.mem_append_right _ (Group.key_mem member)) apart
  | protocolPort =>
    exact shared (by decide) (protocolPort_mirror fields.tcp _ _ _ _ fields.counters)
  | sequenceStats =>
    refine shared (by decide) ?_
    simp only [Group.mirror, Group.features, dirs]
    exact sequenceStats_mirror addComm _ _ _ _
  | rawSequences =>
    refine shared (by decide) ?_
    simp only [Group.mirror, Group.features, dirs]
    exact rawSequences_mirror _ _ _ _ _ _
  | chunkSequences =>
    refine shared (by decide) (sameUpTo_of_eq ?_)
    simp only [Group.mirror, Group.features, dirs]
    exact chunkSequences_mirror _ _ _ _
  | rateSequences =>
    simp only [Group.mirror, Group.features, dirs]
    exact rateSequences_mirror platform _ _ _ fields.derived
  | fftFwd => exact .of_map (fftDir_mirror _)
  | fftBwd => exact .of_map (mirrorItem_back (fftDir_mirror _))
  | behaviorPattern => exact shared (by decide) (behaviorPattern_mirror fields.counters _ _ _ _)
  | _ => exact shared (by decide) (sameUpTo_same _)

theorem flowInformation_mirror (counters : CounterState) (tcp : TcpState D) :
    Turned (flowInformation counters tcp) (flowInformation counters.mirror tcp.mirror) := by
  have packets : "_packets" ∈ directionalSuffixes := by decide
  have bytes : "_bytes" ∈ directionalSuffixes := by decide
  have plain : ["total_packets", "total_bytes", "tcp_syn_count", "tcp_fin_count",
      "tcp_rst_count", "tcp_ack_count"] ⊆ plainKeys := by
    decide
  simp only [List.cons_subset] at plain
  obtain ⟨totalPackets, totalBytes, syn, fin, rst, ack, -⟩ := plain
  intro item member _
  simp only [flowInformation, List.mem_cons, List.not_mem_nil, or_false] at member ⊢
  rcases member with rfl | rfl | rfl | rfl | rfl | rfl | rfl | rfl | rfl | rfl
  · exact .inl (Prod.ext (mirrorKey_plain totalPackets) rfl)
  · exact .inr (.inr (.inl (Prod.ext (mirrorKey_fwd packets) rfl)))
  · exact .inr (.inl (Prod.ext (mirrorKey_bwd packets) rfl))
  · exact .inr (.inr (.inr (.inl (Prod.ext (mirrorKey_plain totalBytes) rfl))))
  · exact .inr (.inr (.inr (.inr (.inr (.inl (Prod.ext (mirrorKey_fwd bytes) rfl))))))
  · exact .inr (.inr (.inr (.inr (.inl (Prod.ext (mirrorKey_bwd bytes) rfl)))))
  · exact .inr (.inr (.inr (.inr (.inr (.inr (.inl (Prod.ext (mirrorKey_plain syn) rfl)))))))
  · exact .inr (.inr (.inr (.inr (.inr (.inr (.inr (.inl
      (Prod.ext (mirrorKey_plain fin) rfl))))))))
  · exact .inr (.inr (.inr (.inr (.inr (.inr (.inr (.inr (.inl
      (Prod.ext (mirrorKey_plain rst) rfl)))))))))
  · exact .inr (.inr (.inr (.inr (.inr (.inr (.inr (.inr (.inr
      (Prod.ext (mirrorKey_plain ack) rfl)))))))))

/-- What identifies the flow is under keys for no direction. -/
theorem mirrorKey_addFlowTupleIdentifier (platform : Platform D) (streamType : StreamType)
    (packet : RawPacket) :
    ∀ item ∈ addFlowTupleIdentifier platform streamType packet, mirrorKey item.1 = item.1 := by
  have without : ["createtime", "trans_proto", "stream_dir"] ⊆ plainKeys := by decide
  have withAddresses : ["createtime", "src_ip", "dst_ip", "src_port", "dst_port", "trans_proto",
      "stream_dir"] ⊆ plainKeys := by
    decide
  have keys : Output.keys (addFlowTupleIdentifier platform streamType packet) ⊆ plainKeys := by
    unfold addFlowTupleIdentifier
    cases packet.addr with
    | ipv4 paddr =>
      cases paddr with
      | none => exact without
      | some paddr => exact withAddresses
    | ipv6 paddr =>
      cases paddr with
      | none => exact without
      | some paddr => exact withAddresses
    | other => exact without
  exact fun item member => mirrorKey_plain (keys (List.mem_map_of_mem (f := Prod.fst) member))

end Groups

/-! ### What is written out -/

section Outputs

variable [Double D] {cfg : FeatureConfig} {streamType : StreamType}

theorem Group.on_mirror (sameFft : cfg.enableFftFwd = cfg.enableFftBwd) (group : Group) :
    group.mirror.on cfg.toSwitches = group.on cfg.toSwitches := by
  cases group with
  | fftFwd => simp only [Group.mirror, Group.on, sameFft]
  | fftBwd => simp only [Group.mirror, Group.on, sameFft]
  | _ => rfl

/-- What is written when a flow closes whose packets went the other way. -/
theorem features_mirror (addComm : ∀ first second : D, first + second = second + first)
    (sameFft : cfg.enableFftFwd = cfg.enableFftBwd) {platform : Platform D}
    {state other : FlowFeatureState D}
    (holds : (mirrorLockstep cfg platform streamType).Holds state other) (closing : RawPacket) :
    Turned (flowStateComputeFeatures cfg platform streamType closing state.view)
      (flowStateComputeFeatures cfg platform streamType closing other.view) := by
  obtain ⟨response, fields_eq⟩ := holds.fields
  have sni : "sni" ∈ plainKeys := by decide
  rw [holds.wellFormed.view_eq, holds.otherWellFormed.view_eq, holds.level_eq, fields_eq,
    flowStateComputeFeatures_eq, flowStateComputeFeatures_eq]
  refine .append (.append (.append ?_ ?_) ?_) (flowInformation_mirror _ _)
  · exact .of_sameUpTo (sameUpTo_same _) (mirrorKey_addFlowTupleIdentifier platform _ closing)
  · refine .of_sameUpTo (sameUpTo_same _) fun item member => ?_
    split at member
    · rw [List.mem_singleton.mp member]
      exact mirrorKey_plain sni
    · cases member
  · intro item member apart
    obtain ⟨group, on, inside⟩ := mem_flatMap_emitted_iff.mp member
    exact mem_flatMap_emitted_iff.mpr ⟨group.mirror, (group.on_mirror sameFft).trans on,
      group.features_mirror addComm platform holds.contents _ item inside apart⟩

/-- The callbacks of a flow whose packets go the other way. -/
def mirrorCallbacks (callbacks : List (Allocs × RawPacket)) : List (Allocs × RawPacket) :=
  callbacks.map (Prod.map id RawPacket.mirror)

theorem mirrorCallbacks_mirrorCallbacks (callbacks : List (Allocs × RawPacket)) :
    mirrorCallbacks (mirrorCallbacks callbacks) = callbacks := by
  have twice : Prod.map id RawPacket.mirror ∘ Prod.map id RawPacket.mirror =
      (id : Allocs × RawPacket → Allocs × RawPacket) :=
    funext fun callback => Prod.ext rfl callback.2.mirror_mirror
  rw [mirrorCallbacks, mirrorCallbacks, List.map_map, twice, List.map_id]

/-- What is written for a flow is written under the other keys when its packets go the other way. -/
theorem flowOutput_turned (addComm : ∀ first second : D, first + second = second + first)
    (sameFft : cfg.enableFftFwd = cfg.enableFftBwd) (platform : Platform D)
    (streamType : StreamType) (callbacks : List (Allocs × RawPacket))
    (closing : Allocs × RawPacket) :
    Option.Rel Turned (flowOutput cfg platform streamType callbacks closing)
      (flowOutput cfg platform streamType (mirrorCallbacks callbacks) closing) := by
  have same : List.Forall₂ (mirrorLockstep cfg platform streamType).Callbacks callbacks
      (mirrorCallbacks callbacks) :=
    List.forall₂_map_right_iff.mpr (List.forall₂_same.mpr fun callback _ => ⟨rfl, rfl⟩)
  have states := (mirrorLockstep cfg platform streamType).flowRun same
  rw [flowOutput_eq, flowOutput_eq]
  generalize flowRun cfg platform streamType callbacks = run at states ⊢
  generalize flowRun cfg platform streamType (mirrorCallbacks callbacks) = otherRun at states ⊢
  cases states with
  | some holds => exact .some (features_mirror addComm sameFft holds closing.2)
  | none => exact .none

end Outputs

end TiFeatures
