/-
This file lists the keys of the object written when a flow closes. Every group
is made of sections, each written or left out as a whole by a condition on the
flow; no key belongs to two sections.
-/

import TiFeatures.Groups
import TiFeatures.Library.Marks
import Mathlib.Data.List.Pairwise

namespace TiFeatures

variable {D : Type} [Double D]

/-! ### Sections -/

/-- Some features that are written together, when a condition on the flow holds. -/
structure KeySection (D : Type) where
  shown : View D → Bool
  keys : List String

/-- The section that is always written. -/
def KeySection.always (keys : List String) : KeySection D := ⟨fun _ => true, keys⟩

/-- The keys of a name with several suffixes. -/
def suffixed (name : String) (suffixes : List String) : List String := suffixes.map (name ++ ·)

/-- Some values are there and fit the temporary buffer. -/
def View.fitsTemp (view : View D) (count : Nat) : Bool :=
  0 < count && count ≤ view.tempUintBufferSize

/-- The keys of a running statistic. -/
def statisticKeys (name : String) : List String :=
  suffixed name ["_mean", "_std", "_min", "_max", "_skew", "_kurt"]

/-- The keys of the quartiles of a sequence. -/
def quartileKeys (name : String) : List String := suffixed name ["_median", "_q1", "_q3"]

/-- The keys of a spectrum. -/
def fftKeys (name : String) : List String :=
  ((List.range 5).flatMap fun i =>
    [name ++ "_fft_freq_" ++ toString i ++ "_idx", name ++ "_fft_mag_" ++ toString i]) ++
  suffixed name ["_fft_magnitude_mean", "_fft_magnitude_std", "_fft_magnitude_min",
    "_fft_magnitude_max", "_fft_magnitude_median", "_fft_magnitude_q1", "_fft_magnitude_q3",
    "_fft_magnitude_skew", "_fft_magnitude_kurt"]

/-- The sections of a group, in the order in which they are written. -/
def Group.sections : Group → List (KeySection D)
  | .basicRatios =>
    [.always ["fwd_bwd_packet_ratio", "fwd_bwd_byte_ratio", "avg_packet_length",
      "fwd_avg_packet_length", "bwd_avg_packet_length"]]
  | .basicPayloadDir =>
    [.always ["fwd_total_payload"],
      ⟨fun view => view.counters.fwdPackets > 0, ["fwd_payload_mean"]⟩,
      .always ["fwd_payload_std", "fwd_payload_min", "fwd_payload_max"],
      .always ["bwd_total_payload"],
      ⟨fun view => view.counters.bwdPackets > 0, ["bwd_payload_mean"]⟩,
      .always ["bwd_payload_std", "bwd_payload_min", "bwd_payload_max"],
      ⟨fun view => view.fitsTemp (view.arrays .fwdPayloadSizes).length,
        suffixed "fwd_payload" ["_skew", "_kurt", "_median", "_q1", "_q3"]⟩,
      ⟨fun view => view.fitsTemp (view.arrays .bwdPayloadSizes).length,
        suffixed "bwd_payload" ["_skew", "_kurt", "_median", "_q1", "_q3"]⟩]
  | .basicFirstN =>
    [⟨fun view => view.firstNLens.length > 0,
      suffixed "first_n_packets_length" ["_mean", "_min", "_max", "_std", "_median", "_q1",
        "_q3", "_skew", "_kurt"]⟩]
  | .basicPktLength =>
    [.always ["small_packet_ratio", "large_packet_ratio"],
      ⟨fun view => view.fitsTemp (view.arrays .fwdPktLens).length,
        suffixed "fwd_packet_length" ["_mean", "_std", "_min", "_max", "_median", "_q1", "_q3",
          "_cv", "_skew", "_kurt"]⟩,
      ⟨fun view => view.fitsTemp (view.arrays .bwdPktLens).length,
        suffixed "bwd_packet_length" ["_mean", "_std", "_min", "_max", "_median", "_q1", "_q3",
          "_cv", "_skew", "_kurt"]⟩]
  | .iatStats =>
    [.always (["iat_mean", "iat_std", "iat_min", "iat_max", "iat_skew", "iat_kurt",
      "interval_coefficient_of_variation"] ++ iatSequenceKeys)]
  | .iatFwdBwd =>
    [.always (suffixed "fwd_iat" ["_mean", "_std", "_cv", "_min", "_max", "_skew", "_kurt"]),
      ⟨fun view => view.fitsTemp (view.arrays .fwdIats).length, quartileKeys "fwd_iat"⟩,
      .always (suffixed "bwd_iat" ["_mean", "_std", "_cv", "_min", "_max", "_skew", "_kurt"]),
      ⟨fun view => view.fitsTemp (view.arrays .bwdIats).length, quartileKeys "bwd_iat"⟩]
  | .iatActive =>
    [.always ["active_time", "idle_time"],
      ⟨fun view => u64 (view.iat.activeTimeUs + view.iat.idleTimeUs) > 0,
        ["active_time_ratio"]⟩]
  | .iatResponse =>
    [⟨fun view => view.fitsTemp view.respDelays.length,
      suffixed "response_delay" ["_mean", "_min", "_max", "_std", "_median", "_q1", "_q3",
        "_skew", "_kurt"] ++ ["is_interactive_session"]⟩]
  | .burst =>
    [.always ["burst_count", "avg_burst_size", "avg_burst_duration", "burst_packet_count_mean",
      "burst_packet_rate_peak", "burst_size_std", "burst_interval_mean", "burstiness_index"]]
  | .protocolTcpFlags =>
    [.always ["tcp_psh_count", "tcp_urg_count", "window_update_frequency", "tcp_syn_packets",
        "tcp_syn_ack_packets", "tcp_ack_only_count", "tcp_payload_packets",
        "tcp_zero_window_count", "icmp_packet_count", "l2_packets_count",
        "header_anomaly_count", "tcp_header_anomaly_count", "header_anomaly_ratio"],
      ⟨fun view => view.tcp.tcpSynCount > 0, ["tcp_connection_success_rate"]⟩,
      ⟨fun view => view.tcp.tcpPackets > 0,
        ["tcp_syn_ratio", "tcp_rst_ratio", "tcp_ack_only_ratio", "tcp_payload_packet_ratio",
          "tcp_syn_only_ratio"]⟩,
      .always ["tcp_half_open_ratio"]]
  | .protocolTcpWindow =>
    [.always (statisticKeys "tcp_window"),
      ⟨fun view => (view.seqs .tcpWindowSeq).length > 0, quartileKeys "tcp_window"⟩]
  | .protocolIp =>
    [.always (statisticKeys "ip_ttl"), .always (statisticKeys "ip_tos"),
      ⟨fun view => (view.seqs .ipTtlSeq).length > 0, quartileKeys "ip_ttl"⟩,
      ⟨fun view => (view.seqs .ipTtlSeq).length > 0,
        ["ip_ttl_eq_32_count", "ip_ttl_eq_64_count", "ip_ttl_eq_128_count",
          "ip_ttl_eq_255_count"]⟩,
      ⟨fun view => (view.seqs .ipTosSeq).length > 0, quartileKeys "ip_tos"⟩]
  | .protocolUdp =>
    [.always (statisticKeys "udp_length"),
      ⟨fun view => (view.seqs .udpLenSeq).length > 0, quartileKeys "udp_length"⟩]
  | .protocolPort =>
    [.always ["avg_retransmission_rate", "rst_trigger_interval", "src_ip_is_private",
      "dst_ip_is_private", "ip_fragmentation_flag", "src_port_is_ephemeral",
      "dst_port_is_ephemeral", "well_known_dst_port_ratio", "well_known_src_port_ratio",
      "unique_src_ports", "unique_dst_ports", "is_common_service", "quic_usage_flag",
      "src_port_protocol", "src_port_range", "dst_port_protocol", "tcpackfaultcnt",
      "tcpbflgtmx", "tcpflwlssackrcvdbytes", "tcpiseqn", "tcpinitwinsz", "tcppackcnt",
      "tcppseqcnt", "tcpseqfaultcnt", "tcpseqsntbytes"]]
  | .payloadSize =>
    [.always (statisticKeys "payload_size"),
      ⟨fun view => (view.seqs .payloadSizeSeq).length > 0, quartileKeys "payload_size"⟩,
      ⟨fun view => view.payload.payloadSizeDiffStats.count > 0,
        statisticKeys "payload_size_diff"⟩,
      ⟨fun view => view.payload.payloadSizeDiffStats.count > 0 &&
          (view.seqs .payloadSizeDiffSeq).length > 0, quartileKeys "payload_size_diff"⟩]
  | .payloadContent =>
    [⟨fun view => view.payload.payloadTotalBytes > 0,
        ["payload_printable_ratio", "payload_alnum_ratio"]⟩,
      ⟨fun view => view.counters.totalPackets > 0, ["payload_non_empty_ratio"]⟩]
  | .payloadHist =>
    [.always (((List.range 16).map fun bin => "payload_hist_bin_" ++ toString bin) ++
      statisticKeys "payload_byte" ++
      ["payload_byte_q1", "payload_byte_median", "payload_byte_q3"])]
  | .payloadMagic =>
    [.always ["payload_magic_http_get", "payload_magic_http_post", "payload_magic_tls_1_0",
      "payload_magic_tls_1_1", "payload_magic_tls_1_2", "payload_magic_tls_1_3",
      "payload_magic_ssh", "payload_magic_jpeg", "payload_magic_png", "payload_magic_gif",
      "payload_magic_unknown", "payload_looks_like_http", "payload_looks_like_json",
      "payload_looks_like_xml", "payload_looks_like_tls", "payload_looks_like_ssh",
      "payload_chi_square", "payload_first_64_entropy"]]
  | .payloadStats =>
    (payloadMods.zipIdx.map fun entry =>
      ⟨fun view => entry.2 < view.payload.payloadMod.length,
        ["payload_length_mod_" ++ toString entry.1 ++ "_mean",
          "payload_length_mod_" ++ toString entry.1 ++ "_std"]⟩) ++
    [.always ["payload_entropy", "payload_markov_entropy", "payload_compression_ratio",
      "payload_autocorrelation_lag1", "payload_first_128_entropy",
      "payload_first_256_entropy"]]
  | .sequenceStats =>
    [.always (["packet_length_seq_len", "packet_iat_seq_len", "packet_direction_seq_len"] ++
        (List.range 5).map fun index => "length_autocorr_lag_" ++ toString (index + 1)),
      ⟨fun view => (view.seqs .pktLenSeq).length > 0,
        suffixed "length_run" ["_mean", "_std", "_min", "_max", "_median", "_q1", "_q3",
          "_skew", "_kurt"]⟩,
      .always ["length_iat_correlation", "direction_sequence_entropy",
        "direction_change_frequency", "direction_transition_unique_count",
        "length_direction_correlation"],
      ⟨fun view => (view.seqs .pktLenSeq).length > 0,
        ["length_sequence_unique_ratio", "packet_length_entropy", "packet_length_percentile_1",
          "packet_length_percentile_5", "packet_length_percentile_10",
          "packet_length_percentile_90", "packet_length_percentile_95",
          "packet_length_percentile_99", "packet_length_percentile_100",
          "lz78_complexity_index", "length_sequence_complexity"]⟩,
      .always ["hurst_exponent_estimate", "periodic_dominant_freq_ratio",
        "has_strong_periodicity", "custom_protocol_length_pattern", "ar_prediction_mse",
        "ar_prediction_mae"],
      ⟨fun view => view.bigram.bigramStats.total > 0,
        (List.range 5).flatMap fun k => bigramNames.map (bigramKey (k + 1))⟩]
  | .rawSequences =>
    [⟨fun view => (view.seqs .pktLenSeq).length > 0, ["packet_length_seq"]⟩,
      ⟨fun view => (view.seqs .iatSeq).length > 0, ["packet_iat_seq"]⟩,
      ⟨fun view => view.dirs.length > 0, ["packet_direction_seq"]⟩,
      ⟨fun view => (view.seqs .l3LenSeq).length > 0 ∧ (view.seqs .l4LenSeq).length > 0 ∧
        (view.seqs .payloadLenSeq).length > 0, ["l2l3l4pl_iat"]⟩]
  | .chunkSequences =>
    [⟨fun view => sequencesMatch (view.seqs .tsSeq) (view.seqs .pktLenSeq) view.dirs,
        ["dl_chunk_seq"]⟩,
      .always ["dl_chunk_seq_len"]]
  | .rateSequences =>
    [⟨fun view => sequencesMatch (view.seqs .tsSeq) (view.seqs .pktLenSeq) view.dirs,
        ["uplink_rate_seq", "downlink_rate_seq"]⟩,
      .always ["uplink_rate_seq_len", "downlink_rate_seq_len"]]
  | .fftGlobal =>
    [⟨fun view => (view.seqs .pktLenSeq).length ≥ 2, fftKeys "all" ++ ["psd_peak"]⟩]
  | .fftFwd => [⟨fun view => (view.arrays .fwdPktLens).length ≥ 2, fftKeys "fwd"⟩]
  | .fftBwd => [⟨fun view => (view.arrays .bwdPktLens).length ≥ 2, fftKeys "bwd"⟩]
  | .windowPkt =>
    [⟨fun view => countValidWindows view.windowPktCounts > 0,
      suffixed "window_packet_count" ["_mean", "_std", "_min", "_max", "_median", "_q1", "_q3",
        "_skew", "_kurt"]⟩]
  | .windowByte =>
    [⟨fun view => countValidWindows view.windowPktCounts > 0,
      suffixed "window_byte_count" ["_mean", "_std", "_min", "_max", "_median", "_q1", "_q3",
        "_skew", "_kurt"]⟩]
  | .behaviorBasic =>
    [.always ["flow_duration"],
      ⟨fun view => Double.blt 0 (flowDuration view.clock : D),
        ["avg_bitrate", "avg_packet_rate", "avg_throughput", "is_bulk_transfer",
          "short_connection_ratio"]⟩]
  | .behaviorPattern =>
    [.always ["flow_asymmetry_ratio", "flow_pattern", "has_regular_intervals"],
      ⟨fun view => view.counters.totalPackets > 0,
        ["protocol_tcp_ratio", "protocol_udp_ratio", "protocol_icmp_ratio",
          "protocol_other_ratio"]⟩,
      ⟨fun view => (validWindows view.windowPktCounts view.windowBitrate).length > 0,
        ["peak_bitrate"]⟩]
  | .behaviorBitrate =>
    [⟨fun view => (validWindows view.windowPktCounts view.windowBitrate).length > 0,
        suffixed "instant_bitrate" ["_mean", "_std", "_min", "_max", "_median", "_q1", "_q3",
          "_skew", "_kurt"] ++
        suffixed "bitrate_percentile" ["_25", "_50", "_75", "_90"]⟩,
      .always ["traffic_entropy_ts_mean", "traffic_entropy_ts_peak"]]

/-- The keys of the sections that are shown. -/
def shownKeys (view : View D) (sections : List (KeySection D)) : List String :=
  sections.flatMap fun part => if part.shown view then part.keys else []

/-! ### The keys of a group -/

section Keys

omit [Double D] in
theorem keys_append (front back : Output D) :
    Output.keys (front ++ back) = Output.keys front ++ Output.keys back := List.map_append

omit [Double D] in
theorem keys_if (condition : Prop) [Decidable condition] (output : Output D) :
    Output.keys (if condition then output else []) =
      if condition then Output.keys output else [] := by
  split
  · rfl
  · rfl

omit [Double D] in
/-- What is left out for fewer than two values is shown from two values on. -/
theorem keys_if_short (values : List Nat) (output : Output D) :
    Output.keys (if values.length < 2 then [] else output) =
      if values.length ≥ 2 then Output.keys output else [] := by
  by_cases short : values.length < 2
  · rw [if_pos short, if_neg (Nat.not_le.mpr short)]
    rfl
  · rw [if_neg short, if_pos (Nat.not_lt.mp short)]

omit [Double D] in
theorem shownKeys_cons (view : View D) (part : KeySection D) (rest : List (KeySection D)) :
    shownKeys view (part :: rest) =
      (if part.shown view then part.keys else []) ++ shownKeys view rest := List.flatMap_cons

omit [Double D] in
theorem shownKeys_always (view : View D) (keys : List String) (rest : List (KeySection D)) :
    shownKeys view (.always keys :: rest) = keys ++ shownKeys view rest := List.flatMap_cons

omit [Double D] in
theorem shownKeys_nil (view : View D) : shownKeys view [] = [] := rfl

variable (cfg : FeatureConfig) (platform : Platform D) (view : View D)

theorem keys_payloadDirDistribution (dir : String) (sizes : List Nat) (stats : RunningStats D)
    (maxLen : Nat) : Output.keys (payloadDirDistribution dir sizes stats maxLen) =
      if 0 < sizes.length && sizes.length ≤ maxLen then
        suffixed dir ["_payload_skew", "_payload_kurt", "_payload_median", "_payload_q1",
          "_payload_q3"]
      else [] := by
  simp only [payloadDirDistribution, Bool.and_eq_true, decide_eq_true_eq]
  exact keys_if _ _

theorem keys_calcRunLength (lens : List Nat) : Output.keys (calcRunLength (D := D) lens) =
    if lens.length > 0 then
      suffixed "length_run" ["_mean", "_std", "_min", "_max", "_median", "_q1", "_q3", "_skew",
        "_kurt"]
    else [] := by
  rw [calcRunLength]
  by_cases none : lens.length = 0
  · rw [if_pos none, none]
    rfl
  · rw [if_neg none, if_pos (Nat.pos_of_ne_zero none)]
    split
    · rfl
    · rfl

theorem keys_directionTransitions (dirs : List Int) :
    Output.keys (directionTransitions (D := D) dirs) =
      ["direction_change_frequency", "direction_transition_unique_count"] := by
  rw [directionTransitions]
  split
  · rfl
  · rfl

omit [Double D] in
/-- Pairing names with values uses as many names as there are values. -/
theorem flatMap_zip_names {Name : Type} (keysOf : Name → List String)
    (values : List (RunningStats D)) (names : List Name) (start : Nat) :
    ((values.zip names).flatMap fun entry => keysOf entry.2) =
      (names.zipIdx start).flatMap fun entry =>
        if entry.2 < start + values.length then keysOf entry.1 else [] := by
  induction names generalizing values start with
  | nil => rw [List.zip_nil_right, List.zipIdx_nil, List.flatMap_nil, List.flatMap_nil]
  | cons name rest inductionHypothesis =>
    cases values with
    | nil =>
      refine (List.flatMap_eq_nil_iff.mpr fun entry member => if_neg ?_).symm
      exact Nat.not_lt.mpr (List.le_snd_of_mem_zipIdx member)
    | cons value others =>
      rw [List.zip_cons_cons, List.zipIdx_cons, List.flatMap_cons, List.flatMap_cons,
        inductionHypothesis others (start + 1), List.length_cons,
        if_pos (show start < start + (others.length + 1) by omega), Nat.add_assoc start 1,
        Nat.add_comm 1]

/-- A group writes the keys of its sections that are shown. -/
theorem Group.keys_features (group : Group) :
    (Output.keys (group.features cfg platform view)).Perm (shownKeys view group.sections) := by
  cases group with
  | basicRatios => exact .refl _
  | basicPayloadDir =>
    refine .of_eq ?_
    simp only [features, TiFeatures.basicPayloadDir, payloadDirTotals, keys_append, keys_if,
      keys_payloadDirDistribution, sections, shownKeys_cons, shownKeys_nil, decide_eq_true_eq,
      List.append_assoc, List.append_nil]
    rfl
  | basicFirstN =>
    refine .of_eq ?_
    simp only [features, TiFeatures.basicFirstN, keys_if, sections, shownKeys_cons, shownKeys_nil,
      decide_eq_true_eq, List.append_nil]
    rfl
  | basicPktLength =>
    refine .of_eq ?_
    simp only [features, TiFeatures.basicPktLength, pktLengthDistribution, keys_append, keys_if,
      sections, shownKeys_cons, shownKeys_nil, View.fitsTemp, Bool.and_eq_true,
      decide_eq_true_eq, List.append_assoc, List.append_nil]
    rfl
  | iatStats =>
    refine .of_eq ?_
    simp only [features, iatStatsFeatures, keys_append, sections, shownKeys_always,
      shownKeys_nil, List.append_nil]
    congr 1
    rw [iatSequenceFeatures]
    split
    · rfl
    · rfl
  | iatFwdBwd =>
    refine .of_eq ?_
    simp only [features, iatFwdBwdFeatures, iatDirFeatures, keys_append, keys_if, sections,
      shownKeys_cons, shownKeys_nil, View.fitsTemp, Bool.and_eq_true, decide_eq_true_eq,
      List.append_assoc, List.append_nil]
    rfl
  | iatActive =>
    refine .of_eq ?_
    simp only [features, iatActiveFeatures, keys_append, keys_if, sections, shownKeys_cons,
      shownKeys_nil, decide_eq_true_eq, List.append_nil]
    rfl
  | iatResponse =>
    refine .of_eq ?_
    simp only [features, iatResponseFeatures, keys_if, sections, shownKeys_cons, shownKeys_nil,
      View.fitsTemp, Bool.and_eq_true, decide_eq_true_eq, List.append_nil]
    rfl
  | burst =>
    simp only [features, calcBurstStatistics]
    split
    · show List.Perm ["burst_count", "avg_burst_duration", "avg_burst_size", "burst_size_std",
        "burst_interval_mean", "burst_packet_count_mean", "burst_packet_rate_peak",
        "burstiness_index"] ["burst_count", "avg_burst_size", "avg_burst_duration",
        "burst_packet_count_mean", "burst_packet_rate_peak", "burst_size_std",
        "burst_interval_mean", "burstiness_index"]
      decide
    · exact .refl _
  | protocolTcpFlags =>
    refine .of_eq ?_
    simp only [features, TiFeatures.protocolTcpFlags, keys_append, keys_if, sections,
      shownKeys_cons, shownKeys_nil, decide_eq_true_eq, List.append_assoc, List.append_nil]
    rfl
  | protocolTcpWindow =>
    refine .of_eq ?_
    simp only [features, TiFeatures.protocolTcpWindow, quartileFeatures, keys_append, keys_if,
      sections, shownKeys_cons, shownKeys_nil, decide_eq_true_eq, List.append_nil]
    rfl
  | protocolIp =>
    refine .of_eq ?_
    simp only [features, TiFeatures.protocolIp, quartileFeatures, keys_append, keys_if, sections,
      shownKeys_cons, shownKeys_nil, decide_eq_true_eq, List.append_assoc, List.append_nil]
    rfl
  | protocolUdp =>
    refine .of_eq ?_
    simp only [features, TiFeatures.protocolUdp, quartileFeatures, keys_append, keys_if, sections,
      shownKeys_cons, shownKeys_nil, decide_eq_true_eq, List.append_nil]
    rfl
  | protocolPort => exact .refl _
  | payloadSize =>
    refine .of_eq ?_
    by_cases sampled : view.payload.payloadSizeDiffStats.count > 0
    · simp only [features, TiFeatures.payloadSize, quartileFeatures, keys_append, keys_if,
        sections, shownKeys_cons, shownKeys_nil, sampled, decide_true, Bool.true_and, if_true,
        decide_eq_true_eq, List.append_assoc, List.append_nil]
      rfl
    · simp only [features, TiFeatures.payloadSize, quartileFeatures, keys_append, keys_if,
        sections, shownKeys_cons, shownKeys_nil, sampled, decide_false, Bool.false_and,
        Bool.false_eq_true, if_false, decide_eq_true_eq, List.append_nil]
      rfl
  | payloadContent =>
    refine .of_eq ?_
    simp only [features, TiFeatures.payloadContent, keys_append, keys_if, sections,
      shownKeys_cons, shownKeys_nil, decide_eq_true_eq, List.append_nil]
    rfl
  | payloadHist =>
    refine .of_eq ?_
    simp only [features, TiFeatures.payloadHist, byteQuartiles, keys_append, sections,
      shownKeys_always, shownKeys_nil, List.append_nil]
    refine congrArg₂ _ rfl ?_
    split
    · rfl
    · rfl
  | payloadMagic => exact .refl _
  | payloadStats =>
    refine .of_eq ?_
    simp only [features, TiFeatures.payloadStats, keys_append, sections, shownKeys,
      List.flatMap_append, List.flatMap_map, decide_eq_true_eq]
    refine congrArg₂ _ ?_ rfl
    rw [Output.keys, List.map_flatMap]
    have names := flatMap_zip_names (fun mod : Nat =>
      ["payload_length_mod_" ++ toString mod ++ "_mean",
        "payload_length_mod_" ++ toString mod ++ "_std"]) view.payload.payloadMod payloadMods 0
    rw [Nat.zero_add] at names
    exact names
  | sequenceStats =>
    refine .of_eq ?_
    simp only [features, TiFeatures.sequenceStats, keys_calcRunLength, keys_directionTransitions,
      lengthDistribution, bigramFrequencies, keys_append, keys_if, sections, shownKeys_cons,
      shownKeys_nil, decide_eq_true_eq, List.append_assoc, List.append_nil]
    rfl
  | rawSequences =>
    refine .of_eq ?_
    simp only [features, TiFeatures.rawSequences, keys_append, keys_if, sections, shownKeys_cons,
      shownKeys_nil, decide_eq_true_eq, List.append_assoc, List.append_nil]
    rfl
  | chunkSequences =>
    refine .of_eq ?_
    simp only [features, TiFeatures.chunkSequences, sections, shownKeys_cons, shownKeys_nil]
    split
    · rfl
    · rfl
  | rateSequences =>
    refine .of_eq ?_
    simp only [features, TiFeatures.rateSequences, sections, shownKeys_cons, shownKeys_nil]
    split
    · rfl
    · rfl
  | fftGlobal =>
    refine .of_eq ?_
    simp only [features, TiFeatures.fftGlobal, keys_if_short, sections, shownKeys_cons,
      shownKeys_nil, decide_eq_true_eq, List.append_nil]
    rfl
  | fftFwd =>
    refine .of_eq ?_
    simp only [features, fftDir, keys_if_short, sections, shownKeys_cons, shownKeys_nil,
      decide_eq_true_eq, List.append_nil]
    rfl
  | fftBwd =>
    refine .of_eq ?_
    simp only [features, fftDir, keys_if_short, sections, shownKeys_cons, shownKeys_nil,
      decide_eq_true_eq, List.append_nil]
    rfl
  | windowPkt =>
    refine .of_eq ?_
    simp only [features, sections, shownKeys_cons, shownKeys_nil, decide_eq_true_eq,
      List.append_nil, Nat.pos_iff_ne_zero, gt_iff_lt, ne_eq, ite_not]
    split
    · rfl
    · rfl
  | windowByte =>
    refine .of_eq ?_
    simp only [features, sections, shownKeys_cons, shownKeys_nil, decide_eq_true_eq,
      List.append_nil, Nat.pos_iff_ne_zero, gt_iff_lt, ne_eq, ite_not]
    split
    · rfl
    · rfl
  | behaviorBasic =>
    refine .of_eq ?_
    simp only [features, TiFeatures.behaviorBasic, keys_append, keys_if, sections,
      shownKeys_cons, shownKeys_nil, List.append_nil]
    rfl
  | behaviorPattern =>
    refine .of_eq ?_
    simp only [features, TiFeatures.behaviorPattern, keys_append, keys_if, sections,
      shownKeys_cons, shownKeys_nil, decide_eq_true_eq, List.append_assoc, List.append_nil]
    rfl
  | behaviorBitrate =>
    refine .of_eq ?_
    simp only [features, TiFeatures.behaviorBitrate, instantBitrate, trafficEntropy, keys_append,
      keys_if, sections, shownKeys_cons, shownKeys_nil, decide_eq_true_eq, List.append_nil,
      length_prepareDoubleBuffer]
    refine congrArg₂ _ rfl ?_
    split
    · rfl
    · rfl

end Keys

/-! ### The keys of the object -/

/-- The keys a group can write. -/
def Group.keys (group : Group) : List String :=
  (group.sections : List (KeySection Float)).flatMap KeySection.keys

/-- The keys that identify a flow, and those of its basic information. -/
def frameKeys : List String :=
  ["createtime", "src_ip", "dst_ip", "src_port", "dst_port", "trans_proto", "stream_dir", "sni",
    "total_packets", "fwd_packets", "bwd_packets", "total_bytes", "fwd_bytes", "bwd_bytes",
    "tcp_syn_count", "tcp_fin_count", "tcp_rst_count", "tcp_ack_count"]

theorem mem_groupOrder (group : Group) : group ∈ groupOrder := by
  cases group <;> decide

/-- A number that marks a key: its bytes, reduced by a modulus that keeps the keys apart. -/
def keyMark (key : String) : Nat :=
  key.toByteArray.data.toList.foldl (fun mark byte => (mark * 256 + byte.toNat) % 18401) 0

/-- No key is used twice. -/
theorem keys_nodup : (frameKeys ++ groupOrder.flatMap Group.keys).Nodup :=
  DistinctMarks.nodup_of_fresh_map keyMark (by decide +kernel)

theorem Group.keys_nodup (group : Group) : group.keys.Nodup :=
  (List.nodup_flatMap.mp (List.nodup_append.mp TiFeatures.keys_nodup).2.1).1 group
    (mem_groupOrder group)

/-- A key belongs to one group. -/
theorem Group.eq_of_key_mem {first second : Group} {key : String} (member : key ∈ first.keys)
    (otherMember : key ∈ second.keys) : first = second :=
  DistinctMarks.eq_of_nodup_flatMap (List.nodup_append.mp TiFeatures.keys_nodup).2.1
    (mem_groupOrder first) (mem_groupOrder second) member otherMember

/-- A key of a group is not one of the frame. -/
theorem Group.key_notMem_frameKeys {group : Group} {key : String} (member : key ∈ group.keys) :
    key ∉ frameKeys := fun framed =>
  (List.nodup_append.mp TiFeatures.keys_nodup).2.2 key framed key
    (List.mem_flatMap.mpr ⟨group, mem_groupOrder group, member⟩) rfl

theorem Group.keys_eq (group : Group) :
    (group.sections : List (KeySection D)).flatMap KeySection.keys = group.keys := by
  cases group <;> rfl

omit [Double D] in
/-- The keys that are shown are some of the keys of the sections, in their order. -/
theorem shownKeys_sublist (view : View D) (sections : List (KeySection D)) :
    (shownKeys view sections).Sublist (sections.flatMap KeySection.keys) := by
  induction sections with
  | nil => exact .slnil
  | cons part rest inductionHypothesis =>
    rw [shownKeys_cons, List.flatMap_cons]
    refine List.Sublist.append ?_ inductionHypothesis
    split
    · exact .refl _
    · exact List.nil_sublist _

omit [Double D] in
/-- Among distinct keys, a key is shown if its section is. -/
theorem mem_shownKeys_iff {sections : List (KeySection D)}
    (distinct : (sections.flatMap KeySection.keys).Nodup) {part : KeySection D}
    (inside : part ∈ sections) {key : String} (own : key ∈ part.keys) (view : View D) :
    key ∈ shownKeys view sections ↔ part.shown view = true := by
  rw [shownKeys, List.mem_flatMap]
  constructor
  · rintro ⟨other, otherInside, member⟩
    split at member
    · rename_i shown
      have same := DistinctMarks.eq_of_nodup_flatMap distinct otherInside inside member own
      exact same ▸ shown
    · cases member
  · exact fun shown => ⟨part, inside, by rwa [if_pos shown]⟩

section Object

variable {cfg : FeatureConfig} {platform : Platform D} {view : View D}

/-- What a group writes is under keys of its own. -/
theorem Group.key_mem {group : Group} {key : String} {value : Json D}
    (member : (key, value) ∈ group.features cfg platform view) : key ∈ group.keys := by
  have written : key ∈ Output.keys (group.features cfg platform view) :=
    List.mem_map_of_mem (f := Prod.fst) member
  rw [← group.keys_eq (D := D)]
  exact (shownKeys_sublist view _).subset ((group.keys_features cfg platform view).subset written)

/-- A group writes a key if the section of the key is shown. -/
theorem Group.mem_keys_features_iff {group : Group} {part : KeySection D}
    (inside : part ∈ group.sections) {key : String} (own : key ∈ part.keys) :
    key ∈ Output.keys (group.features cfg platform view) ↔ part.shown view = true := by
  rw [(group.keys_features cfg platform view).mem_iff]
  exact mem_shownKeys_iff ((group.keys_eq (D := D)).symm ▸ group.keys_nodup) inside own view

/-- A group writes one value under each of its keys. -/
theorem Group.value_unique {group : Group} {key : String} {value other : Json D}
    (member : (key, value) ∈ group.features cfg platform view)
    (otherMember : (key, other) ∈ group.features cfg platform view) : value = other := by
  have nodup : (Output.keys (group.features cfg platform view)).Nodup := by
    rw [(group.keys_features cfg platform view).nodup_iff]
    exact ((group.keys_eq (D := D)).symm ▸ group.keys_nodup).sublist (shownKeys_sublist view _)
  exact congrArg Prod.snd (List.inj_on_of_nodup_map nodup member otherMember rfl)

/-- What identifies the flow is under the keys of the frame. -/
theorem keys_addFlowTupleIdentifier (streamType : StreamType) (packet : RawPacket) :
    Output.keys (addFlowTupleIdentifier platform streamType packet) ⊆ frameKeys := by
  have without : ["createtime", "trans_proto", "stream_dir"] ⊆ frameKeys := by decide
  have withAddresses : ["createtime", "src_ip", "dst_ip", "src_port", "dst_port",
      "trans_proto", "stream_dir"] ⊆ frameKeys := by decide
  unfold addFlowTupleIdentifier
  cases packet.addr with
  | ipv4 paddr =>
    cases paddr with
    | none => exact without
    | some paddr => exact withAddresses
  | ipv6 paddr =>
    cases paddr with
    | none => exact without
    | some paddr => exact withAddresses
  | other => exact without

/-- What is written before the groups is under the keys of the frame. -/
theorem key_mem_frameKeys {streamType : StreamType} {packet : RawPacket}
    {item : String × Json D}
    (member : item ∈ addFlowTupleIdentifier platform streamType packet ++
      match packet.sni with
      | some sni => [addString "sni" sni]
      | none => []) : item.1 ∈ frameKeys := by
  rcases List.mem_append.mp member with member | member
  · exact keys_addFlowTupleIdentifier streamType packet (List.mem_map_of_mem member)
  · cases sni : packet.sni with
    | none =>
      rw [sni] at member
      cases member
    | some text =>
      rw [sni] at member
      rw [List.mem_singleton.mp member]
      exact show "sni" ∈ frameKeys by decide

/-- A group adds its features if it is on. -/
theorem Group.mem_emitted_iff {group : Group} {item : String × Json D} :
    item ∈ group.emitted cfg platform view ↔
      group.on cfg.toSwitches = true ∧ item ∈ group.features cfg platform view := by
  rw [Group.emitted]
  split
  · exact (and_iff_right ‹_›).symm
  · exact iff_of_false List.not_mem_nil fun both => absurd both.1 ‹_›

theorem mem_flatMap_emitted_iff {item : String × Json D} :
    item ∈ groupOrder.flatMap (Group.emitted cfg platform view) ↔
      ∃ group : Group, group.on cfg.toSwitches = true ∧
        item ∈ group.features cfg platform view := by
  simp only [List.mem_flatMap, Group.mem_emitted_iff, mem_groupOrder, true_and]

/-- A key that is not one of the frame comes from a group that is on. -/
theorem mem_flowStateComputeFeatures {streamType : StreamType} {packet : RawPacket}
    {key : String} (own : key ∉ frameKeys) {value : Json D} :
    (key, value) ∈ flowStateComputeFeatures cfg platform streamType packet view ↔
      ∃ group : Group, group.on cfg.toSwitches = true ∧
        (key, value) ∈ group.features cfg platform view := by
  rw [flowStateComputeFeatures_eq, ← mem_flatMap_emitted_iff]
  constructor
  · intro member
    rcases List.mem_append.mp member with member | member
    · rcases List.mem_append.mp member with member | member
      · exact absurd (key_mem_frameKeys member) own
      · exact member
    · have subset : Output.keys (flowInformation (D := D) view.counters view.tcp) ⊆
          frameKeys := by
        show ["total_packets", "fwd_packets", "bwd_packets", "total_bytes", "fwd_bytes",
          "bwd_bytes", "tcp_syn_count", "tcp_fin_count", "tcp_rst_count", "tcp_ack_count"] ⊆
            frameKeys
        decide
      exact absurd (subset (List.mem_map_of_mem (f := Prod.fst) member)) own
  · exact fun member => List.mem_append_left _ (List.mem_append_right _ member)

/-- A key of a group is written with a value if the group is on and writes it. -/
theorem Group.mem_flowStateComputeFeatures {streamType : StreamType} {packet : RawPacket}
    {group : Group} {key : String} (own : key ∈ group.keys) {value : Json D} :
    (key, value) ∈ flowStateComputeFeatures cfg platform streamType packet view ↔
      group.on cfg.toSwitches = true ∧ (key, value) ∈ group.features cfg platform view := by
  rw [TiFeatures.mem_flowStateComputeFeatures (Group.key_notMem_frameKeys own)]
  constructor
  · rintro ⟨other, isOn, member⟩
    obtain rfl := Group.eq_of_key_mem own (Group.key_mem member)
    exact ⟨isOn, member⟩
  · exact fun ⟨isOn, member⟩ => ⟨group, isOn, member⟩

end Object

end TiFeatures
