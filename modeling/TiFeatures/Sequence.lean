/-
This file models `calc_sequence.cpp`: the sequence statistics, and the raw,
chunk and rate sequences that are written out as text when a flow closes.
-/

import TiFeatures.State

namespace TiFeatures

variable {D : Type} [Double D]

/-! ### Serialisation -/

/-- The loop that the `serialize_*_array` functions share. -/
def serialize {Value : Type} (text : Value → String) (arr : List Value) : String :=
  String.intercalate "," (arr.map text)

/-- `serialize_uint_array` and `serialize_ull_array`. -/
def serializeUintArray (arr : List Nat) : String := serialize toString arr

/-- The value of a `signed char` stored as a byte. -/
def signedChar (byte : Nat) : Int := if byte < 128 then byte else byte - 256

/-- `serialize_dir_array`. -/
def serializeDirArray (arr : List Int) : String := serialize toString arr

/-- `serialize_double_array`. -/
def serializeDoubleArray (platform : Platform D) (arr : List D) : String :=
  serialize platform.formatDouble arr

/-! ### Autocorrelation, runs and complexity -/

/-- `calc_autocorr`. -/
def calcAutocorr (seq : List Nat) (lag : Nat) : D :=
  if seq.length ≤ lag then 0
  else
    let mean := sumUint D seq / (seq.length : D)
    let sums := (seq.zip (seq.drop lag)).foldl (fun sums pair =>
      let d1 := (pair.1 : D) - mean
      let d2 := (pair.2 : D) - mean
      (sums.1 + d1 * d2, sums.2 + d1 * d1)) ((0, 0) : D × D)
    if Double.blt 0 sums.2 then sums.1 / sums.2 else 0

/-- `calc_autocorr_packet_length`, with the five lags it is called for. -/
def calcAutocorrPacketLength (lens : List Nat) : Output D :=
  (List.range 5).map fun index =>
    addNumber ("length_autocorr_lag_" ++ toString (index + 1))
      (if lens.length ≤ 5 then 0 else calcAutocorr lens (index + 1))

/-- The loop that collects the lengths of runs of equal values. -/
def collectRuns : List Nat → Nat → Nat → List Nat
  | [], _, cur => [cur]
  | value :: rest, previous, cur =>
    if value = previous then collectRuns rest value (cur + 1)
    else cur :: collectRuns rest value 1

/-- The `runs` array of `calc_run_length`. -/
def runLengths : List Nat → List Nat
  | [] => []
  | first :: rest => collectRuns rest first 1

/-- `calc_run_length`. -/
def calcRunLength (lens : List Nat) : Output D :=
  let count := lens.length
  if count = 0 then []
  else if count = 1 then
    [addNumber "length_run_mean" 1, addNumber "length_run_std" 0, addNumber "length_run_min" 1,
      addNumber "length_run_max" 1, addNumber "length_run_median" 1,
      addNumber "length_run_q1" 1, addNumber "length_run_q3" 1,
      addNumber "length_run_skew" 0, addNumber "length_run_kurt" 0]
  else
    let runs := runLengths lens
    let runsD := prepareDoubleBuffer D runs
    let first := runs.getD 0 0
    let mean := sumDouble runsD / (runs.length : D)
    let std := sampleStd runs.length (sumSqDouble runsD) mean
    let sorted := sortUint runs
    [addNumber "length_run_mean" mean,
      addNumber "length_run_std" std,
      addNumber "length_run_min" ((runs.foldl min first : Nat) : D),
      addNumber "length_run_max" ((runs.foldl max first : Nat) : D),
      addNumber "length_run_median" (calcMedianUint sorted : D),
      addNumber "length_run_q1" (calcQ1Uint D sorted : D),
      addNumber "length_run_q3" (calcQ3Uint D sorted : D),
      addNumber "length_run_skew" (calcSkewness runsD mean std),
      addNumber "length_run_kurt" (calcKurtosis runsD mean std)]

/-- The inner loop of `calc_lz78_complexity`: extend the current phrase until it is new. The
result is the phrase to insert, if one was found, and the rest of the sequence. -/
def lz78Phrase (dict : List String) : List Nat → String → Option String × List Nat
  | [], _ => (none, [])
  | value :: rest, cur =>
    let cur := cur ++ (toString value ++ "|")
    if cur ∈ dict then lz78Phrase dict rest cur else (some cur, rest)

theorem lz78Phrase_length_le (dict : List String) (seq : List Nat) (cur : String) :
    (lz78Phrase dict seq cur).2.length ≤ seq.length := by
  induction seq generalizing cur with
  | nil => exact le_refl _
  | cons value rest inductionHypothesis =>
    rw [lz78Phrase]
    split
    · exact (inductionHypothesis _).trans (Nat.le_succ _)
    · exact Nat.le_succ _

theorem lz78Phrase_length_lt (dict : List String) (value : Nat) (rest : List Nat) (cur : String) :
    (lz78Phrase dict (value :: rest) cur).2.length < (value :: rest).length := by
  rw [lz78Phrase, List.length_cons]
  split
  · exact Nat.lt_succ_of_le (lz78Phrase_length_le _ _ _)
  · exact Nat.lt_succ_self _

/-- The outer loop of `calc_lz78_complexity`. -/
def lz78Phrases (dict : List String) (phrases : Nat) : List Nat → Nat
  | [] => phrases
  | value :: rest =>
    have := lz78Phrase_length_lt dict value rest ""
    match lz78Phrase dict (value :: rest) "", this with
    | (some phrase, remaining), _ => lz78Phrases (phrase :: dict) (phrases + 1) remaining
    | (none, remaining), _ => lz78Phrases dict phrases remaining
  termination_by seq => seq.length
  decreasing_by all_goals assumption

/-- `calc_lz78_complexity`. -/
def calcLz78Complexity (seq : List Nat) : D :=
  if seq.length ≤ 1 then 0 else (lz78Phrases [] 0 seq : D)

/-! ### Hurst exponent and periodicity -/

/-- The rescaled range of one block, if its deviation is positive. -/
def rescaledRange (block : List Nat) : Option D :=
  let size := block.length
  let mean := sumUint D block / (size : D)
  let scan := block.foldl (fun state value =>
    let d := (value : D) - mean
    let cum := state.1 + d
    (cum, if Double.blt cum state.2.1 then cum else state.2.1,
      if Double.blt state.2.2.1 cum then cum else state.2.2.1, state.2.2.2 + d * d))
    ((0, 0, 0, 0) : D × D × D × D)
  let r := scan.2.2.1 - scan.2.1
  let s := if size > 1 then Double.sqrt (scan.2.2.2 / ((size - 1 : Nat) : D)) else 0
  if Double.blt 0 s then some (r / s) else none

/-- The mean rescaled range over the blocks of one size. -/
def meanRescaledRange (iatSeq : List Nat) (block : Nat) : D :=
  let m := iatSeq.length / block
  let total := (List.range m).foldl (fun (sum : D) k =>
    match rescaledRange ((iatSeq.drop (k * block)).take block) with
    | some rs => sum + rs
    | none => sum) 0
  total / (m : D)

/-- The block sizes of `calc_hurst_exponent`: powers of two from eight on. -/
def hurstBlocks (maxBlock : Nat) : List Nat :=
  ((List.range 64).map fun exponent => 8 * 2 ^ exponent).filter fun block => block ≤ maxBlock

/-- `calc_hurst_exponent`. -/
def calcHurstExponent (iatSeq : List Nat) : D :=
  let n := iatSeq.length
  let maxBlock := n / 2
  if n < 10 ∨ maxBlock < 8 then 1 / 2
  else
    let points := (hurstBlocks maxBlock).filterMap fun block =>
      let rsAvg : D := meanRescaledRange iatSeq block
      if Double.blt 0 rsAvg then some (Double.log (block : D), Double.log rsAvg) else none
    let x1 := points.foldl (fun (sum : D) point => sum + point.1) 0
    let y1 := points.foldl (fun (sum : D) point => sum + point.2) 0
    let x2 := points.foldl (fun (sum : D) point => sum + point.1 * point.1) 0
    let xy := points.foldl (fun (sum : D) point => sum + point.1 * point.2) 0
    if points.length < 2 then 1 / 2
    else
      let den := (points.length : D) * x2 - x1 * x1
      if den == 0 then 1 / 2
      else
        let h := ((points.length : D) * xy - x1 * y1) / den
        let h := if Double.blt h 0 then 0 else h
        if Double.blt (3 / 2) h then 3 / 2 else h

/-- The periodicity estimate of `calc_derived_sequence`: the largest autocorrelation of the first
five lags, relative to the first. -/
def periodicRatio (iats : List Nat) : D :=
  if iats.length > 6 then
    let mean := sumUint D iats / (iats.length : D)
    let den := iats.foldl (fun (sum : D) value =>
      let d := (value : D) - mean
      sum + d * d) 0
    if Double.blt 0 den then
      let acs := (List.range 5).map fun index =>
        let num := (iats.zip (iats.drop (index + 1))).foldl (fun (sum : D) pair =>
          sum + ((pair.1 : D) - mean) * ((pair.2 : D) - mean)) 0
        Double.fabs (num / den)
      let ac1 := acs.getD 0 0
      let acMax := scanMax 0 acs
      if Double.blt (1 / 1000000000) ac1 then acMax / ac1 else acMax
    else 0
  else 0

/-! ### Directions and correlations -/

/-- `calc_direction_entropy`. -/
def calcDirectionEntropy (dirs : List Int) : D :=
  let fwd := (dirs.filter fun dir => dir > 0).length
  let bwd := (dirs.filter fun dir => dir < 0).length
  if fwd = 0 ∨ bwd = 0 then 0
  else
    let pFwd := (fwd : D) / ((fwd + bwd : Nat) : D)
    let pBwd := (bwd : D) / ((fwd + bwd : Nat) : D)
    (-(pFwd * Double.log2 pFwd + pBwd * Double.log2 pBwd))

/-- Pearson's correlation as the code computes it from the sums of a paired sample. -/
def pearson (pairs : List (D × D)) : D :=
  let n : D := (pairs.length : D)
  let sums := pairs.foldl (fun sums pair =>
    (sums.1 + pair.1, sums.2.1 + pair.2, sums.2.2.1 + pair.1 * pair.2,
      sums.2.2.2.1 + pair.1 * pair.1, sums.2.2.2.2 + pair.2 * pair.2))
    ((0, 0, 0, 0, 0) : D × D × D × D × D)
  let num := n * sums.2.2.1 - sums.1 * sums.2.1
  let den := Double.sqrt ((n * sums.2.2.2.1 - sums.1 * sums.1) *
    (n * sums.2.2.2.2 - sums.2.1 * sums.2.1))
  if Double.blt 0 den then num / den else 0

/-- `calc_length_direction_correlation`. -/
def calcLengthDirectionCorrelation (pktLens : List Nat) (dirs : List Int) : D :=
  if pktLens.length = 0 ∨ pktLens.length ≠ dirs.length then 0
  else pearson ((pktLens.zip dirs).map fun pair => ((pair.1 : D), Double.ofInt pair.2))

/-- `calc_length_iat_correlation`. -/
def calcLengthIatCorrelation (pktLens iatSeq : List Nat) : D :=
  if pktLens.length = 0 ∨ iatSeq.length = 0 ∨ pktLens.length ≠ iatSeq.length + 1 then 0
  else pearson ((pktLens.zip iatSeq).map fun pair => ((pair.1 : D), (pair.2 : D)))

/-! ### Derived features of `enable_sequence_stats` -/

/-- The direction changes and transitions. -/
def directionTransitions (dirs : List Int) : Output D :=
  if dirs.length > 1 then
    let pairs := dirs.zip (dirs.drop 1)
    let changeCount := (pairs.filter fun pair => pair.2 ≠ pair.1).length
    let index := fun dir : Int => if dir > 0 then 0 else 1
    let seen := (pairs.map fun pair => index pair.1 * 2 + index pair.2).dedup
    [addNumber "direction_change_frequency"
        ((changeCount : D) / ((dirs.length - 1 : Nat) : D)),
      addNumber "direction_transition_unique_count" (seen.length : D)]
  else
    [addNumber "direction_change_frequency" 0,
      addNumber "direction_transition_unique_count" 0]

/-- The number of places at which a sorted array changes, plus one. -/
def uniqueCount (sorted : List Nat) : Nat :=
  1 + ((sorted.zip (sorted.drop 1)).filter fun pair => pair.2 ≠ pair.1).length

/-- The length distribution part. -/
def lengthDistribution (lens : List Nat) : Output D :=
  if lens.length > 0 then
    let maxV := lens.foldl max (lens.getD 0 0)
    let bins := if maxV > 0 ∧ maxV < 4096 then maxV + 1 else 4096
    let hist := lens.foldl (fun hist len =>
      hist.modify (if len < bins then len else bins - 1) fun count => u32 (count + 1))
      (List.replicate bins 0)
    let sorted := sortUint lens
    let lz : D := calcLz78Complexity lens
    [addNumber "length_sequence_unique_ratio"
        ((uniqueCount sorted : D) / (lens.length : D)),
      addNumber "packet_length_entropy" (calcShannonEntropy D hist),
      addNumber "packet_length_percentile_1" (calcPercentileUint D sorted 1 : D),
      addNumber "packet_length_percentile_5" (calcPercentileUint D sorted 5 : D),
      addNumber "packet_length_percentile_10" (calcPercentileUint D sorted 10 : D),
      addNumber "packet_length_percentile_90" (calcPercentileUint D sorted 90 : D),
      addNumber "packet_length_percentile_95" (calcPercentileUint D sorted 95 : D),
      addNumber "packet_length_percentile_99" (calcPercentileUint D sorted 99 : D),
      addNumber "packet_length_percentile_100" (calcPercentileUint D sorted 100 : D),
      addNumber "lz78_complexity_index" lz,
      addNumber "length_sequence_complexity" (lz / (lens.length : D))]
  else []

/-- The names of the bigrams. -/
def bigramNames : List String := ["ss", "sm", "sl", "ms", "mm", "ml", "ls", "lm", "ll"]

/-- One exchange of the ranking loop. -/
def exchangeRanks (ranks : List (Nat × Nat)) (i j : Nat) : List (Nat × Nat) :=
  let a := ranks.getD i (0, 0)
  let b := ranks.getD j (0, 0)
  if a.2 < b.2 then (ranks.set i b).set j a else ranks

/-- The bigram types with their counts, in the order the exchange loop leaves them in. -/
def rankBigrams (counts : List Nat) : List (Nat × Nat) :=
  (List.range 9).foldl (fun ranks i =>
    ((List.range 9).filter fun j => i < j).foldl (fun ranks j => exchangeRanks ranks i j) ranks)
    ((List.range 9).map fun i => (i, counts.getD i 0))

/-- The key of a bigram in the ranking. -/
def bigramKey (k : Nat) (name : String) : String :=
  "top_" ++ toString k ++ "_bigram_" ++ name ++ "_freq"

/-- The bigram frequencies: for each of the five first ranks the frequency under the key of the
type that has it, and zero under the other eight. -/
def bigramFrequencies (stats : BigramStats) : Output D :=
  if stats.total > 0 then
    let ranks := rankBigrams stats.counts
    (List.range 5).flatMap fun k =>
      let winner := ranks.getD k (0, 0)
      bigramNames.map fun name =>
        addNumber (bigramKey (k + 1) name)
          (if name = bigramNames.getD winner.1 "" then (winner.2 : D) / (stats.total : D) else 0)
  else []

/-- The features of `enable_sequence_stats`. -/
def sequenceStats (lens iats : List Nat) (dirs : List Int) (bigrams : BigramStats) : Output D :=
  let ratio : D := periodicRatio iats
  [addNumber "packet_length_seq_len" (lens.length : D),
    addNumber "packet_iat_seq_len" (iats.length : D),
    addNumber "packet_direction_seq_len" (dirs.length : D)] ++
  calcAutocorrPacketLength lens ++
  calcRunLength lens ++
  [addNumber "length_iat_correlation" (calcLengthIatCorrelation lens iats),
    addNumber "direction_sequence_entropy" (calcDirectionEntropy dirs)] ++
  directionTransitions dirs ++
  [addNumber "length_direction_correlation" (calcLengthDirectionCorrelation lens dirs)] ++
  lengthDistribution lens ++
  [addNumber "hurst_exponent_estimate"
      (if iats.length > 0 then calcHurstExponent iats else 1 / 2),
    addNumber "periodic_dominant_freq_ratio" ratio,
    addNumber "has_strong_periodicity" (Double.ofBool (Double.blt (3 / 2) ratio)),
    addString "custom_protocol_length_pattern" "unknown",
    addNumber "ar_prediction_mse" 0,
    addNumber "ar_prediction_mae" 0] ++
  bigramFrequencies bigrams

/-! ### Derived features of the sequences written out -/

/-- One record of `l2l3l4pl_iat`. -/
structure LayerRecord where
  l2 : Nat
  l3 : Nat
  l4 : Nat
  payload : Nat
  iat : Nat
  deriving DecidableEq

/-- The text of a record. -/
def LayerRecord.text (entry : LayerRecord) : String :=
  toString entry.l2 ++ "/" ++ toString entry.l3 ++ "/" ++ toString entry.l4 ++ "/" ++
    toString entry.payload ++ "/" ++ toString entry.iat

/-- The records of `l2l3l4pl_iat`, one for each index that the length sequences share. -/
def layerRecords (lens iats l3Lens l4Lens payloadLens : List Nat) : List LayerRecord :=
  let n := min (min l3Lens.length l4Lens.length) payloadLens.length
  let n := if lens.length > 0 then min n lens.length else n
  (List.range n).map fun i =>
    let l3 := l3Lens.getD i 0
    let l4 := l4Lens.getD i 0
    let payload := payloadLens.getD i 0
    let l3l4pl := u32 (l3 + l4 + payload)
    { l2 := if lens.length > 0 ∧ lens.getD i 0 ≥ l3l4pl then lens.getD i 0 - l3l4pl else 0
      l3
      l4
      payload
      iat := if i = 0 then 0 else iats.getD (i - 1) 0 }

/-- The features of `enable_raw_sequences`. A sequence without values is not written. -/
def rawSequences (lens iats : List Nat) (dirs : List Int) (l3Lens l4Lens payloadLens : List Nat) :
    Output D :=
  (if lens.length > 0 then [addString "packet_length_seq" (serializeUintArray lens)] else []) ++
  (if iats.length > 0 then [addString "packet_iat_seq" (serializeUintArray iats)] else []) ++
  (if dirs.length > 0 then [addString "packet_direction_seq" (serializeDirArray dirs)] else []) ++
  (if l3Lens.length > 0 ∧ l4Lens.length > 0 ∧ payloadLens.length > 0 then
    [addString "l2l3l4pl_iat"
      (serialize LayerRecord.text (layerRecords lens iats l3Lens l4Lens payloadLens))]
  else [])

/-- The loop that cuts a sequence of packets into chunks: the values written and the chunk that
is still open. -/
def chunkLoop : List (Nat × Nat × Int) → Nat → Int → Nat → List Nat × Nat
  | [], _, _, chunkBytes => ([], chunkBytes)
  | (ts, len, dir) :: rest, lastTs, lastDir, chunkBytes =>
    if dir ≠ lastDir ∨ u64Sub ts lastTs > 100000 then
      let result := chunkLoop rest ts dir (u64 (0 + len))
      (chunkBytes :: result.1, result.2)
    else chunkLoop rest ts dir (u64 (chunkBytes + len))

/-- The values of `dl_chunk_seq`. -/
def chunkValues : List (Nat × Nat × Int) → List Nat
  | [] => []
  | (ts, len, dir) :: rest =>
    let result := chunkLoop rest ts dir len
    if result.2 > 0 then result.1 ++ [result.2] else result.1

/-- The condition under which the chunk and rate sequences are computed. -/
def sequencesMatch (tsSeq lens : List Nat) (dirs : List Int) : Bool :=
  tsSeq.length > 0 && tsSeq.length == lens.length && tsSeq.length == dirs.length

/-- The features of `enable_chunk_sequences`. -/
def chunkSequences (tsSeq lens : List Nat) (dirs : List Int) (lastDlChunkCount : Nat) :
    Output D :=
  if sequencesMatch tsSeq lens dirs then
    let values := chunkValues (tsSeq.zip (lens.zip dirs))
    [addString "dl_chunk_seq" (serializeUintArray values),
      addNumber "dl_chunk_seq_len" (u32 values.length : D)]
  else [addNumber "dl_chunk_seq_len" (lastDlChunkCount : D)]

/-- The number of rate windows. -/
def rateWindowCount (tsSeq : List Nat) : Nat :=
  u32 (u32 (u64Sub (tsSeq.getD (tsSeq.length - 1) 0) (tsSeq.getD 0 0) / 50000) + 1)

/-- The window of the rate sequences that a packet is added to. -/
def rateWindowIndex (tsSeq : List Nat) (ts : Nat) : Nat :=
  let winN := rateWindowCount tsSeq
  let idx := u32 (u64Sub ts (tsSeq.getD 0 0) / 50000)
  if idx ≥ winN then u32 (winN + 2 ^ 32 - 1) else idx

/-- The rates of one direction: `up` for positive and `down` for negative directions. -/
def rateSequence (tsSeq lens : List Nat) (dirs : List Int) (counts : Int → Bool) : List D :=
  (tsSeq.zip (lens.zip dirs)).foldl (fun rates packet =>
    if counts packet.2.2 then
      let rate : D := (packet.2.1 : D) * 8 / (5 / 100)
      rates.modify (rateWindowIndex tsSeq packet.1) fun sum => sum + rate
    else rates) (List.replicate (rateWindowCount tsSeq) 0)

/-- The features of `enable_rate_sequences`. -/
def rateSequences (platform : Platform D) (tsSeq lens : List Nat) (dirs : List Int)
    (derived : DerivedState) : Output D :=
  if sequencesMatch tsSeq lens dirs then
    let up := rateSequence tsSeq lens dirs fun dir => dir > 0
    let down := rateSequence tsSeq lens dirs fun dir => dir < 0
    [addString "uplink_rate_seq" (serializeDoubleArray platform up),
      addString "downlink_rate_seq" (serializeDoubleArray platform down),
      addNumber "uplink_rate_seq_len" (rateWindowCount tsSeq : D),
      addNumber "downlink_rate_seq_len" (rateWindowCount tsSeq : D)]
  else
    [addNumber "uplink_rate_seq_len" (derived.lastUplinkRateSeqLen : D),
      addNumber "downlink_rate_seq_len" (derived.lastDownlinkRateSeqLen : D)]

/-- The directions of a view, as signed values. -/
def View.dirs (view : View D) : List Int := (view.seqs .dirSeq).map signedChar

/-- `calc_derived_sequence`. -/
def calcDerivedSequence (cfg : FeatureConfig) (platform : Platform D) (view : View D) :
    Output D :=
  (if cfg.enableSequenceStats then
    sequenceStats (view.seqs .pktLenSeq) (view.seqs .iatSeq) view.dirs view.bigram.bigramStats
  else []) ++
  (if cfg.enableRawSequences then
    rawSequences (view.seqs .pktLenSeq) (view.seqs .iatSeq) view.dirs (view.seqs .l3LenSeq)
      (view.seqs .l4LenSeq) (view.seqs .payloadLenSeq) else []) ++
  (if cfg.enableChunkSequences then
    chunkSequences (view.seqs .tsSeq) (view.seqs .pktLenSeq) view.dirs
      view.derived.lastDlChunkCount else []) ++
  (if cfg.enableRateSequences then
    rateSequences platform (view.seqs .tsSeq) (view.seqs .pktLenSeq) view.dirs view.derived
  else [])

end TiFeatures
