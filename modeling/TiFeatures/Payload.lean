/-
This file models `calc_payload.cpp` and the payload functions of
`calc_basic.cpp`: what is collected from the bytes of a payload, and the
features derived from it when a flow closes.
-/

import TiFeatures.State

namespace TiFeatures

variable {D : Type} [Double D]

/-! ### Entropy and compression -/

/-- The byte at an index of a payload. -/
def byteAt (data : List UInt8) (index : Nat) : Nat := (data.getD index 0).toNat

/-- How often each of the 256 byte values occurs. -/
def byteHistogram (data : List UInt8) : List Nat :=
  data.foldl (fun hist byte => hist.modify byte.toNat fun count => u32 (count + 1))
    (List.replicate 256 0)

/-- `calc_byte_entropy`, of the first `len` bytes. -/
def calcByteEntropy (data : List UInt8) (len : Int) : D :=
  if len = 0 then 0
  else
    (byteHistogram (data.take len.toNat)).foldl (fun (entropy : D) (count : Nat) =>
      if count > 0 then
        let p : D := (count : D) / Double.ofInt len
        entropy - p * Double.log2 p
      else entropy) 0

/-- The transitions out of each byte value: how often every other follows it. -/
def markovTransitions (data : List UInt8) : List (List Nat) :=
  (data.zip (data.drop 1)).foldl (fun trans pair =>
    trans.modify pair.1.toNat fun row => row.modify pair.2.toNat fun count => u32 (count + 1))
    (List.replicate 256 (List.replicate 256 0))

/-- `calc_markov_entropy`, of the first `len` bytes. -/
def calcMarkovEntropy (data : List UInt8) (len : Int) : D :=
  if len < 2 then 0
  else
    let data := data.take len.toNat
    let fromCount := byteHistogram data.dropLast
    ((markovTransitions data).zip fromCount).foldl (fun (entropy : D) row =>
      if row.2 > 0 then
        let h : D := row.1.foldl (fun (h : D) (count : Nat) =>
          if count > 0 then
            let p : D := (count : D) / (row.2 : D)
            h - p * Double.log2 p
          else h) 0
        entropy + (row.2 : D) / Double.ofInt (len - 1) * h
      else entropy) 0

/-- `calc_compression_ratio`, of the first `len` bytes. -/
def calcCompressionRatio (platform : Platform D) (data : List UInt8) (len : Int) : D :=
  if len = 0 then 1
  else
    match platform.compress (data.take len.toNat) with
    | none => 1
    | some compressedLen => (compressedLen : D) / Double.ofInt len

/-! ### Protocol shapes -/

/-- `memcmp` with a text, at an offset. -/
def startsWith (data : List UInt8) (offset : Nat) (text : List Nat) : Bool :=
  ((data.drop offset).take text.length).map UInt8.toNat == text

/-- `payload_looks_like_http`. -/
def payloadLooksLikeHttp (data : List UInt8) (len : Int) : Bool :=
  if len < 4 then false
  else
    startsWith data 0 [71, 69, 84, 32] ||
      (len ≥ 5 && startsWith data 0 [80, 79, 83, 84, 32]) ||
      startsWith data 0 [80, 85, 84, 32] ||
      (len ≥ 5 && startsWith data 0 [72, 69, 65, 68, 32]) ||
      startsWith data 0 [72, 84, 84, 80]

/-- `payload_looks_like_json`. -/
def payloadLooksLikeJson (data : List UInt8) (len : Int) : Bool :=
  if len < 2 then false
  else
    (byteAt data 0 == 123 || byteAt data 0 == 91) &&
      (byteAt data (len - 1).toNat == 125 || byteAt data (len - 1).toNat == 93)

/-- `payload_looks_like_xml`. -/
def payloadLooksLikeXml (data : List UInt8) (len : Int) : Bool :=
  if len < 5 then false
  else startsWith data 0 [60, 63, 120, 109, 108] || byteAt data 0 == 60

/-- `payload_looks_like_tls`. -/
def payloadLooksLikeTls (data : List UInt8) (len : Int) : Bool :=
  if len < 3 then false
  else
    (byteAt data 0 == 0x16 || byteAt data 0 == 0x17 || byteAt data 0 == 0x15) &&
      byteAt data 1 == 0x03

/-- `payload_looks_like_ssh`. -/
def payloadLooksLikeSsh (data : List UInt8) (len : Int) : Bool :=
  if len < 4 then false
  else
    startsWith data 0 [83, 83, 72, 45] ||
      (len ≥ 4 && byteAt data 0 < 200 && byteAt data 1 < 10)

/-! ### Per-packet updates -/

/-- `isalnum`. -/
def isAlnum (byte : Nat) : Bool :=
  (48 ≤ byte && byte ≤ 57) || (65 ≤ byte && byte ≤ 90) || (97 ≤ byte && byte ≤ 122)

/-- The number of bytes of `payload_first_bytes`. -/
def payloadFirstBytesSize : Nat := 256

/-- The body of the byte loop of `calc_payload_stats`. -/
def updatePayloadByte (state : PayloadState D) (byte : UInt8) : PayloadState D :=
  let value := byte.toNat
  { state with
    payloadByteHist := state.payloadByteHist.modify (value / 16) fun count => u32 (count + 1)
    payloadByteHistFull := state.payloadByteHistFull.modify value fun count => u32 (count + 1)
    payloadByteStats := runningStatsUpdate state.payloadByteStats (value : D)
    payloadPrintableCount := if 32 ≤ value ∧ value ≤ 126 then u32 (state.payloadPrintableCount + 1)
      else state.payloadPrintableCount
    payloadAlnumCount := if isAlnum value then u32 (state.payloadAlnumCount + 1)
      else state.payloadAlnumCount
    payloadFirstBytes := if state.payloadFirstBytes.length < payloadFirstBytesSize then
        state.payloadFirstBytes ++ [byte]
      else state.payloadFirstBytes }

/-- The lag-one autocorrelation of the bytes of a payload. -/
def payloadAutocorrLag1 (payload : List UInt8) : D :=
  let bytes := payload.map UInt8.toNat
  let mean := sumUint D bytes / (bytes.length : D)
  let sums := (bytes.zip (bytes.drop 1)).foldl (fun sums pair =>
    let d1 := (pair.1 : D) - mean
    let d2 := (pair.2 : D) - mean
    (sums.1 + d1 * d2, sums.2 + d1 * d1)) ((0, 0) : D × D)
  if Double.blt 0 sums.2 then sums.1 / sums.2 else 0

/-- The moduli of `payload_mod`. -/
def payloadMods : List Nat := [2, 4, 8, 16, 32, 64, 128, 256]

/-- `fabs((double)payload_len - last_payload_len)`. -/
def payloadSizeDiff (D : Type) [Double D] (payloadLen lastPayloadLen : Nat) : D :=
  Double.fabs ((payloadLen : D) - (lastPayloadLen : D))

/-- `calc_payload_stats`, of a payload of `payloadLen` bytes. -/
def calcPayloadStats (platform : Platform D) (state : PayloadState D) (payload : List UInt8)
    (payloadLen : Nat) : PayloadState D × List (Access D) :=
  if payloadLen = 0 then (state, [])
  else
    let len := toInt32 payloadLen
    let diff := payloadSizeDiff D payloadLen state.lastPayloadLen
    let updated := { state with
      payloadSizeStats := runningStatsUpdate state.payloadSizeStats (payloadLen : D)
      payloadSizeDiffStats := if state.hasLastPayloadLen then
          runningStatsUpdate state.payloadSizeDiffStats diff
        else state.payloadSizeDiffStats
      lastPayloadLen := payloadLen
      hasLastPayloadLen := true
      payloadTotalBytes := u32 (state.payloadTotalBytes + payloadLen)
      payloadNonEmptyCount := u32 (state.payloadNonEmptyCount + 1)
      payloadEntropyStats := runningStatsUpdate state.payloadEntropyStats
        (calcByteEntropy payload len)
      payloadMarkovEntropyStats := runningStatsUpdate state.payloadMarkovEntropyStats
        (calcMarkovEntropy payload len)
      payloadCompressionRatioStats := runningStatsUpdate state.payloadCompressionRatioStats
        (calcCompressionRatio platform payload len)
      payloadAutocorrLag1Stats := if payloadLen > 1 then
          runningStatsUpdate state.payloadAutocorrLag1Stats (payloadAutocorrLag1 payload)
        else state.payloadAutocorrLag1Stats
      payloadLooksLikeHttp := state.payloadLooksLikeHttp || payloadLooksLikeHttp payload len
      payloadLooksLikeJson := state.payloadLooksLikeJson || payloadLooksLikeJson payload len
      payloadLooksLikeXml := state.payloadLooksLikeXml || payloadLooksLikeXml payload len
      payloadLooksLikeTls := state.payloadLooksLikeTls || payloadLooksLikeTls payload len
      payloadLooksLikeSsh := state.payloadLooksLikeSsh || payloadLooksLikeSsh payload len }
    let updated := payload.foldl updatePayloadByte updated
    ({ updated with
      payloadMod := (updated.payloadMod.zip payloadMods).map fun entry =>
        runningStatsUpdate entry.1 ((payloadLen % entry.2 : Nat) : D) },
      [.push .payloadSizeSeq payloadLen] ++
      (if state.hasLastPayloadLen then
        [.push .payloadSizeDiffSeq (u32 (Double.truncate diff).toNat)] else []))

/-- `calc_payload_magic`, of a payload of `payloadLen` bytes. -/
def calcPayloadMagic (state : MagicState) (payload : List UInt8) (payloadLen : Nat) :
    MagicState :=
  if payloadLen < 4 then state
  else
    let tls := byteAt payload 0 == 0x16 && byteAt payload 1 == 0x03
    let version := byteAt payload 2
    { payloadMagicHttpGet := state.payloadMagicHttpGet || startsWith payload 0 [71, 69, 84, 32]
      payloadMagicHttpPost := state.payloadMagicHttpPost ||
        (payloadLen ≥ 5 && startsWith payload 0 [80, 79, 83, 84, 32])
      payloadMagicTls10 := state.payloadMagicTls10 || (tls && (version == 0x00 || version == 0x01))
      payloadMagicTls11 := state.payloadMagicTls11 || (tls && version == 0x02)
      payloadMagicTls12 := state.payloadMagicTls12 || (tls && version == 0x03)
      payloadMagicTls13 := state.payloadMagicTls13 || (tls && version == 0x04)
      payloadMagicSsh := state.payloadMagicSsh || startsWith payload 0 [83, 83, 72, 45]
      payloadMagicJpeg := state.payloadMagicJpeg ||
        (byteAt payload 0 == 0xFF && byteAt payload 1 == 0xD8)
      payloadMagicPng := state.payloadMagicPng ||
        (byteAt payload 0 == 0x89 && startsWith payload 1 [80, 78, 71])
      payloadMagicGif := state.payloadMagicGif ||
        (payloadLen ≥ 6 && startsWith payload 0 [71, 73, 70, 56] &&
          (byteAt payload 4 == 55 || byteAt payload 4 == 57) && byteAt payload 5 == 97) }

/-! ### Derived features -/

/-- The features of `enable_payload_size`. -/
def payloadSize (sizeStats diffStats : RunningStats D) (payloadSizes diffs : List Nat) :
    Output D :=
  runningStatsFeatures "payload_size" sizeStats ++
  quartileFeatures "payload_size" payloadSizes ++
  (if diffStats.count > 0 then
    runningStatsFeatures "payload_size_diff" diffStats ++
    quartileFeatures "payload_size_diff" diffs
  else [])

/-- The features of `enable_payload_content`. -/
def payloadContent (totalBytes printableCount alnumCount nonEmptyCount totalPackets : Nat) :
    Output D :=
  (if totalBytes > 0 then
    [addNumber "payload_printable_ratio" ((printableCount : D) / (totalBytes : D)),
      addNumber "payload_alnum_ratio" ((alnumCount : D) / (totalBytes : D))]
  else []) ++
  (if totalPackets > 0 then
    [addNumber "payload_non_empty_ratio" ((nonEmptyCount : D) / (totalPackets : D))]
  else [])

/-- The sum of a table of `unsigned int`, in 32 bits. -/
def sumU32 (table : List Nat) : Nat := table.foldl (fun total count => u32 (total + count)) 0

/-- The scan over the histogram that finds the three quartiles. It stops at the first value whose
cumulative count exceeds the third threshold. -/
def quartileScan (th25 th50 th75 : Nat) :
    List Nat → Nat → Nat → Option Nat → Option Nat → Nat × Nat × Nat
  | [], _, _, p25, p50 => (p25.getD 0, p50.getD 0, 0)
  | count :: rest, value, cum, p25, p50 =>
    let cum := u32 (cum + count)
    let p25 := if cum > th25 ∧ p25 = none then some value else p25
    let p50 := if cum > th50 ∧ p50 = none then some value else p50
    if cum > th75 then (p25.getD 0, p50.getD 0, value)
    else quartileScan th25 th50 th75 rest (value + 1) cum p25 p50

/-- A threshold of the quartile scan: a fraction of `byte_total - 1`, truncated. -/
def quantileThreshold (fraction : D) (byteTotal : Nat) : Nat :=
  u32 (Double.truncate (fraction * ((byteTotal - 1 : Nat) : D))).toNat

/-- `payload_byte_q1`, `payload_byte_median` and `payload_byte_q3`. -/
def byteQuartiles (histFull : List Nat) : Output D :=
  let byteTotal := sumU32 histFull
  if byteTotal > 0 then
    let quartiles := quartileScan (quantileThreshold (1 / 4 : D) byteTotal)
      (quantileThreshold (1 / 2 : D) byteTotal) (quantileThreshold (3 / 4 : D) byteTotal)
      histFull 0 0 none none
    [addNumber "payload_byte_q1" (quartiles.1 : D),
      addNumber "payload_byte_median" (quartiles.2.1 : D),
      addNumber "payload_byte_q3" (quartiles.2.2 : D)]
  else
    [addNumber "payload_byte_q1" 0, addNumber "payload_byte_median" 0,
      addNumber "payload_byte_q3" 0]

/-- The features of `enable_payload_hist`. -/
def payloadHist (hist histFull : List Nat) (byteStats : RunningStats D) : Output D :=
  let totalBytes := sumU32 hist
  ((List.range 16).map fun bin =>
    addNumber ("payload_hist_bin_" ++ toString bin)
      (if totalBytes > 0 then (hist.getD bin 0 : D) / (totalBytes : D) else 0)) ++
  runningStatsFeatures "payload_byte" byteStats ++
  byteQuartiles histFull

/-- Some magic number was found. -/
def MagicState.known (state : MagicState) : Bool :=
  state.payloadMagicHttpGet || state.payloadMagicHttpPost || state.payloadMagicTls10 ||
    state.payloadMagicTls11 || state.payloadMagicTls12 || state.payloadMagicTls13 ||
    state.payloadMagicSsh || state.payloadMagicJpeg || state.payloadMagicPng ||
    state.payloadMagicGif

/-- The entropy of a prefix of the first bytes. -/
def firstBytesEntropy (firstBytes : List UInt8) (limit : Nat) : D :=
  if firstBytes.length > 0 then
    calcByteEntropy firstBytes
      ((if firstBytes.length > limit then limit else firstBytes.length : Nat) : Int)
  else 0

/-- The features of `enable_payload_magic`. -/
def payloadMagic (magic : MagicState) (state : PayloadState D) : Output D :=
  [addNumber "payload_magic_http_get" (Double.ofBool magic.payloadMagicHttpGet),
    addNumber "payload_magic_http_post" (Double.ofBool magic.payloadMagicHttpPost),
    addNumber "payload_magic_tls_1_0" (Double.ofBool magic.payloadMagicTls10),
    addNumber "payload_magic_tls_1_1" (Double.ofBool magic.payloadMagicTls11),
    addNumber "payload_magic_tls_1_2" (Double.ofBool magic.payloadMagicTls12),
    addNumber "payload_magic_tls_1_3" (Double.ofBool magic.payloadMagicTls13),
    addNumber "payload_magic_ssh" (Double.ofBool magic.payloadMagicSsh),
    addNumber "payload_magic_jpeg" (Double.ofBool magic.payloadMagicJpeg),
    addNumber "payload_magic_png" (Double.ofBool magic.payloadMagicPng),
    addNumber "payload_magic_gif" (Double.ofBool magic.payloadMagicGif),
    addNumber "payload_magic_unknown"
      (Double.ofBool (state.payloadNonEmptyCount > 0 && !magic.known)),
    addNumber "payload_looks_like_http" (Double.ofBool state.payloadLooksLikeHttp),
    addNumber "payload_looks_like_json" (Double.ofBool state.payloadLooksLikeJson),
    addNumber "payload_looks_like_xml" (Double.ofBool state.payloadLooksLikeXml),
    addNumber "payload_looks_like_tls" (Double.ofBool state.payloadLooksLikeTls),
    addNumber "payload_looks_like_ssh" (Double.ofBool state.payloadLooksLikeSsh),
    addNumber "payload_chi_square" (calcChiSquareUniform D state.payloadByteHist),
    addNumber "payload_first_64_entropy" (firstBytesEntropy state.payloadFirstBytes 64)]

/-- The features of `enable_payload_stats`. -/
def payloadStats (state : PayloadState D) : Output D :=
  ((state.payloadMod.zip payloadMods).flatMap fun entry =>
    [addNumber ("payload_length_mod_" ++ toString entry.2 ++ "_mean") entry.1.mean,
      addNumber ("payload_length_mod_" ++ toString entry.2 ++ "_std")
        (runningStatsStd entry.1)]) ++
  [addNumber "payload_entropy" state.payloadEntropyStats.mean,
    addNumber "payload_markov_entropy" state.payloadMarkovEntropyStats.mean,
    addNumber "payload_compression_ratio" state.payloadCompressionRatioStats.mean,
    addNumber "payload_autocorrelation_lag1" state.payloadAutocorrLag1Stats.mean,
    addNumber "payload_first_128_entropy" (firstBytesEntropy state.payloadFirstBytes 128),
    addNumber "payload_first_256_entropy" (firstBytesEntropy state.payloadFirstBytes 256)]

/-- `calc_derived_payload`. -/
def calcDerivedPayload (cfg : FeatureConfig) (view : View D) : Output D :=
  let state := view.payload
  (if cfg.enablePayloadSize then
    payloadSize state.payloadSizeStats state.payloadSizeDiffStats (view.seqs .payloadSizeSeq)
      (view.seqs .payloadSizeDiffSeq) else []) ++
  (if cfg.enablePayloadContent then
    payloadContent state.payloadTotalBytes state.payloadPrintableCount state.payloadAlnumCount
      state.payloadNonEmptyCount view.counters.totalPackets else []) ++
  (if cfg.enablePayloadHist then
    payloadHist state.payloadByteHist state.payloadByteHistFull state.payloadByteStats else []) ++
  (if cfg.enablePayloadMagic then payloadMagic view.magic state else []) ++
  (if cfg.enablePayloadStats then payloadStats state else [])

end TiFeatures
