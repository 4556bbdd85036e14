/-
This file models `utils/fft.cpp` and `calc_freq_domain.cpp`: the discrete
Fourier transform of the packet lengths and the features derived from its
magnitudes.
-/

import TiFeatures.State

namespace TiFeatures

variable {D : Type} [Double D]

/-! ### The transform -/

/-- `PI`. -/
def fftPi : D := 314159265358979323846 / 100000000000000000000

/-- The least power of two that is at least `n`, found by doubling. -/
def fftSize (n : Nat) : Nat :=
  (List.range 32).foldl (fun size _ => if size < n then size * 2 else size) 1

/-- One output of `fft_butterfly`. -/
def fftOutput (real imag : List D) (k : Nat) : D × D :=
  let n := real.length
  ((List.range n).zip (real.zip imag)).foldl (fun sums entry =>
    let angle : D := 2 * fftPi * (k : D) * (entry.1 : D) / (n : D)
    (sums.1 + (entry.2.1 * Double.cos angle + entry.2.2 * Double.sin angle),
      sums.2 + (entry.2.2 * Double.cos angle - entry.2.1 * Double.sin angle))) (0, 0)

/-- `fft_butterfly`. -/
def fftButterfly (real imag : List D) : List (D × D) :=
  (List.range real.length).map (fftOutput real imag)

/-- The magnitudes `fft_compute` stores, for an input of at least two values. -/
def fftMagnitudes (input : List Nat) : List D :=
  let size := fftSize input.length
  let real := prepareDoubleBuffer D input ++ List.replicate (size - input.length) 0
  let imag := List.replicate size 0
  ((fftButterfly real imag).take (size / 2)).map fun bin =>
    Double.sqrt (bin.1 * bin.1 + bin.2 * bin.2)

/-! ### Statistics -/

/-- The statistics of `fft_result_t`. -/
structure FftStatistics (D : Type) where
  magMean : D
  magStd : D
  magMin : D
  magMax : D
  magMedian : D
  magQ1 : D
  magQ3 : D
  magSkew : D
  magKurt : D

/-- `fft_compute_statistics`. -/
def fftComputeStatistics (magnitudes : List D) : FftStatistics D :=
  let count := magnitudes.length
  let n : D := (count : D)
  let first := magnitudes.getD 0 0
  let sorted := sortDouble magnitudes
  let sum := sumDouble magnitudes
  let sumSq := sumSqDouble magnitudes
  let sumCube := magnitudes.foldl (fun (sum : D) v => sum + v * v * v) 0
  let sumQuad := magnitudes.foldl (fun (sum : D) v => sum + v * v * v * v) 0
  let mean := sum / n
  let variance := if count > 1 then (sumSq - n * mean * mean) / ((count - 1 : Nat) : D) else 0
  let variance := if Double.blt variance 0 then 0 else variance
  let std := Double.sqrt variance
  let m3 := sumCube / n - 3 * mean * sumSq / n + 2 * mean * mean * mean
  let m4 := sumQuad / n - 4 * mean * sumCube / n + 6 * mean * mean * sumSq / n -
    3 * mean * mean * mean * mean
  { magMean := mean
    magStd := std
    magMin := scanMin first magnitudes
    magMax := scanMax first magnitudes
    magMedian := sorted.getD (count / 2) 0
    magQ1 := sorted.getD (count / 4) 0
    magQ3 := sorted.getD (3 * count / 4) 0
    magSkew := if Double.blt 0 std then m3 / (std * std * std) else 0
    magKurt := if Double.blt 0 variance then m4 / (variance * variance) - 3 else 0 }

/-- The insertion of a magnitude into the list of the largest found so far. -/
def insertTopK (index : Int) (mag : D) : List (Int × D) → List (Int × D)
  | [] => []
  | entry :: rest =>
    if Double.blt entry.2 mag then (index, mag) :: (entry :: rest).dropLast
    else entry :: insertTopK index mag rest

/-- `fft_get_top_k`: the entries of the result after the call. With one magnitude the function
fails and the entries keep the zeros they were cleared to. -/
def fftGetTopK (magnitudes : List D) (k : Nat) : List (Int × D) :=
  if magnitudes.length ≤ 1 then List.replicate k (0, 0)
  else
    ((List.range magnitudes.length).zip magnitudes).tail.foldl
      (fun top entry => insertTopK entry.1 entry.2 top) (List.replicate k (-1, -1))

/-- `fft_compute_psd_peak`. -/
def fftComputePsdPeak (magnitudes : List D) : D :=
  if magnitudes.length ≤ 1 then 0
  else scanMax 0 (magnitudes.tail.map fun mag => mag * mag)

/-! ### Derived features -/

/-- `output_fft_result`, without the peak of the power spectral density. -/
def outputFftResult (name : String) (magnitudes : List D) : Output D :=
  let topK := fftGetTopK magnitudes 5
  let statistics := fftComputeStatistics magnitudes
  ((List.range 5).flatMap fun i =>
    let entry := topK.getD i (0, 0)
    [addNumber (name ++ "_fft_freq_" ++ toString i ++ "_idx") (Double.ofInt entry.1),
      addNumber (name ++ "_fft_mag_" ++ toString i) entry.2]) ++
  [addNumber (name ++ "_fft_magnitude_mean") statistics.magMean,
    addNumber (name ++ "_fft_magnitude_std") statistics.magStd,
    addNumber (name ++ "_fft_magnitude_min") statistics.magMin,
    addNumber (name ++ "_fft_magnitude_max") statistics.magMax,
    addNumber (name ++ "_fft_magnitude_median") statistics.magMedian,
    addNumber (name ++ "_fft_magnitude_q1") statistics.magQ1,
    addNumber (name ++ "_fft_magnitude_q3") statistics.magQ3,
    addNumber (name ++ "_fft_magnitude_skew") statistics.magSkew,
    addNumber (name ++ "_fft_magnitude_kurt") statistics.magKurt]

/-- The features of `enable_fft_global`: `calc_fft_all`, then its result. -/
def fftGlobal (lens : List Nat) : Output D :=
  if lens.length < 2 then []
  else
    let magnitudes : List D := fftMagnitudes lens
    outputFftResult "all" magnitudes ++ [addNumber "psd_peak" (fftComputePsdPeak magnitudes)]

/-- The features of `enable_fft_fwd` and of `enable_fft_bwd`: `calc_fft_fwd` or `calc_fft_bwd`,
then its result. -/
def fftDir (dir : String) (pktLens : List Nat) : Output D :=
  if pktLens.length < 2 then [] else outputFftResult dir (fftMagnitudes pktLens)

/-- `calc_derived_fft`. -/
def calcDerivedFft (cfg : FeatureConfig) (view : View D) : Output D :=
  (if cfg.enableFftGlobal then fftGlobal (view.seqs .pktLenSeq) else []) ++
  (if cfg.enableFftFwd then fftDir "fwd" (view.arrays .fwdPktLens) else []) ++
  (if cfg.enableFftBwd then fftDir "bwd" (view.arrays .bwdPktLens) else [])

end TiFeatures
