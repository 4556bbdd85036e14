/-
This file models `feature_stats.h` and `utils/stats_utils.h`: Welford's running
statistics, the packet-size bigrams, and the quantiles, moments and entropies
computed from arrays when a flow closes.
-/

import TiFeatures.Config
import Mathlib.Data.List.Sort

namespace TiFeatures

variable {D : Type} [Double D]

/-! ### Directions -/

/-- `DIR_FWD`. -/
def dirFwd : Nat := 1

/-- `DIR_BWD`. -/
def dirBwd : Nat := 2

/-! ### Running statistics -/

/-- `running_stats_t`. -/
structure RunningStats (D : Type) where
  mean : D
  m2 : D
  m3 : D
  m4 : D
  minVal : D
  maxVal : D
  count : Nat

/-- `running_stats_init`. -/
def runningStatsInit : RunningStats D where
  mean := 0
  m2 := 0
  m3 := 0
  m4 := 0
  minVal := ((10 ^ 18 : Nat) : D)
  maxVal := -((10 ^ 18 : Nat) : D)
  count := 0

/-- `running_stats_update`. -/
def runningStatsUpdate (s : RunningStats D) (x : D) : RunningStats D :=
  let count := u64 (s.count + 1)
  let n : D := (count : D)
  let delta := x - s.mean
  let mean := s.mean + delta / n
  let delta2 := x - mean
  let delta3 := delta * delta2
  { mean
    m2 := s.m2 + delta * delta2
    m3 := s.m3 + (delta3 * delta2 - 3 * delta2 * delta2 * delta / n)
    m4 := s.m4 + (delta3 * delta2 * delta2 - 4 * delta3 * delta2 * delta / n +
      6 * delta2 * delta2 * delta2 / ((u64 (count * count) : Nat) : D))
    minVal := if Double.blt x s.minVal then x else s.minVal
    maxVal := if Double.blt s.maxVal x then x else s.maxVal
    count }

/-- `running_stats_variance`. -/
def runningStatsVariance (s : RunningStats D) : D :=
  if s.count > 1 then s.m2 / ((s.count - 1 : Nat) : D) else 0

/-- `running_stats_std`. -/
def runningStatsStd (s : RunningStats D) : D := Double.sqrt (runningStatsVariance s)

/-- `running_stats_cv`. -/
def runningStatsCv (s : RunningStats D) : D :=
  if s.mean == 0 then 0 else runningStatsStd s / s.mean

/-- `running_stats_skew`. -/
def runningStatsSkew (s : RunningStats D) : D :=
  if s.count < 3 then 0
  else
    let var := runningStatsVariance s
    if var == 0 then 0 else (s.m3 / (s.count : D)) / Double.pow var (3 / 2)

/-- `running_stats_kurt`. -/
def runningStatsKurt (s : RunningStats D) : D :=
  if s.count < 4 then 0
  else
    let var := runningStatsVariance s
    if var == 0 then 0 else (s.m4 / (s.count : D)) / (var * var) - 3

/-- `directional_running_stats_t`. -/
structure DirectionalRunningStats (D : Type) where
  fwd : RunningStats D
  bwd : RunningStats D

/-- `directional_stats_update`. -/
def directionalStatsUpdate (s : DirectionalRunningStats D) (direction : Nat) (x : D) :
    DirectionalRunningStats D :=
  if direction = dirFwd then { s with fwd := runningStatsUpdate s.fwd x }
  else if direction = dirBwd then { s with bwd := runningStatsUpdate s.bwd x }
  else s

/-! ### Bigrams -/

/-- `pkt_size_class`. -/
inductive PktSizeClass where
  | small
  | medium
  | large
  deriving DecidableEq

/-- The value of the enumerator. -/
def PktSizeClass.rank : PktSizeClass → Nat
  | .small => 0
  | .medium => 1
  | .large => 2

/-- `bigram_stats_t`. -/
structure BigramStats where
  counts : List Nat
  total : Nat
  deriving DecidableEq

/-- `bigram_init`. -/
def bigramInit : BigramStats := ⟨List.replicate 9 0, 0⟩

/-- `get_pkt_size_class`. -/
def getPktSizeClass (cfg : FeatureConfig) (len : Nat) : PktSizeClass :=
  if len ≤ cfg.smallPktThreshold then .small
  else if len ≤ cfg.largePktThreshold then .medium
  else .large

/-- `bigram_update`. -/
def bigramUpdate (b : BigramStats) (prev curr : PktSizeClass) : BigramStats :=
  let idx := prev.rank * 3 + curr.rank
  if idx < 9 then
    ⟨b.counts.set idx (u32 (b.counts.getD idx 0 + 1)), u32 (b.total + 1)⟩
  else b

/-! ### Quantiles -/

/-- The comparison `<=`. -/
def Double.ble (first second : D) : Bool := Double.blt first second || first == second

/-- The order `qsort` arranges an array of `double` in under `compare_double`. -/
def sortDouble (arr : List D) : List D := arr.insertionSort fun a b => !Double.blt b a

/-- The order `qsort` arranges an array of `unsigned int` in under `compare_uint`. -/
def sortUint (arr : List Nat) : List Nat := arr.insertionSort (· ≤ ·)

/-- `calc_median_double`, of a sorted array. -/
def calcMedianDouble (arr : List D) : D :=
  let n := arr.length
  if n == 0 then 0
  else if n == 1 then arr.getD 0 0
  else if n % 2 == 0 then (arr.getD (n / 2 - 1) 0 + arr.getD (n / 2) 0) / 2
  else arr.getD (n / 2) 0

/-- `calc_median_uint`, of a sorted array. -/
def calcMedianUint (arr : List Nat) : Nat :=
  let n := arr.length
  if n == 0 then 0
  else if n == 1 then arr.getD 0 0
  else if n % 2 == 0 then u32 (arr.getD (n / 2 - 1) 0 + arr.getD (n / 2) 0) / 2
  else arr.getD (n / 2) 0

/-- `calc_percentile_double`, of a sorted array. -/
def calcPercentileDouble (arr : List D) (p : D) : D :=
  let n := arr.length
  if n == 0 then 0
  else if n == 1 then arr.getD 0 0
  else if Double.ble p 0 then arr.getD 0 0
  else if Double.ble 100 p then arr.getD (n - 1) 0
  else
    let idx := p / 100 * ((n - 1 : Nat) : D)
    let lower := (Double.truncate idx).toNat
    let upper := lower + 1
    let frac := idx - (lower : D)
    if upper ≥ n then arr.getD (n - 1) 0
    else arr.getD lower 0 * (1 - frac) + arr.getD upper 0 * frac

/-- `calc_percentile_uint`, of a sorted array. The type of the interpolation is `D`. -/
def calcPercentileUint (D : Type) [Double D] (arr : List Nat) (p : D) : Nat :=
  let n := arr.length
  if n == 0 then 0
  else if n == 1 then arr.getD 0 0
  else if Double.ble p 0 then arr.getD 0 0
  else if Double.ble 100 p then arr.getD (n - 1) 0
  else
    let idx := p / 100 * ((n - 1 : Nat) : D)
    let lower := (Double.truncate idx).toNat
    let upper := lower + 1
    let frac := idx - (lower : D)
    if upper ≥ n then arr.getD (n - 1) 0
    else
      u32 (Double.truncate ((arr.getD lower 0 : D) * (1 - frac) +
        (arr.getD upper 0 : D) * frac)).toNat

/-- `calc_q1_double`. -/
def calcQ1Double (arr : List D) : D := calcPercentileDouble arr 25

/-- `calc_q3_double`. -/
def calcQ3Double (arr : List D) : D := calcPercentileDouble arr 75

/-- `calc_q1_uint`. -/
def calcQ1Uint (D : Type) [Double D] (arr : List Nat) : Nat := calcPercentileUint D arr 25

/-- `calc_q3_uint`. -/
def calcQ3Uint (D : Type) [Double D] (arr : List Nat) : Nat := calcPercentileUint D arr 75

/-! ### Moments, entropy and goodness of fit -/

/-- The conversion of an array of unsigned integers that `prepare_double_buffer` makes. -/
def prepareDoubleBuffer (D : Type) [Double D] (src : List Nat) : List D :=
  src.map fun value => (value : D)

theorem prepareDoubleBuffer_eq (values : List Nat) :
    prepareDoubleBuffer D values = values.map Nat.cast := by
  rw [prepareDoubleBuffer, List.map_id', bind_pure_comp]
  rfl

theorem length_prepareDoubleBuffer (values : List Nat) :
    (prepareDoubleBuffer D values).length = values.length := by
  rw [prepareDoubleBuffer_eq, List.length_map]

/-- `calc_skewness`. -/
def calcSkewness (arr : List D) (mean std : D) : D :=
  if arr.length < 3 || std == 0 then 0
  else
    arr.foldl (fun sum value =>
      let z := (value - mean) / std
      sum + z * z * z) 0 / (arr.length : D)

/-- `calc_kurtosis`. -/
def calcKurtosis (arr : List D) (mean std : D) : D :=
  if arr.length < 4 || std == 0 then 0
  else
    arr.foldl (fun sum value =>
      let z := (value - mean) / std
      sum + z * z * z * z) 0 / (arr.length : D) - 3

/-- `calc_cv`. -/
def calcCv (mean std : D) : D := if mean == 0 then 0 else std / mean

/-- `calc_shannon_entropy`. -/
def calcShannonEntropy (D : Type) [Double D] (hist : List Nat) : D :=
  let total := hist.foldl (fun total bin => u64 (total + bin)) 0
  if total == 0 then 0
  else
    hist.foldl (fun (entropy : D) (bin : Nat) =>
      if bin > 0 then
        let p : D := (bin : D) / (total : D)
        entropy - p * Double.log2 p
      else entropy) 0

/-- `calc_chi_square_uniform`. -/
def calcChiSquareUniform (D : Type) [Double D] (hist : List Nat) : D :=
  let total := hist.foldl (fun total bin => u64 (total + bin)) 0
  if total == 0 then 0
  else
    let expected : D := (total : D) / (hist.length : D)
    hist.foldl (fun (chiSq : D) (bin : Nat) =>
      let diff : D := (bin : D) - expected
      chiSq + diff * diff / expected) 0

/-! ### Sums over arrays -/

/-- The sum of an array, added up in order. -/
def sumDouble (arr : List D) : D := arr.foldl (· + ·) 0

/-- The sum of the squares of an array. -/
def sumSqDouble (arr : List D) : D := arr.foldl (fun sum value => sum + value * value) 0

/-- The sum of an array of unsigned integers, as a `double`. -/
def sumUint (D : Type) [Double D] (arr : List Nat) : D :=
  arr.foldl (fun sum value => sum + (value : D)) 0

/-- The sum of the squares of an array of `unsigned int`, each multiplied in 32 bits. -/
def sumSqUint (D : Type) [Double D] (arr : List Nat) : D :=
  arr.foldl (fun sum value => sum + ((u32 (value * value) : Nat) : D)) 0

/-- The standard deviation the code computes from a count, a sum of squares and a mean. -/
def sampleStd (count : Nat) (sumSq mean : D) : D :=
  if count > 1 then
    Double.sqrt ((sumSq - (count : D) * mean * mean) / ((count - 1 : Nat) : D))
  else 0

/-- The least value a scan finds, starting from a given one. -/
def scanMin (start : D) (arr : List D) : D :=
  arr.foldl (fun least value => if Double.blt value least then value else least) start

/-- The greatest value a scan finds, starting from a given one. -/
def scanMax (start : D) (arr : List D) : D :=
  arr.foldl (fun greatest value => if Double.blt greatest value then value else greatest) start

end TiFeatures
