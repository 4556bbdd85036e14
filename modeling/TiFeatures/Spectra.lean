/-
This file bounds the spectra of the packet lengths. The first magnitude is the sum of the
lengths and none is above it, so that it is the greatest one written, and all the others lie
between zero and it.
-/

import TiFeatures.Bounds
import TiFeatures.Entropies
import TiFeatures.FftMoments
import TiFeatures.Library.Plane

namespace TiFeatures

/-! ### Magnitudes -/

/-- The doubling reaches every length below its limit. -/
theorem le_fftSize {n : Nat} (small : n ≤ 2 ^ 32) : n ≤ fftSize n := by
  have doubled : ∀ steps, min n (2 ^ steps) ≤ (List.range steps).foldl
      (fun size _ => if size < n then size * 2 else size) 1 := by
    intro steps
    induction steps with
    | zero => exact min_le_right _ _
    | succ steps inductionHypothesis =>
      rw [List.range_succ, List.foldl_concat, pow_succ]
      split <;> omega
  have reached := doubled 32
  rwa [min_eq_left small] at reached

/-- What `fft_compute` transforms: the values as numbers, and zeros behind them. -/
noncomputable def fftInput (input : List Nat) : List ℝ :=
  prepareDoubleBuffer ℝ input ++ List.replicate (fftSize input.length - input.length) 0

theorem fftInput_nonneg (input : List Nat) : ∀ value ∈ fftInput input, 0 ≤ value := by
  rw [fftInput, prepareDoubleBuffer_eq]
  refine List.forall_mem_append.mpr ⟨List.forall_mem_map.mpr fun value _ => Nat.cast_nonneg value,
    fun value member => ?_⟩
  exact (List.eq_of_mem_replicate member).ge

theorem sum_fftInput (input : List Nat) : (fftInput input).sum = Nat.cast input.sum := by
  rw [fftInput, prepareDoubleBuffer_eq, List.sum_append, List.sum_replicate, smul_zero, add_zero,
    Nat.cast_list_sum]

theorem length_fftInput {input : List Nat} (fits : input.length ≤ fftSize input.length) :
    (fftInput input).length = fftSize input.length := by
  rw [fftInput, List.length_append, length_prepareDoubleBuffer, List.length_replicate]
  omega

/-- The angle of a bin at an index. -/
noncomputable def fftAngle (n k index : Nat) : ℝ :=
  2 * fftPi * Nat.cast k * Nat.cast index / Nat.cast n

/-- The points that a bin sums up. -/
noncomputable def fftPoints (input : List Nat) : List (Nat × ℝ × ℝ) :=
  (List.range (fftInput input).length).zip
    ((fftInput input).zip (List.replicate (fftSize input.length) 0))

/-- The points lie on the axis, at the values. -/
theorem map_fftPoints {Value : Type} (read : ℝ × ℝ → Value) {input : List Nat}
    (fits : input.length ≤ fftSize input.length) :
    ((fftPoints input).map fun entry => read entry.2) =
      (fftInput input).map fun value => read (value, 0) := by
  have zipped : (fftInput input).zip (List.replicate (fftSize input.length) (0 : ℝ)) =
      (fftInput input).map fun value => (value, 0) := by
    rw [← length_fftInput fits, ← List.map_const', ← List.map_prod_left_eq_zip]
  have points : (fftPoints input).map Prod.snd = (fftInput input).map fun value => (value, 0) := by
    rw [fftPoints, zipped, List.map_snd_zip]
    rw [List.length_map, List.length_range]
  have mapped := congrArg (List.map read) points
  rwa [List.map_map, List.map_map] at mapped

/-- The bin of an index before its length is taken. -/
noncomputable def fftBin (input : List Nat) (k : Nat) : ℝ × ℝ :=
  Plane.rotatedSum (fftAngle (fftInput input).length k) (fftPoints input) (0, 0)

theorem real_fftMagnitudes (input : List Nat) :
    fftMagnitudes input = ((List.range (fftInput input).length).take
      (fftSize input.length / 2)).map fun k => Plane.size (fftBin input k) := by
  rw [fftMagnitudes, fftButterfly, ← List.map_take, List.map_map]
  rfl

section Magnitudes

variable {input : List Nat} (fits : input.length ≤ fftSize input.length)
include fits

/-- The first bin is the sum of the values. -/
theorem fftBin_zero : fftBin input 0 = (Nat.cast input.sum, 0) := by
  have still : ∀ index, fftAngle (fftInput input).length 0 index = 0 := by
    intro index
    rw [fftAngle, Nat.cast_zero, mul_zero, zero_mul, zero_div]
  have firsts : (fftPoints input).map (fun entry => entry.2.1) = fftInput input :=
    (map_fftPoints Prod.fst fits).trans (List.map_id' _)
  have seconds : ((fftPoints input).map fun entry => entry.2.2).sum = 0 := by
    rw [map_fftPoints Prod.snd fits]
    exact List.sum_eq_zero (List.forall_mem_map.mpr fun _ _ => rfl)
  rw [fftBin, Plane.rotatedSum_still _ _ _ still, firsts, seconds, sum_fftInput, zero_add, zero_add]

/-- No bin is longer than the sum of the values. -/
theorem size_fftBin_le (k : Nat) : Plane.size (fftBin input k) ≤ Nat.cast input.sum := by
  have lengths : ((fftPoints input).map fun entry => Plane.size entry.2).sum =
      Nat.cast input.sum := by
    rw [map_fftPoints Plane.size fits, ← sum_fftInput]
    refine congrArg List.sum ((List.map_congr_left fun value member => ?_).trans (List.map_id' _))
    exact Plane.size_axis (fftInput_nonneg input value member)
  have bound := Plane.size_rotatedSum_le (fftAngle (fftInput input).length k) (fftPoints input)
    (0, 0)
  rwa [Plane.size_axis le_rfl, zero_add, lengths] at bound

theorem fftMagnitudes_mem : ∀ mag ∈ (fftMagnitudes input : List ℝ),
    mag ∈ Set.Icc (0 : ℝ) (Nat.cast input.sum) := by
  rw [real_fftMagnitudes]
  exact List.forall_mem_map.mpr fun k _ => ⟨Plane.size_nonneg _, size_fftBin_le fits k⟩

/-- The first magnitude is the sum of the values. -/
theorem sum_mem_fftMagnitudes (some : 2 ≤ input.length) :
    (Nat.cast input.sum : ℝ) ∈ (fftMagnitudes input : List ℝ) := by
  have first : 0 ∈ (List.range (fftInput input).length).take (fftSize input.length / 2) := by
    rw [length_fftInput fits, List.take_range]
    exact List.mem_range.mpr (by omega)
  rw [real_fftMagnitudes]
  refine List.mem_map.mpr ⟨0, first, ?_⟩
  rw [fftBin_zero fits, Plane.size_axis (Nat.cast_nonneg _)]

end Magnitudes

/-! ### Statistics -/

section Statistics

variable {magnitudes : List ℝ} {total : ℝ}
  (within : ∀ mag ∈ magnitudes, mag ∈ Set.Icc (0 : ℝ) total) (nonneg : 0 ≤ total)
include within nonneg

theorem getD_mem_Icc (index : Nat) : magnitudes.getD index 0 ∈ Set.Icc (0 : ℝ) total := by
  rcases lt_or_ge index magnitudes.length with inside | beyond
  · rw [List.getD_eq_getElem magnitudes 0 inside]
    exact within _ (List.getElem_mem inside)
  · rw [List.getD_eq_default magnitudes 0 beyond]
    exact ⟨le_rfl, nonneg⟩

omit within nonneg in
theorem scanMin_mem {range : Set ℝ} {start : ℝ} (inside : start ∈ range) {values : List ℝ}
    (within : ∀ value ∈ values, value ∈ range) : scanMin start values ∈ range := by
  induction values using List.reverseRecOn with
  | nil => exact inside
  | append_singleton values value inductionHypothesis =>
    obtain ⟨before, last⟩ := List.forall_mem_append.mp within
    rw [scanMin, List.foldl_concat, ← scanMin]
    split
    · exact last value (List.mem_singleton_self value)
    · exact inductionHypothesis before

theorem mean_mem_Icc : Moments.mean magnitudes ∈ Set.Icc (0 : ℝ) total := by
  rcases magnitudes.length.eq_zero_or_pos with none | some
  · rw [List.length_eq_zero_iff.mp none, Moments.mean_nil]
    exact ⟨le_rfl, nonneg⟩
  · have size : (0 : ℝ) < Nat.cast magnitudes.length := Nat.cast_pos.mpr some
    have sum_le := List.sum_le_card_nsmul _ _ fun mag member => (within mag member).2
    rw [nsmul_eq_mul] at sum_le
    refine ⟨div_nonneg (List.sum_nonneg fun mag member => (within mag member).1) size.le, ?_⟩
    rw [Moments.mean, div_le_iff₀ size, mul_comm]
    exact sum_le

/-- The statistics that are averages or values of magnitudes lie between zero and the greatest
one. -/
theorem fftComputeStatistics_mem :
    let statistics := fftComputeStatistics magnitudes
    statistics.magMean ∈ Set.Icc (0 : ℝ) total ∧ statistics.magMin ∈ Set.Icc (0 : ℝ) total ∧
      statistics.magMedian ∈ Set.Icc (0 : ℝ) total ∧ statistics.magQ1 ∈ Set.Icc (0 : ℝ) total ∧
      statistics.magQ3 ∈ Set.Icc (0 : ℝ) total := by
  have sorted : ∀ mag ∈ sortDouble magnitudes, mag ∈ Set.Icc (0 : ℝ) total :=
    fun mag member => within mag ((List.perm_insertionSort _ _).mem_iff.mp member)
  refine ⟨?_, ?_, ?_, ?_, ?_⟩
  · rw [real_magMean]
    exact mean_mem_Icc within nonneg
  · exact scanMin_mem (getD_mem_Icc within nonneg 0) within
  · exact getD_mem_Icc sorted nonneg _
  · exact getD_mem_Icc sorted nonneg _
  · exact getD_mem_Icc sorted nonneg _

/-- The greatest magnitude is found. -/
theorem magMax_eq (member : total ∈ magnitudes) :
    (fftComputeStatistics magnitudes).magMax = total := by
  obtain ⟨-, above, -⟩ := scanMax_spec (magnitudes.getD 0 0) magnitudes
  have inside := scanMax_mem (getD_mem_Icc within nonneg 0) within
  exact le_antisymm inside.2 (above total member)

/-- A rank holds a magnitude, or it is not used. -/
theorem fftGetTopK_mem (k rank : Nat) :
    ((fftGetTopK magnitudes k).getD rank (0, 0)).2 ∈ insert (-1 : ℝ) (Set.Icc (0 : ℝ) total) := by
  have entries : ∀ entry ∈ fftGetTopK magnitudes k,
      entry.2 ∈ insert (-1 : ℝ) (Set.Icc (0 : ℝ) total) := by
    intro entry member
    rcases le_or_gt magnitudes.length 1 with few | many
    · rw [fftGetTopK, if_pos few] at member
      rw [List.eq_of_mem_replicate member]
      exact .inr ⟨le_rfl, nonneg⟩
    · rw [fftGetTopK_eq (fun mag member => (within mag member).1) many] at member
      rcases List.mem_append.mp member with chosen | unused
      · obtain ⟨index, -, rfl⟩ := List.mem_map.mp chosen
        exact .inr (getD_mem_Icc within nonneg index)
      · rw [List.eq_of_mem_replicate unused]
        exact .inl rfl
  rcases lt_or_ge rank (fftGetTopK magnitudes k).length with inside | beyond
  · rw [List.getD_eq_getElem _ _ inside]
    exact entries _ (List.getElem_mem inside)
  · rw [List.getD_eq_default _ _ beyond]
    exact .inr ⟨le_rfl, nonneg⟩

end Statistics

/-! ### Objects -/

/-- The spectra that an object may have: of all packets, or of those of a direction. -/
inductive Spectrum where
  | all | fwd | bwd

namespace Spectrum

def name : Spectrum → String
  | all => "all"
  | fwd => "fwd"
  | bwd => "bwd"

def group : Spectrum → Group
  | all => .fftGlobal
  | fwd => .fftFwd
  | bwd => .fftBwd

/-- The packet lengths that are transformed. -/
def lengths (view : View ℝ) : Spectrum → List Nat
  | all => view.seqs .pktLenSeq
  | fwd => view.arrays .fwdPktLens
  | bwd => view.arrays .bwdPktLens

variable {cfg : FeatureConfig} {platform : Platform ℝ} {view : View ℝ}

/-- The keys of a spectrum belong to its group. -/
theorem fftKeys_subset (spectrum : Spectrum) : fftKeys spectrum.name ⊆ spectrum.group.keys := by
  intro key member
  rw [← Group.keys_eq (D := ℝ)]
  cases spectrum with
  | all => exact List.mem_flatMap.mpr ⟨_, .head _, List.mem_append_left _ member⟩
  | fwd => exact List.mem_flatMap.mpr ⟨_, .head _, member⟩
  | bwd => exact List.mem_flatMap.mpr ⟨_, .head _, member⟩

/-- A group that writes something has at least two lengths. -/
theorem two_le_length (spectrum : Spectrum) {item : String × Json ℝ}
    (member : item ∈ spectrum.group.features cfg platform view) :
    2 ≤ (spectrum.lengths view).length := by
  by_contra few
  have less : (spectrum.lengths view).length < 2 := not_le.mp few
  have nothing : spectrum.group.features cfg platform view = [] := by
    cases spectrum with
    | all => exact if_pos less
    | fwd => exact if_pos less
    | bwd => exact if_pos less
  rw [nothing] at member
  cases member

/-- The group writes the result of the transform. -/
theorem result_subset (spectrum : Spectrum) (some : 2 ≤ (spectrum.lengths view).length) :
    outputFftResult spectrum.name (fftMagnitudes (spectrum.lengths view)) ⊆
      spectrum.group.features cfg platform view := by
  have many := not_lt.mpr some
  intro item member
  cases spectrum with
  | all =>
    have features_eq : Group.fftGlobal.features cfg platform view =
        outputFftResult "all" (fftMagnitudes (view.seqs .pktLenSeq)) ++
          [addNumber "psd_peak" (fftComputePsdPeak (fftMagnitudes (view.seqs .pktLenSeq)))] :=
      if_neg many
    exact features_eq ▸ List.mem_append_left _ member
  | fwd =>
    have features_eq : Group.fftFwd.features cfg platform view =
        outputFftResult "fwd" (fftMagnitudes (view.arrays .fwdPktLens)) := if_neg many
    exact features_eq ▸ member
  | bwd =>
    have features_eq : Group.fftBwd.features cfg platform view =
        outputFftResult "bwd" (fftMagnitudes (view.arrays .bwdPktLens)) := if_neg many
    exact features_eq ▸ member

end Spectrum

/-- What a flow stores fits the sizes that the transform doubles up to. -/
theorem flowRun_lengths_fit {cfg : FeatureConfig} {platform : Platform ℝ}
    {streamType : StreamType} {callbacks : List (Allocs × RawPacket)} {flow : FlowFeatureState ℝ}
    (run : flowRun cfg platform streamType callbacks = some flow) (spectrum : Spectrum) :
    (spectrum.lengths flow.view).length ≤ 2 ^ 32 := by
  have wellFormed := (flowRun_reachable run).wellFormed
  have bounds := wellFormed.withinBounds
  have small : flow.store.memPool.actualSeqLen ≤ 2 ^ 32 := by
    rw [wellFormed.store.pool.seqLen_eq]
    exact (flowMemLevelToSeqLen_le _).trans (by norm_num)
  have array_le : ∀ array, (flow.store.dirValues array).length ≤ 2 ^ 32 := by
    intro array
    rw [Store.dirValues, Store.length_values]
    exact ((bounds.dirCount_le array).trans_eq (bounds.dirCapacity_eq array)).trans small
  cases spectrum with
  | all =>
    show (flow.store.seqValues .pktLenSeq).length ≤ 2 ^ 32
    rw [wellFormed.store.seqValues_eq, List.length_map, CircularBuffer.length_contents]
    exact ((bounds.ring_count _).trans_eq (bounds.ring_capacity _)).trans small
  | fwd => exact array_le .fwdPktLens
  | bwd => exact array_le .bwdPktLens

/-- The spectrum of an object: its greatest magnitude is the total, the averages and quantiles lie
between zero and it, and so do the magnitudes of the ranks that are used. -/
structure Spectrum.Bounded (spectrum : Spectrum) (output : Output ℝ) (total : ℝ) : Prop where
  greatest : ∀ value, (spectrum.name ++ "_fft_magnitude_max", value) ∈ output →
    value = .num total
  between : ∀ suffix ∈ ["_fft_magnitude_mean", "_fft_magnitude_min", "_fft_magnitude_median",
      "_fft_magnitude_q1", "_fft_magnitude_q3"],
    ∀ value, (spectrum.name ++ suffix, value) ∈ output →
      ∃ mag ∈ Set.Icc (0 : ℝ) total, value = .num mag
  ranked : ∀ rank < 5, ∀ value,
    (spectrum.name ++ "_fft_mag_" ++ toString rank, value) ∈ output →
      ∃ mag ∈ insert (-1 : ℝ) (Set.Icc (0 : ℝ) total), value = .num mag

section Objects

variable {cfg : FeatureConfig} {platform : Platform ℝ} {streamType : StreamType}
  {packet : RawPacket} {view : View ℝ} {spectrum : Spectrum}

/-- What is written under a key of a spectrum is what the transform has there. -/
theorem Spectrum.value_eq {key : String} (own : key ∈ fftKeys spectrum.name) {value : Json ℝ}
    (written : (key, value) ∈ flowStateComputeFeatures cfg platform streamType packet view) :
    2 ≤ (spectrum.lengths view).length ∧ ∀ known,
      addNumber key known ∈
        outputFftResult spectrum.name (fftMagnitudes (spectrum.lengths view)) →
        value = .num known := by
  obtain ⟨-, member⟩ :=
    (Group.mem_flowStateComputeFeatures (spectrum.fftKeys_subset own)).mp written
  have some := spectrum.two_le_length member
  exact ⟨some, fun known result =>
    Group.value_unique member (spectrum.result_subset some result)⟩

theorem suffix_mem_fftKeys {name suffix : String}
    (member : suffix ∈ ["_fft_magnitude_mean", "_fft_magnitude_std", "_fft_magnitude_min",
      "_fft_magnitude_max", "_fft_magnitude_median", "_fft_magnitude_q1", "_fft_magnitude_q3",
      "_fft_magnitude_skew", "_fft_magnitude_kurt"]) : name ++ suffix ∈ fftKeys name :=
  List.mem_append_right _ (List.mem_map_of_mem member)

theorem rank_mem_fftKeys {name : String} {rank : Nat} (within : rank < 5) :
    name ++ "_fft_mag_" ++ toString rank ∈ fftKeys name :=
  List.mem_append_left _ (List.mem_flatMap.mpr
    ⟨rank, List.mem_range.mpr within, .tail _ (.head _)⟩)

/-- The spectra of an object are bounded by the totals of the lengths. -/
theorem flowStateComputeFeatures_bounded (fits : (spectrum.lengths view).length ≤ 2 ^ 32) :
    spectrum.Bounded (flowStateComputeFeatures cfg platform streamType packet view)
      (Nat.cast (spectrum.lengths view).sum) := by
  have within := fftMagnitudes_mem (le_fftSize fits)
  have nonneg : (0 : ℝ) ≤ Nat.cast (spectrum.lengths view).sum := Nat.cast_nonneg _
  obtain ⟨mean, least, median, q1, q3⟩ := fftComputeStatistics_mem within nonneg
  refine ⟨fun value written => ?_, fun suffix member value written => ?_,
    fun rank small value written => ?_⟩
  · obtain ⟨some, unique⟩ := Spectrum.value_eq (suffix_mem_fftKeys (by decide)) written
    rw [← magMax_eq within nonneg (sum_mem_fftMagnitudes (le_fftSize fits) some)]
    exact unique _ (List.mem_append_right _ (List.mem_of_getElem? (i := 3) rfl))
  · have statistics : ["_fft_magnitude_mean", "_fft_magnitude_min", "_fft_magnitude_median",
        "_fft_magnitude_q1", "_fft_magnitude_q3"] ⊆
          ["_fft_magnitude_mean", "_fft_magnitude_std", "_fft_magnitude_min",
            "_fft_magnitude_max", "_fft_magnitude_median", "_fft_magnitude_q1",
            "_fft_magnitude_q3", "_fft_magnitude_skew", "_fft_magnitude_kurt"] := by
      decide
    obtain ⟨-, unique⟩ := Spectrum.value_eq (suffix_mem_fftKeys (statistics member)) written
    have result : ∀ (index : Nat) {item : String × Json ℝ}, ((outputFftResult spectrum.name
        (fftMagnitudes (spectrum.lengths view))).drop 10)[index]? = some item →
          item ∈ outputFftResult spectrum.name (fftMagnitudes (spectrum.lengths view)) :=
      fun index _ found => List.mem_of_mem_drop (List.mem_of_getElem? found)
    simp only [List.mem_cons, List.not_mem_nil, or_false] at member
    rcases member with rfl | rfl | rfl | rfl | rfl
    · exact ⟨_, mean, unique _ (result 0 rfl)⟩
    · exact ⟨_, least, unique _ (result 2 rfl)⟩
    · exact ⟨_, median, unique _ (result 4 rfl)⟩
    · exact ⟨_, q1, unique _ (result 5 rfl)⟩
    · exact ⟨_, q3, unique _ (result 6 rfl)⟩
  · obtain ⟨-, unique⟩ := Spectrum.value_eq (rank_mem_fftKeys small) written
    refine ⟨_, fftGetTopK_mem within nonneg 5 rank, unique _ ?_⟩
    exact List.mem_append_left _ (List.mem_flatMap.mpr
      ⟨rank, List.mem_range.mpr small, .tail _ (.head _)⟩)

/-- Every spectrum in the object of a flow is bounded by the total of the lengths that the flow
stores for it, which is the greatest magnitude. -/
theorem flowOutput_spectra {callbacks : List (Allocs × RawPacket)} {closing : Allocs × RawPacket}
    {output : Output ℝ}
    (closed : flowOutput cfg platform streamType callbacks closing = some output) :
    ∃ flow, flowRun cfg platform streamType callbacks = some flow ∧ ∀ spectrum : Spectrum,
      spectrum.Bounded output (Nat.cast (spectrum.lengths flow.view).sum) := by
  rw [flowOutput_eq] at closed
  obtain ⟨flow, run, rfl⟩ := Option.map_eq_some_iff.mp closed
  exact ⟨flow, run, fun spectrum =>
    flowStateComputeFeatures_bounded (flowRun_lengths_fit run spectrum)⟩

/-- Two packets of 100 and 200 bytes. -/
theorem flowOutput_spectra_two : ∃ output : Output ℝ,
    flowOutput defaultConfig (barePlatform ℝ) .tcp
      (allocated [barePacket 1 1 100, barePacket 2 1 200]) (.succeed, barePacket 3 1 0) =
        some output ∧
      addNumber "fwd_fft_magnitude_max" (Nat.cast 300) ∈ output := by
  obtain ⟨state, run, -⟩ := flowRun_allocated (D := ℝ) defaultConfig (barePlatform ℝ) .tcp
    (barePacket 1 1 100) [barePacket 2 1 200]
  have closed := flowOutput_eq defaultConfig (barePlatform ℝ) .tcp
    (allocated [barePacket 1 1 100, barePacket 2 1 200]) (.succeed, barePacket 3 1 0)
  rw [run] at closed
  obtain ⟨flow, again, bounded⟩ := flowOutput_spectra closed
  obtain rfl : state = flow := Option.some.inj (run.symm.trans again)
  have stored : state.view.arrays .fwdPktLens = [100, 200] := by
    have view_eq := flowRun_view (D := ℝ) defaultConfig (barePlatform ℝ) .tcp (barePacket 1 1 100)
      [barePacket 2 1 200]
    rw [run] at view_eq
    rw [Option.some.inj view_eq]
    refine (closingView_pktLens defaultConfig (barePlatform ℝ) .tcp _ _ rfl .fwd).trans ?_
    decide
  have some : 2 ≤ (Spectrum.fwd.lengths state.view).length := by
    rw [Spectrum.lengths, stored]
    exact le_rfl
  have written : ("fwd_fft_magnitude_max", Json.num (fftComputeStatistics
      (fftMagnitudes (Spectrum.fwd.lengths state.view))).magMax) ∈
        flowStateComputeFeatures defaultConfig (barePlatform ℝ) .tcp (barePacket 3 1 0)
          state.view :=
    (Group.mem_flowStateComputeFeatures (Spectrum.fwd.fftKeys_subset
      (suffix_mem_fftKeys (by decide)))).mpr ⟨rfl, Spectrum.fwd.result_subset some
        (List.mem_append_right _ (List.mem_of_getElem? (i := 3) rfl))⟩
  refine ⟨_, closed, ?_⟩
  have total := (bounded .fwd).greatest _ written
  rw [total, Spectrum.lengths, stored] at written
  exact written

end Objects

end TiFeatures
