/-
This file proves that the active and the idle time of a flow add up to its
duration. Each gap between packets is counted on one side of the threshold, and
the gaps telescope to the distance of the last packet from the first.
-/

import TiFeatures.Gaps

namespace TiFeatures

variable {D : Type}

/-! ### Telescoping -/

/-- One more time adds its distance from the last one. -/
theorem gapsBy_concat (sub : Nat → Nat → Nat) {times : List Nat} {last : Nat}
    (last_eq : times.getLast? = some last) (time : Nat) :
    gapsBy sub (times ++ [time]) = gapsBy sub times ++ [sub time last] := by
  induction times using gapsBy.induct with
  | case1 first second rest inductionHypothesis =>
    rw [List.getLast?_cons_cons] at last_eq
    rw [List.cons_append, List.cons_append, gapsBy, gapsBy, List.cons_append,
      ← inductionHypothesis last_eq]
    rfl
  | case2 times short =>
    rcases times with _ | ⟨first, _ | ⟨second, rest⟩⟩
    · cases last_eq
    · obtain rfl := Option.some.inj last_eq
      rfl
    · exact absurd rfl (short first second rest)

/-- Gaps modulo `2 ^ 64` add up to the distance of the last time from the first. -/
theorem u64_sum_gapsBy {first : Nat} {rest : List Nat}
    (small : ∀ time ∈ first :: rest, time < 2 ^ 64)
    {last : Nat} (last_eq : (first :: rest).getLast? = some last) :
    u64 (gapsBy u64Sub (first :: rest)).sum = u64Sub last first := by
  induction rest using List.reverseRecOn generalizing last with
  | nil =>
    obtain rfl := Option.some.inj last_eq
    have self : u64Sub first first = 0 := by
      rw [u64Sub_of_le (le_refl _) (small _ List.mem_cons_self), Nat.sub_self]
    exact self.symm
  | append_singleton others time inductionHypothesis =>
    obtain ⟨previous, previous_eq⟩ : ∃ previous, (first :: others).getLast? = some previous :=
      ⟨_, List.getLast?_eq_some_getLast (List.cons_ne_nil _ _)⟩
    rw [← List.cons_append] at last_eq small ⊢
    rw [List.getLast?_concat] at last_eq
    obtain rfl := Option.some.inj last_eq
    have before := inductionHypothesis
      (fun other member => small other (List.mem_append_left _ member)) previous_eq
    have timeSmall := small time (List.mem_append_right _ List.mem_cons_self)
    have previousSmall := small previous
      (List.mem_append_left _ (List.mem_of_getLast? previous_eq))
    have firstSmall := small first (List.mem_append_left _ List.mem_cons_self)
    rw [gapsBy_concat u64Sub previous_eq, List.sum_append, List.sum_singleton]
    unfold u64 u64Sub at before ⊢
    omega

/-- Gaps between times in order add up to the distance of the last time from the first. -/
theorem sum_gapsBy {first : Nat} {rest : List Nat} (small : ∀ time ∈ first :: rest, time < 2 ^ 64)
    (ordered : (first :: rest).Pairwise (· ≤ ·))
    {last : Nat} (last_eq : (first :: rest).getLast? = some last) :
    (gapsBy u64Sub (first :: rest)).sum + first = last := by
  induction rest using List.reverseRecOn generalizing last with
  | nil =>
    obtain rfl := Option.some.inj last_eq
    exact Nat.zero_add _
  | append_singleton others time inductionHypothesis =>
    obtain ⟨previous, previous_eq⟩ : ∃ previous, (first :: others).getLast? = some previous :=
      ⟨_, List.getLast?_eq_some_getLast (List.cons_ne_nil _ _)⟩
    rw [← List.cons_append] at last_eq small ordered ⊢
    rw [List.getLast?_concat] at last_eq
    obtain rfl := Option.some.inj last_eq
    rw [List.pairwise_append] at ordered
    have before := inductionHypothesis
      (fun other member => small other (List.mem_append_left _ member)) ordered.1 previous_eq
    have later : previous ≤ time :=
      ordered.2.2 _ (List.mem_of_getLast? previous_eq) _ List.mem_cons_self
    rw [gapsBy_concat u64Sub previous_eq, List.sum_append, List.sum_singleton,
      u64Sub_of_le later (small time (List.mem_append_right _ List.mem_cons_self))]
    omega

/-- The values on both sides of a threshold add up to all of them. -/
theorem sum_filter_le_add_lt (threshold : Nat) (values : List Nat) :
    (values.filter fun value => value ≤ threshold).sum +
      (values.filter fun value => threshold < value).sum = values.sum := by
  induction values with
  | nil => rfl
  | cons value rest inductionHypothesis =>
    by_cases within : value ≤ threshold
    · simp only [List.filter_cons, decide_eq_true_eq, if_pos within,
        if_neg (Nat.not_lt.mpr within), List.sum_cons]
      rw [← inductionHypothesis, Nat.add_assoc]
    · simp only [List.filter_cons, decide_eq_true_eq, if_neg within,
        if_pos (Nat.lt_of_not_le within), List.sum_cons]
      rw [← inductionHypothesis, Nat.add_left_comm]

theorem sum_filter_concat (counts : Nat → Bool) (values : List Nat) (value : Nat) :
    ((values ++ [value]).filter counts).sum =
      (values.filter counts).sum + if counts value then value else 0 := by
  rw [List.filter_append, List.sum_append, List.filter_singleton]
  cases counts value <;> rfl

/-- A gap counted on one side of the threshold is added there and nowhere else. -/
theorem u64_sum_filter_concat (counts : Nat → Bool) (values : List Nat) (value : Nat) :
    (if counts value then u64 (u64 (values.filter counts).sum + value)
      else u64 (values.filter counts).sum) = u64 ((values ++ [value]).filter counts).sum := by
  rw [sum_filter_concat]
  split
  · exact u64_add_u64 _ _
  · rfl

/-! ### One packet -/

/-- The times a flow has kept: each gap is counted as active or as idle, and the first and the
last time are the start and the end of the flow. -/
structure TimesCounted (thresholdUs : Nat) (times : List Nat) (fields : Fields D) : Prop where
  active_eq : fields.iat.activeTimeUs =
    u64 ((gapsBy u64Sub times).filter fun gap => gap ≤ thresholdUs).sum
  idle_eq : fields.iat.idleTimeUs =
    u64 ((gapsBy u64Sub times).filter fun gap => thresholdUs < gap).sum
  start_eq : times.head? = some fields.clock.flowStartUs
  end_eq : times.getLast? = some fields.clock.lastPktUs
  arrival_eq : times.getLast? = some fields.iat.lastArrivalUs

section Sums

variable {thresholdUs : Nat} {times : List Nat} {fields : Fields D}

/-- The active and the idle time add up to the distance of the last time from the first. -/
theorem TimesCounted.sum_eq (counted : TimesCounted thresholdUs times fields)
    (small : ∀ time ∈ times, time < 2 ^ 64) :
    u64 (fields.iat.activeTimeUs + fields.iat.idleTimeUs) =
      u64Sub fields.clock.lastPktUs fields.clock.flowStartUs := by
  obtain ⟨active_eq, idle_eq, start_eq, end_eq, -⟩ := counted
  match times with
  | [] => cases start_eq
  | first :: rest =>
    obtain rfl := Option.some.inj start_eq
    rw [← u64_sum_gapsBy small end_eq, active_eq, idle_eq,
      ← sum_filter_le_add_lt thresholdUs (gapsBy u64Sub _)]
    exact (Nat.add_mod _ _ _).symm

/-- For times in order the sum does not wrap. -/
theorem TimesCounted.sum_eq_of_ordered (counted : TimesCounted thresholdUs times fields)
    (small : ∀ time ∈ times, time < 2 ^ 64) (ordered : times.Pairwise (· ≤ ·)) :
    fields.clock.flowStartUs + (fields.iat.activeTimeUs + fields.iat.idleTimeUs) =
      fields.clock.lastPktUs := by
  obtain ⟨active_eq, idle_eq, start_eq, end_eq, -⟩ := counted
  match times with
  | [] => cases start_eq
  | first :: rest =>
    obtain rfl := Option.some.inj start_eq
    have parts := sum_filter_le_add_lt thresholdUs
      (gapsBy u64Sub (fields.clock.flowStartUs :: rest))
    have distance := sum_gapsBy small ordered end_eq
    have endSmall := small _ (List.mem_of_getLast? end_eq)
    rw [u64_of_lt (by omega)] at active_eq idle_eq
    rw [active_eq, idle_eq, parts]
    omega

end Sums

section Steps

variable [Double D] {cfg : FeatureConfig} {times : List Nat} {fields : Fields D}

/-- A later packet counts its gap on one side of the threshold. -/
theorem TimesCounted.step (counted : TimesCounted cfg.activeIatThresholdUs times fields)
    (collected : cfg.enableIatActive = true) (positive : ∀ time ∈ times, time ≠ 0)
    (platform : Platform D) (info : PacketInfo) :
    TimesCounted cfg.activeIatThresholdUs (times ++ [info.tsUs])
      (dataFields cfg platform info fields) := by
  have later : fields.iat.lastArrivalUs ≠ 0 :=
    positive _ (List.mem_of_getLast? counted.arrival_eq)
  have concat := gapsBy_concat u64Sub counted.arrival_eq info.tsUs
  have iat_eq : (dataFields cfg platform info fields).iat = (iatCall cfg info fields.iat).1 := rfl
  rw [iatCall_later cfg info later] at iat_eq
  constructor
  · rw [iat_eq, concat, ← u64_sum_filter_concat, counted.active_eq]
    simp only [collected, Bool.true_and]
  · rw [iat_eq, concat, ← u64_sum_filter_concat, counted.idle_eq]
    simp only [collected, Bool.true_and]
  · rw [List.head?_append, counted.start_eq]
    rfl
  · rw [List.getLast?_concat]
    rfl
  · rw [List.getLast?_concat, iat_eq]

end Steps

/-! ### Flows -/

section Flows

variable [Double D] {cfg : FeatureConfig} {platform : Platform D} {streamType : StreamType}

/-- Every flow counts each of its gaps once. -/
theorem flowFields_timesCounted (collected : cfg.enableIatActive = true)
    (platform : Platform D) (first : RawPacket) (rest : List RawPacket)
    (positive : ∀ info ∈ packetInfos cfg streamType (first :: rest), info.tsUs ≠ 0) :
    TimesCounted cfg.activeIatThresholdUs
      ((packetInfos cfg streamType (first :: rest)).map PacketInfo.tsUs)
      (flowFields cfg platform streamType first rest) := by
  induction rest using List.reverseRecOn with
  | nil =>
    have iat_eq : (flowFields cfg platform streamType first []).iat =
        { (fieldsInit cfg (packetTsUs cfg first) : Fields D).iat with
          lastArrivalUs := (packetInfo cfg streamType first).tsUs } :=
      congrArg Prod.fst (iatCall_first cfg (packetInfo cfg streamType first) rfl)
    constructor
    · rw [iat_eq]
      rfl
    · rw [iat_eq]
      rfl
    · rfl
    · rfl
    · rw [iat_eq]
      rfl
  | append_singleton others packet inductionHypothesis =>
    have infos_eq : packetInfos cfg streamType (first :: (others ++ [packet])) =
        packetInfos cfg streamType (first :: others) ++ [packetInfo cfg streamType packet] := by
      rw [← List.cons_append, packetInfos, List.map_append]
      rfl
    rw [infos_eq] at positive ⊢
    have before := inductionHypothesis fun info member =>
      positive info (List.mem_append_left _ member)
    rw [flowFields, infos_eq, Mealy.run_append, List.map_append]
    refine before.step collected (List.forall_mem_map.mpr fun info member =>
      positive info (List.mem_append_left _ member)) platform _

/-- The active and the idle time of a flow are the gaps within the threshold and those above it.
They add up to the time from its first to its last packet, and to its duration if the packets come
in order. -/
theorem flowRun_activeIdle (collected : cfg.enableIatActive = true)
    {callbacks : List (Allocs × RawPacket)}
    (positive : ∀ info ∈ packetInfos cfg streamType (callbacks.map Prod.snd), info.tsUs ≠ 0)
    {flow : FlowFeatureState D}
    (run : flowRun cfg platform streamType callbacks = some flow) :
    let times := (packetInfos cfg streamType (callbacks.map Prod.snd)).map PacketInfo.tsUs
    let iat := flow.fields.iat
    let clock := flow.fields.clock
    iat.activeTimeUs =
        u64 ((gapsBy u64Sub times).filter fun gap => gap ≤ cfg.activeIatThresholdUs).sum ∧
      iat.idleTimeUs =
        u64 ((gapsBy u64Sub times).filter fun gap => cfg.activeIatThresholdUs < gap).sum ∧
      u64 (iat.activeTimeUs + iat.idleTimeUs) = u64Sub clock.lastPktUs clock.flowStartUs ∧
      (times.Pairwise (· ≤ ·) →
        iat.activeTimeUs + iat.idleTimeUs = clock.lastPktUs - clock.flowStartUs ∧
          (flowDuration flow.view.clock : D) =
            ((iat.activeTimeUs + iat.idleTimeUs : Nat) : D) / 1000000) := by
  match callbacks with
  | [] => cases run
  | first :: rest =>
    have counted := flowFields_timesCounted collected platform first.2 (rest.map Prod.snd)
      positive
    rw [← flowRun_fields run] at counted
    intro times iat clock
    have small : ∀ time ∈ times, time < 2 ^ 64 :=
      List.forall_mem_map.mpr (packetInfos_tsUs_lt cfg streamType _)
    refine ⟨counted.active_eq, counted.idle_eq, counted.sum_eq small, fun ordered => ?_⟩
    have whole : clock.flowStartUs + (iat.activeTimeUs + iat.idleTimeUs) = clock.lastPktUs :=
      counted.sum_eq_of_ordered small ordered
    have endSmall : clock.lastPktUs < 2 ^ 64 := small _ (List.mem_of_getLast? counted.end_eq)
    have duration : u64Sub clock.lastPktUs clock.flowStartUs =
        iat.activeTimeUs + iat.idleTimeUs := by
      rw [u64Sub_of_le (by omega) endSmall]
      omega
    exact ⟨by omega, congrArg (fun duration : Nat => (duration : D) / 1000000) duration⟩

/-- Three packets, with a gap on each side of the threshold. -/
theorem flowRun_activeIdle_three : ∃ flow : FlowFeatureState Float,
    flowRun defaultConfig (barePlatform Float) .tcp
        (allocated [barePacket 1 1 100, barePacket 3 1 100, barePacket 5003 1 100]) = some flow ∧
      flow.fields.iat.activeTimeUs = 2 ∧ flow.fields.iat.idleTimeUs = 5000 ∧
      u64 (flow.fields.iat.activeTimeUs + flow.fields.iat.idleTimeUs) =
        u64Sub flow.fields.clock.lastPktUs flow.fields.clock.flowStartUs ∧
      (flowDuration flow.view.clock : Float) =
        ((flow.fields.iat.activeTimeUs + flow.fields.iat.idleTimeUs : Nat) : Float) / 1000000 := by
  obtain ⟨flow, run, -⟩ := flowRun_allocated (D := Float) defaultConfig (barePlatform Float) .tcp
    (barePacket 1 1 100) [barePacket 3 1 100, barePacket 5003 1 100]
  obtain ⟨active, idle, total, inOrder⟩ := flowRun_activeIdle rfl (by decide) run
  exact ⟨flow, run, active, idle, total, (inOrder (by decide)).2⟩

end Flows

end TiFeatures
