/-
This file is about the compound flags, which keep what no feature needs from being
collected. What is written when a flow closes is what would be written if everything
were collected, and with the masters on no flag is set without need.
-/

import TiFeatures.Independence
import TiFeatures.Masters

namespace TiFeatures

variable {D : Type}

/-! ### Flags -/

/-- The compound flag that a gate tests, if it tests one. -/
def Gate.flag (needs : Needs) : Gate → Option Bool
  | .pktLenSeq => some needs.needPktLenSeq
  | .dirSeq => some needs.needDirSeq
  | .tsSeq => some needs.needTsSeq
  | .layerSeqs => some needs.needL3L4PayloadSeq
  | .fwdBwdPktLens => some needs.needFwdBwdPktLens
  | .firstN => some needs.needFirstN
  | .payloadDir => some needs.needPayloadDir
  | .fwdBwdIats => some needs.needFwdBwdIats
  | .window => some needs.needWindowUpdate
  | .iatSeq => some needs.needIatSeq
  | _ => none

/-- A flag is set for all that the groups that are on read. -/
def Needs.Enough (needs : Needs) (switches : Switches) : Prop :=
  ∀ group : Group, group.on switches = true → ∀ gate ∈ group.gates, ¬ gate.flag needs = some false

/-- The configuration that reads the given switches but has other flags. -/
def flagged (thresholds : Thresholds) (switches : Switches) (needs : Needs) : FeatureConfig :=
  { featConfigRead thresholds switches with toNeeds := needs }

variable {thresholds : Thresholds} {switches : Switches}

/-- A gate that tests a flag is open if the flag is set, and another tests the switches. -/
theorem Gate.on_flagged (needs : Needs) (gate : Gate) :
    gate.on (flagged thresholds switches needs) =
      (gate.flag needs).getD (gate.on (featConfigRead thresholds switches)) := by
  cases gate <;> rfl

/-- The flags that are computed are enough. -/
theorem compoundFlags_enough (switches : Switches) : (compoundFlags switches).Enough switches := by
  intro group on
  cases group <;> simp_all [Group.gates, Group.on, Gate.flag, compoundFlags]

/-- Two sets of flags that are enough open the same gates for a group that is on. -/
theorem Needs.Enough.gates_eq {needs : Needs} (enough : needs.Enough switches) {group : Group}
    (on : group.on switches = true) :
    ∀ gate ∈ group.gates, gate.on (flagged thresholds switches needs) =
      gate.on (featConfigRead thresholds switches) := by
  intro gate member
  have set := enough group on gate member
  have computed := compoundFlags_enough switches group on gate member
  have same : featConfigRead thresholds switches =
      flagged thresholds switches (compoundFlags switches) := rfl
  rw [same, Gate.on_flagged, Gate.on_flagged]
  cases gate <;> simp_all [Gate.flag]

/-- With the masters on, a flag is computed to be set only if a group that is on reads behind it. -/
theorem exists_reader (masters : ∀ master : Master, master.on switches = true) {gate : Gate}
    (set : gate.flag (compoundFlags switches) = some true) :
    ∃ group : Group, group.on switches = true ∧ gate ∈ group.gates := by
  have basic := masters .basic
  have iat := masters .iat
  have sequence := masters .sequence
  have fft := masters .fft
  have window := masters .window
  have behavior := masters .behavior
  by_contra unread
  have off : ∀ group ∈ groupOrder, gate ∈ group.gates → group.on switches = false :=
    fun group _ inside => Bool.eq_false_of_not_eq_true fun on => unread ⟨group, on, inside⟩
  clear unread masters
  simp only [groupOrder, List.forall_mem_cons] at off
  cases gate <;> simp_all [Group.gates, Group.on, Gate.flag, compoundFlags, Master.on]

/-! ### Closing flows -/

section Flows

variable [Double D]

/-- Two flows that agree under configurations that differ in their flags are written alike. -/
theorem FlowFeatureState.Agree.output_eq {needs : Needs} (enough : needs.Enough switches)
    {first second : FlowFeatureState D}
    (agree : first.Agree (flagged thresholds switches needs) (featConfigRead thresholds switches)
      second) (platform : Platform D) (streamType : StreamType) (packet : RawPacket) :
    flowStateComputeFeatures (flagged thresholds switches needs) platform streamType packet
        first.view =
      flowStateComputeFeatures (featConfigRead thresholds switches) platform streamType packet
        second.view := by
  have emitted : ∀ group : Group,
      group.emitted (flagged thresholds switches needs) platform first.view =
        group.emitted (featConfigRead thresholds switches) platform second.view := by
    intro group
    show (if group.on switches then _ else []) = if group.on switches then _ else []
    by_cases on : group.on switches = true
    · rw [if_pos on, if_pos on]
      exact Group.features_eq (agree.sameReads (enough.gates_eq on))
    · rw [if_neg on, if_neg on]
  have counters_eq : first.view.counters = second.view.counters := agree.fields.counters
  have tcp_eq : first.view.tcp = second.view.tcp := agree.fields.tcp rfl
  rw [flowStateComputeFeatures_eq, flowStateComputeFeatures_eq, funext emitted, counters_eq,
    tcp_eq]

/-- The compound flags are an optimisation: whatever flags are set, as long as those of all that
the groups that are on read are among them, a flow is written as it is with the computed flags,
after any packets and whichever of its own allocations fail. The computed flags are enough, and
with the masters on each of them has a group that is on and reads behind it. -/
theorem flowOutput_compoundFlags (thresholds : Thresholds) (switches : Switches) :
    (∀ needs : Needs, needs.Enough switches →
      ∀ (platform : Platform D) (streamType : StreamType) (callbacks : List (Allocs × RawPacket))
        (closing : Allocs × RawPacket),
        flowOutput (flagged thresholds switches needs) platform streamType callbacks closing =
          flowOutput (featConfigRead thresholds switches) platform streamType callbacks
            closing) ∧
      (compoundFlags switches).Enough switches ∧
      ((∀ master : Master, master.on switches = true) → ∀ gate : Gate,
        gate.flag (compoundFlags switches) = some true →
          ∃ group : Group, group.on switches = true ∧ gate ∈ group.gates) := by
  refine ⟨fun needs enough platform streamType callbacks closing => ?_,
    compoundFlags_enough switches, fun masters gate => exists_reader masters⟩
  have thresholds_eq : (flagged thresholds switches needs).toThresholds =
      (featConfigRead thresholds switches).toThresholds := rfl
  have agree := flowRun_agree thresholds_eq platform streamType callbacks
  rw [flowOutput_eq, flowOutput_eq]
  revert agree
  generalize flowRun (flagged thresholds switches needs) platform streamType callbacks = run
  generalize flowRun (featConfigRead thresholds switches) platform streamType callbacks = other
  rintro (agree | -)
  · exact congrArg some (agree.output_eq enough platform streamType closing.2)
  · rfl

/-- With all masters off but that of the windows, the flag of the windows is enough: two packets
are written as they are if everything is collected. -/
theorem flowOutput_compoundFlags_windows :
    let switches := { defaultSwitches with
      enableBasic := false, enableIat := false, enableProtocol := false, enablePayload := false,
      enableSequence := false, enableFft := false, enableBurst := false }
    let window : Needs :=
      ⟨false, false, false, false, false, false, false, false, true, false⟩
    let packets := allocated [barePacket 1 1 100, barePacket 5 2 7]
    flowOutput (flagged defaultThresholds switches window) (barePlatform Float) .udp packets
        (Allocs.succeed, barePacket 6 1 0) =
      flowOutput (featConfigRead defaultThresholds switches) (barePlatform Float) .udp packets
        (Allocs.succeed, barePacket 6 1 0) := by
  intro switches window packets
  refine (flowOutput_compoundFlags defaultThresholds switches).1 window (fun group on => ?_) _ _ _ _
  revert on
  cases group <;> decide

end Flows

end TiFeatures
