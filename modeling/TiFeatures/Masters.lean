/-
This file settles what a master switch that is off keeps out of a flow. The
output ignores the sub-switches of such a master, but most of the collection is
gated by the sub-switches alone, so what they collect stays in the state.
-/

import TiFeatures.Collection
import TiFeatures.Groups

namespace TiFeatures

open BoundedStore

variable {D : Type} [Double D]

/-! ### Master switches -/

/-- The master switches. -/
inductive Master where
  | basic
  | iat
  | protocol
  | payload
  | sequence
  | fft
  | window
  | behavior
  deriving DecidableEq

/-- A master switch is on. -/
def Master.on (switches : Switches) : Master → Bool
  | .basic => switches.enableBasic
  | .iat => switches.enableIat
  | .protocol => switches.enableProtocol
  | .payload => switches.enablePayload
  | .sequence => switches.enableSequence
  | .fft => switches.enableFft
  | .window => switches.enableWindow
  | .behavior => switches.enableBehavior

/-- The switches with the sub-switches of a master turned off. -/
def Master.clear (switches : Switches) : Master → Switches
  | .basic => { switches with
      enableBasicRatios := false
      enableBasicPayloadDir := false
      enableBasicFirstN := false
      enableBasicPktLength := false }
  | .iat => { switches with
      enableIatStats := false
      enableIatFwdBwd := false
      enableIatActive := false
      enableIatResponse := false }
  | .protocol => { switches with
      enableProtocolTcpFlags := false
      enableProtocolTcpWindow := false
      enableProtocolIp := false
      enableProtocolUdp := false
      enableProtocolPort := false }
  | .payload => { switches with
      enablePayloadSize := false
      enablePayloadContent := false
      enablePayloadHist := false
      enablePayloadMagic := false
      enablePayloadStats := false }
  | .sequence => { switches with
      enableSequenceStats := false
      enableRawSequences := false
      enableChunkSequences := false
      enableRateSequences := false }
  | .fft => { switches with
      enableFftGlobal := false
      enableFftFwd := false
      enableFftBwd := false }
  | .window => { switches with
      enableWindowPkt := false
      enableWindowByte := false }
  | .behavior => { switches with
      enableBehaviorBasic := false
      enableBehaviorPattern := false
      enableBehaviorBitrate := false }

/-- The sub-switches of a master collect nothing that is not collected without them. -/
def Master.Idle (windowSizeMs : Nat) (switches : Switches) : Master → Prop
  | .basic => switches.enableBasicPktLength = false
  | .iat => switches.enableIatStats = false ∧ switches.enableIatActive = false ∧
      switches.enableIatResponse = false
  | .protocol => switches.enableProtocolTcpFlags = false ∧
      switches.enableProtocolTcpWindow = false ∧ switches.enableProtocolIp = false ∧
      switches.enableProtocolUdp = false ∧ switches.enableProtocolPort = false
  | .payload => switches.enablePayloadMagic = false ∧ switches.enablePayloadStats = false
  | .sequence => switches.enableSequenceStats = false ∧ switches.enableRawSequences = false ∧
      switches.enableChunkSequences = false ∧ switches.enableRateSequences = false
  | .fft =>
      (switches.enableFftGlobal = false ∨ switches.enableSequenceStats = true ∨
        switches.enableRawSequences = true ∨ switches.enableChunkSequences = true ∨
        switches.enableRateSequences = true) ∧
      (switches.enableFftFwd = false ∧ switches.enableFftBwd = false ∨
        switches.enableBasicPktLength = true)
  | .window => switches.enableWindowPkt = false ∧ switches.enableWindowByte = false ∨
      switches.enableBehaviorPattern = true ∨ switches.enableBehaviorBitrate = true ∨
      windowSizeMs = 0
  | .behavior => switches.enableBehaviorPattern = false ∧
      switches.enableBehaviorBitrate = false ∨
      switches.enableWindowPkt = true ∨ switches.enableWindowByte = true ∨ windowSizeMs = 0

/-- A list that names every gate. -/
def gateOrder : List Gate :=
  [.pktLength, .fwdBwdPktLens, .pktLenSeq, .firstN, .payloadDir, .dirSeq, .tsSeq, .layerSeqs,
    .iatStats, .iatActive, .fwdBwdIats, .iatSeq, .tcp, .ip, .udp, .port, .magic, .payload,
    .burst, .response, .bigram, .window]

theorem mem_gateOrder (gate : Gate) : gate ∈ gateOrder := by
  cases gate <;> decide

/-- The sub-switches of a master that is off are idle exactly if turning them off leaves every
gate as it is. -/
theorem Master.idle_iff (thresholds : Thresholds) {switches : Switches} {master : Master}
    (off : master.on switches = false) :
    SameCollection (featConfigRead thresholds switches)
        (featConfigRead thresholds (master.clear switches)) ↔
      master.Idle thresholds.windowSizeMs switches := by
  have every : SameCollection (featConfigRead thresholds switches)
      (featConfigRead thresholds (master.clear switches)) ↔ ∀ gate ∈ gateOrder,
      gate.on (featConfigRead thresholds switches) =
          gate.on (featConfigRead thresholds (master.clear switches)) ∨
        gate = .window ∧ thresholds.windowSizeMs = 0 :=
    ⟨fun same gate _ => same gate, fun same gate => same gate (mem_gateOrder gate)⟩
  rw [every]
  simp only [gateOrder, List.forall_mem_cons, reduceCtorEq, false_and, or_false, true_and]
  cases master with
  | basic =>
    have disabled : switches.enableBasic = false := off
    simp [Gate.on, featConfigRead, compoundFlags, Master.clear, Master.Idle, disabled]
    grind
  | iat =>
    have disabled : switches.enableIat = false := off
    simp [Gate.on, featConfigRead, compoundFlags, Master.clear, Master.Idle, disabled]
    grind
  | payload => simp [Gate.on, featConfigRead, compoundFlags, Master.clear, Master.Idle]
  | _ =>
    simp [Gate.on, featConfigRead, compoundFlags, Master.clear, Master.Idle]
    grind

/-- A master that is off keeps its groups out of the output, whatever its sub-switches are. -/
theorem Group.on_clear {switches : Switches} {master : Master}
    (off : master.on switches = false) (group : Group) :
    group.on (master.clear switches) = group.on switches := by
  cases master <;> cases group <;> simp_all [Group.on, Master.clear, Master.on]

/-! ### Flows -/

/-- The sub-switches of a master change neither the state of a flow, after any callbacks, nor
what is written when it closes. -/
def Master.Ignored (thresholds : Thresholds) (platform : Platform D) (switches : Switches)
    (master : Master) : Prop :=
  ∀ streamType callbacks closing,
    flowRun (featConfigRead thresholds switches) platform streamType callbacks =
        flowRun (featConfigRead thresholds (master.clear switches)) platform streamType callbacks ∧
      flowOutput (featConfigRead thresholds switches) platform streamType callbacks closing =
        flowOutput (featConfigRead thresholds (master.clear switches)) platform streamType
          callbacks closing

/-- The sub-switches of a master that is off are ignored if and only if they are idle. -/
theorem Master.ignored_iff (thresholds : Thresholds) (platform : Platform D) {switches : Switches}
    {master : Master} (off : master.on switches = false) :
    master.Ignored thresholds platform switches ↔
      master.Idle thresholds.windowSizeMs switches := by
  have thresholds_eq : (featConfigRead thresholds switches).toThresholds =
      (featConfigRead thresholds (master.clear switches)).toThresholds := rfl
  rw [← Master.idle_iff thresholds off, ← flowRun_eq_iff thresholds_eq platform]
  refine ⟨fun ignored streamType callbacks =>
    (ignored streamType callbacks (Allocs.succeed, barePacket 0 0 0)).1, fun same streamType
    callbacks closing => ⟨same streamType callbacks, ?_⟩⟩
  have emitted : ∀ view : View D,
      Group.emitted (featConfigRead thresholds switches) platform view =
        Group.emitted (featConfigRead thresholds (master.clear switches)) platform view := by
    intro view
    funext group
    rw [Group.emitted, Group.emitted, Group.features_congr thresholds_eq]
    exact congrArg (fun on : Bool => if on then group.features _ platform view else [])
      (Group.on_clear off group).symm
  rw [flowOutput_eq, flowOutput_eq, same]
  simp only [flowStateComputeFeatures_eq, emitted]

/-- With the sequence module off, its sub-switches still fill the directions of the packets: one
packet leaves one direction, which it does not leave without the sub-switches. -/
theorem Master.sequence_not_ignored :
    let switches := { defaultSwitches with enableSequence := false }
    Master.sequence.on switches = false ∧
      ¬ Master.sequence.Ignored defaultThresholds (barePlatform Float) switches := by
  intro switches
  refine ⟨rfl, fun ignored => ?_⟩
  have directions : ∀ cfg : FeatureConfig, ∃ state : FlowFeatureState Float,
      flowRun cfg (barePlatform Float) .tcp (allocated [barePacket 1 1 100]) = some state ∧
        state.store.seqValues .dirSeq = if cfg.needDirSeq then [1] else [] := by
    intro cfg
    obtain ⟨state, run, -, after⟩ := flowRun_allocated cfg (barePlatform Float) .tcp
      (barePacket 1 1 100) []
    refine ⟨state, run, ?_⟩
    have values := flowContents_seqs cfg (barePlatform Float) .tcp (barePacket 1 1 100) [] .dirSeq
    have one : (packetInfos cfg .tcp [barePacket 1 1 100]).map
        (fun info => dirVal info.direction) = [1] := rfl
    have short : (if cfg.needDirSeq then [1] else []).length ≤ 5000 := by
      split <;> decide
    rw [← after.contents_eq, pushed_flowAccesses cfg _ _ _ _ rfl, one,
      rtake_of_length_le short] at values
    exact values
  obtain ⟨state, run, filled⟩ := directions (featConfigRead defaultThresholds switches)
  obtain ⟨cleared, clearedRun, empty⟩ := directions
    (featConfigRead defaultThresholds (Master.sequence.clear switches))
  obtain ⟨same, -⟩ := ignored .tcp (allocated [barePacket 1 1 100])
    (Allocs.succeed, barePacket 2 1 0)
  rw [run, clearedRun, Option.some.injEq] at same
  rw [same, empty] at filled
  cases filled

/-- Without the payload statistics and the magic numbers the other payload switches are ignored
when the module is off. -/
theorem Master.payload_ignored :
    Master.payload.Ignored defaultThresholds (barePlatform Float)
      { defaultSwitches with
        enablePayload := false, enablePayloadMagic := false, enablePayloadStats := false } :=
  (Master.ignored_iff defaultThresholds (barePlatform Float) rfl).mpr ⟨rfl, rfl⟩

end TiFeatures
