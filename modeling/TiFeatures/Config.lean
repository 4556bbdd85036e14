/-
This file models the configuration the plugin runs under: the thresholds, the
master and sub-switches of the `[FEATURES]` section, and the ten compound flags
that reading the configuration derives from them. A switch is only ever tested
for being non-zero, so it is a truth value here.
-/

import TiFeatures.Machine

namespace TiFeatures

/-! ### Compile-time constants -/

/-- `DEFAULT_FIRST_N_PACKETS`. -/
def defaultFirstNPackets : Nat := 10

/-- `MAX_FIRST_N_PACKETS`. -/
def maxFirstNPackets : Nat := 1024

/-! ### The configuration -/

/-- The numeric settings the modelled code reads. -/
structure Thresholds where
  maxSeqLen : Nat
  firstNPackets : Nat
  runMode : Nat
  smallPktThreshold : Nat
  largePktThreshold : Nat
  burstIatThresholdUs : Nat
  activeIatThresholdUs : Nat
  windowSizeMs : Nat
  interactiveThresholdMs : Nat
  bulkTransferKbps : Nat
  shortConnThresholdS : Nat
  deriving DecidableEq

/-- The switches a user sets: eight masters, the burst module, and the sub-switches. -/
structure Switches where
  enableBasic : Bool
  enableIat : Bool
  enableProtocol : Bool
  enablePayload : Bool
  enableSequence : Bool
  enableFft : Bool
  enableWindow : Bool
  enableBehavior : Bool
  enableBasicRatios : Bool
  enableBasicPayloadDir : Bool
  enableBasicFirstN : Bool
  enableBasicPktLength : Bool
  enableIatStats : Bool
  enableIatFwdBwd : Bool
  enableIatActive : Bool
  enableIatResponse : Bool
  enableBurst : Bool
  enableProtocolTcpFlags : Bool
  enableProtocolTcpWindow : Bool
  enableProtocolIp : Bool
  enableProtocolUdp : Bool
  enableProtocolPort : Bool
  enablePayloadSize : Bool
  enablePayloadContent : Bool
  enablePayloadHist : Bool
  enablePayloadMagic : Bool
  enablePayloadStats : Bool
  enableSequenceStats : Bool
  enableRawSequences : Bool
  enableChunkSequences : Bool
  enableRateSequences : Bool
  enableFftGlobal : Bool
  enableFftFwd : Bool
  enableFftBwd : Bool
  enableWindowPkt : Bool
  enableWindowByte : Bool
  enableBehaviorBasic : Bool
  enableBehaviorPattern : Bool
  enableBehaviorBitrate : Bool
  deriving DecidableEq

/-- The compound flags that gate the per-packet collection. -/
structure Needs where
  needPktLenSeq : Bool
  needDirSeq : Bool
  needTsSeq : Bool
  needL3L4PayloadSeq : Bool
  needFwdBwdPktLens : Bool
  needFirstN : Bool
  needPayloadDir : Bool
  needFwdBwdIats : Bool
  needWindowUpdate : Bool
  needIatSeq : Bool
  deriving DecidableEq

/-- `ti_feature_config_t`. -/
structure FeatureConfig extends Thresholds, Switches, Needs
  deriving DecidableEq

/-- The compound flags as `feat_config_read` computes them at its end. -/
def compoundFlags (switches : Switches) : Needs where
  needPktLenSeq := switches.enableFftGlobal || switches.enableSequenceStats ||
    switches.enableRawSequences || switches.enableChunkSequences || switches.enableRateSequences
  needDirSeq := switches.enableSequenceStats || switches.enableRawSequences ||
    switches.enableChunkSequences || switches.enableRateSequences
  needTsSeq := switches.enableChunkSequences || switches.enableRateSequences
  needL3L4PayloadSeq := switches.enableRawSequences
  needFwdBwdPktLens := switches.enableBasicPktLength || switches.enableFftFwd ||
    switches.enableFftBwd
  needFirstN := switches.enableBasic && switches.enableBasicFirstN
  needPayloadDir := switches.enableBasic && switches.enableBasicPayloadDir
  needFwdBwdIats := switches.enableIat && switches.enableIatFwdBwd
  needWindowUpdate := switches.enableWindowPkt || switches.enableWindowByte ||
    switches.enableBehaviorPattern || switches.enableBehaviorBitrate
  needIatSeq := switches.enableIatStats || switches.enableSequenceStats ||
    switches.enableRawSequences

/-- The numeric settings of `feat_config_init`. -/
def defaultThresholds : Thresholds where
  maxSeqLen := 5000
  firstNPackets := defaultFirstNPackets
  runMode := 0
  smallPktThreshold := 64
  largePktThreshold := 1200
  burstIatThresholdUs := 1000
  activeIatThresholdUs := 1000
  windowSizeMs := 1000
  interactiveThresholdMs := 100
  bulkTransferKbps := 10
  shortConnThresholdS := 2

/-- The switches of `feat_config_init`: everything is on. -/
def defaultSwitches : Switches where
  enableBasic := true
  enableIat := true
  enableProtocol := true
  enablePayload := true
  enableSequence := true
  enableFft := true
  enableWindow := true
  enableBehavior := true
  enableBasicRatios := true
  enableBasicPayloadDir := true
  enableBasicFirstN := true
  enableBasicPktLength := true
  enableIatStats := true
  enableIatFwdBwd := true
  enableIatActive := true
  enableIatResponse := true
  enableBurst := true
  enableProtocolTcpFlags := true
  enableProtocolTcpWindow := true
  enableProtocolIp := true
  enableProtocolUdp := true
  enableProtocolPort := true
  enablePayloadSize := true
  enablePayloadContent := true
  enablePayloadHist := true
  enablePayloadMagic := true
  enablePayloadStats := true
  enableSequenceStats := true
  enableRawSequences := true
  enableChunkSequences := true
  enableRateSequences := true
  enableFftGlobal := true
  enableFftFwd := true
  enableFftBwd := true
  enableWindowPkt := true
  enableWindowByte := true
  enableBehaviorBasic := true
  enableBehaviorPattern := true
  enableBehaviorBitrate := true

/-- The range `feat_config_read` and `flow_state_init` both force `first_n_packets` into. -/
def clampFirstN (packets : Nat) : Nat :=
  if packets == 0 then defaultFirstNPackets
  else if packets > maxFirstNPackets then maxFirstNPackets
  else packets

/-- `feat_config_read`, for the values found in the file. -/
def featConfigRead (thresholds : Thresholds) (switches : Switches) : FeatureConfig where
  toThresholds := { thresholds with firstNPackets := clampFirstN thresholds.firstNPackets }
  toSwitches := switches
  toNeeds := compoundFlags switches

/-- The configuration of a file that sets nothing. -/
def defaultConfig : FeatureConfig := featConfigRead defaultThresholds defaultSwitches

theorem clampFirstN_pos (packets : Nat) : 0 < clampFirstN packets := by
  unfold clampFirstN defaultFirstNPackets maxFirstNPackets
  split
  · decide
  · split
    · decide
    · rename_i nonzero _
      exact Nat.pos_of_ne_zero (by simpa using nonzero)

end TiFeatures
