/-
This file models what the plugin hands to the bridges of a stream: the server names
of client hellos and the features of closed flows. A rejected name is given back; the
features are not, as the value their put returns is dropped. So every string has one
owner exactly in the runs in which the bridge accepts the features of every flow.
-/

import TiFeatures.Library.Custody
import TiFeatures.Reachable

namespace TiFeatures

open HeapLedger

/-! ### Bridges -/

/-- The configuration of the outputs. -/
structure BridgeConfig where
  outputToLog : Bool
  sendKafkaFlag : Bool
  featureBridgeFlag : Bool
  featureBridgeId : Int
  sniBridgeFlag : Bool
  sniBridgeId : Int

/-- `sni_bridge_enabled`. -/
def sniBridgeEnabled (bridges : BridgeConfig) : Bool :=
  bridges.sniBridgeFlag && decide (bridges.sniBridgeId ≥ 0)

/-- The strings that are allocated for a bridge, with their contents. -/
inductive BridgeString where
  | sni (buffer : List UInt8)
  | features (text : String)
  deriving DecidableEq

/-- A call of `stream_bridge_async_data_put`, but for the pointer. -/
structure BridgePut where
  stream : Nat
  bridgeId : Int
  result : Int
  deriving DecidableEq

/-- The bridge has taken the pointer. -/
def BridgePut.accepted (put : BridgePut) : Bool := decide (put.result ≥ 0)

/-- The strings of the plugin and the puts it made. -/
abbrev BridgeState := Custody BridgeString BridgePut

/-- What a callback gets from the functions it calls: whether the string can be allocated, and
what `stream_bridge_async_data_put` returns. -/
structure BridgeReturns where
  mallocOk : Bool
  put : Int

/-! ### Client hellos -/

/-- `MAX_DOMAIN_LEN`. -/
def maxDomainLen : Nat := 128

/-- `SSL_CLIENT_HELLO`. -/
def sslClientHello : Nat := 1 <<< 2

/-- The buffer of a name: as much of it as leaves room for a zero, then zeros. -/
def sniBuffer (name : List UInt8) : List UInt8 :=
  let len := min name.length (maxDomainLen - 1)
  name.take len ++ List.replicate (maxDomainLen - len) 0

/-- The branch of a client hello, with the name if no pointer to it is `NULL`. -/
def putClientHello (bridges : BridgeConfig) (name : Option (List UInt8)) (stream : Nat)
    (returns : BridgeReturns) (state : BridgeState) : BridgeState :=
  match name with
  | none => state
  | some name =>
    if sniBridgeEnabled bridges && decide (name.length > 0) then
      match state.heap.malloc (.sni (sniBuffer name)) returns.mallocOk with
      | (heap, none) => { state with heap }
      | (heap, some sni) =>
        let put := Custody.hand { state with heap := heap.use sni } sni
          ⟨stream, bridges.sniBridgeId, returns.put⟩
        if returns.put < 0 then { put with heap := put.heap.free sni } else put
    else state

/-- What `session_info` leads to in `TI_FEATURES_SSL_ENTRY`: the flag, and through `app_info` and
`stClientHello` the text of `server_name`. -/
structure SslSession where
  protFlag : Nat
  appInfo : Option (Option (List UInt8))

/-- `TI_FEATURES_SSL_ENTRY`. -/
def tiFeaturesSslEntry (bridges : BridgeConfig) (sessionInfo : Option SslSession)
    (stream : Option Nat) (returns : BridgeReturns) (state : BridgeState) : BridgeState :=
  match sessionInfo, stream with
  | some sessionInfo, some stream =>
    if sessionInfo.protFlag = sslClientHello then
      putClientHello bridges sessionInfo.appInfo.join stream returns state
    else state
  | _, _ => state

/-- What `session_info` leads to in `TI_FEATURES_QUIC_ENTRY`: whether the flag is that of a client
hello, and through `app_info` and `client_hello` the text of `sni`. -/
structure QuicSession where
  clientHello : Bool
  appInfo : Option (Option (Option (List UInt8)))

/-- `TI_FEATURES_QUIC_ENTRY`. -/
def tiFeaturesQuicEntry (bridges : BridgeConfig) (sessionInfo : Option QuicSession)
    (stream : Option Nat) (returns : BridgeReturns) (state : BridgeState) : BridgeState :=
  match sessionInfo, stream with
  | some sessionInfo, some stream =>
    if sessionInfo.clientHello then
      putClientHello bridges sessionInfo.appInfo.join.join stream returns state
    else state
  | _, _ => state

/-! ### Closing flows -/

/-- The callback of a flow that closes: the state of the flow, unless there is none, and whether
`cJSON_CreateObject` and `cJSON_PrintUnformatted` succeed. -/
structure FlowClose (D : Type) where
  stream : Nat
  streamType : StreamType
  packet : RawPacket
  state : Option (FlowFeatureState D)
  created : Bool
  printed : Bool
  returns : BridgeReturns

section Flows

variable {D : Type} [Double D] (cfg : FeatureConfig) (platform : Platform D)
  (print : Output D → String) (bridges : BridgeConfig)

/-- The bridge output of a flow that closes, whose features are printed to `out`. -/
def putFeatures (out : String) (stream : Nat) (returns : BridgeReturns) (state : BridgeState) :
    BridgeState :=
  if bridges.featureBridgeFlag && decide (bridges.featureBridgeId ≥ 0) then
    match state.heap.malloc (.features out) returns.mallocOk with
    | (heap, none) => { state with heap }
    | (heap, some bridgeData) =>
      -- the returned value is not looked at
      Custody.hand { state with heap := heap.use bridgeData } bridgeData
        ⟨stream, bridges.featureBridgeId, returns.put⟩
  else state

/-- The CLOSE branch of `traffic_process`, as far as the bridges are concerned. -/
def trafficProcessClose (flow : FlowClose D) (state : BridgeState) : BridgeState :=
  match flow.state with
  | none => state
  | some flowState =>
    let output := flowStateComputeFeatures cfg platform flow.streamType flow.packet flowState.view
    if flow.created &&
        (bridges.sendKafkaFlag || bridges.outputToLog || bridges.featureBridgeFlag) then
      if flow.printed then putFeatures bridges (print output) flow.stream flow.returns state
      else state
    else state

/-- The callbacks that hand strings to a bridge, of any streams. -/
inductive BridgeCallback (D : Type) where
  | ssl (sessionInfo : Option SslSession) (stream : Option Nat) (returns : BridgeReturns)
  | quic (sessionInfo : Option QuicSession) (stream : Option Nat) (returns : BridgeReturns)
  | close (flow : FlowClose D)

/-- One callback. -/
def bridgeStep (state : BridgeState) : BridgeCallback D → BridgeState
  | .ssl sessionInfo stream returns => tiFeaturesSslEntry bridges sessionInfo stream returns state
  | .quic sessionInfo stream returns =>
    tiFeaturesQuicEntry bridges sessionInfo stream returns state
  | .close flow => trafficProcessClose cfg platform print bridges flow state

/-- The strings and the puts after a sequence of callbacks. -/
def bridgeRun (callbacks : List (BridgeCallback D)) : BridgeState :=
  callbacks.foldl (bridgeStep cfg platform print bridges) Custody.empty

/-! ### Owners -/

/-- Nothing was allocated, or one string was transferred and taken back if it was rejected. -/
def TransfersSafely (state after : BridgeState) : Prop :=
  after = state ∨ ∃ step : Transfer BridgeString BridgePut,
    after = state.transfer step ∧ step.freed = !step.offer.accepted

theorem putClientHello_safe (name : Option (List UInt8)) (stream : Nat)
    (returns : BridgeReturns) (state : BridgeState) :
    TransfersSafely state (putClientHello bridges name stream returns state) := by
  obtain ⟨mallocOk, put⟩ := returns
  cases name with
  | none => exact Or.inl rfl
  | some name =>
    rw [putClientHello]
    split
    · cases mallocOk with
      | false => exact Or.inl rfl
      | true =>
        refine Or.inr ⟨⟨.sni (sniBuffer name), ⟨stream, bridges.sniBridgeId, put⟩,
          decide (put < 0)⟩, ?_, ?_⟩
        · by_cases rejected : put < 0
          · simp only [Heap.malloc, Custody.transfer, if_pos rejected, decide_eq_true rejected]
            rfl
          · simp only [Heap.malloc, Custody.transfer, if_neg rejected, decide_eq_false rejected]
            rfl
        · rw [BridgePut.accepted, ← decide_not, decide_eq_decide, ge_iff_le, not_le]
    · exact Or.inl rfl

theorem tiFeaturesSslEntry_safe (sessionInfo : Option SslSession) (stream : Option Nat)
    (returns : BridgeReturns) (state : BridgeState) :
    TransfersSafely state (tiFeaturesSslEntry bridges sessionInfo stream returns state) := by
  unfold tiFeaturesSslEntry
  split
  · split
    · exact putClientHello_safe bridges _ _ returns state
    · exact Or.inl rfl
  · exact Or.inl rfl

theorem tiFeaturesQuicEntry_safe (sessionInfo : Option QuicSession) (stream : Option Nat)
    (returns : BridgeReturns) (state : BridgeState) :
    TransfersSafely state (tiFeaturesQuicEntry bridges sessionInfo stream returns state) := by
  unfold tiFeaturesQuicEntry
  split
  · split
    · exact putClientHello_safe bridges _ _ returns state
    · exact Or.inl rfl
  · exact Or.inl rfl

/-- The flow hands its features to the bridge when it closes. -/
structure FlowClose.HandsOver (flow : FlowClose D) : Prop where
  exists_state : flow.state.isSome = true
  created : flow.created = true
  printed : flow.printed = true
  enabled : bridges.featureBridgeFlag = true
  id_nonneg : bridges.featureBridgeId ≥ 0
  mallocOk : flow.returns.mallocOk = true

/-- A flow that hands its features over transfers them and does not take them back; another flow
changes nothing. -/
theorem trafficProcessClose_cases (flow : FlowClose D) (state : BridgeState) :
    (¬ flow.HandsOver bridges ∧
        trafficProcessClose cfg platform print bridges flow state = state) ∨
      (flow.HandsOver bridges ∧ ∃ step : Transfer BridgeString BridgePut,
        trafficProcessClose cfg platform print bridges flow state = state.transfer step ∧
          step.freed = false ∧ step.offer.result = flow.returns.put) := by
  obtain ⟨stream, streamType, packet, flowState, created, printed, mallocOk, put⟩ := flow
  cases flowState with
  | none => exact Or.inl ⟨fun handsOver => Bool.noConfusion handsOver.exists_state, rfl⟩
  | some flowState =>
  cases created with
  | false => exact Or.inl ⟨fun handsOver => Bool.noConfusion handsOver.created, rfl⟩
  | true =>
  rw [trafficProcessClose]
  dsimp only
  by_cases outputs : (bridges.sendKafkaFlag || bridges.outputToLog || bridges.featureBridgeFlag)
  · rw [outputs, Bool.and_true, if_pos rfl]
    cases printed with
    | false => exact Or.inl ⟨fun handsOver => Bool.noConfusion handsOver.printed, rfl⟩
    | true =>
    rw [if_pos rfl, putFeatures]
    by_cases enabled : (bridges.featureBridgeFlag && decide (bridges.featureBridgeId ≥ 0))
    · rw [if_pos enabled]
      cases mallocOk with
      | false => exact Or.inl ⟨fun handsOver => Bool.noConfusion handsOver.mallocOk, rfl⟩
      | true =>
      rw [Bool.and_eq_true, decide_eq_true_iff] at enabled
      exact Or.inr ⟨⟨rfl, rfl, rfl, enabled.1, enabled.2, rfl⟩,
        ⟨.features (print (flowStateComputeFeatures cfg platform streamType packet
          flowState.view)), ⟨stream, bridges.featureBridgeId, put⟩, false⟩, rfl, rfl, rfl⟩
    · rw [if_neg enabled]
      refine Or.inl ⟨fun handsOver => enabled ?_, rfl⟩
      rw [handsOver.enabled, decide_eq_true handsOver.id_nonneg]
      rfl
  · rw [Bool.not_eq_true] at outputs
    refine Or.inl ⟨fun handsOver => ?_, by rw [outputs]; rfl⟩
    rw [handsOver.enabled, Bool.or_true] at outputs
    cases outputs

/-- The bridge accepts what a flow hands over when it closes. -/
def BridgeCallback.FeaturesAccepted : BridgeCallback D → Prop
  | .close flow => flow.HandsOver bridges → 0 ≤ flow.returns.put
  | _ => True

/-- A callback changes nothing, or transfers a string; the string has one owner exactly if no
features are rejected. -/
theorem bridgeStep_cases (callback : BridgeCallback D) (state : BridgeState) :
    (callback.FeaturesAccepted bridges ∧
        bridgeStep cfg platform print bridges state callback = state) ∨
      ∃ step : Transfer BridgeString BridgePut,
        bridgeStep cfg platform print bridges state callback = state.transfer step ∧
          (step.freed = (!step.offer.accepted) ↔ callback.FeaturesAccepted bridges) := by
  have hello : ∀ {after}, TransfersSafely state after → (True ∧ after = state) ∨
      ∃ step : Transfer BridgeString BridgePut, after = state.transfer step ∧
        (step.freed = (!step.offer.accepted) ↔ True) := by
    rintro after (same | ⟨step, moved, kept⟩)
    · exact Or.inl ⟨True.intro, same⟩
    · exact Or.inr ⟨step, moved, iff_true_intro kept⟩
  cases callback with
  | ssl sessionInfo stream returns =>
    exact hello (tiFeaturesSslEntry_safe bridges sessionInfo stream returns state)
  | quic sessionInfo stream returns =>
    exact hello (tiFeaturesQuicEntry_safe bridges sessionInfo stream returns state)
  | close flow =>
    rcases trafficProcessClose_cases cfg platform print bridges flow state with
      ⟨noHandOver, same⟩ | ⟨handsOver, step, moved, kept, result_eq⟩
    · exact Or.inl ⟨fun handsOver => absurd handsOver noHandOver, same⟩
    · refine Or.inr ⟨step, moved, ?_⟩
      rw [kept, BridgePut.accepted, result_eq, eq_comm, Bool.not_eq_false', decide_eq_true_iff,
        BridgeCallback.FeaturesAccepted, ge_iff_le]
      exact ⟨fun accepted _ => accepted, fun accepted => accepted handsOver⟩

/-- A run of callbacks is a sequence of transfers. -/
theorem bridgeRun_eq_run (callbacks : List (BridgeCallback D)) :
    ∃ steps : List (Transfer BridgeString BridgePut),
      bridgeRun cfg platform print bridges callbacks = Custody.run steps ∧
        ((∀ step ∈ steps, step.freed = !step.offer.accepted) ↔
          ∀ callback ∈ callbacks, callback.FeaturesAccepted bridges) := by
  induction callbacks using List.reverseRecOn with
  | nil => exact ⟨[], rfl, iff_of_true (fun _ member => absurd member List.not_mem_nil)
      fun _ member => absurd member List.not_mem_nil⟩
  | append_singleton callbacks callback inductionHypothesis =>
    obtain ⟨steps, run_eq, kept_iff⟩ := inductionHypothesis
    have next : bridgeRun cfg platform print bridges (callbacks ++ [callback]) =
        bridgeStep cfg platform print bridges (Custody.run steps) callback := by
      rw [← run_eq]
      exact List.foldl_concat _ _ _ _
    rw [next, List.forall_mem_append, List.forall_mem_singleton, ← kept_iff]
    rcases bridgeStep_cases cfg platform print bridges callback (Custody.run steps) with
      ⟨accepted, same⟩ | ⟨step, moved, accepted_iff⟩
    · exact ⟨steps, same, (and_iff_left accepted).symm⟩
    · refine ⟨steps ++ [step], moved.trans (Custody.run_concat steps step).symm, ?_⟩
      rw [List.forall_mem_append, List.forall_mem_singleton, accepted_iff]

/-- Only live strings are used and given back. -/
theorem bridgeRun_noFault (callbacks : List (BridgeCallback D)) :
    (bridgeRun cfg platform print bridges callbacks).heap.fault = false := by
  obtain ⟨steps, run_eq, -⟩ := bridgeRun_eq_run cfg platform print bridges callbacks
  obtain ⟨owned, owns⟩ := (Custody.run_sound steps).owned
  rw [run_eq]
  exact owns.noFault

/-- After any client hellos and closing flows, whatever the puts return, every string has one
owner exactly if the bridge accepted the features of every flow that handed them over. -/
theorem bridgeRun_oneOwnerEach_iff (callbacks : List (BridgeCallback D)) :
    (bridgeRun cfg platform print bridges callbacks).OneOwnerEach BridgePut.accepted ↔
      ∀ flow, BridgeCallback.close flow ∈ callbacks → flow.HandsOver bridges →
        0 ≤ flow.returns.put := by
  obtain ⟨steps, run_eq, kept_iff⟩ := bridgeRun_eq_run cfg platform print bridges callbacks
  rw [run_eq, Custody.run_oneOwnerEach_iff, kept_iff]
  refine ⟨fun accepted flow member => accepted _ member, fun accepted callback member => ?_⟩
  cases callback with
  | ssl => exact True.intro
  | quic => exact True.intro
  | close flow => exact accepted flow member

end Flows

/-- A flow closes and the bridge does not take its features: nobody owns the copy. -/
theorem bridgeRun_leaks : ∃ flow : FlowClose Float,
    let state := bridgeRun defaultConfig (barePlatform Float) (fun _ => "{}")
      ⟨false, false, true, 0, false, -1⟩ [.close flow]
    state.heap.kinds = [.features "{}"] ∧ state.offers = [(0, ⟨1, 0, -1⟩)] ∧
      state.heap.freed = [] ∧ ¬ state.OneOwnerEach BridgePut.accepted := by
  obtain ⟨state, -⟩ := createFlow_succeed (D := Float) defaultConfig 1
  refine ⟨⟨1, .tcp, barePacket 1 1 100, some state, true, true, ⟨true, -1⟩⟩, rfl, rfl, rfl, ?_⟩
  intro each
  rcases each 0 Nat.one_pos with ⟨⟨put, offered, accepted⟩, -⟩ | ⟨-, freed⟩
  · have put_eq : put = ⟨1, 0, -1⟩ := congrArg Prod.snd (List.mem_singleton.mp offered)
    rw [put_eq] at accepted
    exact absurd accepted (by decide)
  · exact absurd freed Nat.zero_ne_one

end TiFeatures
