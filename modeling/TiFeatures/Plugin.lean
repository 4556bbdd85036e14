/-
This file models the life of the plugin: reading the outputs of its configuration,
which takes the log, the bridges and the connection to Kafka, closing flows, which
writes their features to the outputs that are on, and the end. A call through a null
pointer ends the run. A plugin whose initialisation fails gives back what it had
taken, and so does one that is destroyed.
-/

import TiFeatures.Bridges
import TiFeatures.Kafka

namespace TiFeatures

open HeapLedger

/-! ### The state of the plugin -/

/-- What the configuration file says about the outputs, in its `[LOG]`, `[BRIDGE]` and `[KAFKA]`
sections. -/
structure OutputProfile where
  logLevel : Option Int
  featureBridgeFlag : Option Bool
  sniBridgeFlag : Option Bool
  sendKafkaFlag : Option Bool
  outputToLog : Option Bool
  kafkaBrokers : Option String
  kafkaTopic : Option String

/-- What the functions of other libraries return while the configuration is read, and whether the
log library writes lines of `RLOG_LV_DEBUG` through a handle of a level. -/
structure ReadReturns where
  logHandle : Bool
  writesDebug : Int → Bool
  streamBridgeBuild : Int
  registerDataFreeCb : Int
  brgid : Int
  connection : ConnectionReturns
  topic : TopicReturns

/-- The part of `g_feat_config` that the outputs need, whether lines of `RLOG_LV_DEBUG` get through
the log handle, the handles that were taken, the texts in the log, and the strings of the
bridges. -/
structure PluginState where
  logHandle : Option Nat
  debugLines : Bool
  bridges : BridgeConfig
  topicName : String
  kafkaProducer : Option KafkaProducer
  handles : Handles
  logged : List String
  strings : BridgeState

namespace PluginState

/-- The plugin when it is loaded. -/
def loaded : PluginState where
  logHandle := none
  debugLines := false
  bridges := ⟨false, false, false, 0, false, 0⟩
  topicName := ""
  kafkaProducer := none
  handles := ⟨Heap.empty, []⟩
  logged := []
  strings := Custody.empty

def onHeap (change : Heap HandleKind → Heap HandleKind) (state : PluginState) : PluginState :=
  { state with handles := { state.handles with heap := change state.handles.heap } }

/-- `MESA_handle_runtime_log`, with the features in the line if it has them. -/
def log (texts : List String) (state : PluginState) : PluginState :=
  match state.logHandle with
  | some handle => { state.onHeap (·.use handle) with logged := state.logged ++ texts }
  | none => state

/-- `MESA_destroy_runtime_log_handle` of the log, if there is one. -/
def destroyLog (state : PluginState) : PluginState :=
  match state.logHandle with
  | some handle => { state.onHeap (·.free handle) with logHandle := none }
  | none => state

/-- The producer is kept, with the handles it has left. -/
def attach (producer : KafkaProducer) (heap : Heap HandleKind) (state : PluginState) :
    PluginState :=
  { state with kafkaProducer := some producer, handles := { state.handles with heap } }

end PluginState

/-! ### Reading the configuration -/

/-- `feat_config_init`: the handles are forgotten. -/
def featConfigInit (state : PluginState) : PluginState :=
  { state with
    logHandle := none
    bridges := ⟨false, false, true, 0, false, 0⟩
    topicName := ""
    kafkaProducer := none }

/-- The bridge of the server names, if it is on; `false` if it cannot be had. -/
def buildSniBridge (returns : ReadReturns) (state : PluginState) : Bool × PluginState :=
  if state.bridges.sniBridgeFlag then
    let state := { state with
      bridges := { state.bridges with sniBridgeId := returns.streamBridgeBuild } }
    if returns.streamBridgeBuild < 0 then (false, (state.log []).destroyLog)
    else if returns.registerDataFreeCb < 0 then (false, ((state.log []).log []).destroyLog)
    else (true, (state.log []).log [])
  else (true, state.log [])

/-- The bridge of the features, if it is on. Reading goes on if there is none. -/
def findFeatureBridge (returns : ReadReturns) (state : PluginState) : PluginState :=
  if state.bridges.featureBridgeFlag then
    let state := { state with
      bridges := { state.bridges with featureBridgeId := returns.brgid } }
    if returns.brgid < 0 then state.log [] else state
  else state.log []

/-- Give up on a producer. -/
def dropProducer (producer : KafkaProducer) (state : PluginState) : PluginState :=
  { ((state.log []).onHeap producer.delete).destroyLog with kafkaProducer := none }

/-- A handle for the topic; `false` if it cannot be had. -/
def createTopic (returns : ReadReturns) (producer : KafkaProducer) (state : PluginState) :
    Bool × PluginState :=
  let (handle, producer, heap) :=
    producer.createTopicHandle state.topicName returns.topic state.handles.heap
  let state := state.attach producer heap
  match handle with
  | none => (false, dropProducer producer state)
  | some _ => (true, state.log [])

/-- The connection to Kafka with a handle for its topic; `false` if they cannot be had. -/
def connectKafka (profile : OutputProfile) (returns : ReadReturns) (state : PluginState) :
    Bool × PluginState :=
  match profile.kafkaBrokers with
  | none => (false, (state.log []).destroyLog)
  | some brokers =>
    let (producer, heap) := newKafkaProducer brokers state.handles.heap
    let (connRet, producer, heap) := producer.kafkaConnection returns.connection heap
    let state := state.attach producer heap
    if connRet ≠ 0 then (false, dropProducer producer state)
    else
      createTopic returns producer
        { state.log [] with topicName := profile.kafkaTopic.getD "flow_features" }

/-- `MESA_create_runtime_log_handle` that succeeds, for a level. -/
def createLog (logLevel : Int) (returns : ReadReturns) (state : PluginState) : PluginState :=
  { state.onHeap (·.push .log) with
    logHandle := some state.handles.heap.kinds.length
    debugLines := returns.writesDebug logLevel }

/-- The log, then the settings of the bridges. -/
def openLog (profile : OutputProfile) (returns : ReadReturns) (state : PluginState) :
    PluginState :=
  let state := (createLog (profile.logLevel.getD 10) returns state).log []
  { state with
    bridges := { state.bridges with
      featureBridgeFlag := profile.featureBridgeFlag.getD true
      sniBridgeFlag := profile.sniBridgeFlag.getD true } }

/-- The outputs other than the log; `false` if one that is needed cannot be had. -/
def takeOutputs (profile : OutputProfile) (returns : ReadReturns) (state : PluginState) :
    Bool × PluginState :=
  match buildSniBridge returns state with
  | (false, state) => (false, state)
  | (true, state) =>
    let state := findFeatureBridge returns state
    let state := { state with
      bridges := { state.bridges with
        sendKafkaFlag := profile.sendKafkaFlag.getD false
        outputToLog := profile.outputToLog.getD true } }
    if state.bridges.sendKafkaFlag then
      match connectKafka profile returns state with
      | (false, state) => (false, state)
      | (true, state) => (true, state.log [])
    else (true, state.log [])

/-- The part of `feat_config_read` that takes the outputs, with what it returns. -/
def featConfigReadOutputs (profile : OutputProfile) (returns : ReadReturns)
    (state : PluginState) : Int × PluginState :=
  let state := featConfigInit state
  if !returns.logHandle then (-1, state.log [])
  else
    match takeOutputs profile returns (openLog profile returns state) with
    | (false, state) => (-1, state)
    | (true, state) => (0, state)

/-- `TI_FEATURES_INIT`. -/
def tiFeaturesInit (profile : OutputProfile) (returns : ReadReturns) (state : PluginState) :
    Int × PluginState :=
  let (result, state) := featConfigReadOutputs profile returns (state.log [])
  if result ≠ 0 then (-1, state.log []) else (0, state.log [])

/-- `feat_config_destroy`. -/
def featConfigDestroy (state : PluginState) : PluginState :=
  let state := state.destroyLog
  if state.bridges.sendKafkaFlag then
    match state.kafkaProducer with
    | some producer => { state.onHeap producer.delete with kafkaProducer := none }
    | none => state
  else state

/-- `TI_FEATURES_DESTROY`. -/
def tiFeaturesDestroy (state : PluginState) : PluginState := featConfigDestroy (state.log [])

/-! ### Closing flows -/

/-- The callback of a flow that closes, with what the Kafka library returns. -/
structure PluginClose (D : Type) extends FlowClose D where
  send : SendReturns

/-- The features sent to Kafka, if it is on. There is no producer behind a null pointer. -/
def sendFeatures (text : String) (out : Nat) (returns : SendReturns) (state : PluginState) :
    Option PluginState :=
  if state.bridges.sendKafkaFlag then
    match state.kafkaProducer with
    | none => none
    | some producer =>
      let (sendRet, producer, handles) := producer.sendData state.topicName (some (out, text))
        text.utf8ByteSize returns state.handles
      let state := { state with kafkaProducer := some producer, handles }
      some (if sendRet ≠ 0 then (state.onHeap producer.messageInQueue).log [] else state)
  else some state

/-- The features in the log, if it takes them: they are in a line of `RLOG_LV_DEBUG`. -/
def logFeatures (text : String) (out : Nat) (state : PluginState) : PluginState :=
  if state.bridges.outputToLog then
    (state.onHeap (·.use out)).log (if state.debugLines then [text] else [])
  else state

/-- The features for the bridge, if it is on. -/
def bridgeFeatures (text : String) (out stream : Nat) (returns : BridgeReturns)
    (state : PluginState) : PluginState :=
  let state := { state with
    strings := putFeatures state.bridges text stream returns state.strings }
  if state.bridges.featureBridgeFlag && decide (state.bridges.featureBridgeId ≥ 0) then
    (state.onHeap (·.use out)).log []
  else state

section Flows

variable {D : Type} [Double D] (cfg : FeatureConfig) (platform : Platform D)
  (print : Output D → String)

/-- The features of a flow to every output that is on. -/
def writeFeatures (text : String) (flow : PluginClose D) (state : PluginState) :
    Option PluginState :=
  let out := state.handles.heap.kinds.length
  (sendFeatures text out flow.send (state.onHeap (·.push .printed))).map fun state =>
    (bridgeFeatures text out flow.stream flow.returns (logFeatures text out state)).onHeap
      (·.free out)

/-- The text of the features of a flow that closes, if it is written. -/
def PluginClose.text (bridges : BridgeConfig) (flow : PluginClose D) : Option String :=
  flow.state.bind fun state =>
    if flow.created &&
        (bridges.sendKafkaFlag || bridges.outputToLog || bridges.featureBridgeFlag) &&
        flow.printed then
      some (print (flowStateComputeFeatures cfg platform flow.streamType flow.packet state.view))
    else none

/-- The CLOSE branch of `traffic_process`, as far as the outputs are concerned. -/
def closeFlow (flow : PluginClose D) (state : PluginState) : Option PluginState :=
  match flow.state with
  | none => some state
  | some flowState =>
    let state := state.log []
    if flow.created then
      let output := state.handles.heap.kinds.length
      let state := state.onHeap (·.push .output)
      let text :=
        print (flowStateComputeFeatures cfg platform flow.streamType flow.packet flowState.view)
      let written :=
        if (state.bridges.sendKafkaFlag || state.bridges.outputToLog ||
            state.bridges.featureBridgeFlag) && flow.printed then
          writeFeatures text flow (state.onHeap (·.use output))
        else some state
      written.map fun state => state.onHeap (·.free output)
    else some state

/-! ### Sessions -/

/-- One life of the plugin: what its configuration says, the flows that close if it starts, and
whether it is destroyed if it does not. -/
structure Session (D : Type) where
  profile : OutputProfile
  returns : ReadReturns
  closes : List (PluginClose D)
  destroyed : Bool

/-- The flows of a session that close one after the other. -/
def closeFlows (closes : List (PluginClose D)) (state : PluginState) : Option PluginState :=
  closes.foldlM (fun state flow => closeFlow cfg platform print flow state) state

/-- One session. -/
def Session.run (state : PluginState) (session : Session D) : Option PluginState :=
  match tiFeaturesInit session.profile session.returns state with
  | (0, state) => (closeFlows cfg platform print session.closes state).map tiFeaturesDestroy
  | (_, state) => some (if session.destroyed then tiFeaturesDestroy state else state)

/-- The sessions of a process. -/
def sessionsRun (sessions : List (Session D)) : Option PluginState :=
  sessions.foldlM (Session.run cfg platform print) PluginState.loaded

end Flows

/-! ### What the plugin holds -/

namespace PluginState

/-- The handles that the state leads to. -/
def held (state : PluginState) : List (Nat × HandleKind) :=
  state.logHandle.toList.map (·, .log) ++ state.kafkaProducer.toList.flatMap KafkaProducer.held

/-- The plugin holds the handles it leads to and the listed ones, which it has lost. -/
structure Holds (state : PluginState) (orphans : List (Nat × HandleKind)) : Prop where
  owns : state.handles.heap.Owns (state.held ++ orphans)
  rooted : Rooted HandleKind.parent orphans
  producer : ∀ producer ∈ state.kafkaProducer, producer.WellFormed

/-- The plugin has no log and no producer. -/
structure Stopped (state : PluginState) : Prop where
  logHandle_eq : state.logHandle = none
  kafkaProducer_eq : state.kafkaProducer = none

/-- The plugin has a log and, if it sends to Kafka, a connection with a handle for its topic. -/
structure Ready (state : PluginState) : Prop where
  log : state.logHandle.isSome
  kafka : state.bridges.sendKafkaFlag = true → ∃ producer connection rkt,
    state.kafkaProducer = some producer ∧ producer.kafka = some (some connection) ∧
      producer.topicHandleMap.lookup state.topicName = some rkt

variable {state : PluginState} {orphans : List (Nat × HandleKind)}

theorem log_mem_held {handle : Nat} (log : state.logHandle = some handle) :
    handle ∈ (state.held ++ orphans).map Prod.fst := by
  refine List.mem_map_of_mem (f := Prod.fst) (List.mem_append_left _
    (List.mem_append_left _ ?_) : (handle, HandleKind.log) ∈ _)
  rw [log]
  exact List.mem_cons_self

theorem held_of_producer {producer : KafkaProducer} (kept : state.kafkaProducer = some producer) :
    state.held = state.logHandle.toList.map (·, .log) ++ producer.held := by
  rw [held, kept, Option.toList_some, List.flatMap_singleton]

namespace Holds

/-- Logging changes nothing but the log. -/
theorem log_eq (holds : state.Holds orphans) (isSome : state.logHandle.isSome)
    (texts : List String) : state.log texts = { state with logged := state.logged ++ texts } := by
  obtain ⟨handle, log⟩ := Option.isSome_iff_exists.mp isSome
  simp only [PluginState.log, log, onHeap, holds.owns.use (log_mem_held log)]

theorem log_nil (holds : state.Holds orphans) : state.log [] = state := by
  cases log : state.logHandle with
  | none => rw [PluginState.log, log]
  | some handle =>
    rw [holds.log_eq (log ▸ rfl), List.append_nil]

theorem destroyLog (holds : state.Holds orphans) :
    state.destroyLog.Holds orphans ∧
      state.destroyLog = { state with
        logHandle := none, handles := state.destroyLog.handles } := by
  cases log : state.logHandle with
  | none =>
    have same : state.destroyLog = state := by rw [PluginState.destroyLog, log]
    rw [same]
    refine ⟨holds, ?_⟩
    cases state
    cases log
    rfl
  | some handle =>
    have owns := holds.owns
    rw [held, log] at owns
    simp only [PluginState.destroyLog, log]
    exact ⟨⟨owns.free, holds.rooted, holds.producer⟩, rfl⟩

/-- The producer is torn down beside the log. -/
theorem delete (holds : state.Holds orphans) {producer : KafkaProducer}
    (kept : state.kafkaProducer = some producer) :
    ({ state.onHeap producer.delete with kafkaProducer := none } : PluginState).Holds orphans := by
  have owns := holds.owns
  rw [held_of_producer kept] at owns
  have wellFormed := holds.producer producer kept
  refine ⟨?_, holds.rooted, nofun⟩
  have apart := owns.perm ((List.perm_append_comm.append_right orphans).trans
    (List.Perm.of_eq (List.append_assoc _ _ _)))
  have rooted : Rooted HandleKind.parent
      (state.logHandle.toList.map (·, HandleKind.log) ++ orphans) := by
    refine Rooted.append ?_ holds.rooted
    cases state.logHandle with
    | none => exact Rooted.nil
    | some handle => exact Rooted.singleton rfl
  have deleted := producer.delete_owns wellFormed apart rooted
  rw [held]
  simpa only [onHeap, Option.toList_none, List.flatMap_nil, List.append_nil] using deleted

/-- A plugin that is destroyed holds nothing. -/
theorem tiFeaturesDestroy (holds : state.Holds orphans)
    (on : state.kafkaProducer.isSome → state.bridges.sendKafkaFlag = true) :
    (tiFeaturesDestroy state).Holds orphans ∧ (tiFeaturesDestroy state).Stopped := by
  rw [TiFeatures.tiFeaturesDestroy, holds.log_nil, featConfigDestroy]
  obtain ⟨quiet, quiet_eq⟩ := holds.destroyLog
  have log_eq : state.destroyLog.logHandle = none := by rw [quiet_eq]
  have producer_eq : state.destroyLog.kafkaProducer = state.kafkaProducer := by rw [quiet_eq]
  have bridges_eq : state.destroyLog.bridges = state.bridges := by rw [quiet_eq]
  rw [← producer_eq, ← bridges_eq] at on
  generalize state.destroyLog = silent at quiet log_eq on ⊢
  cases kept : silent.kafkaProducer with
  | none =>
    dsimp only
    rw [ite_self]
    exact ⟨quiet, log_eq, kept⟩
  | some producer =>
    dsimp only
    rw [kept] at on
    rw [if_pos (on rfl)]
    exact ⟨quiet.delete kept, log_eq, rfl⟩

end Holds

/-! ### Reading the configuration -/

/-- A state on the way: the log is there, the producer not yet. -/
structure Opened (state : PluginState) (orphans : List (Nat × HandleKind)) : Prop where
  holds : state.Holds orphans
  log : state.logHandle.isSome
  kafkaProducer_eq : state.kafkaProducer = none

namespace Opened

/-- The settings can change. -/
theorem bridges (opened : state.Opened orphans) (bridges : BridgeConfig) :
    ({ state with bridges } : PluginState).Opened orphans :=
  ⟨⟨opened.holds.owns, opened.holds.rooted, opened.holds.producer⟩, opened.log,
    opened.kafkaProducer_eq⟩

/-- Reading that fails before there is a producer leaves nothing. -/
theorem giveUp (opened : state.Opened orphans) :
    (state.log []).destroyLog.Holds orphans ∧ (state.log []).destroyLog.Stopped := by
  rw [opened.holds.log_nil]
  obtain ⟨quiet, quiet_eq⟩ := opened.holds.destroyLog
  refine ⟨quiet, ?_⟩
  rw [quiet_eq]
  exact ⟨rfl, opened.kafkaProducer_eq⟩

end Opened

/-- The bridge of the server names is off, or it can be had. -/
def sniBridgeOk (profile : OutputProfile) (returns : ReadReturns) : Bool :=
  !profile.sniBridgeFlag.getD true ||
    (!decide (returns.streamBridgeBuild < 0) && !decide (returns.registerDataFreeCb < 0))

theorem Opened.buildSniBridge (opened : state.Opened orphans) {profile : OutputProfile}
    (returns : ReadReturns) (flag : state.bridges.sniBridgeFlag = profile.sniBridgeFlag.getD true) :
    let result := buildSniBridge returns state
    result.1 = sniBridgeOk profile returns ∧
      if result.1 then result.2.Opened orphans else result.2.Holds orphans ∧ result.2.Stopped := by
  unfold TiFeatures.buildSniBridge sniBridgeOk
  rw [← flag]
  cases state.bridges.sniBridgeFlag with
  | false =>
    rw [opened.holds.log_nil]
    exact ⟨rfl, opened⟩
  | true =>
    have named := opened.bridges { state.bridges with sniBridgeId := returns.streamBridgeBuild }
    simp only [if_true]
    by_cases noBridge : returns.streamBridgeBuild < 0
    · rw [if_pos noBridge, decide_eq_true noBridge]
      exact ⟨rfl, named.giveUp⟩
    · rw [if_neg noBridge, decide_eq_false noBridge, named.holds.log_nil]
      by_cases noCallback : returns.registerDataFreeCb < 0
      · rw [if_pos noCallback, decide_eq_true noCallback]
        exact ⟨rfl, named.giveUp⟩
      · rw [if_neg noCallback, decide_eq_false noCallback, named.holds.log_nil]
        exact ⟨rfl, named⟩

theorem Opened.findFeatureBridge (opened : state.Opened orphans) (returns : ReadReturns) :
    (findFeatureBridge returns state).Opened orphans := by
  have named := opened.bridges { state.bridges with featureBridgeId := returns.brgid }
  unfold TiFeatures.findFeatureBridge
  rw [opened.holds.log_nil]
  dsimp only
  rw [named.holds.log_nil, ite_self]
  split
  · exact named
  · exact opened

/-- What reading the outputs leaves: a state that is ready or one that has nothing, and what was
lost on the way. -/
structure ReadOutputs (ok : Bool) (state : PluginState) (lost : Bool)
    (orphans : List (Nat × HandleKind)) : Prop where
  holds : ∃ confs : List (Nat × HandleKind),
    confs.map Prod.snd = (if lost then [.conf] else []) ∧ state.Holds (confs ++ orphans)
  ready : ok = true → state.Ready
  stopped : ok = false → state.Stopped
  switched : state.kafkaProducer.isSome → state.bridges.sendKafkaFlag = true

theorem ReadOutputs.of_stopped {lost : Bool} (confs : List (Nat × HandleKind))
    (kinds : confs.map Prod.snd = if lost then [.conf] else [])
    (holds : state.Holds (confs ++ orphans)) (stopped : state.Stopped) :
    ReadOutputs false state lost orphans := by
  refine ⟨⟨confs, kinds, holds⟩, nofun, fun _ => stopped, fun isSome => ?_⟩
  rw [stopped.kafkaProducer_eq] at isSome
  cases isSome

/-- A producer that is given up leaves nothing. -/
theorem Holds.dropProducer (holds : state.Holds orphans) {producer : KafkaProducer}
    (kept : state.kafkaProducer = some producer) :
    (dropProducer producer state).Holds orphans ∧ (dropProducer producer state).Stopped := by
  obtain ⟨quiet, quiet_eq⟩ := (holds.delete kept).destroyLog
  have dropped : TiFeatures.dropProducer producer state =
      ({ state.onHeap producer.delete with kafkaProducer := none } : PluginState).destroyLog := by
    rw [TiFeatures.dropProducer, holds.log_nil, PluginState.destroyLog, PluginState.destroyLog]
    cases log : state.logHandle with
    | none => simp only [onHeap, log]
    | some handle => simp only [onHeap, log]
  rw [dropped]
  refine ⟨quiet, ?_⟩
  rw [quiet_eq]
  exact ⟨rfl, rfl⟩

/-- The handles of an opened state are those of its log. -/
theorem Opened.held_eq (opened : state.Opened orphans) :
    state.held = state.logHandle.toList.map (·, .log) := by
  rw [held, opened.kafkaProducer_eq, Option.toList_none, List.flatMap_nil, List.append_nil]

/-- The log hangs on nothing. -/
theorem log_rooted (state : PluginState) :
    Rooted HandleKind.parent (state.logHandle.toList.map (·, HandleKind.log)) := by
  cases state.logHandle with
  | none => exact Rooted.nil
  | some handle => exact Rooted.singleton rfl

/-- An opened state takes a producer that holds its own handles. -/
theorem attach_holds (rooted : Rooted HandleKind.parent orphans) {producer : KafkaProducer}
    (wellFormed : producer.WellFormed) {heap : Heap HandleKind}
    {confs : List (Nat × HandleKind)} (loose : Rooted HandleKind.parent confs)
    (owns : heap.Owns (producer.held ++
      (confs ++ (state.logHandle.toList.map (·, .log) ++ orphans)))) :
    (state.attach producer heap).Holds (confs ++ orphans) := by
  refine ⟨?_, loose.append rooted, fun kept same => ?_⟩
  · rw [held_of_producer rfl]
    refine owns.perm ?_
    have moved := (List.perm_append_comm_assoc confs
      (state.logHandle.toList.map (·, HandleKind.log)) orphans).append_left producer.held
    exact moved.trans ((List.perm_append_comm_assoc _ _ _).trans
      (List.Perm.of_eq (List.append_assoc _ _ _).symm))
  · obtain rfl := Option.some.inj same
    exact wellFormed

/-- A state whose producer is connected gets the handle of its topic, or gives the producer up. -/
theorem createTopic_spec (returns : ReadReturns) {producer : KafkaProducer} {lost : Bool}
    {confs : List (Nat × HandleKind)} (kinds : confs.map Prod.snd = if lost then [.conf] else [])
    (loose : Rooted HandleKind.parent confs) (holds : state.Holds (confs ++ orphans))
    (rooted : Rooted HandleKind.parent orphans) (log : state.logHandle.isSome)
    (kept : state.kafkaProducer = some producer) (connected : producer.kafka.join.isSome)
    (on : state.bridges.sendKafkaFlag = true) :
    let result := createTopic returns producer state
    ReadOutputs result.1 result.2 lost orphans := by
  have owns := holds.owns
  rw [held_of_producer kept] at owns
  have apart := owns.perm ((List.perm_append_comm.append_right _).trans
    ((List.Perm.of_eq (List.append_assoc _ _ _)).trans
      ((List.perm_append_comm_assoc _ confs orphans).append_left _)))
  have created := producer.createTopicHandle_created state.topicName returns.topic
    (holds.producer producer kept) apart
  unfold createTopic
  generalize producer.createTopicHandle state.topicName returns.topic state.handles.heap = made
    at created ⊢
  obtain ⟨handle, next, heap⟩ := made
  have attached : (state.attach next heap).Holds (confs ++ orphans) :=
    attach_holds rooted created.wellFormed loose created.owns
  cases handle with
  | none =>
    obtain ⟨dropped, stopped⟩ := attached.dropProducer rfl
    exact .of_stopped confs kinds dropped stopped
  | some rkt =>
    dsimp only
    rw [attached.log_nil]
    obtain ⟨connection, join_eq⟩ := Option.isSome_iff_exists.mp connected
    have stillConnected : next.kafka = some (some connection) :=
      created.kafka_eq.trans (Option.join_eq_some_iff.mp join_eq)
    exact ⟨⟨confs, kinds, attached⟩,
      fun _ => ⟨log, fun _ => ⟨next, connection, rkt, rfl, stillConnected, created.found rkt rfl⟩⟩,
      nofun, fun _ => on⟩

theorem Opened.connectKafka (opened : state.Opened orphans) (profile : OutputProfile)
    (returns : ReadReturns) (on : state.bridges.sendKafkaFlag = true) :
    let result := connectKafka profile returns state
    ReadOutputs result.1 result.2
      (profile.kafkaBrokers.isSome && !returns.connection.kafkaNew) orphans := by
  unfold TiFeatures.connectKafka
  cases profile.kafkaBrokers with
  | none => exact .of_stopped [] rfl opened.giveUp.1 opened.giveUp.2
  | some brokers =>
    have owns := opened.holds.owns
    rw [opened.held_eq] at owns
    have connection := KafkaProducer.kafkaConnection_owns returns.connection
      ⟨state.handles.heap.kinds.length, brokers, none, []⟩ rfl
      (owns.push .producer) (state.log_rooted.append opened.holds.rooted)
    obtain ⟨confs, kinds, loose, confs_eq⟩ : ∃ confs : List (Nat × HandleKind),
        confs.map Prod.snd = (if !returns.connection.kafkaNew then [.conf] else []) ∧
        Rooted HandleKind.parent confs ∧ confs =
          if returns.connection.kafkaNew then []
          else [((state.handles.heap.push .producer).kinds.length, .conf)] := by
      cases returns.connection.kafkaNew with
      | true => exact ⟨[], rfl, Rooted.nil, rfl⟩
      | false => exact ⟨[_], rfl, Rooted.singleton rfl, rfl⟩
    rw [← confs_eq] at connection
    unfold newKafkaProducer
    dsimp only
    generalize KafkaProducer.kafkaConnection returns.connection _ _ = made at connection ⊢
    obtain ⟨connRet, producer, heap⟩ := made
    obtain ⟨wellFormed, empty, isConnected, owns⟩ := connection
    have attached : (state.attach producer heap).Holds (confs ++ orphans) :=
      attach_holds opened.holds.rooted wellFormed loose owns
    by_cases failed : connRet = 0
    · have topic : ({ state.attach producer heap with
          topicName := profile.kafkaTopic.getD "flow_features" } : PluginState).Holds
            (confs ++ orphans) := ⟨attached.owns, attached.rooted, attached.producer⟩
      dsimp only
      rw [if_neg (not_not_intro failed), attached.log_nil]
      exact createTopic_spec returns kinds loose topic opened.holds.rooted opened.log rfl
        (isConnected failed) on
    · dsimp only
      rw [if_pos failed]
      obtain ⟨dropped, stopped⟩ := attached.dropProducer rfl
      exact .of_stopped confs kinds dropped stopped

/-- Reading the configuration comes to a connection that cannot be made. -/
def losesConf (profile : OutputProfile) (returns : ReadReturns) : Bool :=
  returns.logHandle && sniBridgeOk profile returns && profile.sendKafkaFlag.getD false &&
    (profile.kafkaBrokers.isSome && !returns.connection.kafkaNew)

/-- What is lost if reading ends early. -/
theorem ReadOutputs.of_early {lost : Bool} (none : lost = false) (holds : state.Holds orphans)
    (stopped : state.Stopped) : ReadOutputs false state lost orphans := by
  subst none
  exact .of_stopped [] rfl holds stopped

theorem ReadOutputs.log_nil {ok lost : Bool} (read : ReadOutputs ok state lost orphans) :
    state.log [] = state :=
  read.holds.elim fun _ found => found.2.log_nil

theorem Opened.takeOutputs (opened : state.Opened orphans) {profile : OutputProfile}
    (returns : ReadReturns) (flag : state.bridges.sniBridgeFlag = profile.sniBridgeFlag.getD true) :
    let result := takeOutputs profile returns state
    ReadOutputs result.1 result.2
      (sniBridgeOk profile returns && profile.sendKafkaFlag.getD false &&
        (profile.kafkaBrokers.isSome && !returns.connection.kafkaNew)) orphans := by
  obtain ⟨ok_eq, built⟩ := opened.buildSniBridge returns flag
  unfold TiFeatures.takeOutputs
  rw [← ok_eq]
  generalize TiFeatures.buildSniBridge returns state = made at built ⊢
  obtain ⟨ok, next⟩ := made
  cases ok with
  | false => exact .of_early rfl built.1 built.2
  | true =>
    have found := (Opened.findFeatureBridge built returns).bridges
      { (TiFeatures.findFeatureBridge returns next).bridges with
        sendKafkaFlag := profile.sendKafkaFlag.getD false
        outputToLog := profile.outputToLog.getD true }
    dsimp only
    cases on : profile.sendKafkaFlag.getD false with
    | false =>
      rw [on] at found
      rw [found.holds.log_nil]
      refine ⟨⟨[], rfl, found.holds⟩, fun _ => ⟨found.log, nofun⟩, nofun, fun isSome => ?_⟩
      rw [found.kafkaProducer_eq] at isSome
      cases isSome
    | true =>
      rw [on] at found
      have read := found.connectKafka profile returns rfl
      rw [if_pos rfl]
      generalize TiFeatures.connectKafka profile returns _ = made at read ⊢
      obtain ⟨ok, last⟩ := made
      cases ok with
      | false => exact read
      | true =>
        dsimp only
        rw [read.log_nil]
        exact read

theorem featConfigReadOutputs_spec (holds : state.Holds orphans) (stopped : state.Stopped)
    (profile : OutputProfile) (returns : ReadReturns) :
    let result := featConfigReadOutputs profile returns state
    ReadOutputs (result.1 = 0) result.2 (losesConf profile returns) orphans := by
  have owns := holds.owns
  rw [held, stopped.logHandle_eq, stopped.kafkaProducer_eq] at owns
  have init : (featConfigInit state).Holds orphans := ⟨owns, holds.rooted, nofun⟩
  unfold featConfigReadOutputs losesConf
  cases returns.logHandle with
  | false =>
    dsimp only
    rw [init.log_nil]
    exact .of_early rfl init ⟨rfl, rfl⟩
  | true =>
    have created : (createLog (profile.logLevel.getD 10) returns (featConfigInit state)).Holds
        orphans := ⟨owns.push .log, holds.rooted, nofun⟩
    have opened : (openLog profile returns (featConfigInit state)).Opened orphans := by
      rw [openLog, created.log_nil]
      exact ⟨⟨created.owns, created.rooted, created.producer⟩, rfl, rfl⟩
    have read := opened.takeOutputs returns rfl
    have isOpen : ¬ (!true) = true := nofun
    rw [if_neg isOpen, Bool.true_and]
    generalize TiFeatures.takeOutputs profile returns _ = made at read ⊢
    obtain ⟨ok, next⟩ := made
    cases ok with
    | false => exact read
    | true => exact read

/-- What initialising leaves. -/
theorem tiFeaturesInit_spec (holds : state.Holds orphans) (stopped : state.Stopped)
    (profile : OutputProfile) (returns : ReadReturns) :
    let result := tiFeaturesInit profile returns state
    (result.1 = 0 ∨ result.1 = -1) ∧
      ReadOutputs (result.1 = 0) result.2 (losesConf profile returns) orphans := by
  have read := featConfigReadOutputs_spec holds stopped profile returns
  unfold tiFeaturesInit
  rw [holds.log_nil]
  generalize featConfigReadOutputs profile returns state = made at read ⊢
  obtain ⟨result, next⟩ := made
  dsimp only at read ⊢
  rw [read.log_nil]
  by_cases ok : result = 0
  · subst ok
    exact ⟨Or.inl rfl, read⟩
  · rw [if_pos ok]
    rw [decide_eq_false ok] at read
    exact ⟨Or.inr rfl, read⟩

/-! ### The level of the log -/

theorem log_debugLines (texts : List String) (state : PluginState) :
    (state.log texts).debugLines = state.debugLines := by
  unfold log
  split <;> rfl

theorem destroyLog_debugLines (state : PluginState) :
    state.destroyLog.debugLines = state.debugLines := by
  unfold destroyLog
  split <;> rfl

theorem buildSniBridge_debugLines (returns : ReadReturns) (state : PluginState) :
    (buildSniBridge returns state).2.debugLines = state.debugLines := by
  unfold buildSniBridge
  dsimp only
  split_ifs <;> simp only [log_debugLines, destroyLog_debugLines]

theorem findFeatureBridge_debugLines (returns : ReadReturns) (state : PluginState) :
    (findFeatureBridge returns state).debugLines = state.debugLines := by
  unfold findFeatureBridge
  dsimp only
  split_ifs <;> simp only [log_debugLines]

theorem dropProducer_debugLines (producer : KafkaProducer) (state : PluginState) :
    (dropProducer producer state).debugLines = state.debugLines :=
  (destroyLog_debugLines _).trans (log_debugLines [] state)

theorem createTopic_debugLines (returns : ReadReturns) (producer : KafkaProducer)
    (state : PluginState) : (createTopic returns producer state).2.debugLines =
      state.debugLines := by
  unfold createTopic
  dsimp only
  split
  · exact dropProducer_debugLines _ _
  · exact log_debugLines [] _

theorem connectKafka_debugLines (profile : OutputProfile) (returns : ReadReturns)
    (state : PluginState) :
    (connectKafka profile returns state).2.debugLines = state.debugLines := by
  unfold connectKafka
  cases profile.kafkaBrokers with
  | none => exact (destroyLog_debugLines _).trans (log_debugLines [] state)
  | some brokers =>
    dsimp only
    split_ifs
    · exact (dropProducer_debugLines _ _).trans rfl
    · exact (createTopic_debugLines _ _ _).trans (log_debugLines [] _)

theorem takeOutputs_debugLines (profile : OutputProfile) (returns : ReadReturns)
    (state : PluginState) :
    (takeOutputs profile returns state).2.debugLines = state.debugLines := by
  have built := buildSniBridge_debugLines returns state
  unfold takeOutputs
  generalize buildSniBridge returns state = made at built ⊢
  obtain ⟨ok, next⟩ := made
  cases ok with
  | false => exact built
  | true =>
    have found := (findFeatureBridge_debugLines returns next).trans built
    dsimp only
    split
    · split
      · rename_i connect_eq
        have same := congrArg (fun made => made.2.debugLines) connect_eq
        exact same.symm.trans ((connectKafka_debugLines profile returns _).trans found)
      · rename_i connect_eq
        have same := congrArg (fun made => made.2.debugLines) connect_eq
        exact (log_debugLines [] _).trans
          (same.symm.trans ((connectKafka_debugLines profile returns _).trans found))
    · exact (log_debugLines [] _).trans found

/-- A plugin that is initialised logs its debug lines if the log library writes those of the
level that is configured. -/
theorem tiFeaturesInit_debugLines {profile : OutputProfile} {returns : ReadReturns}
    {state ready : PluginState} (started : tiFeaturesInit profile returns state = (0, ready)) :
    ready.debugLines = returns.writesDebug (profile.logLevel.getD 10) := by
  unfold tiFeaturesInit featConfigReadOutputs at started
  cases got : returns.logHandle with
  | false =>
    rw [got] at started
    cases started
  | true =>
    have taken := takeOutputs_debugLines profile returns
      (openLog profile returns (featConfigInit (state.log [])))
    rw [got] at started
    dsimp only at started
    rw [if_neg (show ¬ (!true) = true from nofun)] at started
    generalize takeOutputs profile returns _ = made at started taken
    obtain ⟨ok, next⟩ := made
    cases ok with
    | false => cases started
    | true =>
      obtain rfl : next.log [] = ready := (Prod.mk.inj started).2
      exact (log_debugLines [] next).trans (taken.trans (log_debugLines [] _))

/-! ### Closing flows -/

/-- One more handle beside those the state leads to. -/
theorem Holds.push (holds : state.Holds orphans) {kind : HandleKind} (root : kind.parent = none) :
    (state.onHeap (·.push kind)).Holds ((state.handles.heap.kinds.length, kind) :: orphans) :=
  ⟨(holds.owns.push kind).perm List.perm_middle.symm,
    (Rooted.singleton root).append holds.rooted, holds.producer⟩

theorem Holds.free {object : Nat} {kind : HandleKind}
    (holds : state.Holds ((object, kind) :: orphans))
    (rooted : Rooted HandleKind.parent orphans) : (state.onHeap (·.free object)).Holds orphans :=
  ⟨holds.owns.free_middle _, rooted, holds.producer⟩

theorem Holds.use (holds : state.Holds orphans) {entry : Nat × HandleKind}
    (member : entry ∈ orphans) : state.onHeap (·.use entry.1) = state := by
  have used := holds.owns.use (List.mem_map_of_mem (f := Prod.fst)
    (List.mem_append_right state.held member))
  rw [onHeap, used]

/-- Messages handed to Kafka. -/
def produce (entries : List Produced) (state : PluginState) : PluginState :=
  { state with handles := { state.handles with produced := state.handles.produced ++ entries } }

/-- The handle of the configured topic. -/
def topicHandle (state : PluginState) : Option Nat :=
  state.kafkaProducer.bind fun producer => producer.topicHandleMap.lookup state.topicName

/-- The message a text makes, if the plugin sends to Kafka and the text is not empty. -/
def messages (state : PluginState) (text : String) (status : Int) : List Produced :=
  if state.bridges.sendKafkaFlag && decide (text ≠ "") then
    state.topicHandle.toList.map (⟨·, text, status⟩)
  else []

theorem sendFeatures_ready (ready : state.Ready) (holds : state.Holds orphans) {out : Nat}
    {kind : HandleKind} (live : (out, kind) ∈ orphans) (text : String) (returns : SendReturns) :
    sendFeatures text out returns state =
      some (state.produce (state.messages text returns.produce)) := by
  unfold sendFeatures messages
  cases on : state.bridges.sendKafkaFlag with
  | false =>
    have same : state.produce [] = state := by
      rw [produce, List.append_nil]
    rw [if_neg Bool.false_ne_true, Bool.false_and, if_neg Bool.false_ne_true, same]
  | true =>
    obtain ⟨producer, connection, rkt, kept, connected, found⟩ := ready.kafka on
    have owns := holds.owns
    rw [held_of_producer kept, List.append_assoc] at owns
    have apart := owns.perm (List.perm_append_comm_assoc _ _ _)
    have sent := KafkaProducer.sendData_of_lookup text text.utf8ByteSize returns connected found
      apart (List.mem_map_of_mem (f := Prod.fst) (List.mem_append_right _ live))
    have queue : producer.messageInQueue state.handles.heap = state.handles.heap :=
      KafkaProducer.callKafka_eq (holds.producer producer kept) apart
    have topic : state.topicHandle = some rkt := by
      rw [topicHandle, kept]
      exact found
    have logged : ∀ entries, ((state.produce entries).onHeap producer.messageInQueue).log [] =
        state.produce entries := by
      intro entries
      have heap_eq : (state.produce entries).onHeap producer.messageInQueue =
          state.produce entries := by
        rw [onHeap, produce, queue]
      have still : (state.produce entries).Holds orphans :=
        ⟨holds.owns, holds.rooted, holds.producer⟩
      rw [heap_eq, still.log_nil]
    have same : ∀ handles, ({ state with kafkaProducer := some producer, handles } : PluginState) =
        { state with handles } := by
      intro handles
      rw [← kept]
    rw [if_pos rfl, kept, Bool.true_and, topic]
    dsimp only
    rw [sent]
    by_cases empty : text = ""
    · have sized : text.utf8ByteSize = 0 := String.utf8ByteSize_eq_zero_iff.mpr empty
      have nothing : state.produce [] = state := by rw [produce, List.append_nil]
      have quiet := logged []
      rw [nothing] at quiet
      have isEmpty : decide (text ≠ "") = false := decide_eq_false (not_not_intro empty)
      rw [if_pos sized, isEmpty, if_neg Bool.false_ne_true, nothing]
      dsimp only
      rw [same]
      exact congrArg some quiet
    · have sized : text.utf8ByteSize ≠ 0 := mt String.utf8ByteSize_eq_zero_iff.mp empty
      rw [if_neg sized, if_pos (decide_eq_true empty)]
      dsimp only
      rw [same]
      refine congrArg some ?_
      split
      · exact logged [⟨rkt, text, returns.produce⟩]
      · rfl

/-- What closing flows leaves: the settings and the handles as they were, more messages and lines
in the log, and the strings of the bridges. -/
structure Closed (state next : PluginState) (messages : List Produced) (texts : List String)
    (strings : BridgeState) (orphans : List (Nat × HandleKind)) : Prop where
  holds : next.Holds orphans
  logHandle_eq : next.logHandle = state.logHandle
  debugLines_eq : next.debugLines = state.debugLines
  bridges_eq : next.bridges = state.bridges
  topicName_eq : next.topicName = state.topicName
  kafkaProducer_eq : next.kafkaProducer = state.kafkaProducer
  produced_eq : next.handles.produced = state.handles.produced ++ messages
  logged_eq : next.logged = state.logged ++ texts
  strings_eq : next.strings = strings

theorem Closed.refl (holds : state.Holds orphans) :
    Closed state state [] [] state.strings orphans :=
  ⟨holds, rfl, rfl, rfl, rfl, rfl, (List.append_nil _).symm, (List.append_nil _).symm, rfl⟩

theorem Closed.trans {next last : PluginState} {messages more : List Produced}
    {texts others : List String} {strings lastStrings : BridgeState}
    (first : Closed state next messages texts strings orphans)
    (second : Closed next last more others lastStrings orphans) :
    Closed state last (messages ++ more) (texts ++ others) lastStrings orphans where
  holds := second.holds
  logHandle_eq := second.logHandle_eq.trans first.logHandle_eq
  debugLines_eq := second.debugLines_eq.trans first.debugLines_eq
  bridges_eq := second.bridges_eq.trans first.bridges_eq
  topicName_eq := second.topicName_eq.trans first.topicName_eq
  kafkaProducer_eq := second.kafkaProducer_eq.trans first.kafkaProducer_eq
  produced_eq := by rw [second.produced_eq, first.produced_eq, List.append_assoc]
  logged_eq := by rw [second.logged_eq, first.logged_eq, List.append_assoc]
  strings_eq := second.strings_eq

theorem Closed.ready {next : PluginState} {messages : List Produced} {texts : List String}
    {strings : BridgeState} (closed : Closed state next messages texts strings orphans)
    (ready : state.Ready) : next.Ready := by
  refine ⟨closed.logHandle_eq ▸ ready.log, ?_⟩
  rw [closed.bridges_eq, closed.topicName_eq, closed.kafkaProducer_eq]
  exact ready.kafka

section Flows

variable {D : Type} [Double D] (cfg : FeatureConfig) (platform : Platform D)
  (print : Output D → String)

/-- The lines of the log that hold the features of a flow. -/
def lines (state : PluginState) (text : String) : List String :=
  if state.bridges.outputToLog && state.debugLines then [text] else []

omit [Double D] in
theorem writeFeatures_ready (ready : state.Ready) (holds : state.Holds orphans) (text : String)
    (flow : PluginClose D) : ∃ next, writeFeatures text flow state = some next ∧
      Closed state next (state.messages text flow.send.produce) (state.lines text)
        (putFeatures state.bridges text flow.stream flow.returns state.strings) orphans := by
  let sent := (state.onHeap (·.push .printed)).produce (state.messages text flow.send.produce)
  let logged := { sent with logged := sent.logged ++ state.lines text }
  let bridged := { logged with
    strings := putFeatures state.bridges text flow.stream flow.returns state.strings }
  have pushed : (state.onHeap (·.push .printed)).Holds _ := holds.push rfl
  have live : (state.handles.heap.kinds.length, HandleKind.printed) ∈
      (state.handles.heap.kinds.length, HandleKind.printed) :: orphans := List.mem_cons_self
  have pushedReady : (state.onHeap (·.push .printed)).Ready := ⟨ready.log, ready.kafka⟩
  have sent_eq : sendFeatures text state.handles.heap.kinds.length flow.send
      (state.onHeap (·.push .printed)) = some sent :=
    sendFeatures_ready pushedReady pushed live text flow.send
  have sentHolds : sent.Holds ((state.handles.heap.kinds.length, .printed) :: orphans) :=
    ⟨pushed.owns, pushed.rooted, pushed.producer⟩
  have logged_eq : logFeatures text state.handles.heap.kinds.length sent = logged := by
    rw [logFeatures, sentHolds.use live, sentHolds.log_eq ready.log]
    show (if state.bridges.outputToLog then { sent with
      logged := sent.logged ++ if state.debugLines then [text] else [] } else sent) = _
    simp only [logged, lines]
    cases state.bridges.outputToLog with
    | true => rfl
    | false =>
      rw [Bool.false_and, if_neg Bool.false_ne_true, if_neg Bool.false_ne_true, List.append_nil]
  have bridgedHolds : bridged.Holds ((state.handles.heap.kinds.length, .printed) :: orphans) :=
    ⟨pushed.owns, pushed.rooted, pushed.producer⟩
  have bridged_eq : bridgeFeatures text state.handles.heap.kinds.length flow.stream flow.returns
      logged = bridged := by
    unfold bridgeFeatures
    show (if _ then (bridged.onHeap (·.use state.handles.heap.kinds.length)).log []
      else bridged) = bridged
    rw [bridgedHolds.use live, bridgedHolds.log_nil, ite_self]
  refine ⟨bridged.onHeap (·.free state.handles.heap.kinds.length), ?_, ?_⟩
  · rw [writeFeatures, sent_eq, Option.map_some, logged_eq, bridged_eq]
  · exact ⟨bridgedHolds.free holds.rooted, rfl, rfl, rfl, rfl, rfl, rfl, rfl, rfl⟩

/-- The messages and the lines of a flow that closes. -/
def flowMessages (state : PluginState) (flow : PluginClose D) : List Produced :=
  (flow.text cfg platform print state.bridges).toList.flatMap
    (state.messages · flow.send.produce)

def flowLines (state : PluginState) (flow : PluginClose D) : List String :=
  (flow.text cfg platform print state.bridges).toList.flatMap state.lines

/-- A flow that closes is written once to every output that is on. -/
theorem closeFlow_ready (ready : state.Ready) (holds : state.Holds orphans)
    (flow : PluginClose D) : ∃ next, closeFlow cfg platform print flow state = some next ∧
      Closed state next (state.flowMessages cfg platform print flow)
        (state.flowLines cfg platform print flow)
        (trafficProcessClose cfg platform print state.bridges flow.toFlowClose state.strings)
        orphans := by
  unfold closeFlow flowMessages flowLines PluginClose.text trafficProcessClose
  cases kept : flow.state with
  | none => exact ⟨state, rfl, .refl holds⟩
  | some flowState =>
    dsimp only
    rw [holds.log_nil, Option.bind_some]
    cases flow.created with
    | false => exact ⟨state, rfl, .refl holds⟩
    | true =>
      have pushed : (state.onHeap (·.push .output)).Holds _ := holds.push rfl
      have pushedReady : (state.onHeap (·.push .output)).Ready := ⟨ready.log, ready.kafka⟩
      rw [if_pos rfl, Bool.true_and, pushed.use List.mem_cons_self]
      -- the settings that are tested are those of the state
      show ∃ next, Option.map _ (if (state.bridges.sendKafkaFlag || state.bridges.outputToLog ||
        state.bridges.featureBridgeFlag) && flow.printed then _ else _) = some next ∧ _
      have idle := Closed.refl (pushed.free holds.rooted)
      cases state.bridges.sendKafkaFlag || state.bridges.outputToLog ||
        state.bridges.featureBridgeFlag with
      | false =>
        exact ⟨_, rfl, idle.holds, rfl, rfl, rfl, rfl, rfl, idle.produced_eq, idle.logged_eq, rfl⟩
      | true =>
        cases flow.printed with
        | false =>
          exact ⟨_, rfl, idle.holds, rfl, rfl, rfl, rfl, rfl, idle.produced_eq, idle.logged_eq,
            rfl⟩
        | true =>
          obtain ⟨next, written, closed⟩ := writeFeatures_ready pushedReady pushed (print
            (flowStateComputeFeatures cfg platform flow.streamType flow.packet flowState.view)) flow
          rw [Bool.and_true, if_pos rfl, if_pos rfl, if_pos rfl, if_pos rfl, written,
            Option.map_some, Option.toList_some, List.flatMap_singleton, List.flatMap_singleton]
          exact ⟨_, rfl, closed.holds.free holds.rooted, closed.logHandle_eq,
            closed.debugLines_eq, closed.bridges_eq, closed.topicName_eq,
            closed.kafkaProducer_eq, closed.produced_eq, closed.logged_eq, closed.strings_eq⟩

theorem Closed.flowMessages_eq {next : PluginState} {messages : List Produced}
    {texts : List String} {strings : BridgeState}
    (closed : Closed state next messages texts strings orphans) :
    next.flowMessages cfg platform print = state.flowMessages cfg platform print ∧
      next.flowLines cfg platform print = state.flowLines cfg platform print := by
  have topic_eq : next.topicHandle = state.topicHandle := by
    rw [topicHandle, closed.kafkaProducer_eq, closed.topicName_eq, topicHandle]
  have lines_eq : next.lines = state.lines := by
    unfold lines
    rw [closed.bridges_eq, closed.debugLines_eq]
  refine ⟨funext fun flow => ?_, funext fun flow => ?_⟩
  · simp only [flowMessages, PluginState.messages, closed.bridges_eq, topic_eq]
  · rw [flowLines, flowLines, lines_eq, closed.bridges_eq]

/-- Flows that close one after the other are written in this order. -/
theorem closeFlows_ready (ready : state.Ready) (holds : state.Holds orphans)
    (closes : List (PluginClose D)) :
    ∃ next, closeFlows cfg platform print closes state = some next ∧
      Closed state next (closes.flatMap (state.flowMessages cfg platform print))
        (closes.flatMap (state.flowLines cfg platform print))
        (closes.foldl (fun strings flow =>
          trafficProcessClose cfg platform print state.bridges flow.toFlowClose strings)
          state.strings) orphans := by
  induction closes generalizing state with
  | nil => exact ⟨state, rfl, .refl holds⟩
  | cons flow rest inductionHypothesis =>
    obtain ⟨next, one, closed⟩ := closeFlow_ready cfg platform print ready holds flow
    obtain ⟨last, all, others⟩ := inductionHypothesis (closed.ready ready) closed.holds
    obtain ⟨messages_eq, lines_eq⟩ := closed.flowMessages_eq cfg platform print
    refine ⟨last, ?_, ?_⟩
    · rw [closeFlows, List.foldlM_cons, one]
      exact all
    · rw [messages_eq, lines_eq, closed.bridges_eq, closed.strings_eq] at others
      exact closed.trans others

/-! ### Sessions -/

/-- A session from a plugin that holds nothing leaves one that holds nothing, and has lost the
configuration of a connection that could not be made. -/
theorem Session.run_holds (holds : state.Holds orphans) (stopped : state.Stopped)
    (session : Session D) : ∃ next, session.run cfg platform print state = some next ∧
      next.Stopped ∧ ∃ confs : List (Nat × HandleKind),
        confs.map Prod.snd =
          (if losesConf session.profile session.returns then [.conf] else []) ∧
        next.Holds (confs ++ orphans) := by
  obtain ⟨result, read⟩ := tiFeaturesInit_spec holds stopped session.profile session.returns
  unfold Session.run
  generalize tiFeaturesInit session.profile session.returns state = made at result read ⊢
  obtain ⟨code, next⟩ := made
  obtain ⟨confs, kinds, nextHolds⟩ := read.holds
  rcases result with rfl | rfl
  · obtain ⟨last, closed_eq, closed⟩ := closeFlows_ready cfg platform print (read.ready rfl)
      nextHolds session.closes
    have destroyed := closed.holds.tiFeaturesDestroy fun isSome => by
      rw [closed.kafkaProducer_eq] at isSome
      rw [closed.bridges_eq]
      exact read.switched isSome
    exact ⟨_, congrArg (Option.map tiFeaturesDestroy) closed_eq, destroyed.2, confs, kinds,
      destroyed.1⟩
  · have none := read.stopped rfl
    have destroyed := nextHolds.tiFeaturesDestroy read.switched
    cases session.destroyed with
    | false => exact ⟨_, rfl, none, confs, kinds, nextHolds⟩
    | true => exact ⟨_, rfl, destroyed.2, confs, kinds, destroyed.1⟩

/-- The sessions in which a connection could not be made. -/
def lostConfs (sessions : List (Session D)) : Nat :=
  sessions.countP fun session => losesConf session.profile session.returns

theorem sessionsRun_holds (holds : state.Holds orphans) (stopped : state.Stopped)
    (sessions : List (Session D)) :
    ∃ next, sessions.foldlM (Session.run cfg platform print) state = some next ∧ next.Stopped ∧
      ∃ confs : List (Nat × HandleKind),
        confs.map Prod.snd = List.replicate (lostConfs sessions) .conf ∧
        next.Holds (confs ++ orphans) := by
  induction sessions generalizing state orphans with
  | nil => exact ⟨state, rfl, stopped, [], rfl, holds⟩
  | cons session rest inductionHypothesis =>
    obtain ⟨next, one, nextStopped, lost, lostKinds, nextHolds⟩ :=
      Session.run_holds cfg platform print holds stopped session
    obtain ⟨last, all, lastStopped, confs, kinds, lastHolds⟩ :=
      inductionHypothesis nextHolds nextStopped
    rw [← List.append_assoc] at lastHolds
    refine ⟨last, ?_, lastStopped, confs ++ lost, ?_, lastHolds⟩
    · rw [List.foldlM_cons, one]
      exact all
    · rw [List.map_append, kinds, lostKinds, lostConfs, lostConfs, List.countP_cons]
      split
      · exact List.replicate_succ'.symm
      · exact List.append_nil _

theorem loaded_holds : loaded.Holds [] := ⟨Heap.empty_owns, Rooted.nil, nofun⟩

end Flows

end PluginState

section Flows

variable {D : Type} [Double D] (cfg : FeatureConfig) (platform : Platform D)
  (print : Output D → String)

/-- After any sessions of the plugin, whatever the other libraries return, no null pointer was
called through, nothing was used that was not live, and every handle was given back once but the
configurations of connections that could not be made. -/
theorem sessionsRun_released (sessions : List (Session D)) :
    ∃ state, sessionsRun cfg platform print sessions = some state ∧
      state.logHandle = none ∧ state.kafkaProducer = none ∧
      state.handles.heap.fault = false ∧
      state.handles.heap.liveKinds = List.replicate (PluginState.lostConfs sessions) .conf ∧
      ∀ handle < state.handles.heap.kinds.length, state.handles.heap.freed.count handle =
        if state.handles.heap.live handle then 0 else 1 := by
  obtain ⟨state, run, stopped, confs, kinds, holds⟩ := PluginState.sessionsRun_holds cfg platform
    print PluginState.loaded_holds ⟨rfl, rfl⟩ sessions
  have owns := holds.owns
  rw [PluginState.held, stopped.logHandle_eq, stopped.kafkaProducer_eq] at owns
  refine ⟨state, run, stopped.logHandle_eq, stopped.kafkaProducer_eq, owns.noFault, ?_,
    fun handle inside => ?_⟩
  · have live := owns.liveKinds_perm
    rw [List.append_nil] at live
    exact List.perm_replicate.mp (live.trans (List.Perm.of_eq kinds))
  · rw [owns.count_freed inside]
    exact if_congr (owns.live_iff handle).symm rfl rfl

/-- Three sessions: one closes two flows, one cannot connect, and one has no bridge. -/
theorem sessionsRun_released_three :
    let profile : OutputProfile :=
      ⟨none, none, none, some true, none, some "localhost:9092", none⟩
    let metadata : MetadataReturns := ⟨true, false⟩
    let good : ReadReturns :=
      ⟨true, (· ≤ 10), 1, 0, 2, ⟨true, 1, metadata⟩, ⟨true, metadata⟩⟩
    ∃ (flow : PluginClose Float) (state : PluginState), flow.state.isSome = true ∧
      sessionsRun defaultConfig (barePlatform Float) (fun _ => "{}")
        [⟨profile, good, [flow, flow], true⟩,
          ⟨profile, { good with connection := ⟨false, 1, metadata⟩ }, [], true⟩,
          ⟨profile, { good with streamBridgeBuild := -1 }, [], false⟩] = some state ∧
      state.handles.heap.liveKinds = [.conf] := by
  intro profile metadata good
  obtain ⟨flowState, -⟩ := createFlow_succeed (D := Float) defaultConfig 1
  let flow : PluginClose Float := ⟨⟨1, .tcp, barePacket 1 1 100, some flowState, true, true,
    ⟨true, 0⟩⟩, ⟨⟨true, metadata⟩, 0⟩⟩
  obtain ⟨state, run, -, -, -, live, -⟩ := sessionsRun_released defaultConfig (barePlatform Float)
    (fun _ => "{}") [⟨profile, good, [flow, flow], true⟩,
      ⟨profile, { good with connection := ⟨false, 1, metadata⟩ }, [], true⟩,
      ⟨profile, { good with streamBridgeBuild := -1 }, [], false⟩]
  exact ⟨flow, state, rfl, run, live⟩

/-! ### Delivery -/

/-- What a flow that closes sends to Kafka with the handle of a topic. -/
def PluginClose.message (bridges : BridgeConfig) (rkt : Nat) (flow : PluginClose D) :
    Option Produced :=
  ((flow.text cfg platform print bridges).filter (· ≠ "")).map (⟨rkt, ·, flow.send.produce⟩)

/-- What a flow that closes offers to the bridge: a copy of the text of its features. -/
def PluginClose.offer (bridges : BridgeConfig) (flow : PluginClose D) :
    Option (String × BridgePut) :=
  if bridges.featureBridgeFlag && decide (bridges.featureBridgeId ≥ 0) &&
      flow.returns.mallocOk then
    (flow.text cfg platform print bridges).map
      (·, ⟨flow.stream, bridges.featureBridgeId, flow.returns.put⟩)
  else none

/-- A flow that closes transfers what it offers. -/
theorem trafficProcessClose_offer (bridges : BridgeConfig) (flow : PluginClose D)
    (strings : BridgeState) :
    trafficProcessClose cfg platform print bridges flow.toFlowClose strings =
      match flow.offer cfg platform print bridges with
      | some offer => strings.transfer ⟨.features offer.1, offer.2, false⟩
      | none => strings := by
  obtain ⟨⟨stream, streamType, packet, flowState, created, printed, mallocOk, put⟩, send⟩ := flow
  unfold PluginClose.offer PluginClose.text trafficProcessClose putFeatures
  cases flowState with
  | none =>
    dsimp only [Option.bind_none, Option.map_none]
    rw [ite_self]
  | some flowState =>
    by_cases enabled : (bridges.featureBridgeFlag && decide (bridges.featureBridgeId ≥ 0)) = true
    · obtain ⟨flag, nonneg⟩ := Bool.and_eq_true_iff.mp enabled
      simp only [flag, nonneg, Bool.or_true, Bool.and_true, Bool.true_and, if_true,
        Option.bind_some]
      cases created <;> cases printed <;> cases mallocOk <;> rfl
    · simp only [enabled, Bool.false_and, Bool.false_eq_true, if_false, ite_self]

/-- Flows that close one after the other offer the bridge their features once each, in order. -/
theorem foldl_trafficProcessClose (bridges : BridgeConfig) (closes : List (PluginClose D))
    (strings : BridgeState) :
    let offered := closes.filterMap (PluginClose.offer cfg platform print bridges)
    let next := closes.foldl (fun strings flow =>
      trafficProcessClose cfg platform print bridges flow.toFlowClose strings) strings
    next.heap.kinds = strings.heap.kinds ++
        offered.map (fun offer => BridgeString.features offer.1) ∧
      next.offers = strings.offers ++ (List.range' strings.heap.kinds.length
        offered.length).zip (offered.map Prod.snd) := by
  intro offered next
  have next_eq : next = (offered.map fun offer : String × BridgePut =>
      (⟨.features offer.1, offer.2, false⟩ : Transfer BridgeString BridgePut)).foldl
        Custody.transfer strings := by
    rw [List.foldl_map, List.foldl_filterMap]
    refine congrArg (fun step => closes.foldl step strings) (funext₂ fun strings flow => ?_)
    rw [trafficProcessClose_offer]
    cases flow.offer cfg platform print bridges <;> rfl
  rw [next_eq]
  obtain ⟨kinds_eq, offers_eq⟩ := strings.foldl_transfer (offered.map fun offer =>
    (⟨.features offer.1, offer.2, false⟩ : Transfer BridgeString BridgePut))
  rw [kinds_eq, offers_eq, List.map_map, List.map_map, List.length_map]
  exact ⟨rfl, rfl⟩

/-- The lines of flows that close are their texts, if the log takes debug lines. -/
theorem PluginState.flatMap_flowLines (state : PluginState) (closes : List (PluginClose D)) :
    closes.flatMap (state.flowLines cfg platform print) =
      if state.bridges.outputToLog && state.debugLines then
        closes.filterMap (PluginClose.text cfg platform print state.bridges) else [] := by
  have lines_eq : ∀ flow, state.flowLines cfg platform print flow =
      if state.bridges.outputToLog && state.debugLines then
        (PluginClose.text cfg platform print state.bridges flow).toList else [] := by
    intro flow
    unfold PluginState.flowLines PluginState.lines
    split
    · exact List.flatMap_singleton' _
    · exact List.flatMap_eq_nil_iff.mpr fun _ _ => rfl
  rw [funext lines_eq]
  split
  · rw [List.filterMap_eq_flatMap_toList]
  · exact List.flatMap_eq_nil_iff.mpr fun _ _ => rfl

/-- Flows that close send no message if Kafka is off. -/
theorem PluginState.flatMap_flowMessages_off {state : PluginState}
    (off : state.bridges.sendKafkaFlag = false) (closes : List (PluginClose D)) :
    closes.flatMap (state.flowMessages cfg platform print) = [] := by
  refine List.flatMap_eq_nil_iff.mpr fun flow _ => List.flatMap_eq_nil_iff.mpr fun text _ => ?_
  rw [PluginState.messages, off, Bool.false_and, if_neg Bool.false_ne_true]

/-- Flows that close send a message each to the topic of the features, if there is a text. -/
theorem PluginState.flatMap_flowMessages_on {state : PluginState} {rkt : Nat}
    (on : state.bridges.sendKafkaFlag = true) (topic : state.topicHandle = some rkt)
    (closes : List (PluginClose D)) :
    closes.flatMap (state.flowMessages cfg platform print) =
      closes.filterMap (PluginClose.message cfg platform print state.bridges rkt) := by
  have messages_eq : ∀ flow, state.flowMessages cfg platform print flow =
      (PluginClose.message cfg platform print state.bridges rkt flow).toList := by
    intro flow
    rw [PluginState.flowMessages, PluginClose.message]
    cases flow.text cfg platform print state.bridges with
    | none => rfl
    | some text =>
      rw [Option.toList_some, List.flatMap_singleton, PluginState.messages, on, Bool.true_and,
        topic, Option.filter_some]
      split <;> rfl
  rw [List.filterMap_eq_flatMap_toList, funext messages_eq]

/-- Once the plugin is initialised, the features of every flow that closes go to each output that
is on, once and in the order of closing: to the log, if it is one of a level whose debug lines are
written; to Kafka, with the one handle of the configured topic; and to the bridge, which is offered
a copy of each text. -/
theorem closeFlows_delivers (before : List (Session D)) {state ready : PluginState}
    (ran : sessionsRun cfg platform print before = some state) (profile : OutputProfile)
    (returns : ReadReturns) (started : tiFeaturesInit profile returns state = (0, ready))
    (closes : List (PluginClose D)) :
    let offered := closes.filterMap (PluginClose.offer cfg platform print ready.bridges)
    ∃ next, closeFlows cfg platform print closes ready = some next ∧
      next.logged = ready.logged ++ (if ready.bridges.outputToLog &&
          returns.writesDebug (profile.logLevel.getD 10) then
        closes.filterMap (PluginClose.text cfg platform print ready.bridges) else []) ∧
      (ready.bridges.sendKafkaFlag = false →
        next.handles.produced = ready.handles.produced) ∧
      (ready.bridges.sendKafkaFlag = true → ∃ connection rkt,
        next.handles.heap.kinds[rkt]? = some (.topic connection ready.topicName) ∧
        next.handles.heap.live rkt = true ∧
        next.handles.produced = ready.handles.produced ++
          closes.filterMap (PluginClose.message cfg platform print ready.bridges rkt)) ∧
      next.strings.heap.kinds = ready.strings.heap.kinds ++
        offered.map (fun offer => .features offer.1) ∧
      next.strings.offers = ready.strings.offers ++
        (List.range' ready.strings.heap.kinds.length offered.length).zip
          (offered.map Prod.snd) := by
  intro offered
  obtain ⟨same, sameRun, stopped, confs, -, holds⟩ := PluginState.sessionsRun_holds cfg platform
    print PluginState.loaded_holds ⟨rfl, rfl⟩ before
  obtain rfl : same = state := Option.some.inj (sameRun.symm.trans ran)
  obtain ⟨-, read⟩ := PluginState.tiFeaturesInit_spec holds stopped profile returns
  rw [started] at read
  obtain ⟨lost, -, readyHolds⟩ := read.holds
  have isReady : ready.Ready := read.ready rfl
  obtain ⟨next, closed_eq, closed⟩ := PluginState.closeFlows_ready cfg platform print isReady
    readyHolds closes
  have bridged := foldl_trafficProcessClose cfg platform print ready.bridges closes ready.strings
  dsimp only at bridged
  rw [← closed.strings_eq] at bridged
  refine ⟨next, closed_eq, ?_, fun off => ?_, fun on => ?_, bridged⟩
  · rw [closed.logged_eq, PluginState.flatMap_flowLines,
      PluginState.tiFeaturesInit_debugLines started]
  · rw [closed.produced_eq, PluginState.flatMap_flowMessages_off cfg platform print off,
      List.append_nil]
  · obtain ⟨producer, connection, rkt, kept, connected, found⟩ := isReady.kafka on
    have member : (rkt, .topic connection ready.topicName) ∈ next.held := by
      rw [PluginState.held_of_producer (closed.kafkaProducer_eq.trans kept)]
      exact List.mem_append_right _ (KafkaProducer.mem_held_of_lookup connected found)
    have topic : ready.topicHandle = some rkt := by
      rw [PluginState.topicHandle, kept]
      exact found
    have owns := closed.holds.owns
    refine ⟨connection, rkt, owns.kind _ (List.mem_append_left _ member), ?_, ?_⟩
    · exact (owns.live_iff rkt).mpr (List.mem_map_of_mem (f := Prod.fst)
        (List.mem_append_left _ member))
    · rw [closed.produced_eq, PluginState.flatMap_flowMessages_on cfg platform print on topic]

/-- Two flows that close go to the log, to Kafka and to the bridge. -/
theorem closeFlows_delivers_two :
    let metadata : MetadataReturns := ⟨true, false⟩
    let started := tiFeaturesInit
      ⟨none, none, none, some true, none, some "localhost:9092", none⟩
      ⟨true, (· ≤ 10), 1, 0, 2, ⟨true, 1, metadata⟩, ⟨true, metadata⟩⟩ PluginState.loaded
    ∃ (flow : PluginClose Float) (next : PluginState) (topic : Nat),
      closeFlows defaultConfig (barePlatform Float) (fun _ => "{}")
        [flow, { flow with stream := 2 }] started.2 = some next ∧
      next.logged = ["{}", "{}"] ∧
      next.handles.produced = [⟨topic, "{}", 0⟩, ⟨topic, "{}", 0⟩] ∧
      next.strings.heap.kinds = [.features "{}", .features "{}"] ∧
      next.strings.offers = [(0, ⟨1, 2, 0⟩), (1, ⟨2, 2, 0⟩)] := by
  intro metadata started
  obtain ⟨flowState, -⟩ := createFlow_succeed (D := Float) defaultConfig 1
  let flow : PluginClose Float := ⟨⟨1, .tcp, barePacket 1 1 100, some flowState, true, true,
    ⟨true, 0⟩⟩, ⟨⟨true, metadata⟩, 0⟩⟩
  obtain ⟨next, closed, logged, -, produced, kinds, offers⟩ := closeFlows_delivers defaultConfig
    (barePlatform Float) (fun _ => "{}") [] rfl _ _ (rfl : started = (0, started.2))
    [flow, { flow with stream := 2 }]
  obtain ⟨-, topic, -, -, produced_eq⟩ := produced rfl
  exact ⟨flow, next, topic, closed, logged, produced_eq, kinds, offers⟩

/-- The log of a level above that of debug lines gets none of the features. -/
example : (tiFeaturesInit ⟨some 20, none, none, none, none, none, none⟩
    ⟨true, (· ≤ 10), 1, 0, 2, ⟨true, 1, ⟨true, false⟩⟩, ⟨true, ⟨true, false⟩⟩⟩
      PluginState.loaded).2.debugLines = false := rfl

end Flows

end TiFeatures
