/-
This file models the Kafka producer of the plugin: one connection, a topic handle for
every topic it has sent to, and the messages it hands over. Whatever the Kafka library
returns, a producer holds what it took from it and did not give back, and tearing it
down gives everything back, the topics before the connection. One handle is lost: the
configuration of a connection that cannot be made.
-/

import Mathlib.Data.List.Sort
import TiFeatures.Library.Dependents

namespace TiFeatures

open HeapLedger

/-! ### Handles -/

/-- The kinds of the objects the plugin takes from other libraries, and its own producer. -/
inductive HandleKind where
  | log
  | producer
  | conf
  | kafka
  | topicConf
  | topic (connection : Nat) (name : String)
  | metadata
  | output
  | printed
  deriving DecidableEq

/-- A topic hangs on the connection it was made with. -/
def HandleKind.parent : HandleKind → Option Nat
  | .topic connection _ => some connection
  | _ => none

/-- The name of a topic. -/
def HandleKind.topicName : HandleKind → Option String
  | .topic _ name => some name
  | _ => none

/-- A call of `rd_kafka_produce`. -/
structure Produced where
  topic : Nat
  payload : String
  status : Int
  deriving DecidableEq

/-- The handles taken from other libraries, and the messages handed to Kafka. -/
structure Handles where
  heap : Heap HandleKind
  produced : List Produced

/-- What `rd_kafka_metadata` does: whether it sets the pointer, and whether it fails. -/
structure MetadataReturns where
  given : Bool
  error : Bool

/-- What the Kafka library returns to `KafkaConnection`. -/
structure ConnectionReturns where
  kafkaNew : Bool
  brokersAdd : Nat
  metadata : MetadataReturns

/-- What the Kafka library returns to `CreateTopicHandle`. -/
structure TopicReturns where
  topicNew : Bool
  metadata : MetadataReturns

/-- What the Kafka library returns to `SendData`. -/
structure SendReturns where
  topic : TopicReturns
  produce : Int

/-! ### The producer -/

/-- `KafkaProducer`. The constructor does not set `kafka`, and what is not set has no value here;
`NULL` is `some none`. The map is in the order of its keys. -/
structure KafkaProducer where
  object : Nat
  brokers : String
  kafka : Option (Option Nat)
  topicHandleMap : List (String × Nat)

/-- `new KafkaProducer`. -/
def newKafkaProducer (brokers : String) (heap : Heap HandleKind) :
    KafkaProducer × Heap HandleKind :=
  (⟨heap.kinds.length, brokers, none, []⟩, heap.push .producer)

namespace KafkaProducer

/-- Read the member `kafka`. -/
def readKafka (producer : KafkaProducer) (heap : Heap HandleKind) :
    Option Nat × Heap HandleKind :=
  let heap := heap.use producer.object
  match producer.kafka with
  | some pointer => (pointer, heap)
  | none => (none, { heap with fault := true })

/-- The metadata that a probe gets is looked at, if it is, and given back. -/
def probeMetadata (returns : MetadataReturns) (read : Bool) (heap : Heap HandleKind) :
    Heap HandleKind :=
  if returns.given then
    let metadata := heap.kinds.length
    let heap := heap.push .metadata
    let heap := if read && !returns.error then heap.use metadata else heap
    heap.free metadata
  else heap

/-- `KafkaConnection`. The configuration goes over to the connection, unless there is none. -/
def kafkaConnection (returns : ConnectionReturns) (producer : KafkaProducer)
    (heap : Heap HandleKind) : Int × KafkaProducer × Heap HandleKind :=
  let heap := heap.use producer.object
  let conf := heap.kinds.length
  let heap := (heap.push .conf).use conf
  if !returns.kafkaNew then (-1, { producer with kafka := some none }, heap)
  else
    let heap := heap.free conf
    let kafka := heap.kinds.length
    let heap := (heap.push .kafka).use kafka
    if returns.brokersAdd = 0 then (-2, { producer with kafka := some (some kafka) }, heap)
    else
      let heap := probeMetadata returns.metadata false (heap.use kafka)
      if returns.metadata.error then
        (-3, { producer with kafka := some none }, heap.close HandleKind.parent kafka)
      else (0, { producer with kafka := some (some kafka) }, heap)

/-- `topicHandleMap[topicName] = rkt` for a name that is not in the map. -/
def insertTopic (topicName : String) (rkt : Nat) (topicHandleMap : List (String × Nat)) :
    List (String × Nat) :=
  topicHandleMap.orderedInsert (fun first second => first.1 ≤ second.1) (topicName, rkt)

/-- `CreateTopicHandle`. The topic configuration goes over in any case. -/
def createTopicHandle (topicName : String) (returns : TopicReturns) (producer : KafkaProducer)
    (heap : Heap HandleKind) : Option Nat × KafkaProducer × Heap HandleKind :=
  match producer.readKafka heap with
  | (none, heap) => (none, producer, heap)
  | (some kafka, heap) =>
    match producer.topicHandleMap.lookup topicName with
    | some rkt => (some rkt, producer, heap)
    | none =>
      let config := heap.kinds.length
      let heap := ((heap.push .topicConf).use kafka).free config
      if !returns.topicNew then (none, producer, heap)
      else
        let rkt := heap.kinds.length
        let heap := heap.push (.topic kafka topicName)
        let heap := probeMetadata returns.metadata true ((heap.use kafka).use rkt)
        (some rkt,
          { producer with
            topicHandleMap := insertTopic topicName rkt producer.topicHandleMap }, heap)

/-- The handle `SendData` sends with. -/
def currentTopicHandle (topicName : String) (returns : TopicReturns) (producer : KafkaProducer)
    (heap : Heap HandleKind) : Option Nat × KafkaProducer × Heap HandleKind :=
  match producer.topicHandleMap.lookup topicName with
  | some rkt => (some rkt, producer, heap)
  | none => producer.createTopicHandle topicName returns heap

/-- `SendData` of the text of a printed object; `NULL` is `none`. -/
def sendData (topicName : String) (payload : Option (Nat × String)) (paylen : Nat)
    (returns : SendReturns) (producer : KafkaProducer) (handles : Handles) :
    Int × KafkaProducer × Handles :=
  match producer.readKafka handles.heap, payload with
  | (none, heap), _ => (-1, producer, { handles with heap })
  | (some _, heap), none => (-1, producer, { handles with heap })
  | (some kafka, heap), some (text, content) =>
    if paylen = 0 then (-1, producer, { handles with heap })
    else
      match producer.currentTopicHandle topicName returns.topic heap with
      | (none, producer, heap) => (-1, producer, { handles with heap })
      | (some currentTopicHandle, producer, heap) =>
        -- the text is copied
        let heap := (heap.use currentTopicHandle).use text
        (returns.produce, producer,
          { heap := heap.use kafka
            produced := handles.produced ++
              [⟨currentTopicHandle, content, returns.produce⟩] })

/-- A call of the Kafka library with the connection, if there is one. -/
def callKafka (producer : KafkaProducer) (heap : Heap HandleKind) : Heap HandleKind :=
  match producer.readKafka heap with
  | (none, heap) => heap
  | (some kafka, heap) => heap.use kafka

/-- `MessageInQueue`, as far as the handles are concerned. -/
def messageInQueue : KafkaProducer → Heap HandleKind → Heap HandleKind := callKafka

/-- `Flush`, as far as the handles are concerned. -/
def flush : KafkaProducer → Heap HandleKind → Heap HandleKind := callKafka

/-- `KafkaPoll`. -/
def kafkaPoll : KafkaProducer → Heap HandleKind → Heap HandleKind := callKafka

/-- `delete` of a producer. -/
def delete (producer : KafkaProducer) (heap : Heap HandleKind) : Heap HandleKind :=
  let (kafka, heap) := producer.readKafka heap
  let heap := match kafka with
    | some kafka => heap.use kafka
    | none => heap
  let heap := (producer.topicHandleMap.map Prod.snd).foldl (Heap.close HandleKind.parent) heap
  let heap := match kafka with
    | some kafka => heap.close HandleKind.parent kafka
    | none => heap
  heap.free producer.object

/-! ### What a producer holds -/

/-- The connection and the topics that hang on it. -/
def connection (producer : KafkaProducer) : List (Nat × HandleKind) :=
  match producer.kafka with
  | some (some kafka) =>
    producer.topicHandleMap.map (fun entry => (entry.2, .topic kafka entry.1)) ++
      [(kafka, .kafka)]
  | _ => []

/-- The handles of a producer, and the producer itself. -/
def held (producer : KafkaProducer) : List (Nat × HandleKind) :=
  producer.connection ++ [(producer.object, .producer)]

/-- The connection is set, there is no topic without one, and one handle for every name. -/
structure WellFormed (producer : KafkaProducer) : Prop where
  isSet : producer.kafka.isSome
  unconnected : producer.kafka = some none → producer.topicHandleMap = []
  names : (producer.topicHandleMap.map Prod.fst).Nodup

variable {producer : KafkaProducer} {heap : Heap HandleKind} {orphans : List (Nat × HandleKind)}

/-- What a producer holds can be used. -/
theorem use_held (owns : heap.Owns (producer.held ++ orphans)) {entry : Nat × HandleKind}
    (member : entry ∈ producer.held) : heap.use entry.1 = heap :=
  owns.use (List.mem_map_of_mem (f := Prod.fst) (List.mem_append_left _ member))

theorem readKafka_eq (owns : heap.Owns (producer.held ++ orphans)) (isSet : producer.kafka.isSome) :
    producer.readKafka heap = (producer.kafka.join, heap) := by
  have object_use : heap.use producer.object = heap :=
    use_held owns (List.mem_append_right _ List.mem_cons_self)
  rw [readKafka, object_use]
  cases pointer : producer.kafka with
  | none =>
    rw [pointer] at isSet
    cases isSet
  | some => rfl

theorem probeMetadata_owns {owned : List (Nat × HandleKind)} (owns : heap.Owns owned)
    (returns : MetadataReturns) (read : Bool) : (probeMetadata returns read heap).Owns owned := by
  unfold probeMetadata
  split
  · have pushed := owns.push .metadata
    have used := pushed.use_owns (List.mem_map_of_mem (f := Prod.fst) List.mem_cons_self)
    dsimp only
    split
    · exact used.free
    · exact pushed.free
  · exact owns

/-- A producer that tries to connect holds what it could take, and loses the configuration of a
connection that is not made. -/
theorem kafkaConnection_owns (returns : ConnectionReturns) (producer : KafkaProducer)
    (unused : producer.topicHandleMap = [])
    (owns : heap.Owns ((producer.object, .producer) :: orphans))
    (rooted : Rooted HandleKind.parent orphans) :
    let result := producer.kafkaConnection returns heap
    result.2.1.WellFormed ∧ result.2.1.topicHandleMap = [] ∧
      (result.1 = 0 → result.2.1.kafka.join.isSome) ∧
      result.2.2.Owns (result.2.1.held ++
        ((if returns.kafkaNew then [] else [(heap.kinds.length, .conf)]) ++ orphans)) := by
  obtain ⟨object, brokers, kafka, topicHandleMap⟩ := producer
  cases unused
  have wellFormed : ∀ pointer : Option Nat, WellFormed ⟨object, brokers, some pointer, []⟩ :=
    fun _ => ⟨rfl, fun _ => rfl, List.nodup_nil⟩
  have head : ∀ {first : Nat × HandleKind} {rest : List (Nat × HandleKind)},
      first.1 ∈ (first :: rest).map Prod.fst :=
    List.mem_map_of_mem (f := Prod.fst) List.mem_cons_self
  have configured := owns.push .conf
  have taken := configured.free
  have connected := taken.push .kafka
  have use_object : heap.use object = heap := owns.use head
  have use_conf : (heap.push .conf).use heap.kinds.length = heap.push .conf :=
    configured.use head
  simp only [kafkaConnection, use_object, use_conf]
  generalize (heap.push .conf).free heap.kinds.length = free at taken connected ⊢
  have use_kafka : (free.push .kafka).use free.kinds.length = free.push .kafka :=
    connected.use head
  rw [use_kafka, use_kafka]
  have probed := probeMetadata_owns connected returns.metadata false
  cases made : returns.kafkaNew with
  | false => exact ⟨wellFormed _, rfl, nofun, configured.perm (List.Perm.swap _ _ _)⟩
  | true =>
    simp only [Bool.not_true, Bool.false_eq_true, if_false, if_true, List.nil_append]
    by_cases none : returns.brokersAdd = 0
    · rw [if_pos none]
      exact ⟨wellFormed _, rfl, nofun, connected⟩
    · rw [if_neg none]
      by_cases error : returns.metadata.error = true
      · rw [if_pos error]
        refine ⟨wellFormed _, rfl, nofun, ?_⟩
        exact probed.close_root rfl ((Rooted.singleton rfl).append rooted)
      · rw [if_neg error]
        exact ⟨wellFormed _, rfl, fun _ => rfl, probed⟩

/-- A name that is not in the map is added to it. -/
theorem insertTopic_perm (topicName : String) (rkt : Nat) (topicHandleMap : List (String × Nat)) :
    (insertTopic topicName rkt topicHandleMap).Perm ((topicName, rkt) :: topicHandleMap) :=
  List.perm_orderedInsert _ _ _

theorem lookup_of_mem {topicHandleMap : List (String × Nat)} {topicName : String} {rkt : Nat}
    (names : (topicHandleMap.map Prod.fst).Nodup) (member : (topicName, rkt) ∈ topicHandleMap) :
    topicHandleMap.lookup topicName = some rkt := by
  induction topicHandleMap with
  | nil => cases member
  | cons entry rest inductionHypothesis =>
    rw [List.map_cons, List.nodup_cons] at names
    rcases List.mem_cons.mp member with rfl | inside
    · exact List.lookup_cons_self
    · have apart : topicName ≠ entry.1 := fun same =>
        names.1 (same ▸ List.mem_map_of_mem (f := Prod.fst) inside)
      rw [List.lookup_cons, beq_eq_false_iff_ne.mpr apart]
      exact inductionHypothesis names.2 inside

/-- What asking for a topic leaves: the handle that is returned is the one of its name, and the
producer is the same but for this name. -/
structure TopicCreated (topicName : String) (producer : KafkaProducer)
    (result : Option Nat × KafkaProducer × Heap HandleKind)
    (orphans : List (Nat × HandleKind)) : Prop where
  wellFormed : result.2.1.WellFormed
  owns : result.2.2.Owns (result.2.1.held ++ orphans)
  object_eq : result.2.1.object = producer.object
  kafka_eq : result.2.1.kafka = producer.kafka
  found : ∀ rkt, result.1 = some rkt →
    result.2.1.topicHandleMap.lookup topicName = some rkt

theorem mem_held_of_lookup {kafka rkt : Nat} {topicName : String}
    (connected : producer.kafka = some (some kafka))
    (found : producer.topicHandleMap.lookup topicName = some rkt) :
    (rkt, .topic kafka topicName) ∈ producer.held := by
  obtain ⟨front, back, map_eq, -⟩ := List.lookup_eq_some_iff.mp found
  have member : (topicName, rkt) ∈ producer.topicHandleMap := by
    rw [map_eq]
    exact List.mem_append_right _ List.mem_cons_self
  rw [held, connection, connected]
  exact List.mem_append_left _ (List.mem_append_left _ (List.mem_map.mpr ⟨_, member, rfl⟩))

theorem kafka_mem_held {kafka : Nat} (connected : producer.kafka = some (some kafka)) :
    (kafka, .kafka) ∈ producer.held := by
  rw [held, connection, connected]
  exact List.mem_append_left _ (List.mem_append_right _ List.mem_cons_self)

/-- A producer with one more topic holds one more handle. -/
theorem held_insertTopic {kafka : Nat} (connected : producer.kafka = some (some kafka))
    (topicName : String) (rkt : Nat) :
    held { producer with topicHandleMap := insertTopic topicName rkt producer.topicHandleMap }
      |>.Perm ((rkt, .topic kafka topicName) :: producer.held) := by
  simp only [held, connection, connected]
  exact (((insertTopic_perm topicName rkt producer.topicHandleMap).map _).append_right _)
    |>.append_right _

theorem createTopicHandle_created (topicName : String) (returns : TopicReturns)
    (wellFormed : producer.WellFormed) (owns : heap.Owns (producer.held ++ orphans)) :
    TopicCreated topicName producer (producer.createTopicHandle topicName returns heap)
      orphans := by
  rw [createTopicHandle, readKafka_eq owns wellFormed.isSet]
  cases pointer : producer.kafka.join with
  | none => exact ⟨wellFormed, owns, rfl, rfl, nofun⟩
  | some kafka =>
    have connected : producer.kafka = some (some kafka) := Option.join_eq_some_iff.mp pointer
    cases found : producer.topicHandleMap.lookup topicName with
    | some rkt => exact ⟨wellFormed, owns, rfl, rfl, fun other same => found.trans same⟩
    | none =>
      have inside : ∀ {heap : Heap HandleKind} {first : Nat × HandleKind},
          heap.Owns (first :: (producer.held ++ orphans)) → heap.use kafka = heap :=
        fun owns => owns.use (List.mem_map_of_mem (f := Prod.fst)
          (List.mem_cons_of_mem _ (List.mem_append_left _ (kafka_mem_held connected))))
      have configured := owns.push .topicConf
      have taken := configured.free
      simp only [inside configured]
      cases made : returns.topicNew with
      | false => exact ⟨wellFormed, taken, rfl, rfl, nofun⟩
      | true =>
        generalize (heap.push .topicConf).free heap.kinds.length = free at taken ⊢
        have pushed := taken.push (.topic kafka topicName)
        have probed := probeMetadata_owns pushed returns.metadata true
        have names : topicName ∉ producer.topicHandleMap.map Prod.fst := by
          intro member
          obtain ⟨entry, inMap, rfl⟩ := List.mem_map.mp member
          have apart := List.lookup_eq_none_iff.mp found entry inMap
          exact absurd rfl (bne_iff_ne.mp apart)
        have moreNames := (insertTopic_perm topicName free.kinds.length
          producer.topicHandleMap).map Prod.fst
        simp only [Bool.not_true, Bool.false_eq_true, if_false, inside pushed,
          pushed.use (List.mem_map_of_mem (f := Prod.fst) List.mem_cons_self)]
        have distinct := moreNames.nodup_iff.mpr (List.nodup_cons.mpr ⟨names, wellFormed.names⟩)
        refine ⟨⟨wellFormed.isSet, fun unset => ?_, distinct⟩, ?_, rfl, rfl, fun rkt same => ?_⟩
        · rw [connected] at unset
          cases unset
        · exact probed.perm ((held_insertTopic connected topicName _).append_right _).symm
        · obtain rfl := Option.some.inj same
          exact lookup_of_mem distinct
            ((insertTopic_perm topicName _ _).mem_iff.mpr List.mem_cons_self)

theorem currentTopicHandle_created (topicName : String) (returns : TopicReturns)
    (wellFormed : producer.WellFormed) (owns : heap.Owns (producer.held ++ orphans)) :
    TopicCreated topicName producer (producer.currentTopicHandle topicName returns heap)
      orphans := by
  unfold currentTopicHandle
  split
  · rename_i rkt found
    exact ⟨wellFormed, owns, rfl, rfl, fun other same => found.trans same⟩
  · exact createTopicHandle_created topicName returns wellFormed owns

/-- What sending leaves. A text goes to the handle of its topic, or nothing is sent. -/
structure Sent (topicName content : String) (producer : KafkaProducer) (handles : Handles)
    (result : Int × KafkaProducer × Handles) (orphans : List (Nat × HandleKind)) : Prop where
  wellFormed : result.2.1.WellFormed
  owns : result.2.2.heap.Owns (result.2.1.held ++ orphans)
  object_eq : result.2.1.object = producer.object
  kafka_eq : result.2.1.kafka = producer.kafka
  produced_eq : result.2.2.produced = handles.produced ∨
    ∃ rkt, result.2.1.topicHandleMap.lookup topicName = some rkt ∧
      result.2.2.produced = handles.produced ++ [⟨rkt, content, result.1⟩]

theorem sendData_sent (topicName : String) {text : Nat} (content : String) (paylen : Nat)
    (returns : SendReturns) (handles : Handles) (wellFormed : producer.WellFormed)
    (owns : handles.heap.Owns (producer.held ++ orphans)) (live : text ∈ orphans.map Prod.fst) :
    Sent topicName content producer handles
      (producer.sendData topicName (some (text, content)) paylen returns handles) orphans := by
  unfold sendData
  rw [readKafka_eq owns wellFormed.isSet]
  cases pointer : producer.kafka.join with
  | none => exact ⟨wellFormed, owns, rfl, rfl, Or.inl rfl⟩
  | some kafka =>
    have connected : producer.kafka = some (some kafka) := Option.join_eq_some_iff.mp pointer
    dsimp only
    by_cases short : paylen = 0
    · rw [if_pos short]
      exact ⟨wellFormed, owns, rfl, rfl, Or.inl rfl⟩
    · rw [if_neg short]
      have created := currentTopicHandle_created topicName returns.topic wellFormed owns
      generalize producer.currentTopicHandle topicName returns.topic handles.heap = found
        at created ⊢
      obtain ⟨handle, next, heap⟩ := found
      cases handle with
      | none => exact ⟨created.wellFormed, created.owns, created.object_eq, created.kafka_eq,
          Or.inl rfl⟩
      | some rkt =>
        have stillConnected := created.kafka_eq.trans connected
        have found := created.found rkt rfl
        have text_use : heap.use text = heap := by
          refine created.owns.use ?_
          rw [List.map_append]
          exact List.mem_append_right _ live
        simp only [use_held created.owns (mem_held_of_lookup stillConnected found), text_use,
          use_held created.owns (kafka_mem_held stillConnected)]
        exact ⟨created.wellFormed, created.owns, created.object_eq, created.kafka_eq,
          Or.inr ⟨rkt, found, rfl⟩⟩

/-- A text is sent with the handle of its topic, if there is one already, and nothing else
changes. -/
theorem sendData_of_lookup {topicName : String} {text kafka rkt : Nat} (content : String)
    (paylen : Nat) (returns : SendReturns) {handles : Handles}
    (connected : producer.kafka = some (some kafka))
    (found : producer.topicHandleMap.lookup topicName = some rkt)
    (owns : handles.heap.Owns (producer.held ++ orphans)) (live : text ∈ orphans.map Prod.fst) :
    producer.sendData topicName (some (text, content)) paylen returns handles =
      if paylen = 0 then (-1, producer, handles)
      else (returns.produce, producer,
        { handles with
          produced := handles.produced ++ [⟨rkt, content, returns.produce⟩] }) := by
  have isSet : producer.kafka.isSome := by
    rw [connected]
    rfl
  have text_use : handles.heap.use text = handles.heap := by
    refine owns.use ?_
    rw [List.map_append]
    exact List.mem_append_right _ live
  unfold sendData currentTopicHandle
  rw [readKafka_eq owns isSet, connected, found]
  simp only [Option.join_some, use_held owns (mem_held_of_lookup connected found), text_use,
    use_held owns (kafka_mem_held connected)]

theorem callKafka_eq (wellFormed : producer.WellFormed)
    (owns : heap.Owns (producer.held ++ orphans)) : producer.callKafka heap = heap := by
  rw [callKafka, readKafka_eq owns wellFormed.isSet]
  cases pointer : producer.kafka.join with
  | none => rfl
  | some kafka =>
    have connected : producer.kafka = some (some kafka) := Option.join_eq_some_iff.mp pointer
    exact use_held owns (kafka_mem_held connected)

/-- The topics of a connection, which nothing hangs on. -/
theorem topics_childless {kafka : Nat} {topics : List (String × Nat)}
    {rest : List (Nat × HandleKind)}
    (owns : heap.Owns (topics.map (fun entry => (entry.2, .topic kafka entry.1)) ++
      (kafka, .kafka) :: rest)) (rooted : Rooted HandleKind.parent rest) :
    ∀ closed ∈ topics.map (fun entry => (entry.2, HandleKind.topic kafka entry.1)),
      ∀ entry ∈ topics.map (fun entry => (entry.2, HandleKind.topic kafka entry.1)) ++
        (kafka, .kafka) :: rest, entry.2.parent ≠ some closed.1 := by
  intro closed isTopic entry member hangs
  have distinct := (List.nodup_append'.mp owns.nodup).1
  rw [List.map_append, List.map_cons] at distinct
  have apart := (List.nodup_append'.mp distinct).2.2 (List.mem_map_of_mem (f := Prod.fst) isTopic)
  rcases List.mem_append.mp member with topic | other
  · obtain ⟨named, -, rfl⟩ := List.mem_map.mp topic
    exact apart (List.mem_cons.mpr (Or.inl (Option.some.inj hangs).symm))
  · rcases List.mem_cons.mp other with rfl | inside
    · cases hangs
    · exact apart (List.mem_cons_of_mem _ (rooted entry inside closed.1 hangs))

/-- Tearing a producer down gives back what it holds, the topics before their connection. -/
theorem delete_owns (wellFormed : producer.WellFormed)
    (owns : heap.Owns (producer.held ++ orphans)) (rooted : Rooted HandleKind.parent orphans) :
    (producer.delete heap).Owns orphans := by
  rw [delete, readKafka_eq owns wellFormed.isSet]
  have beside : Rooted HandleKind.parent ((producer.object, .producer) :: orphans) :=
    (Rooted.singleton rfl).append rooted
  cases pointer : producer.kafka with
  | none =>
    have isSet := wellFormed.isSet
    rw [pointer] at isSet
    cases isSet
  | some kafka =>
    cases kafka with
    | none =>
      rw [held, connection, pointer] at owns
      rw [wellFormed.unconnected pointer]
      exact owns.free
    | some kafka =>
      have kafka_use : heap.use kafka = heap := use_held owns (kafka_mem_held pointer)
      rw [held, connection, pointer, List.append_assoc, List.append_assoc] at owns
      have closed := owns.foldl_close (topics_childless owns beside)
      rw [List.map_map] at closed
      simp only [Option.join_some, kafka_use]
      exact (closed.close_root rfl beside).free

/-! ### The life of a producer -/

/-- The calls of a producer's methods, but for the one that connects it. -/
inductive Call where
  | createTopicHandle (topicName : String) (returns : TopicReturns)
  | sendData (topicName : String) (payload : Option String) (returns : SendReturns)
  | messageInQueue
  | flush
  | kafkaPoll

/-- One call. The caller makes the text it sends and gives it back. -/
def step (state : KafkaProducer × Handles) : Call → KafkaProducer × Handles
  | .createTopicHandle topicName returns =>
    let (_, producer, heap) := state.1.createTopicHandle topicName returns state.2.heap
    (producer, { state.2 with heap })
  | .sendData topicName none returns =>
    let (_, producer, handles) := state.1.sendData topicName none 0 returns state.2
    (producer, handles)
  | .sendData topicName (some content) returns =>
    let text := state.2.heap.kinds.length
    let (_, producer, handles) := state.1.sendData topicName (some (text, content))
      content.utf8ByteSize returns { state.2 with heap := state.2.heap.push .printed }
    (producer, { handles with heap := handles.heap.free text })
  | .messageInQueue => (state.1, { state.2 with heap := state.1.messageInQueue state.2.heap })
  | .flush => (state.1, { state.2 with heap := state.1.flush state.2.heap })
  | .kafkaPoll => (state.1, { state.2 with heap := state.1.kafkaPoll state.2.heap })

/-- A producer that is made, tries to connect, takes the calls, and is deleted. -/
def life (brokers : String) (returns : ConnectionReturns) (calls : List Call) : Handles :=
  let (producer, heap) := newKafkaProducer brokers Heap.empty
  let (_, producer, heap) := producer.kafkaConnection returns heap
  let (producer, handles) := calls.foldl step (producer, ⟨heap, []⟩)
  { handles with heap := producer.delete handles.heap }

/-- The names of the topics that handles were made for. -/
def topicNames (heap : Heap HandleKind) : List String :=
  heap.kinds.filterMap HandleKind.topicName

/-- The topic of a message, and the message. -/
def addressed (heap : Heap HandleKind) (message : Produced) : Option String × String :=
  (heap.kinds[message.topic]?.bind HandleKind.topicName, message.payload)

/-- What a call asks to be sent, and to which topic. -/
def Call.text : Call → Option (Option String × String)
  | .sendData topicName (some content) _ => some (some topicName, content)
  | _ => none

/-- The handles have become more: those for topics are the new ones of the map. -/
def Grown (producer : KafkaProducer) (heap : Heap HandleKind) (next : KafkaProducer)
    (nextHeap : Heap HandleKind) : Prop :=
  ∃ added, nextHeap.kinds = heap.kinds ++ added ∧
    (next.topicHandleMap.map Prod.fst).Perm
      (added.filterMap HandleKind.topicName ++ producer.topicHandleMap.map Prod.fst)

namespace Grown

variable {next last : KafkaProducer} {nextHeap lastHeap : Heap HandleKind}

theorem of_kinds {added : List HandleKind} (kinds_eq : nextHeap.kinds = heap.kinds ++ added)
    (silent : added.filterMap HandleKind.topicName = []) : Grown producer heap producer nextHeap :=
  ⟨added, kinds_eq, by rw [silent, List.nil_append]⟩

theorem trans (first : Grown producer heap next nextHeap)
    (second : Grown next nextHeap last lastHeap) : Grown producer heap last lastHeap := by
  obtain ⟨added, kinds_eq, names⟩ := first
  obtain ⟨more, moreKinds_eq, moreNames⟩ := second
  refine ⟨added ++ more, by rw [moreKinds_eq, kinds_eq, List.append_assoc], ?_⟩
  rw [List.filterMap_append]
  refine moreNames.trans ((names.append_left _).trans ?_)
  rw [← List.append_assoc]
  exact List.perm_append_comm.append_right _

end Grown

theorem probeMetadata_kinds (returns : MetadataReturns) (read : Bool) (heap : Heap HandleKind) :
    ∃ added, (probeMetadata returns read heap).kinds = heap.kinds ++ added ∧
      added.filterMap HandleKind.topicName = [] := by
  unfold probeMetadata
  split
  · refine ⟨[.metadata], ?_, rfl⟩
    dsimp only
    split <;> rfl
  · exact ⟨[], (List.append_nil _).symm, rfl⟩

theorem readKafka_kinds (producer : KafkaProducer) (heap : Heap HandleKind) :
    (producer.readKafka heap).2.kinds = heap.kinds := by
  unfold readKafka
  dsimp only
  split <;> rfl

theorem createTopicHandle_grown (topicName : String) (returns : TopicReturns)
    (producer : KafkaProducer) (heap : Heap HandleKind) :
    let result := producer.createTopicHandle topicName returns heap
    Grown producer heap result.2.1 result.2.2 := by
  have read := readKafka_kinds producer heap
  unfold createTopicHandle
  generalize producer.readKafka heap = made at read ⊢
  obtain ⟨pointer, heap'⟩ := made
  cases pointer with
  | none => exact .of_kinds (read.trans (List.append_nil _).symm) rfl
  | some kafka =>
    cases producer.topicHandleMap.lookup topicName with
    | some rkt => exact .of_kinds (read.trans (List.append_nil _).symm) rfl
    | none =>
      have configured : heap'.kinds ++ [.topicConf] = heap.kinds ++ [.topicConf] :=
        congrArg (· ++ _) read
      dsimp only
      cases returns.topicNew with
      | false => exact .of_kinds configured rfl
      | true =>
        obtain ⟨added, kinds_eq, silent⟩ := probeMetadata_kinds returns.metadata true
          (((((heap'.push .topicConf).use kafka).free heap'.kinds.length).push
            (.topic kafka topicName)).use kafka |>.use
              (((heap'.push .topicConf).use kafka).free heap'.kinds.length).kinds.length)
        refine ⟨[.topicConf, .topic kafka topicName] ++ added, ?_, ?_⟩
        · refine kinds_eq.trans ?_
          show heap'.kinds ++ [.topicConf] ++ [.topic kafka topicName] ++ added = _
          rw [configured, List.append_assoc, List.append_assoc]
          rfl
        · rw [List.filterMap_append, silent]
          exact (insertTopic_perm topicName _ _).map Prod.fst

theorem currentTopicHandle_grown (topicName : String) (returns : TopicReturns)
    (producer : KafkaProducer) (heap : Heap HandleKind) :
    let result := producer.currentTopicHandle topicName returns heap
    Grown producer heap result.2.1 result.2.2 := by
  unfold currentTopicHandle
  split
  · exact .of_kinds (List.append_nil _).symm rfl
  · exact createTopicHandle_grown topicName returns producer heap

theorem sendData_grown (topicName : String) (payload : Option (Nat × String)) (paylen : Nat)
    (returns : SendReturns) (producer : KafkaProducer) (handles : Handles) :
    let result := producer.sendData topicName payload paylen returns handles
    Grown producer handles.heap result.2.1 result.2.2.heap := by
  have read := readKafka_kinds producer handles.heap
  unfold sendData
  generalize producer.readKafka handles.heap = made at read ⊢
  obtain ⟨pointer, heap⟩ := made
  have same : Grown producer handles.heap producer heap :=
    .of_kinds (read.trans (List.append_nil _).symm) rfl
  cases pointer with
  | none => exact same
  | some kafka =>
    cases payload with
    | none => exact same
    | some payload =>
      obtain ⟨text, content⟩ := payload
      dsimp only
      split
      · exact same
      · have found := same.trans (currentTopicHandle_grown topicName returns.topic producer heap)
        generalize producer.currentTopicHandle topicName returns.topic heap = made at found ⊢
        obtain ⟨handle, next, nextHeap⟩ := made
        cases handle with
        | none => exact found
        | some rkt => exact found.trans (.of_kinds (List.append_nil _).symm rfl)

/-- A producer with its handles on the way: the topics that handles were made for are those of the
map, each once. -/
structure Living (state : KafkaProducer × Handles) (orphans : List (Nat × HandleKind)) : Prop where
  wellFormed : state.1.WellFormed
  owns : state.2.heap.Owns (state.1.held ++ orphans)
  names : (topicNames state.2.heap).Perm (state.1.topicHandleMap.map Prod.fst)
  topics : ∀ message ∈ state.2.produced, message.topic < state.2.heap.kinds.length

/-- What calls leave: messages that go, in their order, to the topics they were meant for. -/
structure Served (state next : KafkaProducer × Handles) (texts : List (Option String × String))
    (orphans : List (Nat × HandleKind)) : Prop where
  living : Living next orphans
  grown : Grown state.1 state.2.heap next.1 next.2.heap
  messages : ∃ sent, next.2.produced = state.2.produced ++ sent ∧
    (sent.map (addressed next.2.heap)).Sublist texts

theorem Grown.names {next : KafkaProducer} {nextHeap : Heap HandleKind}
    (grown : Grown producer heap next nextHeap)
    (names : (topicNames heap).Perm (producer.topicHandleMap.map Prod.fst)) :
    (topicNames nextHeap).Perm (next.topicHandleMap.map Prod.fst) := by
  obtain ⟨added, kinds_eq, more⟩ := grown
  rw [topicNames, kinds_eq, List.filterMap_append]
  exact (names.append_right _).trans (List.perm_append_comm.trans more.symm)

/-- A message keeps its topic. -/
theorem Grown.addressed_eq {next : KafkaProducer} {nextHeap : Heap HandleKind}
    (grown : Grown producer heap next nextHeap) {message : Produced}
    (made : message.topic < heap.kinds.length) :
    addressed nextHeap message = addressed heap message := by
  obtain ⟨added, kinds_eq, -⟩ := grown
  rw [addressed, addressed, kinds_eq, List.getElem?_append_left made]

theorem Grown.made {next : KafkaProducer} {nextHeap : Heap HandleKind}
    (grown : Grown producer heap next nextHeap) {messages : List Produced}
    (topics : ∀ message ∈ messages, message.topic < heap.kinds.length) :
    ∀ message ∈ messages, message.topic < nextHeap.kinds.length := by
  obtain ⟨added, kinds_eq, -⟩ := grown
  intro message member
  rw [kinds_eq, List.length_append]
  exact Nat.lt_add_right _ (topics message member)

/-- A topic that has a handle has a connection. -/
theorem WellFormed.connected (wellFormed : producer.WellFormed) {topicName : String} {rkt : Nat}
    (found : producer.topicHandleMap.lookup topicName = some rkt) :
    ∃ kafka, producer.kafka = some (some kafka) := by
  cases pointer : producer.kafka with
  | none =>
    have isSet := wellFormed.isSet
    rw [pointer] at isSet
    cases isSet
  | some connection =>
    cases connection with
    | none =>
      rw [wellFormed.unconnected pointer] at found
      cases found
    | some kafka => exact ⟨kafka, rfl⟩

theorem sendData_none (wellFormed : producer.WellFormed) (topicName : String)
    (returns : SendReturns) {handles : Handles}
    (owns : handles.heap.Owns (producer.held ++ orphans)) :
    producer.sendData topicName none 0 returns handles = (-1, producer, handles) := by
  unfold sendData
  rw [readKafka_eq owns wellFormed.isSet]
  cases producer.kafka.join <;> rfl

/-- A call that changes nothing. -/
theorem Served.of_eq {state next : KafkaProducer × Handles} (living : Living state orphans)
    (same : next = state) (texts : List (Option String × String)) :
    Served state next texts orphans := by
  subst same
  exact ⟨living, .of_kinds (List.append_nil _).symm rfl, [], (List.append_nil _).symm,
    List.nil_sublist _⟩

/-- One call sends at most the text it was given, to the topic it was given. -/
theorem step_served {state : KafkaProducer × Handles} (living : Living state orphans)
    (call : Call) : Served state (step state call) call.text.toList orphans := by
  obtain ⟨producer, handles⟩ := state
  have unchanged : ({ handles with heap := producer.callKafka handles.heap } : Handles) =
      handles := by
    rw [callKafka_eq living.wellFormed living.owns]
  cases call with
  | createTopicHandle topicName returns =>
    have created := producer.createTopicHandle_created topicName returns living.wellFormed
      living.owns
    have grown := createTopicHandle_grown topicName returns producer handles.heap
    exact ⟨⟨created.wellFormed, created.owns, grown.names living.names, grown.made living.topics⟩,
      grown, [], (List.append_nil _).symm, List.nil_sublist _⟩
  | sendData topicName payload returns =>
    cases payload with
    | none =>
      refine .of_eq living ?_ _
      simp only [step, sendData_none living.wellFormed topicName returns living.owns]
    | some content =>
      have pushed := (living.owns.push .printed).perm List.perm_middle.symm
      have sent := sendData_sent topicName content content.utf8ByteSize returns
        { handles with heap := handles.heap.push .printed } living.wellFormed pushed
        List.mem_cons_self
      have grown : Grown producer handles.heap _ _ :=
        (Grown.of_kinds (rfl : (handles.heap.push .printed).kinds = _) rfl).trans
          (sendData_grown topicName (some (handles.heap.kinds.length, content))
            content.utf8ByteSize returns producer
            { handles with heap := handles.heap.push .printed })
      unfold step
      dsimp only
      generalize producer.sendData topicName _ _ returns _ = made at sent grown ⊢
      obtain ⟨status, next, nextHandles⟩ := made
      have topics := grown.made living.topics
      rcases sent.produced_eq with none | ⟨rkt, found, one⟩
      · exact ⟨⟨sent.wellFormed, sent.owns.free_middle _, grown.names living.names,
          none ▸ topics⟩, grown, [], none.trans (List.append_nil _).symm, List.nil_sublist _⟩
      · obtain ⟨kafka, connected⟩ := sent.wellFormed.connected found
        have kind := sent.owns.kind _ (List.mem_append_left _ (mem_held_of_lookup connected found))
        have address : addressed nextHandles.heap ⟨rkt, content, status⟩ =
            (some topicName, content) := by
          rw [addressed, kind]
          rfl
        refine ⟨⟨sent.wellFormed, sent.owns.free_middle _, grown.names living.names, ?_⟩, grown,
          _, one, ?_⟩
        · dsimp only at one ⊢
          rw [one]
          refine List.forall_mem_append.mpr ⟨topics, List.forall_mem_singleton.mpr ?_⟩
          exact (List.getElem?_eq_some_iff.mp kind).1
        · show [addressed nextHandles.heap ⟨rkt, content, status⟩].Sublist
            [(some topicName, content)]
          rw [address]
  | messageInQueue => exact .of_eq living (congrArg (Prod.mk producer) unchanged) _
  | flush => exact .of_eq living (congrArg (Prod.mk producer) unchanged) _
  | kafkaPoll => exact .of_eq living (congrArg (Prod.mk producer) unchanged) _

theorem Served.trans {state next last : KafkaProducer × Handles}
    {texts more : List (Option String × String)} (first : Served state next texts orphans)
    (second : Served next last more orphans) : Served state last (texts ++ more) orphans := by
  obtain ⟨sent, sent_eq, sublist⟩ := first.messages
  obtain ⟨others, others_eq, otherSublist⟩ := second.messages
  refine ⟨second.living, first.grown.trans second.grown, sent ++ others, ?_, ?_⟩
  · rw [others_eq, sent_eq, List.append_assoc]
  · rw [List.map_append]
    refine List.Sublist.append ?_ otherSublist
    have same : sent.map (addressed last.2.heap) = sent.map (addressed next.2.heap) :=
      List.map_congr_left fun message member => second.grown.addressed_eq
        (first.living.topics message (sent_eq ▸ List.mem_append_right _ member))
    rwa [same]

theorem foldl_step_served {state : KafkaProducer × Handles} (living : Living state orphans)
    (calls : List Call) :
    Served state (calls.foldl step state) (calls.filterMap Call.text) orphans := by
  induction calls generalizing state with
  | nil => exact .of_eq living rfl _
  | cons call rest inductionHypothesis =>
    have one := step_served living call
    have all := one.trans (inductionHypothesis one.living)
    rw [List.filterMap_eq_flatMap_toList] at all ⊢
    exact all

/-- Connecting makes no topic. -/
theorem kafkaConnection_topicNames (returns : ConnectionReturns) (producer : KafkaProducer)
    (heap : Heap HandleKind) :
    topicNames (producer.kafkaConnection returns heap).2.2 = topicNames heap := by
  have silent : ∀ {next : Heap HandleKind} {added : List HandleKind},
      next.kinds = heap.kinds ++ added → added.filterMap HandleKind.topicName = [] →
      topicNames next = topicNames heap := by
    intro next added kinds_eq none
    rw [topicNames, kinds_eq, List.filterMap_append, none, List.append_nil, topicNames]
  have connected : heap.kinds ++ [.conf] ++ [.kafka] = heap.kinds ++ [.conf, .kafka] :=
    List.append_assoc _ _ _
  unfold kafkaConnection
  dsimp only
  split
  · exact silent rfl rfl
  · split
    · exact silent connected rfl
    · have probed := probeMetadata_kinds returns.metadata false
        ((((((heap.use producer.object).push .conf).use heap.kinds.length).free
          heap.kinds.length).push .kafka).use (heap.kinds ++ [HandleKind.conf]).length |>.use
            (heap.kinds ++ [HandleKind.conf]).length)
      obtain ⟨added, kinds_eq, none⟩ := probed
      have kinds_eq := kinds_eq.trans (congrArg (· ++ added) connected)
      rw [List.append_assoc] at kinds_eq
      split
      · exact silent kinds_eq none
      · exact silent kinds_eq none

/-- Tearing a producer down makes nothing. -/
theorem delete_kinds (producer : KafkaProducer) (heap : Heap HandleKind) :
    (producer.delete heap).kinds = heap.kinds := by
  have closes : ∀ (topics : List Nat) (before : Heap HandleKind),
      (topics.foldl (Heap.close HandleKind.parent) before).kinds = before.kinds := by
    intro topics
    induction topics with
    | nil => exact fun _ => rfl
    | cons topic rest inductionHypothesis => exact fun before => inductionHypothesis _
  have read := readKafka_kinds producer heap
  unfold delete
  generalize producer.readKafka heap = made at read ⊢
  obtain ⟨pointer, next⟩ := made
  cases pointer with
  | none => exact (closes _ _).trans read
  | some kafka => exact (closes _ _).trans read

end KafkaProducer

/-- In the life of a producer that is connected once, right after it is constructed, whatever other
calls are made then and whatever the Kafka library returns: nothing is used that is not live, every
handle is given back once but the configuration of a connection that could not be made, a name gets
one handle, and the messages are texts that were to be sent, in their order, each to the topic it
was meant for. -/
theorem kafkaProducer_life (brokers : String) (returns : ConnectionReturns)
    (calls : List KafkaProducer.Call) :
    let handles := KafkaProducer.life brokers returns calls
    handles.heap.fault = false ∧
      handles.heap.liveKinds = (if returns.kafkaNew then [] else [.conf]) ∧
      (∀ handle < handles.heap.kinds.length, handles.heap.freed.count handle =
        if handles.heap.live handle then 0 else 1) ∧
      (KafkaProducer.topicNames handles.heap).Nodup ∧
      (handles.produced.map (KafkaProducer.addressed handles.heap)).Sublist
        (calls.filterMap KafkaProducer.Call.text) := by
  let unconnected : KafkaProducer := ⟨0, brokers, none, []⟩
  let connected := unconnected.kafkaConnection returns (Heap.empty.push HandleKind.producer)
  let lostConf : List (Nat × HandleKind) := if returns.kafkaNew then [] else [(1, .conf)]
  have start : KafkaProducer.Living (connected.2.1, ⟨connected.2.2, []⟩) lostConf := by
    obtain ⟨wellFormed, unused, -, owns⟩ := KafkaProducer.kafkaConnection_owns returns
      unconnected rfl (Heap.empty_owns.push HandleKind.producer) Rooted.nil
    rw [List.append_nil] at owns
    refine ⟨wellFormed, owns, ?_, fun _ member => absurd member List.not_mem_nil⟩
    rw [unused]
    exact List.Perm.of_eq (KafkaProducer.kafkaConnection_topicNames returns _ _)
  have rooted : Rooted HandleKind.parent lostConf := by
    simp only [lostConf]
    split
    · exact Rooted.nil
    · exact Rooted.singleton rfl
  have served := KafkaProducer.foldl_step_served start calls
  obtain ⟨sent, sent_eq, sublist⟩ := served.messages
  intro handles
  have kinds_eq : handles.heap.kinds = _ := KafkaProducer.delete_kinds _ _
  have lost : handles.heap.Owns _ := KafkaProducer.delete_owns served.living.wellFormed
    served.living.owns rooted
  refine ⟨lost.noFault, ?_, fun handle inside => ?_, ?_, ?_⟩
  · have live := lost.liveKinds_perm
    simp only [lostConf] at live
    cases made : returns.kafkaNew with
    | true =>
      rw [made] at live
      exact live.eq_nil
    | false =>
      rw [made] at live
      exact List.perm_singleton.mp live
  · rw [lost.count_freed inside]
    exact if_congr (lost.live_iff handle).symm rfl rfl
  · rw [KafkaProducer.topicNames, kinds_eq]
    exact served.living.names.nodup_iff.mpr served.living.wellFormed.names
  · have addressed_eq : KafkaProducer.addressed handles.heap = _ :=
      funext fun message => congrArg (fun kinds : List HandleKind =>
        (kinds[message.topic]?.bind HandleKind.topicName, message.payload)) kinds_eq
    rw [addressed_eq]
    exact (congrArg (List.map _) sent_eq) ▸ sublist

end TiFeatures
