/-
This file follows the server names from the client hellos to the objects of the flows.
The entries for TLS and QUIC leave a copy of the name with the bridge of the stream,
the flow reads it when it closes, and the bridge gives it back when the stream ends.
The object of a flow has the name of the last hello of its own stream that the bridge
took, and the copy that is read has not been given back.
-/

import TiFeatures.Bridges
import TiFeatures.Keys
import TiFeatures.Library.Postbox
import TiFeatures.Lifecycle

namespace TiFeatures

open HeapLedger

/-! ### The stream bridge -/

/-- The data that the library keeps in the streams: `stream_bridge_async_data_put` with what it
returns, `stream_bridge_async_data_get`, and the end of a stream. A stream has one place for each
bridge. -/
abbrev StreamBridge (Memory : Type) := Postbox Memory (Nat × Int)

/-- The place that a put is for. -/
def BridgePut.place (put : BridgePut) : Nat × Int := (put.stream, put.bridgeId)

/-- A string that is read as text: its bytes up to the first zero. -/
def BridgeString.text (decode : List UInt8 → String) : BridgeString → String
  | .sni buffer => decode (buffer.takeWhile (· ≠ 0))
  | .features text => text

/-- What the streams and the plugin see: client hellos, callbacks of TCP and UDP streams with what
the functions called at a close return, and streams that end. No other plugin puts anything at the
places of these bridges. -/
inductive StreamEvent where
  | ssl (sessionInfo : Option SslSession) (stream : Option Nat) (returns : BridgeReturns)
  | quic (sessionInfo : Option QuicSession) (stream : Option Nat) (returns : BridgeReturns)
  | traffic (stream : Nat) (callback : Callback) (created printed : Bool)
      (returns : BridgeReturns)
  | ended (stream : Nat)

/-- The strings of the plugin with the memory of the library, and the state behind `pme` for each
stream. -/
structure StreamsState (Memory D : Type) where
  post : PostState BridgeString BridgePut Memory
  pme : Nat → Option (FlowFeatureState D)

section Streams

variable {D Memory : Type} [Double D] (cfg : FeatureConfig) (platform : Platform D)
  (print : Output D → String) (decode : List UInt8 → String) (bridges : BridgeConfig)
  (library : StreamBridge Memory) (streamTypeOf : Nat → StreamType)

/-- A callback for the bridges; the library sees the puts it makes. -/
def callBridge (callback : BridgeCallback D) (post : PostState BridgeString BridgePut Memory) :
    PostState BridgeString BridgePut Memory :=
  let after := bridgeStep cfg platform print bridges post.custody callback
  ⟨after, (after.offers.drop post.custody.offers.length).foldl (fun memory offer =>
    library.put memory offer.2.place offer.1 offer.2.accepted) post.memory⟩

/-- The packet of a closing flow with the name that `flow_state_compute_features` gets. -/
def closingPacket (post : PostState BridgeString BridgePut Memory) (stream : Nat)
    (packet : RawPacket) : RawPacket :=
  { packet with
    sni :=
      if sniBridgeEnabled bridges then
        ((library.get post.memory (stream, bridges.sniBridgeId)).bind
          (post.custody.heap.kinds[·]?)).map (BridgeString.text decode)
      else none }

/-- The object of a flow that closes. -/
def closingFeatures (state : StreamsState Memory D) (stream : Nat) (packet : RawPacket)
    (flow : FlowFeatureState D) : Output D :=
  flowStateComputeFeatures cfg platform (streamTypeOf stream)
    (closingPacket decode bridges library state.post stream packet) flow.view

/-- One event. At the end of a stream the library gives what it keeps to the callbacks of the two
bridges: `free_sni_bridge_data`, which the plugin registers, and that of whoever built the bridge
of the features, which the plugin only looks up. -/
def streamsStep (state : StreamsState Memory D) : StreamEvent → StreamsState Memory D
  | .ssl sessionInfo stream returns =>
    { state with
      post := callBridge cfg platform print bridges library (.ssl sessionInfo stream returns)
        state.post }
  | .quic sessionInfo stream returns =>
    { state with
      post := callBridge cfg platform print bridges library (.quic sessionInfo stream returns)
        state.post }
  | .traffic stream callback created printed returns =>
    let pme := Function.update state.pme stream (trafficProcess cfg platform (streamTypeOf stream)
      callback.flag callback.allocs callback.packet (state.pme stream)).1
    match callback.flag, state.pme stream with
    | .close, some flow =>
      let read := if created && sniBridgeEnabled bridges then
        state.post.read library (stream, bridges.sniBridgeId) else state.post
      let packet := closingPacket decode bridges library state.post stream callback.packet
      ⟨callBridge cfg platform print bridges library
        (.close ⟨stream, streamTypeOf stream, packet, some flow, created, printed, returns⟩) read,
        pme⟩
    | _, _ => { state with pme }
  | .ended stream =>
    { state with
      post := (state.post.clear library (stream, bridges.sniBridgeId)).clear library
        (stream, bridges.featureBridgeId) }

/-- The state after a sequence of events. -/
def streamsRun (events : List StreamEvent) : StreamsState Memory D :=
  events.foldl (streamsStep cfg platform print decode bridges library streamTypeOf)
    ⟨⟨Custody.empty, library.empty⟩, fun _ => none⟩

end Streams

/-! ### The last name -/

/-- The client hello of an event: the stream it is on, its name and what the bridge returns. -/
def StreamEvent.clientHello : StreamEvent → Option (Nat × List UInt8 × BridgeReturns)
  | .ssl (some sessionInfo) (some stream) returns =>
    if sessionInfo.protFlag = sslClientHello then
      sessionInfo.appInfo.join.map fun name => (stream, name, returns)
    else none
  | .quic (some sessionInfo) (some stream) returns =>
    if sessionInfo.clientHello then
      sessionInfo.appInfo.join.join.map fun name => (stream, name, returns)
    else none
  | _ => none

/-- The name of a stream after an event: that of its client hello if there is a name, the copy can
be allocated and the bridge takes it, and none if the stream ends. -/
def StreamEvent.nameAfter (stream : Nat) (held : Option (List UInt8)) (event : StreamEvent) :
    Option (List UInt8) :=
  match event.clientHello with
  | some (source, name, returns) =>
    if source = stream ∧ name.length > 0 ∧ returns.mallocOk = true ∧ returns.put ≥ 0 then some name
    else held
  | none =>
    match event with
    | .ended source => if source = stream then none else held
    | _ => held

/-- The name of the last client hello of a stream that the bridge took since the stream began. -/
def lastName (events : List StreamEvent) (stream : Nat) : Option (List UInt8) :=
  events.foldl (StreamEvent.nameAfter stream) none

theorem lastName_concat (events : List StreamEvent) (event : StreamEvent) (stream : Nat) :
    lastName (events ++ [event]) stream = event.nameAfter stream (lastName events stream) :=
  List.foldl_concat _ _ _ _

/-! ### What events do to the strings -/

theorem StreamEvent.nameAfter_hello {event : StreamEvent} {source : Nat} {name : List UInt8}
    {returns : BridgeReturns} (hello : event.clientHello = some (source, name, returns))
    (stream : Nat) (held : Option (List UInt8)) :
    event.nameAfter stream held =
      if source = stream ∧ name.length > 0 ∧ returns.mallocOk = true ∧ returns.put ≥ 0 then
        some name
      else held := by
  unfold nameAfter
  rw [hello]

theorem StreamEvent.nameAfter_other {event : StreamEvent} (none : event.clientHello = none)
    (open_ : ∀ stream, event ≠ .ended stream) (stream : Nat) (held : Option (List UInt8)) :
    event.nameAfter stream held = held := by
  unfold nameAfter
  rw [none]
  cases event with
  | ended source => exact absurd rfl (open_ source)
  | _ => rfl

section Steps

variable {D Memory : Type} [Double D] (cfg : FeatureConfig) (platform : Platform D)
  (print : Output D → String) (decode : List UInt8 → String) (bridges : BridgeConfig)
  (library : StreamBridge Memory) (streamTypeOf : Nat → StreamType)

omit [Double D] in
/-- A name that is there is transferred, and taken back if it is rejected. -/
theorem putClientHello_eq (name : List UInt8) (stream : Nat) (returns : BridgeReturns)
    (state : BridgeState) :
    putClientHello bridges (some name) stream returns state =
      if sniBridgeEnabled bridges = true ∧ name.length > 0 ∧ returns.mallocOk = true then
        state.transfer ⟨.sni (sniBuffer name), ⟨stream, bridges.sniBridgeId, returns.put⟩,
          decide (returns.put < 0)⟩
      else state := by
  obtain ⟨mallocOk, put⟩ := returns
  rw [putClientHello]
  by_cases sends : (sniBridgeEnabled bridges && decide (name.length > 0)) = true
  · rw [if_pos sends]
    rw [Bool.and_eq_true, decide_eq_true_iff] at sends
    cases mallocOk with
    | false => exact (if_neg fun all => Bool.noConfusion all.2.2).symm
    | true =>
      rw [if_pos ⟨sends.1, sends.2, rfl⟩]
      by_cases rejected : put < 0
      · simp only [Heap.malloc, Custody.transfer, if_pos rejected, decide_eq_true rejected]
        rfl
      · simp only [Heap.malloc, Custody.transfer, if_neg rejected, decide_eq_false rejected]
        rfl
  · rw [if_neg sends, if_neg]
    rintro ⟨enabled, some, -⟩
    rw [enabled, decide_eq_true some] at sends
    exact sends rfl

/-- The features of a flow that closes are transferred, or nothing is. -/
theorem trafficProcessClose_place (flow : FlowClose D) (state : BridgeState) :
    trafficProcessClose cfg platform print bridges flow state = state ∨
      ∃ step : Transfer BridgeString BridgePut,
        trafficProcessClose cfg platform print bridges flow state = state.transfer step ∧
          step.freed = false ∧ step.offer.bridgeId = bridges.featureBridgeId := by
  unfold trafficProcessClose
  split
  · exact .inl rfl
  · dsimp only
    split
    · split
      · unfold putFeatures
        split
        · obtain ⟨mallocOk, put⟩ := flow.returns
          cases mallocOk with
          | false => exact .inl rfl
          | true =>
            exact .inr ⟨⟨_, ⟨flow.stream, bridges.featureBridgeId, put⟩, false⟩, rfl, rfl, rfl⟩
        · exact .inl rfl
      · exact .inl rfl
    · exact .inl rfl

variable {cfg platform print bridges}

/-- A callback that changes nothing shows the library nothing. -/
theorem callBridge_same {callback : BridgeCallback D}
    {post : PostState BridgeString BridgePut Memory}
    (same : bridgeStep cfg platform print bridges post.custody callback = post.custody) :
    callBridge cfg platform print bridges library callback post = post := by
  simp only [callBridge, same, List.drop_length, List.foldl_nil]

/-- A transfer shows the library its offer. -/
theorem callBridge_transfer {callback : BridgeCallback D}
    {post : PostState BridgeString BridgePut Memory} {step : Transfer BridgeString BridgePut}
    (moved : bridgeStep cfg platform print bridges post.custody callback =
      post.custody.transfer step) :
    callBridge cfg platform print bridges library callback post =
      PostState.step library BridgePut.place BridgePut.accepted post (.transfer step) := by
  simp only [callBridge, moved, Custody.transfer_offers, List.drop_left, List.foldl_cons,
    List.foldl_nil, PostState.step]

/-- What an event does to the strings: posts that respect what the bridge accepts and leave, at
the place for the name of a stream, the buffer of the name after the event. -/
def PostsNames (bridges : BridgeConfig) (library : StreamBridge Memory) (event : StreamEvent)
    (post after : PostState BridgeString BridgePut Memory) : Prop :=
  ∃ posts : List (Post BridgeString BridgePut (Nat × Int)),
    (∀ one ∈ posts, one.Respects BridgePut.accepted) ∧
      after = posts.foldl (PostState.step library BridgePut.place BridgePut.accepted) post ∧
      (sniBridgeEnabled bridges = true → ∀ (stream : Nat) (held : Option (List UInt8)),
        posts.foldl (Post.leaves BridgePut.place BridgePut.accepted (stream, bridges.sniBridgeId))
            (held.map fun name => .sni (sniBuffer name)) =
          (event.nameAfter stream held).map fun name => .sni (sniBuffer name))

/-- A client hello. -/
theorem callBridge_hello {callback : BridgeCallback D} {event : StreamEvent}
    (open_ : ∀ stream, event ≠ .ended stream) {post : PostState BridgeString BridgePut Memory}
    (stepped : bridgeStep cfg platform print bridges post.custody callback =
      match event.clientHello with
      | some (stream, name, returns) =>
        putClientHello bridges (some name) stream returns post.custody
      | none => post.custody) :
    PostsNames bridges library event post
      (callBridge cfg platform print bridges library callback post) := by
  cases hello : event.clientHello with
  | none =>
    rw [hello] at stepped
    refine ⟨[], List.forall_mem_nil _, callBridge_same library stepped, fun _ stream held => ?_⟩
    rw [List.foldl_nil, event.nameAfter_other hello open_]
  | some entry =>
    obtain ⟨source, name, returns⟩ := entry
    rw [hello] at stepped
    dsimp only at stepped
    rw [putClientHello_eq] at stepped
    by_cases sends : sniBridgeEnabled bridges = true ∧ name.length > 0 ∧ returns.mallocOk = true
    · rw [if_pos sends] at stepped
      refine ⟨[.transfer _], List.forall_mem_singleton.mpr fun freed => ?_,
        callBridge_transfer library stepped, fun _ stream held => ?_⟩
      · exact decide_eq_false (not_le.mpr (of_decide_eq_true freed))
      · rw [List.foldl_cons, List.foldl_nil, event.nameAfter_hello hello, Post.leaves,
          BridgePut.accepted, BridgePut.place]
        by_cases taken : source = stream ∧ returns.put ≥ 0
        · rw [if_pos ⟨decide_eq_true taken.2, by rw [taken.1]⟩,
            if_pos ⟨taken.1, sends.2.1, sends.2.2, taken.2⟩]
          rfl
        · rw [if_neg fun both => taken ⟨congrArg Prod.fst both.2, of_decide_eq_true both.1⟩,
            if_neg fun all => taken ⟨all.1, all.2.2.2⟩]
    · rw [if_neg sends] at stepped
      refine ⟨[], List.forall_mem_nil _, callBridge_same library stepped,
        fun enabled stream held => ?_⟩
      rw [List.foldl_nil, event.nameAfter_hello hello,
        if_neg fun all => sends ⟨enabled, all.2.1, all.2.2.1⟩]

/-- A read that is made or not is a list of posts that leave every place as it is. -/
theorem exists_reads (made : Bool) (place : Nat × Int)
    (post : PostState BridgeString BridgePut Memory) :
    ∃ reads : List (Post BridgeString BridgePut (Nat × Int)),
      (if made then post.read library place else post) =
        reads.foldl (PostState.step library BridgePut.place BridgePut.accepted) post ∧
        (∀ one ∈ reads, one.Respects BridgePut.accepted) ∧
        ∀ other (held : Option BridgeString),
          reads.foldl (Post.leaves BridgePut.place BridgePut.accepted other) held = held := by
  split
  · exact ⟨[.read place], rfl, List.forall_mem_singleton.mpr trivial, fun _ _ => rfl⟩
  · exact ⟨[], rfl, List.forall_mem_nil _, fun _ _ => rfl⟩

/-- An event does to the strings what the name after it says. -/
theorem streamsStep_posts (apart : bridges.sniBridgeId ≠ bridges.featureBridgeId)
    (state : StreamsState Memory D) (event : StreamEvent) :
    PostsNames bridges library event state.post
      (streamsStep cfg platform print decode bridges library streamTypeOf state event).post := by
  cases event with
  | ssl sessionInfo stream returns =>
    refine callBridge_hello library (fun _ => StreamEvent.noConfusion) ?_
    simp only [bridgeStep, tiFeaturesSslEntry]
    rcases sessionInfo with _ | ⟨protFlag, appInfo⟩ <;> rcases stream with _ | stream
    · rfl
    · rfl
    · rfl
    · simp only [StreamEvent.clientHello]
      split
      · cases appInfo.join <;> rfl
      · rfl
  | quic sessionInfo stream returns =>
    refine callBridge_hello library (fun _ => StreamEvent.noConfusion) ?_
    simp only [bridgeStep, tiFeaturesQuicEntry]
    rcases sessionInfo with _ | ⟨clientHello, appInfo⟩ <;> rcases stream with _ | stream
    · rfl
    · rfl
    · rfl
    · simp only [StreamEvent.clientHello]
      split
      · cases appInfo.join.join <;> rfl
      · rfl
  | traffic stream callback created printed returns =>
    have kept : ∀ (other : Nat) (held : Option (List UInt8)),
        (StreamEvent.traffic stream callback created printed returns).nameAfter other held = held :=
      StreamEvent.nameAfter_other rfl fun _ => StreamEvent.noConfusion
    have nothing : PostsNames bridges library
        (.traffic stream callback created printed returns) state.post state.post :=
      ⟨[], List.forall_mem_nil _, rfl, fun _ other held => by rw [kept, List.foldl_nil]⟩
    simp only [streamsStep]
    split
    · rename_i flow _ opened
      -- the name is read, or not, and then the features go to their own place
      obtain ⟨reads, reads_eq, respects, leaves⟩ := exists_reads library
        (created && sniBridgeEnabled bridges) (stream, bridges.sniBridgeId) state.post
      rw [reads_eq]
      rcases trafficProcessClose_place cfg platform print bridges ⟨stream, streamTypeOf stream,
        closingPacket decode bridges library state.post stream callback.packet, some flow, created,
        printed, returns⟩ (reads.foldl (PostState.step library BridgePut.place
          BridgePut.accepted) state.post).custody with same | ⟨step, moved, notFreed, place⟩
      · refine ⟨reads, respects, callBridge_same library same, fun _ other held => ?_⟩
        rw [leaves, kept]
      · refine ⟨reads ++ [.transfer step], ?_, ?_, fun _ other held => ?_⟩
        · refine List.forall_mem_append.mpr ⟨respects, List.forall_mem_singleton.mpr ?_⟩
          exact fun freed => absurd (notFreed.symm.trans freed) Bool.false_ne_true
        · rw [List.foldl_concat]
          exact callBridge_transfer library moved
        · rw [List.foldl_concat, leaves, kept, Post.leaves, if_neg]
          intro both
          exact apart ((congrArg Prod.snd both.2).symm.trans place)
    · exact nothing
  | ended source =>
    refine ⟨[.clear (source, bridges.sniBridgeId), .clear (source, bridges.featureBridgeId)],
      ?_, rfl, fun _ stream held => ?_⟩
    · exact List.forall_mem_cons.mpr ⟨trivial, List.forall_mem_singleton.mpr trivial⟩
    · have other : (stream, bridges.sniBridgeId) ≠ (source, bridges.featureBridgeId) :=
        fun same => apart (congrArg Prod.snd same)
      rw [List.foldl_cons, List.foldl_cons, List.foldl_nil, Post.leaves, Post.leaves, if_neg other]
      by_cases ends : source = stream
      · have none_eq : (StreamEvent.ended source).nameAfter stream held = none := if_pos ends
        rw [if_pos (congrArg (·, bridges.sniBridgeId) ends.symm), none_eq]
        rfl
      · have held_eq : (StreamEvent.ended source).nameAfter stream held = held := if_neg ends
        rw [if_neg fun same => ends (congrArg Prod.fst same).symm, held_eq]

variable (cfg platform print bridges) in
/-- The strings after a sequence of events: the bridge keeps what the last names say. -/
theorem streamsRun_kept (lawful : library.Lawful)
    (apart : bridges.sniBridgeId ≠ bridges.featureBridgeId) (events : List StreamEvent) :
    ∃ kinds, (streamsRun cfg platform print decode bridges library streamTypeOf events).post.Kept
        library kinds ∧
      (sniBridgeEnabled bridges = true → ∀ stream, kinds (stream, bridges.sniBridgeId) =
        (lastName events stream).map fun name => .sni (sniBuffer name)) := by
  suffices posted : ∃ posts : List (Post BridgeString BridgePut (Nat × Int)),
      (∀ one ∈ posts, one.Respects BridgePut.accepted) ∧
      (streamsRun cfg platform print decode bridges library streamTypeOf events).post =
        PostState.run library BridgePut.place BridgePut.accepted posts ∧
      (sniBridgeEnabled bridges = true → ∀ stream,
        lastKept BridgePut.place BridgePut.accepted posts (stream, bridges.sniBridgeId) =
          (lastName events stream).map fun name => .sni (sniBuffer name)) by
    obtain ⟨posts, respects, post_eq, names⟩ := posted
    exact ⟨_, post_eq ▸ PostState.run_kept lawful respects, names⟩
  induction events using List.reverseRecOn with
  | nil => exact ⟨[], List.forall_mem_nil _, rfl, fun _ _ => rfl⟩
  | append_singleton events event inductionHypothesis =>
    obtain ⟨posts, respects, post_eq, names⟩ := inductionHypothesis
    obtain ⟨more, moreRespect, more_eq, moreNames⟩ := streamsStep_posts decode library streamTypeOf
      apart (streamsRun cfg platform print decode bridges library streamTypeOf events) event
    refine ⟨posts ++ more, List.forall_mem_append.mpr ⟨respects, moreRespect⟩, ?_,
      fun enabled stream => ?_⟩
    · rw [streamsRun, List.foldl_concat, ← streamsRun, more_eq, post_eq, PostState.run,
        ← List.foldl_append]
      rfl
    · rw [lastKept, List.foldl_append, ← lastKept, names enabled, moreNames enabled,
        lastName_concat]

end Steps

/-! ### Names in objects -/

/-- The name of a client hello is text that ends at its first zero. -/
def StreamEvent.Terminated (event : StreamEvent) : Prop :=
  ∀ source name returns, event.clientHello = some (source, name, returns) → 0 ∉ name

theorem lastName_terminated {events : List StreamEvent}
    (terminated : ∀ event ∈ events, event.Terminated) {stream : Nat} {name : List UInt8}
    (last : lastName events stream = some name) : 0 ∉ name := by
  induction events using List.reverseRecOn with
  | nil => cases last
  | append_singleton events event inductionHypothesis =>
    have earlier := inductionHypothesis fun other member =>
      terminated other (List.mem_append_left _ member)
    rw [lastName_concat] at last
    unfold StreamEvent.nameAfter at last
    split at last
    · rename_i source found returns hello
      split at last
      · exact Option.some.inj last ▸ terminated event
          (List.mem_append_right _ (List.mem_singleton_self _)) source found returns hello
      · exact earlier last
    · split at last
      · split at last
        · cases last
        · exact earlier last
      · exact earlier last

/-- The text of the buffer of a name is as much of the name as the buffer takes. -/
theorem text_sniBuffer (decode : List UInt8 → String) {name : List UInt8} (terminated : 0 ∉ name) :
    (BridgeString.sni (sniBuffer name)).text decode = decode (name.take (maxDomainLen - 1)) := by
  have front : name.take (min name.length (maxDomainLen - 1)) = name.take (maxDomainLen - 1) := by
    rw [List.take_eq_take_iff]
    omega
  have nonzero : ∀ byte ∈ name.take (maxDomainLen - 1), decide (byte ≠ 0) = true :=
    fun byte member => decide_eq_true fun zero => terminated (zero ▸ List.mem_of_mem_take member)
  have zeros : ∀ count, (List.replicate count (0 : UInt8)).takeWhile (· ≠ 0) = [] := by
    intro count
    cases count <;> rfl
  rw [BridgeString.text, sniBuffer, front, List.takeWhile_append_of_pos nonzero, zeros,
    List.append_nil]

section Objects

variable {D Memory : Type} [Double D]

/-- The name in an object is the one that the packet came with. -/
theorem sni_mem_iff {cfg : FeatureConfig} {platform : Platform D} {streamType : StreamType}
    {packet : RawPacket} {view : View D} {value : Json D} :
    ("sni", value) ∈ flowStateComputeFeatures cfg platform streamType packet view ↔
      ∃ text, packet.sni = some text ∧ value = .str text := by
  have tuple : ("sni", value) ∉ addFlowTupleIdentifier platform streamType packet := by
    have withAddresses : "sni" ∉ ["createtime", "src_ip", "dst_ip", "src_port", "dst_port",
        "trans_proto", "stream_dir"] := by
      decide
    have without : "sni" ∉ ["createtime", "trans_proto", "stream_dir"] := by decide
    refine mt (List.mem_map_of_mem (f := Prod.fst)) ?_
    unfold addFlowTupleIdentifier
    cases packet.addr with
    | ipv4 paddr =>
      cases paddr with
      | none => exact without
      | some paddr => exact withAddresses
    | ipv6 paddr =>
      cases paddr with
      | none => exact without
      | some paddr => exact withAddresses
    | other => exact without
  have grouped : ("sni", value) ∉ groupOrder.flatMap (Group.emitted cfg platform view) := by
    intro member
    obtain ⟨group, -, inside⟩ := mem_flatMap_emitted_iff.mp member
    exact Group.key_notMem_frameKeys (Group.key_mem inside) (by decide)
  have information : ("sni", value) ∉ flowInformation view.counters view.tcp := by
    have keys : "sni" ∉ ["total_packets", "fwd_packets", "bwd_packets", "total_bytes",
        "fwd_bytes", "bwd_bytes", "tcp_syn_count", "tcp_fin_count", "tcp_rst_count",
        "tcp_ack_count"] := by
      decide
    exact mt (List.mem_map_of_mem (f := Prod.fst)) keys
  rw [flowStateComputeFeatures_eq, List.mem_append, List.mem_append, List.mem_append,
    or_iff_left information, or_iff_left grouped, or_iff_right tuple]
  cases packet.sni with
  | none =>
    exact iff_of_false List.not_mem_nil fun ⟨_, same, _⟩ => Option.some_ne_none _ same.symm
  | some text =>
    rw [List.mem_singleton, addString, Prod.mk.injEq, and_iff_right rfl]
    exact ⟨fun same => ⟨text, rfl, same⟩,
      fun ⟨_, same, value_eq⟩ => Option.some.inj same ▸ value_eq⟩

variable (cfg : FeatureConfig) (platform : Platform D) (print : Output D → String)
  (decode : List UInt8 → String) (bridges : BridgeConfig) {library : StreamBridge Memory}
  (streamTypeOf : Nat → StreamType)

/-- In whatever order client hellos, packets, closes and ends of any streams come, and whatever
allocations fail and the bridge rejects: the object of a flow has the name of the last client
hello of its own stream whose copy the bridge took, cut to the size of the buffer, and no name if
there was none. No string is read or given back after it was given back. -/
theorem streamsRun_names (lawful : library.Lawful)
    (apart : bridges.sniBridgeId ≠ bridges.featureBridgeId) (events : List StreamEvent)
    (terminated : ∀ event ∈ events, event.Terminated) :
    let state := streamsRun cfg platform print decode bridges library streamTypeOf events
    state.post.custody.heap.fault = false ∧
      ∀ stream packet flow, state.pme stream = some flow → ∀ value : Json D,
        ("sni", value) ∈
            closingFeatures cfg platform decode bridges library streamTypeOf state stream packet
              flow ↔
          sniBridgeEnabled bridges = true ∧ ∃ name, lastName events stream = some name ∧
            value = .str (decode (name.take (maxDomainLen - 1))) := by
  intro state
  obtain ⟨kinds, kept, names⟩ :=
    streamsRun_kept cfg platform print decode bridges library streamTypeOf lawful apart events
  obtain ⟨owned, owns⟩ := kept.sound.owned
  refine ⟨owns.noFault, fun stream packet flow _ value => ?_⟩
  rw [closingFeatures, sni_mem_iff, closingPacket]
  dsimp only
  by_cases enabled : sniBridgeEnabled bridges = true
  · rw [if_pos enabled, kept.kind_eq, names enabled, and_iff_right enabled]
    cases last : lastName events stream with
    | none =>
      exact iff_of_false (fun ⟨_, same, _⟩ => Option.some_ne_none _ same.symm)
        fun ⟨_, same, _⟩ => Option.some_ne_none _ same.symm
    | some name =>
      have text_eq := text_sniBuffer decode (lastName_terminated terminated last)
      simp only [Option.map_some, Option.some.injEq, text_eq, exists_eq_left']
  · rw [if_neg enabled]
    exact iff_of_false (fun ⟨_, same, _⟩ => Option.some_ne_none _ same.symm)
      fun both => enabled both.1

/-- A flow is opened, then come its hello and the hello of another stream. -/
def helloEvents : List StreamEvent :=
  [.traffic 1 ⟨.pending, .succeed, barePacket 1 1 0⟩ true true ⟨true, 0⟩,
    .ssl (some ⟨sslClientHello, some (some [97])⟩) (some 1) ⟨true, 0⟩,
    .quic (some ⟨true, some (some (some [98]))⟩) (some 2) ⟨true, 0⟩]

/-- The flow closes with the name of its own hello. -/
theorem streamsRun_names_two :
    let bridges : BridgeConfig := ⟨true, false, false, -1, true, 3⟩
    let decode := fun name : List UInt8 =>
      String.ofList (name.map fun byte => Char.ofNat byte.toNat)
    let state := streamsRun defaultConfig (barePlatform Float) (fun _ => "{}") decode bridges
      Postbox.table (fun _ => .tcp) helloEvents
    ∃ flow, state.pme 1 = some flow ∧ ("sni", Json.str (decode [97])) ∈
      closingFeatures defaultConfig (barePlatform Float) decode bridges Postbox.table
        (fun _ => .tcp) state 1 (barePacket 2 1 0) flow := by
  intro bridges decode state
  have terminated : ∀ event ∈ helloEvents, event.Terminated := by
    intro event member source name returns hello
    simp only [helloEvents, List.mem_cons, List.not_mem_nil, or_false] at member
    rcases member with rfl | rfl | rfl
    · cases hello
    · cases hello
      decide
    · cases hello
      decide
  obtain ⟨flow, created⟩ := createFlow_succeed (D := Float) defaultConfig
    (packetTsUs defaultConfig (barePacket 1 1 0))
  have opened : state.pme 1 = some (processData defaultConfig (barePlatform Float) .tcp .succeed
      (barePacket 1 1 0) flow) := by
    show (trafficProcess defaultConfig (barePlatform Float) .tcp .pending .succeed
      (barePacket 1 1 0) none).1 = _
    rw [trafficProcess, created]
  refine ⟨_, opened, ((streamsRun_names defaultConfig (barePlatform Float) (fun _ => "{}") decode
    bridges (fun _ => .tcp) Postbox.table_lawful (by decide) helloEvents terminated).2 1 _ _
    opened _).mpr ⟨rfl, [97], rfl, rfl⟩⟩

end Objects

end TiFeatures
