/-
This file describes what the parts of a flow hold by the values its packets
send to them: a circular buffer holds the last values pushed to it, an array the
first values appended to it, and nothing that goes to another part matters.
-/

import TiFeatures.Tiers

namespace TiFeatures

open BoundedStore

variable {D : Type}

/-! ### The values sent to a part -/

/-- The value an access pushes to a circular buffer. -/
def Access.pushed (seq : SeqId) : Access D → Option Nat
  | .push other value => if other = seq then some value else none
  | _ => none

/-- The value an access appends to a directional array. -/
def Access.appended (dir : DirArray) : Access D → Option Nat
  | .append other value => if other = dir then some value else none
  | _ => none

/-- The length an access appends to the first packets. -/
def Access.firstLength : Access D → Option Nat
  | .appendFirstN pktLen => some pktLen
  | _ => none

/-- The response delay an access appends. -/
def Access.delay : Access D → Option D
  | .appendRespDelay delay => some delay
  | _ => none

theorem Access.pushed_eq_none {seq : SeqId} {access : Access D}
    (other : access.target ≠ .ring seq) : access.pushed seq = none := by
  cases access with
  | push pushed value => exact if_neg fun same => other (congrArg Target.ring same)
  | _ => rfl

theorem Access.appended_eq_none {dir : DirArray} {access : Access D}
    (other : access.target ≠ .array dir) : access.appended dir = none := by
  cases access with
  | append appended value => exact if_neg fun same => other (congrArg Target.array same)
  | _ => rfl

theorem Access.firstLength_eq_none {access : Access D} (other : access.target ≠ .firstN) :
    access.firstLength = none := by
  cases access with
  | appendFirstN pktLen => exact absurd rfl other
  | _ => rfl

theorem Access.delay_eq_none {access : Access D} (other : access.target ≠ .respDelay) :
    access.delay = none := by
  cases access with
  | appendRespDelay delay => exact absurd rfl other
  | _ => rfl

/-! ### What a part holds -/

section Values

variable (contents : FlowContents D) (firstNCapacity : Nat) (accesses : List (Access D))

theorem accessAll_seqs (seq : SeqId) :
    (contents.accessAll firstNCapacity accesses).seqs seq =
      ((accesses.filterMap (Access.pushed seq)).map seq.stored).foldl (slide 5000)
        (contents.seqs seq) := by
  rw [List.foldl_map, List.foldl_filterMap]
  refine (List.foldl_hom (fun contents : FlowContents D => contents.seqs seq)
    fun contents access => ?_).symm
  by_cases own : access.target = .ring seq
  · cases access with
    | push other value =>
      cases own
      simp only [FlowContents.access, Function.update_self, Access.pushed, if_true]
      rfl
    | _ => cases own
  · rw [Access.pushed_eq_none own]
    have kept := contents.access_at_ne (flowMemLevelToSeqLen .large) firstNCapacity own
    exact (List.cons.inj (Prod.mk.inj kept).1).1.symm

theorem accessAll_arrays (dir : DirArray) :
    (contents.accessAll firstNCapacity accesses).arrays dir.arrayId =
      ((accesses.filterMap (Access.appended dir)).map dir.arrayId.stored).foldl (fill 5000)
        (contents.arrays dir.arrayId) := by
  rw [List.foldl_map, List.foldl_filterMap]
  refine (List.foldl_hom (fun contents : FlowContents D => contents.arrays dir.arrayId)
    fun contents access => ?_).symm
  by_cases own : access.target = .array dir
  · cases access with
    | append other value =>
      cases own
      simp only [FlowContents.access, Function.update_self, Access.appended, if_true]
      rfl
    | _ => cases own
  · rw [Access.appended_eq_none own]
    have kept := contents.access_at_ne (flowMemLevelToSeqLen .large) firstNCapacity own
    exact (List.cons.inj (Prod.mk.inj kept).1).1.symm

theorem accessAll_firstNLens :
    (contents.accessAll firstNCapacity accesses).firstNLens =
      ((accesses.filterMap Access.firstLength).map (· % 256 ^ 4)).foldl (fill firstNCapacity)
        contents.firstNLens := by
  rw [List.foldl_map, List.foldl_filterMap]
  refine (List.foldl_hom FlowContents.firstNLens fun contents access => ?_).symm
  by_cases own : access.target = .firstN
  · cases access with
    | appendFirstN pktLen => rfl
    | _ => cases own
  · rw [Access.firstLength_eq_none own]
    have kept := contents.access_at_ne (flowMemLevelToSeqLen .large) firstNCapacity own
    exact (List.cons.inj (Prod.mk.inj kept).1).1.symm

/-- The response delays have the same capacity at every level. -/
theorem foldl_access_respDelays (seqLen : Nat) :
    (accesses.foldl (FlowContents.access seqLen firstNCapacity) contents).respDelays =
      (accesses.filterMap Access.delay).foldl (fill poolRespDelayCapacity)
        contents.respDelays := by
  rw [List.foldl_filterMap]
  refine (List.foldl_hom FlowContents.respDelays fun contents access => ?_).symm
  by_cases own : access.target = .respDelay
  · cases access with
    | appendRespDelay delay => rfl
    | _ => cases own
  · rw [Access.delay_eq_none own]
    exact (Prod.mk.inj (contents.access_at_ne seqLen firstNCapacity own)).2.symm

end Values

/-! ### The range of the values -/

/-- The numbers of a packet fit the types of their variables. -/
structure PacketInfo.InRange (info : PacketInfo) : Prop where
  tsUs_lt : info.tsUs < 2 ^ 64
  pktLen_lt : info.pktLen < 2 ^ 32
  payloadLen_lt : info.payloadLen < 2 ^ 32
  l3Len_lt : info.l3Len < 2 ^ 32
  l4Len_lt : info.l4Len < 2 ^ 32
  iph_lt : ∀ iph, info.iph = some iph → iph.ttl < 2 ^ 32 ∧ iph.tos < 2 ^ 32
  tcph_lt : ∀ tcph, info.tcph = some tcph → tcph.window < 2 ^ 32

theorem bigEndian_lt (bytes : Nat → UInt8) (offset count : Nat) :
    bigEndian bytes offset count < 256 ^ count := by
  unfold bigEndian
  induction count with
  | zero => exact Nat.one_pos
  | succ count inductionHypothesis =>
    rw [List.range_succ, List.foldl_append, List.foldl_cons, List.foldl_nil, Nat.pow_succ]
    have byte := (bytes (offset + count)).toNat_lt
    omega

theorem packetInfo_inRange (cfg : FeatureConfig) (streamType : StreamType) (packet : RawPacket) :
    (packetInfo cfg streamType packet).InRange where
  tsUs_lt := packetInfo_tsUs_lt cfg streamType packet
  pktLen_lt := packetInfo_pktLen_lt cfg streamType packet
  payloadLen_lt := packetInfo_payloadLen_lt cfg streamType packet
  l3Len_lt := by
    show packetL3Len packet < 2 ^ 32
    unfold packetL3Len
    split
    · simp only [ipHeaderAt]
      omega
    · decide
  l4Len_lt := by
    show packetL4Len streamType packet < 2 ^ 32
    cases streamType with
    | udp => exact (show 8 < 2 ^ 32 by decide)
    | tcp =>
      cases found : packet.aPacket with
      | none => simp only [packetL4Len, packetTcph, found, Nat.reducePow, Nat.ofNat_pos]
      | some bytes =>
        have byte := (bytes (packetL3Len packet + 12)).toNat_lt
        simp only [packetL4Len, packetTcph, found, tcpHeaderAt]
        omega
  iph_lt := by
    intro iph found
    obtain ⟨bytes, -, rfl⟩ := Option.map_eq_some_iff.mp found
    have ttl := (bytes 8).toNat_lt
    have tos := (bytes 1).toNat_lt
    simp only [ipHeaderAt]
    omega
  tcph_lt := by
    intro tcph found
    change packetTcph streamType packet = some tcph at found
    unfold packetTcph at found
    split at found
    · obtain rfl := Option.some.inj found
      rename_i bytes _
      have window := bigEndian_lt bytes (packetL3Len packet + 14) 2
      simp only [tcpHeaderAt]
      omega
    · cases found

/-- A pushed or appended value fits the elements it goes to. -/
def Access.InRange : Access D → Prop
  | .push seq value => value < 256 ^ seq.elemSize
  | .append dir value => value < 256 ^ dir.arrayId.width
  | .appendFirstN pktLen => pktLen < 256 ^ 4
  | _ => True

theorem forall_mem_if {condition : Prop} [Decidable condition] {Holds : Access D → Prop}
    {accesses : List (Access D)} (all : condition → ∀ access ∈ accesses, Holds access) :
    ∀ access ∈ (if condition then accesses else []), Holds access := by
  split
  · rename_i taken
    exact all taken
  · exact fun access member => absurd member List.not_mem_nil

/-- Storing the values of accesses that fit keeps them. -/
theorem map_stored_filterMap {accesses : List (Access D)} {image : Access D → Option Nat}
    {stored : Nat → Nat}
    (kept : ∀ access ∈ accesses, ∀ value, image access = some value → stored value = value) :
    (accesses.filterMap image).map stored = accesses.filterMap image := by
  have same : (accesses.filterMap image).map stored = (accesses.filterMap image).map id := by
    refine List.map_congr_left fun value member => ?_
    obtain ⟨access, inside, found⟩ := List.mem_filterMap.mp member
    exact kept access inside value found
  rw [same, List.map_id]

theorem Access.InRange.stored_pushed {access : Access D} (inRange : access.InRange) {seq : SeqId}
    {value : Nat} (pushed : access.pushed seq = some value) : seq.stored value = value := by
  cases access with
  | push other sent =>
    by_cases same : other = seq
    · subst same
      obtain rfl := Option.some.inj ((if_pos rfl).symm.trans pushed)
      exact Nat.mod_eq_of_lt inRange
    · cases (if_neg same).symm.trans pushed
  | _ => cases pushed

theorem Access.InRange.stored_appended {access : Access D} (inRange : access.InRange)
    {dir : DirArray} {value : Nat} (appended : access.appended dir = some value) :
    dir.arrayId.stored value = value := by
  cases access with
  | append other sent =>
    by_cases same : other = dir
    · subst same
      obtain rfl := Option.some.inj ((if_pos rfl).symm.trans appended)
      exact Nat.mod_eq_of_lt inRange
    · cases (if_neg same).symm.trans appended
  | _ => cases appended

theorem Access.InRange.stored_firstLength {access : Access D} (inRange : access.InRange)
    {value : Nat} (appended : access.firstLength = some value) : value % 256 ^ 4 = value := by
  cases access with
  | appendFirstN pktLen =>
    obtain rfl := Option.some.inj appended
    exact Nat.mod_eq_of_lt inRange
  | _ => cases appended

section Ranges

variable [Double D] (cfg : FeatureConfig) (platform : Platform D) {info : PacketInfo}
  (fields : Fields D)

/-- The values a packet sends to the parts of a flow fit their elements. -/
theorem callAccesses_inRange (range : info.InRange) (call : Call) :
    ∀ access ∈ callAccesses cfg platform info fields call, access.InRange := by
  have none : ∀ access ∈ ([] : List (Access D)), access.InRange := List.forall_mem_nil _
  have push : ∀ (seq : SeqId) (value : Nat), value < 256 ^ seq.elemSize →
      ∀ access ∈ [(Access.push seq value : Access D)], access.InRange :=
    fun _ _ small => List.forall_mem_singleton.mpr small
  have append : ∀ (dir : DirArray) (value : Nat), value < 256 ^ dir.arrayId.width →
      ∀ access ∈ [(Access.append dir value : Access D)], access.InRange :=
    fun _ _ small => List.forall_mem_singleton.mpr small
  cases call with
  | ip =>
    simp only [callAccesses, ipCall]
    split
    · rename_i iph found
      obtain ⟨ttl, tos⟩ := range.iph_lt iph found
      split
      · exact List.forall_mem_cons.mpr ⟨ttl, push .ipTosSeq _ tos⟩
      · exact none
    · exact none
  | counters =>
    simp only [callAccesses, countersCall, calcBasicCounters]
    split
    · split
      · exact append .fwdPayloadSizes _ range.payloadLen_lt
      · exact none
    · split
      · split
        · exact append .bwdPayloadSizes _ range.payloadLen_lt
        · exact none
      · exact none
  | pktLen =>
    simp only [callAccesses, pktLenCall, calcPacketLengthStats, List.forall_mem_append]
    refine ⟨⟨forall_mem_if fun _ => push .pktLenSeq _ range.pktLen_lt,
      forall_mem_if fun _ => List.forall_mem_singleton.mpr range.pktLen_lt⟩, ?_⟩
    refine forall_mem_if fun _ => ?_
    split
    · exact append .fwdPktLens _ range.pktLen_lt
    · exact forall_mem_if fun _ => append .bwdPktLens _ range.pktLen_lt
  | seqs =>
    simp only [callAccesses, seqPushes, List.forall_mem_append]
    refine ⟨⟨forall_mem_if fun _ => push .dirSeq _ ?_, forall_mem_if fun _ =>
      push .tsSeq _ range.tsUs_lt⟩, forall_mem_if fun _ => List.forall_mem_cons.mpr
      ⟨range.l3Len_lt, List.forall_mem_cons.mpr ⟨range.l4Len_lt,
        push .payloadLenSeq _ range.payloadLen_lt⟩⟩⟩
    unfold dirVal
    split_ifs <;> decide
  | iat =>
    simp only [callAccesses, iatCall, calcIatUpdate]
    split
    · exact none
    · simp only [List.forall_mem_append]
      exact ⟨⟨forall_mem_if fun _ => append .fwdIats _ (u64Sub_lt _ _),
        forall_mem_if fun _ => append .bwdIats _ (u64Sub_lt _ _)⟩,
        forall_mem_if fun _ => push .iatSeq _ (u64Sub_lt _ _)⟩
  | tcp =>
    simp only [callAccesses, tcpCall]
    split
    · rename_i tcph _ found
      split
      · exact push .tcpWindowSeq _ (range.tcph_lt tcph found)
      · exact none
    · exact none
  | udp =>
    simp only [callAccesses, udpCall]
    split
    · exact push .udpLenSeq _ (u32_lt _)
    · exact none
  | payload =>
    simp only [callAccesses, payloadCall]
    split
    · split
      · simp only [calcPayloadStats]
        split
        · exact none
        · exact List.forall_mem_append.mpr ⟨push .payloadSizeSeq _ range.payloadLen_lt,
            forall_mem_if fun _ => push .payloadSizeDiffSeq _ (u32_lt _)⟩
      · exact none
    · exact none
  | _ =>
    intro access member
    have owner := call_of_mem_targets cfg platform info fields
      (List.mem_map_of_mem (f := Access.target) member)
    cases access with
    | push seq value => cases seq <;> cases owner
    | append dir value => cases dir <;> cases owner
    | appendFirstN pktLen => cases owner
    | _ => trivial

end Ranges

/-! ### What a flow holds after its packets -/

section Flows

variable [Double D] (cfg : FeatureConfig) (platform : Platform D) (streamType : StreamType)
  (first : RawPacket) (rest : List RawPacket)

theorem flowAccesses_inRange :
    ∀ access ∈ flowAccesses cfg platform streamType first rest, access.InRange := by
  refine Mealy.trace_forall (fun _ => True) (fun _ _ _ _ => trivial) ?_ trivial
  intro fields info member _ access inside
  obtain ⟨packet, -, rfl⟩ := List.mem_map.mp member
  replace inside : access ∈ dataAccesses cfg platform (packetInfo cfg streamType packet) fields :=
    inside
  rw [dataAccesses_eq] at inside
  obtain ⟨call, -, inside⟩ := List.mem_flatMap.mp inside
  exact callAccesses_inRange cfg platform fields (packetInfo_inRange cfg streamType packet) call
    access inside

/-- A circular buffer holds the last 5000 values pushed to it. -/
theorem flowContents_seqs (seq : SeqId) :
    (flowContents cfg platform streamType first rest).seqs seq =
      ((flowAccesses cfg platform streamType first rest).filterMap (Access.pushed seq)).rtake
        5000 := by
  rw [flowContents, accessAll_seqs, map_stored_filterMap fun access member _ pushed =>
    (flowAccesses_inRange cfg platform streamType first rest access member).stored_pushed pushed]
  exact foldl_slide_nil 5000 _

/-- A directional array holds the first 5000 values appended to it. -/
theorem flowContents_arrays (dir : DirArray) :
    (flowContents cfg platform streamType first rest).arrays dir.arrayId =
      ((flowAccesses cfg platform streamType first rest).filterMap (Access.appended dir)).take
        5000 := by
  rw [flowContents, accessAll_arrays, map_stored_filterMap fun access member _ appended =>
    (flowAccesses_inRange cfg platform streamType first rest access member).stored_appended
      appended, show FlowContents.init.arrays dir.arrayId = ([] : List Nat) by cases dir <;> rfl]
  exact foldl_fill_nil 5000 _

theorem flowContents_firstNLens :
    (flowContents cfg platform streamType first rest).firstNLens =
      ((flowAccesses cfg platform streamType first rest).filterMap Access.firstLength).take
        (clampFirstN cfg.firstNPackets) := by
  rw [flowContents, accessAll_firstNLens, map_stored_filterMap fun access member _ appended =>
    (flowAccesses_inRange cfg platform streamType first rest access member).stored_firstLength
      appended]
  exact foldl_fill_nil _ _

theorem flowContents_respDelays :
    (flowContents cfg platform streamType first rest).respDelays =
      ((flowAccesses cfg platform streamType first rest).filterMap Access.delay).take 1000 := by
  rw [flowContents, FlowContents.accessAll, foldl_access_respDelays]
  exact foldl_fill_nil _ _

end Flows

end TiFeatures
