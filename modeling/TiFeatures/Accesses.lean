/-
This file sorts the accesses of a packet by the part of the flow they change.
Each part is changed by one call of the DATA branch only, and every call except
the window update changes a part at most once for a packet.
-/

import TiFeatures.Traffic

namespace TiFeatures

variable {D : Type}

/-! ### Targets and calls -/

/-- The parts of a flow's memory that accesses change. -/
inductive Target where
  | ring (seq : SeqId)
  | array (dir : DirArray)
  | firstN
  | burst
  | respDelay
  | window
  deriving DecidableEq

/-- The part an access changes. -/
def Access.target : Access D → Target
  | .push seq _ => .ring seq
  | .append dir _ => .array dir
  | .appendFirstN _ => .firstN
  | .recordBurst .. => .burst
  | .appendRespDelay _ => .respDelay
  | .setWindowBitrate .. => .window
  | .countWindow .. => .window

/-- The calls of the DATA branch that make accesses. -/
inductive Call where
  | ip
  | counters
  | pktLen
  | seqs
  | iat
  | tcp
  | udp
  | payload
  | burst
  | response
  | window
  deriving DecidableEq

/-- The calls in program order. -/
def callOrder : List Call :=
  [.ip, .counters, .pktLen, .seqs, .iat, .tcp, .udp, .payload, .burst, .response, .window]

/-- The call that changes a part. -/
def Target.call : Target → Call
  | .ring .ipTtlSeq | .ring .ipTosSeq => .ip
  | .ring .pktLenSeq => .pktLen
  | .ring .dirSeq | .ring .tsSeq | .ring .l3LenSeq | .ring .l4LenSeq | .ring .payloadLenSeq =>
    .seqs
  | .ring .iatSeq => .iat
  | .ring .tcpWindowSeq => .tcp
  | .ring .udpLenSeq => .udp
  | .ring .payloadSizeSeq | .ring .payloadSizeDiffSeq => .payload
  | .array .fwdPktLens | .array .bwdPktLens => .pktLen
  | .array .fwdIats | .array .bwdIats => .iat
  | .array .fwdPayloadSizes | .array .bwdPayloadSizes => .counters
  | .firstN => .pktLen
  | .burst => .burst
  | .respDelay => .response
  | .window => .window

section Calls

variable [Double D] (cfg : FeatureConfig) (platform : Platform D) (info : PacketInfo)
  (fields : Fields D)

/-- The accesses of one call. -/
def callAccesses : Call → List (Access D)
  | .ip => (ipCall cfg info fields.ip).2
  | .counters => (countersCall cfg info fields.counters fields.payloadDir).2.2
  | .pktLen => (pktLenCall cfg info fields.pktLen).2
  | .seqs => seqPushes cfg info
  | .iat => (iatCall cfg info fields.iat).2
  | .tcp => (tcpCall cfg info fields.tcp).2
  | .udp => (udpCall cfg info fields.udpLenStats).2
  | .payload => (payloadCall cfg info platform fields.payload).2
  | .burst => (burstCall cfg info fields.burst (burstIat info fields.iat)).2
  | .response => (responseCall cfg info fields.response).2
  | .window => (windowCall cfg info fields.window).2

theorem dataAccesses_eq : dataAccesses cfg platform info fields =
    callOrder.flatMap (callAccesses cfg platform info fields) := by
  simp only [dataAccesses, callOrder, List.flatMap_cons, List.flatMap_nil, List.append_nil,
    List.append_assoc, callAccesses]

end Calls

/-! ### What each call changes -/

/-- The parts a list of accesses changes. -/
def targets (accesses : List (Access D)) : List Target := accesses.map Access.target

theorem targets_cons (access : Access D) (rest : List (Access D)) :
    targets (access :: rest) = access.target :: targets rest := rfl

/-- The parts that a call changes. -/
def Call.parts : Call → List Target
  | .ip => [.ring .ipTtlSeq, .ring .ipTosSeq]
  | .counters => [.array .fwdPayloadSizes, .array .bwdPayloadSizes]
  | .pktLen => [.ring .pktLenSeq, .firstN, .array .fwdPktLens, .array .bwdPktLens]
  | .seqs => [.ring .dirSeq, .ring .tsSeq, .ring .l3LenSeq, .ring .l4LenSeq, .ring .payloadLenSeq]
  | .iat => [.array .fwdIats, .array .bwdIats, .ring .iatSeq]
  | .tcp => [.ring .tcpWindowSeq]
  | .udp => [.ring .udpLenSeq]
  | .payload => [.ring .payloadSizeSeq, .ring .payloadSizeDiffSeq]
  | .burst => [.burst]
  | .response => [.respDelay]
  | .window => [.window]

theorem Call.parts_nodup (call : Call) : call.parts.Nodup := by
  cases call <;> decide

theorem Call.call_of_mem_parts {call : Call} {target : Target} (member : target ∈ call.parts) :
    target.call = call := by
  have all : ∀ target ∈ call.parts, target.call = call := by
    cases call <;> decide
  exact all target member

theorem targets_if_sublist (condition : Prop) [Decidable condition]
    (accesses : List (Access D)) :
    List.Sublist (targets (if condition then accesses else [])) (targets accesses) := by
  split
  · exact .refl _
  · exact List.nil_sublist _

theorem targets_append (front back : List (Access D)) :
    targets (front ++ back) = targets front ++ targets back := List.map_append

theorem targets_finishWindows (windowSizeUs targetWindow numWindows current : Nat) :
    ∀ target ∈ targets (finishWindows (D := D) windowSizeUs targetWindow numWindows current).2,
      target = .window := by
  induction current using finishWindows.induct (D := D) windowSizeUs targetWindow numWindows with
  | case1 current more inductionHypothesis =>
    rw [finishWindows, if_pos more]
    intro target member
    rcases List.mem_cons.mp member with rfl | later
    · rfl
    · exact inductionHypothesis target later
  | case2 current done =>
    rw [finishWindows, if_neg done]
    intro target member
    cases member

/-- Reading a concatenation through what only one of its parts shows. -/
theorem filterMap_flatMap_of_owner {Part Value Image : Type} {parts : List Part}
    {values : Part → List Value} {image : Value → Option Image} {owner : Part}
    (distinct : parts.Nodup) (member : owner ∈ parts)
    (silent : ∀ part, part ≠ owner → (values part).filterMap image = []) :
    (parts.flatMap values).filterMap image = (values owner).filterMap image := by
  induction parts with
  | nil => cases member
  | cons head rest inductionHypothesis =>
    obtain ⟨notRest, restDistinct⟩ := List.nodup_cons.mp distinct
    rw [List.flatMap_cons, List.filterMap_append]
    rcases List.mem_cons.mp member with rfl | inRest
    · have tail : (rest.flatMap values).filterMap image = [] := by
        rw [List.filterMap_flatMap, List.flatMap_eq_nil_iff]
        exact fun part inside => silent part fun same => notRest (same ▸ inside)
      rw [tail, List.append_nil]
    · rw [silent head fun same => notRest (same ▸ inRest), List.nil_append]
      exact inductionHypothesis restDistinct inRest

/-- An access if it changes a part. -/
def Access.at (part : Target) (access : Access D) : Option (Access D) :=
  if access.target = part then some access else none

theorem Access.at_eq_none {part : Target} {access : Access D} (other : access.target ≠ part) :
    access.at part = none := if_neg other

/-- How often a part is changed is how many accesses change it. -/
theorem count_targets (accesses : List (Access D)) (part : Target) :
    (targets accesses).count part = (accesses.filterMap (Access.at part)).length := by
  induction accesses with
  | nil => rfl
  | cons access rest inductionHypothesis =>
    rw [targets_cons, List.count_cons, inductionHypothesis, List.filterMap_cons, Access.at]
    by_cases same : access.target = part
    · simp only [same, beq_self_eq_true, if_true, List.length_cons]
    · simp only [same, if_false, beq_eq_false_iff_ne.mpr same, Bool.false_eq_true, Nat.add_zero]

section Owners

variable [Double D] (cfg : FeatureConfig) (platform : Platform D) (info : PacketInfo)
  (fields : Fields D)

/-- Every call but the window update changes its parts in a fixed order, each at most once. -/
theorem targets_sublist {call : Call} (other : call ≠ .window) :
    List.Sublist (targets (callAccesses cfg platform info fields call)) call.parts := by
  cases call with
  | ip =>
    simp only [callAccesses, ipCall]
    split
    · split
      · exact .refl _
      · exact List.nil_sublist _
    · exact List.nil_sublist _
  | counters =>
    simp only [callAccesses, countersCall, calcBasicCounters]
    split
    · split
      · exact .cons_cons _ (List.nil_sublist _)
      · exact List.nil_sublist _
    · split
      · split
        · exact .cons _ (.refl _)
        · exact List.nil_sublist _
      · exact List.nil_sublist _
  | pktLen =>
    simp only [callAccesses, pktLenCall, calcPacketLengthStats, targets_append]
    refine ((targets_if_sublist _ _).append (targets_if_sublist _ _)).append ?_
    split
    · split
      · exact .cons_cons _ (List.nil_sublist _)
      · exact .cons _ (targets_if_sublist _ _)
    · exact List.nil_sublist _
  | seqs =>
    simp only [callAccesses, seqPushes, targets_append]
    exact ((targets_if_sublist _ _).append (targets_if_sublist _ _)).append
      (targets_if_sublist _ _)
  | iat =>
    simp only [callAccesses, iatCall, calcIatUpdate]
    split
    · exact List.nil_sublist _
    · simp only [targets_append]
      exact ((targets_if_sublist _ _).append (targets_if_sublist _ _)).append
        (targets_if_sublist _ _)
  | tcp =>
    simp only [callAccesses, tcpCall]
    split
    · split
      · exact .refl _
      · exact List.nil_sublist _
    · exact List.nil_sublist _
  | udp =>
    simp only [callAccesses, udpCall]
    split
    · exact .refl _
    · exact List.nil_sublist _
  | payload =>
    simp only [callAccesses, payloadCall]
    split
    · split
      · simp only [calcPayloadStats]
        split
        · exact List.nil_sublist _
        · exact (List.Sublist.refl [_]).append (targets_if_sublist _ _)
      · exact List.nil_sublist _
    · exact List.nil_sublist _
  | burst =>
    simp only [callAccesses, burstCall, calcBurstUpdate]
    split
    · split
      · exact List.nil_sublist _
      · exact targets_if_sublist _ _
    · exact List.nil_sublist _
  | response =>
    simp only [callAccesses, responseCall, calcResponseDelay]
    split
    · split
      · exact List.nil_sublist _
      · split
        · exact .refl _
        · exact List.nil_sublist _
    · exact List.nil_sublist _
  | window => exact absurd rfl other

/-- The window update changes the windows only. -/
theorem targets_window :
    ∀ target ∈ targets (callAccesses cfg platform info fields .window), target = .window := by
  simp only [callAccesses, windowCall, calcWindowUpdate]
  split
  · split
    · intro target member
      cases member
    · intro target member
      rw [targets_append] at member
      rcases List.mem_append.mp member with finished | counted
      · exact targets_finishWindows _ _ _ _ target finished
      · exact List.mem_singleton.mp ((targets_if_sublist _ _).subset counted)
  · intro target member
    cases member

theorem call_of_mem_targets {call : Call} {target : Target}
    (member : target ∈ targets (callAccesses cfg platform info fields call)) :
    target.call = call := by
  by_cases other : call = .window
  · subst other
    rw [targets_window cfg platform info fields target member]
    rfl
  · exact Call.call_of_mem_parts ((targets_sublist cfg platform info fields other).subset member)

/-- An access of a packet that does not change the windows comes from another call. -/
theorem mem_dataAccesses {access : Access D}
    (member : access ∈ dataAccesses cfg platform info fields) :
    access.target ≠ .window ∨ access ∈ callAccesses cfg platform info fields .window := by
  rw [dataAccesses_eq] at member
  obtain ⟨call, -, inside⟩ := List.mem_flatMap.mp member
  by_cases window : call = .window
  · exact Or.inr (window ▸ inside)
  · refine Or.inl fun same => window ?_
    have owner := call_of_mem_targets cfg platform info fields
      (List.mem_map_of_mem (f := Access.target) inside)
    rw [← owner, same]
    rfl

/-- What is read off the accesses of a packet through one part comes from the call that changes
this part. -/
theorem filterMap_dataAccesses {Image : Type} {image : Access D → Option Image} (part : Target)
    (only : ∀ access, access.target ≠ part → image access = none) :
    (dataAccesses cfg platform info fields).filterMap image =
      (callAccesses cfg platform info fields part.call).filterMap image := by
  have silent : ∀ call, call ≠ part.call →
      (callAccesses cfg platform info fields call).filterMap image = [] := by
    intro call different
    refine List.filterMap_eq_nil_iff.mpr fun access member => only access fun same => different ?_
    rw [← same]
    exact (call_of_mem_targets cfg platform info fields
      (List.mem_map_of_mem (f := Access.target) member)).symm
  rw [dataAccesses_eq]
  exact filterMap_flatMap_of_owner (by decide) (by cases part.call <;> decide) silent

/-- Outside the windows, the accesses of a packet change each part at most once. -/
theorem count_targets_le {part : Target} (other : part ≠ .window) :
    (targets (dataAccesses cfg platform info fields)).count part ≤ 1 := by
  have owner : part.call ≠ .window := by
    intro same
    cases part with
    | ring seq => cases seq <;> cases same
    | array dir => cases dir <;> cases same
    | window => exact other rfl
    | _ => cases same
  have distinct := targets_sublist cfg platform info fields owner
  rw [count_targets, filterMap_dataAccesses cfg platform info fields part
    fun _ => Access.at_eq_none, ← count_targets]
  exact (distinct.count_le part).trans (List.nodup_iff_count_le_one.mp (Call.parts_nodup _) part)

end Owners

end TiFeatures
