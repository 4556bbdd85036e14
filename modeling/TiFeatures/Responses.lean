/-
This file pairs requests with responses. A response delay is recorded for every
forward packet whose next packet of known direction goes backward, and for no
other pair of packets.
-/

import TiFeatures.Gates

namespace TiFeatures

variable {D : Type}

/-! ### Exchanges -/

/-- The packets of known direction. -/
def knownPackets (infos : List PacketInfo) : List PacketInfo :=
  infos.filter fun info => info.direction = dirFwd ∨ info.direction = dirBwd

/-- The forward packets that are followed by a backward one among the packets of known direction,
each with its follower. -/
def exchanges (infos : List PacketInfo) : List (PacketInfo × PacketInfo) :=
  ((knownPackets infos).zip (knownPackets infos).tail).filter fun pair =>
    pair.1.direction = dirFwd ∧ pair.2.direction = dirBwd

/-- The delay of a response, in milliseconds. -/
def exchangeDelay (D : Type) [Double D] (pair : PacketInfo × PacketInfo) : D :=
  (u64Sub pair.2.tsUs pair.1.tsUs : D) / 1000

/-- The request that waits for its response after some packets. -/
def openRequest (infos : List PacketInfo) : Option PacketInfo :=
  (knownPackets infos).getLast?.filter fun info => info.direction = dirFwd

theorem knownPackets_concat (infos : List PacketInfo) (info : PacketInfo) :
    knownPackets (infos ++ [info]) = knownPackets infos ++
      if info.direction = dirFwd ∨ info.direction = dirBwd then [info] else [] := by
  simp only [knownPackets, List.filter_append, List.filter_cons, List.filter_nil,
    decide_eq_true_eq]

/-- A value at the end of a list is paired with the one that was last. -/
theorem zip_tail_concat {Value : Type} (values : List Value) (value : Value) :
    (values ++ [value]).zip (values ++ [value]).tail =
      values.zip values.tail ++ values.getLast?.toList.map fun last => (last, value) := by
  induction values with
  | nil => rfl
  | cons first rest inductionHypothesis =>
    cases rest with
    | nil => rfl
    | cons second others =>
      rw [List.getLast?_cons_cons]
      exact congrArg ((first, second) :: ·) inductionHypothesis

/-- A packet is the request that waits, leaves it waiting or closes it. -/
theorem openRequest_concat (infos : List PacketInfo) (info : PacketInfo) :
    openRequest (infos ++ [info]) =
      if info.direction = dirFwd then some info
      else if info.direction = dirBwd then none else openRequest infos := by
  rw [openRequest, knownPackets_concat]
  by_cases fwd : info.direction = dirFwd
  · rw [if_pos (Or.inl fwd), if_pos fwd, List.getLast?_concat]
    exact if_pos (decide_eq_true fwd)
  · rw [if_neg fwd]
    by_cases bwd : info.direction = dirBwd
    · rw [if_pos (Or.inr bwd), if_pos bwd, List.getLast?_concat]
      exact if_neg (Bool.eq_false_iff.mp (decide_eq_false fwd))
    · rw [if_neg (not_or.mpr ⟨fwd, bwd⟩), if_neg bwd, List.append_nil]
      rfl

theorem openRequest_mem {infos : List PacketInfo} {request : PacketInfo}
    (waits : openRequest infos = some request) : request ∈ infos :=
  List.mem_of_mem_filter (List.mem_of_getLast? (Option.eq_some_of_filter_eq_some waits))

/-- A backward packet answers the request that waits. -/
theorem exchanges_concat (infos : List PacketInfo) (info : PacketInfo) :
    exchanges (infos ++ [info]) = exchanges infos ++
      if info.direction = dirBwd then
        (openRequest infos).toList.map fun request => (request, info)
      else [] := by
  rw [exchanges, knownPackets_concat]
  by_cases bwd : info.direction = dirBwd
  · rw [if_pos (Or.inr bwd), zip_tail_concat, List.filter_append, if_pos bwd, List.filter_map,
      openRequest, Option.toList_filter]
    simp only [Function.comp_def, bwd, and_true]
    rfl
  · rw [if_neg bwd, List.append_nil]
    by_cases fwd : info.direction = dirFwd
    · rw [if_pos (Or.inl fwd), zip_tail_concat, List.filter_append, List.filter_map]
      simp only [Function.comp_def, bwd, and_false, decide_false, List.filter_false,
        List.map_nil, List.append_nil]
      rfl
    · rw [if_neg (not_or.mpr ⟨fwd, bwd⟩), List.append_nil]
      rfl

theorem length_exchanges_le (infos : List PacketInfo) :
    (exchanges infos).length ≤ infos.length := by
  refine (List.length_filter_le _ _).trans ?_
  rw [List.length_zip]
  exact (Nat.min_le_left _ _).trans (List.length_filter_le _ _)

/-! ### Flows -/

section Flows

variable [Double D] {cfg : FeatureConfig} {platform : Platform D}

/-- What the responses of a flow are after its packets. -/
structure Paired (infos : List PacketInfo) (state : ResponseState) (delays : List D) : Prop where
  lastReqTs_eq : state.lastReqTs = (openRequest infos).elim 0 PacketInfo.tsUs
  delays_eq : delays = (exchanges infos).map (exchangeDelay D)

/-- A packet closes the request that waits, or is one that waits itself. -/
theorem Paired.step {infos : List PacketInfo} {state : ResponseState} {delays : List D}
    (paired : Paired infos state delays) (positive : ∀ info ∈ infos, info.tsUs ≠ 0)
    (info : PacketInfo) :
    Paired (infos ++ [info]) (calcResponseDelay (D := D) state info.tsUs info.direction).1
      (delays ++ (calcResponseDelay (D := D) state info.tsUs info.direction).2.filterMap
        Access.delay) := by
  obtain ⟨lastReqTs_eq, delays_eq⟩ := paired
  by_cases fwd : info.direction = dirFwd
  · have bwd : ¬ info.direction = dirBwd := by
      rw [fwd, dirFwd_ne_dirBwd]
      exact not_false
    have request := openRequest_concat infos info
    have answered := exchanges_concat infos info
    rw [if_pos fwd] at request
    rw [if_neg bwd, List.append_nil] at answered
    rw [calcResponseDelay, if_pos fwd]
    exact ⟨by rw [request]; rfl, by rw [answered, delays_eq]; exact List.append_nil _⟩
  · by_cases bwd : info.direction = dirBwd
    · have request := openRequest_concat infos info
      have answered := exchanges_concat infos info
      rw [if_neg fwd, if_pos bwd] at request
      rw [if_pos bwd] at answered
      rw [calcResponseDelay, if_neg fwd]
      cases waits : openRequest infos with
      | none =>
        rw [waits] at lastReqTs_eq answered
        rw [if_neg fun closes => absurd closes.2 (lastReqTs_eq ▸ Nat.lt_irrefl 0)]
        refine ⟨by rw [request]; exact lastReqTs_eq, ?_⟩
        rw [answered, delays_eq, List.map_append]
        rfl
      | some waiting =>
        rw [waits] at lastReqTs_eq answered
        have late : state.lastReqTs > 0 :=
          lastReqTs_eq ▸ Nat.pos_of_ne_zero (positive waiting (openRequest_mem waits))
        rw [if_pos ⟨bwd, late⟩]
        refine ⟨by rw [request]; rfl, ?_⟩
        rw [answered, delays_eq, List.map_append, lastReqTs_eq]
        rfl
    · have request := openRequest_concat infos info
      have answered := exchanges_concat infos info
      rw [if_neg fwd, if_neg bwd] at request
      rw [if_neg bwd, List.append_nil] at answered
      rw [calcResponseDelay, if_neg fwd, if_neg fun closes => bwd closes.1]
      exact ⟨by rw [request]; exact lastReqTs_eq, by
        rw [answered, delays_eq]; exact List.append_nil _⟩

/-- The delays that the packets of a flow send to their array are those of its exchanges. -/
theorem flowAccesses_delays (collected : cfg.enableIatResponse = true) (streamType : StreamType)
    (first : RawPacket) (rest : List RawPacket)
    (positive : ∀ info ∈ packetInfos cfg streamType (first :: rest), info.tsUs ≠ 0) :
    (flowAccesses cfg platform streamType first rest).filterMap Access.delay =
      (exchanges (packetInfos cfg streamType (first :: rest))).map (exchangeDelay D) := by
  have start : (∀ info ∈ ([] : List PacketInfo), info.tsUs ≠ 0) →
      Paired [] (fieldsInit cfg (packetTsUs cfg first) : Fields D).response
        (([] : List (Access D)).filterMap Access.delay) := fun _ => ⟨rfl, rfl⟩
  refine (Mealy.trace_history (fun infos (fields : Fields D) (accesses : List (Access D)) =>
    (∀ info ∈ infos, info.tsUs ≠ 0) →
      Paired infos fields.response (accesses.filterMap Access.delay)) ?_ start _
        positive).delays_eq
  intro seen fields accesses info paired times
  have before := paired fun other member => times other (List.mem_append_left _ member)
  have next := before.step (fun other member => times other (List.mem_append_left _ member)) info
  have emitted : (dataAccesses cfg platform info fields).filterMap Access.delay =
      (calcResponseDelay (D := D) fields.response info.tsUs info.direction).2.filterMap
        Access.delay := by
    rw [filterMap_dataAccesses cfg platform info fields .respDelay
      fun _ => Access.delay_eq_none]
    simp only [Target.call, callAccesses, responseCall, if_pos collected]
  rw [List.filterMap_append]
  show Paired _ (responseCall (D := D) cfg info fields.response).1
    (_ ++ (dataAccesses cfg platform info fields).filterMap Access.delay)
  rw [emitted, responseCall, if_pos collected]
  exact next

end Flows

end TiFeatures
