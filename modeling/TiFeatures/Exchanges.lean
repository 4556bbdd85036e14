/-
This file follows the response delays of a flow through its pool. The array of
delays has one capacity at every level and moves as a whole when the pool is
upgraded, so whatever the allocations it holds the first of the delays sent to it:
those of the forward packets whose next packet of known direction goes backward.
-/

import TiFeatures.Responses

namespace TiFeatures

open BoundedStore

/-! ### Adjacent pairs by their places -/

/-- The adjacent pairs that pass a filter, by the places of their first items. -/
theorem filter_zip_tail_eq {Item : Type} (items : List Item) (passes : Item × Item → Bool) :
    ∃ indices : List Nat, indices.Pairwise (· < ·) ∧
      ((items.zip items.tail).filter passes).map (fun pair => (some pair.1, some pair.2)) =
        indices.map fun index => (items[index]?, items[index + 1]?) := by
  have places : ∀ entry ∈ (items.zip items.tail).zipIdx,
      (some entry.1.1, some entry.1.2) = (items[entry.2]?, items[entry.2 + 1]?) := by
    intro entry member
    have within := List.mem_zipIdx_iff_getElem?.mp member
    obtain ⟨first, second⟩ := List.getElem?_zip_eq_some.mp within
    rw [List.getElem?_tail] at second
    rw [first, second]
  refine ⟨((items.zip items.tail).zipIdx.filter fun entry => passes entry.1).map Prod.snd, ?_, ?_⟩
  · refine List.Pairwise.sublist (List.filter_sublist.map Prod.snd) ?_
    rw [List.zipIdx_map_snd]
    exact List.pairwise_lt_range'
  · have entries : (items.zip items.tail).filter passes =
        ((items.zip items.tail).zipIdx.filter fun entry => passes entry.1).map Prod.fst := by
      conv_lhs => rw [← List.zipIdx_map_fst 0 (items.zip items.tail), List.filter_map]
      rfl
    rw [entries, List.map_map, List.map_map]
    exact List.map_congr_left fun entry member => places entry (List.mem_of_mem_filter member)

/-- The exchanges of a flow, by the places of their requests among the packets of known
direction. -/
theorem exchanges_indices (infos : List PacketInfo) :
    ∃ indices : List Nat, indices.Pairwise (· < ·) ∧
      (exchanges infos).map (fun pair => (some pair.1, some pair.2)) =
        indices.map fun index =>
          ((knownPackets infos)[index]?, (knownPackets infos)[index + 1]?) :=
  filter_zip_tail_eq (knownPackets infos) _

/-- A response is not earlier than its request. -/
theorem exchanges_ordered {infos : List PacketInfo}
    (ordered : (infos.map PacketInfo.tsUs).Pairwise (· ≤ ·)) :
    ∀ pair ∈ exchanges infos, pair.1.tsUs ≤ pair.2.tsUs := by
  intro pair member
  obtain ⟨indices, -, places⟩ := exchanges_indices infos
  have placed : (some pair.1, some pair.2) ∈ indices.map fun index =>
      ((knownPackets infos)[index]?, (knownPackets infos)[index + 1]?) :=
    places ▸ List.mem_map_of_mem member
  obtain ⟨index, -, found⟩ := List.mem_map.mp placed
  obtain ⟨request, response⟩ := Prod.mk.inj found
  obtain ⟨within, request_eq⟩ := List.getElem?_eq_some_iff.mp request
  obtain ⟨within', response_eq⟩ := List.getElem?_eq_some_iff.mp response
  have known : (knownPackets infos).Pairwise fun first second => first.tsUs ≤ second.tsUs :=
    (List.pairwise_map.mp ordered).sublist List.filter_sublist
  rw [← request_eq, ← response_eq]
  exact List.pairwise_iff_getElem.mp known _ _ within within' (Nat.lt_succ_self index)

/-! ### Delays through upgrades -/

section Flows

variable {D : Type} [Double D] {cfg : FeatureConfig} {platform : Platform D}
  {streamType : StreamType}

/-- What a state holds after some packets, whatever the allocations: its fields, and the first of
the delays sent to it. -/
structure FlowFeatureState.Delayed (cfg : FeatureConfig) (state : FlowFeatureState D)
    (fields : Fields D) (delays : List D) : Prop where
  wellFormed : state.WellFormed cfg
  fields_eq : state.fields = fields
  respDelays_eq : state.store.contents.respDelays = delays

/-- A packet appends its delay, whether or not the pool is upgraded for it. -/
theorem FlowFeatureState.Delayed.step {state : FlowFeatureState D} {fields : Fields D}
    {delays : List D} (delayed : state.Delayed cfg fields delays) (platform : Platform D)
    (streamType : StreamType) (allocs : Allocs) (packet : RawPacket) :
    (processData cfg platform streamType allocs packet state).Delayed cfg
      (dataFields cfg platform (packetInfo cfg streamType packet) fields)
      (((dataAccesses cfg platform (packetInfo cfg streamType packet) fields).filterMap
        Access.delay).foldl (fill poolRespDelayCapacity) delays) := by
  obtain ⟨wellFormed, rfl, rfl⟩ := delayed
  have processed := wellFormed.processed platform streamType allocs packet
  refine ⟨processed.wellFormed, rfl, ?_⟩
  rw [processed.contents_eq, foldl_access_respDelays]
  split <;> rfl

/-- Packets append their delays. -/
theorem FlowFeatureState.Delayed.foldl {state : FlowFeatureState D} {fields : Fields D}
    {delays : List D} (delayed : state.Delayed cfg fields delays) (platform : Platform D)
    (streamType : StreamType) (callbacks : List (Allocs × RawPacket)) :
    (callbacks.foldl (fun state callback =>
      processData cfg platform streamType callback.1 callback.2 state) state).Delayed cfg
      ((flowMachine cfg platform).run fields
        (packetInfos cfg streamType (callbacks.map Prod.snd)))
      ((((flowMachine cfg platform).trace fields
        (packetInfos cfg streamType (callbacks.map Prod.snd))).filterMap Access.delay).foldl
          (fill poolRespDelayCapacity) delays) := by
  induction callbacks generalizing state fields delays with
  | nil => exact delayed
  | cons callback rest inductionHypothesis =>
    have after := inductionHypothesis
      (delayed.step platform streamType callback.1 callback.2)
    rw [← List.foldl_append, ← List.filterMap_append] at after
    exact after

/-- Whatever the allocations, a flow holds the first thousand of the delays its packets send. -/
theorem flowRun_respDelays_eq {first : Allocs × RawPacket} {rest : List (Allocs × RawPacket)}
    {flow : FlowFeatureState D}
    (run : flowRun cfg platform streamType (first :: rest) = some flow) :
    flow.view.respDelays =
      ((flowAccesses cfg platform streamType first.2 (rest.map Prod.snd)).filterMap
        Access.delay).take 1000 := by
  rw [flowRun_cons] at run
  obtain ⟨created, created_eq, rfl⟩ := Option.map_eq_some_iff.mp run
  obtain ⟨fields_eq, initial⟩ := createFlow_eq_some created_eq
  have start : created.Delayed cfg (fieldsInit cfg (packetTsUs cfg first.2)) [] :=
    ⟨createFlow_wellFormed created_eq, fields_eq, by rw [initial.contents_eq]; rfl⟩
  have after := start.foldl platform streamType (first :: rest)
  refine (congrArg View.respDelays after.wellFormed.view_eq).trans ?_
  refine after.respDelays_eq.trans ?_
  exact foldl_fill_nil _ _

/-- The response delays of a flow are those of its requests that are answered next, each by the
packet after it among those of known direction. -/
theorem flowRun_respDelays (collected : cfg.enableIatResponse = true)
    {callbacks : List (Allocs × RawPacket)} {flow : FlowFeatureState D}
    (run : flowRun cfg platform streamType callbacks = some flow)
    (positive : ∀ info ∈ packetInfos cfg streamType (callbacks.map Prod.snd), info.tsUs ≠ 0)
    (ordered : ((packetInfos cfg streamType (callbacks.map Prod.snd)).map PacketInfo.tsUs).Pairwise
      (· ≤ ·)) :
    let infos := packetInfos cfg streamType (callbacks.map Prod.snd)
    flow.view.respDelays = ((exchanges infos).map fun pair =>
        ((pair.2.tsUs - pair.1.tsUs : Nat) : D) / 1000).take 1000 ∧
      ∃ indices : List Nat, indices.Pairwise (· < ·) ∧
        (exchanges infos).map (fun pair => (some pair.1, some pair.2)) =
          indices.map fun index =>
            ((knownPackets infos)[index]?, (knownPackets infos)[index + 1]?) := by
  intro infos
  refine ⟨?_, exchanges_indices infos⟩
  cases callbacks with
  | nil => exact absurd run (fun none_eq => nomatch none_eq)
  | cons first rest =>
    rw [flowRun_respDelays_eq run, flowAccesses_delays collected streamType first.2 _ positive]
    refine congrArg (List.take 1000) (List.map_congr_left fun pair member => ?_)
    have response : pair.2 ∈ infos := by
      have later := (List.of_mem_zip (List.mem_of_mem_filter member)).2
      exact List.mem_of_mem_filter (List.mem_of_mem_tail later)
    rw [exchangeDelay, u64Sub_of_le (exchanges_ordered ordered pair member)
      (packetInfos_tsUs_lt cfg streamType _ _ response)]

/-- A second request before the response is the one that is answered, and a second response
answers nothing. -/
theorem flowRun_respDelays_repeated : ∃ flow : FlowFeatureState Float,
    flowRun defaultConfig (barePlatform Float) .udp (allocated [barePacket 1 1 10,
      barePacket 3 1 10, barePacket 8 2 10, barePacket 9 2 10]) = some flow ∧
    flow.view.respDelays = [((5 : Nat) : Float) / 1000] := by
  obtain ⟨flow, run, -⟩ := flowRun_allocated defaultConfig (barePlatform Float) .udp
    (barePacket 1 1 10) [barePacket 3 1 10, barePacket 8 2 10, barePacket 9 2 10]
  exact ⟨flow, run, (flowRun_respDelays rfl run (by decide) (by decide)).1⟩

end Flows

end TiFeatures
