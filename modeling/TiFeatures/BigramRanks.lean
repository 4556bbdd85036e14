/-
This file settles what the bigram frequencies are. The exchange loop leaves the nine
types in the order of their counts, so the five types that win a rank are distinct; and
as the keys of the object differ in more than their case, the frequency that replaces
one of the nine zeros of a rank is found under the key of the winner.
-/

import TiFeatures.Library.Exchange
import TiFeatures.Means
import TiFeatures.SizeClasses

namespace TiFeatures

/-! ### Tables -/

/-- Nine counts and their sum. -/
structure BigramStats.Counted (stats : BigramStats) : Prop where
  length_eq : stats.counts.length = 9
  sum_eq : stats.counts.sum = stats.total

/-- The table after some updates. -/
def bigramUpdates (updates : List (PktSizeClass × PktSizeClass)) : BigramStats :=
  updates.foldl (fun stats update => bigramUpdate stats update.1 update.2) bigramInit

theorem bigramUpdates_concat (updates : List (PktSizeClass × PktSizeClass))
    (update : PktSizeClass × PktSizeClass) :
    bigramUpdates (updates ++ [update]) =
      bigramUpdate (bigramUpdates updates) update.1 update.2 := List.foldl_concat _ _ _ _

/-- Another value in the place of one changes the sum by the difference. -/
theorem sum_set_add {counts : List Nat} {index : Nat} (within : index < counts.length)
    (value : Nat) :
    (counts.set index value).sum + counts.getD index 0 = counts.sum + value := by
  have whole := congrArg List.sum (List.take_append_drop index counts)
  rw [List.sum_append, List.drop_eq_getElem_cons within, List.sum_cons] at whole
  rw [List.sum_set, if_pos within, List.getD_eq_getElem _ _ within]
  omega

/-- An update keeps a table counted, as long as the sum fits. -/
theorem BigramStats.Counted.update {stats : BigramStats} (counted : stats.Counted)
    (fits : stats.total + 1 < 2 ^ 32) (prev curr : PktSizeClass) :
    (bigramUpdate stats prev curr).Counted ∧
      (bigramUpdate stats prev curr).total = stats.total + 1 := by
  have within : prev.rank * 3 + curr.rank < stats.counts.length :=
    (bigramIndex_lt prev curr).trans_eq counted.length_eq.symm
  have sum_eq := sum_set_add within (stats.counts.getD (prev.rank * 3 + curr.rank) 0 + 1)
  have count_le : stats.counts.getD (prev.rank * 3 + curr.rank) 0 ≤ stats.total := by
    rw [← counted.sum_eq, List.getD_eq_getElem _ _ within]
    exact List.le_sum_of_mem (List.getElem_mem within)
  have total_eq := counted.sum_eq
  rw [bigramUpdate_eq, u32_of_lt fits, u32_of_lt (by omega)]
  exact ⟨⟨(List.length_set ..).trans counted.length_eq, by dsimp only; omega⟩, rfl⟩

/-- Fewer than 2^32 updates make a counted table. -/
theorem counted_bigramUpdates {updates : List (PktSizeClass × PktSizeClass)}
    (few : updates.length < 2 ^ 32) :
    (bigramUpdates updates).Counted ∧ (bigramUpdates updates).total = updates.length := by
  induction updates using List.reverseRecOn with
  | nil => exact ⟨⟨rfl, rfl⟩, rfl⟩
  | append_singleton updates update inductionHypothesis =>
    rw [List.length_append, List.length_singleton] at few ⊢
    obtain ⟨counted, total_eq⟩ := inductionHypothesis (by omega)
    rw [← total_eq] at few ⊢
    rw [bigramUpdates_concat]
    exact counted.update few update.1 update.2

/-- Every place of the table belongs to a bigram. -/
theorem exists_bigramIndex {index : Nat} (within : index < 9) :
    ∃ prev curr : PktSizeClass, prev.rank * 3 + curr.rank = index := by
  have class_of : ∀ rank < 3, ∃ size : PktSizeClass, size.rank = rank := fun rank small =>
    match rank, small with
    | 0, _ => ⟨.small, rfl⟩
    | 1, _ => ⟨.medium, rfl⟩
    | 2, _ => ⟨.large, rfl⟩
  obtain ⟨prev, prev_eq⟩ := class_of (index / 3) (by omega)
  obtain ⟨curr, curr_eq⟩ := class_of (index % 3) (by omega)
  exact ⟨prev, curr, by omega⟩

/-- A counted table whose sum fits is made by as many updates. -/
theorem BigramStats.Counted.exists_updates {stats : BigramStats} (counted : stats.Counted)
    (fits : stats.total < 2 ^ 32) :
    ∃ updates : List (PktSizeClass × PktSizeClass), updates.length = stats.total ∧
      bigramUpdates updates = stats := by
  obtain ⟨counts, total⟩ := stats
  obtain ⟨length_eq, sum_eq⟩ := counted
  dsimp only at length_eq sum_eq fits ⊢
  induction total generalizing counts with
  | zero =>
    have zeros : counts = List.replicate 9 0 :=
      List.eq_replicate_iff.mpr ⟨length_eq, fun count member =>
        List.sum_eq_zero_iff.mp sum_eq count member⟩
    exact ⟨[], rfl, zeros ▸ rfl⟩
  | succ total inductionHypothesis =>
    obtain ⟨count, member, positive⟩ : ∃ count ∈ counts, count ≠ 0 := by
      by_contra none
      push Not at none
      rw [List.sum_eq_zero none] at sum_eq
      exact absurd sum_eq (Nat.succ_ne_zero total).symm
    obtain ⟨index, within, rfl⟩ := List.getElem_of_mem member
    obtain ⟨prev, curr, index_eq⟩ := exists_bigramIndex (within.trans_eq length_eq)
    have changed := sum_set_add within (counts[index] - 1)
    rw [List.getD_eq_getElem _ _ within] at changed
    have count_le : counts[index] ≤ counts.sum := List.le_sum_of_mem member
    obtain ⟨updates, updates_length, updates_eq⟩ := inductionHypothesis
      (counts.set index (counts[index] - 1)) (by omega) ((List.length_set ..).trans length_eq)
      (by omega)
    have back : counts[index] - 1 + 1 = counts[index] := by omega
    refine ⟨updates ++ [(prev, curr)], ?_, ?_⟩
    · rw [List.length_append, updates_length, List.length_singleton]
    · rw [bigramUpdates_concat, updates_eq, bigramUpdate_eq, index_eq]
      dsimp only
      rw [List.getD_eq_getElem _ _ (by rwa [List.length_set]), List.getElem_set_self, back,
        u32_of_lt (by omega), u32_of_lt fits, List.set_set, List.set_getElem_self]

/-- The tables of fewer than 2^32 updates are those of nine counts whose sum is the total and
fits. -/
theorem bigramUpdates_iff (stats : BigramStats) :
    (∃ updates : List (PktSizeClass × PktSizeClass), updates.length < 2 ^ 32 ∧
      bigramUpdates updates = stats) ↔ stats.Counted ∧ stats.total < 2 ^ 32 := by
  constructor
  · rintro ⟨updates, few, rfl⟩
    obtain ⟨counted, total_eq⟩ := counted_bigramUpdates few
    exact ⟨counted, total_eq.trans_lt few⟩
  · rintro ⟨counted, fits⟩
    obtain ⟨updates, length_eq, updates_eq⟩ := counted.exists_updates fits
    exact ⟨updates, length_eq.trans_lt fits, updates_eq⟩

/-- The table of a flow is updated with the classes of the packets, each behind the one before. -/
theorem run_bigramUpdates {D : Type} [Double D] {cfg : FeatureConfig}
    (counted : cfg.enableSequenceStats = true) (platform : Platform D) (tsUs : Nat)
    (infos : List PacketInfo) :
    ((flowMachine cfg platform).run (fieldsInit cfg tsUs) infos).bigram.bigramStats =
      bigramUpdates ((.small :: sizeClasses cfg infos).zip (sizeClasses cfg infos)) := by
  induction infos using List.reverseRecOn with
  | nil => rfl
  | append_singleton infos info inductionHypothesis =>
    have last_eq := (run_bigramsCounted counted platform tsUs infos).last_eq
    have pairs_eq := zip_tail_concat (.small :: sizeClasses cfg infos)
      (getPktSizeClass cfg info.pktLen)
    rw [← sizeClasses_concat, ← last_eq] at pairs_eq
    rw [Mealy.run_append]
    refine (congrArg BigramState.bigramStats (if_pos counted)).trans ?_
    refine Eq.trans ?_ (congrArg bigramUpdates pairs_eq.symm)
    dsimp only
    rw [inductionHypothesis]
    exact (bigramUpdates_concat _ (_, getPktSizeClass cfg info.pktLen)).symm

/-! ### Ranks -/

section Ranks

variable (counts : List Nat)

/-- The exchange loop is the exchange sort of the nine types by their counts. -/
theorem rankBigrams_eq : rankBigrams counts =
    Exchange.sort Prod.snd (0, 0) ((List.range 9).map fun type => (type, counts.getD type 0)) :=
  rfl

theorem rankBigrams_perm :
    (rankBigrams counts).Perm ((List.range 9).map fun type => (type, counts.getD type 0)) := by
  rw [rankBigrams_eq]
  exact Exchange.sort_perm _ _ _

theorem rankBigrams_pairwise :
    (rankBigrams counts).Pairwise fun first second => second.2 ≤ first.2 := by
  rw [rankBigrams_eq]
  exact Exchange.pairwise_sort _ _ _

theorem length_rankBigrams : (rankBigrams counts).length = 9 :=
  (rankBigrams_perm counts).length_eq

/-- The type that wins a rank, counted from one. -/
def bigramWinner (k : Nat) : Nat := ((rankBigrams counts).getD (k - 1) (0, 0)).1

variable {counts} {k : Nat}

/-- A rank is won by one of the nine types, with its count. -/
theorem getD_rankBigrams (within : k - 1 < 9) :
    bigramWinner counts k < 9 ∧
      (rankBigrams counts).getD (k - 1) (0, 0) =
        (bigramWinner counts k, counts.getD (bigramWinner counts k) 0) := by
  have inside : k - 1 < (rankBigrams counts).length :=
    within.trans_eq (length_rankBigrams counts).symm
  have member := (rankBigrams_perm counts).subset (List.getElem_mem inside)
  obtain ⟨type, small, item_eq⟩ := List.mem_map.mp member
  rw [bigramWinner, List.getD_eq_getElem _ _ inside, ← item_eq]
  exact ⟨List.mem_range.mp small, rfl⟩

/-- No type wins two ranks. -/
theorem bigramWinner_ne {first second : Nat} (positive : 1 ≤ first) (order : first < second)
    (within : second ≤ 9) : bigramWinner counts first ≠ bigramWinner counts second := by
  have types_nodup : ((rankBigrams counts).map Prod.fst).Nodup := by
    rw [((rankBigrams_perm counts).map Prod.fst).nodup_iff, List.map_map]
    exact List.nodup_range.map Function.injective_id
  have length_eq := length_rankBigrams counts
  have second_lt : second - 1 < (rankBigrams counts).length := by omega
  have apart := List.pairwise_iff_getElem.mp types_nodup (first - 1) (second - 1)
    (by rw [List.length_map]; omega) (by rwa [List.length_map]) (by omega)
  rw [bigramWinner, bigramWinner, List.getD_eq_getElem _ _ (by omega),
    List.getD_eq_getElem _ _ second_lt]
  rwa [List.getElem_map, List.getElem_map] at apart

/-- The counts of the winners fall. -/
theorem bigramWinner_count_le {first second : Nat} (positive : 1 ≤ first) (order : first < second)
    (within : second ≤ 9) :
    counts.getD (bigramWinner counts second) 0 ≤ counts.getD (bigramWinner counts first) 0 := by
  have length_eq := length_rankBigrams counts
  have falling := List.pairwise_iff_getElem.mp (rankBigrams_pairwise counts) (first - 1)
    (second - 1) (by omega) (by omega) (by omega)
  rw [← List.getD_eq_getElem _ (0, 0), ← List.getD_eq_getElem _ (0, 0),
    (getD_rankBigrams (show first - 1 < 9 by omega)).2,
    (getD_rankBigrams (show second - 1 < 9 by omega)).2] at falling
  exact falling

/-- The counts of the first winners are part of the whole. -/
theorem sum_winners_le (nine : counts.length = 9) :
    ((List.range' 1 5).map fun k => counts.getD (bigramWinner counts k) 0).sum ≤ counts.sum := by
  have winners_eq : ((List.range' 1 5).map fun k => counts.getD (bigramWinner counts k) 0) =
      ((rankBigrams counts).map Prod.snd).take 5 := by
    have length_eq := length_rankBigrams counts
    refine List.ext_getElem ?_ fun index inside _ => ?_
    · rw [List.length_map, List.length_range', List.length_take, List.length_map, length_eq]
      rfl
    · rw [List.length_map, List.length_range'] at inside
      have place : 1 + 1 * index - 1 = index := by omega
      have item_eq := (@getD_rankBigrams counts (1 + 1 * index) (by omega)).2
      rw [place, List.getD_eq_getElem _ _ (by omega)] at item_eq
      rw [List.getElem_map, List.getElem_range', List.getElem_take, List.getElem_map]
      exact (congrArg Prod.snd item_eq).symm
  have counts_eq : ((List.range 9).map fun type => counts.getD type 0) = counts := by
    refine List.ext_getElem ?_ fun index _ within => ?_
    · rw [List.length_map, List.length_range, nine]
    · rw [List.getElem_map, List.getElem_range, List.getD_eq_getElem _ _ within]
  have total_eq := ((rankBigrams_perm counts).map Prod.snd).sum_eq
  rw [List.map_map] at total_eq
  rw [winners_eq]
  refine ((List.take_sublist 5 _).sum_le_sum fun _ _ => Nat.zero_le _).trans ?_
  exact (total_eq.trans (congrArg List.sum counts_eq)).le

end Ranks

/-! ### Names -/

/-- A name as `cJSON` compares it: its bytes, with the letters in lower case. -/
def lowerName (name : String) : List Nat :=
  name.toByteArray.data.toList.map fun byte =>
    if 65 ≤ byte.toNat ∧ byte.toNat ≤ 90 then byte.toNat + 32 else byte.toNat

/-- The keys of the object are written in lower case. -/
theorem lowerName_eq : ∀ key ∈ frameKeys ++ groupOrder.flatMap Group.keys,
    lowerName key = key.toByteArray.data.toList.map UInt8.toNat := by decide +kernel

/-- No two keys of the object differ in their case only. -/
theorem eq_of_lowerName_eq {first second : String}
    (member : first ∈ frameKeys ++ groupOrder.flatMap Group.keys)
    (otherMember : second ∈ frameKeys ++ groupOrder.flatMap Group.keys)
    (same : lowerName first = lowerName second) : first = second := by
  rw [lowerName_eq first member, lowerName_eq second otherMember] at same
  have bytes_eq := List.map_injective_iff.mpr (fun _ _ => UInt8.toNat_inj.mp) same
  exact String.toByteArray_inj.mp (ByteArray.ext (Array.toList_inj.mp bytes_eq))

theorem bigramName_inj {type other : Nat} (small : type < 9) (otherSmall : other < 9) :
    bigramNames.getD type "" = bigramNames.getD other "" ↔ type = other := by
  have names_nodup : bigramNames.Nodup := by decide
  rw [List.getD_eq_getElem _ _ (show type < bigramNames.length from small),
    List.getD_eq_getElem _ _ (show other < bigramNames.length from otherSmall)]
  exact names_nodup.getElem_inj_iff

theorem bigramName_mem {type : Nat} (small : type < 9) :
    bigramNames.getD type "" ∈ bigramNames := by
  rw [List.getD_eq_getElem _ _ (show type < bigramNames.length from small)]
  exact List.getElem_mem _

theorem bigramKey_mem : ∀ k ∈ List.range' 1 5, ∀ name ∈ bigramNames,
    bigramKey k name ∈ Group.sequenceStats.keys := by decide +kernel

theorem bigramKeys_nodup :
    ((List.range' 1 5).flatMap fun k => bigramNames.map (bigramKey k)).Nodup :=
  DistinctMarks.nodup_of_fresh_map keyMark (by decide +kernel)

theorem mem_objectKeys {group : Group} {key : String} (member : key ∈ group.keys) :
    key ∈ frameKeys ++ groupOrder.flatMap Group.keys :=
  List.mem_append_right _ (List.mem_flatMap.mpr ⟨group, mem_groupOrder group, member⟩)

/-- Two keys of the ranks are the same in lower case only if the ranks and the names are. -/
theorem bigramKey_inj {first second : Nat} (firstRank : first ∈ List.range' 1 5)
    (secondRank : second ∈ List.range' 1 5) {name other : String} (member : name ∈ bigramNames)
    (otherMember : other ∈ bigramNames)
    (same : lowerName (bigramKey first name) = lowerName (bigramKey second other)) :
    first = second ∧ name = other := by
  have key_eq := eq_of_lowerName_eq (mem_objectKeys (bigramKey_mem first firstRank name member))
    (mem_objectKeys (bigramKey_mem second secondRank other otherMember)) same
  have rank_eq : first = second :=
    DistinctMarks.eq_of_nodup_flatMap bigramKeys_nodup firstRank secondRank
      (List.mem_map_of_mem member) (key_eq ▸ List.mem_map_of_mem otherMember)
  subst rank_eq
  have within := (List.nodup_flatMap.mp bigramKeys_nodup).1 first firstRank
  exact ⟨rfl, List.inj_on_of_nodup_map within member otherMember key_eq⟩

/-! ### Zeros and replacements -/

section Loops

variable {D : Type} [Double D]

/-- What is relied on of `cJSON_ReplaceItemInObject`: it looks from the front for an item with the
name, whatever the case of its letters, and puts the other one in its place. -/
def ReplacesFirst (replaceItemInObject : Output D → String → Json D → Output D) : Prop :=
  ∀ (before : Output D) (key : String) (old value : Json D) (after : Output D),
    (∀ item ∈ before, lowerName item.1 ≠ lowerName key) →
      replaceItemInObject (before ++ (key, old) :: after) key value =
        before ++ (key, value) :: after

variable (replaceItemInObject : Output D → String → Json D → Output D)

/-- The loop body for a rank: nine zeros, and the frequency of the winner replaces one of them. -/
def addBigramRank (stats : BigramStats) (ranks : List (Nat × Nat)) (output : Output D) (k : Nat) :
    Output D :=
  let zeros := bigramNames.foldl (fun output name => output ++ [addNumber (bigramKey k name) 0])
    output
  let item := ranks.getD (k - 1) (0, 0)
  replaceItemInObject zeros (bigramKey k (bigramNames.getD item.1 ""))
    (.num ((item.2 : D) / (stats.total : D)))

/-- The bigram frequencies of `calc_derived_sequence`, added to the object written so far. -/
def addBigramFrequencies (stats : BigramStats) (output : Output D) : Output D :=
  if stats.total > 0 then
    (List.range' 1 5).foldl
      (addBigramRank replaceItemInObject stats (rankBigrams stats.counts)) output
  else output

/-- The features of a rank. -/
def bigramRank (stats : BigramStats) (k : Nat) : Output D :=
  let item := (rankBigrams stats.counts).getD (k - 1) (0, 0)
  bigramNames.map fun name => addNumber (bigramKey k name)
    (if name = bigramNames.getD item.1 "" then (item.2 : D) / (stats.total : D) else 0)

theorem bigramFrequencies_eq (stats : BigramStats) :
    (bigramFrequencies stats : Output D) =
      if stats.total > 0 then (List.range' 1 5).flatMap (bigramRank stats) else [] := by
  have shifted : List.range' 1 5 = (List.range 5).map (· + 1) := by decide
  rw [bigramFrequencies, shifted, List.flatMap_map]
  simp only [bigramRank, Nat.add_sub_cancel]

/-- The zero of one name, among those of all, gives way to the value of the name. -/
theorem replace_zero {replaceItemInObject} (replaces : ReplacesFirst replaceItemInObject)
    {output : Output D} {k : Nat} (rank : k ∈ List.range' 1 5)
    (fresh : ∀ item ∈ output, ∀ name ∈ bigramNames,
      lowerName item.1 ≠ lowerName (bigramKey k name))
    {name : String} (member : name ∈ bigramNames) (value : D) :
    replaceItemInObject (output ++ bigramNames.map fun name => addNumber (bigramKey k name) 0)
        (bigramKey k name) (.num value) =
      output ++ bigramNames.map fun other =>
        addNumber (bigramKey k other) (if other = name then value else 0) := by
  obtain ⟨front, back, names_eq⟩ := List.append_of_mem member
  have names_nodup : bigramNames.Nodup := by decide
  rw [names_eq] at names_nodup
  obtain ⟨-, back_nodup, apart⟩ := List.nodup_append.mp names_nodup
  have others : ∀ part : List String, (∀ other ∈ part, other ≠ name) →
      (part.map fun other => addNumber (bigramKey k other) (if other = name then value else 0)) =
        part.map fun other => addNumber (bigramKey k other) 0 := fun part different =>
    List.map_congr_left fun other inside => by rw [if_neg (different other inside)]
  have front_ne : ∀ other ∈ front, other ≠ name := fun other inside =>
    apart other inside name List.mem_cons_self
  have back_ne : ∀ other ∈ back, other ≠ name := fun other inside same =>
    (List.nodup_cons.mp back_nodup).1 (same ▸ inside)
  have early : ∀ item ∈ output ++ front.map (fun other => addNumber (bigramKey k other) 0),
      lowerName item.1 ≠ lowerName (bigramKey k name) := by
    refine List.forall_mem_append.mpr ⟨fun item inside => fresh item inside name member, ?_⟩
    refine List.forall_mem_map.mpr fun other inside same => front_ne other inside ?_
    have otherMember : other ∈ bigramNames := names_eq ▸ List.mem_append_left _ inside
    exact (bigramKey_inj rank rank otherMember member same).2
  have replaced := replaces _ (bigramKey k name) (.num 0) (.num value)
    (back.map fun other => addNumber (bigramKey k other) 0) early
  rw [names_eq, List.map_append, List.map_append, List.map_cons, List.map_cons, if_pos rfl,
    others front front_ne, others back back_ne, ← List.append_assoc, ← List.append_assoc]
  exact replaced

/-- A rank adds its nine features. -/
theorem addBigramRank_eq {replaceItemInObject} (replaces : ReplacesFirst replaceItemInObject)
    (stats : BigramStats) {output : Output D} {k : Nat} (rank : k ∈ List.range' 1 5)
    (fresh : ∀ item ∈ output, ∀ name ∈ bigramNames,
      lowerName item.1 ≠ lowerName (bigramKey k name)) :
    addBigramRank replaceItemInObject stats (rankBigrams stats.counts) output k =
      output ++ bigramRank stats k := by
  have zeros : ∀ names : List String,
      names.foldl (fun output name => output ++ [addNumber (bigramKey k name) (0 : D)]) output =
        output ++ names.map fun name => addNumber (bigramKey k name) 0 := by
    intro names
    induction names using List.reverseRecOn with
    | nil => exact (List.append_nil output).symm
    | append_singleton names name inductionHypothesis =>
      rw [List.foldl_concat, inductionHypothesis, List.map_append, List.append_assoc]
      rfl
  obtain ⟨positive, within⟩ := List.mem_range'_1.mp rank
  have winner_lt : bigramWinner stats.counts k < 9 := (getD_rankBigrams (by omega)).1
  rw [addBigramRank, zeros]
  exact replace_zero replaces rank fresh (bigramName_mem winner_lt) _

/-- The loops add the features of all ranks to an object without their keys. -/
theorem addBigramFrequencies_eq {replaceItemInObject}
    (replaces : ReplacesFirst replaceItemInObject) (stats : BigramStats) {output : Output D}
    (fresh : ∀ item ∈ output, ∀ k ∈ List.range' 1 5, ∀ name ∈ bigramNames,
      lowerName item.1 ≠ lowerName (bigramKey k name)) :
    addBigramFrequencies replaceItemInObject stats output = output ++ bigramFrequencies stats := by
  have ranks : ∀ count ≤ 5, (List.range' 1 count).foldl
      (addBigramRank replaceItemInObject stats (rankBigrams stats.counts)) output =
        output ++ (List.range' 1 count).flatMap (bigramRank stats) := by
    intro count small
    induction count with
    | zero => exact (List.append_nil output).symm
    | succ count inductionHypothesis =>
      have rank : 1 + count ∈ List.range' 1 5 := List.mem_range'_1.mpr (by omega)
      rw [List.range'_1_concat, List.foldl_concat, inductionHypothesis (by omega),
        List.flatMap_append, List.flatMap_singleton, ← List.append_assoc]
      refine addBigramRank_eq replaces stats rank ?_
      refine List.forall_mem_append.mpr ⟨fun item inside => fresh item inside _ rank, ?_⟩
      intro item inside name member same
      obtain ⟨k, before, written⟩ := List.mem_flatMap.mp inside
      obtain ⟨other, otherMember, rfl⟩ := List.mem_map.mp written
      obtain ⟨positive, behind⟩ := List.mem_range'_1.mp before
      have earlier : k ∈ List.range' 1 5 := List.mem_range'_1.mpr (by omega)
      have same_rank := (bigramKey_inj earlier rank otherMember member same).1
      omega
  rw [addBigramFrequencies, bigramFrequencies_eq]
  split
  · exact ranks 5 le_rfl
  · exact (List.append_nil output).symm

end Loops

/-! ### The object -/

section Object

variable {D : Type} [Double D] (cfg : FeatureConfig) (platform : Platform D)
  (streamType : StreamType) (packet : RawPacket) (view : View D)

/-- The object before the bigram frequencies are added. -/
def bigramsBefore : Output D :=
  addFlowTupleIdentifier platform streamType packet ++
    (match packet.sni with
      | some sni => [addString "sni" sni]
      | none => []) ++
    (groupOrder.takeWhile (· ≠ .sequenceStats)).flatMap (Group.emitted cfg platform view) ++
    sequenceStats (view.seqs .pktLenSeq) (view.seqs .iatSeq) view.dirs bigramInit

/-- What is added to the object behind the bigram frequencies. -/
def bigramsBehind : Output D :=
  (groupOrder.dropWhile (· ≠ .sequenceStats)).tail.flatMap (Group.emitted cfg platform view) ++
    flowInformation view.counters view.tcp

theorem sequenceStats_eq (lens iats : List Nat) (dirs : List Int) (bigrams : BigramStats) :
    (sequenceStats lens iats dirs bigrams : Output D) =
      sequenceStats lens iats dirs bigramInit ++ bigramFrequencies bigrams := by
  have none : (bigramFrequencies bigramInit : Output D) = [] := rfl
  rw [sequenceStats, sequenceStats, none, List.append_nil]

variable {cfg platform view}

theorem flowStateComputeFeatures_split (isOn : Group.sequenceStats.on cfg.toSwitches = true) :
    flowStateComputeFeatures cfg platform streamType packet view =
      bigramsBefore cfg platform streamType packet view ++
        bigramFrequencies view.bigram.bigramStats ++ bigramsBehind cfg platform view := by
  have order : groupOrder = groupOrder.takeWhile (· ≠ .sequenceStats) ++ Group.sequenceStats ::
      (groupOrder.dropWhile (· ≠ .sequenceStats)).tail := by decide
  have emitted : Group.sequenceStats.emitted cfg platform view =
      sequenceStats (view.seqs .pktLenSeq) (view.seqs .iatSeq) view.dirs bigramInit ++
        bigramFrequencies view.bigram.bigramStats :=
    (if_pos isOn).trans (sequenceStats_eq _ _ _ _)
  have whole := flowStateComputeFeatures_eq cfg platform streamType packet view
  rw [order, List.flatMap_append, List.flatMap_cons, emitted] at whole
  rw [bigramsBefore, bigramsBehind]
  simp only [List.append_assoc] at whole ⊢
  exact whole

/-- The group writes the keys of the ranks if the table is not empty. -/
theorem bigramKey_written_iff {k : Nat} (rank : k ∈ List.range' 1 5) {name : String}
    (named : name ∈ bigramNames) :
    bigramKey k name ∈ Output.keys (Group.sequenceStats.features cfg platform view) ↔
      view.bigram.bigramStats.total > 0 := by
  obtain ⟨positive, within⟩ := List.mem_range'_1.mp rank
  have own : bigramKey k name ∈
      (List.range 5).flatMap fun k => bigramNames.map (bigramKey (k + 1)) := by
    refine List.mem_flatMap.mpr ⟨k - 1, List.mem_range.mpr (by omega), ?_⟩
    rw [Nat.sub_add_cancel positive]
    exact List.mem_map_of_mem named
  rw [@Group.mem_keys_features_iff D _ cfg platform view .sequenceStats
    ⟨fun view => view.bigram.bigramStats.total > 0,
      (List.range 5).flatMap fun k => bigramNames.map (bigramKey (k + 1))⟩
    (.tail _ (.tail _ (.tail _ (.tail _ (.tail _ (.head _)))))) _ own]
  exact decide_eq_true_iff

/-- No key of the object so far is one of a rank, whatever the case of its letters. -/
theorem bigramsBefore_fresh :
    ∀ item ∈ bigramsBefore cfg platform streamType packet view, ∀ k ∈ List.range' 1 5,
      ∀ name ∈ bigramNames, lowerName item.1 ≠ lowerName (bigramKey k name) := by
  intro item member k rank name named same
  have own := bigramKey_mem k rank name named
  have framed : item.1 ∉ frameKeys := fun frame => by
    have key_eq := eq_of_lowerName_eq (List.mem_append_left _ frame) (mem_objectKeys own) same
    exact Group.key_notMem_frameKeys own (key_eq ▸ frame)
  have grouped : ∀ {group : Group}, item.1 ∈ group.keys →
      group = .sequenceStats ∧ item.1 = bigramKey k name := fun inside => by
    have key_eq := eq_of_lowerName_eq (mem_objectKeys inside) (mem_objectKeys own) same
    exact ⟨Group.eq_of_key_mem (key_eq ▸ inside) own, key_eq⟩
  rw [bigramsBefore] at member
  rcases List.mem_append.mp member with member | member
  · rcases List.mem_append.mp member with member | member
    · exact framed (key_mem_frameKeys member)
    · obtain ⟨group, earlier, member⟩ := List.mem_flatMap.mp member
      have kept := List.mem_takeWhile_imp earlier
      have other : group ≠ .sequenceStats := of_decide_eq_true kept
      exact other (grouped (Group.key_mem (Group.mem_emitted_iff.mp member).2)).1
  · -- the frequencies are the last section of the group, which an empty table leaves out
    let emptied : View D := { view with bigram := { view.bigram with bigramStats := bigramInit } }
    have features_eq : Group.sequenceStats.features cfg platform emptied =
        sequenceStats (view.seqs .pktLenSeq) (view.seqs .iatSeq) view.dirs bigramInit := rfl
    rw [← features_eq] at member
    have key_eq := (grouped (Group.key_mem member)).2
    have written : bigramKey k name ∈
        Output.keys (Group.sequenceStats.features cfg platform emptied) :=
      key_eq ▸ List.mem_map_of_mem (f := Prod.fst) member
    exact absurd ((bigramKey_written_iff rank named).mp written) (lt_irrefl 0)

/-- The loops, on the object they find, write what the object has. -/
theorem flowStateComputeFeatures_bigrams {replaceItemInObject}
    (replaces : ReplacesFirst replaceItemInObject)
    (isOn : Group.sequenceStats.on cfg.toSwitches = true) :
    flowStateComputeFeatures cfg platform streamType packet view =
      addBigramFrequencies replaceItemInObject view.bigram.bigramStats
        (bigramsBefore cfg platform streamType packet view) ++ bigramsBehind cfg platform view := by
  rw [flowStateComputeFeatures_split streamType packet isOn,
    addBigramFrequencies_eq replaces _ (bigramsBefore_fresh streamType packet)]

end Object

/-! ### Winners -/

/-- The frequency of a type. -/
noncomputable def bigramFrequency (stats : BigramStats) (type : Nat) : ℝ :=
  Nat.cast (stats.counts.getD type 0) / Nat.cast stats.total

/-- The ranking has the nine types in the order of their counts. In each of the five first ranks
the object has the frequency of the winner under its key and zero under the other eight; the
winners are distinct, and their frequencies fall and are at most the whole. -/
structure BigramsRanked (stats : BigramStats) (output : Output ℝ) : Prop where
  perm : (rankBigrams stats.counts).Perm
    ((List.range 9).map fun type => (type, stats.counts.getD type 0))
  falling : (rankBigrams stats.counts).Pairwise fun first second => second.2 ≤ first.2
  winner_lt : ∀ k, 1 ≤ k → k ≤ 5 → bigramWinner stats.counts k < 9
  holds : ∀ k, 1 ≤ k → k ≤ 5 → ∀ type < 9,
    HoldsNumber output (bigramKey k (bigramNames.getD type ""))
      (if type = bigramWinner stats.counts k then bigramFrequency stats type else 0)
  winner_ne : ∀ first second, 1 ≤ first → first < second → second ≤ 5 →
    bigramWinner stats.counts first ≠ bigramWinner stats.counts second
  frequency_le : ∀ first second, 1 ≤ first → first < second → second ≤ 5 →
    bigramFrequency stats (bigramWinner stats.counts second) ≤
      bigramFrequency stats (bigramWinner stats.counts first)
  sum_le : ((List.range' 1 5).map fun k =>
    bigramFrequency stats (bigramWinner stats.counts k)).sum ≤ 1

/-- The group writes a number for every type in every rank. -/
theorem bigramRank_mem {cfg : FeatureConfig} {platform : Platform ℝ} {view : View ℝ}
    (some : view.bigram.bigramStats.total > 0) {k : Nat} (positive : 1 ≤ k) (within : k ≤ 5)
    {type : Nat} (small : type < 9) :
    let stats := view.bigram.bigramStats
    addNumber (bigramKey k (bigramNames.getD type ""))
        (if type = bigramWinner stats.counts k then bigramFrequency stats type else 0) ∈
      Group.sequenceStats.features cfg platform view := by
  intro stats
  have rank : k ∈ List.range' 1 5 := List.mem_range'_1.mpr (by omega)
  obtain ⟨winner_lt, item_eq⟩ := @getD_rankBigrams stats.counts k (by omega)
  have written : addNumber (bigramKey k (bigramNames.getD type ""))
      (if type = bigramWinner stats.counts k then bigramFrequency stats type else 0) ∈
        bigramRank stats k := by
    refine List.mem_map.mpr ⟨_, bigramName_mem small, congrArg (addNumber _) ?_⟩
    rw [item_eq]
    simp only [bigramName_inj small winner_lt]
    refine if_ctx_congr Iff.rfl (fun same => ?_) fun _ => rfl
    rw [same]
    rfl
  have features_eq : Group.sequenceStats.features cfg platform view =
      sequenceStats (view.seqs .pktLenSeq) (view.seqs .iatSeq) view.dirs bigramInit ++
        bigramFrequencies stats := sequenceStats_eq _ _ _ _
  rw [features_eq, bigramFrequencies_eq, if_pos some]
  exact List.mem_append_right _ (List.mem_flatMap.mpr ⟨k, rank, written⟩)

/-- Frequencies add up like the counts. -/
theorem sum_bigramFrequency (stats : BigramStats) (types : List Nat) :
    (types.map (bigramFrequency stats)).sum =
      Nat.cast (types.map fun type => stats.counts.getD type 0).sum / Nat.cast stats.total := by
  rw [Nat.cast_list_sum, List.map_map]
  simp only [div_eq_mul_inv, ← List.sum_map_mul_right]
  rfl

section Tables

variable {cfg : FeatureConfig} {platform : Platform ℝ} (streamType : StreamType)
  (packet : RawPacket) {view : View ℝ}

/-- The object ranks the bigrams of any table that is counted and not empty. -/
theorem BigramStats.Counted.bigramsRanked (counted : view.bigram.bigramStats.Counted)
    (some : view.bigram.bigramStats.total > 0)
    (isOn : Group.sequenceStats.on cfg.toSwitches = true) :
    BigramsRanked view.bigram.bigramStats
      (flowStateComputeFeatures cfg platform streamType packet view) where
  perm := rankBigrams_perm _
  falling := rankBigrams_pairwise _
  winner_lt k _ within := (getD_rankBigrams (by omega)).1
  holds k positive within type small := by
    have own := bigramKey_mem k (List.mem_range'_1.mpr (by omega)) _ (bigramName_mem small)
    exact Group.holdsNumber own isOn (bigramRank_mem some positive within small)
  winner_ne first second positive order within := bigramWinner_ne positive order (by omega)
  frequency_le first second positive order within := by
    have count_le := @bigramWinner_count_le view.bigram.bigramStats.counts _ _ positive order
      (by omega)
    exact div_le_div_of_nonneg_right (Nat.cast_le.mpr count_le) (Nat.cast_nonneg _)
  sum_le := by
    have total_pos : (0 : ℝ) < Nat.cast view.bigram.bigramStats.total := Nat.cast_pos.mpr some
    have sum_eq := sum_bigramFrequency view.bigram.bigramStats
      ((List.range' 1 5).map (bigramWinner view.bigram.bigramStats.counts))
    rw [List.map_map, List.map_map] at sum_eq
    refine sum_eq.trans_le ((div_le_one total_pos).mpr (Nat.cast_le.mpr ?_))
    exact (sum_winners_le counted.length_eq).trans_eq counted.sum_eq

/-- Whatever the nine counts of a table are, the object ranks them, and the loops that write zeros
and replace some of them make that object. -/
theorem flowStateComputeFeatures_bigramsRanked {replaceItemInObject}
    (replaces : ReplacesFirst replaceItemInObject)
    (isOn : Group.sequenceStats.on cfg.toSwitches = true)
    (counted : view.bigram.bigramStats.Counted) (some : view.bigram.bigramStats.total > 0) :
    let stats := view.bigram.bigramStats
    let output := flowStateComputeFeatures cfg platform streamType packet view
    output = addBigramFrequencies replaceItemInObject stats
        (bigramsBefore cfg platform streamType packet view) ++ bigramsBehind cfg platform view ∧
      BigramsRanked stats output :=
  ⟨flowStateComputeFeatures_bigrams streamType packet replaces isOn,
    counted.bigramsRanked streamType packet some isOn⟩

end Tables

/-- The search for a name from the front, and the replacement of the item found. -/
def replaceFirst {D : Type} (output : Output D) (key : String) (value : Json D) : Output D :=
  match output with
  | [] => []
  | item :: rest =>
    if lowerName item.1 = lowerName key then (key, value) :: rest
    else item :: replaceFirst rest key value

theorem replaceFirst_replaces {D : Type} : ReplacesFirst (replaceFirst (D := D)) := by
  intro before key old value after
  induction before with
  | nil => exact fun _ => if_pos rfl
  | cons item before inductionHypothesis =>
    intro different
    obtain ⟨first, others⟩ := List.forall_mem_cons.mp different
    exact (if_neg first).trans (congrArg (item :: ·) (inductionHypothesis others))

/-- Three packets of 10, 10 and 1400 bytes: the first is paired with the class of small packets,
and so are the two others. -/
theorem flowStateComputeFeatures_bigramsRanked_three :
    let view := closingView defaultConfig (barePlatform ℝ) .tcp (barePacket 1 1 10)
      [barePacket 2 1 10, barePacket 3 1 1400]
    view.bigram.bigramStats = ⟨[2, 0, 1, 0, 0, 0, 0, 0, 0], 3⟩ ∧
      BigramsRanked view.bigram.bigramStats (flowStateComputeFeatures defaultConfig
        (barePlatform ℝ) .tcp (barePacket 4 1 0) view) := by
  intro view
  have stats_eq : view.bigram.bigramStats = ⟨[2, 0, 1, 0, 0, 0, 0, 0, 0], 3⟩ := by
    decide
  have counted : view.bigram.bigramStats.Counted := by
    rw [stats_eq]
    exact ⟨rfl, rfl⟩
  have some : view.bigram.bigramStats.total > 0 := by
    rw [stats_eq]
    decide
  exact ⟨stats_eq, (flowStateComputeFeatures_bigramsRanked .tcp (barePacket 4 1 0)
    replaceFirst_replaces rfl counted some).2⟩

/-- In every flow of fewer than 2^32 packets the object ranks the bigrams, whatever allocations
fail. -/
theorem flowRun_bigramsRanked {cfg : FeatureConfig} {platform : Platform ℝ}
    {streamType : StreamType} {callbacks : List (Allocs × RawPacket)}
    (isOn : Group.sequenceStats.on cfg.toSwitches = true) (few : callbacks.length < 2 ^ 32)
    {flow : FlowFeatureState ℝ} (run : flowRun cfg platform streamType callbacks = some flow)
    (closing : RawPacket) :
    BigramsRanked flow.view.bigram.bigramStats
      (flowStateComputeFeatures cfg platform streamType closing flow.view) := by
  match callbacks with
  | [] => cases run
  | first :: rest =>
    let infos := packetInfos cfg streamType ((first :: rest).map Prod.snd)
    have classes_length : (sizeClasses cfg infos).length = (first :: rest).length :=
      (List.length_map _).trans ((List.length_map _).trans (List.length_map _))
    have updates_length :
        ((PktSizeClass.small :: sizeClasses cfg infos).zip (sizeClasses cfg infos)).length =
          (first :: rest).length := by
      rw [List.length_zip, List.length_cons, min_eq_right (Nat.le_succ _), classes_length]
    have stats_eq : flow.view.bigram.bigramStats =
        bigramUpdates ((.small :: sizeClasses cfg infos).zip (sizeClasses cfg infos)) := by
      refine (congrArg (fun fields : Fields ℝ => fields.bigram.bigramStats)
        (flowRun_fields run)).trans ?_
      exact run_bigramUpdates (Bool.and_eq_true_iff.mp isOn).2 platform _ infos
    obtain ⟨counted, total_eq⟩ := counted_bigramUpdates (updates_length.trans_lt few)
    rw [← stats_eq] at counted total_eq
    refine counted.bigramsRanked streamType closing ?_ isOn
    rw [total_eq, updates_length]
    exact Nat.succ_pos _

end TiFeatures
