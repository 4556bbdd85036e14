/-
This file extends the heap of an allocator with a second party that objects are
offered to. Whoever hands an object over must take it back exactly if the offer is
rejected: then every object has one owner, after any sequence of transfers.
-/

import TiFeatures.Library.Ledger

namespace HeapLedger

/-- A heap and the offers of its objects to the other party, in their order. -/
structure Custody (Kind Offer : Type) where
  heap : Heap Kind
  offers : List (Nat × Offer)

/-- What happens to one object: it is allocated, offered, and possibly given back. -/
structure Transfer (Kind Offer : Type) where
  kind : Kind
  offer : Offer
  freed : Bool

variable {Kind Offer : Type}

namespace Custody

/-- Nothing was allocated. -/
def empty : Custody Kind Offer := ⟨Heap.empty, []⟩

/-- Offer an object. -/
def hand (custody : Custody Kind Offer) (object : Nat) (offer : Offer) : Custody Kind Offer :=
  { custody with offers := custody.offers ++ [(object, offer)] }

/-- Allocate an object, write it, offer it, and give it back if the transfer does. -/
def transfer (custody : Custody Kind Offer) (step : Transfer Kind Offer) : Custody Kind Offer :=
  let object := custody.heap.kinds.length
  let heap := (custody.heap.push step.kind).use object
  ({ custody with heap := if step.freed then heap.free object else heap } :
    Custody Kind Offer).hand object step.offer

/-- The custody after a sequence of transfers. -/
def run (steps : List (Transfer Kind Offer)) : Custody Kind Offer := steps.foldl transfer empty

section Owner

variable (accepts : Offer → Bool)

/-- The other party has accepted the object. -/
def Accepted (custody : Custody Kind Offer) (object : Nat) : Prop :=
  ∃ offer, (object, offer) ∈ custody.offers ∧ accepts offer = true

/-- The object was offered, and the other party has not accepted it. -/
def Rejected (custody : Custody Kind Offer) (object : Nat) : Prop :=
  (∃ offer, (object, offer) ∈ custody.offers) ∧
    ∀ offer, (object, offer) ∈ custody.offers → accepts offer = false

/-- An object has one owner: it was accepted and never given back, or it was rejected and given
back once. -/
def OneOwner (custody : Custody Kind Offer) (object : Nat) : Prop :=
  (custody.Accepted accepts object ∧ custody.heap.freed.count object = 0) ∨
    (custody.Rejected accepts object ∧ custody.heap.freed.count object = 1)

/-- Every object has one owner. -/
def OneOwnerEach (custody : Custody Kind Offer) : Prop :=
  ∀ object < custody.heap.kinds.length, custody.OneOwner accepts object

end Owner

section Transfer

variable (custody : Custody Kind Offer) (step : Transfer Kind Offer)

theorem transfer_kinds :
    (custody.transfer step).heap.kinds = custody.heap.kinds ++ [step.kind] := by
  rw [transfer, hand]
  dsimp only
  split <;> rfl

theorem transfer_freed : (custody.transfer step).heap.freed =
    if step.freed then custody.heap.kinds.length :: custody.heap.freed
    else custody.heap.freed := by
  rw [transfer, hand]
  dsimp only
  split <;> rfl

theorem transfer_offers : (custody.transfer step).offers =
    custody.offers ++ [(custody.heap.kinds.length, step.offer)] := rfl

/-- Transfers allocate their objects in order and offer each of them once. -/
theorem foldl_transfer (steps : List (Transfer Kind Offer)) :
    (steps.foldl transfer custody).heap.kinds =
        custody.heap.kinds ++ steps.map Transfer.kind ∧
      (steps.foldl transfer custody).offers = custody.offers ++
        (List.range' custody.heap.kinds.length steps.length).zip (steps.map Transfer.offer) := by
  induction steps generalizing custody with
  | nil => exact ⟨(List.append_nil _).symm, (List.append_nil _).symm⟩
  | cons step rest inductionHypothesis =>
    obtain ⟨kinds_eq, offers_eq⟩ := inductionHypothesis (custody.transfer step)
    rw [transfer_kinds] at kinds_eq offers_eq
    rw [transfer_offers, List.length_append, List.length_singleton] at offers_eq
    rw [List.foldl_cons, kinds_eq, offers_eq, List.append_assoc, List.append_assoc]
    exact ⟨rfl, rfl⟩

end Transfer

/-- Every object was offered once, in the order of allocation, and only live objects were used or
given back. -/
structure Sound (custody : Custody Kind Offer) : Prop where
  owned : ∃ owned, custody.heap.Owns owned
  offers_eq : custody.offers.map Prod.fst = List.range custody.heap.kinds.length

theorem empty_sound : (empty : Custody Kind Offer).Sound := ⟨⟨[], Heap.empty_owns⟩, rfl⟩

namespace Sound

variable {custody : Custody Kind Offer}

/-- The number of the next object is new to the offers. -/
theorem notMem_offers (sound : custody.Sound) (offer : Offer) :
    (custody.heap.kinds.length, offer) ∉ custody.offers := fun member => by
  have inside := List.mem_map_of_mem (f := Prod.fst) member
  rw [sound.offers_eq, List.mem_range] at inside
  exact Nat.lt_irrefl _ inside

/-- The next object was not given back. -/
theorem notMem_freed (sound : custody.Sound) :
    custody.heap.kinds.length ∉ custody.heap.freed := fun member => by
  obtain ⟨owned, owns⟩ := sound.owned
  have inside := owns.balance.mem_iff.mp (List.mem_append_right _ member)
  exact Nat.lt_irrefl _ (List.mem_range.mp inside)

theorem transfer (sound : custody.Sound) (step : Transfer Kind Offer) :
    (custody.transfer step).Sound := by
  obtain ⟨owned, owns⟩ := sound.owned
  have pushed := owns.push step.kind
  have used := pushed.use_owns (List.mem_map_of_mem (f := Prod.fst) List.mem_cons_self)
  refine ⟨?_, ?_⟩
  · rw [Custody.transfer, hand]
    dsimp only
    split
    · exact ⟨owned, used.free⟩
    · exact ⟨_, used⟩
  · rw [transfer_kinds, List.length_append, List.length_singleton, List.range_succ,
      ← sound.offers_eq]
    exact List.map_append

variable (accepts : Offer → Bool)

/-- A transfer does not change who owns the earlier objects. -/
theorem transfer_oneOwner_of_lt (custody : Custody Kind Offer) (step : Transfer Kind Offer)
    {object : Nat} (inside : object < custody.heap.kinds.length) :
    (custody.transfer step).OneOwner accepts object ↔ custody.OneOwner accepts object := by
  have offered : ∀ offer, (object, offer) ∈ (custody.transfer step).offers ↔
      (object, offer) ∈ custody.offers := by
    intro offer
    rw [transfer_offers, List.mem_append, or_iff_left]
    intro last
    exact inside.ne (congrArg Prod.fst (List.mem_singleton.mp last))
  have count_eq : (custody.transfer step).heap.freed.count object =
      custody.heap.freed.count object := by
    rw [transfer_freed]
    split
    · exact List.count_cons_of_ne inside.ne'
    · rfl
  simp only [OneOwner, Accepted, Rejected, offered, count_eq]

/-- The object of a transfer has one owner exactly if it was given back when it was rejected. -/
theorem transfer_oneOwner_last (sound : custody.Sound) (step : Transfer Kind Offer) :
    (custody.transfer step).OneOwner accepts custody.heap.kinds.length ↔
      step.freed = !accepts step.offer := by
  have offered : ∀ offer, (custody.heap.kinds.length, offer) ∈ (custody.transfer step).offers ↔
      offer = step.offer := by
    intro offer
    rw [transfer_offers, List.mem_append, or_iff_right (sound.notMem_offers offer),
      List.mem_singleton, Prod.mk.injEq, and_iff_right rfl]
  have count_eq : (custody.transfer step).heap.freed.count custody.heap.kinds.length =
      if step.freed then 1 else 0 := by
    rw [transfer_freed]
    have before := List.count_eq_zero.mpr sound.notMem_freed
    split
    · rw [List.count_cons_self, before]
    · exact before
  have accepted : (custody.transfer step).Accepted accepts custody.heap.kinds.length ↔
      accepts step.offer = true := by
    simp only [Accepted, offered, exists_eq_left]
  have rejected : (custody.transfer step).Rejected accepts custody.heap.kinds.length ↔
      accepts step.offer = false := by
    simp only [Rejected, offered, exists_eq, forall_eq, true_and]
  rw [OneOwner, accepted, rejected, count_eq]
  cases step.freed <;> cases accepts step.offer <;> decide

/-- A transfer keeps every object with one owner exactly if it gives its own back when it is
rejected. -/
theorem transfer_oneOwnerEach_iff (sound : custody.Sound) (step : Transfer Kind Offer) :
    (custody.transfer step).OneOwnerEach accepts ↔
      custody.OneOwnerEach accepts ∧ step.freed = !accepts step.offer := by
  rw [← sound.transfer_oneOwner_last accepts, OneOwnerEach, transfer_kinds, List.length_append,
    List.length_singleton]
  constructor
  · intro each
    refine ⟨fun object inside => ?_, each _ (Nat.lt_succ_self _)⟩
    exact (transfer_oneOwner_of_lt accepts custody step inside).mp
      (each object (Nat.lt_succ_of_lt inside))
  · rintro ⟨each, last⟩ object inside
    rcases Nat.lt_succ_iff_lt_or_eq.mp inside with earlier | rfl
    · exact (transfer_oneOwner_of_lt accepts custody step earlier).mpr (each object earlier)
    · exact last

end Sound

theorem run_concat (steps : List (Transfer Kind Offer)) (step : Transfer Kind Offer) :
    run (steps ++ [step]) = (run steps).transfer step := List.foldl_concat _ _ _ _

theorem run_sound (steps : List (Transfer Kind Offer)) : (run steps).Sound := by
  induction steps using List.reverseRecOn with
  | nil => exact empty_sound
  | append_singleton steps step inductionHypothesis =>
    rw [run_concat]
    exact inductionHypothesis.transfer step

/-- After a sequence of transfers every object has one owner exactly if every transfer gave its
object back when it was rejected, and only then. -/
theorem run_oneOwnerEach_iff (accepts : Offer → Bool) (steps : List (Transfer Kind Offer)) :
    (run steps).OneOwnerEach accepts ↔ ∀ step ∈ steps, step.freed = !accepts step.offer := by
  induction steps using List.reverseRecOn with
  | nil => exact ⟨fun _ step member => absurd member List.not_mem_nil,
      fun _ object inside => absurd inside (Nat.not_lt_zero object)⟩
  | append_singleton steps step inductionHypothesis =>
    rw [run_concat, (run_sound steps).transfer_oneOwnerEach_iff, inductionHypothesis,
      List.forall_mem_append, List.forall_mem_singleton]

end Custody

end HeapLedger
