/-
This file is a small library of post boxes: a second party keeps the objects it
accepted, one under each address, until the address is cleared and the object is given
back. Whatever is offered, read and cleared, only live objects are used and given
back, and under an address lies what was accepted there last.
-/

import Mathlib.Logic.Function.Basic
import TiFeatures.Library.Custody

namespace HeapLedger

/-- A party that keeps objects under addresses. It is told whether it accepts an object. -/
structure Postbox (Memory Address : Type) where
  empty : Memory
  put : Memory → Address → Nat → Bool → Memory
  get : Memory → Address → Option Nat
  clear : Memory → Address → Memory

/-- The party keeps what it accepted last under an address until the address is cleared. -/
structure Postbox.Lawful {Memory Address : Type} [DecidableEq Address]
    (box : Postbox Memory Address) : Prop where
  get_empty : ∀ address, box.get box.empty address = none
  get_put : ∀ memory address object accepted, box.get (box.put memory address object accepted) =
    if accepted then Function.update (box.get memory) address (some object) else box.get memory
  get_clear : ∀ memory address,
    box.get (box.clear memory address) = Function.update (box.get memory) address none

/-- The party that keeps a table. -/
def Postbox.table {Address : Type} [DecidableEq Address] :
    Postbox (Address → Option Nat) Address where
  empty := fun _ => none
  put memory address object accepted :=
    if accepted then Function.update memory address (some object) else memory
  get memory := memory
  clear memory address := Function.update memory address none

theorem Postbox.table_lawful {Address : Type} [DecidableEq Address] :
    (Postbox.table : Postbox (Address → Option Nat) Address).Lawful :=
  ⟨fun _ => rfl, fun _ _ _ _ => rfl, fun _ _ => rfl⟩

/-- What happens around a post box: an object is allocated, offered and possibly given back, the
object under an address is read, or an address is cleared. -/
inductive Post (Kind Offer Address : Type) where
  | transfer (step : Transfer Kind Offer)
  | read (address : Address)
  | clear (address : Address)

/-- A heap with the offers of its objects, and the memory of the party. -/
structure PostState (Kind Offer Memory : Type) where
  custody : Custody Kind Offer
  memory : Memory

variable {Kind Offer Memory Address : Type} [DecidableEq Address]
  (box : Postbox Memory Address) (addressOf : Offer → Address) (accepts : Offer → Bool)

namespace PostState

/-- The object under an address, if there is one, is used. -/
def read (state : PostState Kind Offer Memory) (address : Address) :
    PostState Kind Offer Memory :=
  match box.get state.memory address with
  | none => state
  | some object =>
    { state with custody := { state.custody with heap := state.custody.heap.use object } }

/-- An address is cleared, and the object under it is given back. -/
def clear (state : PostState Kind Offer Memory) (address : Address) :
    PostState Kind Offer Memory :=
  match box.get state.memory address with
  | none => state
  | some object =>
    ⟨{ state.custody with heap := state.custody.heap.free object },
      box.clear state.memory address⟩

/-- One event. -/
def step (state : PostState Kind Offer Memory) :
    Post Kind Offer Address → PostState Kind Offer Memory
  | .transfer step =>
    ⟨state.custody.transfer step, box.put state.memory (addressOf step.offer)
      state.custody.heap.kinds.length (accepts step.offer)⟩
  | .read address => state.read box address
  | .clear address => state.clear box address

/-- The state after a sequence of events. -/
def run (events : List (Post Kind Offer Address)) : PostState Kind Offer Memory :=
  events.foldl (step box addressOf accepts) ⟨Custody.empty, box.empty⟩

end PostState

/-- The kind of the object that an event leaves under an address, given that of the one before. -/
def Post.leaves (address : Address) (held : Option Kind) : Post Kind Offer Address → Option Kind
  | .transfer step =>
    if accepts step.offer = true ∧ addressOf step.offer = address then some step.kind else held
  | .read _ => held
  | .clear cleared => if address = cleared then none else held

/-- The kind of the object accepted last under an address that was not cleared since. -/
def lastKept (events : List (Post Kind Offer Address)) (address : Address) : Option Kind :=
  events.foldl (Post.leaves addressOf accepts address) none

/-- A rejected object may be given back, an accepted one is not. -/
def Post.Respects : Post Kind Offer Address → Prop
  | .transfer step => step.freed = true → accepts step.offer = false
  | _ => True

section Liveness

variable {custody : Custody Kind Offer} {object : Nat}

/-- The object of a transfer that does not give it back is live. -/
theorem Custody.Sound.live_new (sound : custody.Sound) {step : Transfer Kind Offer}
    (kept : step.freed = false) :
    (custody.transfer step).heap.live custody.heap.kinds.length = true := by
  have inside : custody.heap.kinds.length <
      (custody.transfer step).heap.kinds.length := by
    rw [Custody.transfer_kinds, List.length_append, List.length_singleton]
    exact Nat.lt_succ_self _
  have back : custody.heap.kinds.length ∉ (custody.transfer step).heap.freed := by
    rw [Custody.transfer_freed, kept]
    exact sound.notMem_freed
  rw [Heap.live, decide_eq_true inside, Bool.true_and, Bool.not_eq_true', List.contains_eq_mem,
    decide_eq_false_iff_not]
  exact back

theorem Heap.lt_of_live {heap : Heap Kind} (live : heap.live object = true) :
    object < heap.kinds.length := by
  rw [Heap.live, Bool.and_eq_true, decide_eq_true_iff] at live
  exact live.1

/-- A transfer leaves the objects that are live. -/
theorem Custody.live_transfer (live : custody.heap.live object = true)
    (step : Transfer Kind Offer) : (custody.transfer step).heap.live object = true := by
  have inside := Heap.lt_of_live live
  rw [Heap.live, Bool.and_eq_true, Bool.not_eq_true', List.contains_eq_mem,
    decide_eq_false_iff_not] at live
  have back : object ∉ (custody.transfer step).heap.freed := by
    rw [Custody.transfer_freed]
    split
    · exact List.not_mem_cons_of_ne_of_not_mem inside.ne live.2
    · exact live.2
  rw [Heap.live, Bool.and_eq_true, Bool.not_eq_true', List.contains_eq_mem,
    decide_eq_false_iff_not, decide_eq_true_iff, Custody.transfer_kinds, List.length_append]
  exact ⟨Nat.lt_add_right _ inside, back⟩

/-- Using a live object changes nothing. -/
theorem Custody.Sound.use (sound : custody.Sound) (live : custody.heap.live object = true) :
    custody.heap.use object = custody.heap := by
  obtain ⟨owned, owns⟩ := sound.owned
  exact owns.use ((owns.live_iff object).mp live)

/-- Giving a live object back keeps the books in order. -/
theorem Custody.Sound.free (sound : custody.Sound) (live : custody.heap.live object = true) :
    Custody.Sound { custody with heap := custody.heap.free object } := by
  obtain ⟨owned, owns⟩ := sound.owned
  obtain ⟨entry, member, rfl⟩ := List.mem_map.mp ((owns.live_iff object).mp live)
  obtain ⟨front, back, rfl⟩ := List.append_of_mem member
  exact ⟨⟨front ++ back, owns.free_middle front⟩, sound.offers_eq⟩

/-- The other objects stay live. -/
theorem Heap.live_free {heap : Heap Kind} (live : heap.live object = true) {other : Nat}
    (apart : object ≠ other) : (heap.free other).live object = true := by
  rw [Heap.live, Bool.and_eq_true, Bool.not_eq_true', List.contains_eq_mem,
    decide_eq_false_iff_not] at live ⊢
  exact ⟨live.1, List.not_mem_cons_of_ne_of_not_mem apart live.2⟩

end Liveness

/-- The objects kept are live, each lies under one address, and they are of the given kinds. -/
structure PostState.Kept (state : PostState Kind Offer Memory)
    (kinds : Address → Option Kind) : Prop where
  sound : state.custody.Sound
  live : ∀ address object, box.get state.memory address = some object →
    state.custody.heap.live object = true
  apart : ∀ address other object, box.get state.memory address = some object →
    box.get state.memory other = some object → address = other
  kind_eq : ∀ address,
    (box.get state.memory address).bind (state.custody.heap.kinds[·]?) = kinds address

variable {box addressOf accepts}

namespace PostState

theorem empty_kept (lawful : box.Lawful) :
    Kept box (⟨Custody.empty, box.empty⟩ : PostState Kind Offer Memory) fun _ => none := by
  refine ⟨Custody.empty_sound, fun address object held => ?_, fun address other object held => ?_,
    fun address => ?_⟩
  · rw [lawful.get_empty] at held
    cases held
  · rw [lawful.get_empty] at held
    cases held
  · rw [lawful.get_empty, Option.bind_none]

variable {state : PostState Kind Offer Memory} {kinds : Address → Option Kind}

namespace Kept

/-- A transfer puts its object under its address if it is accepted. -/
theorem transfer (kept : state.Kept box kinds) (lawful : box.Lawful)
    {step : Transfer Kind Offer} (respects : step.freed = true → accepts step.offer = false) :
    (PostState.step box addressOf accepts state (.transfer step)).Kept box fun address =>
      Post.leaves addressOf accepts address (kinds address) (.transfer step) := by
  have sound := kept.sound.transfer step
  have older : ∀ address object, box.get state.memory address = some object →
      (state.custody.heap.kinds ++ [step.kind])[object]? = state.custody.heap.kinds[object]? :=
    fun address object held =>
      List.getElem?_append_left (Heap.lt_of_live (kept.live address object held))
  cases accepted : accepts step.offer with
  | false =>
    refine ⟨sound, fun address object held => ?_, fun address other object held otherHeld => ?_,
      fun address => ?_⟩
    · simp only [PostState.step, lawful.get_put, accepted, Bool.false_eq_true, if_false] at held
      exact Custody.live_transfer (kept.live address object held) step
    · simp only [PostState.step, lawful.get_put, accepted, Bool.false_eq_true, if_false]
        at held otherHeld
      exact kept.apart address other object held otherHeld
    · simp only [PostState.step, lawful.get_put, accepted, Bool.false_eq_true, if_false,
        Post.leaves, false_and, Custody.transfer_kinds, ← kept.kind_eq address]
      exact Option.bind_congr fun object held => older address object held
  | true =>
    have notFreed : step.freed = false :=
      Bool.eq_false_iff.mpr fun freed => Bool.false_ne_true ((respects freed).symm.trans accepted)
    have get_eq : box.get (PostState.step box addressOf accepts state (.transfer step)).memory =
        Function.update (box.get state.memory) (addressOf step.offer)
          (some state.custody.heap.kinds.length) := by
      simp only [PostState.step, lawful.get_put, accepted, if_true]
    have fresh : ∀ address, box.get state.memory address ≠
        some state.custody.heap.kinds.length :=
      fun address held => Nat.lt_irrefl _ (Heap.lt_of_live (kept.live address _ held))
    refine ⟨sound, fun address object held => ?_, fun address other object held otherHeld => ?_,
      fun address => ?_⟩
    · rw [get_eq, Function.update_apply] at held
      split at held
      · exact Option.some.inj held ▸ kept.sound.live_new notFreed
      · exact Custody.live_transfer (kept.live address object held) step
    · rw [get_eq, Function.update_apply] at held otherHeld
      split at held
      · split at otherHeld
        · exact ‹address = _›.trans ‹other = _›.symm
        · exact absurd (otherHeld.trans held.symm) (fresh other)
      · split at otherHeld
        · exact absurd (held.trans otherHeld.symm) (fresh address)
        · exact kept.apart address other object held otherHeld
    · rw [get_eq, Function.update_apply, Post.leaves, accepted]
      simp only [PostState.step, Custody.transfer_kinds, true_and]
      by_cases here : address = addressOf step.offer
      · rw [if_pos here, if_pos here.symm, Option.bind_some, List.getElem?_concat_length]
      · rw [if_neg here, if_neg (Ne.symm here), ← kept.kind_eq address]
        exact Option.bind_congr fun object held => older address object held

omit [DecidableEq Address] in
/-- Reading changes nothing. -/
theorem read (kept : state.Kept box kinds) (address : Address) :
    state.read box address = state := by
  unfold PostState.read
  split
  · rfl
  · rw [kept.sound.use (kept.live address _ ‹_›)]

/-- Clearing an address gives its object back. -/
theorem clear (kept : state.Kept box kinds) (lawful : box.Lawful) (cleared : Address) :
    (state.clear box cleared).Kept box (Function.update kinds cleared none) := by
  unfold PostState.clear
  cases found : box.get state.memory cleared with
  | none =>
    refine ⟨kept.sound, kept.live, kept.apart, fun address => ?_⟩
    rw [Function.update_apply, kept.kind_eq]
    split
    · rw [← kept.kind_eq, ‹address = cleared›, found, Option.bind_none]
    · rfl
  | some object =>
    have live := kept.live cleared object found
    refine ⟨kept.sound.free live, fun address other held => ?_,
      fun address other same held otherHeld => ?_, fun address => ?_⟩
    · rw [lawful.get_clear, Function.update_apply] at held
      split at held
      · cases held
      · refine Heap.live_free (kept.live address other held) fun same => ?_
        exact absurd (kept.apart address cleared object (same ▸ held) found) ‹_›
    · rw [lawful.get_clear, Function.update_apply] at held otherHeld
      split at held
      · cases held
      · split at otherHeld
        · cases otherHeld
        · exact kept.apart address other same held otherHeld
    · rw [lawful.get_clear, Function.update_apply, Function.update_apply]
      split
      · rfl
      · exact kept.kind_eq address

end Kept

/-- Whatever is offered, read and cleared, the objects kept are live, and what lies under an
address is what was accepted there last. -/
theorem run_kept (lawful : box.Lawful) {events : List (Post Kind Offer Address)}
    (respects : ∀ event ∈ events, event.Respects accepts) :
    (run box addressOf accepts events).Kept box (lastKept addressOf accepts events) := by
  induction events using List.reverseRecOn with
  | nil => exact empty_kept lawful
  | append_singleton events event inductionHypothesis =>
    have kept := inductionHypothesis fun earlier member =>
      respects earlier (List.mem_append_left _ member)
    have last : ∀ address, lastKept addressOf accepts (events ++ [event]) address =
        Post.leaves addressOf accepts address (lastKept addressOf accepts events address) event :=
      fun address => List.foldl_concat _ _ _ _
    rw [run, List.foldl_concat, ← run, funext last]
    cases event with
    | transfer step =>
      exact kept.transfer lawful
        (respects (.transfer step) (List.mem_append_right _ (List.mem_singleton_self _)))
    | read address =>
      rw [step, kept.read address]
      exact kept
    | clear cleared =>
      have cleared_eq : (fun address => Post.leaves addressOf accepts address
          (lastKept addressOf accepts events address) (.clear cleared)) =
            Function.update (lastKept addressOf accepts events) cleared none := by
        funext address
        rw [Function.update_apply, Post.leaves]
      rw [cleared_eq]
      exact kept.clear lawful cleared

end PostState

end HeapLedger
