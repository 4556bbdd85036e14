/-
This file is a small library of programs that share a heap. To each of them the
objects of the others are hidden, as if they had come back. A program that does not
look at the heap does to the shared heap what it does to the one it sees, so if it
accounts for its own objects it leaves those of the others alone. Any interleaving of
the steps of such programs is then, to each of them, the run of its own steps.
-/

import TiFeatures.Library.Ledger
import TiFeatures.Library.Mealy
import Mathlib.Data.List.Dedup
import Mathlib.Data.List.Flatten
import Mathlib.Logic.Function.Basic

namespace HeapLedger

variable {Kind : Type}

/-! ### Hidden objects -/

/-- The heap as it is seen by those who do not know of some of its objects. -/
def Heap.hide (heap : Heap Kind) (others : List Nat) : Heap Kind :=
  { heap with freed := heap.freed ++ others }

/-- A heap, and the same heap with some objects hidden, after the same operations. -/
structure Shared (others : List Nat) (start heap hidden : Heap Kind) : Prop where
  kinds_eq : hidden.kinds = heap.kinds
  freed_eq : hidden.freed = heap.freed ++ others
  noFault : hidden.fault = false → heap.fault = false
  grown : start.kinds <+: heap.kinds

theorem Shared.start (others : List Nat) (heap : Heap Kind) :
    Shared others heap heap (heap.hide others) :=
  ⟨rfl, rfl, id, List.prefix_refl _⟩

namespace Shared

variable {others : List Nat} {start heap hidden : Heap Kind}

/-- What is live to those who do not know of the others is live. -/
theorem live (shared : Shared others start heap hidden) {object : Nat}
    (seen : hidden.live object = true) : heap.live object = true := by
  simp only [Heap.live, shared.kinds_eq, shared.freed_eq, Bool.and_eq_true, Bool.not_eq_true',
    List.contains_eq_mem, decide_eq_true_iff, decide_eq_false_iff_not, List.mem_append,
    not_or] at seen ⊢
  exact ⟨seen.1, seen.2.1⟩

theorem fault (shared : Shared others start heap hidden) {object : Nat}
    (seen : (hidden.fault || !hidden.live object) = false) :
    (heap.fault || !heap.live object) = false := by
  rw [Bool.or_eq_false_iff, Bool.not_eq_false'] at seen ⊢
  exact ⟨shared.noFault seen.1, shared.live seen.2⟩

theorem use (shared : Shared others start heap hidden) (object : Nat) :
    Shared others start (heap.use object) (hidden.use object) :=
  ⟨shared.kinds_eq, shared.freed_eq, shared.fault, shared.grown⟩

theorem deref (shared : Shared others start heap hidden) (pointer : Option Nat) :
    Shared others start (heap.deref pointer) (hidden.deref pointer) := by
  cases pointer with
  | none =>
    exact ⟨shared.kinds_eq, shared.freed_eq, fun noFault => absurd noFault.symm Bool.false_ne_true,
      shared.grown⟩
  | some object => exact shared.use object

theorem free (shared : Shared others start heap hidden) (object : Nat) :
    Shared others start (heap.free object) (hidden.free object) :=
  ⟨shared.kinds_eq, congrArg (object :: ·) shared.freed_eq, shared.fault, shared.grown⟩

theorem push (shared : Shared others start heap hidden) (kind : Kind) :
    Shared others start (heap.push kind) (hidden.push kind) :=
  ⟨congrArg (· ++ [kind]) shared.kinds_eq, shared.freed_eq, shared.noFault,
    shared.grown.trans (List.prefix_append _ _)⟩

/-- The next object has the same number in both heaps. -/
theorem next_eq (shared : Shared others start heap hidden) :
    hidden.kinds.length = heap.kinds.length := congrArg List.length shared.kinds_eq

/-- Steps that keep two heaps together do so in a sequence. -/
theorem foldl {Item : Type} {step : Heap Kind → Item → Heap Kind}
    (each : ∀ {heap hidden : Heap Kind} (item : Item), Shared others start heap hidden →
      Shared others start (step heap item) (step hidden item)) (items : List Item)
    (shared : Shared others start heap hidden) :
    Shared others start (items.foldl step heap) (items.foldl step hidden) := by
  induction items generalizing heap hidden with
  | nil => exact shared
  | cons item rest inductionHypothesis => exact inductionHypothesis (each item shared)

end Shared

/-! ### Uniform programs -/

/-- A program makes no use of the heap but to allocate, use and give back objects: it does the
same, and gives the same result, whatever other objects there are. -/
structure Uniform {Result : Type} (program : Heap Kind → Heap Kind × Result) : Prop where
  keeps : ∀ {others : List Nat} {start heap hidden : Heap Kind},
    Shared others start heap hidden → Shared others start (program heap).1 (program hidden).1
  result_eq : ∀ {others : List Nat} {start heap hidden : Heap Kind},
    Shared others start heap hidden → (program heap).2 = (program hidden).2

section Uniform

variable {Result Next : Type}

theorem Uniform.of {program : Heap Kind → Heap Kind × Result}
    (same : ∀ {others : List Nat} {start heap hidden : Heap Kind},
      Shared others start heap hidden → Shared others start (program heap).1 (program hidden).1 ∧
        (program heap).2 = (program hidden).2) : Uniform program :=
  ⟨fun shared => (same shared).1, fun shared => (same shared).2⟩

theorem Uniform.pure (result : Result) : Uniform fun heap : Heap Kind => (heap, result) :=
  ⟨id, fun _ => rfl⟩

theorem Uniform.map {program : Heap Kind → Heap Kind × Result} (uniform : Uniform program)
    (image : Result → Next) :
    Uniform fun heap => ((program heap).1, image (program heap).2) :=
  ⟨uniform.keeps, fun shared => congrArg image (uniform.result_eq shared)⟩

/-- One uniform program after another is uniform. -/
theorem Uniform.bind {program : Heap Kind → Heap Kind × Result} (uniform : Uniform program)
    {next : Result → Heap Kind → Heap Kind × Next} (uniformNext : ∀ result, Uniform (next result)) :
    Uniform fun heap => next (program heap).2 (program heap).1 where
  keeps shared := by
    rw [uniform.result_eq shared]
    exact (uniformNext _).keeps (uniform.keeps shared)
  result_eq shared := by
    rw [uniform.result_eq shared]
    exact (uniformNext _).result_eq (uniform.keeps shared)

theorem Uniform.malloc (kind : Kind) (ok : Bool) :
    Uniform fun heap : Heap Kind => heap.malloc kind ok := by
  cases ok with
  | false => exact .pure none
  | true => exact ⟨fun shared => shared.push kind, fun shared => congrArg some shared.next_eq.symm⟩

/-- An operation that keeps two heaps together, before a uniform program. -/
theorem Uniform.after {operation : Heap Kind → Heap Kind}
    (keeps : ∀ {others : List Nat} {start heap hidden : Heap Kind},
      Shared others start heap hidden → Shared others start (operation heap) (operation hidden))
    {program : Heap Kind → Heap Kind × Result} (uniform : Uniform program) :
    Uniform fun heap => program (operation heap) :=
  ⟨fun shared => uniform.keeps (keeps shared), fun shared => uniform.result_eq (keeps shared)⟩

/-- The objects of the others are owned by no one in the heap that does not show them. -/
theorem Heap.Owns.hide {heap : Heap Kind} {own others : List (Nat × Kind)}
    (owns : heap.Owns (own ++ others)) : (heap.hide (others.map Prod.fst)).Owns own where
  noFault := owns.noFault
  balance := by
    have balance := owns.balance
    rw [List.map_append, List.append_assoc] at balance
    exact (List.perm_append_comm.append_left _).trans balance
  kind entry member := owns.kind entry (List.mem_append_left _ member)

/-- A uniform program that turns its own objects into others leaves the rest of the heap as it
was. -/
theorem Uniform.owns {program : Heap Kind → Heap Kind × Result} (uniform : Uniform program)
    {heap : Heap Kind} {own after others : List (Nat × Kind)} (owns : heap.Owns (own ++ others))
    (alone : (program (heap.hide (others.map Prod.fst))).1.Owns after) :
    (program heap).1.Owns (after ++ others) := by
  have shared := uniform.keeps (Shared.start (others.map Prod.fst) heap)
  refine ⟨shared.noFault alone.noFault, ?_, fun entry member => ?_⟩
  · have balance := alone.balance
    rw [shared.freed_eq, shared.kinds_eq] at balance
    rw [List.map_append, List.append_assoc]
    exact (List.perm_append_comm.append_left _).trans balance
  · rcases List.mem_append.mp member with mine | theirs
    · rw [← shared.kinds_eq]
      exact alone.kind entry mine
    · obtain ⟨more, grown⟩ := shared.grown
      have found := owns.kind entry (List.mem_append_right _ theirs)
      obtain ⟨inside, -⟩ := List.getElem?_eq_some_iff.mp found
      rw [← grown, List.getElem?_append_left inside]
      exact found

end Uniform

/-! ### Tenants -/

/-- Programs, one for each key, that share a heap. Each goes from state to state, with an output
on the way, and a state owns objects of the heap. A program that has the heap to itself accounts
for its objects, and does to the values of its states what it does without a heap. -/
structure Tenants (Key Kind Event State Value Output : Type) where
  initial : State
  step : Key → Event → State → Heap Kind → Heap Kind × State × Output
  owned : State → List (Nat × Kind)
  /-- What holds of the states, apart from the objects they own. -/
  Good : State → Prop
  value : State → Value
  plain : Key → Event → Value → Value × Output
  initial_owned : owned initial = []
  initial_good : Good initial
  uniform : ∀ key event state, Uniform (step key event state)
  alone : ∀ key event state heap, heap.Owns (owned state) → Good state →
    (step key event state heap).1.Owns (owned (step key event state heap).2.1) ∧
      Good (step key event state heap).2.1
  value_step : ∀ key event state heap, heap.Owns (owned state) → Good state →
    value (step key event state heap).2.1 = (plain key event (value state)).1 ∧
      (step key event state heap).2.2 = (plain key event (value state)).2

namespace Tenants

variable {Key Event State Value Output : Type} [DecidableEq Key]
  (tenants : Tenants Key Kind Event State Value Output)

/-- All programs on one heap, as a machine. The outputs are marked with their programs. -/
def machine : Mealy (Heap Kind × (Key → State)) (Key × Event) (Key × Output) where
  step := fun (heap, states) (key, event) =>
    let result := tenants.step key event (states key) heap
    (result.1, Function.update states key result.2.1)
  emit := fun (heap, states) (key, event) =>
    [(key, (tenants.step key event (states key) heap).2.2)]

/-- One program without a heap, as a machine. -/
def plainMachine (key : Key) : Mealy Value Event Output where
  step value event := (tenants.plain key event value).1
  emit value event := [(tenants.plain key event value).2]

/-- What a run starts with. -/
def empty : Heap Kind × (Key → State) := (Heap.empty, fun _ => tenants.initial)

/-- The heap and the states after the steps of a run. -/
def run (events : List (Key × Event)) : Heap Kind × (Key → State) :=
  tenants.machine.run tenants.empty events

/-- What the programs put out in a run. -/
def outputs (events : List (Key × Event)) : List (Key × Output) :=
  tenants.machine.trace tenants.empty events

/-- What is marked with a key. -/
def only {Item : Type} (key : Key) (items : List (Key × Item)) : List Item :=
  items.filterMap fun item => if item.1 = key then some item.2 else none

/-- The states are in order, and the heap is shared among them: the live objects are those of the
keys listed, each of which is there for one state. -/
structure Sound (keys : List Key) (system : Heap Kind × (Key → State)) : Prop where
  owns : system.1.Owns (keys.flatMap fun key => tenants.owned (system.2 key))
  good : ∀ key, tenants.Good (system.2 key)

omit [DecidableEq Key] in
theorem empty_sound (keys : List Key) : tenants.Sound keys tenants.empty := by
  refine ⟨?_, fun _ => tenants.initial_good⟩
  have nothing : (keys.flatMap fun _ => tenants.owned tenants.initial) = [] :=
    List.flatMap_eq_nil_iff.mpr fun _ _ => tenants.initial_owned
  rw [empty, nothing]
  exact Heap.empty_owns

/-- The objects of the other keys are not touched by a change of one state. -/
theorem flatMap_owned_update (states : Key → State) (state : State) {key : Key}
    {keys : List Key} (distinct : keys.Nodup) (member : key ∈ keys) :
    (keys.flatMap fun other => tenants.owned (Function.update states key state other)).Perm
      (tenants.owned state ++ (keys.erase key).flatMap fun other => tenants.owned (states other))
      := by
  refine ((List.perm_cons_erase member).flatMap_right _).trans (List.Perm.of_eq ?_)
  rw [List.flatMap_cons, Function.update_self]
  refine congrArg (tenants.owned state ++ ·) (List.flatMap_congr fun other inside => ?_)
  rw [Function.update_of_ne (distinct.mem_erase_iff.mp inside).1]

section Step

variable {tenants} {keys : List Key} {system : Heap Kind × (Key → State)} {key : Key}

/-- What a program sees of the heap before its step. -/
theorem Sound.visible (sound : tenants.Sound keys system) (distinct : keys.Nodup)
    (member : key ∈ keys) :
    system.1.Owns (tenants.owned (system.2 key) ++
      (keys.erase key).flatMap fun other => tenants.owned (system.2 other)) := by
  have split := tenants.flatMap_owned_update system.2 (system.2 key) distinct member
  rw [Function.update_eq_self] at split
  exact sound.owns.perm split

/-- A step of a program keeps the account of all of them. -/
theorem Sound.step (sound : tenants.Sound keys system) (distinct : keys.Nodup)
    (member : key ∈ keys) (event : Event) :
    tenants.Sound keys (tenants.machine.step system (key, event)) := by
  have visible := sound.visible distinct member
  obtain ⟨alone, good⟩ := tenants.alone key event (system.2 key) _ visible.hide (sound.good key)
  have result_eq := (tenants.uniform key event (system.2 key)).result_eq (Shared.start
    (((keys.erase key).flatMap fun other => tenants.owned (system.2 other)).map Prod.fst)
      system.1)
  rw [← result_eq] at alone good
  have kept := (tenants.uniform key event (system.2 key)).owns visible alone
  refine ⟨kept.perm (tenants.flatMap_owned_update _ _ distinct member).symm, fun other => ?_⟩
  by_cases same : other = key
  · subst same
    exact (congrArg tenants.Good (Function.update_self ..)).mpr good
  · exact (congrArg tenants.Good (Function.update_of_ne same ..)).mpr (sound.good other)

/-- A step of a program does to the values what it does without a heap. -/
theorem Sound.value_step (sound : tenants.Sound keys system) (distinct : keys.Nodup)
    (member : key ∈ keys) (event : Event) :
    let result := tenants.step key event (system.2 key) system.1
    tenants.value result.2.1 = (tenants.plain key event (tenants.value (system.2 key))).1 ∧
      result.2.2 = (tenants.plain key event (tenants.value (system.2 key))).2 := by
  have visible := sound.visible distinct member
  have result_eq := (tenants.uniform key event (system.2 key)).result_eq (Shared.start
    (((keys.erase key).flatMap fun other => tenants.owned (system.2 other)).map Prod.fst)
      system.1)
  dsimp only
  rw [result_eq]
  exact tenants.value_step key event (system.2 key) _ visible.hide (sound.good key)

end Step

theorem run_concat (events : List (Key × Event)) (event : Key × Event) :
    tenants.run (events ++ [event]) = tenants.machine.step (tenants.run events) event :=
  List.foldl_concat _ _ _ _

theorem outputs_concat (events : List (Key × Event)) (event : Key × Event) :
    tenants.outputs (events ++ [event]) =
      tenants.outputs events ++ tenants.machine.emit (tenants.run events) event := by
  rw [outputs, Mealy.trace_append, Mealy.trace_cons, Mealy.trace_nil, List.append_nil]
  rfl

/-- After every run the heap is shared among the states of the keys that took part. -/
theorem run_sound {keys : List Key} (distinct : keys.Nodup) (events : List (Key × Event))
    (inside : ∀ event ∈ events, event.1 ∈ keys) : tenants.Sound keys (tenants.run events) := by
  induction events using List.reverseRecOn with
  | nil => exact tenants.empty_sound keys
  | append_singleton before event inductionHypothesis =>
    rw [run_concat]
    have earlier := inductionHypothesis fun other member =>
      inside other (List.mem_append_left _ member)
    exact earlier.step distinct
      (inside event (List.mem_append_right _ (List.mem_singleton_self _))) event.2

/-- The keys that took part in a run, and some more. -/
def keysOf (more : List Key) (events : List (Key × Event)) : List Key :=
  (more ++ events.map Prod.fst).dedup

theorem mem_keysOf_more {more : List Key} (events : List (Key × Event)) {key : Key}
    (member : key ∈ more) : key ∈ keysOf more events :=
  List.mem_dedup.mpr (List.mem_append_left _ member)

theorem run_sound_keysOf (more : List Key) (events : List (Key × Event)) :
    tenants.Sound (keysOf more events) (tenants.run events) :=
  tenants.run_sound (List.nodup_dedup _) events fun _ member =>
    List.mem_dedup.mpr (List.mem_append_right _ (List.mem_map_of_mem member))

section Owners

variable (events : List (Key × Event))

/-- Only live objects are used or given back. -/
theorem run_fault : (tenants.run events).1.fault = false :=
  (tenants.run_sound_keysOf [] events).owns.noFault

theorem run_good (key : Key) : tenants.Good ((tenants.run events).2 key) :=
  (tenants.run_sound_keysOf [] events).good key

/-- What is not live came back once. -/
theorem run_count_freed {object : Nat} (inside : object < (tenants.run events).1.kinds.length) :
    (tenants.run events).1.freed.count object =
      if (tenants.run events).1.live object then 0 else 1 := by
  have owns := (tenants.run_sound_keysOf [] events).owns
  rw [owns.count_freed inside]
  exact if_congr (owns.live_iff object).symm rfl rfl

omit [DecidableEq Key] in
/-- The numbers of the objects that the listed keys own. -/
theorem map_flatMap_owned (keys : List Key) (states : Key → State) :
    (keys.flatMap fun key => tenants.owned (states key)).map Prod.fst =
      keys.flatMap fun key => (tenants.owned (states key)).map Prod.fst := List.map_flatMap

/-- The live objects are those that the states own. -/
theorem run_live_iff (object : Nat) : (tenants.run events).1.live object = true ↔
    ∃ key, object ∈ (tenants.owned ((tenants.run events).2 key)).map Prod.fst := by
  constructor
  · intro live
    have owned := ((tenants.run_sound_keysOf [] events).owns.live_iff object).mp live
    rw [map_flatMap_owned] at owned
    obtain ⟨key, -, member⟩ := List.mem_flatMap.mp owned
    exact ⟨key, member⟩
  · rintro ⟨key, member⟩
    refine ((tenants.run_sound_keysOf [key] events).owns.live_iff object).mpr ?_
    rw [map_flatMap_owned]
    exact List.mem_flatMap.mpr ⟨key, mem_keysOf_more events List.mem_cons_self, member⟩

theorem run_nodup (more : List Key) : ((keysOf more events).flatMap fun key =>
    (tenants.owned ((tenants.run events).2 key)).map Prod.fst).Nodup := by
  rw [← map_flatMap_owned]
  exact (List.nodup_append'.mp (tenants.run_sound_keysOf more events).owns.nodup).1

/-- A state owns no object twice. -/
theorem run_owned_nodup (key : Key) :
    ((tenants.owned ((tenants.run events).2 key)).map Prod.fst).Nodup :=
  (List.nodup_flatMap.mp (tenants.run_nodup events [key])).1 key
    (mem_keysOf_more events List.mem_cons_self)

/-- No object is owned by two states. -/
theorem run_owned_disjoint {key other : Key} (apart : key ≠ other) :
    List.Disjoint ((tenants.owned ((tenants.run events).2 key)).map Prod.fst)
      ((tenants.owned ((tenants.run events).2 other)).map Prod.fst) := by
  have pairwise := (List.nodup_flatMap.mp (tenants.run_nodup events [key, other])).2
  have symmetric : Std.Symm (Function.onFun List.Disjoint fun key =>
      (tenants.owned ((tenants.run events).2 key)).map Prod.fst) :=
    ⟨fun _ _ disjoint => List.Disjoint.symm disjoint⟩
  refine pairwise.forall ?_ ?_ apart
  · exact mem_keysOf_more events List.mem_cons_self
  · exact mem_keysOf_more events (List.mem_cons_of_mem _ List.mem_cons_self)

end Owners

theorem only_append {Item : Type} (key : Key) (front back : List (Key × Item)) :
    only key (front ++ back) = only key front ++ only key back := List.filterMap_append

theorem only_own {Item : Type} (key : Key) (item : Item) : only key [(key, item)] = [item] :=
  List.filterMap_cons_some (if_pos rfl)

theorem only_other {Item : Type} {key other : Key} (apart : other ≠ key) (item : Item) :
    only key [(other, item)] = [] := List.filterMap_cons_none (if_neg apart)

/-- To each program a run is the run of its own steps. -/
theorem run_alone (events : List (Key × Event)) (key : Key) :
    tenants.value ((tenants.run events).2 key) =
        (tenants.plainMachine key).run (tenants.value tenants.initial) (only key events) ∧
      only key (tenants.outputs events) =
        (tenants.plainMachine key).trace (tenants.value tenants.initial) (only key events) := by
  induction events using List.reverseRecOn with
  | nil => exact ⟨rfl, rfl⟩
  | append_singleton before event inductionHypothesis =>
    obtain ⟨state_eq, outputs_eq⟩ := inductionHypothesis
    obtain ⟨mover, event⟩ := event
    obtain ⟨value_eq, output_eq⟩ := (tenants.run_sound_keysOf [mover] before).value_step
      (List.nodup_dedup _) (mem_keysOf_more before List.mem_cons_self) event
    rw [run_concat, outputs_concat, only_append, only_append, outputs_eq]
    by_cases same : mover = key
    · subst same
      rw [only_own, Mealy.run_append, Mealy.trace_append, Mealy.run_cons, Mealy.run_nil,
        Mealy.trace_cons, Mealy.trace_nil, List.append_nil, ← state_eq]
      refine ⟨(congrArg tenants.value (Function.update_self ..)).trans value_eq, ?_⟩
      exact congrArg _ ((only_own mover _).trans (congrArg ([·]) output_eq))
    · rw [only_other same, List.append_nil]
      refine ⟨(congrArg tenants.value (Function.update_of_ne (Ne.symm same) ..)).trans state_eq, ?_⟩
      rw [show only key (tenants.machine.emit (tenants.run before) (mover, event)) = [] from
        only_other same _, List.append_nil]

end Tenants

end HeapLedger
