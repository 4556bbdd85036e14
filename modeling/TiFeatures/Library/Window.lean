/-
This file collects the two ways a bounded store can keep a stream of values: a
window that drops its oldest value when it is full, and a prefix that stops
accepting values when it is full. Folding either over a stream keeps the last or
the first values of the whole stream.
-/

import Mathlib.Data.List.DropRight

namespace BoundedStore

variable {Value : Type}

/-- Add a value to a window, dropping the oldest one if the window is full. -/
def slide (capacity : Nat) (window : List Value) (value : Value) : List Value :=
  (window ++ [value]).rtake capacity

/-- Add a value to a prefix if there is room. -/
def fill (capacity : Nat) (kept : List Value) (value : Value) : List Value :=
  if kept.length < capacity then kept ++ [value] else kept

/-! ### Windows -/

theorem length_rtake (values : List Value) (count : Nat) :
    (values.rtake count).length = min count values.length := by
  rw [List.rtake, List.length_drop]
  omega

theorem rtake_of_length_le {values : List Value} {count : Nat} (short : values.length ≤ count) :
    values.rtake count = values := by
  rw [List.rtake, Nat.sub_eq_zero_of_le short, List.drop_zero]

theorem rtake_cons_length (value : Value) (values : List Value) :
    (value :: values).rtake values.length = values := by
  rw [List.rtake, List.length_cons, Nat.add_sub_cancel_left]
  rfl

theorem map_rtake {Image : Type} (convert : Value → Image) (values : List Value) (count : Nat) :
    (values.map convert).rtake count = (values.rtake count).map convert := by
  rw [List.rtake, List.rtake, List.length_map, List.map_drop]

/-- Forgetting values before the window reaches them changes nothing. -/
theorem rtake_append_rtake (front back : List Value) (count : Nat) :
    (front.rtake count ++ back).rtake count = (front ++ back).rtake count := by
  simp only [List.rtake, List.length_append, List.length_drop]
  rw [List.drop_append, List.drop_append, List.drop_drop, List.length_drop]
  congr 1 <;> congr 1 <;> omega

/-- A window that has been full stays the last values of the stream. -/
theorem slide_rtake (capacity : Nat) (values : List Value) (value : Value) :
    slide capacity (values.rtake capacity) value = (values ++ [value]).rtake capacity :=
  rtake_append_rtake _ _ _

theorem length_slide (capacity : Nat) (window : List Value) (value : Value) :
    (slide capacity window value).length = min capacity (window.length + 1) := by
  rw [slide, length_rtake, List.length_append, List.length_singleton]

theorem slide_of_room {capacity : Nat} {window : List Value} (room : window.length < capacity)
    (value : Value) : slide capacity window value = window ++ [value] := by
  refine rtake_of_length_le ?_
  rw [List.length_append, List.length_singleton]
  exact room

/-- A full window drops its oldest value. -/
theorem slide_of_full {capacity : Nat} {window : List Value} (full : window.length = capacity)
    (positive : 0 < capacity) (value : Value) :
    slide capacity window value = window.drop 1 ++ [value] := by
  have excess : window.length + 1 - capacity = 1 := by omega
  rw [slide, List.rtake, List.length_append, List.length_singleton, excess,
    List.drop_append_of_le_length (by omega)]

/-- Sliding commutes with a conversion of the values. -/
theorem map_slide {Image : Type} (convert : Value → Image) (capacity : Nat)
    (window : List Value) (value : Value) :
    (slide capacity window value).map convert =
      slide capacity (window.map convert) (convert value) := by
  simp only [slide, List.rtake, List.map_drop, List.map_append, List.map_singleton,
    List.length_append, List.length_map]
  rfl

/-- Sliding a window over a stream keeps its last values. -/
theorem foldl_slide (capacity : Nat) (start stream : List Value) :
    stream.foldl (slide capacity) (start.rtake capacity) = (start ++ stream).rtake capacity := by
  induction stream generalizing start with
  | nil => rw [List.foldl_nil, List.append_nil]
  | cons value rest inductionHypothesis =>
    rw [List.foldl_cons, slide_rtake, inductionHypothesis, List.append_assoc]
    rfl

/-- Sliding an empty window over a stream keeps the last values of the stream. -/
theorem foldl_slide_nil (capacity : Nat) (stream : List Value) :
    stream.foldl (slide capacity) [] = stream.rtake capacity := by
  have kept := foldl_slide capacity [] stream
  rwa [List.nil_append, show ([] : List Value).rtake capacity = [] from List.drop_nil] at kept

/-! ### Bounded queues -/

/-- What can be done to a queue. -/
inductive QueueOp (Value : Type) where
  | push (value : Value)
  | clear

/-- An operation on a queue that forgets its oldest value when it is full. -/
def queueStep (capacity : Nat) (queue : List Value) : QueueOp Value → List Value
  | .push value => slide capacity queue value
  | .clear => []

/-- The values pushed since the last clear, behind those that were there before. -/
def sinceClear (start : List Value) (ops : List (QueueOp Value)) : List Value :=
  ops.foldl (fun pushed op =>
    match op with
    | .push value => pushed ++ [value]
    | .clear => []) start

/-- A queue holds the last of the values pushed since the last clear. -/
theorem foldl_queueStep (capacity : Nat) (start : List Value) (ops : List (QueueOp Value)) :
    ops.foldl (queueStep capacity) (start.rtake capacity) =
      (sinceClear start ops).rtake capacity := by
  induction ops generalizing start with
  | nil => rfl
  | cons op rest inductionHypothesis =>
    cases op with
    | push value =>
      rw [List.foldl_cons, queueStep, slide_rtake, inductionHypothesis]
      rfl
    | clear =>
      have none_left : ([] : List Value) = ([] : List Value).rtake capacity :=
        (rtake_of_length_le (Nat.zero_le capacity)).symm
      rw [List.foldl_cons, queueStep, none_left, inductionHypothesis]
      rfl

/-! ### Prefixes -/

/-- A prefix that has been filled stays the first values of the stream. -/
theorem fill_take (capacity : Nat) (values : List Value) (value : Value) :
    fill capacity (values.take capacity) value = (values ++ [value]).take capacity := by
  rw [fill, List.length_take]
  split
  · rename_i room
    rw [List.take_of_length_le (show values.length ≤ capacity by omega),
      List.take_of_length_le (by rw [List.length_append, List.length_singleton]; omega)]
  · rename_i full
    rw [List.take_append_of_le_length (by omega)]

/-- Filling a prefix from a stream keeps its first values. -/
theorem foldl_fill (capacity : Nat) (start stream : List Value) :
    stream.foldl (fill capacity) (start.take capacity) = (start ++ stream).take capacity := by
  induction stream generalizing start with
  | nil => rw [List.foldl_nil, List.append_nil]
  | cons value rest inductionHypothesis =>
    rw [List.foldl_cons, fill_take, inductionHypothesis, List.append_assoc]
    rfl

/-- Filling an empty prefix from a stream keeps the first values of the stream. -/
theorem foldl_fill_nil (capacity : Nat) (stream : List Value) :
    stream.foldl (fill capacity) [] = stream.take capacity := by
  have kept := foldl_fill capacity [] stream
  rwa [List.nil_append, List.take_nil] at kept

end BoundedStore
