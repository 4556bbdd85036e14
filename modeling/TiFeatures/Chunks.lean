/-
This file reads the chunk sequence as a partition. The loop writes the bytes of a
chunk when it is closed, and those of the last one behind the loop unless they are
none, so the values are the sums of the maximal blocks of packets of one direction
without a long gap.
-/

import TiFeatures.Library.Runs
import TiFeatures.Sequence
import Mathlib.Algebra.Group.Action.Defs
import Mathlib.Algebra.Order.BigOperators.Group.List
import Mathlib.Algebra.Order.Ring.Nat

namespace TiFeatures

/-! ### Blocks -/

/-- The next packet continues the chunk of the one before: it has its direction, and arrives at
most 100 ms later. A packet is a timestamp, a length and a direction. -/
def sameChunk (last next : Nat × Nat × Int) : Bool :=
  next.2.2 = last.2.2 ∧ u64Sub next.1 last.1 ≤ 100000

/-- The bytes of a block. -/
def blockBytes (block : List (Nat × Nat × Int)) : Nat := (block.map fun packet => packet.2.1).sum

theorem blockBytes_concat (block : List (Nat × Nat × Int)) (packet : Nat × Nat × Int) :
    blockBytes (block ++ [packet]) = blockBytes block + packet.2.1 := by
  rw [blockBytes, List.map_append, List.sum_append]
  rfl

/-- The blocks together have the bytes of all packets. -/
theorem sum_map_blockBytes (blocks : List (List (Nat × Nat × Int))) :
    (blocks.map blockBytes).sum = blockBytes blocks.flatten := by
  rw [blockBytes, List.map_flatten, List.sum_flatten, List.map_map]
  rfl

/-! ### The loop -/

/-- A chunk is cut where a packet does not continue it. -/
theorem chunk_cut_iff (last next : Nat × Nat × Int) :
    (next.2.2 ≠ last.2.2 ∨ u64Sub next.1 last.1 > 100000) ↔ sameChunk last next = false := by
  rw [sameChunk, decide_eq_false_iff_not, not_and_or, not_le]

/-- The loop closes the blocks but the last, which stays open. `before` is the block that is open
before the loop, and `last` its last packet. -/
theorem chunkLoop_eq (rest : List (Nat × Nat × Int)) {before : List (Nat × Nat × Int)}
    {last : Nat × Nat × Int} (chained : (before ++ [last]).IsChain fun first second =>
      sameChunk first second = true)
    (small : blockBytes (before ++ last :: rest) < 2 ^ 64) :
    ∃ closed final, (before ++ last :: rest).splitBy sameChunk = closed ++ [final] ∧
      chunkLoop rest last.1 last.2.2 (blockBytes (before ++ [last])) =
        (closed.map blockBytes, blockBytes final) := by
  induction rest generalizing before last with
  | nil =>
    exact ⟨[], before ++ [last],
      List.splitBy_of_isChain (List.append_ne_nil_of_right_ne_nil _ (List.cons_ne_nil _ _)) chained,
      rfl⟩
  | cons next rest inductionHypothesis =>
    obtain ⟨ts, len, dir⟩ := next
    have whole : before ++ last :: (ts, len, dir) :: rest =
        (before ++ [last]) ++ (ts, len, dir) :: rest := by
      rw [List.append_assoc]
      rfl
    have bytes_eq : blockBytes (before ++ last :: (ts, len, dir) :: rest) =
        blockBytes (before ++ [last]) + (len + blockBytes rest) := by
      rw [whole, blockBytes, List.map_append, List.sum_append]
      rfl
    by_cases joins : sameChunk last (ts, len, dir) = true
    · have stays : ¬ (dir ≠ last.2.2 ∨ u64Sub ts last.1 > 100000) := fun cut =>
        Bool.false_ne_true (((chunk_cut_iff last (ts, len, dir)).mp cut).symm.trans joins)
      have longer : ((before ++ [last]) ++ [(ts, len, dir)]).IsChain fun first second =>
          sameChunk first second = true :=
        chained.append_overlap (List.isChain_pair.mpr joins) (List.cons_ne_nil _ _)
      rw [chunkLoop, if_neg stays, u64_of_lt (by omega), ← blockBytes_concat _ (ts, len, dir),
        whole]
      exact inductionHypothesis longer (whole ▸ small)
    · have breaks := Bool.eq_false_iff.mpr joins
      have rest_eq : blockBytes ((ts, len, dir) :: rest) = len + blockBytes rest := rfl
      obtain ⟨closed, final, blocks_eq, loop_eq⟩ :=
        @inductionHypothesis [] (ts, len, dir) (List.isChain_singleton _) (by
          rw [List.nil_append, rest_eq]
          omega)
      have unrelated : ∀ previous ∈ (before ++ [last]).getLast?,
          sameChunk previous (ts, len, dir) = false := by
        intro previous previous_eq
        rw [List.getLast?_concat] at previous_eq
        obtain rfl := Option.some.inj previous_eq
        exact breaks
      have nonempty : before ++ [last] ≠ [] :=
        List.append_ne_nil_of_right_ne_nil _ (List.cons_ne_nil _ _)
      rw [List.nil_append] at blocks_eq
      refine ⟨(before ++ [last]) :: closed, final, ?_, ?_⟩
      · rw [whole, List.splitBy_append_cons rest unrelated,
          List.splitBy_of_isChain nonempty chained, blocks_eq]
        rfl
      · have start_eq : u64 (0 + len) = blockBytes ([] ++ [(ts, len, dir)]) :=
          (congrArg u64 (Nat.zero_add len)).trans (u64_of_lt (by omega))
        rw [chunkLoop, if_pos ((chunk_cut_iff last (ts, len, dir)).mpr breaks), start_eq, loop_eq]
        rfl

/-! ### The values -/

/-- The values for some blocks: the bytes of each, without a last block of none. -/
def writtenBlocks (blocks : List (List (Nat × Nat × Int))) : List Nat :=
  if (blocks.map blockBytes).getLast? = some 0 then (blocks.map blockBytes).dropLast
  else blocks.map blockBytes

theorem chunkValues_eq {packets : List (Nat × Nat × Int)} (small : blockBytes packets < 2 ^ 64) :
    chunkValues packets = writtenBlocks (packets.splitBy sameChunk) := by
  cases packets with
  | nil => rfl
  | cons first rest =>
    obtain ⟨ts, len, dir⟩ := first
    obtain ⟨closed, final, blocks_eq, loop_eq⟩ :=
      @chunkLoop_eq rest [] (ts, len, dir) (List.isChain_singleton _) small
    rw [List.nil_append] at blocks_eq
    have loop : chunkLoop rest ts dir len = (closed.map blockBytes, blockBytes final) := loop_eq
    rw [chunkValues, loop, blocks_eq, writtenBlocks, List.map_append, List.map_singleton,
      List.getLast?_concat, List.dropLast_concat]
    by_cases bytes : blockBytes final = 0
    · rw [bytes, if_neg (Nat.lt_irrefl 0), if_pos rfl]
    · rw [if_pos (Nat.pos_of_ne_zero bytes),
        if_neg fun none_left => bytes (Option.some.inj none_left)]

/-- Leaving out a last block of no bytes does not change the sum. -/
theorem sum_writtenBlocks (blocks : List (List (Nat × Nat × Int))) :
    (writtenBlocks blocks).sum = blockBytes blocks.flatten := by
  rw [← sum_map_blockBytes, writtenBlocks]
  split
  · rename_i last_eq
    obtain ⟨closed, closed_eq⟩ := List.getLast?_eq_some_iff.mp last_eq
    rw [closed_eq, List.dropLast_concat, List.sum_append, List.sum_singleton, Nat.add_zero]
  · rfl

theorem length_writtenBlocks_le (blocks : List (List (Nat × Nat × Int))) :
    (writtenBlocks blocks).length ≤ blocks.length := by
  rw [writtenBlocks]
  split
  · rw [List.length_dropLast, List.length_map]
    exact Nat.sub_le _ _
  · rw [List.length_map]

/-! ### The features -/

/-- The packets of three sequences of one length have the bytes of the lengths. -/
theorem blockBytes_zip {tsSeq lens : List Nat} {dirs : List Int}
    (lens_length : lens.length = tsSeq.length) (dirs_length : dirs.length = tsSeq.length) :
    blockBytes (tsSeq.zip (lens.zip dirs)) = lens.sum := by
  have parts : (tsSeq.zip (lens.zip dirs)).map (fun packet => packet.2.1) =
      ((tsSeq.zip (lens.zip dirs)).map Prod.snd).map Prod.fst := (List.map_map).symm
  rw [blockBytes, parts, List.map_snd_zip (by rw [List.length_zip]; omega),
    List.map_fst_zip (by omega)]

end TiFeatures
