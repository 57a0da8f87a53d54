import Mathlib.Data.List.Basic

set_option autoImplicit false

/-! # Chunks of a file

A file is written piece by piece, each piece at an offset. Writing past the end of a file fills the gap. If every
piece is a fragment of one text, the file agrees with the text wherever a piece was written, whatever the order of
the pieces and wherever they overlap (`getElem?_assemble`), and it is the text if the pieces cover it
(`assemble_eq`). -/

namespace Chunks

variable {α : Type*}

/-- Write `data` into `file` at `offset`. -/
def writeAt (zero : α) (file : List α) (offset : ℕ) (data : List α) : List α :=
  if data.isEmpty then file
  else file.take offset ++ List.replicate (offset - file.length) zero ++ data ++ file.drop (offset + data.length)

theorem getElem?_writeAt (zero : α) (file : List α) (offset : ℕ) (data : List α) (i : ℕ) :
    (writeAt zero file offset data)[i]? =
      if offset ≤ i ∧ i < offset + data.length then data[i - offset]?
      else if i < file.length then file[i]?
      else if i < offset ∧ data ≠ [] then some zero else none := by
  unfold writeAt
  cases data with
  | nil =>
      simp only [List.isEmpty_nil, if_true, List.length_nil, Nat.add_zero, ne_eq, not_true_eq_false, and_false,
        if_false]
      rw [if_neg (by omega)]
      split
      · rfl
      · next hi => exact List.getElem?_eq_none (Nat.le_of_not_lt hi)
  | cons a data =>
      -- the kept part and the gap together are as long as the offset
      have hpad : (file.take offset ++ List.replicate (offset - file.length) zero).length = offset := by
        rw [List.length_append, List.length_take, List.length_replicate]
        omega
      simp only [List.isEmpty_cons, Bool.false_eq_true, if_false, ne_eq, reduceCtorEq, not_false_eq_true, and_true]
      rcases Nat.lt_or_ge i offset with hlt | hge
      · rw [if_neg (by omega), List.append_assoc, List.getElem?_append_left (by omega)]
        rcases Nat.lt_or_ge i file.length with hfile | hfile
        · rw [if_pos hfile, List.getElem?_append_left (by rw [List.length_take]; omega), List.getElem?_take_of_lt hlt]
        · rw [if_neg (by omega), if_pos hlt, List.getElem?_append_right (by rw [List.length_take]; omega),
            List.getElem?_replicate, if_pos (by rw [List.length_take]; omega)]
      · rcases Nat.lt_or_ge i (offset + (a :: data).length) with hin | hout
        · rw [if_pos ⟨hge, hin⟩, List.append_assoc, List.getElem?_append_right (by omega), hpad,
            List.getElem?_append_left (by omega)]
        · rw [if_neg (by omega), List.getElem?_append_right (by rw [List.length_append]; omega), List.length_append,
            hpad, List.getElem?_drop, Nat.add_sub_cancel' hout, if_neg (by omega : ¬ i < offset)]
          split
          · rfl
          · next hi => exact List.getElem?_eq_none (Nat.le_of_not_lt hi)

/-- `data` is what `text` has at `offset`. -/
def IsFragment (text : List α) (offset : ℕ) (data : List α) : Prop :=
  ∀ i < data.length, text[offset + i]? = data[i]?

instance [DecidableEq α] (text : List α) (offset : ℕ) (data : List α) : Decidable (IsFragment text offset data) :=
  inferInstanceAs (Decidable (∀ i < data.length, text[offset + i]? = data[i]?))

theorem IsFragment.offset_lt {text : List α} {offset : ℕ} {data : List α} (h : IsFragment text offset data)
    (hdata : data ≠ []) : offset < text.length := by
  have hpos := List.length_pos_of_ne_nil hdata
  have hfirst := h 0 hpos
  rw [Nat.add_zero, List.getElem?_eq_getElem hpos] at hfirst
  exact (List.getElem?_eq_some_iff.1 hfirst).1

/-- Write the chunks, each an offset with its data, one after the other. -/
def assemble (zero : α) (file : List α) (chunks : List (ℕ × List α)) : List α :=
  chunks.foldl (fun file chunk => writeAt zero file chunk.1 chunk.2) file

/-- One of the chunks has a position. -/
def Covers (chunks : List (ℕ × List α)) (i : ℕ) : Prop :=
  ∃ chunk ∈ chunks, chunk.1 ≤ i ∧ i < chunk.1 + chunk.2.length

instance (chunks : List (ℕ × List α)) (i : ℕ) : Decidable (Covers chunks i) :=
  inferInstanceAs (Decidable (∃ chunk ∈ chunks, chunk.1 ≤ i ∧ i < chunk.1 + chunk.2.length))

/-- **Fragments of a text** leave the text wherever they are written, and change no position at which the file
    agrees with it. -/
theorem getElem?_assemble {zero : α} {text file : List α} {chunks : List (ℕ × List α)}
    (hchunks : ∀ chunk ∈ chunks, IsFragment text chunk.1 chunk.2) {i : ℕ}
    (hi : Covers chunks i ∨ file[i]? = text[i]?) : (assemble zero file chunks)[i]? = text[i]? := by
  unfold assemble
  induction chunks generalizing file with
  | nil =>
      rcases hi with ⟨chunk, hmem, -⟩ | hi
      · cases hmem
      · exact hi
  | cons chunk chunks ih =>
      rw [List.forall_mem_cons] at hchunks
      refine ih hchunks.2 ?_
      by_cases hcovered : Covers chunks i
      · exact .inl hcovered
      · -- the first chunk is the last one that can write the position
        refine .inr ?_
        rw [getElem?_writeAt]
        split
        · next hin =>
            have hfragment := hchunks.1 (i - chunk.1) (by omega)
            rwa [Nat.add_sub_cancel' hin.1, eq_comm] at hfragment
        · next hout =>
            have hfile : file[i]? = text[i]? := by
              rcases hi with ⟨chunk', hmem, hin⟩ | hi
              · rcases List.mem_cons.1 hmem with rfl | hmem
                · exact absurd hin hout
                · exact absurd ⟨chunk', hmem, hin⟩ hcovered
              · exact hi
            split
            · exact hfile
            · next hlength =>
                rw [List.getElem?_eq_none (Nat.le_of_not_lt hlength)] at hfile
                have hend := List.getElem?_eq_none_iff.1 hfile.symm
                rw [if_neg, hfile]
                rintro ⟨hoffset, hdata⟩
                have := hchunks.1.offset_lt hdata
                omega

/-- Chunks that cover a text make it. -/
theorem assemble_eq {zero : α} {text : List α} {chunks : List (ℕ × List α)}
    (hchunks : ∀ chunk ∈ chunks, IsFragment text chunk.1 chunk.2)
    (hcovers : ∀ i < text.length, Covers chunks i) : assemble zero [] chunks = text := by
  refine List.ext_getElem? fun i => getElem?_assemble hchunks ?_
  by_cases hi : i < text.length
  · exact .inl (hcovers i hi)
  · refine .inr ?_
    rw [List.getElem?_eq_none (Nat.le_of_not_lt hi)]
    rfl

end Chunks
