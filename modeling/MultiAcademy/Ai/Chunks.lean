import MultiAcademy.Control.BlockImport

/-!
# The chunks of a document

`_chunk_text` of `services/ingestion.py` cuts a text into windows, each of which starts before the
end of the one before it, but at least a character later, and trims them.
-/

namespace MultiAcademy.Ai

open MultiAcademy.Control

/-- `"\n".join(line.strip() for line in text.splitlines() if line.strip())`. -/
def normalized (text : List Char) : List Char :=
  ['\n'].intercalate (((splitlines text).map stripText).filter (· ≠ []))

/-- The windows of the loop, from `start`. -/
def windows (length chunkSize overlap start : ℕ) : List (ℕ × ℕ) :=
  if start < length then
    let stop := min length (start + chunkSize)
    (start, stop) ::
      if length ≤ stop then []
      else windows length chunkSize overlap (max (stop - overlap) (start + 1))
  else []
termination_by length - start

/-- `text[start:stop]`. -/
def slice (text : List Char) (start stop : ℕ) : List Char := (text.take stop).drop start

/-- `_chunk_text`. -/
def chunkText (text : List Char) (chunkSize overlap : ℕ) : List (List Char) :=
  let normalized := normalized text
  if normalized.length ≤ chunkSize then if normalized = [] then [] else [normalized]
  else
    ((windows normalized.length chunkSize overlap 0).map fun w =>
      stripText (slice normalized w.1 w.2)).filter (· ≠ [])

/-- The chunks, each with the `start` that it is cut at. -/
def startedChunks (text : List Char) (chunkSize overlap : ℕ) : List (ℕ × List Char) :=
  let normalized := normalized text
  (if normalized.length ≤ chunkSize then [(0, normalized)]
    else (windows normalized.length chunkSize overlap 0).map fun w =>
      (w.1, stripText (slice normalized w.1 w.2))).filter (·.2 ≠ [])

/-- **The chunks cover a text.** -/
structure Covers (text : List Char) (chunkSize : ℕ) (chunks : List (ℕ × List Char)) : Prop where
  size : ∀ chunk ∈ chunks, chunk.2.length ≤ chunkSize
  substring : ∀ chunk ∈ chunks, chunk.2 <:+: text.drop chunk.1
  starts : chunks.Pairwise fun a b => a.1 < b.1
  /-- The character at `i` is in a chunk, which is at `place`. -/
  covered : ∀ i c, text[i]? = some c → isBlank c = false →
    ∃ chunk ∈ chunks, ∃ place, chunk.1 ≤ place ∧ place ≤ i ∧ i < place + chunk.2.length
      ∧ chunk.2 <+: text.drop place

section Windows
variable {length chunkSize overlap start : ℕ}

theorem windows_bounds {w : ℕ × ℕ} (h : w ∈ windows length chunkSize overlap start) :
    start ≤ w.1 ∧ w.2 = min length (w.1 + chunkSize) := by
  fun_induction windows length chunkSize overlap start with
  | case1 start hlt stop ih =>
    rcases List.mem_cons.1 h with rfl | h
    · exact ⟨le_rfl, rfl⟩
    split at h
    · cases h
    obtain ⟨hstart, hstop⟩ := ih h
    exact ⟨by omega, hstop⟩
  | case2 start hge => cases h

theorem windows_pairwise :
    (windows length chunkSize overlap start).Pairwise fun a b => a.1 < b.1 := by
  fun_induction windows length chunkSize overlap start with
  | case1 start hlt stop ih =>
    refine List.pairwise_cons.2 ⟨fun w hw => ?_, ?_⟩
    · split at hw
      · cases hw
      have hstart := (windows_bounds hw).1
      dsimp only
      omega
    split
    · exact .nil
    · exact ih
  | case2 start hge => exact .nil

/-- The windows leave no gap. -/
theorem windows_cover (hsize : 0 < chunkSize) {i : ℕ} (hstart : start ≤ i) (hi : i < length) :
    ∃ w ∈ windows length chunkSize overlap start, w.1 ≤ i ∧ i < w.2 := by
  fun_induction windows length chunkSize overlap start with
  | case1 start hlt stop ih =>
    by_cases hstop : i < stop
    · exact ⟨_, List.mem_cons_self, hstart, hstop⟩
    rw [if_neg (by omega)]
    obtain ⟨w, hw, hin⟩ := ih (by omega)
    exact ⟨w, List.mem_cons_of_mem _ hw, hin⟩
  | case2 start hge => omega

end Windows

theorem stripText_spec (cs : List Char) : ∃ before after, cs = before ++ stripText cs ++ after
    ∧ (∀ c ∈ before, isBlank c = true) ∧ ∀ c ∈ after, isBlank c = true := by
  refine ⟨cs.takeWhile isBlank, ((cs.dropWhile isBlank).reverse.takeWhile isBlank).reverse, ?_,
    fun c hc => List.mem_takeWhile_imp hc,
    fun c hc => List.mem_takeWhile_imp (List.mem_reverse.1 hc)⟩
  rw [stripText, List.append_assoc, ← List.reverse_append, List.takeWhile_append_dropWhile,
    List.reverse_reverse, List.takeWhile_append_dropWhile]

/-- A trimmed slice has every character of the slice that is not blank. -/
theorem stripText_slice {text : List Char} {start stop i : ℕ} {c : Char} (hstart : start ≤ i)
    (hstop : i < stop) (hc : text[i]? = some c) (hblank : isBlank c = false) :
    ∃ place, start ≤ place ∧ place ≤ i ∧ i < place + (stripText (slice text start stop)).length
      ∧ stripText (slice text start stop) <+: text.drop place := by
  obtain ⟨before, after, hslice, hbefore, hafter⟩ := stripText_spec (slice text start stop)
  generalize stripText (slice text start stop) = chunk at *
  have hat : (before ++ chunk ++ after)[i - start]? = some c := by
    rw [← hslice, slice, List.getElem?_drop, Nat.add_sub_cancel' hstart, List.getElem?_take,
      if_pos hstop, hc]
  have hnot : ∀ l : List Char, (∀ c ∈ l, isBlank c = true) → ∀ j : ℕ, l[j]? ≠ some c := by
    intro l hl j hj
    simp [hl c (List.mem_of_getElem? hj)] at hblank
  refine ⟨start + before.length, by omega, ?_, ?_, ?_⟩
  · by_contra hlt
    rw [List.append_assoc, List.getElem?_append_left (by omega)] at hat
    exact hnot _ hbefore _ hat
  · by_contra hge
    rw [List.getElem?_append_right (by simp; omega)] at hat
    exact hnot _ hafter _ hat
  rw [← List.drop_drop]
  have hprefix : before ++ (chunk ++ after) <+: text.drop start := by
    rw [← List.append_assoc, ← hslice, slice, List.drop_take]
    exact List.take_prefix _ _
  obtain ⟨rest, hrest⟩ := hprefix
  refine ⟨after ++ rest, ?_⟩
  rw [← hrest]
  simp

theorem chunkText_eq (text : List Char) (chunkSize overlap : ℕ) :
    chunkText text chunkSize overlap = (startedChunks text chunkSize overlap).map Prod.snd := by
  simp only [chunkText, startedChunks]
  split
  · by_cases hempty : normalized text = [] <;> simp [hempty]
  rw [List.filter_map, List.filter_map, List.map_map]
  rfl

/-- **The chunks of a text cover it**, for every size and every overlap. -/
theorem chunk_text_covers (text : List Char) (chunkSize : ℕ+) (overlap : ℕ) :
    chunkText text chunkSize overlap = (startedChunks text chunkSize overlap).map Prod.snd
      ∧ Covers (normalized text) chunkSize (startedChunks text chunkSize overlap) := by
  refine ⟨chunkText_eq .., ?_⟩
  unfold startedChunks
  dsimp only
  split
  · rename_i hshort
    refine ⟨?_, ?_, (List.pairwise_singleton _ _).filter _, ?_⟩
    · intro chunk hchunk
      obtain rfl := List.mem_singleton.1 (List.mem_of_mem_filter hchunk)
      exact hshort
    · intro chunk hchunk
      obtain rfl := List.mem_singleton.1 (List.mem_of_mem_filter hchunk)
      exact List.prefix_rfl.isInfix
    intro i c hc _
    obtain ⟨hi, -⟩ := List.getElem?_eq_some_iff.1 hc
    have hne : normalized text ≠ [] := List.ne_nil_of_length_pos (by omega)
    exact ⟨_, List.mem_filter.2 ⟨List.mem_singleton_self _, decide_eq_true hne⟩, 0, le_rfl,
      Nat.zero_le _, by simpa using hi, List.prefix_rfl⟩
  refine ⟨?_, ?_, ?_, ?_⟩
  · intro chunk hchunk
    obtain ⟨w, hw, rfl⟩ := List.mem_map.1 (List.mem_of_mem_filter hchunk)
    obtain ⟨before, after, hslice, -⟩ := stripText_spec (slice (normalized text) w.1 w.2)
    have hlength := congrArg List.length hslice
    simp only [slice, List.length_append, List.length_drop, List.length_take] at hlength
    have hstop := (windows_bounds hw).2
    simp only [slice]
    omega
  · intro chunk hchunk
    obtain ⟨w, hw, rfl⟩ := List.mem_map.1 (List.mem_of_mem_filter hchunk)
    obtain ⟨before, after, hslice, -⟩ := stripText_spec (slice (normalized text) w.1 w.2)
    have hinfix : stripText (slice (normalized text) w.1 w.2)
        <:+: slice (normalized text) w.1 w.2 := ⟨before, after, hslice.symm⟩
    have hslice' : slice (normalized text) w.1 w.2 <+: (normalized text).drop w.1 := by
      rw [slice, List.drop_take]
      exact List.take_prefix _ _
    exact hinfix.trans hslice'.isInfix
  · refine List.Pairwise.filter _ (List.pairwise_map.2 ?_)
    exact windows_pairwise
  intro i c hc hblank
  obtain ⟨hi, -⟩ := List.getElem?_eq_some_iff.1 hc
  obtain ⟨w, hw, hstart, hstop⟩ := windows_cover chunkSize.pos (Nat.zero_le i) hi
  obtain ⟨place, hplace, hle, hlt, hprefix⟩ := stripText_slice hstart hstop hc hblank
  refine ⟨_, List.mem_filter.2 ⟨List.mem_map_of_mem hw, ?_⟩, place, hplace, hle, hlt, hprefix⟩
  have hne : stripText (slice (normalized text) w.1 w.2) ≠ [] :=
    List.ne_nil_of_length_pos (by omega)
  exact decide_eq_true hne

end MultiAcademy.Ai
