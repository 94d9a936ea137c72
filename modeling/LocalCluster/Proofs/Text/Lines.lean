import LocalCluster.Text.Lines
import Mathlib.Data.List.Forall2

/-!
# Pieces and lines of a text

The pieces of a text are what stands between its line feeds, and the lines are the pieces without
the carriage returns at their ends. A feed at the end of the text begins no line, and a text of
nothing, with or without such a feed, has none.

* `split_between`, **`split_join`**: what is put together with a separator is split apart again;
  `of_mem_splitOn`: what pieces hold.
* `withoutReturn`; `dropReturn_cases`: a piece is its line, or that with a return after it.
* **`lines_append_feed`**: the lines of a text with a feed at its end, by its pieces.
* **`lines_of_open`**: the feed at the end may be missing.
-/

namespace LocalCluster.Text

/-! ## Pieces -/

theorem split_singleton {c : Char} {s : String} (h : c ∉ s.toList) : split c s = [s] := by
  simp [split, List.splitOn_eq_singleton h]

theorem split_between (c : Char) (s rest : String) :
    split c (s ++ String.singleton c ++ rest) = split c s ++ split c rest := by
  have hsplit : (s.toList ++ c :: rest.toList).splitOn c =
      s.toList.splitOn c ++ rest.toList.splitOn c :=
    List.splitOnP_append_cons s.toList rest.toList (beq_self_eq_true c)
  simp [split, hsplit]

theorem split_append {c : Char} {s rest : String} (h : c ∉ s.toList) :
    split c (s ++ String.singleton c ++ rest) = s :: split c rest := by
  rw [split_between, split_singleton h, List.singleton_append]

theorem split_field {c : Char} {a b : String} (ha : c ∉ a.toList) (hb : c ∉ b.toList) :
    split c (a ++ String.singleton c ++ b) = [a, b] := by
  rw [split_append ha, split_singleton hb]

/-- **What is joined is split into the pieces of its parts**, in order. -/
theorem split_join {c : Char} {xs : List String} (hne : xs ≠ []) :
    split c (join (String.singleton c) xs) = xs.flatMap (split c) := by
  induction xs with
  | nil => exact absurd rfl hne
  | cons s rest ih =>
    cases rest with
    | nil => simp [join]
    | cons r rest =>
      rw [join_cons_cons, split_between, ih (List.cons_ne_nil _ _)]
      exact List.flatMap_cons.symm

theorem flatMap_split {c : Char} {xs : List String} (h : ∀ s ∈ xs, c ∉ s.toList) :
    xs.flatMap (split c) = xs := by
  rw [List.flatMap_congr fun s hs => split_singleton (h s hs)]
  exact List.flatMap_singleton' xs

theorem of_mem_splitOn {c ch : Char} {xs piece : List Char} (hpiece : piece ∈ xs.splitOn c)
    (hch : ch ∈ piece) : ch ∈ xs ∧ ch ≠ c := by
  rw [List.splitOn_eq_splitOnP] at hpiece
  induction xs generalizing piece with
  | nil =>
    rw [List.splitOnP_nil, List.mem_singleton] at hpiece
    simp [hpiece] at hch
  | cons x xs ih =>
    obtain ⟨first, rest, hsplit⟩ := List.exists_cons_of_ne_nil (List.splitOnP_ne_nil (· == c) xs)
    have hpieces : ∀ other ∈ first :: rest, ch ∈ other → ch ∈ x :: xs ∧ ch ≠ c :=
      fun other ho hc => (ih (hsplit ▸ ho) hc).imp_left (List.mem_cons_of_mem x)
    rw [List.splitOnP_cons_eq_if_modifyHead, hsplit] at hpiece
    split at hpiece
    · rcases List.mem_cons.1 hpiece with rfl | hpiece
      · cases hch
      · exact hpieces piece hpiece hch
    · next hx =>
      rw [List.modifyHead_cons] at hpiece
      rcases List.mem_cons.1 hpiece with rfl | hpiece
      · rcases List.mem_cons.1 hch with rfl | hch
        · exact ⟨List.mem_cons_self, by simpa using hx⟩
        · exact hpieces first List.mem_cons_self hch
      · exact hpieces piece (List.mem_cons_of_mem first hpiece) hch

theorem mem_of_mem_split {c ch : Char} {s piece : String} (hpiece : piece ∈ split c s)
    (hch : ch ∈ piece.toList) : ch ∈ s.toList := by
  obtain ⟨cs, hcs, rfl⟩ := List.mem_map.1 hpiece
  rw [String.toList_ofList] at hch
  exact (of_mem_splitOn hcs hch).1

/-! ## Carriage returns -/

theorem dropReturn_append (line : List Char) : dropReturn (line ++ ['\r']) = line := by
  rw [dropReturn, stripSuffix_append]
  rfl

theorem dropReturn_cases (piece : List Char) :
    piece = dropReturn piece ++ ['\r'] ∨
      piece.getLast? ≠ some '\r' ∧ dropReturn piece = piece := by
  by_cases h : piece.getLast? = some '\r'
  · obtain ⟨line, rfl⟩ := List.getLast?_eq_some_iff.1 h
    exact .inl (by rw [dropReturn_append])
  · refine .inr ⟨h, ?_⟩
    unfold dropReturn
    cases hs : stripSuffix ['\r'] piece with
    | none => rfl
    | some line => exact absurd (by simp [stripSuffix_eq_some hs]) h

theorem mem_of_mem_dropReturn {ch : Char} {piece : List Char} (h : ch ∈ dropReturn piece) :
    ch ∈ piece := by
  rcases dropReturn_cases piece with heq | ⟨-, heq⟩
  · rw [heq]
    exact List.mem_append_left _ h
  · rwa [heq] at h

/-- A text without a carriage return at its end. -/
def withoutReturn (s : String) : String := String.ofList (dropReturn s.toList)

@[simp] theorem withoutReturn_append (l : String) : withoutReturn (l ++ "\r") = l := by
  simp [withoutReturn, dropReturn_append]

theorem withoutReturn_of_last {l : String} (h : l.toList.getLast? ≠ some '\r') :
    withoutReturn l = l := by
  rcases dropReturn_cases l.toList with heq | ⟨-, heq⟩
  · exact absurd (by rw [heq, List.getLast?_concat]) h
  · rw [withoutReturn, heq, String.ofList_toList]

/-! ## Lines -/

theorem linesOfBytes_encode (s : String) : linesOfBytes (encode s) = lines s := by
  rw [linesOfBytes, encode, decodeLossyChars_encodeChars, lines]

/-- **The lines of a text with a feed at its end** are its pieces without returns, unless there is
nothing before the feed. -/
theorem lines_append_feed (s : String) :
    lines (s ++ "\n") = if s = "" then [] else (split '\n' s).map withoutReturn := by
  have hfeed : (s ++ "\n").toList = s.toList ++ ['\n'] := by simp
  unfold lines lineChars
  rw [hfeed, stripSuffix_append]
  by_cases hs : s = ""
  · simp [hs]
  · have hne : s.toList.isEmpty = false := by simpa using hs
    simp [hs, hne, split, withoutReturn]

/-- **The feed at the end may be missing**, unless the text ends in another one. -/
theorem lines_of_open {s : String} (h : s.toList.getLast? ≠ some '\n') :
    lines s = lines (s ++ "\n") := by
  have hfeed : (s ++ "\n").toList = s.toList ++ ['\n'] := by simp
  have hopen : stripSuffix ['\n'] s.toList = none := by
    cases hs : stripSuffix ['\n'] s.toList with
    | none => rfl
    | some body => exact absurd (by simp [stripSuffix_eq_some hs]) h
  unfold lines lineChars
  rw [hfeed, stripSuffix_append, hopen]
  rfl

theorem feed_not_mem_of_mem_linesOfBytes {bs : Bytes} {l : String} (hl : l ∈ linesOfBytes bs) :
    '\n' ∉ l.toList := by
  intro hfeed
  obtain ⟨cs, hcs, rfl⟩ := List.mem_map.1 hl
  rw [String.toList_ofList] at hfeed
  unfold lineChars at hcs
  dsimp only at hcs
  split at hcs
  · cases hcs
  · obtain ⟨piece, hpiece, rfl⟩ := List.mem_map.1 hcs
    exact (of_mem_splitOn hpiece (mem_of_mem_dropReturn hfeed)).2 rfl

end LocalCluster.Text
