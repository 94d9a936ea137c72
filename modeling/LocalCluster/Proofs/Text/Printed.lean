import LocalCluster.Proofs.Text.Lines

/-!
# Printed lines are read back

A line is ended by a feed, or by a return and a feed, and the end of the last one may be missing.

* `toList_printLines`: printed lines as characters; `printLines_eq_join`: with ends between them.
* `split_printLines`: what is printed in lines is split apart again.
* **`lines_printLines`**: the lines of whatever is printed with feeds.
* `IsLine`: texts that are told from the ends of their lines; **`lines_printLines_feeds`**,
  **`lines_printLines_returns`**: they are read back; **`lines_of_unended`**: also without the last
  end.
* `linesOfBytes_printLines`: so are texts that are not empty and hold no line end;
  `mem_linesOfBytes_printLines`: such a text is read back among others.
* `mapM_eq_ok_iff`, `exists_error_of_mapM`, `mapM_eq_some_iff`: items that are read one after
  another.
-/

namespace LocalCluster.Text

variable {ls : List String}

/-! ## Printing -/

theorem toList_printLines (stop : String) (ls : List String) :
    (printLines stop ls).toList = ls.flatMap fun l => l.toList ++ stop.toList := by
  induction ls with
  | nil => rfl
  | cons l rest ih =>
    rw [List.flatMap_cons, ← ih]
    simp [printLines]

theorem exists_of_mem_printLines {stop : String} {ch : Char}
    (h : ch ∈ (printLines stop ls).toList) : ∃ l ∈ ls, ch ∈ l.toList ∨ ch ∈ stop.toList := by
  rw [toList_printLines, List.mem_flatMap] at h
  simpa using h

theorem printLines_concat (stop : String) (init : List String) (last : String) :
    printLines stop (init ++ [last]) = printLines stop init ++ last ++ stop := by
  apply String.toList_injective
  simp [toList_printLines]

theorem printLines_eq_join {stop : String} (hne : ls ≠ []) :
    printLines stop ls = join stop ls ++ stop := by
  induction ls with
  | nil => exact absurd rfl hne
  | cons l rest ih =>
    cases rest with
    | nil => simp [printLines, join]
    | cons r rest =>
      change l ++ stop ++ printLines stop (r :: rest) = _
      rw [ih (List.cons_ne_nil _ _), join_cons_cons, String.append_assoc, String.append_assoc,
        String.append_assoc]

theorem printLines_returns (ls : List String) :
    printLines "\r\n" ls = printLines "\n" (ls.map (· ++ "\r")) := by
  apply String.toList_injective
  simp [toList_printLines, List.flatMap_map]

/-- **Printed lines are split apart again**, and nothing stands after the last one. -/
theorem split_printLines (h : ∀ l ∈ ls, '\n' ∉ l.toList) :
    split '\n' (printLines "\n" ls) = ls ++ [""] := by
  induction ls with
  | nil => rfl
  | cons l rest ih =>
    have hrest := ih fun other ho => h other (List.mem_cons_of_mem l ho)
    change split '\n' (l ++ String.singleton '\n' ++ printLines "\n" rest) = _
    rw [split_append (h l List.mem_cons_self), hrest]
    rfl

/-! ## Reading -/

/-- **The lines of what is printed** are the pieces of what was to be printed, without the returns
at their ends. A feed alone is no line. -/
theorem lines_printLines (ls : List String) : lines (printLines "\n" ls) =
    if ls = [""] then [] else (ls.flatMap (split '\n')).map withoutReturn := by
  by_cases hne : ls = []
  · subst hne
    rfl
  have hempty : join "\n" ls = "" ↔ ls = [""] := by
    obtain ⟨l, rest, rfl⟩ := List.exists_cons_of_ne_nil hne
    cases rest <;> simp [join]
  have hsplit : split '\n' (join "\n" ls) = ls.flatMap (split '\n') := split_join hne
  rw [printLines_eq_join hne, lines_append_feed, hsplit]
  simp only [hempty]

theorem lines_printLines_of_unbroken (h : ∀ l ∈ ls, '\n' ∉ l.toList) :
    lines (printLines "\n" ls) = if ls = [""] then [] else ls.map withoutReturn := by
  rw [lines_printLines, flatMap_split h]

/-- A text that is told from the end of its line: no feed stands in it, and no return at its
end. -/
structure IsLine (l : String) : Prop where
  unbroken : '\n' ∉ l.toList
  bare : l.toList.getLast? ≠ some '\r'

instance : DecidablePred IsLine := fun l =>
  decidable_of_iff ('\n' ∉ l.toList ∧ l.toList.getLast? ≠ some '\r')
    ⟨fun h => ⟨h.1, h.2⟩, fun h => ⟨h.unbroken, h.bare⟩⟩

theorem map_withoutReturn (h : ∀ l ∈ ls, IsLine l) : ls.map withoutReturn = ls :=
  (List.map_congr_left fun l hl => withoutReturn_of_last (h l hl).bare).trans (List.map_id' ls)

/-- **Lines that end in feeds are read back**, but a feed alone is no line. -/
theorem lines_printLines_feeds (h : ∀ l ∈ ls, IsLine l) :
    lines (printLines "\n" ls) = if ls = [""] then [] else ls := by
  rw [lines_printLines_of_unbroken fun l hl => (h l hl).unbroken, map_withoutReturn h]

theorem lines_returns_append {others : List String} (h : ∀ l ∈ ls ++ others, IsLine l)
    (hne : others ≠ [""]) :
    lines (printLines "\n" (ls.map (· ++ "\r") ++ others)) = ls ++ others := by
  have hbroken : ∀ l ∈ ls.map (· ++ "\r") ++ others, '\n' ∉ l.toList := by
    intro l hl
    rcases List.mem_append.1 hl with hl | hl
    · obtain ⟨line, hline, rfl⟩ := List.mem_map.1 hl
      simpa using (h line (List.mem_append_left _ hline)).unbroken
    · exact (h l (List.mem_append_right _ hl)).unbroken
  have hsome : ls.map (· ++ "\r") ++ others ≠ [""] := by
    cases ls <;> simp [hne]
  have hothers := map_withoutReturn fun l hl => h l (List.mem_append_right ls hl)
  rw [lines_printLines_of_unbroken hbroken, if_neg hsome, List.map_append, List.map_map, hothers]
  simp [Function.comp_def]

/-- **Lines that end in returns and feeds are read back**, whatever they are. -/
theorem lines_printLines_returns (h : ∀ l ∈ ls, IsLine l) :
    lines (printLines "\r\n" ls) = ls := by
  have hread : lines (printLines "\n" (ls.map (· ++ "\r") ++ [])) = ls ++ [] :=
    lines_returns_append (by simpa using h) (by simp)
  rwa [List.append_nil, List.append_nil, ← printLines_returns] at hread

/-- **The end of the last line may be missing**, if something stands in that line. -/
theorem lines_of_unended {stop text : String} (h : ∀ l ∈ ls, IsLine l)
    (hstop : stop ∈ ["\n", "\r\n"]) (htext : printLines stop ls = text ++ stop)
    (hlast : ls.getLast? ≠ some "") : lines text = lines (printLines stop ls) := by
  rcases List.eq_nil_or_concat ls with rfl | ⟨init, last, rfl⟩
  · have hnone : text = "" ∧ stop = "" := by simpa [printLines] using htext
    simp [hnone.2] at hstop
  rw [List.concat_eq_append] at h hlast htext ⊢
  have hne : last.toList ≠ [] := by simpa using hlast
  obtain rfl : printLines stop init ++ last = text := by
    rwa [printLines_concat, String.append_left_inj] at htext
  have hopen : (printLines stop init ++ last).toList.getLast? ≠ some '\n' := by
    intro hfeed
    rw [String.toList_append, List.getLast?_append_of_ne_nil _ hne] at hfeed
    exact (h last (by simp)).unbroken (List.mem_of_getLast? hfeed)
  rw [lines_of_open hopen]
  rcases List.mem_pair.1 hstop with rfl | rfl
  · rw [htext]
  · rw [lines_printLines_returns h, printLines_returns, ← printLines_concat]
    exact lines_returns_append h (by simpa using hne)

theorem linesOfBytes_printLines
    (h : ∀ l ∈ ls, l ≠ "" ∧ '\n' ∉ l.toList ∧ '\r' ∉ l.toList) :
    linesOfBytes (encode (printLines "\n" ls)) = ls := by
  have hlines : ∀ l ∈ ls, IsLine l := fun l hl =>
    ⟨(h l hl).2.1, fun hreturn => (h l hl).2.2 (List.mem_of_getLast? hreturn)⟩
  have hne : ls ≠ [""] := by
    rintro rfl
    exact (h "" List.mem_cons_self).1 rfl
  rw [linesOfBytes_encode, lines_printLines_feeds hlines, if_neg hne]

/-- A text that is not empty and holds no line end is read back, whatever is printed before it and
after it. -/
theorem mem_linesOfBytes_printLines {l : String} (hl : l ∈ ls) (hne : l ≠ "")
    (hfeed : '\n' ∉ l.toList) (hreturn : '\r' ∉ l.toList) :
    l ∈ linesOfBytes (encode (printLines "\n" ls)) := by
  have hsome : ls ≠ [""] := by
    rintro rfl
    exact hne (List.mem_singleton.1 hl)
  have hpiece : l ∈ ls.flatMap (split '\n') :=
    List.mem_flatMap.2 ⟨l, hl, by rw [split_singleton hfeed]; exact List.mem_singleton_self l⟩
  rw [linesOfBytes_encode, lines_printLines, if_neg hsome]
  exact List.mem_map.2 ⟨l, hpiece,
    withoutReturn_of_last fun hlast => hreturn (List.mem_of_getLast? hlast)⟩

/-! ## Reading item by item -/

variable {α β ε : Type} {f : α → Except ε β} {xs : List α}

theorem mapM_eq_ok_iff {ys : List β} :
    xs.mapM f = .ok ys ↔ List.Forall₂ (fun x y => f x = .ok y) xs ys := by
  induction xs generalizing ys with
  | nil =>
    rw [List.mapM_nil, List.forall₂_nil_left_iff]
    exact ⟨fun h => (Except.ok.inj h).symm, fun h => congrArg Except.ok h.symm⟩
  | cons x xs ih =>
    rw [List.mapM_cons, List.forall₂_cons_left_iff]
    cases hx : f x with
    | error e => exact ⟨nofun, fun ⟨_, _, h, _⟩ => nomatch h⟩
    | ok y =>
      cases hxs : xs.mapM f with
      | error e =>
        refine ⟨nofun, fun ⟨_, rest, _, hrest, _⟩ => ?_⟩
        rw [ih.2 hrest] at hxs
        cases hxs
      | ok rest =>
        constructor
        · intro h
          exact ⟨y, rest, rfl, ih.1 hxs, (Except.ok.inj h).symm⟩
        · rintro ⟨z, others, hz, hothers, rfl⟩
          obtain rfl := Except.ok.inj hz
          obtain rfl := Except.ok.inj (hxs.symm.trans (ih.2 hothers))
          rfl

theorem exists_error_of_mapM {e : ε} (h : xs.mapM f = .error e) : ∃ x ∈ xs, f x = .error e := by
  induction xs with
  | nil => cases h
  | cons x xs ih =>
    rw [List.mapM_cons] at h
    cases hx : f x with
    | error e' =>
      rw [hx] at h
      obtain rfl := Except.error.inj h
      exact ⟨x, List.mem_cons_self, hx⟩
    | ok y =>
      rw [hx] at h
      cases hxs : xs.mapM f with
      | error e' =>
        obtain rfl : e' = e := by
          rw [hxs] at h
          exact Except.error.inj h
        obtain ⟨z, hz, hfault⟩ := ih hxs
        exact ⟨z, List.mem_cons_of_mem x hz, hfault⟩
      | ok rest =>
        rw [hxs] at h
        cases h

theorem mapM_eq_some_iff {g : α → Option β} {ys : List β} :
    xs.mapM g = some ys ↔ xs.map g = ys.map some := by
  induction xs generalizing ys with
  | nil => cases ys <;> simp
  | cons x xs ih =>
    cases ys with
    | nil => simp [Option.bind_eq_some_iff]
    | cons y ys =>
      rw [List.map_cons, List.map_cons, List.cons.injEq, ← ih]
      simp [Option.bind_eq_some_iff]

theorem exists_mem_of_forall₂ {R : α → β → Prop} {ys : List β} {y : β} (h : List.Forall₂ R xs ys)
    (hy : y ∈ ys) : ∃ x ∈ xs, R x y := by
  induction h with
  | nil => cases hy
  | @cons x _ xs _ hxy _ ih =>
    rcases List.mem_cons.1 hy with rfl | hy
    · exact ⟨x, List.mem_cons_self, hxy⟩
    · obtain ⟨z, hz, hzy⟩ := ih hy
      exact ⟨z, List.mem_cons_of_mem x hz, hzy⟩

end LocalCluster.Text
