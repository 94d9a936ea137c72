import LocalCluster.Text.Blank
import LocalCluster.Proofs.Text.Lines
import Mathlib.Data.List.TakeWhile

/-!
# Text without blanks at its ends

Nothing but blanks is lost in trimming. So a text of which neither end is blank stands in a trimmed
text where it stood before, and lines that are trimmed and kept only if something is left say the
same however they are spaced.

* `occursIn_iff`: what it is to stand inside a list; **`infix_trimChars_iff`**.
* `Unbroken`, `Padded`: a text that holds no blank, and such a text with blanks around it;
  **`trim_eq_iff`**; **`words_printLines`**: such texts, printed with blanks between, are read back.
* `sayings`: the trimmed lines of which something is left; **`sayings_join`**.
-/

namespace LocalCluster.Text

variable {cs needle : List Char}

theorem occursIn_iff {hay : List Char} : occursIn needle hay = true ↔ needle <:+: hay := by
  induction hay with
  | nil => simp [occursIn]
  | cons x xs ih =>
    rw [occursIn, Bool.or_eq_true, ih, List.isPrefixOf_iff_prefix, List.infix_cons_iff]

/-! ## Trimming -/

theorem infix_dropWhile_iff {p : Char → Bool} (hne : needle ≠ [])
    (hfirst : p (needle.head hne) = false) : needle <:+: cs.dropWhile p ↔ needle <:+: cs := by
  induction cs with
  | nil => rfl
  | cons c rest ih =>
    rw [List.dropWhile_cons]
    split
    · next hc =>
      rw [ih, List.infix_cons_iff]
      refine ⟨.inr, Or.rec (fun hprefix => ?_) id⟩
      obtain ⟨x, xs, rfl⟩ := List.exists_cons_of_ne_nil hne
      obtain ⟨rfl, -⟩ := List.cons_prefix_cons.1 hprefix
      exact absurd hc (by simpa using hfirst)
    · rfl

/-- **A text with no blanks at its ends stands in the trimmed text if it stood there before.** -/
theorem infix_trimChars_iff (hne : needle ≠ []) (hfirst : isBlank (needle.head hne) = false)
    (hlast : isBlank (needle.getLast hne) = false) :
    needle <:+: trimChars cs ↔ needle <:+: cs := by
  have hr : needle.reverse ≠ [] := by simpa using hne
  rw [trimChars, dropEndWhile, ← List.reverse_infix, List.reverse_reverse,
    infix_dropWhile_iff hr (by rw [List.head_reverse]; exact hlast), List.reverse_infix,
    infix_dropWhile_iff hne hfirst]

theorem exists_eq_trimChars (cs : List Char) :
    ∃ before after, cs = before ++ trimChars cs ++ after ∧
    (∀ c ∈ before, isBlank c = true) ∧ ∀ c ∈ after, isBlank c = true := by
  let rest := cs.dropWhile isBlank
  refine ⟨cs.takeWhile isBlank, (rest.reverse.takeWhile isBlank).reverse, ?_,
    fun c hc => List.mem_takeWhile_imp hc,
    fun c hc => List.mem_takeWhile_imp (List.mem_reverse.1 hc)⟩
  calc cs = cs.takeWhile isBlank ++ rest := List.takeWhile_append_dropWhile.symm
    _ = cs.takeWhile isBlank ++ (rest.reverse.takeWhile isBlank ++
          rest.reverse.dropWhile isBlank).reverse := by
      rw [List.takeWhile_append_dropWhile (p := isBlank) (l := rest.reverse), List.reverse_reverse]
    _ = cs.takeWhile isBlank ++ trimChars cs ++ (rest.reverse.takeWhile isBlank).reverse := by
      rw [List.reverse_append, ← List.append_assoc]
      rfl

theorem trimChars_eq_nil_iff : trimChars cs = [] ↔ ∀ c ∈ cs, isBlank c = true := by
  rw [trimChars, dropEndWhile, List.reverse_eq_nil_iff, List.dropWhile_eq_nil_iff]
  refine ⟨fun h c hc => ?_, fun h c hc => ?_⟩
  · rw [← List.takeWhile_append_dropWhile (p := isBlank) (l := cs)] at hc
    rcases List.mem_append.1 hc with hc | hc
    · exact List.mem_takeWhile_imp hc
    · exact h c (List.mem_reverse.2 hc)
  · exact h c (List.dropWhile_subset _ (List.mem_reverse.1 hc))

theorem trimChars_append {after : List Char} (h : ∀ c ∈ after, isBlank c = true) :
    trimChars (cs ++ after) = trimChars cs := by
  rw [trimChars, trimChars, List.dropWhile_append]
  split
  · next hcs =>
    rw [List.isEmpty_iff.1 hcs, List.dropWhile_eq_nil_iff.2 h]
  · rw [dropEndWhile, dropEndWhile, List.reverse_append, List.dropWhile_append_of_pos]
    exact fun c hc => h c (List.mem_reverse.1 hc)

theorem isBlank_of_visible {c : Char} (h : 0x20 < c.toNat ∧ c.toNat < 0x7F) :
    isBlank c = false := by
  simp only [isBlank, Bool.or_eq_false_iff, Bool.and_eq_false_iff, decide_eq_false_iff_not,
    beq_eq_false_iff_ne]
  omega

theorem isBlank_of_isDigit {c : Char} (h : c.isDigit = true) : isBlank c = false := by
  simp only [Char.isDigit, Bool.and_eq_true, decide_eq_true_eq, ge_iff_le] at h
  have hlow : 48 ≤ c.toNat := UInt32.le_iff_toNat_le.1 h.1
  have hhigh : c.toNat ≤ 57 := UInt32.le_iff_toNat_le.1 h.2
  exact isBlank_of_visible (by omega)

/-- A text of which neither end is blank. -/
def Stripped (cs : List Char) : Prop :=
  ∀ c, cs.head? = some c ∨ cs.getLast? = some c → isBlank c = false

theorem stripped_of_forall (h : ∀ c ∈ cs, isBlank c = false) : Stripped cs := fun c hc =>
  h c (hc.elim List.mem_of_head? List.mem_of_getLast?)

theorem head?_dropWhile {p : Char → Bool} {c : Char} (h : (cs.dropWhile p).head? = some c) :
    p c = false := by
  have hc := List.head?_dropWhile_not p cs
  rwa [h] at hc

theorem stripped_trimChars (cs : List Char) : Stripped (trimChars cs) := by
  rintro c (h | h)
  · -- a trimmed text begins as the text does without the blanks before it
    have hprefix : trimChars cs <+: cs.dropWhile isBlank := by
      rw [trimChars, dropEndWhile, ← List.reverse_suffix, List.reverse_reverse]
      exact List.dropWhile_suffix _
    obtain ⟨rest, hrest⟩ := hprefix
    have hhead : (cs.dropWhile isBlank).head? = some c := by
      rw [← hrest, List.head?_append, h]
      rfl
    exact head?_dropWhile hhead
  · rw [trimChars, dropEndWhile, List.getLast?_reverse] at h
    exact head?_dropWhile h

theorem Stripped.append {body tail : List Char} (h : Stripped body) (hne : body ≠ [])
    (htail : Stripped tail) (htne : tail ≠ []) (between : List Char) :
    Stripped (body ++ between ++ tail) := by
  rintro c (hc | hc)
  · obtain ⟨x, rest, rfl⟩ := List.exists_cons_of_ne_nil hne
    exact h c (.inl (by simpa using hc))
  · refine htail c (.inr ?_)
    rwa [List.getLast?_append, List.getLast?_eq_some_getLast htne, Option.some_or,
      ← List.getLast?_eq_some_getLast htne] at hc

theorem trimChars_of_stripped {before body after : List Char}
    (hbefore : ∀ c ∈ before, isBlank c = true) (hafter : ∀ c ∈ after, isBlank c = true)
    (h : Stripped body) : trimChars (before ++ body ++ after) = body := by
  by_cases hne : body = []
  · subst hne
    rw [trimChars_eq_nil_iff]
    simpa [or_imp, forall_and] using And.intro hbefore hafter
  · exact trimChars_pad before body after hbefore hafter hne
      (h _ (.inl (List.head?_eq_some_head hne))) (h _ (.inr (List.getLast?_eq_some_getLast hne)))

/-- A text that holds no blank. -/
def Unbroken (core : String) : Prop := core ≠ "" ∧ ∀ c ∈ core.toList, isBlank c = false

instance : DecidablePred Unbroken := fun core =>
  decidable_of_iff (core ≠ "" ∧ (core.toList.all fun c => ! isBlank c) = true) (by simp [Unbroken])

/-- A text with blanks before and after it, or none. -/
def Padded (core line : String) : Prop :=
  ∃ before after : List Char, line.toList = before ++ core.toList ++ after ∧
    (∀ c ∈ before, isBlank c = true) ∧ ∀ c ∈ after, isBlank c = true

/-- A text of blanks only. -/
def Blank (line : String) : Prop := ∀ c ∈ line.toList, isBlank c = true

theorem trim_eq_empty_iff {line : String} : trim line = "" ↔ Blank line := by
  rw [Blank, ← trimChars_eq_nil_iff, trim]
  simp

/-- **What a line is without the blanks at its ends.** -/
theorem trim_eq_iff {core line : String} (h : Unbroken core) :
    trim line = core ↔ Padded core line := by
  constructor
  · rintro rfl
    obtain ⟨before, after, hline, hbefore, hafter⟩ := exists_eq_trimChars line.toList
    exact ⟨before, after, by simpa [trim] using hline, hbefore, hafter⟩
  · rintro ⟨before, after, hline, hbefore, hafter⟩
    have hne : core.toList ≠ [] := by simpa using h.1
    rw [trim, hline, trimChars_pad before core.toList after hbefore hafter hne
      (h.2 _ (List.head_mem hne)) (h.2 _ (List.getLast_mem hne)), String.ofList_toList]

theorem wordsFrom_append {run rest : List Char} (h : ∀ c ∈ cs, isBlank c = false) :
    wordsFrom run (cs ++ rest) = wordsFrom (run ++ cs) rest := by
  induction cs generalizing run with
  | nil => simp
  | cons c cs ih =>
    obtain ⟨hc, hcs⟩ := List.forall_mem_cons.1 h
    rw [List.cons_append, wordsFrom, if_neg (by simp [hc]), ih hcs, List.append_assoc]
    rfl

/-- **Words that are printed with a blank after each are read back.** -/
theorem words_printLines {ws : List String} (h : ∀ w ∈ ws, Unbroken w) :
    words (printLines " " ws) = ws := by
  unfold words
  induction ws with
  | nil => rfl
  | cons w rest ih =>
    obtain ⟨⟨hne, hw⟩, hrest⟩ := List.forall_mem_cons.1 h
    have hprinted : (printLines " " (w :: rest)).toList =
        w.toList ++ ' ' :: (printLines " " rest).toList := by
      simp [printLines]
    have hblank : isBlank ' ' = true := rfl
    rw [hprinted, wordsFrom_append hw, List.nil_append, wordsFrom, if_pos hblank,
      if_neg (by simpa using hne), List.map_cons, ih hrest, String.ofList_toList]

/-! ## Lines that say something -/

/-- What lines say, one after another: those that are not blank, without the blanks around. -/
def sayings (printed : List String) : List String := (printed.map trim).filter (· ≠ "")

theorem trim_withoutReturn (l : String) : trim (withoutReturn l) = trim l := by
  rw [trim, trim, withoutReturn, String.toList_ofList]
  rcases dropReturn_cases l.toList with heq | ⟨-, heq⟩
  · conv_rhs => rw [heq, trimChars_append (List.forall_mem_singleton.2 rfl)]
  · rw [heq]

theorem sayings_withoutReturn (ls : List String) :
    sayings (ls.map withoutReturn) = sayings ls := by
  simp [sayings, Function.comp_def, trim_withoutReturn]

theorem sayings_lines (s : String) : sayings (lines s) = sayings (split '\n' s) := by
  have hended : ∀ body : String, sayings (lines (body ++ "\n")) = sayings (split '\n' body) := by
    intro body
    rw [lines_append_feed]
    split
    · next hnone =>
      subst hnone
      decide
    · exact sayings_withoutReturn _
  by_cases h : s.toList.getLast? = some '\n'
  · -- the feed at the end begins one piece more, and it is empty
    obtain ⟨body, hbody⟩ := List.getLast?_eq_some_iff.1 h
    obtain rfl : s = String.ofList body ++ "\n" := String.toList_injective (by simp [hbody])
    have hsplit := split_between '\n' (String.ofList body) ""
    rw [String.append_empty] at hsplit
    rw [hended]
    change _ = sayings (split '\n' (String.ofList body ++ String.singleton '\n'))
    rw [hsplit]
    simp [sayings, split, trim_eq_empty_iff, Blank]
  · rw [lines_of_open h, hended]

/-- **Lines that are put together say what each of them says.** -/
theorem sayings_join {printed : List String} (h : ∀ line ∈ printed, '\n' ∉ line.toList) :
    sayings (lines (join "\n" printed)) = sayings printed := by
  rw [sayings_lines]
  by_cases hne : printed = []
  · subst hne
    decide
  · change sayings (split '\n' (join (String.singleton '\n') printed)) = _
    rw [split_join hne, flatMap_split h]

end LocalCluster.Text
