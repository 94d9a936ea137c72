import LocalCluster.Files.Tree
import LocalCluster.Proofs.Text.Printed
import Mathlib.Data.List.Basic

/-!
# Paths below a directory

A path that is continued by the name of a file leads one step further than before, and its parent
leads to where it came from. The text of that parent can be tidier than what was continued, but it
names the same directory.

* `IsFileName`: names that something in a directory can have.
* `names_joinPath`, `origin_joinPath`: what a continued path leads along.
* `tidy`: a path without idle segments at its end; **`parentPath?_joinPath`**, `tidy_joinPath`:
  the parent of a path; `exists_names_eq_tidy`: it leads along the same names, dots aside.
* `joinAll`: a path that is continued several times.
-/

namespace LocalCluster.Files

open LocalCluster.Text PathSegments LocalCluster.Files.Tree

variable {base name path : String} {cs b xs ys : List Char}

/-- A name that something in a directory can have. -/
structure IsFileName (name : String) : Prop where
  nonempty : name ≠ ""
  notHere : name ≠ "."
  notAbove : name ≠ ".."
  noSlash : '/' ∉ name.toList
  noZero : '\x00' ∉ name.toList

/-! ## Segments -/

/-- The segments of some text that are not empty. -/
def segmentsIn (cs : List Char) : List (List Char) := (cs.splitOn '/').filter (· ≠ [])

theorem names_eq : names path = (segmentsIn path.toList).map String.ofList := by
  rw [names, segmentsIn, List.filter_map]
  congr 1
  exact List.filter_congr fun cs _ => by simp

theorem segmentsIn_nil : segmentsIn [] = [] := by
  simp [segmentsIn]

theorem segmentsIn_append_slash :
    segmentsIn (xs ++ '/' :: ys) = segmentsIn xs ++ segmentsIn ys := by
  rw [segmentsIn, List.splitOn_append_cons_self, List.filter_append, segmentsIn, segmentsIn]

theorem segmentsIn_plain (h : '/' ∉ cs) (hne : cs ≠ []) : segmentsIn cs = [cs] := by
  rw [segmentsIn, List.splitOn_eq_singleton h]
  simp [hne]

theorem segmentsIn_intercalate {segments : List (List Char)} (h : ∀ cs ∈ segments, '/' ∉ cs) :
    segmentsIn (['/'].intercalate segments) = segments.filter (· ≠ []) := by
  by_cases hne : segments = []
  · rw [hne]
    exact segmentsIn_nil
  · rw [segmentsIn, List.splitOn_intercalate '/' h hne]

theorem not_mem_of_mem_splitOn (h : xs ∈ cs.splitOn '/') : '/' ∉ xs := fun hslash =>
  (of_mem_splitOn h hslash).2 rfl

/-! ## Continued paths -/

/-- A path that a name continues: the name alone, or the name after a slash. -/
theorem joinPath_cases (base : String) (h : '/' ∉ name.toList) :
    base = "" ∧ joinPath base name = name ∨ ∃ b,
      (base.toList = b ++ ['/'] ∨ base.toList = b ∧ b ≠ []) ∧
        (joinPath base name).toList = b ++ '/' :: name.toList := by
  have hhead : name.toList.head? ≠ some '/' := fun he => h (List.mem_of_head? he)
  rw [joinPath, if_neg hhead]
  by_cases hempty : base = ""
  · exact .inl ⟨hempty, by simp [hempty]⟩
  · by_cases hlast : base.toList.getLast? = some '/'
    · obtain ⟨b, hb⟩ := List.getLast?_eq_some_iff.1 hlast
      refine .inr ⟨b, .inl hb, ?_⟩
      rw [if_pos (.inr hlast), String.toList_append, hb]
      simp
    · refine .inr ⟨base.toList, .inr ⟨rfl, by simpa using hempty⟩, ?_⟩
      rw [if_neg (by simp [hempty, hlast])]
      simp

theorem names_joinPath (h : IsFileName name) :
    names (joinPath base name) = names base ++ [name] := by
  have hname : segmentsIn name.toList = [name.toList] :=
    segmentsIn_plain h.noSlash (by simpa using h.nonempty)
  obtain ⟨rfl, he⟩ | ⟨b, hb, he⟩ := joinPath_cases base h.noSlash
  · rw [he, names_eq, names_eq, hname]
    simp [segmentsIn_nil]
  · rw [names_eq, names_eq, he, segmentsIn_append_slash, hname]
    obtain hb | ⟨hb, -⟩ := hb
    · rw [hb, segmentsIn_append_slash, segmentsIn_nil]
      simp
    · rw [hb]
      simp

theorem head?_joinPath (h : IsFileName name) :
    (joinPath base name).toList.head? = some '/' ↔ base.toList.head? = some '/' := by
  obtain ⟨rfl, he⟩ | ⟨b, hb, he⟩ := joinPath_cases base h.noSlash
  · rw [he]
    simp only [String.toList_empty, List.head?_nil, reduceCtorEq, iff_false]
    exact fun hn => h.noSlash (List.mem_of_head? hn)
  · rw [he]
    obtain hb | ⟨hb, hne⟩ := hb
    · rw [hb]
      cases b <;> simp
    · rw [hb]
      cases b with
      | nil => exact absurd rfl hne
      | cons c b => simp

theorem origin_joinPath (h : IsFileName name) : origin (joinPath base name) = origin base := by
  simp only [origin, head?_joinPath h]

theorem not_mem_zero_joinPath (h : IsFileName name) (hbase : '\x00' ∉ base.toList) :
    '\x00' ∉ (joinPath base name).toList := by
  have hslash : '\x00' ≠ '/' := by decide
  obtain ⟨-, he⟩ | ⟨b, hb, he⟩ := joinPath_cases base h.noSlash
  · rw [he]
    exact h.noZero
  · rw [he]
    obtain hb | ⟨hb, -⟩ := hb <;> rw [hb] at hbase <;> simp_all [h.noZero]

theorem joinPath_ne_empty (h : IsFileName name) : joinPath base name ≠ "" := by
  intro he
  have hnames : names (joinPath base name) = names base ++ [name] := names_joinPath h
  rw [he] at hnames
  simp [names_eq, segmentsIn_nil] at hnames

theorem length_lt_length_joinPath (base : String) (h : IsFileName name) :
    base.length < (joinPath base name).length := by
  have hpos : 0 < name.toList.length := List.length_pos_iff.2 (by simpa using h.nonempty)
  rw [← String.length_toList, ← String.length_toList (s := joinPath base name)]
  obtain ⟨rfl, he⟩ | ⟨b, hb, he⟩ := joinPath_cases base h.noSlash
  · rw [he]
    exact hpos
  · rw [he, List.length_append, List.length_cons]
    obtain hb | ⟨hb, -⟩ := hb <;> rw [hb]
    · rw [List.length_append, List.length_singleton]
      omega
    · omega

theorem getLast?_joinPath (h : IsFileName name) :
    (joinPath base name).toList.getLast? ≠ some '/' := by
  have hne : name.toList ≠ [] := by simpa using h.nonempty
  have hlast : (joinPath base name).toList.getLast? = name.toList.getLast? := by
    obtain ⟨-, he⟩ | ⟨b, -, he⟩ := joinPath_cases base h.noSlash
    · rw [he]
    · rw [he, List.append_cons, List.getLast?_append_of_ne_nil _ hne]
  rw [hlast]
  exact fun hs => h.noSlash (List.mem_of_getLast? hs)

/-! ## Parents -/

/-- A path without the segments at its end that do not count. -/
def tidy (path : String) : String := (ofPath path).toPath

theorem cutStart_append (cs : List Char) : (cutStart cs).1 ++ (cutStart cs).2 = cs := by
  unfold cutStart
  split <;> rfl

theorem cutStart_append_slash (hb : b ≠ []) :
    cutStart (b ++ '/' :: xs) = ((cutStart b).1, (cutStart b).2 ++ '/' :: xs) := by
  obtain ⟨c, rest, rfl⟩ := List.exists_cons_of_ne_nil hb
  by_cases hslash : c = '/'
  · rw [hslash]
    rfl
  by_cases hdot : c = '.'
  · subst hdot
    cases rest with
    | nil => rfl
    | cons d rest =>
      by_cases hd : d = '/'
      · rw [hd]
        rfl
      · simp [cutStart, hd]
  · simp [cutStart, hslash, hdot]

theorem cutStart_name (h : IsFileName name) : cutStart name.toList = ([], name.toList) := by
  have hdot : name.toList ≠ ['.'] := fun he => h.notHere (String.toList_inj.1 he)
  unfold cutStart
  split
  · next he => exact absurd (he ▸ List.mem_cons_self) h.noSlash
  · next he => exact absurd he hdot
  · next he => exact absurd (he ▸ List.mem_cons_of_mem _ List.mem_cons_self) h.noSlash
  · rfl

theorem isIdle_name (h : IsFileName name) : isIdle name.toList = false := by
  have hdot : name.toList ≠ ['.'] := fun he => h.notHere (String.toList_inj.1 he)
  simp [isIdle, h.nonempty, hdot]

theorem trimEnd_of_idle {start : List Char} {segments : List (List Char)} {last : List Char}
    (h : isIdle last = true) :
    trimEnd ⟨start, segments ++ [last]⟩ = trimEnd ⟨start, segments⟩ := by
  simp [trimEnd, h]

theorem trimEnd_of_not_idle {start : List Char} {segments : List (List Char)} {last : List Char}
    (h : isIdle last = false) :
    trimEnd ⟨start, segments ++ [last]⟩ = ⟨start, segments ++ [last]⟩ := by
  simp [trimEnd, h]

theorem ofPath_eq (path : String) :
    ofPath path = trimEnd ⟨(cutStart path.toList).1, (cutStart path.toList).2.splitOn '/'⟩ := rfl

theorem ofPath_joinPath (base : String) (h : IsFileName name) : ∃ segments,
    ofPath (joinPath base name) =
      ⟨(cutStart (joinPath base name).toList).1, segments ++ [name.toList]⟩ ∧
    (cutStart (joinPath base name).toList).2.splitOn '/' = segments ++ [name.toList] ∧
    trimEnd ⟨(cutStart (joinPath base name).toList).1, segments⟩ = ofPath base := by
  have hname : name.toList.splitOn '/' = [name.toList] := List.splitOn_eq_singleton h.noSlash
  suffices hs : ∃ segments, (cutStart (joinPath base name).toList).2.splitOn '/' =
        segments ++ [name.toList] ∧
      trimEnd ⟨(cutStart (joinPath base name).toList).1, segments⟩ = ofPath base by
    obtain ⟨segments, hsplit, htrim⟩ := hs
    refine ⟨segments, ?_, hsplit, htrim⟩
    rw [ofPath_eq, hsplit, trimEnd_of_not_idle (isIdle_name h)]
  obtain ⟨rfl, he⟩ | ⟨b, hb, he⟩ := joinPath_cases base h.noSlash
  · rw [he, cutStart_name h]
    exact ⟨[], hname, rfl⟩
  · rw [he, ofPath_eq]
    by_cases hempty : b = []
    · subst hempty
      obtain hb | ⟨-, hne⟩ := hb
      · rw [hb]
        exact ⟨[], hname, rfl⟩
      · exact absurd rfl hne
    · rw [cutStart_append_slash hempty, List.splitOn_append_cons_self, hname]
      refine ⟨_, rfl, ?_⟩
      obtain hb | ⟨hb, -⟩ := hb
      · rw [hb, cutStart_append_slash hempty, List.splitOn_append_cons_self, List.splitOn_nil]
        exact (trimEnd_of_idle rfl).symm
      · rw [hb]

/-- **The parent of a continued path is the path before it**, tidied. -/
theorem parentPath?_joinPath (base : String) (h : IsFileName name) :
    parentPath? (joinPath base name) = some (tidy base) := by
  obtain ⟨segments, hpath, -, htrim⟩ := ofPath_joinPath base h
  rw [parentPath?, hpath, tidy, ← htrim]
  simp

theorem tidy_joinPath (h : IsFileName name) : tidy (joinPath base name) = joinPath base name := by
  obtain ⟨segments, hpath, hsplit, -⟩ := ofPath_joinPath base h
  rw [tidy, hpath, toPath, ← hsplit, List.intercalate_splitOn, cutStart_append]
  exact String.ofList_toList

/-! ## Tidy paths -/

theorem isPrefix_intercalate (xss yss : List (List Char)) :
    ['/'].intercalate xss <+: ['/'].intercalate (xss ++ yss) := by
  induction xss with
  | nil => exact List.nil_prefix
  | cons xs xss ih =>
    cases xss with
    | nil =>
      cases yss with
      | nil => exact List.prefix_refl _
      | cons ys yss =>
        rw [List.singleton_append, List.intercalate_cons_cons, List.append_assoc]
        simp [List.intercalate]
    | cons xs' xss =>
      rw [List.cons_append, List.cons_append, List.intercalate_cons_cons,
        List.intercalate_cons_cons]
      exact (List.prefix_append_right_inj _).2 ih

theorem tidy_parts (path : String) : ∃ kept idles,
    (cutStart path.toList).2.splitOn '/' = kept ++ idles ∧ (∀ cs ∈ idles, isIdle cs = true) ∧
      (tidy path).toList = (cutStart path.toList).1 ++ ['/'].intercalate kept := by
  let segments := (cutStart path.toList).2.splitOn '/'
  refine ⟨(segments.reverse.dropWhile isIdle).reverse, (segments.reverse.takeWhile isIdle).reverse,
    ?_, fun cs hcs => ?_, ?_⟩
  · rw [← List.reverse_append, List.takeWhile_append_dropWhile, List.reverse_reverse]
  · exact List.all_eq_true.1 List.all_takeWhile cs (List.mem_reverse.1 hcs)
  · rw [tidy, ofPath_eq, trimEnd, toPath, String.toList_ofList]

theorem isPrefix_tidy (path : String) : (tidy path).toList <+: path.toList := by
  obtain ⟨kept, idles, hsplit, -, htidy⟩ := tidy_parts path
  rw [htidy]
  have hjoin : ['/'].intercalate ((cutStart path.toList).2.splitOn '/') =
      (cutStart path.toList).2 := List.intercalate_splitOn '/'
  conv => rhs; rw [← cutStart_append path.toList, ← hjoin, hsplit]
  exact (List.prefix_append_right_inj _).2 (isPrefix_intercalate kept idles)

theorem not_mem_zero_tidy (h : '\x00' ∉ path.toList) : '\x00' ∉ (tidy path).toList :=
  fun hz => h ((isPrefix_tidy path).subset hz)

theorem origin_tidy (path : String) : origin (tidy path) = origin path := by
  have hhead : (tidy path).toList.head? = some '/' ↔ path.toList.head? = some '/' := by
    obtain ⟨kept, idles, -, -, htidy⟩ := tidy_parts path
    obtain ⟨rest, hrest⟩ := isPrefix_tidy path
    constructor
    · intro h
      rw [← hrest, List.head?_append, h]
      rfl
    · intro h
      obtain ⟨cs, hcs⟩ := List.head?_eq_some_iff.1 h
      rw [htidy, hcs]
      rfl
  simp only [origin, hhead]

theorem segmentsIn_cutStart (h : xs <+: (cutStart cs).2) :
    segmentsIn ((cutStart cs).1 ++ xs) = segmentsIn (cutStart cs).1 ++ segmentsIn xs := by
  have hslash : ∀ ys, segmentsIn ('/' :: ys) = segmentsIn ys := fun ys => by
    rw [← List.nil_append ('/' :: ys), segmentsIn_append_slash, segmentsIn_nil, List.nil_append]
  unfold cutStart at h ⊢
  split at h
  · rw [List.singleton_append, hslash, hslash, segmentsIn_nil, List.nil_append]
  · rw [List.prefix_nil.1 h, List.append_nil, segmentsIn_nil, List.append_nil]
  · obtain rfl | ⟨ys, rfl, -⟩ := List.prefix_cons_iff.1 h
    · rw [List.append_nil, segmentsIn_nil, List.append_nil]
    · rw [segmentsIn_append_slash, hslash]
  · rw [List.nil_append, segmentsIn_nil, List.nil_append]

theorem exists_names_eq_tidy (path : String) :
    ∃ k, names path = names (tidy path) ++ List.replicate k "." := by
  obtain ⟨kept, idles, hsplit, hidle, htidy⟩ := tidy_parts path
  have hplain : ∀ cs ∈ kept, '/' ∉ cs := fun cs hcs =>
    not_mem_of_mem_splitOn (by rw [hsplit]; exact List.mem_append_left _ hcs)
  have hprefix : ['/'].intercalate kept <+: (cutStart path.toList).2 := by
    have hjoin : ['/'].intercalate ((cutStart path.toList).2.splitOn '/') =
        (cutStart path.toList).2 := List.intercalate_splitOn '/'
    rw [← hjoin, hsplit]
    exact isPrefix_intercalate kept idles
  have hdots : idles.filter (· ≠ []) = List.replicate (idles.filter (· ≠ [])).length ['.'] := by
    refine List.eq_replicate_iff.2 ⟨rfl, fun cs hcs => ?_⟩
    obtain ⟨hmem, hne⟩ := List.mem_filter.1 hcs
    have hcs := hidle cs hmem
    simp_all [isIdle]
  refine ⟨(idles.filter (· ≠ [])).length, ?_⟩
  have hall : segmentsIn path.toList = segmentsIn (tidy path).toList ++ idles.filter (· ≠ []) := by
    rw [htidy, segmentsIn_cutStart hprefix, segmentsIn_intercalate hplain, List.append_assoc,
      ← List.filter_append, ← hsplit]
    conv => lhs; rw [← cutStart_append path.toList]
    exact segmentsIn_cutStart (List.prefix_refl _)
  rw [names_eq, names_eq, hall, List.map_append, hdots, List.map_replicate, List.length_replicate]

/-! ## Longer paths -/

/-- A path continued by some names. -/
def joinAll (path : String) (rest : List String) : String := rest.foldl joinPath path

variable {rest : List String}

theorem joinAll_concat (path name : String) (rest : List String) :
    joinAll path (rest ++ [name]) = joinPath (joinAll path rest) name := by
  simp [joinAll]

theorem names_joinAll (h : ∀ name ∈ rest, IsFileName name) :
    names (joinAll path rest) = names path ++ rest := by
  induction rest generalizing path with
  | nil => exact (List.append_nil _).symm
  | cons name rest ih =>
    obtain ⟨hname, hrest⟩ := List.forall_mem_cons.1 h
    change names (joinAll (joinPath path name) rest) = _
    rw [ih hrest, names_joinPath hname, List.append_assoc]
    rfl

theorem origin_joinAll (h : ∀ name ∈ rest, IsFileName name) :
    origin (joinAll path rest) = origin path := by
  induction rest generalizing path with
  | nil => rfl
  | cons name rest ih =>
    obtain ⟨hname, hrest⟩ := List.forall_mem_cons.1 h
    change origin (joinAll (joinPath path name) rest) = _
    rw [ih hrest, origin_joinPath hname]

theorem not_mem_zero_joinAll (h : ∀ name ∈ rest, IsFileName name)
    (hpath : '\x00' ∉ path.toList) : '\x00' ∉ (joinAll path rest).toList := by
  induction rest generalizing path with
  | nil => exact hpath
  | cons name rest ih =>
    obtain ⟨hname, hrest⟩ := List.forall_mem_cons.1 h
    exact ih hrest (not_mem_zero_joinPath hname hpath)

theorem length_le_length_joinAll (path : String) (h : ∀ name ∈ rest, IsFileName name) :
    path.length + rest.length ≤ (joinAll path rest).length := by
  induction rest generalizing path with
  | nil => exact Nat.le_refl _
  | cons name rest ih =>
    obtain ⟨hname, hrest⟩ := List.forall_mem_cons.1 h
    have hone := length_lt_length_joinPath path hname
    have hlater := ih (joinPath path name) hrest
    change _ ≤ (joinAll (joinPath path name) rest).length
    rw [List.length_cons]
    omega

theorem joinAll_inj {rest' : List String} (h : ∀ name ∈ rest, IsFileName name)
    (h' : ∀ name ∈ rest', IsFileName name) :
    joinAll path rest = joinAll path rest' ↔ rest = rest' := by
  refine ⟨fun he => ?_, congrArg _⟩
  have hnames := congrArg names he
  rw [names_joinAll h, names_joinAll h'] at hnames
  exact List.append_cancel_left hnames

end LocalCluster.Files
