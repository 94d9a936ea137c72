import LocalCluster.Container.RunArgs

/-!
# Reading argument vectors

The words that start a container, read from the left as an engine reads them: an option stands
alone, has its value in the same word after an equals sign, or takes the next word as its value. The
last word is the image. Values are never mistaken for options, whatever they are.

* `readOptions?`, `read?`: options with their values; `values`: the values of one option.
* `RunOption.settings`: what one wish becomes; **`readOptions?_args`**: its words are read as that.
* `readOptions?_append`: words are read part by part; **`read?_argv`**: whole argument vectors.
-/

namespace LocalCluster.Container

/-! ## Cutting at the first occurrence -/

/-- What stands before and after the first occurrence of `c`. -/
def cutFirst (c : Char) : List Char → Option (List Char × List Char)
  | [] => none
  | x :: xs =>
    if x = c then some ([], xs)
    else (cutFirst c xs).map fun (before, after) => (x :: before, after)

/-- The two parts of a text around the first occurrence of `c`. -/
def cutAt? (c : Char) (s : String) : Option (String × String) :=
  (cutFirst c s.toList).map fun (before, after) => (String.ofList before, String.ofList after)

theorem cutFirst_append {c : Char} {before : List Char} (after : List Char) (h : c ∉ before) :
    cutFirst c (before ++ c :: after) = some (before, after) := by
  induction before with
  | nil => simp [cutFirst]
  | cons x before ih =>
    rw [List.mem_cons, not_or] at h
    simp [cutFirst, Ne.symm h.1, ih h.2]

theorem cutFirst_of_not_mem {c : Char} {xs : List Char} (h : c ∉ xs) : cutFirst c xs = none := by
  induction xs with
  | nil => rfl
  | cons x xs ih =>
    rw [List.mem_cons, not_or] at h
    simp [cutFirst, Ne.symm h.1, ih h.2]

theorem cutAt?_equals {before after : String} (h : '=' ∉ before.toList) :
    cutAt? '=' (before ++ "=" ++ after) = some (before, after) := by
  have hcut := cutFirst_append after.toList h
  simp [cutAt?, hcut]

/-! ## Options -/

/-- The options that stand alone. -/
def loneOptions : List String := ["--detach", "--tty", "--privileged"]

/-- The options that take the next word as their value. -/
def valuedOptions : List String :=
  ["--name", "--hostname", "--label", "--security-opt", "--tmpfs", "--volume", "--network", "-e"]

/-- An option with its value in the same word. -/
def joined? (word : String) : Option (String × String) :=
  if ['-', '-'].isPrefixOf word.toList then cutAt? '=' word else none

/-- The options in some words, with their values; one that stands alone has an empty value. -/
def readOptions? : List String → Option (List (String × String))
  | [] => some []
  | word :: rest =>
    match joined? word with
    | some o => (readOptions? rest).map (o :: ·)
    | none =>
      if word ∈ loneOptions then (readOptions? rest).map ((word, "") :: ·)
      else if word ∈ valuedOptions then
        match rest with
        | [] => none
        | value :: rest => (readOptions? rest).map ((word, value) :: ·)
      else none

/-- The options and the image of an argument vector. -/
def read? : List String → Option (List (String × String) × String)
  | "run" :: words => do return (← readOptions? words.dropLast, ← words.getLast?)
  | _ => none

/-- The values of one option, in order. -/
def values (name : String) (options : List (String × String)) : List String :=
  (options.filter (·.1 = name)).map (·.2)

@[simp] theorem values_nil {name : String} : values name [] = [] := rfl

@[simp] theorem values_append {name : String} {a b : List (String × String)} :
    values name (a ++ b) = values name a ++ values name b := by
  simp [values]

theorem values_cons_eq {name value : String} {rest : List (String × String)} :
    values name ((name, value) :: rest) = value :: values name rest := by
  simp [values]

theorem values_cons_ne {name other value : String} {rest : List (String × String)}
    (h : other ≠ name) : values name ((other, value) :: rest) = values name rest := by
  simp [values, h]

section

variable {word value : String} {rest : List String}

theorem readOptions?_of_joined {o : String × String} (h : joined? word = some o) :
    readOptions? (word :: rest) = (readOptions? rest).map (o :: ·) := by
  rw [readOptions?.eq_def]
  simp only [h]

theorem readOptions?_lone (h : joined? word = none) (hlone : word ∈ loneOptions) :
    readOptions? (word :: rest) = (readOptions? rest).map ((word, "") :: ·) := by
  rw [readOptions?.eq_def]
  simp only [h, if_pos hlone]

theorem readOptions?_valued (h : joined? word = none) (hlone : word ∉ loneOptions)
    (hvalued : word ∈ valuedOptions) :
    readOptions? (word :: value :: rest) = (readOptions? rest).map ((word, value) :: ·) := by
  rw [readOptions?.eq_def]
  simp only [h, if_neg hlone, if_pos hvalued]

end

/-- **Words are read part by part.** -/
theorem readOptions?_append {a b : List String} {options : List (String × String)}
    (h : readOptions? a = some options) :
    readOptions? (a ++ b) = (readOptions? b).map (options ++ ·) := by
  fun_induction readOptions? a generalizing options with
  | case1 =>
    cases h
    simp
  | case2 word rest o ho ih =>
    obtain ⟨os, hos, rfl⟩ := Option.map_eq_some_iff.1 h
    rw [List.cons_append, readOptions?_of_joined ho, ih hos, Option.map_map]
    rfl
  | case3 word rest ho hlone ih =>
    obtain ⟨os, hos, rfl⟩ := Option.map_eq_some_iff.1 h
    rw [List.cons_append, readOptions?_lone ho hlone, ih hos, Option.map_map]
    rfl
  | case4 word ho hlone hvalued => cases h
  | case5 word ho hlone hvalued value rest ih =>
    obtain ⟨os, hos, rfl⟩ := Option.map_eq_some_iff.1 h
    rw [List.cons_append, List.cons_append, readOptions?_valued ho hlone hvalued, ih hos,
      Option.map_map]
    rfl
  | case6 word rest ho hlone hvalued => cases h

/-! ## Wishes -/

theorem readOptions?_joined (name : String) {value : String} {rest : List String}
    (hdash : ['-', '-'].isPrefixOf name.toList = true) (h : '=' ∉ name.toList) :
    readOptions? ((name ++ "=" ++ value) :: rest) =
      (readOptions? rest).map ((name, value) :: ·) := by
  have hprefix : ['-', '-'].isPrefixOf (name ++ "=" ++ value).toList = true := by
    rw [List.isPrefixOf_iff_prefix] at hdash ⊢
    simpa [List.append_assoc] using hdash.trans (List.prefix_append _ _)
  exact readOptions?_of_joined (by rw [joined?, if_pos hprefix, cutAt?_equals h])

/-- What a wish becomes when its words are read. -/
def RunOption.settings : RunOption → List (String × String)
  | .name n => [("--name", n)]
  | .hostname n => [("--hostname", n)]
  | .label key value => [("--label", key ++ "=" ++ value)]
  | .privileged =>
    [("--privileged", ""), ("--security-opt", "seccomp=unconfined"),
      ("--security-opt", "apparmor=unconfined")]
  | .tmpfs path => [("--tmpfs", path)]
  | .volume binding => [("--volume", binding)]
  | .mount m => [("--volume", m.binding)]
  | .publish p => [("--publish", p.binding)]
  | .network n => [("--network", n)]
  | .env key value => [("-e", key ++ "=" ++ value)]
  | .verbatim args => (readOptions? args).getD []

/-- Words that are taken over as they are can be read. -/
def Readable (os : List RunOption) : Prop :=
  ∀ args, .verbatim args ∈ os → (readOptions? args).isSome

/-- **The words of a wish are read as that wish.** -/
theorem readOptions?_args {o : RunOption} (h : Readable [o]) :
    readOptions? o.args = some o.settings := by
  have hjoined : ∀ name ∈ loneOptions ++ valuedOptions, joined? name = none := by decide
  have hvalued : ∀ name ∈ valuedOptions, ∀ value rest,
      readOptions? (name :: value :: rest) = (readOptions? rest).map ((name, value) :: ·) :=
    fun name hn value rest => readOptions?_valued (hjoined name (List.mem_append_right _ hn))
      ((by decide : ∀ name ∈ valuedOptions, name ∉ loneOptions) name hn) hn
  cases o with
  | mount m => exact readOptions?_joined "--volume" (by decide) (by decide)
  | publish p => exact readOptions?_joined "--publish" (by decide) (by decide)
  | privileged => decide
  | verbatim args =>
    obtain ⟨options, ho⟩ := Option.isSome_iff_exists.1 (h args List.mem_cons_self)
    rw [RunOption.args, RunOption.settings, ho]
    rfl
  | _ => exact hvalued _ (by decide) _ []

theorem readOptions?_flatMap {os : List RunOption} (h : Readable os) :
    readOptions? (os.flatMap RunOption.args) = some (os.flatMap RunOption.settings) := by
  induction os with
  | nil => rfl
  | cons o os ih =>
    have ho : Readable [o] := fun args ha => h args (by
      rw [List.mem_singleton.1 ha]
      exact List.mem_cons_self)
    rw [List.flatMap_cons, List.flatMap_cons, readOptions?_append (readOptions?_args ho),
      ih fun args ha => h args (List.mem_cons_of_mem o ha)]
    rfl

/-- **An argument vector is read as the wishes and the image that it was made of.** -/
theorem read?_argv {r : RunArgs} (h : Readable r.options) :
    read? r.argv = some
      (("--detach", "") :: ("--tty", "") :: r.options.flatMap RunOption.settings, r.image) := by
  have hwords : readOptions? (["--detach", "--tty"] ++ r.options.flatMap RunOption.args) =
      some (("--detach", "") :: ("--tty", "") :: r.options.flatMap RunOption.settings) := by
    have hhead : readOptions? ["--detach", "--tty"] = some [("--detach", ""), ("--tty", "")] := by
      decide
    rw [readOptions?_append hhead, readOptions?_flatMap h]
    rfl
  have hargv : r.argv =
      "run" :: (("--detach" :: "--tty" :: r.options.flatMap RunOption.args) ++ [r.image]) := by
    simp [RunArgs.argv]
  rw [hargv, read?, List.dropLast_concat, List.getLast?_concat]
  exact congrArg (fun x => x.bind fun os => some (os, r.image)) hwords

end LocalCluster.Container
