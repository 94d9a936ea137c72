import LocalCluster.Proofs.Container.Reading

/-!
# The grammar of argument vectors

An argument vector is `run`, options and an image. An option of the grammar stands alone, takes the
next word as its value whatever that is, or has its value in its own word. Reading from the left
undoes the writing, so there is one way at most to read an argument vector.

* `Item`, `Item.words`, `Item.Proper`: an option with its value, and the words that it is written
  in.
* `readItems?`, `readArgv?`: items read from the left.
* **`readItems?_eq_some_iff`**, **`readArgv?_eq_some_iff`**: what is read is what has been written.
* `RunOption.items`; **`written_argv`**: the wishes about a container are written in the grammar.
* `Item.setting`, `valuesOf`: how an option is spelt, and the values of those spelt so.
-/

namespace LocalCluster.Container

/-! ## Items -/

/-- An option of an argument vector. -/
inductive Item where
  | lone (option : String)
  /-- The value is the next word. -/
  | spaced (option value : String)
  /-- The value stands in the same word, after an equals sign. -/
  | joined (option value : String)
  deriving DecidableEq, Repr

/-- The options that have their value in the same word. -/
def joinedOptions : List String := ["--volume", "--publish", "--sysctl", "--userns"]

namespace Item

/-- The words of an option. -/
def words : Item → List String
  | .lone option => [option]
  | .spaced option value => [option, value]
  | .joined option value => [option ++ "=" ++ value]

/-- The option is one of the grammar; its value may be anything. -/
def Proper : Item → Prop
  | .lone option => option ∈ loneOptions
  | .spaced option _ => option ∈ valuedOptions
  | .joined option _ => option ∈ joinedOptions

/-- How the option is spelt, up to its value, and the value. -/
def setting : Item → String × String
  | .lone option => (option, "")
  | .spaced option value => (option, value)
  | .joined option value => (option ++ "=", value)

end Item

/-- The argument vector is written in the grammar, with these options and this image. -/
def Written (items : List Item) (image : String) (argv : List String) : Prop :=
  (∀ item ∈ items, item.Proper) ∧ argv = "run" :: (items.flatMap Item.words ++ [image])

/-- The values of the options of one spelling, in order. -/
def valuesOf (spelling : String) (items : List Item) : List String :=
  values spelling (items.map Item.setting)

/-! ## Reading from the left -/

/-- An option that has its value in the same word. -/
def joinedItem? (word : String) : Option Item :=
  (cutAt? '=' word).bind fun (option, value) =>
    if option ∈ joinedOptions then some (.joined option value) else none

/-- The options in some words. -/
def readItems? : List String → Option (List Item)
  | [] => some []
  | word :: rest =>
    match joinedItem? word with
    | some item => (readItems? rest).map (item :: ·)
    | none =>
      if word ∈ loneOptions then (readItems? rest).map (.lone word :: ·)
      else if word ∈ valuedOptions then
        match rest with
        | [] => none
        | value :: rest => (readItems? rest).map (.spaced word value :: ·)
      else none

/-- The options and the image of an argument vector. -/
def readArgv? : List String → Option (List Item × String)
  | "run" :: words => do return (← readItems? words.dropLast, ← words.getLast?)
  | _ => none

/-- What a wish becomes when its words are read. -/
def RunOption.items : RunOption → List Item
  | .name n => [.spaced "--name" n]
  | .hostname n => [.spaced "--hostname" n]
  | .label key value => [.spaced "--label" (key ++ "=" ++ value)]
  | .privileged =>
    [.lone "--privileged", .spaced "--security-opt" "seccomp=unconfined",
      .spaced "--security-opt" "apparmor=unconfined"]
  | .tmpfs path => [.spaced "--tmpfs" path]
  | .volume binding => [.spaced "--volume" binding]
  | .mount m => [.joined "--volume" m.binding]
  | .publish p => [.joined "--publish" p.binding]
  | .network n => [.spaced "--network" n]
  | .env key value => [.spaced "-e" (key ++ "=" ++ value)]
  | .verbatim args => (readItems? args).getD []

variable {word image : String} {words rest argv : List String} {item : Item} {items : List Item}

theorem eq_append_of_cutFirst {c : Char} {xs before after : List Char}
    (h : cutFirst c xs = some (before, after)) : xs = before ++ c :: after := by
  induction xs generalizing before with
  | nil => cases h
  | cons x xs ih =>
    unfold cutFirst at h
    split at h
    · next hx =>
      cases h
      rw [hx]
      rfl
    · obtain ⟨⟨before, after⟩, hcut, he⟩ := Option.map_eq_some_iff.1 h
      cases he
      rw [ih hcut]
      rfl

theorem eq_of_cutAt? {before after : String} (h : cutAt? '=' word = some (before, after)) :
    word = before ++ "=" ++ after := by
  obtain ⟨⟨front, back⟩, hcut, he⟩ := Option.map_eq_some_iff.1 h
  cases he
  have hchars := eq_append_of_cutFirst hcut
  exact String.toList_injective (by simpa using hchars)

theorem joinedItem?_eq_some_iff : joinedItem? word = some item ↔
    ∃ option value, option ∈ joinedOptions ∧ item = .joined option value ∧
      word = option ++ "=" ++ value := by
  constructor
  · intro h
    obtain ⟨⟨option, value⟩, hcut, h⟩ := Option.bind_eq_some_iff.1 h
    dsimp only at h
    split at h
    · next hmem =>
      cases h
      exact ⟨option, value, hmem, rfl, eq_of_cutAt? hcut⟩
    · cases h
  · rintro ⟨option, value, hmem, rfl, rfl⟩
    have hequals : ∀ option ∈ joinedOptions, '=' ∉ option.toList := by decide
    rw [joinedItem?, cutAt?_equals (hequals option hmem), Option.bind_some]
    exact if_pos hmem

/-- **The words of an option are read as that option**, whatever stands after them. -/
theorem readItems?_words (h : item.Proper) :
    readItems? (item.words ++ rest) = (readItems? rest).map (item :: ·) := by
  have hplain : ∀ word ∈ loneOptions ++ valuedOptions, joinedItem? word = none := by decide
  cases item with
  | lone option =>
    have hnone := hplain option (List.mem_append_left _ h)
    rw [Item.words, List.singleton_append, readItems?.eq_def]
    simp only [hnone]
    exact if_pos h
  | spaced option value =>
    have hnone := hplain option (List.mem_append_right _ h)
    have hlone := (by decide : ∀ word ∈ valuedOptions, word ∉ loneOptions) option h
    rw [Item.words, List.cons_append, List.singleton_append, readItems?.eq_def]
    simp only [hnone, if_neg hlone]
    exact if_pos h
  | joined option value =>
    have hsome : joinedItem? (option ++ "=" ++ value) = some (.joined option value) :=
      joinedItem?_eq_some_iff.2 ⟨option, value, h, rfl, rfl⟩
    rw [Item.words, List.singleton_append, readItems?.eq_def]
    simp only [hsome]

/-- **What is read is what has been written.** -/
theorem readItems?_eq_some_iff : readItems? words = some items ↔
    (∀ item ∈ items, item.Proper) ∧ words = items.flatMap Item.words := by
  constructor
  · intro h
    fun_induction readItems? words generalizing items with
    | case1 =>
      cases h
      simp
    | case2 word rest item hitem ih =>
      obtain ⟨later, hlater, rfl⟩ := Option.map_eq_some_iff.1 h
      obtain ⟨option, value, hmem, rfl, rfl⟩ := joinedItem?_eq_some_iff.1 hitem
      obtain ⟨hproper, rfl⟩ := ih hlater
      exact ⟨List.forall_mem_cons.2 ⟨hmem, hproper⟩, rfl⟩
    | case3 word rest hitem hlone ih =>
      obtain ⟨later, hlater, rfl⟩ := Option.map_eq_some_iff.1 h
      obtain ⟨hproper, rfl⟩ := ih hlater
      exact ⟨List.forall_mem_cons.2 ⟨hlone, hproper⟩, rfl⟩
    | case4 => cases h
    | case5 word hitem hlone hvalued value rest ih =>
      obtain ⟨later, hlater, rfl⟩ := Option.map_eq_some_iff.1 h
      obtain ⟨hproper, rfl⟩ := ih hlater
      exact ⟨List.forall_mem_cons.2 ⟨hvalued, hproper⟩, rfl⟩
    | case6 => cases h
  · rintro ⟨hproper, rfl⟩
    induction items with
    | nil => rfl
    | cons item items ih =>
      obtain ⟨hitem, hitems⟩ := List.forall_mem_cons.1 hproper
      rw [List.flatMap_cons, readItems?_words hitem, ih hitems]
      rfl

/-- **An argument vector is read as it has been written**, and in no other way. -/
theorem readArgv?_eq_some_iff :
    readArgv? argv = some (items, image) ↔ Written items image argv := by
  constructor
  · intro h
    unfold readArgv? at h
    split at h
    · next words =>
      obtain ⟨read, hread, h⟩ := Option.bind_eq_some_iff.1 h
      obtain ⟨last, hlast, h⟩ := Option.bind_eq_some_iff.1 h
      cases h
      obtain ⟨options, rfl⟩ := List.getLast?_eq_some_iff.1 hlast
      rw [List.dropLast_concat] at hread
      obtain ⟨hproper, rfl⟩ := readItems?_eq_some_iff.1 hread
      exact ⟨hproper, rfl⟩
    · cases h
  · rintro ⟨hproper, rfl⟩
    have hread := readItems?_eq_some_iff.2 ⟨hproper, rfl⟩
    simp [readArgv?, hread]

theorem Written.unique {items' : List Item} {image' : String} (h : Written items image argv)
    (h' : Written items' image' argv) : items = items' ∧ image = image' := by
  have hread := readArgv?_eq_some_iff.2 h
  rw [readArgv?_eq_some_iff.2 h'] at hread
  exact Prod.mk.inj (Option.some.inj hread).symm

/-! ## Wishes -/

/-- The words of a wish are written in the grammar, if those taken over as they are can be read. -/
theorem words_items {o : RunOption} (h : ∀ args, o = .verbatim args → (readItems? args).isSome) :
    (∀ item ∈ o.items, item.Proper) ∧ o.args = o.items.flatMap Item.words := by
  cases o with
  | verbatim args =>
    obtain ⟨items, hitems⟩ := Option.isSome_iff_exists.1 (h args rfl)
    rw [RunOption.items, hitems]
    exact readItems?_eq_some_iff.1 hitems
  | _ =>
    refine ⟨?_, rfl⟩
    simp [RunOption.items, Item.Proper, loneOptions, valuedOptions, joinedOptions]

theorem flatMap_items {α : Type} {wish : α → RunOption} {make : α → Item} {xs : List α}
    (h : ∀ x, (wish x).items = [make x]) :
    (xs.map wish).flatMap RunOption.items = xs.map make := by
  induction xs with
  | nil => rfl
  | cons x xs ih =>
    rw [List.map_cons, List.flatMap_cons, h, ih]
    rfl

/-- **The wishes about a container are written in the grammar.** -/
theorem written_argv {r : RunArgs}
    (h : ∀ args, .verbatim args ∈ r.options → (readItems? args).isSome) :
    Written (.lone "--detach" :: .lone "--tty" :: r.options.flatMap RunOption.items) r.image
      r.argv := by
  have hwords : ∀ o ∈ r.options,
      (∀ item ∈ o.items, item.Proper) ∧ o.args = o.items.flatMap Item.words :=
    fun o ho => words_items fun args ha => h args (ha ▸ ho)
  have hproper : ∀ item ∈ r.options.flatMap RunOption.items, item.Proper := fun item hitem => by
    obtain ⟨o, ho, hitem⟩ := List.mem_flatMap.1 hitem
    exact (hwords o ho).1 item hitem
  refine ⟨List.forall_mem_cons.2 ⟨?_, List.forall_mem_cons.2 ⟨?_, hproper⟩⟩, ?_⟩
  · exact (by decide : "--detach" ∈ loneOptions)
  · exact (by decide : "--tty" ∈ loneOptions)
  · have hargs : r.options.flatMap RunOption.args =
        (r.options.flatMap RunOption.items).flatMap Item.words := by
      rw [List.flatMap_assoc, List.flatMap_def, List.flatMap_def,
        List.map_congr_left fun o ho => (hwords o ho).2]
    rw [RunArgs.argv, hargs]
    rfl

/-! ## Values -/

@[simp] theorem valuesOf_nil {spelling : String} : valuesOf spelling [] = [] := rfl

@[simp] theorem valuesOf_append {spelling : String} {a b : List Item} :
    valuesOf spelling (a ++ b) = valuesOf spelling a ++ valuesOf spelling b := by
  simp [valuesOf]

theorem valuesOf_map {α : Type} {spelling own : String} {make : α → Item} {value : α → String}
    {xs : List α} (h : ∀ x, (make x).setting = (own, value x)) :
    valuesOf spelling (xs.map make) = if own = spelling then xs.map value else [] := by
  have hsetting : Item.setting ∘ make = fun x => (own, value x) := funext h
  rw [valuesOf, List.map_map, hsetting]
  by_cases hown : own = spelling
  · have hall : xs.filter (fun _ => true) = xs := List.filter_eq_self.2 fun _ _ => rfl
    simp [values, List.filter_map, Function.comp_def, hown, hall]
  · simp [values, List.filter_map, Function.comp_def, hown]

end LocalCluster.Container
