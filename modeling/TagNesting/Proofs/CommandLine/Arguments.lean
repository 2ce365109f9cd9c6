import TagNesting.CommandLine.Arguments
import TagNesting.Proofs.Settings.Json
import TagNesting.Proofs.Text.Stretch

/-!
# `Proofs.CommandLine.Arguments` — a command line is read as what it was written for

Options may stand before and after the file, in any order, with their values behind an `=` or in the next argument
(`Lists`). None of this makes a difference to what `gather` finds, which is the options and files as they are listed;
the induction goes along the arguments, with what has been gathered so far as a variable (`gather_of_lists`).

So a command line with some options makes the request with their values, whichever of them are given and however they
are written (`parse?_check`, `parse?_tokens`).
-/

namespace TagNesting.CommandLine

/-- The arguments hold these options with their values, and these files, each in order. -/
inductive Lists : List String → Gathered → Prop where
  | nil : Lists [] {}
  /-- `--name value` -/
  | apart {arguments : List String} {g : Gathered} (name : String) {value : String}
      (hvalue : looksLikeOption value = false) :
      Lists arguments g → Lists (("--" ++ name) :: value :: arguments) { g with options := (name, value) :: g.options }
  /-- `--name=value` -/
  | joined {arguments : List String} {g : Gathered} (name value : String) :
      Lists arguments g →
        Lists (("--" ++ (name ++ "=" ++ value)) :: arguments) { g with options := (name, value) :: g.options }
  | file {arguments : List String} {g : Gathered} {path : String} (hpath : looksLikeOption path = false) :
      Lists arguments g → Lists (path :: arguments) { g with files := path :: g.files }
  | verbose {arguments : List String} {g : Gathered} {argument : String} (hverbose : isVerbose argument = true)
      (hquiet : g.verbose = false) :
      Lists arguments g → Lists (argument :: arguments) { g with verbose := true }
  /-- Behind `--` there are files only. -/
  | rest (files : List String) : Lists ("--" :: files) { files }

/-- A name that can be told from a value behind an `=`, from `--` and from `--verbose`. -/
structure IsOptionName (name : String) : Prop where
  no_equals : '=' ∉ name.toList
  ne_empty : name ≠ ""
  ne_verbose : name ≠ "verbose"

instance decidableIsOptionName (name : String) : Decidable (IsOptionName name) :=
  decidable_of_iff ('=' ∉ name.toList ∧ name ≠ "" ∧ name ≠ "verbose")
    ⟨fun ⟨hequals, hempty, hverbose⟩ => ⟨hequals, hempty, hverbose⟩,
      fun ⟨hequals, hempty, hverbose⟩ => ⟨hequals, hempty, hverbose⟩⟩

variable {known arguments : List String} {g given : Gathered} {name value path : String}

/-! ## One argument -/

section Dashes

variable {option : String} {tail : List Char}

theorem toList_dashes (option : String) : ("--" ++ option).toList = '-' :: '-' :: option.toList := by
  rw [String.toList_append]
  rfl

theorem dashes_inj {other : String} (h : "--" ++ option = "--" ++ other) : option = other := by
  have hlist := congrArg String.toList h
  rw [toList_dashes, toList_dashes] at hlist
  exact String.toList_injective (List.cons.inj (List.cons.inj hlist).2).2

theorem looksLikeOption_dashes (option : String) : looksLikeOption ("--" ++ option) = true := by
  have hne : "--" ++ option ≠ "-" := by
    intro h
    have hlist := congrArg String.toList h
    rw [toList_dashes] at hlist
    exact absurd (List.cons.inj hlist).2 (List.cons_ne_nil _ _)
  simp [looksLikeOption, hne]

/-- A long option is split behind its name. -/
theorem longOption?_dashes (hname : IsOptionName name) (hoption : option.toList = name.toList ++ tail)
    (htail : ∀ c ∈ tail.head?, c = '=') :
    longOption? ("--" ++ option) = some (name, tail.tail?.map String.ofList) := by
  have hpart : ∀ c ∈ name.toList, (c != '=') = true := by
    intro c hc
    rw [bne_iff_ne]
    rintro rfl
    exact hname.no_equals hc
  have hrest : ∀ c ∈ tail.head?, (c != '=') = false := by
    intro c hc
    rw [htail c hc]
    rfl
  simp only [longOption?, toList_dashes, hoption, Text.takeWhile_stop hpart hrest, Text.dropWhile_stop hpart hrest,
    String.ofList_toList]
  cases tail <;> rfl

/-- It is neither the end of the options nor a wish for more output. -/
theorem dashes_plain (hname : IsOptionName name) (hoption : option.toList = name.toList ++ tail)
    (htail : ∀ c ∈ tail.head?, c = '=') : "--" ++ option ≠ "--" ∧ isVerbose ("--" ++ option) = false := by
  have hne : option ≠ "" := by
    rintro rfl
    obtain ⟨hempty, -⟩ := List.append_eq_nil_iff.1 hoption.symm
    exact hname.ne_empty (String.toList_injective hempty)
  have hverbose : option ≠ "verbose" := by
    rintro rfl
    cases tail with
    | nil =>
        rw [List.append_nil] at hoption
        exact hname.ne_verbose (String.toList_injective hoption.symm)
    | cons c tail =>
        -- there is no `=` in it
        have hmem : c ∈ "verbose".toList := by
          rw [hoption]
          exact List.mem_append_right _ List.mem_cons_self
        rw [htail c rfl] at hmem
        exact absurd hmem (by decide)
  have hshort : "--" ++ option ≠ "-v" := by
    intro h
    have hlist := congrArg String.toList h
    rw [toList_dashes] at hlist
    exact absurd (List.cons.inj (List.cons.inj hlist).2).1 (by decide)
  refine ⟨fun h => hne (dashes_inj h), ?_⟩
  have hlong : "--" ++ option ≠ "--verbose" := fun h => hverbose (dashes_inj h)
  simp [isVerbose, hshort, hlong]

end Dashes

theorem gather_apart (hname : IsOptionName name) (hvalue : looksLikeOption value = false) :
    gather known g (("--" ++ name) :: value :: arguments) =
      (g.addOption? known name value).bind (gather known · arguments) := by
  have hoption : name.toList = name.toList ++ [] := (List.append_nil _).symm
  have htail : ∀ c ∈ ([] : List Char).head?, c = '=' := fun _ hc => absurd hc (by simp)
  obtain ⟨hdashes, hquiet⟩ := dashes_plain hname hoption htail
  have hlong : longOption? ("--" ++ name) = some (name, none) := longOption?_dashes hname hoption htail
  rw [gather.eq_def]
  simp [hdashes, hquiet, looksLikeOption_dashes, hlong, hvalue]

theorem gather_joined (hname : IsOptionName name) :
    gather known g (("--" ++ (name ++ "=" ++ value)) :: arguments) =
      (g.addOption? known name value).bind (gather known · arguments) := by
  have hoption : (name ++ "=" ++ value).toList = name.toList ++ ('=' :: value.toList) := by
    rw [String.toList_append, String.toList_append, List.append_assoc]
    rfl
  have htail : ∀ c ∈ ('=' :: value.toList).head?, c = '=' := by
    rintro c ⟨⟩
    rfl
  obtain ⟨hdashes, hquiet⟩ := dashes_plain hname hoption htail
  have hlong : longOption? ("--" ++ (name ++ "=" ++ value)) = some (name, some value) := by
    rw [longOption?_dashes hname hoption htail, List.tail?_cons, Option.map_some, String.ofList_toList]
  rw [gather.eq_def]
  simp [hdashes, hquiet, looksLikeOption_dashes, hlong]

theorem gather_file (hpath : looksLikeOption path = false) :
    gather known g (path :: arguments) = gather known { g with files := path :: g.files } arguments := by
  have hdashes : path ≠ "--" := by
    rintro rfl
    exact absurd hpath (by decide)
  have hquiet : isVerbose path = false := by
    rw [isVerbose, Bool.or_eq_false_iff, decide_eq_false_iff_not, decide_eq_false_iff_not]
    refine ⟨?_, ?_⟩ <;> rintro rfl <;> exact absurd hpath (by decide)
  rw [gather.eq_def]
  simp [hdashes, hquiet, hpath]

theorem gather_verbose {argument : String} (hverbose : isVerbose argument = true) (hquiet : g.verbose = false) :
    gather known g (argument :: arguments) = gather known { g with verbose := true } arguments := by
  have hdashes : argument ≠ "--" := by
    rintro rfl
    exact absurd hverbose (by decide)
  rw [gather.eq_def]
  simp [hdashes, hverbose, hquiet]

theorem addOption?_eq_some (hentry : name ∈ known ∧ value ≠ "")
    (hnodup : (((name, value) :: g.options).map Prod.fst).Nodup) :
    g.addOption? known name value = some { g with options := (name, value) :: g.options } := by
  have hnone : g.options.lookup name = none := by
    rw [List.lookup_eq_none_iff]
    intro entry hmem
    rw [bne_iff_ne]
    rintro rfl
    exact (List.nodup_cons.1 hnodup).1 (List.mem_map.2 ⟨entry, hmem, rfl⟩)
  simp [Gathered.addOption?, hentry, hnone]

/-! ## All arguments -/

/-- **What the arguments list is what is gathered from them**, on top of what has been gathered before. -/
theorem gather_of_lists (hknown : ∀ name ∈ known, IsOptionName name) (h : Lists arguments given)
    (hoptions : ∀ entry ∈ given.options, entry.1 ∈ known ∧ entry.2 ≠ "")
    (hnodup : ((given.options.reverse ++ g.options).map Prod.fst).Nodup)
    (hverbose : given.verbose = true → g.verbose = false) :
    gather known g arguments = some
      { verbose := g.verbose || given.verbose
        options := given.options.reverse ++ g.options
        files := given.files.reverse ++ g.files } := by
  induction h generalizing g with
  | nil => simp [gather]
  | @apart arguments later name value hvalue hlater ih =>
      simp only [List.reverse_cons, List.append_assoc, List.singleton_append] at hnodup ⊢
      obtain ⟨hfirst, hothers⟩ := List.forall_mem_cons.1 hoptions
      have hkeys := hnodup.sublist ((List.sublist_append_right _ _).map Prod.fst)
      rw [gather_apart (hknown name hfirst.1) hvalue, addOption?_eq_some hfirst hkeys]
      exact ih hothers hnodup hverbose
  | @joined arguments later name value hlater ih =>
      simp only [List.reverse_cons, List.append_assoc, List.singleton_append] at hnodup ⊢
      obtain ⟨hfirst, hothers⟩ := List.forall_mem_cons.1 hoptions
      have hkeys := hnodup.sublist ((List.sublist_append_right _ _).map Prod.fst)
      rw [gather_joined (hknown name hfirst.1), addOption?_eq_some hfirst hkeys]
      exact ih hothers hnodup hverbose
  | file hpath hlater ih =>
      simp only [List.reverse_cons, List.append_assoc, List.singleton_append]
      rw [gather_file hpath]
      exact ih hoptions hnodup hverbose
  | verbose hargument hquiet hlater ih =>
      rw [gather_verbose hargument (hverbose rfl), Bool.or_true]
      exact ih hoptions hnodup fun hloud => absurd hloud (by simp [hquiet])
  | rest files =>
      rw [gather.eq_def]
      simp

/-! ## Requests -/

theorem Format.enumerates : Enumerates Format.all Format.word where
  complete := by
    intro format
    cases format <;> decide
  words_nodup := by decide

/-- The value of an option is the one whose word has been given, if any. -/
theorem Gathered.word?_eq {α : Type} {all : List α} {word : α → String} (h : Enumerates all word) {choice : Option α}
    (hlookup : g.options.lookup name = choice.map word) : g.word? name all word = some choice := by
  unfold Gathered.word?
  cases choice with
  | none => rw [hlookup, Option.map_none]
  | some value =>
      have hfind : all.find? (word · = word value) = some value := h.find?_eq_some_iff.2 rfl
      simp only [hlookup, Option.map_some, hfind]

/-- A word that has been given is not empty, if none is. -/
theorem ne_empty_of_mem_word {α : Type} {all : List α} {word : α → String} (h : Enumerates all word)
    (hempty : "" ∉ all.map word) {choice : Option α} : ∀ given ∈ choice.map word, given ≠ "" := by
  intro given hgiven
  obtain ⟨value, -, rfl⟩ := Option.map_eq_some_iff.1 hgiven
  intro heq
  exact hempty (heq ▸ List.mem_map_of_mem (h.complete value))

section Requests

variable {choices : List (String × Option String)}

/-- The options with a value, out of all options that there are. -/
def givenOptions (choices : List (String × Option String)) : List (String × String) :=
  choices.filterMap fun choice => choice.2.map (choice.1, ·)

theorem mem_givenOptions : (name, value) ∈ givenOptions choices ↔ (name, some value) ∈ choices := by
  simp only [givenOptions, List.mem_filterMap, Option.map_eq_some_iff, Prod.mk.injEq]
  constructor
  · rintro ⟨⟨_, _⟩, hchoice, _, rfl, rfl, rfl⟩
    exact hchoice
  · intro hchoice
    exact ⟨(name, some value), hchoice, value, rfl, rfl, rfl⟩

theorem keys_givenOptions (choices : List (String × Option String)) :
    ((givenOptions choices).map Prod.fst).Sublist (choices.map Prod.fst) := by
  induction choices with
  | nil => exact List.Sublist.slnil
  | cons choice choices ih =>
      obtain ⟨name, _ | value⟩ := choice
      · exact ih.cons name
      · exact ih.cons_cons name

theorem lookup_givenOptions (hnodup : (choices.map Prod.fst).Nodup) {choice : Option String}
    (hchoice : (name, choice) ∈ choices) : (givenOptions choices).lookup name = choice := by
  refine Option.ext fun value => ?_
  rw [lookup_eq_some_iff_mem (hnodup.sublist (keys_givenOptions choices)), mem_givenOptions]
  constructor
  · intro hvalue
    have hsame : (name, choice) = (name, some value) := List.inj_on_of_nodup_map hnodup hchoice hvalue rfl
    exact (Prod.mk.inj hsame).2
  · rintro rfl
    exact hchoice

/-- **One file and some of the options are found as they have been written**, in whatever order. -/
theorem exists_gather_eq (hnames : ∀ name ∈ known, IsOptionName name) (hnodup : known.Nodup)
    (hknown : choices.map Prod.fst = known) (hvalues : ∀ choice ∈ choices, ∀ value ∈ choice.2, value ≠ "")
    (h : Lists arguments given) (hoptions : given.options.Perm (givenOptions choices)) (hfiles : given.files = [path])
    (hpath : path ≠ "") :
    ∃ g, gather known {} arguments = some g ∧ g.path? = some path ∧
      ∀ choice ∈ choices, g.options.lookup choice.1 = choice.2 := by
  subst hknown
  have hgiven : ∀ entry ∈ given.options, entry.1 ∈ choices.map Prod.fst ∧ entry.2 ≠ "" := by
    intro entry hentry
    have hchoice := mem_givenOptions.1 (hoptions.subset hentry)
    exact ⟨List.mem_map.2 ⟨_, hchoice, rfl⟩, hvalues _ hchoice _ rfl⟩
  have hgathered : (given.options.reverse ++ []).Perm (givenOptions choices) := by
    rw [List.append_nil]
    exact (List.reverse_perm _).trans hoptions
  have hkeys := hnodup.sublist (keys_givenOptions choices)
  have hkeys' : ((given.options.reverse ++ []).map Prod.fst).Nodup := (hgathered.map Prod.fst).nodup_iff.2 hkeys
  refine ⟨_, gather_of_lists hnames h hgiven hkeys' fun _ => rfl, ?_, ?_⟩
  · simp [Gathered.path?, hfiles, hpath]
  · rintro ⟨name, choice⟩ hchoice
    refine Eq.trans (Option.ext fun value => ?_) (lookup_givenOptions hnodup hchoice)
    rw [lookup_eq_some_iff_mem hkeys', lookup_eq_some_iff_mem hkeys, hgathered.mem_iff]

variable (format : Option Format) (config : Option String) (policy : Option SkipPolicy) (mode : Option ScanMode)

/-- **A check is read as it was written**: with the options that have been chosen, in any order and before or after the
file, a command line asks for a check of the file with these choices. -/
theorem parse?_check (h : Lists arguments given) (hfiles : given.files = [path]) (hpath : path ≠ "")
    (hoptions : given.options.Perm (givenOptions [("format", format.map Format.word), ("config", config),
      ("policy", policy.map SkipPolicy.word), ("mode", mode.map ScanMode.word)]))
    (hconfig : ∀ file ∈ config, file ≠ "") :
    parse? ("check" :: arguments) = some (.check path (format.getD .text) config policy mode) := by
  have hnames : ∀ name ∈ ["format", "config", "policy", "mode"], IsOptionName name := by decide
  have hvalues : ∀ choice ∈ [("format", format.map Format.word), ("config", config),
      ("policy", policy.map SkipPolicy.word), ("mode", mode.map ScanMode.word)],
      ∀ value ∈ choice.2, value ≠ "" := by
    simp only [List.forall_mem_cons]
    exact ⟨ne_empty_of_mem_word Format.enumerates (by decide), hconfig,
      ne_empty_of_mem_word SkipPolicy.enumerates (by decide), ne_empty_of_mem_word ScanMode.enumerates (by decide),
      List.forall_mem_nil _⟩
  obtain ⟨g, hgather, hfile, hlookup⟩ := exists_gather_eq hnames (by decide) rfl hvalues h hoptions hfiles hpath
  simp only [List.forall_mem_cons] at hlookup
  obtain ⟨hformat, hsettings, hpolicy, hmode, -⟩ := hlookup
  have hrequest : checkRequest? arguments = some (.check path (format.getD .text) config policy mode) := by
    simp only [checkRequest?, hgather, hfile, hsettings, Gathered.word?_eq Format.enumerates hformat,
      Gathered.word?_eq SkipPolicy.enumerates hpolicy, Gathered.word?_eq ScanMode.enumerates hmode,
      Option.bind_eq_bind, Option.bind_some, Option.pure_def]
  exact hrequest

/-- **So is a listing of tokens.** -/
theorem parse?_tokens (h : Lists arguments given) (hfiles : given.files = [path]) (hpath : path ≠ "")
    (hoptions : given.options.Perm (givenOptions [("mode", mode.map ScanMode.word)])) :
    parse? ("tokens" :: arguments) = some (.tokens path mode) := by
  have hnames : ∀ name ∈ ["mode"], IsOptionName name := by decide
  have hvalues : ∀ choice ∈ [("mode", mode.map ScanMode.word)], ∀ value ∈ choice.2, value ≠ "" :=
    List.forall_mem_singleton.2 (ne_empty_of_mem_word ScanMode.enumerates (by decide))
  obtain ⟨g, hgather, hfile, hlookup⟩ := exists_gather_eq hnames (by decide) rfl hvalues h hoptions hfiles hpath
  have hmode := List.forall_mem_singleton.1 hlookup
  have hrequest : tokensRequest? arguments = some (.tokens path mode) := by
    simp only [tokensRequest?, hgather, hfile, Gathered.word?_eq ScanMode.enumerates hmode, Option.bind_eq_bind,
      Option.bind_some, Option.pure_def]
  exact hrequest

end Requests

/-- A wish for more output may stand in front of all that. -/
theorem parse?_verbose {argument command : String} (hverbose : isVerbose argument = true)
    (hcommand : isVerbose command = false) : parse? (argument :: command :: arguments) = parse? (command :: arguments) := by
  simp [parse?, hverbose, hcommand]

end TagNesting.CommandLine
