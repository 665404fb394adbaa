import UnitResolution.CommandLine.Arguments
import Mathlib.Data.List.Induction

/-!
# Groups of words

A command line consists of groups: an option with its value, a dash word that stands alone, a word
that is no option, or an empty word (`UnitResolution.CommandLine.Group`). Only an option at the very
end can lack its value.

What a command line says can be read off two lists, its options and its other words, each in their
order (`UnitResolution.CommandLine.Arguments.of`). So it does not matter how the two are mixed: the
theorem `UnitResolution.CommandLine.read_groups` says that the options may as well stand first.
-/

namespace UnitResolution.CommandLine

/-! ## Groups -/

/-- A word that is no option. -/
structure Positional where
  word : String
  filled : word.isEmpty = false
  plain : isOption word = false

/-- A dash word that stands alone, known or not, or an option with its value, whatever that is. -/
inductive OptionGroup
  | alone (word : String) (dashed : isOption word = true) (valueless : setting? word = none)
  | setting (word value : String) (known : (setting? word).isSome)

/-- A complete part of a command line. -/
inductive Group
  | option (o : OptionGroup)
  | positional (p : Positional)
  | empty

/-- The words of an option. -/
def OptionGroup.words : OptionGroup → List String
  | alone word _ _ => [word]
  | setting word value _ => [word, value]

/-- The words of a group. -/
def Group.words : Group → List String
  | option o => o.words
  | positional p => [p.word]
  | empty => [""]

/-- The words of a command line. -/
def wordsOf (groups : List Group) : List String := groups.flatMap Group.words

/-- The options among groups. -/
def optionsOf (groups : List Group) : List OptionGroup :=
  groups.filterMap fun
    | .option o => some o
    | _ => none

/-- The words among groups that are no options, the empty ones apart. -/
def positionalsOf (groups : List Group) : List Positional :=
  groups.filterMap fun
    | .positional p => some p
    | _ => none

/-! ## What groups say -/

/-- Whether an option is one of the given words, which stands alone. -/
def OptionGroup.isAlone (names : List String) : OptionGroup → Bool
  | alone word _ _ => names.contains word
  | setting _ _ _ => false

/-- The value that an option gives under one of the given names. -/
def OptionGroup.value? (names : List String) : OptionGroup → Option String
  | alone _ _ _ => none
  | setting word value _ => if names.contains word then some value else none

/-- Whether one of the given words stands alone among options. -/
def isGiven (names : List String) (options : List OptionGroup) : Bool :=
  options.any (OptionGroup.isAlone names)

/-- The last value that options give under one of the given names. -/
def lastValue? (names : List String) (options : List OptionGroup) : Option String :=
  (options.filterMap (OptionGroup.value? names)).getLast?

/-- The command that an option stands for, if it stands alone. -/
def OptionGroup.command? : OptionGroup → Option String
  | alone word _ _ => CommandLine.command? word
  | setting _ _ _ => none

/-- What options say, where no one of them decides alone. -/
def Options.of (options : List OptionGroup) : Options where
  verbose := isGiven ["-V", "--verbose"] options
  quiet := isGiven ["-q", "--quiet"] options
  config := lastValue? ["-c", "--config"] options
  runtime := lastValue? ["--runtime"] options
  packageRoot := lastValue? ["--package-root"] options
  packageRoots := (lastValue? ["--package-roots"] options).map splitList
  entry := lastValue? ["--entry"] options
  noTransitive := isGiven ["--no-transitive"] options
  onlyConstants := isGiven ["--only-constants"] options

/-- What options and other words say, where no option decides alone: the first two words that are no
options are the command and the identifier. -/
def Arguments.gathered (options : List OptionGroup) (positionals : List Positional) :
    Arguments where
  command := (positionals[0]?.map (·.word)).getD ""
  identifier := positionals[1]?.map (·.word)
  options := .of options

/-- What options and other words say: the first request for help or for the version decides
alone. -/
def Arguments.of (options : List OptionGroup) (positionals : List Positional) : Arguments :=
  match options.findSome? OptionGroup.command? with
  | some command => { command }
  | none => .gathered options positionals

/-! ## Reading a group -/

/-- What an option does to the options read before. -/
def OptionGroup.change : OptionGroup → Options → Options
  | alone word _ _, o => (flag? word).elim o (· o)
  | setting word value _, o => (setting? word).elim o (· value o)

/-- What a group does to the arguments read before, unless it decides alone. -/
def Group.change : Group → Arguments → Arguments
  | option o, a => { a with options := o.change a.options }
  | positional p, a =>
      if a.command.isEmpty then { a with command := p.word }
      else if a.identifier.isNone then { a with identifier := some p.word }
      else a
  | empty, a => a

/-- The command that a group stands for, if it decides alone. -/
def Group.command? : Group → Option String
  | option o => o.command?
  | _ => none

theorem isOption_of_setting? {word : String} (known : (setting? word).isSome) :
    isOption word = true ∧ word.isEmpty = false ∧ command? word = none := by
  unfold setting? at known
  split at known <;> cases known <;> decide

theorem isEmpty_of_isOption {word : String} (dashed : isOption word = true) :
    word.isEmpty = false := by
  cases filled : word.isEmpty with
  | false => rfl
  | true =>
      rw [String.isEmpty_iff.mp filled] at dashed
      cases dashed

theorem readFrom_group (a : Arguments) (g : Group) (rest : List String) :
    a.readFrom (g.words ++ rest) =
      match g.command? with
      | some command => { command }
      | none => (g.change a).readFrom rest := by
  cases g with
  | empty => simp [Group.words, Group.command?, Group.change, Arguments.readFrom]
  | positional p =>
      obtain ⟨word, filled, plain⟩ := p
      simp only [Group.words, Group.command?, Group.change, List.singleton_append,
        Arguments.readFrom, filled, plain, Bool.not_false, Bool.false_eq_true, ↓reduceIte]
      split
      · rfl
      · split <;> rfl
  | option o =>
      cases o with
      | alone word dashed valueless =>
          simp only [Group.words, OptionGroup.words, Group.command?, OptionGroup.command?,
            Group.change, OptionGroup.change, List.singleton_append, Arguments.readFrom, dashed,
            isEmpty_of_isOption dashed, valueless, Bool.not_true, Bool.false_eq_true, ↓reduceIte]
          cases command? word with
          | some command => rfl
          | none => cases flag? word <;> rfl
      | setting word value known =>
          obtain ⟨dashed, filled, other⟩ := isOption_of_setting? known
          obtain ⟨set, known⟩ := Option.isSome_iff_exists.mp known
          simp only [Group.words, OptionGroup.words, Group.command?, OptionGroup.command?,
            Group.change, OptionGroup.change, List.cons_append, List.nil_append, Arguments.readFrom,
            dashed, filled, other, known, Bool.not_true, Bool.false_eq_true, ↓reduceIte,
            Option.elim_some]

/-- The first group that decides alone does so, and otherwise each group does its part. -/
theorem readFrom_groups (a : Arguments) (groups : List Group) :
    a.readFrom (wordsOf groups) =
      match groups.findSome? Group.command? with
      | some command => { command }
      | none => groups.foldl (fun a g => g.change a) a := by
  induction groups generalizing a with
  | nil => rfl
  | cons g rest ih =>
      have split : wordsOf (g :: rest) = g.words ++ wordsOf rest := List.flatMap_cons
      rw [split, readFrom_group, List.findSome?_cons, List.foldl_cons]
      cases g.command? with
      | some command => rfl
      | none => exact ih (g.change a)

/-! ## What the groups do together -/

theorem isGiven_concat (names : List String) (options : List OptionGroup) (o : OptionGroup) :
    isGiven names (options ++ [o]) = (isGiven names options || o.isAlone names) := by
  unfold isGiven
  rw [List.any_append, List.any_cons, List.any_nil, Bool.or_false]

theorem lastValue?_concat (names : List String) (options : List OptionGroup) (o : OptionGroup) :
    lastValue? names (options ++ [o]) = (o.value? names).or (lastValue? names options) := by
  unfold lastValue?
  rw [List.filterMap_append]
  cases given : o.value? names with
  | none => rw [List.filterMap_cons_none given, List.filterMap_nil, List.append_nil, Option.none_or]
  | some value => rw [List.filterMap_cons_some given, List.filterMap_nil, List.getLast?_concat]; rfl

/-- One more option changes what options say in its own way only. -/
theorem Options.of_concat (options : List OptionGroup) (o : OptionGroup) :
    Options.of (options ++ [o]) = o.change (.of options) := by
  unfold Options.of
  simp only [isGiven_concat, lastValue?_concat]
  cases o with
  | alone word dashed valueless =>
      simp only [OptionGroup.isAlone, OptionGroup.value?, OptionGroup.change]
      cases named : flag? word with
      | some set =>
          unfold flag? at named
          split at named <;> cases named <;> simp
      | none =>
          have different : ∀ name ∈ ["-V", "--verbose", "-q", "--quiet", "--no-transitive",
              "--only-constants"], word ≠ name := by
            intro name listed same
            subst same
            exact (by decide : ∀ name ∈ ["-V", "--verbose", "-q", "--quiet", "--no-transitive",
              "--only-constants"], flag? name ≠ none) word listed named
          simp at different
          simp [different]
  | setting word value known =>
      simp only [OptionGroup.isAlone, OptionGroup.value?, OptionGroup.change]
      obtain ⟨set, named⟩ := Option.isSome_iff_exists.mp known
      rw [named]
      unfold setting? at named
      split at named <;> cases named <;> simp

/-- One more group adds to what has been gathered. -/
theorem change_gathered (groups : List Group) (g : Group) :
    g.change (.gathered (optionsOf groups) (positionalsOf groups)) =
      .gathered (optionsOf (groups ++ [g])) (positionalsOf (groups ++ [g])) := by
  unfold optionsOf positionalsOf
  rw [List.filterMap_append, List.filterMap_append]
  cases g with
  | option o =>
      simp only [Group.change, Arguments.gathered, List.filterMap_cons, List.filterMap_nil,
        List.append_nil, Options.of_concat]
  | empty =>
      simp only [Group.change, List.filterMap_cons, List.filterMap_nil, List.append_nil]
  | positional p =>
      simp only [List.filterMap_cons, List.filterMap_nil, List.append_nil]
      generalize groups.filterMap _ = options
      generalize groups.filterMap _ = before
      match before with
      | [] => simp [Group.change, Arguments.gathered]
      | [first] => simp [Group.change, Arguments.gathered, first.filled]
      | first :: second :: rest => simp [Group.change, Arguments.gathered, first.filled]

theorem foldl_change (groups : List Group) :
    groups.foldl (fun a g => g.change a) {} =
      .gathered (optionsOf groups) (positionalsOf groups) := by
  induction groups using List.reverseRecOn with
  | nil => rfl
  | append_singleton groups g ih =>
      rw [List.foldl_append, ih]
      exact change_gathered groups g

theorem findSome?_command? (groups : List Group) :
    groups.findSome? Group.command? = (optionsOf groups).findSome? OptionGroup.command? := by
  induction groups with
  | nil => rfl
  | cons g rest ih =>
      cases g with
      | option o =>
          have first : optionsOf (.option o :: rest) = o :: optionsOf rest := rfl
          rw [first, List.findSome?_cons, List.findSome?_cons, ih]
          rfl
      | positional p => exact ih
      | empty => exact ih

/-- What the words of groups say can be read off their options and their other words. -/
theorem read_wordsOf (groups : List Group) :
    Arguments.read (wordsOf groups) = .of (optionsOf groups) (positionalsOf groups) := by
  unfold Arguments.read Arguments.of
  rw [readFrom_groups, findSome?_command?, foldl_change]

/-! ## Splitting words into groups -/

/-- Words consist of groups, apart from an option at the end that lacks its value. -/
def IsGrouped (words : List String) : Prop :=
  ∃ groups, words = wordsOf groups ∨
    ∃ word, (setting? word).isSome ∧ words = wordsOf groups ++ [word]

theorem IsGrouped.cons {rest : List String} (grouped : IsGrouped rest) (g : Group) :
    IsGrouped (g.words ++ rest) := by
  obtain ⟨groups, complete | ⟨word, known, cut⟩⟩ := grouped
  · refine ⟨g :: groups, .inl ?_⟩
    rw [complete]
    rfl
  · refine ⟨g :: groups, .inr ⟨word, known, ?_⟩⟩
    rw [cut]
    exact (List.append_assoc _ _ _).symm

/-- Every command line consists of groups, apart from an option at its end that lacks its value. -/
theorem isGrouped : ∀ words : List String, IsGrouped words
  | [] => ⟨[], .inl rfl⟩
  | word :: rest => by
      cases filled : word.isEmpty with
      | true =>
          cases String.isEmpty_iff.mp filled
          exact (isGrouped rest).cons .empty
      | false =>
          cases dashed : isOption word with
          | false => exact (isGrouped rest).cons (.positional ⟨word, filled, dashed⟩)
          | true =>
              cases known : setting? word with
              | none => exact (isGrouped rest).cons (.option (.alone word dashed known))
              | some set =>
                  have known : (setting? word).isSome := known ▸ rfl
                  cases rest with
                  | nil => exact ⟨[], .inr ⟨word, known, rfl⟩⟩
                  | cons value rest =>
                      exact (isGrouped rest).cons (.option (.setting word value known))
termination_by words => words.length

/-! ## Options first -/

/-- Groups with the options in front and the other words behind them. -/
def sorted (options : List OptionGroup) (positionals : List Positional) : List Group :=
  options.map .option ++ positionals.map .positional

theorem optionsOf_sorted (options : List OptionGroup) (positionals : List Positional) :
    optionsOf (sorted options positionals) = options := by
  unfold optionsOf sorted
  rw [List.filterMap_append, List.filterMap_map, List.filterMap_map]
  refine (congrArg₂ (· ++ ·) List.filterMap_some ?_).trans (List.append_nil options)
  exact List.filterMap_eq_nil_iff.mpr fun p _ => rfl

theorem positionalsOf_sorted (options : List OptionGroup) (positionals : List Positional) :
    positionalsOf (sorted options positionals) = positionals := by
  unfold positionalsOf sorted
  rw [List.filterMap_append, List.filterMap_map, List.filterMap_map]
  refine (congrArg₂ (· ++ ·) ?_ List.filterMap_some).trans (List.nil_append positionals)
  exact List.filterMap_eq_nil_iff.mpr fun o _ => rfl

/-- What the words of groups say depends on the options and on the other words, each in their order,
and not on how they are mixed: the options may as well stand first. The first request for help or
for the version decides alone; else the first two words that are no options are the command and the
identifier, and the last value counts that is given for an option. Nearly every command line
consists of such groups: only an option at its end may lack its value. -/
theorem read_groups :
    (∀ groups : List Group,
      Arguments.read (wordsOf groups) = .of (optionsOf groups) (positionalsOf groups) ∧
      Arguments.read (wordsOf groups) =
        Arguments.read (wordsOf (sorted (optionsOf groups) (positionalsOf groups)))) ∧
    ∀ words : List String, IsGrouped words := by
  refine ⟨?_, isGrouped⟩
  intro groups
  refine ⟨read_wordsOf groups, ?_⟩
  rw [read_wordsOf, read_wordsOf, optionsOf_sorted, positionalsOf_sorted]

/-- A value may look like a request for help, and a command like a value. -/
example :
    Arguments.read ["--runtime", "--help", "", "chain", "-V", "--runtime", "chain", "x", "y"] =
      Arguments.read ["--runtime", "--help", "-V", "--runtime", "chain", "chain", "x", "y"] := by
  decide

end UnitResolution.CommandLine
