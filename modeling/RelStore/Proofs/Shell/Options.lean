import Mathlib.Data.List.Forall2
import RelStore.Shell.Options

/-!
# Values on the command line

An option gets its value in one of the forms that `Gives` lists.  Of what reads the arguments it is
asked that which of them it is makes no difference: the options have the prompt and the statements
that are given, the statements in the order they are given in (`ReadsOptions`).  So it is with
`ofArguments` (`ofArguments_of_gives`).

| form | asked of the value |
| --- | --- |
| `--execute=SQL`, `-e=SQL`, `--prompt=TEXT` | nothing |
| `--execute SQL`, `-e SQL`, `--prompt TEXT` | that it does not look like an option |
| `-eSQL` | that there is one and it begins with no equality sign |
-/

namespace RelStore.Options

/-- The long form of the option, without its dashes. -/
def ValueOption.word : ValueOption → String
  | statement => "execute"
  | prompt => "prompt"

/-- The arguments give the value for the option. -/
inductive Gives : ValueOption → String → List String → Prop
  | long {option : ValueOption} {value : String} :
      Gives option value ["--" ++ option.word ++ "=" ++ value]
  | longNext {option : ValueOption} {value : String} (h : isValue value = true) :
      Gives option value ["--" ++ option.word, value]
  | short {sql : String} : Gives .statement sql ["-e=" ++ sql]
  | shortNext {sql : String} (h : isValue sql = true) : Gives .statement sql ["-e", sql]
  /-- Nothing stands between the option and its value. -/
  | shortAttached {sql : String} (hne : sql.toList ≠ []) (h : sql.toList.head? ≠ some '=') :
      Gives .statement sql ["-e" ++ sql]

/-- The arguments that ask for the demonstration table, if it is wanted. -/
def demoArguments (demo : Bool) : List String :=
  if demo then ["--demo"] else []

/-- Arguments that give a prompt and statements are read as the options with these, whichever form
each is given in. -/
def ReadsOptions {ε : Type} (read : List String → Except ε Options) : Prop :=
  ∀ (demo : Bool) (prompt : Option String) (prompts : List (List String))
    (statements : List String) (arguments : List (List String)),
    List.Forall₂ (Gives .prompt) prompt.toList prompts →
    List.Forall₂ (Gives .statement) statements arguments →
    read (demoArguments demo ++ prompts.flatten ++ arguments.flatten) =
      .ok { demo, statements, prompt }

/-! ## Single arguments -/

theorem readArgument_long (o : Options) (option : ValueOption) (value : String) :
    readArgument o ("--" ++ option.word ++ "=" ++ value) =
      (o.setValue option value).map .options := by
  cases option <;> simp [readArgument, readLong, splitLong, ValueOption.word]

theorem readArgument_longNext (o : Options) (option : ValueOption) :
    readArgument o ("--" ++ option.word) = .ok (.value o option) := by
  cases option <;> rfl

/-- Behind the letter of the option stands its value, after an equality sign or at once. -/
theorem readArgument_short (o : Options) {attached : String} (h : attached.toList ≠ []) :
    readArgument o ("-e" ++ attached) =
      (o.setValue .statement (attachedValue attached.toList)).map .options := by
  obtain ⟨c, cs, hattached⟩ := List.exists_cons_of_ne_nil h
  simp [readArgument, readShort, hattached]

theorem attachedValue_of_head?_ne {value : String} (h : value.toList.head? ≠ some '=') :
    attachedValue value.toList = value := by
  unfold attachedValue
  split
  next hvalue => exact absurd (by rw [hvalue]; rfl) h
  next => exact String.ofList_toList

/-! ## Rows of arguments -/

theorem readArguments_cons_of_options {o o' : Options} {argument : String}
    (h : readArgument o argument = .ok (.options o')) (rest : List String) :
    readArguments o (argument :: rest) = readArguments o' rest := by
  rw [readArguments.eq_def]
  simp only [h]

theorem readArguments_cons_of_value {o o' : Options} {argument value : String}
    {option : ValueOption} (h : readArgument o argument = .ok (.value o option))
    (hvalue : isValue value = true) (hset : o.setValue option value = .ok o')
    (rest : List String) :
    readArguments o (argument :: value :: rest) = readArguments o' rest := by
  rw [readArguments.eq_def]
  simp only [h, hvalue, hset, if_true]

/-- **A value is taken in whichever form it is given.** -/
theorem readArguments_append_of_gives {o o' : Options} {option : ValueOption} {value : String}
    {arguments : List String} (h : Gives option value arguments)
    (hset : o.setValue option value = .ok o') (rest : List String) :
    readArguments o (arguments ++ rest) = readArguments o' rest := by
  cases h with
  | long =>
      refine readArguments_cons_of_options ?_ rest
      rw [readArgument_long, hset]
      rfl
  | longNext hvalue =>
      exact readArguments_cons_of_value (readArgument_longNext o option) hvalue hset rest
  | short =>
      refine readArguments_cons_of_options ?_ rest
      have hne : ("=" ++ value).toList ≠ [] := by simp
      have hargument : "-e=" ++ value = "-e" ++ ("=" ++ value) := by
        rw [← String.append_assoc]
        rfl
      have hvalue : attachedValue ("=" ++ value).toList = value := by simp [attachedValue]
      rw [hargument, readArgument_short o hne, hvalue, hset]
      rfl
  | shortNext hvalue => exact readArguments_cons_of_value rfl hvalue hset rest
  | shortAttached hne hhead =>
      refine readArguments_cons_of_options ?_ rest
      rw [readArgument_short o hne, attachedValue_of_head?_ne hhead, hset]
      rfl

/-- **The values given for the statement option are the statements**, in their order. -/
theorem readArguments_of_gives {statements : List String} {arguments : List (List String)}
    (h : List.Forall₂ (Gives .statement) statements arguments) (o : Options) :
    readArguments o arguments.flatten =
      .ok (.run { o with statements := o.statements ++ statements }) := by
  induction h generalizing o with
  | nil => simp [readArguments]
  | @cons sql _ statements arguments hgives _ ih =>
      rw [List.flatten_cons, readArguments_append_of_gives hgives rfl, ih]
      simp

theorem readArguments_demoArguments (demo : Bool) (rest : List String) :
    readArguments {} (demoArguments demo ++ rest) = readArguments { demo } rest := by
  cases demo with
  | false => rfl
  | true => exact readArguments_cons_of_options rfl rest

/-- **The options are what the arguments give.** -/
theorem ofArguments_of_gives {prompt : Option String} {prompts : List (List String)}
    {statements : List String} {arguments : List (List String)}
    (hprompt : List.Forall₂ (Gives .prompt) prompt.toList prompts)
    (hstatements : List.Forall₂ (Gives .statement) statements arguments) (demo : Bool) :
    ofArguments (demoArguments demo ++ prompts.flatten ++ arguments.flatten) =
      .ok (.run { demo, statements, prompt }) := by
  rw [ofArguments, List.append_assoc, readArguments_demoArguments]
  cases prompt with
  | none =>
      cases hprompt
      exact readArguments_of_gives hstatements _
  | some prompt =>
      obtain ⟨given, _, hgiven, hnil, rfl⟩ := List.forall₂_cons_left_iff.mp hprompt
      cases hnil
      rw [List.flatten_singleton, readArguments_append_of_gives hgiven rfl]
      exact readArguments_of_gives hstatements _

end RelStore.Options
