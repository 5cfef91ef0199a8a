import Mathlib.Data.List.TakeWhile
import Deliveries.Command

/-!
# Rejected command lines

An argument of `get` is wrong, asks for help, or leaves the rest to be read.  A
bound that is no datetime is never left behind: wherever it stands, the command
line is misused unless help was asked for before.
-/

namespace Deliveries
namespace Command

/-! ## Single arguments -/

/-- An argument that asks for help. -/
def AsksHelp (argument : String) : Prop :=
  Shape.ofArgument argument = .long "help".toList none ∨
    Shape.ofArgument argument = .short 'h'

instance (argument : String) : Decidable (AsksHelp argument) :=
  inferInstanceAs (Decidable (_ ∨ _))

/-- What one argument of `get` makes of the rest. -/
inductive Reads (argument : String) (rest : List String) : Command -> Prop where
  /-- it is wrong, or lacks its value -/
  | misuse : Reads argument rest .misuse
  /-- it asks for help -/
  | help (asks : AsksHelp argument) : Reads argument rest .help
  /-- it parts the options from the file -/
  | separator (apart : Shape.ofArgument argument = .separator)
      (draft : Draft) : Reads argument rest (readPlain draft rest)
  /-- it is taken -/
  | alone (draft : Draft) : Reads argument rest (readGet draft rest)
  /-- it is taken with the next one, its value -/
  | withValue (value : String) (others : List String)
      (plain : Shape.ofArgument value = .plain)
      (follows : rest = value :: others)
      (draft : Draft) : Reads argument rest (readGet draft others)

theorem reads_readGet (draft : Draft) (argument : String)
    (rest : List String) :
    Reads argument rest (readGet draft (argument :: rest)) := by
  unfold readGet
  split
  · next shape => exact .separator shape draft
  · next letter shape =>
    split
    · next isHelp =>
      subst isHelp
      exact .help (.inr shape)
    · exact .misuse
  · split
    · exact .misuse
    · next taken _ => exact .alone taken
  · split
    · exact .misuse
    · next taken _ => exact .alone taken
  · next name shape =>
    split
    · split
      · next isHelp =>
        subst isHelp
        exact .help (.inl shape)
      · exact .misuse
    · split
      · exact .misuse
      · next value others =>
        split
        · next plain =>
          split
          · exact .misuse
          · next taken _ => exact .withValue value others plain rfl taken
        · exact .misuse

section Names

variable {argument : String} {letters : List Char}

theorem ne_equals_of_bare (bare : '=' ∉ letters) :
    ∀ letter ∈ letters, decide (letter ≠ '=') = true := by
  intro letter member
  apply decide_eq_true
  rintro rfl
  exact bare member

/-- An argument of two dashes and a name has no value attached. -/
theorem shape_of_name
    (named : letters ≠ []) (bare : '=' ∉ letters)
    (text : argument.toList = '-' :: '-' :: letters) :
    Shape.ofArgument argument = .long letters none := by
  have taken : letters.takeWhile (· ≠ '=') = letters :=
    List.takeWhile_eq_self_iff.mpr (ne_equals_of_bare bare)
  have dropped : letters.dropWhile (· ≠ '=') = [] :=
    List.dropWhile_eq_nil_iff.mpr (ne_equals_of_bare bare)
  unfold Shape.ofArgument
  rw [text]
  cases letters with
  | nil => exact absurd rfl named
  | cons letter others => simp only [taken, dropped]

/-- What follows an equals sign after the name is the value. -/
theorem shape_of_joined
    (named : letters ≠ []) (bare : '=' ∉ letters)
    (text : argument.toList = '-' :: '-' :: letters) (value : String) :
    Shape.ofArgument (argument ++ "=" ++ value) =
      .long letters (some value) := by
  have joined : (argument ++ "=" ++ value).toList =
      '-' :: '-' :: (letters ++ '=' :: value.toList) := by
    simp [text]
  have taken : (letters ++ '=' :: value.toList).takeWhile (· ≠ '=') =
      letters := by
    rw [List.takeWhile_append_of_pos (ne_equals_of_bare bare)]
    simp
  have dropped : (letters ++ '=' :: value.toList).dropWhile (· ≠ '=') =
      '=' :: value.toList := by
    rw [List.dropWhile_append_of_pos (ne_equals_of_bare bare)]
    simp
  unfold Shape.ofArgument
  rw [joined]
  cases letters with
  | nil => exact absurd rfl named
  | cons letter others =>
    rw [List.cons_append] at *
    simp only [taken, dropped, String.ofList_toList]

end Names

/-! ## Bounds that are no datetimes -/

/-- The options that bound the range. -/
def boundNames : List String := ["--from-datetime", "--to-datetime"]

/-- The arguments of a bound that is no datetime, behind other arguments.  A
bound joined with its value is one argument, which behind a separator would be
the file. -/
inductive RejectedBound (front : List String) : List String -> Prop where
  | apart {name value : String} (bound : name ∈ boundNames)
      (unreadable : Datetime.parse? value = none) :
      RejectedBound front [name, value]
  | joined {name value : String} (bound : name ∈ boundNames)
      (unreadable : Datetime.parse? value = none) (options : "--" ∉ front) :
      RejectedBound front [name ++ "=" ++ value]

/-- The name of a bound's option is that of a flag which takes datetimes
only. -/
theorem exists_flag_of_bound
    {name : String} (bound : name ∈ boundNames) :
    ∃ letters flag, letters ≠ [] ∧ '=' ∉ letters ∧
      letters ≠ "help".toList ∧ name.toList = '-' :: '-' :: letters ∧
      Flag.ofName? letters = some flag ∧
      ∀ (draft : Draft) (value : String), Datetime.parse? value = none ->
        draft.set? flag value = none := by
  have unset (place : Option Datetime) (value : String)
      (unreadable : Datetime.parse? value = none) :
      Draft.fillDatetime? place value = none := by
    unfold Draft.fillDatetime?
    rw [unreadable]
    split <;> rfl
  simp only [boundNames, List.mem_cons, List.not_mem_nil, or_false] at bound
  rcases bound with rfl | rfl
  · refine ⟨"from-datetime".toList, .earliest, by decide, by decide, by decide,
      by decide, by decide, ?_⟩
    intro draft value unreadable
    rw [Draft.set?, unset _ value unreadable, Option.map_none]
  · refine ⟨"to-datetime".toList, .latest, by decide, by decide, by decide,
      by decide, by decide, ?_⟩
    intro draft value unreadable
    rw [Draft.set?, unset _ value unreadable, Option.map_none]

namespace RejectedBound

variable {front bound : List String}

theorem of_cons
    {argument : String} (rejected : RejectedBound (argument :: front) bound) :
    RejectedBound front bound := by
  cases rejected with
  | apart named unreadable => exact .apart named unreadable
  | joined named unreadable options =>
    exact .joined named unreadable fun member =>
      options (List.mem_cons_of_mem argument member)

/-- A rejected bound begins with a name that is not that of the help. -/
theorem exists_head (rejected : RejectedBound front bound) :
    ∃ first more letters attached, bound = first :: more ∧
      Shape.ofArgument first = .long letters attached ∧
      letters ≠ "help".toList := by
  cases rejected with
  | @apart name value named _ =>
    obtain ⟨letters, _, nonempty, bare, other, text, _⟩ :=
      exists_flag_of_bound named
    exact ⟨name, [value], letters, none, rfl, shape_of_name nonempty bare text,
      other⟩
  | @joined name value named _ _ =>
    obtain ⟨letters, _, nonempty, bare, other, text, _⟩ :=
      exists_flag_of_bound named
    exact ⟨_, [], letters, some value, rfl,
      shape_of_joined nonempty bare text value, other⟩

/-- A rejected bound is misuse where an option is looked for. -/
theorem readGet_eq
    (rejected : RejectedBound front bound) (draft : Draft)
    (back : List String) :
    readGet draft (bound ++ back) = .misuse := by
  cases rejected with
  | @apart name value named unreadable =>
    obtain ⟨letters, flag, nonempty, bare, _, text, flagged, unset⟩ :=
      exists_flag_of_bound named
    have shape := shape_of_name nonempty bare text
    simp only [List.cons_append, List.nil_append, readGet, shape, flagged,
      unset draft value unreadable, ite_self]
  | @joined name value named unreadable _ =>
    obtain ⟨letters, flag, nonempty, bare, _, text, flagged, unset⟩ :=
      exists_flag_of_bound named
    have shape := shape_of_joined nonempty bare text value
    simp only [List.cons_append, List.nil_append, readGet, shape, flagged,
      Option.bind_some, unset draft value unreadable]

end RejectedBound

/-- Of two arguments that stand alone the second one is wrong. -/
theorem readPlain_cons_cons
    (draft : Draft) (first second : String) (rest : List String) :
    readPlain draft (first :: second :: rest) = .misuse := by
  rw [readPlain]
  cases taken : draft.setFile? first with
  | none => rfl
  | some next =>
    have filled : next.file = some first := by
      unfold Draft.setFile? Draft.fillPath? at taken
      split at taken
      · cases taken
        rfl
      · cases taken
    have again : next.setFile? second = none := by
      unfold Draft.setFile? Draft.fillPath?
      rw [filled]
      rfl
    simp only [readPlain, again]

/-! ## Whole command lines -/

/-- The command line is misused, or one of the arguments in front asks for
help. -/
def Refused (front : List String) (command : Command) : Prop :=
  command = .misuse ∨ command = .help ∧ ∃ argument ∈ front, AsksHelp argument

theorem Refused.cons
    {front : List String} {command : Command}
    (refused : Refused front command) (argument : String) :
    Refused (argument :: front) command := by
  rcases refused with misused | ⟨help, asking, member, asks⟩
  · exact .inl misused
  · exact .inr ⟨help, asking, List.mem_cons_of_mem argument member, asks⟩

theorem refused_readPlain
    {argument : String} {front bound : List String}
    (rejected : RejectedBound (argument :: front) bound)
    (separates : argument = "--") (draft : Draft) (back : List String) :
    readPlain draft (front ++ (bound ++ back)) = .misuse := by
  cases rejected with
  | joined _ _ options =>
    exact absurd (List.mem_cons.mpr (.inl separates.symm)) options
  | @apart name value =>
    cases front with
    | nil => exact readPlain_cons_cons draft name value back
    | cons first rest =>
      cases rest with
      | nil => exact readPlain_cons_cons draft first name (value :: back)
      | cons second others => exact readPlain_cons_cons draft first second _

theorem eq_of_separator
    {argument : String} (shape : Shape.ofArgument argument = .separator) :
    argument = "--" := by
  unfold Shape.ofArgument at shape
  split at shape
  · next text => exact String.toList_injective text
  · dsimp only at shape
    split at shape <;> cases shape
  · cases shape
  · cases shape

/-- Arguments of `get` with a rejected bound are refused. -/
theorem refused_readGet
    {front bound : List String} (rejected : RejectedBound front bound)
    (draft : Draft) (back : List String) :
    Refused front (readGet draft (front ++ (bound ++ back))) := by
  -- By strong induction, since an option takes two arguments at once.
  induction size : front.length using Nat.strongRecOn
    generalizing front draft with
  | ind size ih =>
    subst size
    cases front with
    | nil => exact .inl (rejected.readGet_eq draft back)
    | cons argument rest =>
      have reads := reads_readGet draft argument (rest ++ (bound ++ back))
      rw [List.cons_append]
      generalize readGet draft (argument :: (rest ++ (bound ++ back))) =
        command at reads
      cases reads with
      | misuse => exact .inl rfl
      | help asks => exact .inr ⟨rfl, argument, List.mem_cons_self, asks⟩
      | separator apart next =>
        exact .inl
          (refused_readPlain rejected (eq_of_separator apart) next back)
      | alone next =>
        exact (ih rest.length (by simp) rejected.of_cons next rfl).cons argument
      | withValue value others plain follows next =>
        cases rest with
        | nil =>
          -- The value would be the bound's name.
          obtain ⟨first, more, letters, attached, rfl, shape, _⟩ :=
            rejected.exists_head
          cases follows
          rw [shape] at plain
          cases plain
        | cons second rest =>
          cases follows
          have shorter : rest.length < (argument :: value :: rest).length := by
            simp only [List.length_cons]
            omega
          have later := ih rest.length shorter rejected.of_cons.of_cons next rfl
          exact (later.cons value).cons argument

/-- A command line of anything but `get` is misused or asks for help. -/
theorem ofArguments_cons_of_ne
    {first : String} (notGet : first ≠ "get") (rest : List String) :
    ofArguments (first :: rest) = .misuse ∨
      ofArguments (first :: rest) = .help ∧
        (AsksHelp first ∨ rest ⊆ ["get", "help"]) := by
  rw [ofArguments, if_neg notGet]
  split
  · split
    · next alone =>
      refine .inr ⟨rfl, .inr ?_⟩
      rcases alone with rfl | rfl | rfl <;> simp
    · exact .inl rfl
  · split
    · next letters shape =>
      split
      · next isHelp =>
        subst isHelp
        exact .inr ⟨rfl, .inl (.inl shape)⟩
      · exact .inl rfl
    · next letter shape =>
      split
      · next isHelp =>
        subst isHelp
        exact .inr ⟨rfl, .inl (.inr shape)⟩
      · exact .inl rfl
    · exact .inl rfl

/-- A command line with a rejected bound is refused. -/
theorem refused_ofArguments
    {front bound : List String} (rejected : RejectedBound front bound)
    (back : List String) :
    Refused front (ofArguments (front ++ (bound ++ back))) := by
  obtain ⟨name, more, letters, attached, whole, shape, other⟩ :=
    rejected.exists_head
  have notWord : name ∉ ["get", "help"] := by
    intro member
    simp only [List.mem_cons, List.not_mem_nil, or_false] at member
    rcases member with rfl | rfl <;> cases shape
  cases front with
  | nil =>
    have notGet : name ≠ "get" := fun isGet => notWord (isGet ▸ by simp)
    have notHelp : name ≠ "help" := fun isHelp => notWord (isHelp ▸ by simp)
    subst whole
    refine .inl ?_
    simp only [List.nil_append, List.cons_append, ofArguments, if_neg notGet,
      if_neg notHelp, shape]
    cases attached with
    | none => exact if_neg other
    | some value => rfl
  | cons first rest =>
    by_cases isGet : first = "get"
    · subst isGet
      exact (refused_readGet rejected.of_cons .empty back).cons "get"
    · rcases ofArguments_cons_of_ne isGet (rest ++ (bound ++ back)) with
        misused | ⟨help, asks | words⟩
      · exact .inl misused
      · exact .inr ⟨help, first, List.mem_cons_self, asks⟩
      · exact absurd (words (by simp [whole])) notWord

end Command
end Deliveries
