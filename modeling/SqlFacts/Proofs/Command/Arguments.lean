import Mathlib.Data.List.Basic
import SqlFacts.Command.Run

/-!
# Arguments that ask for a description

The arguments of the command either ask for a description, or the command comes to none: it stops
at a mistake, or it tells how it is used. An option in front of the other arguments sets what it
names and nothing else.
-/

namespace SqlFacts

/-- A step that is followed by another one succeeded. -/
theorem exists_of_bind_eq_ok {ε α β : Type} {x : Except ε α} {f : α → Except ε β} {b : β}
    (h : x >>= f = .ok b) : ∃ a, x = .ok a ∧ f a = .ok b := by
  cases x with
  | error e => cases h
  | ok a => exact ⟨a, rfl, h⟩

namespace Command

variable {arguments : List String} {world : World}

/-! ### Sorted arguments -/

/-- An option without a value that stands in front of the other arguments is one of the options,
and changes nothing else. -/
theorem readArguments_flag {specs : List OptionSpec} {name : String} (hname : name ≠ "--")
    (hoption : isOption name = true) (hflag : matchOption specs name = .ok (⟨name, false⟩, none))
    (interspersed : Bool) (arguments : List String) :
    readArguments specs interspersed none (name :: arguments) =
      (readArguments specs interspersed none arguments).map (·.withOption name "") := by
  rw [readArguments, if_neg hname, if_pos hoption, hflag]
  rfl

theorem Arguments.has_withOption (args : Arguments) (name value other : String) :
    (args.withOption name value).has other = (name == other || args.has other) := rfl

theorem Arguments.value?_withOption {name other : String} (h : name ≠ other) (args : Arguments)
    (value : String) : (args.withOption name value).value? other = args.value? other := by
  simp [value?, withOption, List.find?_append, h]

/-- Sorted arguments ask for what their options say if their format is known and at most one of
them is positional. -/
theorem DescribeRequest.ofArguments_eq_ok_iff {args : Arguments} {request : DescribeRequest} :
    ofArguments args = .ok request ↔
      (args.positional.drop 1).isEmpty = true ∧
        ∃ format, choice args "--format" formatNames "text" = .ok format ∧
          request = ⟨args.positional.head?, args.has "--from-stdin", args.value? "--dialect",
            .ofName format, args.value? "--database", args.has "--split", args.has "--strict",
            args.has "--no-log"⟩ := by
  rw [ofArguments]
  constructor
  · intro h
    obtain ⟨format, hformat, h⟩ := exists_of_bind_eq_ok h
    dsimp only at h
    split at h
    · cases h
    · next hpositional =>
      cases h
      exact ⟨by simpa using hpositional, format, hformat, rfl⟩
  · rintro ⟨hpositional, format, hformat, rfl⟩
    rw [hformat]
    exact if_neg (by rw [hpositional]; decide)

/-! ### Requests -/

/-- The arguments ask for a description. -/
def Asks (arguments : List String) (request : DescribeRequest) : Prop :=
  ∃ args, readArguments describeOptions true none arguments = .ok args ∧
    args.has "--help" = false ∧ DescribeRequest.ofArguments args = .ok request

/-- The options that have no influence on what is written out. -/
def sideOptions : List String := ["--strict", "--no-log"]

/-- The other options. -/
def mainOptions : List String :=
  (describeOptions.map (·.name)).filter fun name => !sideOptions.contains name

/-- One of these options more asks for the same description. -/
theorem Asks.sideOption {name : String} (hname : name ∈ sideOptions) {request : DescribeRequest}
    (h : Asks arguments request) :
    Asks (name :: arguments) { request with
      strict := name == "--strict" || request.strict
      noLog := name == "--no-log" || request.noLog } := by
  have hflag : ∀ name ∈ sideOptions, name ≠ "--" ∧ isOption name = true ∧
      matchOption describeOptions name = .ok (⟨name, false⟩, none) := by decide +kernel
  have hother {other : String} (h : other ∈ mainOptions) : name ≠ other := by
    rintro rfl
    simp [mainOptions, hname] at h
  obtain ⟨hseparator, hoption, hmatch⟩ := hflag name hname
  obtain ⟨args, hargs, hhelp, hrequest⟩ := h
  refine ⟨args.withOption name "", ?_, ?_, ?_⟩
  · rw [readArguments_flag hseparator hoption hmatch, hargs]
    rfl
  · rw [Arguments.has_withOption, hhelp]
    rw [beq_eq_false_iff_ne.mpr (hother (by decide)), Bool.or_false]
  · rw [DescribeRequest.ofArguments_eq_ok_iff] at hrequest ⊢
    obtain ⟨hpositional, format, hformat, rfl⟩ := hrequest
    have hvalue {other : String} (h : other ∈ mainOptions) :
        (args.withOption name "").value? other = args.value? other :=
      Arguments.value?_withOption (hother h) args ""
    have hhas {other : String} (h : other ∈ mainOptions) :
        (args.withOption name "").has other = args.has other := by
      rw [Arguments.has_withOption, beq_eq_false_iff_ne.mpr (hother h), Bool.false_or]
    refine ⟨hpositional, format, ?_, ?_⟩
    · rw [choice, hvalue (by decide)]
      exact hformat
    · rw [hvalue (by decide), hvalue (by decide), hhas (by decide), hhas (by decide)]
      rfl

/-! ### Runs without a description -/

/-- The command on the command line is run with the arguments behind its name. -/
theorem run_describe (arguments : List String) (world : World) :
    run ("describe" :: arguments) world = runDescribe arguments world := by
  have hoption : isOption "describe" = false := by decide +kernel
  have hread : readArguments programOptions false none ("describe" :: arguments) =
      .ok ⟨[], "describe" :: arguments⟩ := by
    rw [readArguments, if_neg (by decide), hoption]
    rfl
  rw [run, withProgramOptions, hread]
  rfl

/-- Arguments that ask for a description have it carried out. -/
theorem Asks.run_eq {arguments : List String} {request : DescribeRequest}
    (h : Asks arguments request) (world : World) :
    run ("describe" :: arguments) world = describe request world := by
  obtain ⟨args, hargs, hhelp, hrequest⟩ := h
  rw [run_describe, runDescribe, hargs]
  simp only [hhelp, Bool.false_eq_true, ↓reduceIte, hrequest]

/-- What the command did if it did not come to a description: it stopped at a mistake in its use,
or it told how it is used. -/
inductive Refrains (world : World) : Outcome → Prop where
  | usage (error : UsageError) : Refrains world (.stopped world.session (.usage error))
  | help (text : String) : Refrains world (.wrote world.session text)

/-- Other arguments than those that ask for a description come to none. -/
theorem asks_or_refrains (arguments : List String) (world : World) :
    (∃ request, Asks arguments request) ∨ Refrains world (run ("describe" :: arguments) world) := by
  rw [run_describe, runDescribe]
  cases hargs : readArguments describeOptions true none arguments with
  | error e => exact .inr (.usage e)
  | ok args =>
    simp only
    split
    · exact .inr (.help _)
    · next hhelp =>
      cases hrequest : DescribeRequest.ofArguments args with
      | error e => exact .inr (.usage e)
      | ok request => exact .inl ⟨request, args, hargs, Bool.eq_false_iff.mpr hhelp, hrequest⟩

theorem Refrains.failure_ne_escaped {outcome : Outcome} (h : Refrains world outcome)
    (e : Escape) : outcome.failure ≠ some (.escaped e) := by
  cases h with
  | usage error => simp [Outcome.stopped]
  | help text => simp [Outcome.wrote]

/-- Mistakes in use have an exit code of their own. -/
theorem Refrains.exitCode {outcome : Outcome} (h : Refrains world outcome) :
    outcome.exitCode = 0 ∨ outcome.exitCode = 2 := by
  cases h with
  | usage error => exact .inr rfl
  | help text => exact .inl rfl

end Command

end SqlFacts
