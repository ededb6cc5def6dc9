import TargetGraph.Command.Arguments

/-!
# Options in front of a command

What stands in front of a command is taken one option at a time, a file's name with the option that wants
it. A command that is not asked to be verbose can be asked so in front of everything else, and is the same
command otherwise.
-/

namespace TargetGraph.Command

set_option autoImplicit false

def takeOption (options : Options) : Argument → Option Taken
  | .long name value => takeLong true options name value
  | .short letters => takeShort true options letters
  | .word _ | .separator => none

def takeNext (rest : List String) : Taken → Option Request
  | .version => some .version
  | .options next => takeFront rest next
  | .fileWanted waiting =>
    match rest with
    | text :: behind =>
      match Argument.ofText text with
      | .word file => (waiting.setFile file).bind fun next => takeFront behind next
      | _ => none
    | [] => none

/-- Arguments that ask for an action: options, some of them with a file's name behind them, and then the
command with all that follows it. -/
inductive Asks : List String → Options → Action → Options → Prop where
  | command {argument command : String} {rest words : List String} {options behind : Options}
      {action : Action} (word : Argument.ofText argument = .word command)
      (taken : takeBehind rest .none [] = some (behind, words))
      (known : action? command words = some action) :
      Asks (argument :: rest) options action (options.merge behind)
  | option {argument : String} {rest : List String} {options next result : Options} {action : Action}
      (taken : takeOption options (Argument.ofText argument) = some (.options next))
      (asks : Asks rest next action result) : Asks (argument :: rest) options action result
  | file {argument text file : String} {rest : List String} {options waiting next result : Options}
      {action : Action} (taken : takeOption options (Argument.ofText argument) = some (.fileWanted waiting))
      (word : Argument.ofText text = .word file) (set : waiting.setFile file = some next)
      (asks : Asks rest next action result) : Asks (argument :: text :: rest) options action result

section

variable {argument : String} {rest arguments : List String} {options result : Options} {action : Action}

theorem take_front_command {command : String} (word : Argument.ofText argument = .word command)
    (accepted : takeFront (argument :: rest) options = some (.run action result)) :
    Asks (argument :: rest) options action result := by
  rw [takeFront, word, Option.bind_eq_bind, Option.bind_eq_some_iff] at accepted
  rcases accepted with ⟨⟨behind, words⟩, taken, goesOn⟩
  rw [Option.bind_eq_bind, Option.bind_eq_some_iff] at goesOn
  rcases goesOn with ⟨own, known, same⟩
  cases same
  exact .command word taken known

theorem take_front_other (other : ∀ command, Argument.ofText argument ≠ .word command) :
    takeFront (argument :: rest) options =
      (takeOption options (Argument.ofText argument)).bind (takeNext rest) := by
  rw [takeFront]
  cases understood : Argument.ofText argument with
  | word command => exact absurd understood (other command)
  | separator => rfl
  | long name value =>
      dsimp only
      rw [takeOption]
      cases takeLong true options name value with
      | none => rfl
      | some left => cases left <;> rfl
  | short letters =>
      dsimp only
      rw [takeOption]
      cases takeShort true options letters with
      | none => rfl
      | some left => cases left <;> rfl

theorem take_front_option {left : Taken}
    (taken : takeOption options (Argument.ofText argument) = some left) :
    takeFront (argument :: rest) options = takeNext rest left := by
  have other : ∀ command, Argument.ofText argument ≠ .word command := by
    intro command word
    rw [word] at taken
    cases taken
  rw [take_front_other other, taken, Option.bind_some]

theorem Asks.accepted (asks : Asks arguments options action result) :
    takeFront arguments options = some (.run action result) := by
  induction asks with
  | command word taken known =>
      rw [takeFront, word]
      simp [taken, known]
  | option taken _ induction => rw [take_front_option taken, takeNext, induction]
  | file taken word set _ induction =>
      rw [take_front_option taken, takeNext, word]
      simp only [set, Option.bind_some, induction]

theorem asks_of_accepted : ∀ {arguments : List String} {options : Options},
    takeFront arguments options = some (.run action result) → Asks arguments options action result
  | [], _, accepted => by cases accepted
  | argument :: rest, options, accepted => by
    by_cases command : ∃ command, Argument.ofText argument = .word command
    · rcases command with ⟨command, word⟩
      exact take_front_command word accepted
    · rw [take_front_other (not_exists.mp command), Option.bind_eq_some_iff] at accepted
      rcases accepted with ⟨left, taken, goesOn⟩
      cases left with
      | version => cases goesOn
      | options next => exact .option taken (asks_of_accepted goesOn)
      | fileWanted waiting =>
          match rest with
          | [] => cases goesOn
          | text :: behind =>
            rw [takeNext] at goesOn
            cases word : Argument.ofText text with
            | word file =>
                rw [word, Option.bind_eq_some_iff] at goesOn
                rcases goesOn with ⟨next, set, goesOn⟩
                exact .file taken word set (asks_of_accepted goesOn)
            | _ =>
                rw [word] at goesOn
                cases goesOn

end

def Options.verbosely (options : Options) : Options := { options with verbose := true }

def Taken.verbosely : Taken → Taken
  | .options known => .options known.verbosely
  | .fileWanted waiting => .fileWanted waiting.verbosely
  | .version => .version

inductive Taken.Quiet : Taken → Prop where
  | options {known : Options} (quiet : known.verbose = false) : Quiet (.options known)
  | fileWanted {waiting : Options} (quiet : waiting.verbose = false) : Quiet (.fileWanted waiting)

section

variable {options next result : Options} {left : Taken}

theorem set_file_verbosely {file : String} (set : options.setFile file = some next) :
    next.verbose = options.verbose ∧ options.verbosely.setFile file = some next.verbosely := by
  unfold Options.setFile at set ⊢
  split at set
  · cases set
  · rename_i free
    cases set
    exact ⟨rfl, if_neg free⟩

theorem set_json_verbosely (set : options.setJson = some next) :
    next.verbose = options.verbose ∧ options.verbosely.setJson = some next.verbosely := by
  unfold Options.setJson at set ⊢
  split at set
  · cases set
  · rename_i free
    cases set
    exact ⟨rfl, if_neg free⟩

theorem set_verbose_loud (set : options.setVerbose = some next) : next.verbose = true := by
  unfold Options.setVerbose at set
  split at set
  · cases set
  · cases set
    rfl

theorem taken_verbosely {set again : Option Options}
    (alike : ∀ next, set = some next → next.verbose = options.verbose ∧ again = some next.verbosely)
    (taken : set.map .options = some left) (quiet : left.Quiet) :
    options.verbose = false ∧ again.map .options = some left.verbosely := by
  rcases Option.map_eq_some_iff.mp taken with ⟨next, known, rfl⟩
  rcases alike next known with ⟨same, raised⟩
  cases quiet with
  | options quiet =>
      rw [same] at quiet
      rw [raised]
      exact ⟨quiet, rfl⟩

/-- What is taken without becoming verbose is taken all the same if it is verbose already. -/
theorem take_long_verbosely {name : String} {value : Option String}
    (taken : takeLong true options name value = some left) (quiet : left.Quiet) :
    options.verbose = false ∧ takeLong true options.verbosely name value = some left.verbosely := by
  unfold takeLong at taken
  -- A file with its name, a file whose name is still to come, the form, verbosity, the version, and the rest.
  split at taken
  · exact taken_verbosely (fun _ => set_file_verbosely) taken quiet
  · cases taken
    cases quiet with
    | fileWanted quiet => exact ⟨quiet, rfl⟩
  · exact taken_verbosely (fun _ => set_json_verbosely) taken quiet
  · rcases Option.map_eq_some_iff.mp taken with ⟨next, set, rfl⟩
    have loud := set_verbose_loud set
    cases quiet with
    | options quiet =>
        rw [loud] at quiet
        cases quiet
  · cases taken
    cases quiet
  · cases taken

theorem take_short_verbosely {letters : List Char} (taken : takeShort true options letters = some left)
    (quiet : left.Quiet) :
    options.verbose = false ∧ takeShort true options.verbosely letters = some left.verbosely := by
  fun_induction takeShort true options letters with
  | case1 options =>
      cases taken
      cases quiet with
      | options quiet => exact ⟨quiet, rfl⟩
  -- The letter makes verbose, and all that follows stays so.
  | case2 options rest next set induction =>
      have loud := set_verbose_loud set
      rw [(induction taken).1] at loud
      cases loud
  | case3 options rest unset => cases taken
  | case4 options =>
      cases taken
      cases quiet with
      | fileWanted quiet => exact ⟨quiet, rfl⟩
  | case5 options file => exact taken_verbosely (fun _ => set_file_verbosely) taken quiet
  | case6 options file filled unequal =>
      rw [takeShort]
      · exact taken_verbosely (fun _ => set_file_verbosely) taken quiet
      · exact filled
      · exact unequal
  | case7 options rest =>
      cases taken
      cases quiet
  | case8 options rest behind => exact absurd rfl behind
  | case9 letters options => cases taken

theorem take_option_verbosely {argument : Argument} (taken : takeOption options argument = some left)
    (quiet : left.Quiet) :
    options.verbose = false ∧ takeOption options.verbosely argument = some left.verbosely := by
  cases argument with
  | word text => cases taken
  | separator => cases taken
  | long name value => exact take_long_verbosely taken quiet
  | short letters => exact take_short_verbosely taken quiet

/-- Options that stay quiet to the end have been quiet from the start. -/
theorem Asks.verbosely {arguments : List String} {action : Action}
    (asks : Asks arguments options action result) (quiet : result.verbose = false) :
    options.verbose = false ∧ Asks arguments options.verbosely action result.verbosely := by
  induction asks with
  | @command _ _ _ _ options behind _ word taken known =>
      have both : options.verbose = false ∧ behind.verbose = false := Bool.or_eq_false_iff.mp quiet
      have merged : (options.merge behind).verbosely = options.verbosely.merge behind := rfl
      rw [merged]
      exact ⟨both.1, .command word taken known⟩
  | option taken _ induction =>
      rcases induction quiet with ⟨before, asks⟩
      rcases take_option_verbosely taken (.options before) with ⟨first, again⟩
      exact ⟨first, .option again asks⟩
  | file taken word set _ induction =>
      rcases induction quiet with ⟨before, asks⟩
      rcases set_file_verbosely set with ⟨same, raised⟩
      rcases take_option_verbosely taken (.fileWanted (same ▸ before)) with ⟨first, again⟩
      exact ⟨first, .file again word raised asks⟩

/-- Every command that is not verbose can be made so in front of everything else. -/
theorem verbose_in_front {arguments : List String} {action : Action}
    (accepted : Request.ofArguments arguments = some (.run action options))
    (quiet : options.verbose = false) :
    Request.ofArguments ("--verbose" :: arguments) = some (.run action options.verbosely) := by
  have asks := ((asks_of_accepted accepted).verbosely quiet).2
  have first : takeOption .none (Argument.ofText "--verbose") = some (.options Options.none.verbosely) := by
    decide +kernel
  exact (Asks.option first asks).accepted

end

end TargetGraph.Command
