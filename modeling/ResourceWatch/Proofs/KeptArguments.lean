import ResourceWatch.CommandLine.Invocation
import ResourceWatch.Proofs.Outcomes

/-! # Arguments that are kept

A value that is kept while arguments are read has passed the check of its option. An invocation
is made of what was kept before and after the name of its command, so there is one for any
variables if there is one for none, unless the check of an option that is not given refuses its
variable.
-/

namespace ResourceWatch.CommandLine

open Outcome

/-! ## Scans -/

/-- What was kept when the reading of arguments ended. -/
def Scanned.scan : Scanned → Scan
  | all scan => scan
  | command scan _ _ => scan

namespace Scan

/-- Whether the values of a scan fit a grammar: each is a positional one or has passed the check
of an option with its name. -/
structure Conforms (grammar : Grammar) (scan : Scan) : Prop where
  given : ∀ entry ∈ scan.given, entry.1 ∈ grammar.positionals ∨
    ∃ option ∈ grammar.options, option.name = entry.1 ∧ option.check entry.2 = none
  pending : ∀ pending ∈ scan.pending, pending.option ∈ grammar.options

theorem showInstead_ne_ok {scan next : Scan} {asked : UsageFault} :
    scan.showInstead asked ≠ .ok next := by
  intro hshow
  obtain ⟨finished, -, hasked⟩ := bind_eq_ok_iff.mp hshow
  cases hasked

theorem conforms_start (grammar : Grammar) : Conforms grammar .start :=
  ⟨nofun, nofun⟩

namespace Conforms

variable {grammar : Grammar} {scan next : Scan} (hconforms : scan.Conforms grammar)

include hconforms

theorem keep {option : OptionSpec} (hoption : option ∈ grammar.options) {value : String}
    (hkeep : scan.keep option value = .ok next) : next.Conforms grammar := by
  unfold Scan.keep at hkeep
  split at hkeep
  next => cases hkeep
  next =>
    split at hkeep
    next => cases hkeep
    next hcheck =>
      cases hkeep
      refine ⟨fun entry hentry => ?_, hconforms.pending⟩
      rcases List.mem_append.mp hentry with hformer | hnew
      · exact hconforms.given entry hformer
      · obtain rfl := List.mem_singleton.mp hnew
        exact .inr ⟨option, hoption, rfl, hcheck⟩

theorem finish (hfinish : scan.finish = .ok next) : next.Conforms grammar := by
  have hcleared : Conforms grammar { scan with pending := none } := ⟨hconforms.given, nofun⟩
  unfold Scan.finish at hfinish
  split at hfinish
  next =>
    cases hfinish
    exact hconforms
  next => cases hfinish
  next option value hpending =>
    exact hcleared.keep (hconforms.pending _ hpending) hfinish

theorem takeOption {option : OptionSpec} (hoption : option ∈ grammar.options)
    {attached : Option String} (htake : scan.takeOption option attached = .ok next) :
    next.Conforms grammar := by
  obtain ⟨finished, hfinish, htake⟩ := bind_eq_ok_iff.mp htake
  have hfinished := hconforms.finish hfinish
  cases attached with
  | some value => exact hfinished.keep hoption htake
  | none =>
      cases htake
      exact ⟨hfinished.given, fun pending hpending => Option.some.inj hpending ▸ hoption⟩

theorem takePositional {value : String} (htake : scan.takePositional grammar value = .ok next) :
    next.Conforms grammar := by
  unfold Scan.takePositional at htake
  split at htake
  next name hname =>
    obtain ⟨finished, hfinish, rfl⟩ := map_eq_ok_iff.mp htake
    have hfinished := hconforms.finish hfinish
    refine ⟨fun entry hentry => ?_, hfinished.pending⟩
    rcases List.mem_append.mp hentry with hformer | hnew
    · exact hfinished.given entry hformer
    · obtain rfl := List.mem_singleton.mp hnew
      exact .inl (List.mem_of_getElem? hname)
  next =>
    split at htake
    next => cases htake
    next => split at htake <;> cases htake

theorem takeLong {body : List Char} (htake : scan.takeLong grammar body = .ok next) :
    next.Conforms grammar := by
  unfold Scan.takeLong at htake
  split at htake
  next name attached _ =>
    split at htake
    next option hfind => exact hconforms.takeOption (List.mem_of_find?_eq_some hfind) htake
    next =>
      split at htake
      next =>
        split at htake
        next => cases htake
        next => exact absurd htake showInstead_ne_ok
      next => cases htake

theorem takeShort {letter : Char} {rest : List Char}
    (htake : scan.takeShort grammar letter rest = .ok next) : next.Conforms grammar := by
  unfold Scan.takeShort at htake
  split at htake
  next option hfind => exact hconforms.takeOption (List.mem_of_find?_eq_some hfind) htake
  next =>
    split at htake
    next => exact absurd htake showInstead_ne_ok
    next =>
      split at htake
      next => exact absurd htake showInstead_ne_ok
      next => cases htake

theorem take {argument : String} (htake : scan.take grammar argument = .ok next) :
    next.Conforms grammar := by
  unfold Scan.take at htake
  split at htake
  next => exact hconforms.takePositional htake
  next =>
    split at htake
    next =>
      cases htake
      exact ⟨hconforms.given, hconforms.pending⟩
    next => exact hconforms.takeLong htake
    next => exact hconforms.takeShort htake
    next option hpending _ _ _ =>
      cases htake
      refine ⟨hconforms.given, fun pending hmem => ?_⟩
      obtain rfl := Option.some.inj hmem
      exact hconforms.pending ⟨option, none⟩ hpending
    next => exact hconforms.takePositional htake

/-- What is kept of a whole list of arguments fits the grammar, also up to the name of a
command. -/
theorem scanArguments {arguments : List String} {scanned : Scanned}
    (hscan : CommandLine.scanArguments grammar scan arguments = .ok scanned) :
    scanned.scan.Conforms grammar := by
  induction arguments generalizing scan with
  | nil =>
      cases hscan
      exact hconforms
  | cons argument rest ih =>
      rw [CommandLine.scanArguments] at hscan
      split at hscan
      next =>
        cases hscan
        exact hconforms
      next =>
        split at hscan
        next => cases hscan
        next next htake => exact ih (hconforms.take htake) hscan

/-- A value of an option has passed a check of this option. -/
theorem check_eq_none {name text : String} (hname : name ∉ grammar.positionals)
    (hvalue : scan.value? name = some text) :
    ∃ option ∈ grammar.options, option.name = name ∧ option.check text = none := by
  obtain ⟨⟨key, value⟩, hfind, rfl⟩ := Option.map_eq_some_iff.mp hvalue
  obtain rfl : key = name := by simpa using List.find?_some hfind
  exact (hconforms.given _ (List.mem_of_find?_eq_some hfind)).resolve_left hname

end Conforms

end Scan

/-! ## Variables -/

variable {lookup : String → Option String} {grammar : Grammar} {scan finished : Scan}

/-- Variables are refused by the check of an option that is not given, and by nothing else. -/
theorem checkVariables_eq_ok_iff {options : List OptionSpec} :
    checkVariables lookup scan options = .ok () ↔
      ∀ option ∈ options, scan.value? option.name = none →
        ∀ text ∈ option.variableName.bind lookup, option.check text = none := by
  induction options with
  | nil => simp [checkVariables]
  | cons option rest ih =>
      rw [List.forall_mem_cons, ← ih, checkVariables]
      cases hvalue : scan.value? option.name with
      | some value => simp
      | none =>
          cases htext : option.variableName.bind lookup with
          | none => simp
          | some text => cases hcheck : option.check text <;> simp [hcheck]

theorem finishScan_eq_ok_iff :
    finishScan lookup grammar scan = .ok finished ↔
      scan.finish = .ok finished ∧ checkVariables lookup finished grammar.options = .ok () := by
  simp only [finishScan, bind_eq_ok_iff, map_eq_ok_iff]
  constructor
  · rintro ⟨former, hfinish, ⟨⟩, hcheck, rfl⟩
    exact ⟨hfinish, hcheck⟩
  · rintro ⟨hfinish, hcheck⟩
    exact ⟨finished, hfinish, (), hcheck, rfl⟩

/-! ## Invocations -/

/-- Whether arguments name a command with everything it needs. What was kept before the name and
behind it is apart. -/
structure Names (arguments : List String) (name : String) (before after : Scan)
    (command : Command) : Prop where
  scanned : ∃ scan rest own,
    scanArguments programGrammar .start arguments = .ok (.command scan name rest) ∧
      scan.finish = .ok before ∧
      scanArguments (grammarOf name) .start rest = .ok (.all own) ∧ own.finish = .ok after
  name_ne_help : name ≠ "help"
  command_eq : commandOf? name after = some command

/-- The invocation for what was kept and for some variables. -/
def Invocation.ofScans (lookup : String → Option String) (before after : Scan)
    (command : Command) : Invocation :=
  let shared := sharedValue? lookup before after
  { output := if shared "output" = some OutputFormat.json.name then .json else .human
    origin := shared "origin"
    reconnectDelay := (shared "reconnect-ms").bind wordOf?
    quietWindow := (shared "debounce-ms").bind wordOf?
    command := command }

namespace Names

variable {arguments : List String} {name : String} {before after : Scan} {command : Command}

/-- Arguments name one command, with one thing kept before its name and one behind it. -/
theorem unique (hnames : Names arguments name before after command) {otherName : String}
    {otherBefore otherAfter : Scan} {otherCommand : Command}
    (hothers : Names arguments otherName otherBefore otherAfter otherCommand) :
    name = otherName ∧ before = otherBefore ∧ after = otherAfter ∧ command = otherCommand := by
  obtain ⟨⟨scan, rest, own, hscan, hbefore, hown, hafter⟩, -, hcommand⟩ := hnames
  obtain ⟨⟨scan', rest', own', hscan', hbefore', hown', hafter'⟩, -, hcommand'⟩ := hothers
  cases hscan.symm.trans hscan'
  cases hbefore.symm.trans hbefore'
  cases hown.symm.trans hown'
  cases hafter.symm.trans hafter'
  exact ⟨rfl, rfl, rfl, Option.some.inj (hcommand.symm.trans hcommand')⟩

theorem conforms_before (hnames : Names arguments name before after command) :
    before.Conforms programGrammar := by
  obtain ⟨scan, rest, own, hscan, hbefore, -, -⟩ := hnames.scanned
  exact ((Scan.conforms_start _).scanArguments hscan).finish hbefore

theorem conforms_after (hnames : Names arguments name before after command) :
    after.Conforms (grammarOf name) := by
  obtain ⟨scan, rest, own, -, -, hown, hafter⟩ := hnames.scanned
  exact ((Scan.conforms_start _).scanArguments hown).finish hafter

end Names

theorem readCommand_eq_ok_iff {name : String} {arguments : List String} {after : Scan}
    {command : Command} :
    readCommand lookup name arguments = .ok (after, command) ↔
      name ≠ "help" ∧ ∃ own, scanArguments (grammarOf name) .start arguments = .ok (.all own) ∧
        finishScan lookup (grammarOf name) own = .ok after ∧
        commandOf? name after = some command := by
  unfold readCommand
  split
  next hhelp => simp [hhelp]
  next hhelp =>
    dsimp only
    split
    next fault hscan => simp [hscan]
    next hscan => simp [hscan]
    next own hscan =>
      simp only [hscan, bind_eq_ok_iff, ne_eq, hhelp, not_false_eq_true, true_and,
        Except.ok.injEq, Scanned.all.injEq, exists_eq_left']
      constructor
      · rintro ⟨finished, hfinish, hcommand⟩
        split at hcommand
        next command hname =>
          cases hcommand
          exact ⟨hfinish, hname⟩
        next => cases hcommand
      · rintro ⟨hfinish, hname⟩
        refine ⟨after, hfinish, ?_⟩
        rw [hname]

/-- An invocation is read exactly where the arguments name a command and no variable is
refused. -/
theorem Invocation.parse_eq_ok_iff {arguments : List String} {invocation : Invocation} :
    Invocation.parse lookup arguments = .ok invocation ↔
      ∃ name before after command, Names arguments name before after command ∧
        checkVariables lookup after (grammarOf name).options = .ok () ∧
        checkVariables lookup before programGrammar.options = .ok () ∧
        .ofScans lookup before after command = invocation := by
  constructor
  · intro hparse
    unfold Invocation.parse at hparse
    split at hparse
    next => cases hparse
    next =>
      obtain ⟨finished, -, hmissing⟩ := bind_eq_ok_iff.mp hparse
      cases hmissing
    next scan name rest hscan =>
      obtain ⟨⟨after, command⟩, hread, hparse⟩ := bind_eq_ok_iff.mp hparse
      obtain ⟨before, hbefore, rfl⟩ := map_eq_ok_iff.mp hparse
      obtain ⟨hname, own, hown, hafter, hcommand⟩ := readCommand_eq_ok_iff.mp hread
      rw [finishScan_eq_ok_iff] at hbefore hafter
      exact ⟨name, before, after, command,
        ⟨⟨scan, rest, own, hscan, hbefore.1, hown, hafter.1⟩, hname, hcommand⟩, hafter.2,
        hbefore.2, rfl⟩
  · rintro ⟨name, before, after, command, ⟨⟨scan, rest, own, hscan, hbefore, hown, hafter⟩,
      hname, hcommand⟩, hchecked, hcheckedBefore, rfl⟩
    have hread : readCommand lookup name rest = .ok (after, command) :=
      readCommand_eq_ok_iff.mpr
        ⟨hname, own, hown, finishScan_eq_ok_iff.mpr ⟨hafter, hchecked⟩, hcommand⟩
    have hfinish : finishScan lookup programGrammar scan = .ok before :=
      finishScan_eq_ok_iff.mpr ⟨hbefore, hcheckedBefore⟩
    rw [Invocation.parse, hscan]
    simp only [hread, hfinish, Except.bind, Except.map]
    rfl

end ResourceWatch.CommandLine
