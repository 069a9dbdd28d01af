import ResourceWatch.Proofs.KeptArguments
import ResourceWatch.Proofs.TrimAndCut

/-! # Settings from variables

The settings of the library and those of a run come from the same variables. Where the arguments
leave the settings to them, a run has the library's settings exactly if no span has blanks around
it: the library lets such blanks stand, and the options of a run refuse them.
-/

namespace ResourceWatch

open Text Outcome

/-! ## Spans -/

theorem isBlank_of_isSome_digit? {c : Char} (hdigit : (digit? c).isSome = true) :
    isBlank c = false := by
  have hbounds : 48 ≤ c.toNat ∧ c.toNat ≤ 57 := by
    simpa [digit?, Char.isDigit, UInt32.le_iff_toNat_le] using hdigit
  simp [isBlank, inRanges, blankRanges]
  omega

theorem isSome_digit?_of_readWordDigits {value n : Nat} {text : List Char}
    (hread : readWordDigits value text = .ok n) : ∀ c ∈ text, (digit? c).isSome = true := by
  induction text generalizing value with
  | nil => exact List.forall_mem_nil _
  | cons c rest ih =>
      rw [readWordDigits] at hread
      split at hread
      next => cases hread
      next d hdigit =>
        split at hread
        next =>
          refine List.forall_mem_cons.mpr ⟨?_, ih hread⟩
          rw [hdigit]
          rfl
        next => cases hread

theorem exists_readWordDigits {text : List Char} {n : UInt64} (hread : readWord text = .ok n) :
    ∃ sign digits value, text = sign ++ digits ∧ sign ⊆ ['+'] ∧
      readWordDigits 0 digits = .ok value := by
  unfold readWord at hread
  split at hread
  next => cases hread
  next => cases hread
  next digits _ =>
    cases hdigits : readWordDigits 0 digits with
    | error fault => simp [hdigits] at hread
    | ok value => exact ⟨['+'], digits, value, rfl, List.Subset.refl _, hdigits⟩
  next =>
    cases hdigits : readWordDigits 0 text with
    | error fault => simp [hdigits] at hread
    | ok value => exact ⟨[], text, value, rfl, List.nil_subset _, hdigits⟩

theorem isBlank_of_readWord {text : List Char} {n : UInt64} (hread : readWord text = .ok n) :
    ∀ c ∈ text, isBlank c = false := by
  obtain ⟨sign, digits, value, rfl, hsign, hdigits⟩ := exists_readWordDigits hread
  intro c hc
  rcases List.mem_append.mp hc with hc | hc
  · obtain rfl := List.mem_singleton.mp (hsign hc)
    decide
  · exact isBlank_of_isSome_digit? (isSome_digit?_of_readWordDigits hdigits c hc)

/-- A text that is read as a word has no blanks around it. -/
theorem isTrimmed_of_readWord {text : List Char} {n : UInt64} (hread : readWord text = .ok n) :
    IsTrimmed text where
  head c hc := isBlank_of_readWord hread c (List.mem_of_head? hc)
  last c hc := isBlank_of_readWord hread c (List.mem_of_getLast? hc)

namespace CommandLine

theorem wordOf?_eq_some_iff {text : String} {span : UInt64} :
    wordOf? text = some span ↔ readWord (trim text.toList) = .ok span ∧ IsTrimmed text.toList := by
  rw [wordOf?]
  constructor
  · intro hword
    cases hread : readWord text.toList with
    | error fault => simp [hread, Except.toOption] at hword
    | ok n =>
        have htrimmed := isTrimmed_of_readWord hread
        rw [trim_of_isTrimmed htrimmed, hread]
        simpa [hread, Except.toOption, htrimmed] using hword
  · rintro ⟨hread, htrimmed⟩
    rw [trim_of_isTrimmed htrimmed] at hread
    simp [hread, Except.toOption]

/-- The span of a variable is the word of its text, unless the text has blanks around it. -/
theorem readSpan_eq_ok_iff (name : String) (default span : UInt64) (value : Option String) :
    (Config.readSpan name default value = .ok span ∧ ∀ text ∈ value, IsTrimmed text.toList) ↔
      (∀ text ∈ value, wordText text = none) ∧ span = (value.bind wordOf?).getD default := by
  cases value with
  | none => simp [Config.readSpan, eq_comm]
  | some text =>
      have hread : Config.readSpan name default (some text) = .ok span ↔
          readWord (trim text.toList) = .ok span := by
        cases hread : readWord (trim text.toList) <;> simp [Config.readSpan, hread]
      have hword : wordText text = none ↔ (wordOf? text).isSome = true := by
        unfold wordText
        split <;> simp_all
      simp only [Option.mem_some_iff, forall_eq', Option.bind_some]
      rw [hread, hword, ← wordOf?_eq_some_iff]
      cases wordOf? text <;> simp [eq_comm]

/-! ## Invocations -/

/-- Whether arguments make an invocation without any variable, and give none of the settings. -/
def LeavesSettings (arguments : List String) : Prop :=
  ∃ invocation, Invocation.parse (fun _ => none) arguments = .ok invocation ∧
    invocation.origin = none ∧ invocation.reconnectDelay = none ∧ invocation.quietWindow = none

/-- Whether a grammar has the shared options, behind options that no variable stands in for. -/
structure Shares (grammar : Grammar) : Prop where
  options : ∃ own, grammar.options = own ++ sharedOptions ∧
    own ⊆ [envOption, selectorOption, waitOption]
  positionals : grammar.positionals ⊆ ["kind", "environment", "pod"]

theorem shares_programGrammar : Shares programGrammar :=
  ⟨⟨[], rfl, List.nil_subset _⟩, List.nil_subset _⟩

theorem shares_grammarOf (name : String) : Shares (grammarOf name) := by
  unfold grammarOf
  split <;> exact ⟨⟨_, rfl, by simp⟩, by simp [commandGrammar]⟩

section Spans

variable {grammar : Grammar} (hshares : Shares grammar) {scan : Scan}

include hshares

/-- A span that was kept is a word. -/
theorem wordText_of_value? (hconforms : scan.Conforms grammar) {name text : String}
    (hname : name ∈ ["reconnect-ms", "debounce-ms"]) (hvalue : scan.value? name = some text) :
    wordText text = none := by
  have hpositional : name ∉ grammar.positionals := by
    intro hmem
    have hplace := hshares.positionals hmem
    simp only [List.mem_cons, List.not_mem_nil, or_false] at hname hplace
    rcases hname with rfl | rfl <;> revert hplace <;> decide
  obtain ⟨option, hoption, rfl, hcheck⟩ := hconforms.check_eq_none hpositional hvalue
  obtain ⟨own, hoptions, hown⟩ := hshares.options
  rw [hoptions, List.mem_append] at hoption
  rcases hoption with hoption | hoption
  · have hmem := hown hoption
    simp only [List.mem_cons, List.not_mem_nil, or_false] at hname hmem
    rcases hmem with rfl | rfl | rfl <;> exact absurd hname (by decide)
  · simp only [sharedOptions, List.mem_cons, List.not_mem_nil, or_false] at hname hoption
    rcases hoption with rfl | rfl | rfl | rfl
    · exact absurd hname (by decide)
    · exact absurd hname (by decide)
    · exact hcheck
    · exact hcheck

/-- Where no span is given, the variables of the spans are all that is checked. -/
theorem checkVariables_shared_iff (lookup : String → Option String)
    (hreconnect : scan.value? "reconnect-ms" = none) (hquiet : scan.value? "debounce-ms" = none) :
    checkVariables lookup scan grammar.options = .ok () ↔
      (∀ text ∈ lookup Config.reconnectVariable, wordText text = none) ∧
        ∀ text ∈ lookup Config.quietVariable, wordText text = none := by
  obtain ⟨own, hoptions, hown⟩ := hshares.options
  rw [checkVariables_eq_ok_iff, hoptions]
  constructor
  · intro hchecks
    exact ⟨hchecks ⟨"reconnect-ms", none, some Config.reconnectVariable, wordText⟩
        (by simp [sharedOptions]) hreconnect,
      hchecks ⟨"debounce-ms", none, some Config.quietVariable, wordText⟩
        (by simp [sharedOptions]) hquiet⟩
  · rintro ⟨hreconnects, hquiets⟩ option hoption hvalue text htext
    rcases List.mem_append.mp hoption with hoption | hoption
    · have hmem := hown hoption
      simp only [List.mem_cons, List.not_mem_nil, or_false] at hmem
      rcases hmem with rfl | rfl | rfl <;> cases htext
    · simp only [sharedOptions, List.mem_cons, List.not_mem_nil, or_false] at hoption
      rcases hoption with rfl | rfl | rfl | rfl
      · cases htext
      · rfl
      · exact hreconnects text htext
      · exact hquiets text htext

end Spans

section Names

variable {arguments : List String} {name : String} {before after : Scan} {command : Command}
  (hnames : Names arguments name before after command)

include hnames

/-- A span without a word was not given: what was given would be one. -/
theorem values_eq_none_of_bind {key : String} (hkey : key ∈ ["reconnect-ms", "debounce-ms"])
    (hword : ((after.value? key).or (before.value? key)).bind wordOf? = none) :
    after.value? key = none ∧ before.value? key = none := by
  have hgiven : ∀ text, wordText text = none → wordOf? text ≠ none := by
    intro text hcheck
    simpa [wordText, Option.isSome_iff_ne_none] using hcheck
  cases hafter : after.value? key with
  | some text =>
      have hcheck := wordText_of_value? (shares_grammarOf name) hnames.conforms_after hkey hafter
      exact absurd (by simpa [hafter] using hword) (hgiven text hcheck)
  | none =>
      cases hbefore : before.value? key with
      | some text =>
          have hcheck :=
            wordText_of_value? shares_programGrammar hnames.conforms_before hkey hbefore
          exact absurd (by simpa [hafter, hbefore] using hword) (hgiven text hcheck)
      | none => exact ⟨rfl, rfl⟩

end Names

theorem sharedValue?_of_no_variables (before after : Scan) (name : String) :
    sharedValue? (fun _ => none) before after name =
      (after.value? name).or (before.value? name) := by
  simp [sharedValue?]

/-- Arguments that leave the settings keep none of them, before or behind the command's name. -/
theorem LeavesSettings.exists_names {arguments : List String} (hleaves : LeavesSettings arguments) :
    ∃ name before after command, Names arguments name before after command ∧
      ∀ key ∈ ["origin", "reconnect-ms", "debounce-ms"],
        after.value? key = none ∧ before.value? key = none := by
  obtain ⟨bare, hbare, horigin, hreconnect, hquiet⟩ := hleaves
  obtain ⟨name, before, after, command, hnames, -, -, rfl⟩ := Invocation.parse_eq_ok_iff.mp hbare
  simp only [Invocation.ofScans, sharedValue?_of_no_variables] at horigin hreconnect hquiet
  refine ⟨name, before, after, command, hnames, ?_⟩
  simp only [List.forall_mem_cons]
  exact ⟨Option.or_eq_none_iff.mp horigin, values_eq_none_of_bind hnames (by simp) hreconnect,
    values_eq_none_of_bind hnames (by simp) hquiet, List.forall_mem_nil _⟩

/-- The settings that variables give, with defaults for those that are not set. -/
def settingsOf (lookup : String → Option String) : Config :=
  { origin := (lookup Config.originVariable).getD Config.default.origin
    reconnectDelay :=
      ((lookup Config.reconnectVariable).bind wordOf?).getD Config.default.reconnectDelay
    quietWindow := ((lookup Config.quietVariable).bind wordOf?).getD Config.default.quietWindow }

/-- Where no setting is given, a run has those of the variables if their spans are words. -/
theorem exists_parse_iff {arguments : List String} (hleaves : LeavesSettings arguments)
    (lookup : String → Option String) {config : Config} :
    (∃ invocation, Invocation.parse lookup arguments = .ok invocation ∧
        invocation.config = .ok config) ↔
      ((∀ text ∈ lookup Config.reconnectVariable, wordText text = none) ∧
        ∀ text ∈ lookup Config.quietVariable, wordText text = none) ∧
      settingsOf lookup = config ∧ config.validate = .ok () := by
  obtain ⟨name, before, after, command, hnames, hfree⟩ := hleaves.exists_names
  simp only [List.forall_mem_cons] at hfree
  obtain ⟨horigin, hreconnect, hquiet, -⟩ := hfree
  have hafter :=
    checkVariables_shared_iff (shares_grammarOf name) lookup hreconnect.1 hquiet.1
  have hbefore :=
    checkVariables_shared_iff shares_programGrammar lookup hreconnect.2 hquiet.2
  have hconfig : (Invocation.ofScans lookup before after command).config =
      (settingsOf lookup).validate.map fun _ => settingsOf lookup := by
    simp [Invocation.config, Invocation.ofScans, sharedValue?, settingsOf, sharedOptions, horigin,
      hreconnect, hquiet]
  constructor
  · rintro ⟨invocation, hparse, hvalid⟩
    obtain ⟨_, _, _, _, hothers, hchecked, -, rfl⟩ := Invocation.parse_eq_ok_iff.mp hparse
    obtain ⟨rfl, rfl, rfl, rfl⟩ := hnames.unique hothers
    obtain ⟨⟨⟩, hvalidate, rfl⟩ := map_eq_ok_iff.mp (hconfig.symm.trans hvalid)
    exact ⟨hafter.mp hchecked, rfl, hvalidate⟩
  · rintro ⟨hspans, rfl, hvalidate⟩
    refine ⟨.ofScans lookup before after command, ?_, ?_⟩
    · exact Invocation.parse_eq_ok_iff.mpr
        ⟨name, before, after, command, hnames, hafter.mpr hspans, hbefore.mpr hspans, rfl⟩
    · rw [hconfig, hvalidate]
      rfl

end CommandLine

theorem Config.ofVariables_eq_ok_iff {lookup : String → Option String} {config : Config} :
    ofVariables lookup = .ok config ↔
      (readSpan reconnectVariable default.reconnectDelay (lookup reconnectVariable) =
          .ok config.reconnectDelay ∧
        readSpan quietVariable default.quietWindow (lookup quietVariable) =
          .ok config.quietWindow) ∧
      (lookup originVariable).getD default.origin = config.origin ∧ config.validate = .ok () := by
  obtain ⟨origin, reconnectDelay, quietWindow⟩ := config
  unfold ofVariables
  cases readSpan reconnectVariable default.reconnectDelay (lookup reconnectVariable) with
  | error fault => simp [bind, Except.bind]
  | ok delay =>
      cases readSpan quietVariable default.quietWindow (lookup quietVariable) with
      | error fault => simp [bind, Except.bind]
      | ok window =>
          simp only [bind, Except.bind, pure, Except.pure]
          constructor
          · intro hread
            split at hread
            next => cases hread
            next hvalid =>
              cases hread
              exact ⟨⟨rfl, rfl⟩, rfl, hvalid⟩
          · rintro ⟨⟨⟨⟩, ⟨⟩⟩, rfl, hvalid⟩
            simp [hvalid]

namespace CommandLine

/-- Where the arguments leave the settings to the variables, a run has exactly those settings
that the library reads from the variables, as long as no span has blanks around it. Such blanks
are all that keeps a run from settings that the library reads. -/
theorem run_settings_iff {arguments : List String} (hleaves : LeavesSettings arguments)
    (lookup : String → Option String) (config : Config) :
    (∃ invocation, Invocation.parse lookup arguments = .ok invocation ∧
        invocation.config = .ok config) ↔
      Config.ofVariables lookup = .ok config ∧
        ∀ name ∈ [Config.reconnectVariable, Config.quietVariable],
          ∀ text ∈ lookup name, IsTrimmed text.toList := by
  have hreconnect := readSpan_eq_ok_iff Config.reconnectVariable Config.default.reconnectDelay
    config.reconnectDelay (lookup Config.reconnectVariable)
  have hquiet := readSpan_eq_ok_iff Config.quietVariable Config.default.quietWindow
    config.quietWindow (lookup Config.quietVariable)
  rw [exists_parse_iff hleaves, Config.ofVariables_eq_ok_iff, List.forall_mem_cons,
    List.forall_mem_singleton]
  constructor
  · rintro ⟨⟨hdelayWords, hwindowWords⟩, rfl, hvalid⟩
    obtain ⟨hdelay, hdelayTrimmed⟩ := hreconnect.mpr ⟨hdelayWords, rfl⟩
    obtain ⟨hwindow, hwindowTrimmed⟩ := hquiet.mpr ⟨hwindowWords, rfl⟩
    exact ⟨⟨⟨hdelay, hwindow⟩, rfl, hvalid⟩, hdelayTrimmed, hwindowTrimmed⟩
  · rintro ⟨⟨⟨hdelay, hwindow⟩, horigin, hvalid⟩, hdelayTrimmed, hwindowTrimmed⟩
    obtain ⟨hdelayWords, hdelayEq⟩ := hreconnect.mp ⟨hdelay, hdelayTrimmed⟩
    obtain ⟨hwindowWords, hwindowEq⟩ := hquiet.mp ⟨hwindow, hwindowTrimmed⟩
    have hsettings : settingsOf lookup = config := by
      rw [settingsOf, horigin, ← hdelayEq, ← hwindowEq]
    exact ⟨⟨hdelayWords, hwindowWords⟩, hsettings, hvalid⟩

/-- Variables with blanks around the origin, and with a span that has a sign. -/
def signedVariables (name : String) : Option String :=
  if name = Config.originVariable then some "\thttps://dash "
  else if name = Config.quietVariable then some "+50"
  else none

theorem run_settings_iff_signedVariables :
    LeavesSettings ["logs", "-ojson", "prod", "web"] ∧
    (∃ invocation,
      Invocation.parse signedVariables ["logs", "-ojson", "prod", "web"] = .ok invocation ∧
        invocation.config = .ok ⟨"\thttps://dash ", 5000, 50⟩) ∧
    Config.ofVariables signedVariables = .ok ⟨"\thttps://dash ", 5000, 50⟩ := by
  have hleaves : LeavesSettings ["logs", "-ojson", "prod", "web"] :=
    ⟨_, rfl, rfl, rfl, rfl⟩
  have hread : Config.ofVariables signedVariables = .ok ⟨"\thttps://dash ", 5000, 50⟩ := by rfl
  have hspans : ∀ name ∈ [Config.reconnectVariable, Config.quietVariable],
      ∀ text ∈ signedVariables name, IsTrimmed text.toList := by
    rw [List.forall_mem_cons, List.forall_mem_singleton]
    refine ⟨nofun, fun text htext => ?_⟩
    obtain rfl : "+50" = text := Option.some.inj htext
    exact isTrimmed_trim "+50".toList
  exact ⟨hleaves, (run_settings_iff hleaves signedVariables _).mpr ⟨hread, hspans⟩, hread⟩

/-- Variables with a blank in front of a span. -/
def blankVariables (name : String) : Option String :=
  if name = Config.reconnectVariable then some " 5" else none

/-- The library reads a span with a blank in front, and a run refuses it. -/
theorem run_refuses_blankVariables :
    Config.ofVariables blankVariables = .ok { Config.default with reconnectDelay := 5 } ∧
    LeavesSettings ["kinds"] ∧
    Invocation.parse blankVariables ["kinds"] = .error .valueMalformed :=
  ⟨by rfl, ⟨_, rfl, rfl, rfl, rfl⟩, by rfl⟩

end CommandLine

end ResourceWatch
