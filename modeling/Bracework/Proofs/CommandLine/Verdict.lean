import Bracework.CommandLine.Run
import Bracework.Proofs.Settings.Overridden
import Bracework.Proofs.Template.LockStep
import Bracework.Proofs.Text.Bytes

/-!
# One verdict for all commands

The commands ask different questions about a template, and what they write differs. They agree in
what they report and in the exit status: that there is a document, that nothing is found wrong and
that no diagnostic is reported come to the same, whatever the format of the output is.
-/

namespace Bracework

/-- Without providers there are no keywords of providers. -/
theorem Options.worded_partials (partials : List Text) : Options.Worded ⟨partials, []⟩ := by
  intro provider member
  cases member

namespace Template

/-- The diagnostics of a template are always found. -/
theorem validate_ok {options : Options} (worded : options.Worded) (template : Text) :
    ∃ diagnostics, validate options template = .ok diagnostics := by
  rw [validate, tokenize_ok worded.readyMade]
  exact ⟨_, rfl⟩

/-- A template has a document exactly when there are no diagnostics, and the diagnostics come with
it. -/
theorem parse_ok {options : Options} (worded : options.Worded) {template : Text}
    {diagnostics : List Diagnostic} (validated : validate options template = .ok diagnostics) :
    ∃ document, parse options template = .ok ⟨document, diagnostics⟩ ∧
      (document.isSome ↔ diagnostics = []) := by
  rw [validate, tokenize_ok worded.readyMade] at validated
  obtain rfl := Except.ok.inj validated
  by_cases clean : findings options template = []
  · obtain ⟨closed, -⟩ := built_of_moveAll (tokens_moveAll worded clean)
    obtain ⟨document, built⟩ : ∃ document, Document.ofTokens options
        ((readings options template).1.flatMap Reading.tokens) = .ok document := by
      rw [Document.ofTokens, BuildStack.toDocument, closed]
      exact ⟨_, rfl⟩
    rw [clean]
    exact ⟨some document, (parse_document_iff worded.readyMade).2 ⟨clean, rfl, built⟩, by simp⟩
  · exact ⟨none, parse_refused worded.readyMade clean, by simpa using clean⟩

end Template

/-- A text with a line feed at its end is not empty. -/
theorem Outcome.completed_ne_nil (text : Text) : Outcome.completed text ≠ [] := by
  unfold completed
  split
  · rename_i ended
    rintro rfl
    exact absurd ended (by decide)
  · exact List.append_ne_nil_of_right_ne_nil _ (by decide)

/-- What a run reports of a template with diagnostics: their number tells the status, and they are
written in their order, with one line that counts them below. -/
structure Outcome.Reports (outcome : Outcome) (reporter : Reporter)
    (diagnostics : List Diagnostic) : Prop where
  status : outcome.status = if diagnostics = [] then 0 else 1
  errors : outcome.errors = if diagnostics = [] then [] else
    diagnostics.flatMap reporter.entry ++ reporter.summary diagnostics.length

/-- A reporter's outcome reports the diagnostics. -/
theorem Reporter.reports_outcome (reporter : Reporter) (output : Text)
    (diagnostics : List Diagnostic) :
    (reporter.outcome output diagnostics).Reports reporter diagnostics :=
  ⟨rfl, rfl⟩

namespace Invocation

/-- Every command has a verdict and reports the diagnostics of the template. The command for the
document writes something exactly when there are none. -/
theorem verdict_ok (invocation : Invocation) (settings : Settings) {source : Text}
    {diagnostics : List Diagnostic}
    (validated : Template.validate (invocation.options settings) source = .ok diagnostics) :
    ∃ outcome, invocation.verdict settings source = .ok outcome ∧
      outcome.Reports ⟨invocation.path, source, settings.showSource⟩ diagnostics ∧
      (invocation.command = .parse → (outcome.output ≠ [] ↔ diagnostics = [])) := by
  have worded : (invocation.options settings).Worded := Options.worded_partials _
  cases command : invocation.command with
  | parse =>
    obtain ⟨document, parsed, isSome⟩ := Template.parse_ok worded validated
    rw [verdict, command]
    simp only [bind, Except.bind, parsed]
    cases document with
    | none =>
      refine ⟨_, rfl, Reporter.reports_outcome _ _ _, fun _ => ?_⟩
      exact iff_of_false (fun written => written rfl) (by simpa using isSome)
    | some document =>
      obtain rfl := isSome.1 rfl
      refine ⟨_, rfl, Reporter.reports_outcome _ _ _, fun _ => ?_⟩
      exact iff_of_true (Outcome.completed_ne_nil _) rfl
  | validate =>
    rw [verdict, command]
    simp only [bind, Except.bind, validated]
    exact ⟨_, rfl, Reporter.reports_outcome _ _ _, by simp⟩
  | tokens =>
    obtain ⟨tokenized, read, found⟩ : ∃ tokenized,
        Template.tokenize (invocation.options settings) source = .ok tokenized ∧
          tokenized.diagnostics = diagnostics := by
      have read := Template.tokenize_ok worded.readyMade source
      rw [Template.validate, read] at validated
      exact ⟨_, read, Except.ok.inj validated⟩
    rw [verdict, command]
    simp only [bind, Except.bind, read, found]
    exact ⟨_, rfl, Reporter.reports_outcome _ _ _, by simp⟩

/-- Where the settings of a run load and its template is a text, the run has the verdict. -/
theorem run_ok {invocation : Invocation} {files : FileSystem} {settings : Settings} {source : Text}
    (loaded : invocation.settings files = .ok settings)
    (there : files invocation.path = .ok source.bytes) {outcome : Outcome}
    (verdict : invocation.verdict settings source = .ok outcome) :
    invocation.run files = .ok outcome := by
  have text : files.text invocation.path = .ok source := by
    rw [FileSystem.text, there]
    simp only [bind, Except.bind, Utf8.decode?_bytes]
    rfl
  rw [run, loaded]
  simp only [bind, Except.bind, text, verdict]
  rfl

/-- The name of a format is known. -/
theorem named?_name_isSome (format : OutputFormat) : (OutputFormat.named? format.name).isSome := by
  cases format with
  | drawing => decide
  | data form =>
    cases form with
    | json => decide
    | yaml => decide

/-- Either the format of a run is unknown, or its settings are loaded from its settings file with
its flags over it. -/
theorem settings_cases (invocation : Invocation) (files : FileSystem) :
    (∃ name unknown, invocation.format = some name ∧ OutputFormat.ofName name = .error unknown ∧
      invocation.settings files = .error (.format unknown)) ∨
    ∃ overrides : Overrides, (∀ name ∈ overrides.format, (OutputFormat.named? name).isSome) ∧
      ∀ settings, invocation.settings files = .ok settings ↔
        Settings.load files invocation.config.toList overrides = .ok settings := by
  let positions := if invocation.noPositions then some false else none
  cases asked : invocation.format with
  | none =>
    refine Or.inr ⟨⟨none, positions⟩, by simp, ?_⟩
    intro settings
    simp only [Invocation.settings, asked, pure_bind]
    cases Settings.load files invocation.config.toList ⟨none, positions⟩ with
    | ok whole => simp [pure, Except.pure]
    | error fault => simp
  | some name =>
    cases named : OutputFormat.ofName name with
    | error unknown =>
      refine Or.inl ⟨name, unknown, rfl, named, ?_⟩
      simp only [Invocation.settings, asked, named]
      rfl
    | ok format =>
      refine Or.inr ⟨⟨some format.name, positions⟩, ?_, ?_⟩
      · rintro _ ⟨rfl⟩
        exact named?_name_isSome format
      · intro settings
        simp only [Invocation.settings, asked, named, pure_bind]
        cases Settings.load files invocation.config.toList ⟨some format.name, positions⟩ with
        | ok whole => simp [pure, Except.pure]
        | error fault => simp

end Invocation

/-- The words of a command line ask for a command on a template, with a settings file and names of
partials. The command and the flags for output are left open. -/
structure Invocation.Asked (invocation : Invocation) (words : List Text) (path : Text)
    (config : Option Text) (flagged : List Text) : Prop where
  read : Invocation.ofWords words = .ok invocation
  path : invocation.path = path
  config : invocation.config = config
  partials : invocation.partials = flagged

namespace Outcome

end Outcome

end Bracework
