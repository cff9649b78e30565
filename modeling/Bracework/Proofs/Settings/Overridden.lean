import Bracework.Proofs.Text.Bytes
import Bracework.Settings.Basic

/-!
# Settings under flags

What is asked for directly lies over the files. It concerns the group of output, so the other
groups are read as the files and the defaults have them.
-/

namespace Bracework

namespace Setting

variable {entries : List (Text × Setting)} {name other : Text} {value : Setting}

/-- A name has the value that has been put in its place. -/
theorem lookup?_replace_self (entries : List (Text × Setting)) (name : Text) (value : Setting) :
    lookup? (replace entries name value) name = some value := by
  induction entries with
  | nil => simp [lookup?, replace]
  | cons entry rest induction =>
    rw [replace]
    split
    · simp [lookup?]
    · rename_i different
      rw [lookup?, List.find?_cons_of_neg (by simpa using different)]
      exact induction

/-- Other names keep their values. -/
theorem lookup?_replace_of_ne (entries : List (Text × Setting)) (value : Setting)
    (different : other ≠ name) :
    lookup? (replace entries name value) other = lookup? entries other := by
  induction entries with
  | nil => simp [lookup?, replace, Ne.symm different]
  | cons entry rest induction =>
    rw [replace]
    split
    · rename_i same
      rw [lookup?, lookup?, List.find?_cons_of_neg (by simpa using Ne.symm different),
        List.find?_cons_of_neg (by simpa [same] using Ne.symm different)]
    · rw [lookup?, lookup?, List.find?_cons, List.find?_cons]
      split
      · rfl
      · exact induction

end Setting

/-- The way to the place that a name at the top of a source stands for begins with a name. -/
theorem SettingStep.ofName_cons (name : Text) :
    ∃ first more, SettingStep.ofName name = .name first :: more := by
  rw [ofName]
  split
  · split
    · exact ⟨_, _, rfl⟩
    · exact ⟨_, _, rfl⟩
  · exact ⟨_, _, rfl⟩

namespace Setting

/-- What is set by a name is an entry of a table. -/
theorem set_name (value : Setting) (first : Text) (more : List SettingStep) (whole : Setting) :
    ∃ inner, set value (.name first :: more) whole =
      .table (replace whole.entries first inner) := by
  cases more with
  | nil => exact ⟨_, rfl⟩
  | cons second rest => exact ⟨_, rfl⟩

/-- Over a table lies a table. -/
theorem layer_table (below : List (Text × Setting)) (source : List (Text × Setting)) :
    ∃ entries, layer (.table below) source = .table entries := by
  induction source generalizing below with
  | nil => exact ⟨below, rfl⟩
  | cons entry rest induction =>
    obtain ⟨first, more, way⟩ := SettingStep.ofName_cons entry.1
    obtain ⟨inner, here⟩ := set_name entry.2 first more (.table below)
    rw [layer, List.foldl_cons, way, here]
    exact induction _

end Setting

open Setting

namespace Overrides

/-- What is asked for directly lies in the group of output, and other groups are as they were. -/
structure Laid (overrides : Overrides) (below above : List (Text × Setting)) : Prop where
  others : ∀ name : Text, name ≠ "output" → lookup? above name = lookup? below name
  /-- In a group that is a table, what is not asked for is as it was. -/
  group : ∀ group, lookup? below "output" = some (.table group) →
    ∃ inner, lookup? above "output" = some (.table inner) ∧
      lookup? inner "format" = (overrides.format.map Setting.text).or (lookup? group "format") ∧
      lookup? inner "show_positions" =
        (overrides.showPositions.map Setting.bool).or (lookup? group "show_positions")

/-- The entries with a value under a name in the group of output. -/
def withOutput (below : List (Text × Setting)) (name : Text) (value : Setting) :
    List (Text × Setting) :=
  let group := ((lookup? below "output").getD .nothing).entries
  replace below "output" (.table (replace group name value))

/-- A format that is asked for is set in the group of output. -/
theorem set_format (below : List (Text × Setting)) (name : Text) :
    set (.text name) (SettingStep.ofName "output.format") (.table below) =
      .table (withOutput below "format" (.text name)) := by
  have way : SettingStep.ofName "output.format" = [.name "output", .name "format"] := by
    decide +kernel
  rw [way]
  rfl

/-- Whether positions are shown is set in the group of output. -/
theorem set_positions (below : List (Text × Setting)) (shown : Bool) :
    set (.bool shown) (SettingStep.ofName "output.show_positions") (.table below) =
      .table (withOutput below "show_positions" (.bool shown)) := by
  have way : SettingStep.ofName "output.show_positions" =
      [.name "output", .name "show_positions"] := by decide +kernel
  rw [way]
  rfl

/-- Setting a value in the group of output leaves the other groups as they are. -/
theorem lookup?_withOutput_of_ne {name : Text} (other : name ≠ "output")
    (below : List (Text × Setting)) (field : Text) (value : Setting) :
    lookup? (withOutput below field value) name = lookup? below name :=
  lookup?_replace_of_ne _ _ other

/-- Setting a value in the group of output changes that group. -/
theorem lookup?_withOutput {below group : List (Text × Setting)}
    (found : lookup? below "output" = some (.table group)) (field : Text) (value : Setting) :
    lookup? (withOutput below field value) "output" =
      some (.table (replace group field value)) := by
  rw [withOutput, found]
  exact lookup?_replace_self _ _ _

/-- A format is laid over a table. -/
theorem exists_laid_format (format : Option Text) (below : List (Text × Setting)) :
    ∃ above, (Setting.table below).layer (entries ⟨format, none⟩) = .table above ∧
      Laid ⟨format, none⟩ below above := by
  cases format with
  | none =>
    exact ⟨below, rfl, fun _ _ => rfl, fun group found => ⟨group, found, rfl, rfl⟩⟩
  | some name =>
    refine ⟨withOutput below "format" (.text name), set_format below name, ?_, ?_⟩
    · exact fun _ other => lookup?_withOutput_of_ne other _ _ _
    · intro group found
      refine ⟨_, lookup?_withOutput found _ _, lookup?_replace_self _ _ _, ?_⟩
      exact lookup?_replace_of_ne _ _ (by decide)

/-- What is asked for directly is laid over a table. -/
theorem exists_laid (overrides : Overrides) (below : List (Text × Setting)) :
    ∃ above, (Setting.table below).layer overrides.entries = .table above ∧
      overrides.Laid below above := by
  obtain ⟨format, positions⟩ := overrides
  obtain ⟨middle, first, laid⟩ := exists_laid_format format below
  cases positions with
  | none => exact ⟨middle, first, laid⟩
  | some shown =>
    refine ⟨withOutput middle "show_positions" (.bool shown), ?_, ?_, ?_⟩
    · rw [← set_positions, ← first, entries, entries, layer, layer, List.foldl_append,
        List.foldl_append]
      rfl
    · intro name other
      rw [lookup?_withOutput_of_ne other, laid.others name other]
    · intro group found
      obtain ⟨inner, there, format, -⟩ := laid.group group found
      refine ⟨_, lookup?_withOutput there _ _, ?_, lookup?_replace_self _ _ _⟩
      rw [lookup?_replace_of_ne _ _ (by decide), format]

end Overrides

namespace Settings

/-! ### Settings in a table -/

/-- A group in the entries of a tree has one setting, which is read as a value. -/
def Holds {Value : Type} (group name : Text) (read : Setting → Option Value)
    (entries : List (Text × Setting)) (value : Value) : Prop :=
  ∃ items setting, lookup? entries group = some items ∧
    fields? [name] items = some [setting] ∧ read setting = some value

/-- The partials that are configured in the entries of a tree. -/
def HasPartials : List (Text × Setting) → List Text → Prop := Holds "parser" "partials" texts?

/-- Whether lines are shown around a problem according to the entries of a tree. -/
def HasSource : List (Text × Setting) → Bool → Prop :=
  Holds "diagnostics" "show_source" Setting.truth?

/-- How output is written according to the entries of a tree. -/
def HasOutput (entries : List (Text × Setting)) (format : OutputFormat) (positions : Bool) : Prop :=
  ∃ group name shown, lookup? entries "output" = some group ∧
    fields? ["format", "show_positions"] group = some [name, shown] ∧
    format? name = some format ∧ shown.truth? = some positions

/-- A group has at most one value. -/
theorem Holds.unique {Value : Type} {group name : Text} {read : Setting → Option Value}
    {entries : List (Text × Setting)} {first second : Value}
    (one : Holds group name read entries first) (other : Holds group name read entries second) :
    first = second := by
  obtain ⟨items, setting, found, fields, value⟩ := one
  obtain ⟨again, kept, refound, refields, revalue⟩ := other
  obtain rfl := Option.some.inj (found.symm.trans refound)
  obtain ⟨rfl, -⟩ := List.cons.inj (Option.some.inj (fields.symm.trans refields))
  exact Option.some.inj (value.symm.trans revalue)

/-- The fields of a table are looked up one after the other. -/
theorem fields?_table {entries : List (Text × Setting)} {names : List Text}
    {values : List Setting} : fields? names (.table entries) = some values ↔
      List.Forall₂ (fun name value => lookup? entries name = some value) names values := by
  induction names generalizing values with
  | nil => simp [fields?]
  | cons name rest induction =>
    rw [fields?] at induction
    simp only [fields?, List.mapM_cons, Option.bind_eq_bind, Option.bind_eq_some_iff,
      Option.pure_def, Option.some.injEq, List.forall₂_cons_left_iff, induction]
    grind

/-- The groups of settings are entries of a table. -/
theorem fields?_groups {entries : List (Text × Setting)} {parser output diagnostics : Setting} :
    fields? ["parser", "output", "diagnostics"] (.table entries) =
      some [parser, output, diagnostics] ↔
      lookup? entries "parser" = some parser ∧ lookup? entries "output" = some output ∧
        lookup? entries "diagnostics" = some diagnostics := by
  rw [fields?_table]
  simp only [List.forall₂_cons, List.forall₂_nil_right_iff, and_true]

/-- The settings of output are entries of their group. -/
theorem fields?_output {group : List (Text × Setting)} {format positions : Setting} :
    fields? ["format", "show_positions"] (.table group) = some [format, positions] ↔
      lookup? group "format" = some format ∧
        lookup? group "show_positions" = some positions := by
  rw [fields?_table]
  simp only [List.forall₂_cons, List.forall₂_nil_right_iff, and_true]

/-- Settings are read from a table group by group. -/
theorem ofTree?_table {entries : List (Text × Setting)} {settings : Settings} :
    ofTree? (.table entries) = some settings ↔
      HasPartials entries settings.partials ∧
      HasOutput entries settings.format settings.showPositions ∧
      HasSource entries settings.showSource := by
  constructor
  · intro read
    simp only [ofTree?, Option.bind_eq_bind] at read
    obtain ⟨groups, found, read⟩ := Option.bind_eq_some_iff.1 read
    split at read
    · rename_i parser output diagnostics
      obtain ⟨parserFound, outputFound, diagnosticsFound⟩ := fields?_groups.1 found
      obtain ⟨parserFields, parserRead, read⟩ := Option.bind_eq_some_iff.1 read
      obtain ⟨outputFields, outputRead, read⟩ := Option.bind_eq_some_iff.1 read
      obtain ⟨diagnosticsFields, diagnosticsRead, read⟩ := Option.bind_eq_some_iff.1 read
      split at read
      · obtain ⟨partials, partialsRead, read⟩ := Option.bind_eq_some_iff.1 read
        obtain ⟨format, formatRead, read⟩ := Option.bind_eq_some_iff.1 read
        obtain ⟨positions, positionsRead, read⟩ := Option.bind_eq_some_iff.1 read
        obtain ⟨source, sourceRead, read⟩ := Option.bind_eq_some_iff.1 read
        obtain rfl := Option.some.inj read
        exact ⟨⟨parser, _, parserFound, parserRead, partialsRead⟩,
          ⟨output, _, _, outputFound, outputRead, formatRead, positionsRead⟩,
          ⟨diagnostics, _, diagnosticsFound, diagnosticsRead, sourceRead⟩⟩
      · cases read
    · cases read
  · rintro ⟨⟨parser, names, parserFound, parserFields, partials⟩,
      ⟨output, name, shown, outputFound, outputFields, format, positions⟩,
      ⟨diagnostics, kept, diagnosticsFound, diagnosticsFields, source⟩⟩
    have groups := fields?_groups.2 ⟨parserFound, outputFound, diagnosticsFound⟩
    rw [ofTree?, groups]
    simp only [Option.bind_eq_bind, Option.bind_some, parserFields, outputFields, diagnosticsFields,
      partials, format, positions, source]
    rfl

section Laid

variable {overrides : Overrides} {below above : List (Text × Setting)}
  (laid : overrides.Laid below above)

include laid

/-- A group other than that of output has the value it had. -/
theorem holds_laid {Value : Type} {group name : Text} {read : Setting → Option Value}
    (other : group ≠ "output") (value : Value) :
    Holds group name read above value ↔ Holds group name read below value := by
  rw [Holds, Holds, laid.others group other]

/-- The partials are configured as they were. -/
theorem hasPartials_laid (partials : List Text) :
    HasPartials above partials ↔ HasPartials below partials :=
  holds_laid laid (by decide) partials

/-- Lines around a problem are shown as they were. -/
theorem hasSource_laid (source : Bool) : HasSource above source ↔ HasSource below source :=
  holds_laid laid (by decide) source

/-- In a group that is a table, each setting of output is the one that is asked for or the one that
was there. -/
theorem hasOutput_laid {group : List (Text × Setting)}
    (listed : lookup? below "output" = some (.table group))
    (known : ∀ name ∈ overrides.format, (OutputFormat.named? name).isSome)
    {format : OutputFormat} {positions : Bool} (had : HasOutput below format positions) :
    ∃ format positions, HasOutput above format positions := by
  obtain ⟨output, name, shown, found, fields, formatRead, shownRead⟩ := had
  obtain rfl := Option.some.inj (found.symm.trans listed)
  obtain ⟨formatBelow, shownBelow⟩ := fields?_output.1 fields
  obtain ⟨inner, there, formatAbove, shownAbove⟩ := laid.group group listed
  rw [formatBelow] at formatAbove
  rw [shownBelow] at shownAbove
  have hasFormat : ∃ name format, lookup? inner "format" = some name ∧
      format? name = some format := by
    cases asked : overrides.format with
    | none =>
      rw [asked] at formatAbove
      exact ⟨name, format, formatAbove, formatRead⟩
    | some text =>
      rw [asked] at formatAbove
      obtain ⟨chosen, named⟩ := Option.isSome_iff_exists.1 (known text asked)
      exact ⟨.text text, chosen, formatAbove, named⟩
  have hasPositions : ∃ shown positions, lookup? inner "show_positions" = some shown ∧
      shown.truth? = some positions := by
    cases asked : overrides.showPositions with
    | none =>
      rw [asked] at shownAbove
      exact ⟨shown, positions, shownAbove, shownRead⟩
    | some value =>
      rw [asked] at shownAbove
      exact ⟨.bool value, value, shownAbove, rfl⟩
  obtain ⟨name, format, named, formatRead⟩ := hasFormat
  obtain ⟨shown, positions, kept, shownRead⟩ := hasPositions
  exact ⟨format, positions, .table inner, name, shown, there, fields?_output.2 ⟨named, kept⟩,
    formatRead, shownRead⟩

end Laid

/-! ### Loading -/

/-- A file over a table leaves a table. -/
theorem withFile_table {files : FileSystem} {below : List (Text × Setting)} {path : Text}
    {tree : Setting} (read : withFile files (.table below) path = .ok tree) :
    ∃ entries, tree = .table entries := by
  rw [withFile] at read
  split at read
  · cases read
  · split at read
    · cases read
    · obtain rfl := Except.ok.inj read
      exact layer_table _ _

/-- The files over a table leave a table. -/
theorem withFiles_table {files : FileSystem} {paths : List Text} {below : List (Text × Setting)}
    {tree : Setting} (read : paths.foldlM (withFile files) (.table below) = .ok tree) :
    ∃ entries, tree = .table entries := by
  induction paths generalizing below with
  | nil => exact ⟨below, (Except.ok.inj read).symm⟩
  | cons path rest induction =>
    rw [List.foldlM_cons] at read
    cases first : withFile files (.table below) path with
    | error fault =>
      rw [first] at read
      cases read
    | ok filed =>
      obtain ⟨entries, rfl⟩ := withFile_table first
      rw [first] at read
      exact induction read

/-- The entries of the files, over the defaults. -/
def Filed (files : FileSystem) (paths : List Text) (entries : List (Text × Setting)) : Prop :=
  paths.foldlM (withFile files) defaults = .ok (.table entries)

section Load

variable {files : FileSystem} {paths : List Text} {overrides : Overrides} {settings : Settings}
  {below : List (Text × Setting)}

/-- What is asked for directly is laid over the entries of the files, and settings are read from
all of them. -/
theorem load_eq_ok_iff : load files paths overrides = .ok settings ↔
    ∃ below above, Filed files paths below ∧ overrides.Laid below above ∧
      (Setting.table below).layer overrides.entries = .table above ∧
      ofTree? (.table above) = some settings := by
  constructor
  · intro loaded
    cases read : paths.foldlM (withFile files) defaults with
    | error fault =>
      rw [load, read] at loaded
      cases loaded
    | ok tree =>
      obtain ⟨below, rfl⟩ := withFiles_table read
      obtain ⟨above, layered, laid⟩ := overrides.exists_laid below
      rw [load, read] at loaded
      simp only [bind, Except.bind, layered] at loaded
      cases found : ofTree? (.table above) with
      | none =>
        rw [found] at loaded
        cases loaded
      | some whole =>
        rw [found] at loaded
        obtain rfl := Except.ok.inj loaded
        exact ⟨below, above, read, laid, layered, found⟩
  · rintro ⟨below, above, filed, -, layered, found⟩
    rw [Filed] at filed
    rw [load, filed]
    simp only [bind, Except.bind, layered, found]
    rfl

/-- Settings that are loaded have the partials and the way of reporting that the files and the
defaults have. -/
theorem load_filed (loaded : load files paths overrides = .ok settings) :
    ∃ below, Filed files paths below ∧ HasPartials below settings.partials ∧
      HasSource below settings.showSource := by
  obtain ⟨below, above, filed, laid, -, found⟩ := load_eq_ok_iff.1 loaded
  obtain ⟨partials, -, source⟩ := ofTree?_table.1 found
  exact ⟨below, filed, (hasPartials_laid laid _).1 partials, (hasSource_laid laid _).1 source⟩

/-- What is asked for directly changes neither the partials nor the way of reporting. -/
theorem load_agree {others : Overrides} {again : Settings}
    (loaded : load files paths overrides = .ok settings)
    (reloaded : load files paths others = .ok again) :
    settings.partials = again.partials ∧ settings.showSource = again.showSource := by
  obtain ⟨below, filed, partials, source⟩ := load_filed loaded
  obtain ⟨same, refiled, again, shown⟩ := load_filed reloaded
  obtain ⟨rfl⟩ := Except.ok.inj (filed.symm.trans refiled)
  exact ⟨partials.unique again, source.unique shown⟩

/-- What is asked for directly keeps no settings from loading, if it names a format and the files
give the group of output as a table. A list in its place would be lost. -/
theorem load_override {plain : Settings} (loaded : load files paths ⟨none, none⟩ = .ok plain)
    (table : ∀ below, Filed files paths below →
      ∃ group, lookup? below "output" = some (.table group))
    (known : ∀ name ∈ overrides.format, (OutputFormat.named? name).isSome) :
    ∃ settings, load files paths overrides = .ok settings := by
  obtain ⟨below, same, filed, -, layered, found⟩ := load_eq_ok_iff.1 loaded
  obtain ⟨rfl⟩ := layered
  obtain ⟨partials, output, source⟩ := ofTree?_table.1 found
  obtain ⟨above, relayered, laid⟩ := overrides.exists_laid below
  obtain ⟨group, listed⟩ := table below filed
  obtain ⟨format, positions, output⟩ := hasOutput_laid laid listed known output
  refine ⟨⟨plain.partials, format, positions, plain.showSource⟩, load_eq_ok_iff.2
    ⟨below, above, filed, laid, relayered, ofTree?_table.2 ⟨?_, output, ?_⟩⟩⟩
  · exact (hasPartials_laid laid _).2 partials
  · exact (hasSource_laid laid _).2 source

example :
    let files : FileSystem := fun _ => .ok (Text.bytes "output = [\"yaml\", \"no\"]")
    (load files ["c.toml"] ⟨none, none⟩).isOk ∧
      load files ["c.toml"] ⟨none, some false⟩ = .error .unsuitable := by decide +kernel

/-- All settings that are loaded from the same files agree in the partials and the way of
reporting. -/
theorem exists_common (files : FileSystem) (paths : List Text) : ∃ partials showSource,
    ∀ overrides settings, load files paths overrides = .ok settings →
      settings.partials = partials ∧ settings.showSource = showSource := by
  by_cases some : ∃ overrides settings, load files paths overrides = .ok settings
  · obtain ⟨first, settings, loaded⟩ := some
    exact ⟨settings.partials, settings.showSource, fun overrides again reloaded =>
      load_agree reloaded loaded⟩
  · exact ⟨[], true, fun overrides settings loaded => absurd ⟨overrides, settings, loaded⟩ some⟩

end Load

end Settings

end Bracework
