import RiskGauge.CommandLine.Run
import RiskGauge.File.Tree
import RiskGauge.Proofs.CommandLine.Arguments
import RiskGauge.Script.Parse

/-!
# All reports or none

An `analyze` command prints the reports on all of its files, each of them the one that the file gets alone, or it prints
nothing and fails.

* `analyze_eq`: what the files have in common is read before any of them (`Setting.read`), and then one report follows the
  other;
* `outcome_alone`: for one file alone that is the same with a list of one;
* `outcome_cases`: so a command that fails does so because of a file that fails alone;
* `printed_ofReports`: how reports are printed, by their number and the format (`Printed`).
-/

namespace RiskGauge.CommandLine

variable {host : Host Id} {o : AnalyzeOptions} {args : List String}

/-! ## Reports -/

/-- What all files of a command are scored with. -/
structure Setting where
  config : Config
  analyzer : Analyzer
  before : Option (List Char)

namespace Setting

/-- Reads what all files of a command are scored with. -/
def read (host : Host Id) (o : AnalyzeOptions) : Except CommandError Setting := do
  let config : Config ← resolve (m := Id) host o
  let analyzer : Analyzer ← CommandLine.analyzer (m := Id) host o.strict config
  let before : Option (List Char) ← previousText (m := Id) host o
  return { config, analyzer, before }

/-- The report on a file. -/
def report (s : Setting) (host : Host Id) (o : AnalyzeOptions) (file : String) :
    Except CommandError FileReport :=
  FileReport.ofContent o s.config s.analyzer s.before file (host.file file)

/-- A report is what the analyzer says about its file, or about the code block in it. -/
def Assesses (s : Setting) (host : Host Id) (o : AnalyzeOptions) (r : FileReport) : Prop :=
  ∃ text source, decode (host.file r.file) = .ok text ∧ o.source s.config s.before r.file text = .ok source ∧
    s.analyzer.assess source (.ok s.config.weights) = .ok r.report ∧ r.path = source.path ∧
    r.language = source.language.getD ""

theorem report_eq_ok {s : Setting} {file : String} {r : FileReport} (h : s.report host o file = .ok r) :
    r.file = file ∧ s.Assesses host o r := by
  obtain ⟨text, htext, h⟩ := bind_eq_ok.mp h
  split at h
  · cases h
  · rename_i source hsource
    split at h
    · cases h
    · rename_i report hreport
      obtain rfl := pure_eq_ok.mp h
      exact ⟨rfl, text, source, htext, hsource, hreport, rfl, rfl⟩

end Setting

/-- Reports as they are printed in a format: in words with blank lines between them, or as one object, or several as a
list. -/
inductive Printed : String → List FileReport → String → Prop
  | words (reports : List FileReport) :
    Printed "text" reports (String.intercalate "\n\n" (reports.map FileReport.toText) ++ "\n")
  | object {format : String} (r : FileReport) : format ≠ "text" → Printed format [r] (r.toJson.indented ++ "\n")
  | list {format : String} {reports : List FileReport} : format ≠ "text" → 2 ≤ reports.length →
    Printed format reports ((Json.list (reports.map FileReport.toJson)).indented ++ "\n")

theorem printed_ofReports (format : String) {reports : List FileReport} (h : reports ≠ []) :
    Printed format reports (Output.ofReports format reports).toText := by
  unfold Output.ofReports
  by_cases hformat : format = "text"
  · subst hformat
    exact .words reports
  · rw [if_neg (by simpa using hformat)]
    match reports, h with
    | [r], _ => exact .object r hformat
    | r :: q :: reports, _ => exact .list hformat (by simp)

/-! ## Outcomes -/

/-- A run ends with what a command gives. -/
def Outcome.ofResult : Except CommandError Output → Outcome
  | .ok output => .printed output
  | .error e => .failed e

/-- How a command ends with the files that can be read. -/
def Command.outcome (host : Host Id) (c : Command) : Outcome :=
  .ofResult (c.run (m := Id) host)

/-- The command for one of its files alone. -/
def AnalyzeOptions.alone (o : AnalyzeOptions) (file : String) : Command :=
  .analyze { o with files := [file] }

theorem run_of_read {c : Command} (h : Command.read args = .ok c) :
    run (m := Id) host args = c.outcome host := by
  unfold run Command.outcome
  rw [h]
  rfl

/-- A command reads what its files have in common, and then reports on one after the other. -/
theorem analyze_eq : analyze (m := Id) host o = (do
    let s ← Setting.read host o
    let reports ← o.files.mapM (s.report host o)
    return Output.ofReports s.config.outputFormat reports : Except CommandError Output) := by
  unfold analyze Setting.read
  simp only [exceptT_bind, bind_assoc, pure_bind, ← mapM_exceptT]
  rfl

theorem outcome_of_setting_error {e : CommandError} (h : Setting.read host o = .error e) :
    (Command.analyze o).outcome host = .failed e := by
  rw [Command.outcome, Command.run, analyze_eq, h]
  rfl

section Outcomes

variable {s : Setting} (hs : Setting.read host o = .ok s)
include hs

theorem outcome_of_setting : (Command.analyze o).outcome host =
    .ofResult (Output.ofReports s.config.outputFormat <$> o.files.mapM (s.report host o)) := by
  rw [Command.outcome, Command.run, analyze_eq, hs, map_eq_pure_bind]
  rfl

theorem outcome_alone (file : String) : (o.alone file).outcome host =
    .ofResult ((fun r => Output.ofReports s.config.outputFormat [r]) <$> s.report host o file) := by
  have halone := outcome_of_setting (o := { o with files := [file] }) hs
  rw [List.mapM_cons, List.mapM_nil] at halone
  refine halone.trans ?_
  show Outcome.ofResult (_ <$> (s.report host o file >>= _)) = _
  cases s.report host o file <;> rfl

end Outcomes

/-- The files of a command have all their reports, or one of them fails alone as the command does. -/
theorem outcome_cases (hne : o.files ≠ []) :
    (∃ s reports, Setting.read host o = .ok s ∧
      (Command.analyze o).outcome host = .printed (Output.ofReports s.config.outputFormat reports) ∧
      reports.map FileReport.file = o.files ∧ ∀ r ∈ reports, s.report host o r.file = .ok r) ∨
    (∃ e, (Command.analyze o).outcome host = .failed e ∧
      ∃ file ∈ o.files, (o.alone file).outcome host = .failed e) := by
  cases hs : Setting.read host o with
  | error e =>
    -- No file matters, so that any of them will do.
    obtain ⟨file, hfile⟩ := List.exists_mem_of_ne_nil _ hne
    exact .inr ⟨e, outcome_of_setting_error hs, file, hfile,
      outcome_of_setting_error (o := { o with files := [file] }) hs⟩
  | ok s =>
    rw [outcome_of_setting hs]
    obtain ⟨reports, hreports, hall⟩ | ⟨e, herror, file, hfile, h⟩ := mapM_ok_or_error (s.report host o) o.files
    · rw [hreports]
      exact .inl ⟨s, reports, rfl, rfl, map_eq_of_forall₂_ok (fun h => (Setting.report_eq_ok h).1) hall⟩
    · refine .inr ⟨e, by rw [herror]; rfl, file, hfile, ?_⟩
      rw [outcome_alone hs, h]
      rfl

/-! ## All or none -/

/-- A run ends with the reports on all files of a command, in their order, as if each file were the only one. -/
structure Reported (host : Host Id) (o : AnalyzeOptions) (s : Setting)
    (reports : List FileReport) (outcome : Outcome) : Prop where
  setting : Setting.read host o = .ok s
  files : reports.map FileReport.file = o.files
  assessed : ∀ r ∈ reports, s.Assesses host o r
  alone : ∀ r ∈ reports, ((o.alone r.file).outcome host).exitCode = 0 ∧
    Printed s.config.outputFormat [r] ((o.alone r.file).outcome host).printedText
  exitCode : outcome.exitCode = 0
  printed : Printed s.config.outputFormat reports outcome.printedText

/-- A run ends without a report, and so it does for one of the files alone. -/
structure Unreported (host : Host Id) (o : AnalyzeOptions) (outcome : Outcome) : Prop where
  exitCode : outcome.exitCode = 1
  printed : outcome.printedText = ""
  alone : ∃ file ∈ o.files, ((o.alone file).outcome host).exitCode = 1

/-- An `analyze` command reports on all files that it finds among the arguments, or on none. -/
theorem all_reports_or_none (host : Host Id) (h : Command.read args = .ok (.analyze o)) :
    (o.files ≠ [] ∧ o.files.Sublist args) ∧
      ((∃ s reports, Reported host o s reports (run (m := Id) host args)) ∨
        Unreported host o (run (m := Id) host args)) := by
  obtain ⟨hne, hsub⟩ := Command.files_of_read h
  refine ⟨⟨hne, hsub⟩, ?_⟩
  rw [run_of_read h]
  obtain ⟨s, reports, hs, hprinted, hfiles, hreports⟩ | ⟨e, herror, file, hfile, halone⟩ := outcome_cases hne
  · have hsome : reports ≠ [] := by
      rintro rfl
      exact hne hfiles.symm
    have hassessed (r : FileReport) (hr : r ∈ reports) : s.Assesses host o r :=
      (Setting.report_eq_ok (hreports r hr)).2
    refine .inl ⟨s, reports, hs, hfiles, hassessed, fun r hr => ?_, ?_, ?_⟩
    · rw [outcome_alone hs, hreports r hr]
      exact ⟨rfl, printed_ofReports _ (List.cons_ne_nil r [])⟩
    · rw [hprinted, Outcome.exitCode]
    · rw [hprinted]
      exact printed_ofReports _ hsome
  · refine .inr ⟨?_, ?_, file, hfile, ?_⟩
    · rw [herror, Outcome.exitCode]
    · rw [herror]
      rfl
    · rw [halone, Outcome.exitCode]

/-- Two sources, the first of which is empty. -/
def twoSources : FileTree :=
  .ofList [("a.ts", "".toUTF8), ("b.ts", "let n = 1".toUTF8)]

/-- A host of these sources. -/
def twoSourcesHost : Host Id where
  file := twoSources.read
  reader := Script.parse
  room := 900

/-- Both sources are reported on, and neither is if a third one is missing. -/
theorem twoSources_reported :
    (∃ s reports, Reported twoSourcesHost { files := ["a.ts", "b.ts"] } s reports
      (run (m := Id) twoSourcesHost ["analyze", "a.ts", "b.ts"])) ∧
    Unreported twoSourcesHost { files := ["a.ts", "b.ts", "c.ts"] }
      (run (m := Id) twoSourcesHost ["analyze", "a.ts", "b.ts", "c.ts"]) := by
  constructor
  · refine (all_reports_or_none _ rfl).2.resolve_right fun h => ?_
    exact absurd h.exitCode (by decide +kernel)
  · refine (all_reports_or_none _ rfl).2.resolve_left fun ⟨_, _, h⟩ => ?_
    exact absurd h.exitCode (by decide +kernel)

end RiskGauge.CommandLine
