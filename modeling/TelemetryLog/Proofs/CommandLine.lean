import Mathlib.Tactic.Common
import TelemetryLog.CommandLine

/-! Which settings give a path for the log. The environment always gives texts for the folder and
the file; only the command line can put the empty list in their place. -/

namespace TelemetryLog

theorem Except.exists_of_bind_eq_ok {ε α β : Type} {x : Except ε α} {f : α → Except ε β} {b : β}
    (h : x >>= f = .ok b) : ∃ a, x = .ok a ∧ f a = .ok b := by
  cases x with
  | error fault => cases h
  | ok a => exact ⟨a, rfl, h⟩

/-- The folder and the file that are given have been written as texts, or as two dashes, which may
stand for the empty list. -/
structure Arguments.Written (args : Arguments) : Prop where
  outputFolder : args.outputFolder ≠ some .nothing
  outputFile : args.outputFile ≠ some .nothing

/-- Whether the folder or the file of the log is given as the empty list. -/
def Arguments.listsOutput (args : Arguments) : Bool :=
  args.outputFolder = some .emptyList || args.outputFile = some .emptyList

namespace Arguments

variable {args : Arguments}

theorem valueOf_ne_nothing [Host] (s : String) : valueOf s ≠ .nothing := by
  unfold valueOf
  split <;> simp

theorem Written.set (h : args.Written) {value : GivenText} (hValue : value ≠ .nothing)
    (option : CliOption) : (args.set value option).Written := by
  cases option with
  | outputFolder => exact ⟨by simpa [Arguments.set] using hValue, h.outputFile⟩
  | outputFile => exact ⟨h.outputFolder, by simpa [Arguments.set] using hValue⟩
  | help | envFile | topic | logLevel => exact ⟨h.outputFolder, h.outputFile⟩

theorem written_ofShapes [Host] {extra rest : List String}
    {shapes : List (String × ArgumentShape)} {given : Arguments} (h : args.Written)
    (hRead : ofShapes args extra shapes = .ok (given, rest)) : given.Written := by
  fun_induction ofShapes args extra shapes with
  | case1 args extra =>
    cases hRead
    exact h
  | case2 | case3 | case4 | case7 => cases hRead
  | case5 =>
    rename_i ih
    exact ih (h.set (valueOf_ne_nothing _) _) hRead
  | case6 =>
    rename_i ih
    exact ih (h.set (by simp) _) hRead
  | case8 =>
    rename_i ih
    exact ih h hRead

theorem written_parse [Host] {argv : List String} (h : parse argv = .ok args) : args.Written := by
  obtain ⟨shapes, -, hShapes⟩ := Except.exists_of_bind_eq_ok h
  obtain ⟨⟨given, extra⟩, hRead, hGiven⟩ := Except.exists_of_bind_eq_ok hShapes
  simp only at hGiven
  split at hGiven
  · cases hGiven
    exact written_ofShapes ⟨by simp [none], by simp [none]⟩ hRead
  · cases hGiven

end Arguments

namespace Settings

variable {settings : Settings}

/-- The folder and the file of the log are texts. -/
def NamesOutput (settings : Settings) : Prop :=
  ∃ folder file, settings.outputFolder = .text folder ∧ settings.outputFile = .text file

theorem namesOutput_ofEnvironment {env : Environment} (h : ofEnvironment env = .ok settings) :
    settings.NamesOutput := by
  obtain ⟨port, -, hPort⟩ := Except.exists_of_bind_eq_ok h
  obtain ⟨qos, -, hQos⟩ := Except.exists_of_bind_eq_ok hPort
  obtain ⟨statsEvery, -, hSettings⟩ := Except.exists_of_bind_eq_ok hQos
  cases hSettings
  exact ⟨_, _, rfl, rfl⟩

theorem namesOutput_load {tree : Tree} {env : Environment} {asked : Option String}
    (h : (load tree env asked).2 = .ok settings) : settings.NamesOutput := by
  unfold load at h
  split at h
  · exact namesOutput_ofEnvironment h
  · cases h

/-- The settings give a path for the log exactly if the command line does not put the empty list in
the place of its folder or of its file. -/
theorem outputPath_override (h : settings.NamesOutput) {args : Arguments} (hWritten : args.Written) :
    (∃ path, (settings.override args).outputPath = .ok path) ↔ args.listsOutput = false := by
  obtain ⟨folder, file, hFolder, hFile⟩ := h
  obtain ⟨hGivenFolder, hGivenFile⟩ := hWritten
  simp only [outputPath, override, hFolder, hFile, Arguments.listsOutput]
  rcases hOutputFolder : args.outputFolder with _ | (_ | _ | _) <;>
    rcases hOutputFile : args.outputFile with _ | (_ | _ | _) <;> simp_all

end Settings

end TelemetryLog
