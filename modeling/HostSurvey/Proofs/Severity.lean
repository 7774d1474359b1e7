import HostSurvey.Proofs.UnreadParts
import Mathlib.Data.List.Perm.Basic

/-!
The verdict of an analysis only grows with what it finds.
-/

namespace HostSurvey

/-- Counts of one analysis that are each at most those of another; the count of long-running
processes is free, since no verdict reads it. -/
structure Analysis.CountsLe (a a' : Analysis) : Prop where
  zombies : a.zombieProcessCount ≤ a'.zombieProcessCount
  highFd : a.highFdProcessCount ≤ a'.highFdProcessCount
  configIssues : a.configPermissionIssues ≤ a'.configPermissionIssues
  unusual : a.unusualListeners ≤ a'.unusualListeners

/-- Limits `t'` that flag at least what `t` flags: every limit the verdict or the counting
compares against is at most that of `t`. -/
structure Thresholds.Stricter (t' t : Thresholds) : Prop where
  highFd : t'.highFd ≤ t.highFd
  highFdProcesses : t'.highFdProcesses ≤ t.highFdProcesses
  unusualPortsCritical : t'.unusualPortsCritical ≤ t.unusualPortsCritical

theorem Thresholds.Stricter.refl (t : Thresholds) : t.Stricter t :=
  ⟨Int.le_refl _, Int.le_refl _, Int.le_refl _⟩

/-- What the analysis reads of a process: its state and how many descriptors it holds.
Processes that are equal as records have equal views. -/
def ProcessInfo.severityView (p : ProcessInfo) : String × Int := (p.state, p.fdCount)

/-- What the analysis reads of a configuration file: its issues. -/
def ConfigFileInfo.severityView (c : ConfigFileInfo) : List String := c.issues

theorem countP_le_of_subperm_map {α β : Type} {f : α → β} {l₁ l₂ : List α}
    (h : (l₁.map f).Subperm (l₂.map f)) (p : β → Bool) :
    l₁.countP (fun x => p (f x)) ≤ l₂.countP (fun x => p (f x)) := by
  have := List.Subperm.countP_le p h
  simpa only [List.countP_map, Function.comp_def] using this

namespace Thresholds

variable (t : Thresholds)

theorem verdict_cases (a : Analysis) : t.verdict a = 0 ∨ t.verdict a = 1 ∨ t.verdict a = 2 := by
  unfold verdict exitOk exitWarnings exitCritical
  split_ifs <;> simp

theorem verdict_mono {t t' : Thresholds} {a a' : Analysis}
    (hfd : t'.highFdProcesses ≤ t.highFdProcesses)
    (hcrit : t'.unusualPortsCritical ≤ t.unusualPortsCritical) (h : a.CountsLe a') :
    t.verdict a ≤ t'.verdict a' := by
  obtain ⟨hz, hh, hc, hu⟩ := h
  unfold verdict exitOk exitWarnings exitCritical
  -- each test is a strict comparison, so it stays true when its count grows or its limit falls
  split_ifs with h₁ h₂ h₃ h₄ h₅ h₆ h₇ <;> omega

theorem checkProcess_zombieProcessCount (longRunning : Float) (a : Analysis) (p : ProcessInfo) :
    (t.checkProcess longRunning a p).zombieProcessCount =
      a.zombieProcessCount + if p.state = "Z" then 1 else 0 := by
  unfold checkProcess
  split <;> split <;> split <;> simp_all

theorem checkProcess_highFdProcessCount (longRunning : Float) (a : Analysis) (p : ProcessInfo) :
    (t.checkProcess longRunning a p).highFdProcessCount =
      a.highFdProcessCount + if t.highFd < p.fdCount then 1 else 0 := by
  unfold checkProcess
  split <;> split <;> split <;> simp_all

theorem checkNetwork_counts (a : Analysis) (n : NetworkInfo) :
    (checkNetwork a n).zombieProcessCount = a.zombieProcessCount ∧
      (checkNetwork a n).highFdProcessCount = a.highFdProcessCount ∧
      (checkNetwork a n).unusualListeners = n.unusualPortCount := by
  unfold checkNetwork
  split <;> simp

theorem analyze_zombieProcessCount (fp : Fingerprint) :
    (t.analyze fp).zombieProcessCount = (fp.processes.countP (·.state = "Z") : Int) := by
  have hp := foldl_count Analysis.zombieProcessCount (fun p : ProcessInfo => p.state = "Z")
    (t.checkProcess_zombieProcessCount (t.longRunningDays * 86400.0)) fp.processes {}
  have hc := foldl_keep Analysis.zombieProcessCount (fun a c => (checkConfig_counts a c).2.1) fp.configs
  simp [analyze, (checkNetwork_counts _ _).1, hc, hp]

theorem analyze_highFdProcessCount (fp : Fingerprint) :
    (t.analyze fp).highFdProcessCount = (fp.processes.countP (t.highFd < ·.fdCount) : Int) := by
  have hp := foldl_count Analysis.highFdProcessCount (fun p : ProcessInfo => t.highFd < p.fdCount)
    (t.checkProcess_highFdProcessCount (t.longRunningDays * 86400.0)) fp.processes {}
  have hc := foldl_keep Analysis.highFdProcessCount (fun a c => (checkConfig_counts a c).2.2.1) fp.configs
  simp [analyze, (checkNetwork_counts _ _).2.1, hc, hp]

theorem analyze_unusualListeners (fp : Fingerprint) :
    (t.analyze fp).unusualListeners = fp.network.unusualPortCount := by
  simp [analyze, (checkNetwork_counts _ _).2.2]

theorem analyze_exitCode (fp : Fingerprint) : (t.analyze fp).exitCode = t.verdict (t.analyze fp) := by
  simp [analyze, verdict]

/-- Under limits no laxer, a survey holding the processes and files of another, with at least
as many unusual listeners, has counts at least as large. -/
theorem analyze_countsLe {t t' : Thresholds} {fp fp' : Fingerprint} (hst : t'.Stricter t)
    (hp : (fp.processes.map ProcessInfo.severityView).Subperm
      (fp'.processes.map ProcessInfo.severityView))
    (hc : (fp.configs.map ConfigFileInfo.severityView).Subperm
      (fp'.configs.map ConfigFileInfo.severityView))
    (hu : fp.network.unusualPortCount ≤ fp'.network.unusualPortCount) :
    (t.analyze fp).CountsLe (t'.analyze fp') := by
  have hz := countP_le_of_subperm_map hp (fun v => v.1 = "Z")
  have hh := countP_le_of_subperm_map hp (fun v => t.highFd < v.2)
  -- a lower descriptor limit counts every process the higher one counts
  have hh' : fp'.processes.countP (t.highFd < ·.fdCount) ≤
      fp'.processes.countP (t'.highFd < ·.fdCount) :=
    List.countP_mono_left fun p _ h => by
      simp only [decide_eq_true_eq] at h ⊢
      exact Int.lt_of_le_of_lt hst.highFd h
  have hc' := countP_le_of_subperm_map hc (fun is => !is.isEmpty)
  simp only [ProcessInfo.severityView, ConfigFileInfo.severityView] at hz hh hc'
  refine ⟨?_, ?_, ?_, ?_⟩
  · rw [analyze_zombieProcessCount, analyze_zombieProcessCount]
    exact_mod_cast hz
  · rw [analyze_highFdProcessCount, analyze_highFdProcessCount]
    exact_mod_cast Nat.le_trans hh hh'
  · rw [analyze_configPermissionIssues, analyze_configPermissionIssues,
      ← List.countP_eq_length_filter, ← List.countP_eq_length_filter]
    exact_mod_cast hc'
  · rw [analyze_unusualListeners, analyze_unusualListeners]
    exact hu

/-- The severity policy is monotone: the verdict is one of the three exit codes and never
falls when a count grows or a limit falls, so a survey that holds what another holds, with at
least its unusual listeners, analysed under limits no laxer, is judged at least as severely;
and reordering the processes, the files or the listeners changes no verdict. -/
theorem severity_monotone :
    (∀ (t : Thresholds) (a : Analysis), t.verdict a = 0 ∨ t.verdict a = 1 ∨ t.verdict a = 2) ∧
    (∀ (t t' : Thresholds) (a a' : Analysis), t'.highFdProcesses ≤ t.highFdProcesses →
      t'.unusualPortsCritical ≤ t.unusualPortsCritical → a.CountsLe a' →
      t.verdict a ≤ t'.verdict a') ∧
    (∀ (t t' : Thresholds) (fp fp' : Fingerprint), t'.Stricter t →
      (fp.processes.map ProcessInfo.severityView).Subperm
        (fp'.processes.map ProcessInfo.severityView) →
      (fp.configs.map ConfigFileInfo.severityView).Subperm
        (fp'.configs.map ConfigFileInfo.severityView) →
      fp.network.unusualPortCount ≤ fp'.network.unusualPortCount →
      (t.analyze fp).exitCode ≤ (t'.analyze fp').exitCode) ∧
    (∀ (t : Thresholds) (fp fp' : Fingerprint), fp.processes.Perm fp'.processes →
      fp.configs.Perm fp'.configs →
      fp.network.unusualPortCount = fp'.network.unusualPortCount →
      (t.analyze fp).exitCode = (t.analyze fp').exitCode) := by
  have grows : ∀ (t t' : Thresholds) (fp fp' : Fingerprint), t'.Stricter t →
      (fp.processes.map ProcessInfo.severityView).Subperm
        (fp'.processes.map ProcessInfo.severityView) →
      (fp.configs.map ConfigFileInfo.severityView).Subperm
        (fp'.configs.map ConfigFileInfo.severityView) →
      fp.network.unusualPortCount ≤ fp'.network.unusualPortCount →
      (t.analyze fp).exitCode ≤ (t'.analyze fp').exitCode := by
    intro t t' fp fp' hst hp hc hu
    rw [analyze_exitCode, analyze_exitCode]
    exact verdict_mono hst.highFdProcesses hst.unusualPortsCritical (analyze_countsLe hst hp hc hu)
  refine ⟨verdict_cases, fun _ _ _ _ => verdict_mono, grows, ?_⟩
  intro t fp fp' hp hc hu
  -- a permutation is a sub-multiset both ways
  exact Int.le_antisymm
    (grows t t fp fp' (Stricter.refl t) (hp.map _).subperm (hc.map _).subperm (Int.le_of_eq hu))
    (grows t t fp' fp (Stricter.refl t) (hp.symm.map _).subperm (hc.symm.map _).subperm (Int.le_of_eq hu.symm))

/-- A survey with one more process holding many descriptors, judged under lower limits. -/
theorem busier_survey_judged_no_lower :
    let calm : Fingerprint := { processes := [{ pid := 1 }] }
    let busy : Fingerprint := { processes := [{ pid := 1 }, { pid := 2, fdCount := 500 }] }
    let strict : Thresholds := { highFd := 50, highFdProcesses := 0 }
    strict.Stricter {} ∧
      (calm.processes.map ProcessInfo.severityView).Subperm
        (busy.processes.map ProcessInfo.severityView) ∧
      (calm.configs.map ConfigFileInfo.severityView).Subperm
        (busy.configs.map ConfigFileInfo.severityView) ∧
      calm.network.unusualPortCount ≤ busy.network.unusualPortCount ∧
      (Thresholds.analyze {} calm).exitCode ≤ (strict.analyze busy).exitCode := by
  intro calm busy strict
  have hst : strict.Stricter {} := ⟨by decide, by decide, by decide⟩
  have hp : (calm.processes.map ProcessInfo.severityView).Subperm
      (busy.processes.map ProcessInfo.severityView) := List.Sublist.subperm (by decide)
  have hc : (calm.configs.map ConfigFileInfo.severityView).Subperm
      (busy.configs.map ConfigFileInfo.severityView) := List.Subperm.refl _
  have hu : calm.network.unusualPortCount ≤ busy.network.unusualPortCount := by decide
  exact ⟨hst, hp, hc, hu, severity_monotone.2.2.1 {} strict calm busy hst hp hc hu⟩

end Thresholds

end HostSurvey
