import HostSurvey.Proofs.ProcessTable

/-!
What a survey counts as unread.
-/

namespace HostSurvey

/-- A fold whose step adds one to a count exactly for the elements that satisfy `p` adds the
number of those elements. -/
theorem foldl_count {α β : Type} {step : β → α → β} (count : β → Int) (p : α → Prop)
    [DecidablePred p] (hstep : ∀ b x, count (step b x) = count b + if p x then 1 else 0)
    (xs : List α) (b : β) :
    count (xs.foldl step b) = count b + (xs.countP (fun x => decide (p x)) : Int) := by
  induction xs generalizing b with
  | nil => simp
  | cons x xs ih =>
    rw [List.foldl_cons, ih, hstep, List.countP_cons]
    by_cases h : p x <;> simp [h]
    omega

theorem foldl_keep {α β : Type} {step : β → α → β} (count : β → Int)
    (hstep : ∀ b x, count (step b x) = count b) (xs : List α) (b : β) :
    count (xs.foldl step b) = count b := by
  simpa using foldl_count count (fun _ => False) (fun b x => by simp [hstep]) xs b

namespace Thresholds

variable (t : Thresholds)

theorem checkProcess_configPermissionIssues (longRunning : Float) (a : Analysis) (p : ProcessInfo) :
    (t.checkProcess longRunning a p).configPermissionIssues = a.configPermissionIssues := by
  unfold checkProcess
  split <;> split <;> split <;> rfl

/-- A configuration file adds to the permission issues, and to no other count, when it has
an issue. -/
theorem checkConfig_counts (a : Analysis) (c : ConfigFileInfo) :
    (checkConfig a c).configPermissionIssues =
        a.configPermissionIssues + (if !c.issues.isEmpty then 1 else 0) ∧
      (checkConfig a c).zombieProcessCount = a.zombieProcessCount ∧
      (checkConfig a c).highFdProcessCount = a.highFdProcessCount ∧
      (checkConfig a c).longRunningProcessCount = a.longRunningProcessCount := by
  unfold checkConfig
  cases c.issues.isEmpty <;> simp

theorem checkNetwork_configPermissionIssues (a : Analysis) (n : NetworkInfo) :
    (checkNetwork a n).configPermissionIssues = a.configPermissionIssues := by
  unfold checkNetwork
  split <;> rfl

theorem analyze_configPermissionIssues (fp : Fingerprint) :
    (t.analyze fp).configPermissionIssues = (fp.configs.filter (!·.issues.isEmpty)).length := by
  have hp := foldl_keep Analysis.configPermissionIssues
    (t.checkProcess_configPermissionIssues (t.longRunningDays * 86400.0)) fp.processes {}
  have hc := foldl_count Analysis.configPermissionIssues
    (fun c : ConfigFileInfo => (!c.issues.isEmpty) = true)
    (fun a c => (checkConfig_counts a c).1) fp.configs
  simp only [analyze, checkNetwork_configPermissionIssues, hc, hp, List.countP_eq_length_filter,
    Bool.decide_eq_true]
  exact Int.zero_add _

end Thresholds

namespace FileTree

variable {t : FileTree}

/-- A configuration file that cannot be examined is absent and has no issues; one that can
keeps its path in normal form. -/
theorem checkConfigFile_ok {path : String} {c : ConfigFileInfo}
    (h : t.checkConfigFile path = .ok c) :
    c.path = (PathName.ofText path).text ∧ (c.isPresent = false → c.issues = []) := by
  unfold checkConfigFile at h
  dsimp only at h
  split at h
  · split at h
    · cases h
      exact ⟨rfl, fun _ => rfl⟩
    · cases h
  · cases h
    exact ⟨rfl, fun h => by cases h⟩

theorem checkConfigFiles_ok {paths : List Value} {cs : List ConfigFileInfo}
    (h : t.checkConfigFiles paths = .ok cs) :
    List.Forall₂ (fun p c => ∃ text, p.pathText = .ok text ∧ t.checkConfigFile text = .ok c)
      paths cs := by
  refine (mapM_eq_ok_iff.mp h).imp fun p c hc => ?_
  obtain ⟨text, htext, hcheck⟩ := bind_eq_ok.mp hc
  exact ⟨text, htext, hcheck⟩

end FileTree

/-- A survey that is taken holds the checks of the configuration files asked for, or of those
its configuration lists when none is asked for, one for each path in order; it says whether
it surveyed the network and leaves it empty when not; and it counts as unread a machine that
could not be read, a table without processes, each absent configuration file and each socket
table that could not be read. An absent file has no issues, so no configuration file is
counted both as unread and by the analysis, which counts each file with issues once. -/
theorem capture_counts_unread (t : FileTree) (cfg configs : Value) (network : Bool)
    (system : Option SystemInfo) (fp : Fingerprint)
    (h : t.capture cfg configs network system = .ok fp) :
    (∃ paths, configPaths cfg configs = .ok paths ∧
      t.checkConfigFiles paths = .ok fp.configs ∧
      List.Forall₂ (fun p c => ∃ text, p.pathText = .ok text ∧ c.path = (PathName.ofText text).text)
        paths fp.configs) ∧
    fp.networkProbed = network ∧
    (network = false → fp.network = {}) ∧
    fp.probeErrors = (if system.isSome then 0 else 1) + (if fp.processes.isEmpty then 1 else 0) +
      (fp.configs.filter (!·.isPresent)).length + (if network then fp.network.probeErrors else 0) ∧
    (∀ c ∈ fp.configs, c.isPresent = false → c.issues = []) ∧
    ∀ th : Thresholds,
      (th.analyze fp).configPermissionIssues = (fp.configs.filter (!·.issues.isEmpty)).length := by
  unfold FileTree.capture at h
  simp only [bind_eq_ok] at h
  obtain ⟨v, -, root, -, processes, -, paths, hpaths, checked, hchecked, hfinal⟩ := h
  have hforms : List.Forall₂
      (fun p c => ∃ text, p.pathText = .ok text ∧ c.path = (PathName.ofText text).text)
      paths checked :=
    (FileTree.checkConfigFiles_ok hchecked).imp fun p c ⟨text, htext, hc⟩ =>
      ⟨text, htext, (FileTree.checkConfigFile_ok hc).1⟩
  have habsent : ∀ c ∈ checked, c.isPresent = false → c.issues = [] :=
    forall_mem_of_forall₂ (FileTree.checkConfigFiles_ok hchecked) fun _ _ ⟨_, _, hc⟩ =>
      (FileTree.checkConfigFile_ok hc).2
  cases network with
  | false =>
    cases hfinal
    exact ⟨⟨paths, hpaths, hchecked, hforms⟩, rfl, fun _ => rfl, by simp, habsent,
      fun th => Thresholds.analyze_configPermissionIssues th _⟩
  | true =>
    simp only [if_true, bind_eq_ok] at hfinal
    obtain ⟨settings, -, info, -, hfp⟩ := hfinal
    cases hfp
    exact ⟨⟨paths, hpaths, hchecked, hforms⟩, rfl, (fun h => by cases h), by simp, habsent,
      fun th => Thresholds.analyze_configPermissionIssues th _⟩

section

open FileTree

/-- A configuration that surveys the process directory `proc` and lists no configuration
file. -/
def procConfig : Value := Value.record [("proc_root", .str "proc")]

/-- One process, one TCP listener and no other socket table, and a configuration file that
everyone may write. -/
def surveyedTree : FileTree where
  entries := [⟨["proc"], .dir, dirAttrs⟩, ⟨["proc", "1"], .dir, dirAttrs⟩,
    ⟨["proc", "1", "status"], .file "Name:\tinit\n".toUTF8.toList, dirAttrs⟩,
    ⟨["proc", "net"], .dir, dirAttrs⟩,
    ⟨["proc", "net", "tcp"],
      .file "h\n0: 0100007F:1F90 00000000:0000 0A x x x 0 0 41\n".toUTF8.toList, dirAttrs⟩,
    ⟨["etc"], .dir, dirAttrs⟩,
    ⟨["etc", "app.yml"], .file "interval: 5\n".toUTF8.toList, ⟨0o666, 0, 0, 0.0⟩⟩]

/-- The configuration file of `surveyedTree` and one that is not there. -/
def surveyedConfigs : Value := .list [.str "etc/app.yml", .str "etc/gone.yml"]

theorem length_filter_not_map {α : Type} (f : α → Bool) (l : List α) :
    (l.filter (!f ·)).length = ((l.map f).filter (!·)).length := by
  rw [List.filter_map, List.length_map]
  rfl

/-- A survey of the network, without the machine, of a tree with one process, one file with
an issue and one absent: it counts the machine, the absent file and the three socket tables
that are not there as unread, and the analysis counts the file with the issue. -/
theorem surveyed_tree_counts_unread :
    ∃ fp, surveyedTree.capture procConfig surveyedConfigs true none = .ok fp ∧
      fp.networkProbed = true ∧ fp.configs.map (·.isPresent) = [true, false] ∧
      fp.probeErrors = 5 ∧ ∀ th : Thresholds, (th.analyze fp).configPermissionIssues = 1 := by
  have hrun : (surveyedTree.capture procConfig surveyedConfigs true none).map (fun fp =>
      (fp.configs.map (·.isPresent), fp.configs.map (·.issues.isEmpty), fp.network.probeErrors,
        fp.processes.isEmpty)) = .ok ([true, false], [false, true], 3, false) := by
    decide +kernel
  obtain ⟨fp, hfp, hview⟩ := map_eq_ok hrun
  simp only [Prod.mk.injEq] at hview
  obtain ⟨hpresent, hissues, hnet, hprocs⟩ := hview
  obtain ⟨-, hprobed, -, herrors, -, hanalysis⟩ := capture_counts_unread _ _ _ _ _ _ hfp
  refine ⟨fp, hfp, hprobed, hpresent.symm, ?_, fun th => ?_⟩
  · rw [herrors, ← hnet, ← hprocs, length_filter_not_map, ← hpresent]
    rfl
  · rw [hanalysis, length_filter_not_map, ← hissues]
    rfl

end

end HostSurvey
