import HostSurvey.Proofs.Severity
import HostSurvey.Proofs.UnreadParts

/-!
What an analysis finds.
-/

namespace HostSurvey

/-- Ports with their protocols in strictly increasing order: by port, then by the code points of
the protocol. -/
def PortLt (a b : Int × String) : Prop :=
  a.1 < b.1 ∨ (a.1 = b.1 ∧ codePointsLe a.2 b.2 = true ∧
    a.2.toList.map codePoint ≠ b.2.toList.map codePoint)

/-- The port and protocol of every kept listener flagged unusual, in the order kept. -/
def unusualPairs (n : NetworkInfo) : List (Int × String) :=
  (n.listeners.filter (·.unusual)).map fun l => (l.localPort, l.protocol)

/-- Whether a character is the stand-in of a surrogate. -/
def IsStandIn (c : Char) : Prop := 0x10D800 ≤ c.toNat ∧ c.toNat ≤ 0x10DFFF

theorem codePoint_of_standIn {c : Char} (h : IsStandIn c) : codePoint c = c.toNat - 0x100000 := by
  have hoff : standInOffset = 0x100000 := rfl
  unfold codePoint standInCode?
  rw [if_pos (by rw [Bool.and_eq_true, decide_eq_true_eq, decide_eq_true_eq]; exact h),
    Option.getD_some, hoff]

theorem codePoint_of_not_standIn {c : Char} (h : ¬ IsStandIn c) : codePoint c = c.toNat := by
  unfold codePoint standInCode?
  rw [if_neg (by rw [Bool.and_eq_true, decide_eq_true_eq, decide_eq_true_eq]; exact h),
    Option.getD_none]

/-- A stand-in lies above every character, and the surrogate it counts as lies below none, so
no two characters count as one code point. -/
theorem codePoint_injective : Function.Injective codePoint := by
  intro c d h
  have hc : c.toNat < 0xD800 ∨ (0xDFFF < c.toNat ∧ c.toNat < 0x110000) := c.valid
  have hd : d.toNat < 0xD800 ∨ (0xDFFF < d.toNat ∧ d.toNat < 0x110000) := d.valid
  apply Char.toNat_inj.mp
  by_cases h1 : IsStandIn c <;> by_cases h2 : IsStandIn d
  · rw [codePoint_of_standIn h1, codePoint_of_standIn h2] at h
    unfold IsStandIn at h1 h2
    omega
  · rw [codePoint_of_standIn h1, codePoint_of_not_standIn h2] at h
    unfold IsStandIn at h1
    omega
  · rw [codePoint_of_not_standIn h1, codePoint_of_standIn h2] at h
    unfold IsStandIn at h2
    omega
  · rw [codePoint_of_not_standIn h1, codePoint_of_not_standIn h2] at h
    exact h

theorem map_codePoint_inj {a b : String} (h : a.toList.map codePoint = b.toList.map codePoint) :
    a = b :=
  String.toList_inj.mp (List.map_injective_iff.mpr codePoint_injective h)

theorem codesLe_trans : ∀ {xs ys zs : List Nat}, codesLe xs ys = true → codesLe ys zs = true →
    codesLe xs zs = true
  | [], _, _, _, _ => rfl
  | _ :: _, [], _, h, _ => by simp [codesLe] at h
  | _ :: _, _ :: _, [], _, h => by simp [codesLe] at h
  | x :: xs, y :: ys, z :: zs, h1, h2 => by
    simp only [codesLe, Bool.or_eq_true, Bool.and_eq_true, decide_eq_true_eq] at h1 h2 ⊢
    rcases h1 with h1 | ⟨rfl, h1⟩ <;> rcases h2 with h2 | ⟨rfl, h2⟩
    · exact .inl (Nat.lt_trans h1 h2)
    · exact .inl h1
    · exact .inl h2
    · exact .inr ⟨rfl, codesLe_trans h1 h2⟩

theorem codesLe_total : ∀ xs ys : List Nat, (codesLe xs ys || codesLe ys xs) = true
  | [], _ => by simp [codesLe]
  | _ :: _, [] => by simp [codesLe]
  | x :: xs, y :: ys => by
    simp only [codesLe, Bool.or_eq_true, Bool.and_eq_true, decide_eq_true_eq]
    rcases Nat.lt_trichotomy x y with h | rfl | h
    · exact .inl (.inl h)
    · simpa using codesLe_total xs ys
    · exact .inr (.inl h)

namespace Thresholds

theorem portBefore_iff {a b : Int × String} :
    portBefore a b = true ↔ a.1 < b.1 ∨ (a.1 = b.1 ∧ codePointsLe a.2 b.2 = true) := by
  simp [portBefore]

theorem portBefore_trans (a b c : Int × String) (hab : portBefore a b = true)
    (hbc : portBefore b c = true) : portBefore a c = true := by
  rw [portBefore_iff] at hab hbc ⊢
  rcases hab with hab | ⟨hab, hab'⟩ <;> rcases hbc with hbc | ⟨hbc, hbc'⟩
  · exact .inl (Int.lt_trans hab hbc)
  · exact .inl (by omega)
  · exact .inl (by omega)
  · exact .inr ⟨hab.trans hbc, codesLe_trans hab' hbc'⟩

theorem portBefore_total (a b : Int × String) : (portBefore a b || portBefore b a) = true := by
  rw [Bool.or_eq_true, portBefore_iff, portBefore_iff]
  rcases Int.lt_trichotomy a.1 b.1 with h | h | h
  · exact .inl (.inl h)
  · have hl := codesLe_total (a.2.toList.map codePoint) (b.2.toList.map codePoint)
    rw [Bool.or_eq_true] at hl
    rcases hl with hl | hl
    · exact .inl (.inr ⟨h, hl⟩)
    · exact .inr (.inr ⟨h.symm, hl⟩)
  · exact .inr (.inl h)

theorem portLt_of_portBefore {a b : Int × String} (h : portBefore a b = true) (hne : a ≠ b) :
    PortLt a b := by
  rcases portBefore_iff.mp h with h | ⟨h, hle⟩
  · exact .inl h
  · -- with one port the protocols differ, so their code points do
    have hproto : a.2 ≠ b.2 := fun hp => hne (Prod.ext h hp)
    exact .inr ⟨h, hle, fun hc => hproto (map_codePoint_inj hc)⟩

end Thresholds

theorem pairwise_eraseDups {α : Type} [BEq α] [LawfulBEq α] {r : α → α → Prop} :
    ∀ {l : List α}, l.Pairwise r → l.eraseDups.Pairwise (fun a b => r a b ∧ a ≠ b)
  | [], _ => by simp
  | a :: as, h => by
    rw [List.eraseDups_cons]
    have hrest : (as.filter fun b => !b == a).Pairwise r :=
      (List.pairwise_cons.mp h).2.sublist List.filter_sublist
    refine List.Pairwise.cons (fun x hx => ?_) (pairwise_eraseDups hrest)
    -- what follows the head is a later element that differs from it
    rw [List.mem_eraseDups, List.mem_filter] at hx
    have hne : x ≠ a := by simpa using hx.2
    exact ⟨(List.pairwise_cons.mp h).1 x hx.1, Ne.symm hne⟩
termination_by l => l.length
decreasing_by exact Nat.lt_succ_of_le (List.length_filter_le _ _)

namespace Thresholds

theorem unusualPorts_sorted (n : NetworkInfo) : (unusualPorts n).Pairwise PortLt := by
  have hsorted := List.pairwise_mergeSort portBefore_trans portBefore_total (unusualPairs n)
  exact (pairwise_eraseDups hsorted).imp fun h => portLt_of_portBefore h.1 h.2

theorem mem_unusualPorts (n : NetworkInfo) (x : Int × String) :
    x ∈ unusualPorts n ↔ x ∈ unusualPairs n := by
  simp only [unusualPorts, List.mem_eraseDups, List.mem_mergeSort]
  rfl

variable (t : Thresholds)

/-- The findings of one process: a zombie finding, then a descriptor finding, as they apply. -/
def processFindings (p : ProcessInfo) : List Finding :=
  (if p.state = "Z" then [zombieFinding p] else []) ++
    if t.highFd < p.fdCount then [descriptorFinding p] else []

theorem checkProcess_findings (longRunning : Float) (a : Analysis) (p : ProcessInfo) :
    (t.checkProcess longRunning a p).findings = a.findings ++ t.processFindings p := by
  unfold checkProcess processFindings
  split <;> split <;> split <;> simp_all

theorem checkProcess_longRunningProcessCount (longRunning : Float) (a : Analysis)
    (p : ProcessInfo) :
    (t.checkProcess longRunning a p).longRunningProcessCount =
      a.longRunningProcessCount + if p.ageSeconds.gtDouble longRunning then 1 else 0 := by
  unfold checkProcess
  split <;> split <;> split <;> simp_all

theorem foldl_checkProcess_findings (longRunning : Float) (ps : List ProcessInfo) (a : Analysis) :
    (ps.foldl (t.checkProcess longRunning) a).findings = a.findings ++ ps.flatMap t.processFindings := by
  induction ps generalizing a with
  | nil => simp
  | cons p ps ih => simp [ih, checkProcess_findings]

theorem foldl_checkConfig_findings (cs : List ConfigFileInfo) (a : Analysis) :
    (cs.foldl checkConfig a).findings =
      a.findings ++ (cs.filter (!·.issues.isEmpty)).map configFinding := by
  induction cs generalizing a with
  | nil => simp
  | cons c cs ih =>
    rw [List.foldl_cons, ih]
    unfold checkConfig
    by_cases hc : c.issues.isEmpty
    · simp [hc]
    · simp [hc]

theorem checkNetwork_findings (a : Analysis) (n : NetworkInfo) :
    (checkNetwork a n).findings = a.findings ++
      if n.unusualPortCount = 0 then [] else [unusualPortsFinding n.unusualPortCount (unusualPorts n)] := by
  unfold checkNetwork
  split <;> simp_all

theorem checkNetwork_longRunningProcessCount (a : Analysis) (n : NetworkInfo) :
    (checkNetwork a n).longRunningProcessCount = a.longRunningProcessCount := by
  unfold checkNetwork
  split <;> rfl

theorem analyze_findings (fp : Fingerprint) :
    (t.analyze fp).findings = fp.processes.flatMap t.processFindings ++
      (fp.configs.filter (!·.issues.isEmpty)).map configFinding ++
      if fp.network.unusualPortCount = 0 then []
      else [unusualPortsFinding fp.network.unusualPortCount (unusualPorts fp.network)] := by
  simp [analyze, checkNetwork_findings, foldl_checkConfig_findings, foldl_checkProcess_findings]

theorem analyze_longRunningProcessCount (fp : Fingerprint) :
    (t.analyze fp).longRunningProcessCount =
      (fp.processes.countP (·.ageSeconds.gtDouble (t.longRunningDays * 86400.0)) : Int) := by
  have hp := foldl_count Analysis.longRunningProcessCount
    (fun p : ProcessInfo => p.ageSeconds.gtDouble (t.longRunningDays * 86400.0) = true)
    (t.checkProcess_longRunningProcessCount (t.longRunningDays * 86400.0)) fp.processes {}
  have hc := foldl_keep Analysis.longRunningProcessCount (fun a c => (checkConfig_counts a c).2.2.2)
    fp.configs
  simp [analyze, checkNetwork_longRunningProcessCount, hc, hp]

theorem length_flatMap_processFindings (ps : List ProcessInfo) :
    (ps.flatMap t.processFindings).length =
      ps.countP (·.state = "Z") + ps.countP (t.highFd < ·.fdCount) := by
  induction ps with
  | nil => simp
  | cons p ps ih =>
    rw [List.flatMap_cons, List.length_append, ih, List.countP_cons, List.countP_cons]
    unfold processFindings
    by_cases hz : p.state = "Z" <;> by_cases hf : t.highFd < p.fdCount <;> simp [hz, hf] <;> omega

/-- One finding per zombie, per process with many descriptors and per file with issues, and one
more when any listener is unusual. -/
theorem length_analyze_findings (fp : Fingerprint) :
    ((t.analyze fp).findings.length : Int) = (t.analyze fp).zombieProcessCount +
      (t.analyze fp).highFdProcessCount + (t.analyze fp).configPermissionIssues +
      if (t.analyze fp).unusualListeners = 0 then 0 else 1 := by
  have hlen := t.length_flatMap_processFindings fp.processes
  rw [analyze_findings, analyze_zombieProcessCount, analyze_highFdProcessCount,
    analyze_configPermissionIssues, analyze_unusualListeners]
  by_cases hu : fp.network.unusualPortCount = 0
  · simp [hu, hlen]
  · simp [hu, hlen]
    omega

end Thresholds

/-- The counts of an analysis count what they name: zombies, processes holding more descriptors
than the limit, processes older than the limit in days, configuration files with issues and
unusual listeners (kept or not). The findings are, in order, each process's zombie and
descriptor findings, one finding per file with issues, and one network finding exactly when
there is an unusual listener, naming the distinct ports of the kept unusual listeners with
their protocols in increasing order of port and then protocol; so there are as many findings
as zombies, processes with many descriptors, files with issues, and one more when any listener
is unusual. -/
theorem analysis_findings (t : Thresholds) (fp : Fingerprint) :
    (t.analyze fp).zombieProcessCount = (fp.processes.countP (·.state = "Z") : Int) ∧
    (t.analyze fp).highFdProcessCount = (fp.processes.countP (t.highFd < ·.fdCount) : Int) ∧
    (t.analyze fp).longRunningProcessCount =
      (fp.processes.countP (·.ageSeconds.gtDouble (t.longRunningDays * 86400.0)) : Int) ∧
    (t.analyze fp).configPermissionIssues = (fp.configs.filter (!·.issues.isEmpty)).length ∧
    (t.analyze fp).unusualListeners = fp.network.unusualPortCount ∧
    (t.analyze fp).findings =
      fp.processes.flatMap (fun p => (if p.state = "Z" then [zombieFinding p] else []) ++
        if t.highFd < p.fdCount then [descriptorFinding p] else []) ++
      (fp.configs.filter (!·.issues.isEmpty)).map configFinding ++
      (if fp.network.unusualPortCount = 0 then []
        else [unusualPortsFinding fp.network.unusualPortCount
          (Thresholds.unusualPorts fp.network)]) ∧
    (Thresholds.unusualPorts fp.network).Pairwise PortLt ∧
    (∀ x, x ∈ Thresholds.unusualPorts fp.network ↔ x ∈ unusualPairs fp.network) ∧
    ((t.analyze fp).findings.length : Int) = (t.analyze fp).zombieProcessCount +
      (t.analyze fp).highFdProcessCount + (t.analyze fp).configPermissionIssues +
      if (t.analyze fp).unusualListeners = 0 then 0 else 1 :=
  ⟨t.analyze_zombieProcessCount fp, t.analyze_highFdProcessCount fp,
    t.analyze_longRunningProcessCount fp, t.analyze_configPermissionIssues fp,
    t.analyze_unusualListeners fp, t.analyze_findings fp, Thresholds.unusualPorts_sorted _,
    Thresholds.mem_unusualPorts _, t.length_analyze_findings fp⟩

end HostSurvey
