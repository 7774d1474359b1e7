import HostSurvey.Proofs.Severity

/-!
The quick report read line by line.
-/

namespace HostSurvey

/-- Whether a line of a report carries the warning sign. -/
def CarriesWarning (line : String) : Prop := '⚠' ∈ line.toList

/-- The start of the line that shows the count labelled `label`. -/
def labelPrefix (label : String) : List Char := ("  " ++ label ++ ": ").toList

/-- The first line of a report that shows the count labelled `label`. -/
def labelledLine (lines : List String) (label : String) : Option String :=
  lines.find? fun l => (labelPrefix label).isPrefixOf l.toList

/-- The count labelled `label` is shown with the warning sign. -/
def WarnsAt (lines : List String) (label : String) : Prop :=
  ∃ l, labelledLine lines label = some l ∧ CarriesWarning l

theorem labelPrefix_eq (label : String) :
    labelPrefix label = ' ' :: ' ' :: (label.toList ++ [':', ' ']) := by
  have blanks : ("  " : String).toList = [' ', ' '] := by decide
  have colon : (": " : String).toList = [':', ' '] := by decide
  simp only [labelPrefix, String.toList_append, blanks, colon]
  rfl

theorem countLine_toList (label : String) (n : Int) (flag : Bool) :
    (countLine label n flag).toList =
      labelPrefix label ++ (toString n).toList ++ (markIf flag).toList := by
  simp [countLine, labelPrefix, String.toList_append]

/-- A count's line carries the warning sign exactly when its flag is set, whatever the
count, as long as the label has no sign of its own. -/
theorem countLine_carriesWarning {label : String} (hl : '⚠' ∉ label.toList) (n : Int)
    (flag : Bool) : CarriesWarning (countLine label n flag) ↔ flag = true := by
  have hpre : '⚠' ∉ labelPrefix label := by
    rw [labelPrefix_eq]
    simp only [List.mem_cons, List.mem_append, not_or]
    exact ⟨by decide, by decide, hl, by decide, by decide⟩
  have hn : '⚠' ∉ (toString n).toList := not_mem_toString_int (by decide) (by decide) n
  cases flag with
  | false =>
    have hm : '⚠' ∉ (markIf false).toList := by decide
    simp only [CarriesWarning, countLine_toList, List.mem_append, hpre, hn, hm, or_self,
      Bool.false_eq_true]
  | true =>
    have hm : '⚠' ∈ (markIf true).toList := by decide
    simp [CarriesWarning, countLine_toList, hm]

theorem labelPrefix_countLine (label : String) (n : Int) (flag : Bool) :
    (labelPrefix label).isPrefixOf (countLine label n flag).toList = true := by
  rw [List.isPrefixOf_iff_prefix, countLine_toList, List.append_assoc]
  exact List.prefix_append _ _

theorem labelPrefix_of_head {label line : String} (h : line.toList.head? ≠ some ' ') :
    (labelPrefix label).isPrefixOf line.toList = false := by
  rw [labelPrefix_eq]
  cases hl : line.toList with
  | nil => rfl
  | cons c cs =>
    have hc : c ≠ ' ' := by simpa [hl] using h
    simp [List.isPrefixOf, hc.symm]

theorem labelPrefix_of_third {label line : String} {c d : Char} {rest : List Char}
    (hline : line.toList = ' ' :: ' ' :: c :: rest) (hlabel : label.toList.head? = some d)
    (hcd : c ≠ d) : (labelPrefix label).isPrefixOf line.toList = false := by
  rw [labelPrefix_eq, hline]
  cases hl : label.toList with
  | nil => simp [hl] at hlabel
  | cons e es =>
    have hde : e = d := by simpa [hl] using hlabel
    subst hde
    simp [List.isPrefixOf, hcd.symm]

theorem countLine_third (label : String) (n : Int) (flag : Bool) {d : Char}
    (hlabel : label.toList.head? = some d) :
    ∃ rest, (countLine label n flag).toList = ' ' :: ' ' :: d :: rest := by
  cases hl : label.toList with
  | nil => simp [hl] at hlabel
  | cons e es =>
    have hde : e = d := by simpa [hl] using hlabel
    subst hde
    exact ⟨_, by rw [countLine_toList, labelPrefix_eq, hl]; rfl⟩

/-- The count line of one label does not show the count of a label with another first
character. -/
theorem labelPrefix_countLine_other {label other : String} {c d : Char}
    (hl : label.toList.head? = some c) (ho : other.toList.head? = some d) (hcd : c ≠ d)
    (n : Int) (flag : Bool) :
    (labelPrefix other).isPrefixOf (countLine label n flag).toList = false := by
  obtain ⟨rest, hrest⟩ := countLine_third label n flag hl
  exact labelPrefix_of_third hrest ho hcd

theorem labelledLine_of_first {pre rest : List String} {label line : String}
    (hpre : ∀ l ∈ pre, (labelPrefix label).isPrefixOf l.toList = false)
    (hl : (labelPrefix label).isPrefixOf line.toList = true) :
    labelledLine (pre ++ line :: rest) label = some line := by
  have hnone : pre.find? (fun l => (labelPrefix label).isPrefixOf l.toList) = none :=
    List.find?_eq_none.2 fun l hmem => by simp [hpre l hmem]
  simp [labelledLine, List.find?_append, hnone, hl]

theorem head_toList_append {s u : String} {c : Char} (h : s.toList.head? = some c) :
    (s ++ u).toList.head? = some c := by
  simp [String.toList_append, List.head?_append, h]

theorem loadLine_head {loads : List Num} {line : String} (h : loadLine loads = .ok line) :
    line.toList.head? = some 'L' := by
  unfold loadLine at h
  obtain ⟨x, -, h⟩ := bind_eq_ok.1 h
  obtain ⟨y, -, h⟩ := bind_eq_ok.1 h
  obtain ⟨z, -, h⟩ := bind_eq_ok.1 h
  simp only [pure, Except.pure, Except.ok.injEq] at h
  subst h
  repeat apply head_toList_append
  decide

theorem head_ne_blank {l : String} {c : Char} (h : l.toList.head? = some c) (hc : c ≠ ' ') :
    l.toList.head? ≠ some ' ' := by
  rw [h]
  simpa using hc

theorem machineLines_heads {fp : Fingerprint} {up memory : Float} {load : String}
    (hl : load.toList.head? = some 'L') :
    ∀ l ∈ machineLines fp up load memory, l.toList.head? ≠ some ' ' := by
  intro l hmem
  simp only [machineLines, List.mem_cons, List.not_mem_nil, or_false] at hmem
  rcases hmem with rfl | rfl | rfl | rfl | rfl | rfl | rfl
  · decide
  · decide
  · exact head_ne_blank (c := 'H') (head_toList_append (by decide)) (by decide)
  · exact head_ne_blank (c := 'U') (head_toList_append (head_toList_append (by decide))) (by decide)
  · exact head_ne_blank hl (by decide)
  · exact head_ne_blank (c := 'M') (head_toList_append (head_toList_append (by decide))) (by decide)
  · exact head_ne_blank (c := 'P') (head_toList_append (head_toList_append (by decide))) (by decide)

/-- The lines of a quick report: seven lines about the machine, none of which starts with a
blank, the counts of potential issues, the network part when the network was surveyed, and
the findings. -/
theorem quickLines_eq_ok {fp : Fingerprint} {a : Analysis} {k : Int} {t : Thresholds}
    {lines : List String} (h : quickLines fp a k t = .ok lines) :
    ∃ machine net, machine.length = 7 ∧ (∀ l ∈ machine, l.toList.head? ≠ some ' ') ∧
      lines = machine ++ issueLines a t ++ net ++ findingLines a ∧
      (fp.networkProbed = true → networkLines fp.network a k = .ok net) ∧
      (fp.networkProbed = false → net = []) := by
  unfold quickLines at h
  obtain ⟨up, -, h⟩ := bind_eq_ok.1 h
  obtain ⟨load, hload, h⟩ := bind_eq_ok.1 h
  obtain ⟨memory, -, h⟩ := bind_eq_ok.1 h
  have heads : ∀ l ∈ machineLines fp up load memory, l.toList.head? ≠ some ' ' :=
    machineLines_heads (loadLine_head hload)
  -- the network part is read only when the network was surveyed
  cases hp : fp.networkProbed with
  | true =>
    simp only [hp, if_true] at h
    obtain ⟨net, hnet, h⟩ := bind_eq_ok.1 h
    simp only [pure, Except.pure, Except.ok.injEq] at h
    exact ⟨_, net, rfl, heads, h.symm, fun _ => hnet, fun h => absurd h (by decide)⟩
  | false =>
    simp only [hp, Bool.false_eq_true, if_false, pure, Except.pure] at h
    exact ⟨_, [], rfl, heads, (Except.ok.inj h).symm, fun h => absurd h (by decide), fun _ => rfl⟩

theorem networkLines_eq_ok {n : NetworkInfo} {a : Analysis} {k : Int} {net : List String} :
    networkLines n a k = .ok net ↔
      ∃ ls, listenerLines n k = .ok ls ∧ net = networkHead n a ++ ls ++ capacityNote n := by
  unfold networkLines
  rw [bind_eq_ok]
  simp [pure, Except.pure, eq_comm]

/-! ### The counts of the report and their signs -/

theorem labelledLine_none {lines : List String} {label : String}
    (h : ∀ l ∈ lines, (labelPrefix label).isPrefixOf l.toList = false) :
    labelledLine lines label = none :=
  List.find?_eq_none.2 fun l hl => by simp [h l hl]

theorem warnsAt_iff_of_labelled {lines : List String} {label line : String}
    (h : labelledLine lines label = some line) : WarnsAt lines label ↔ CarriesWarning line := by
  simp [WarnsAt, h]

theorem before_issues_unlabelled {machine : List String}
    (hm : ∀ l ∈ machine, l.toList.head? ≠ some ' ') (label : String) :
    ∀ l ∈ machine ++ ["", "Potential Issues:"], (labelPrefix label).isPrefixOf l.toList = false := by
  intro l hl
  rcases List.mem_append.1 hl with hl | hl
  · exact labelPrefix_of_head (hm l hl)
  · simp only [List.mem_cons, List.not_mem_nil, or_false] at hl
    rcases hl with rfl | rfl <;> exact labelPrefix_of_head (by decide)

theorem longRunningLabel_head (t : Thresholds) :
    (s!"Long-running (>{Float.generalText 6 t.longRunningDays}d)").toList.head? = some 'L' :=
  head_toList_append (head_toList_append (by decide))

/-- The zombie, descriptor and permission counts are found by their labels among the counts
of potential issues. -/
theorem labelledLine_issues {machine : List String} (hm : ∀ l ∈ machine, l.toList.head? ≠ some ' ')
    (a : Analysis) (t : Thresholds) (rest : List String) :
    labelledLine (machine ++ issueLines a t ++ rest) "Zombie processes" =
        some (countLine "Zombie processes" a.zombieProcessCount (a.zombieProcessCount > 0)) ∧
      labelledLine (machine ++ issueLines a t ++ rest) "High FD processes" =
        some (countLine "High FD processes" a.highFdProcessCount
          (a.highFdProcessCount > t.highFdProcesses)) ∧
      labelledLine (machine ++ issueLines a t ++ rest) "Config permission issues" =
        some (countLine "Config permission issues" a.configPermissionIssues
          (a.configPermissionIssues > 0)) := by
  have hZ : "Zombie processes".toList.head? = some 'Z' := by decide
  have hH : "High FD processes".toList.head? = some 'H' := by decide
  have hC : "Config permission issues".toList.head? = some 'C' := by decide
  have hL := longRunningLabel_head t
  -- each count is the first line, after those before it among the counts, to show its label
  refine ⟨?_, ?_, ?_⟩
  · rw [show machine ++ issueLines a t ++ rest = machine ++ (issueLines a t).take 2 ++
        countLine "Zombie processes" a.zombieProcessCount (a.zombieProcessCount > 0) ::
          ((issueLines a t).drop 3 ++ rest) by simp [issueLines]]
    exact labelledLine_of_first (before_issues_unlabelled hm _) (labelPrefix_countLine _ _ _)
  · rw [show machine ++ issueLines a t ++ rest = machine ++ (issueLines a t).take 3 ++
        countLine "High FD processes" a.highFdProcessCount (a.highFdProcessCount > t.highFdProcesses) ::
          ((issueLines a t).drop 4 ++ rest) by simp [issueLines]]
    refine labelledLine_of_first (fun l hl => ?_) (labelPrefix_countLine _ _ _)
    have hl' : l ∈ machine ++ ["", "Potential Issues:"] ∨
        l = countLine "Zombie processes" a.zombieProcessCount (a.zombieProcessCount > 0) := by
      simpa [issueLines, or_assoc] using hl
    rcases hl' with hl | rfl
    · exact before_issues_unlabelled hm _ l hl
    · exact labelPrefix_countLine_other hZ hH (by decide) _ _
  · rw [show machine ++ issueLines a t ++ rest = machine ++ (issueLines a t).take 5 ++
        countLine "Config permission issues" a.configPermissionIssues
          (a.configPermissionIssues > 0) :: rest by simp [issueLines]]
    refine labelledLine_of_first (fun l hl => ?_) (labelPrefix_countLine _ _ _)
    have hl' : l ∈ machine ++ ["", "Potential Issues:"] ∨
        l = countLine "Zombie processes" a.zombieProcessCount (a.zombieProcessCount > 0) ∨
        l = countLine "High FD processes" a.highFdProcessCount
          (a.highFdProcessCount > t.highFdProcesses) ∨
        l = countLine s!"Long-running (>{Float.generalText 6 t.longRunningDays}d)"
          a.longRunningProcessCount false := by
      simpa [issueLines, or_assoc] using hl
    rcases hl' with hl | rfl | rfl | rfl
    · exact before_issues_unlabelled hm _ l hl
    · exact labelPrefix_countLine_other hZ hC (by decide) _ _
    · exact labelPrefix_countLine_other hH hC (by decide) _ _
    · exact labelPrefix_countLine_other hL hC (by decide) _ _

theorem issues_not_unusual {machine : List String} (hm : ∀ l ∈ machine, l.toList.head? ≠ some ' ')
    (a : Analysis) (t : Thresholds) :
    ∀ l ∈ machine ++ issueLines a t, (labelPrefix "Unusual ports").isPrefixOf l.toList = false := by
  have hU : "Unusual ports".toList.head? = some 'U' := by decide
  have hZ : "Zombie processes".toList.head? = some 'Z' := by decide
  have hH : "High FD processes".toList.head? = some 'H' := by decide
  have hC : "Config permission issues".toList.head? = some 'C' := by decide
  have hL := longRunningLabel_head t
  intro l hl
  have hl' : l ∈ machine ++ ["", "Potential Issues:"] ∨ l ∈ (issueLines a t).drop 2 := by
    simpa only [issueLines, List.mem_append, List.mem_cons, List.drop_succ_cons, List.drop_zero,
      List.not_mem_nil, or_false, or_assoc] using hl
  rcases hl' with hl | hl
  · exact before_issues_unlabelled hm _ l hl
  · simp only [issueLines, List.drop_succ_cons, List.drop_zero, List.mem_cons, List.not_mem_nil,
      or_false] at hl
    rcases hl with rfl | rfl | rfl | rfl
    · exact labelPrefix_countLine_other hZ hU (by decide) _ _
    · exact labelPrefix_countLine_other hH hU (by decide) _ _
    · exact labelPrefix_countLine_other hL hU (by decide) _ _
    · exact labelPrefix_countLine_other hC hU (by decide) _ _

theorem labelledLine_unusual {machine : List String}
    (hm : ∀ l ∈ machine, l.toList.head? ≠ some ' ') (a : Analysis) (t : Thresholds)
    (n : NetworkInfo) (rest : List String) :
    labelledLine (machine ++ issueLines a t ++ networkHead n a ++ rest) "Unusual ports" =
      some (countLine "Unusual ports" a.unusualListeners (a.unusualListeners > 0)) := by
  have hU : "Unusual ports".toList.head? = some 'U' := by decide
  have hLi : "Listening ports".toList.head? = some 'L' := by decide
  have hE : "Established connections".toList.head? = some 'E' := by decide
  have hpre : ∀ l ∈ machine ++ issueLines a t ++ ["", "Network:",
      countLine "Listening ports" n.totalListening false,
      countLine "Established connections" n.totalEstablished false],
      (labelPrefix "Unusual ports").isPrefixOf l.toList = false := by
    intro l hl
    rcases List.mem_append.1 hl with hl | hl
    · exact issues_not_unusual hm a t l hl
    · simp only [List.mem_cons, List.not_mem_nil, or_false] at hl
      rcases hl with rfl | rfl | rfl | rfl
      · exact labelPrefix_of_head (by decide)
      · exact labelPrefix_of_head (by decide)
      · exact labelPrefix_countLine_other hLi hU (by decide) _ _
      · exact labelPrefix_countLine_other hE hU (by decide) _ _
  rw [show machine ++ issueLines a t ++ networkHead n a ++ rest = machine ++ issueLines a t ++
      ["", "Network:", countLine "Listening ports" n.totalListening false,
        countLine "Established connections" n.totalEstablished false] ++
      countLine "Unusual ports" a.unusualListeners (a.unusualListeners > 0) :: rest by
    simp [networkHead]]
  exact labelledLine_of_first hpre (labelPrefix_countLine _ _ _)

theorem findingLine_third (f : Finding) :
    ∃ rest, (s!"  [{f.score}] {f.reason}").toList = ' ' :: ' ' :: '[' :: rest := by
  have hopen : (toString "  [").toList = [' ', ' ', '['] := by decide
  exact ⟨_, by simp only [String.toList_append, hopen, List.append_assoc]; rfl⟩

theorem findingLines_unlabelled {label : String} {d : Char} (hd : label.toList.head? = some d)
    (hne : d ≠ '[') (a : Analysis) :
    ∀ l ∈ findingLines a, (labelPrefix label).isPrefixOf l.toList = false := by
  intro l hl
  unfold findingLines at hl
  split at hl
  · simp at hl
  · simp only [List.cons_append, List.nil_append, List.mem_cons, List.mem_map] at hl
    rcases hl with rfl | rfl | ⟨f, -, rfl⟩
    · exact labelPrefix_of_head (by decide)
    · exact labelPrefix_of_head (by decide)
    · obtain ⟨rest, hrest⟩ := findingLine_third f
      exact labelPrefix_of_third hrest hd hne.symm

/-- What the warning signs of a report say about an analysis: the zombie, descriptor and
permission counts are shown and carry the sign exactly when their counts call for it, and the
count of unusual listeners is shown with the sign exactly when there is one. -/
structure ReportMarks (lines : List String) (t : Thresholds) (a : Analysis) : Prop where
  zombies : ∃ l, labelledLine lines "Zombie processes" = some l ∧
    (CarriesWarning l ↔ 0 < a.zombieProcessCount)
  highFd : ∃ l, labelledLine lines "High FD processes" = some l ∧
    (CarriesWarning l ↔ t.highFdProcesses < a.highFdProcessCount)
  configIssues : ∃ l, labelledLine lines "Config permission issues" = some l ∧
    (CarriesWarning l ↔ 0 < a.configPermissionIssues)
  unusual : WarnsAt lines "Unusual ports" ↔ 0 < a.unusualListeners

/-- Some count of a report is shown with the warning sign. -/
def ShowsWarning (lines : List String) : Prop :=
  WarnsAt lines "Zombie processes" ∨ WarnsAt lines "High FD processes" ∨
    WarnsAt lines "Config permission issues" ∨ WarnsAt lines "Unusual ports"

/-- Every quick report carries its signs as the counts call for them, as long as unusual
listeners are only counted when the network was surveyed. -/
theorem reportMarks_of_quickLines {fp : Fingerprint} {a : Analysis} {k : Int} {t : Thresholds}
    (hnet : fp.networkProbed = true ∨ a.unusualListeners = 0) {lines : List String}
    (h : quickLines fp a k t = .ok lines) : ReportMarks lines t a := by
  obtain ⟨machine, net, -, hm, rfl, hprobed, hquiet⟩ := quickLines_eq_ok h
  rw [List.append_assoc (machine ++ issueLines a t)]
  obtain ⟨hz, hh, hc⟩ := labelledLine_issues hm a t (net ++ findingLines a)
  refine ⟨⟨_, hz, ?_⟩, ⟨_, hh, ?_⟩, ⟨_, hc, ?_⟩, ?_⟩
  · rw [countLine_carriesWarning (by decide)]
    simp
  · rw [countLine_carriesWarning (by decide)]
    simp
  · rw [countLine_carriesWarning (by decide)]
    simp
  · cases hp : fp.networkProbed with
    | true =>
      obtain ⟨ls, -, rfl⟩ := networkLines_eq_ok.1 (hprobed hp)
      have hu := labelledLine_unusual hm a t fp.network
        (ls ++ capacityNote fp.network ++ findingLines a)
      rw [warnsAt_iff_of_labelled (by simpa only [List.append_assoc] using hu)]
      rw [countLine_carriesWarning (by decide)]
      simp
    | false =>
      have hzero : a.unusualListeners = 0 := by simpa [hp] using hnet
      have hnone : labelledLine (machine ++ issueLines a t ++ findingLines a) "Unusual ports" =
          none := by
        apply labelledLine_none
        intro l hl
        rcases List.mem_append.1 hl with hl | hl
        · exact issues_not_unusual hm a t l hl
        · exact findingLines_unlabelled (d := 'U') (by decide) (by decide) a l hl
      rw [hquiet hp, List.nil_append]
      simp only [List.append_assoc] at hnone
      simp [WarnsAt, hnone, hzero]

theorem ReportMarks.showsWarning_iff {lines : List String} {t : Thresholds} {a : Analysis}
    (hm : ReportMarks lines t a) :
    ShowsWarning lines ↔ 0 < a.zombieProcessCount ∨ t.highFdProcesses < a.highFdProcessCount ∨
      0 < a.configPermissionIssues ∨ 0 < a.unusualListeners := by
  obtain ⟨⟨z, hz, hzi⟩, ⟨d, hd, hdi⟩, ⟨c, hc, hci⟩, hu⟩ := hm
  rw [ShowsWarning, warnsAt_iff_of_labelled hz, warnsAt_iff_of_labelled hd,
    warnsAt_iff_of_labelled hc, hzi, hdi, hci, hu]

theorem verdict_pos_iff (t : Thresholds) (a : Analysis) :
    1 ≤ t.verdict a ↔ 0 < a.zombieProcessCount ∨ 0 < a.configPermissionIssues ∨
      t.unusualPortsCritical < a.unusualListeners ∨ t.highFdProcesses < a.highFdProcessCount ∨
      0 < a.unusualListeners := by
  unfold Thresholds.verdict exitOk exitWarnings exitCritical
  split_ifs <;> omega

/-- The quick report and the verdict agree: the zombie, descriptor and permission lines carry
the warning sign exactly when their counts call for it, the unusual-ports line exactly when
there is an unusual listener, and, under a critical limit that is not negative, some line
carries the sign exactly when the verdict is a warning or worse. -/
theorem quick_report_marks_match_verdict (fp : Fingerprint) (t : Thresholds) (k : Int)
    (hnet : fp.networkProbed = true ∨ fp.network.unusualPortCount = 0) {lines : List String}
    (h : quickLines fp (t.analyze fp) k t = .ok lines) :
    ReportMarks lines t (t.analyze fp) ∧
      (0 ≤ t.unusualPortsCritical → (ShowsWarning lines ↔ 1 ≤ (t.analyze fp).exitCode)) := by
  have hnet' : fp.networkProbed = true ∨ (t.analyze fp).unusualListeners = 0 := by
    rwa [Thresholds.analyze_unusualListeners]
  have marks := reportMarks_of_quickLines hnet' h
  refine ⟨marks, fun hcrit => ?_⟩
  rw [marks.showsWarning_iff, Thresholds.analyze_exitCode, verdict_pos_iff]
  omega

theorem zombie_report_warns :
    let fp : Fingerprint := { processes := [{ pid := 7, state := "Z" }] }
    let t : Thresholds := {}
    (fp.networkProbed = true ∨ fp.network.unusualPortCount = 0) ∧
      ∃ lines, quickLines fp (t.analyze fp) 10 t = .ok lines ∧
        ReportMarks lines t (t.analyze fp) ∧
          (0 ≤ t.unusualPortsCritical → (ShowsWarning lines ↔ 1 ≤ (t.analyze fp).exitCode)) := by
  intro fp t
  have hnet : fp.networkProbed = true ∨ fp.network.unusualPortCount = 0 := .inr rfl
  obtain ⟨lines, h⟩ : ∃ lines, quickLines fp (t.analyze fp) 10 t = .ok lines := ⟨_, rfl⟩
  exact ⟨hnet, lines, h, quick_report_marks_match_verdict fp t 10 hnet h⟩

/-- Under a negative critical limit an empty survey is judged critical, while its report
carries no warning sign. -/
theorem negative_critical_limit_hides_verdict :
    let t : Thresholds := { unusualPortsCritical := -1 }
    (t.analyze {}).exitCode = 2 ∧
      ∃ lines, quickLines {} (t.analyze {}) 10 t = .ok lines ∧ ¬ ShowsWarning lines := by
  intro t
  obtain ⟨lines, h⟩ : ∃ lines, quickLines {} (t.analyze {}) 10 t = .ok lines := ⟨_, rfl⟩
  have marks := reportMarks_of_quickLines (.inr (by decide)) h
  refine ⟨by decide, lines, h, ?_⟩
  rw [marks.showsWarning_iff]
  decide

/-! ### The listener section -/

theorem sliceTo_of_nonneg {α : Type} (xs : List α) {k : Int} (hk : 0 ≤ k) :
    sliceTo xs k = xs.take k.toNat := by
  simp [sliceTo, hk]

theorem integerText_eq_ok {n : Int} {text : String} (h : integerText n = .ok text) :
    text = toString n := by
  unfold integerText at h
  split at h
  · cases h
  · exact (Except.ok.inj h).symm

/-- A listener section of a report: its heading, the lines of the first listeners kept, in the
order they were kept, and, when some are left out, a line counting them; the listeners shown
and those counted make up all that were kept. -/
def ListenerSection (kept : List ListenerEntry) (block : List String) : Prop :=
  ∃ shown more, block = ["", "  Listeners:"] ++ shown ++ more ∧
    List.Forall₂ (fun e l => e.line = .ok l) (kept.take shown.length) shown ∧
    ((more = [] ∧ shown.length = kept.length) ∨
      ∃ rest : Int, more = [s!"    ... and {rest} more"] ∧ 0 < rest ∧
        shown.length + rest = kept.length)

theorem listenerLines_section {n : NetworkInfo} {k : Int} (hk : 0 ≤ k) (hne : n.listeners ≠ [])
    {block : List String} (h : listenerLines n k = .ok block) :
    ListenerSection n.listeners block := by
  unfold listenerLines at h
  simp only [List.isEmpty_eq_false_iff.2 hne, Bool.false_eq_true, if_false] at h
  obtain ⟨shown, hshown, h⟩ := bind_eq_ok.1 h
  rw [sliceTo_of_nonneg _ hk] at hshown
  have hlines := mapM_eq_ok_iff.1 hshown
  have hlen : shown.length = min k.toNat n.listeners.length := by
    rw [← hlines.length_eq, List.length_take]
  have htake : n.listeners.take shown.length = n.listeners.take k.toNat := by
    rw [← hlines.length_eq]
    simp [List.length_take]
  split at h
  · -- more listeners were kept than the limit shows: the rest are counted
    obtain ⟨text, htext, h⟩ := bind_eq_ok.1 h
    rw [integerText_eq_ok htext, pure_bind] at h
    refine ⟨shown, _, (Except.ok.inj h).symm, htake ▸ hlines,
      .inr ⟨n.listeners.length - k, rfl, by omega, by omega⟩⟩
  · rw [pure_bind] at h
    exact ⟨shown, [], (Except.ok.inj h).symm, htake ▸ hlines, .inl ⟨rfl, by omega⟩⟩

theorem quickLines_of_networkLines {fp : Fingerprint} {a : Analysis} {k : Int} {t : Thresholds}
    {up memory : Float} {load : String} {net : List String}
    (hu : fp.system.uptimeSeconds.toFloat = .ok up) (hl : loadLine fp.system.loadAvg = .ok load)
    (hm : fp.system.memoryUsedPct = .ok memory) (hp : fp.networkProbed = true)
    (hn : networkLines fp.network a k = .ok net) :
    quickLines fp a k t =
      .ok (machineLines fp up load memory ++ issueLines a t ++ net ++ findingLines a) := by
  simp only [quickLines, hu, hl, hm, hp, hn, if_true, bind, Except.bind, pure, Except.pure]

/-- The network part of a surveyed quick report, under a listener limit that is not negative:
after the machine lines, the counts of issues and the network counts comes a listener section
of the kept listeners (nothing when none were kept), then the storage note, exactly when some
listener or connection was left out and with the kept and total counts of both, and last the
findings. -/
theorem quick_report_listener_section (fp : Fingerprint) (a : Analysis) (t : Thresholds)
    {k : Int} (hk : 0 ≤ k) (hprobed : fp.networkProbed = true) {lines : List String}
    (h : quickLines fp a k t = .ok lines) :
    ∃ machine block, machine.length = 7 ∧
      lines = machine ++ issueLines a t ++ networkHead fp.network a ++ block ++
        (if fp.network.listenersTruncated || fp.network.connectionsTruncated then
          [s!"  {Palette.ansi.gray}(storage capacity reached: listeners {fp.network.listeners.length}/{fp.network.totalListening}, " ++
            s!"connections {fp.network.connections.length}/{fp.network.totalEstablished}){Palette.ansi.reset}"]
        else []) ++ findingLines a ∧
      (fp.network.listeners = [] → block = []) ∧
      (fp.network.listeners ≠ [] → ListenerSection fp.network.listeners block) := by
  obtain ⟨machine, net, hlen, -, rfl, hnet, -⟩ := quickLines_eq_ok h
  obtain ⟨block, hblock, rfl⟩ := networkLines_eq_ok.1 (hnet hprobed)
  refine ⟨machine, block, hlen, by simp only [capacityNote, List.append_assoc], ?_,
    fun hne => listenerLines_section hk hne hblock⟩
  intro hnil
  unfold listenerLines at hblock
  simp only [hnil, List.isEmpty_nil, if_true] at hblock
  exact (Except.ok.inj hblock).symm

/-- The secure shell listening on every address, as the kernel owns it. -/
def shellListener : ListenerEntry :=
  { protocol := "tcp", localAddr := "0.0.0.0", localPort := 22, state := "LISTEN",
    service := "ssh" }

theorem shellListener_line :
    shellListener.line = .ok "    0.0.0.0:22 (tcp/ssh) - \x1b[36m[kernel]\x1b[0m" := by
  decide +kernel

/-- Two kept listeners under a limit of one: one is shown and the other counted. -/
theorem two_listeners_one_shown :
    let fp : Fingerprint :=
      { networkProbed := true,
        network := { listeners := [shellListener, shellListener], totalListening := 2 } }
    let a := Thresholds.analyze {} fp
    (0 : Int) ≤ 1 ∧ fp.networkProbed = true ∧ ∃ lines, quickLines fp a 1 {} = .ok lines ∧
      ∃ machine block, machine.length = 7 ∧
        lines = machine ++ issueLines a {} ++ networkHead fp.network a ++ block ++
          (if fp.network.listenersTruncated || fp.network.connectionsTruncated then
            [s!"  {Palette.ansi.gray}(storage capacity reached: listeners {fp.network.listeners.length}/{fp.network.totalListening}, " ++
              s!"connections {fp.network.connections.length}/{fp.network.totalEstablished}){Palette.ansi.reset}"]
          else []) ++ findingLines a ∧
        (fp.network.listeners = [] → block = []) ∧
        (fp.network.listeners ≠ [] → ListenerSection fp.network.listeners block) := by
  intro fp a
  have hblock : listenerLines fp.network 1 =
      .ok ["", "  Listeners:", "    0.0.0.0:22 (tcp/ssh) - \x1b[36m[kernel]\x1b[0m",
        "    ... and 1 more"] := by
    decide +kernel
  obtain ⟨up, hu⟩ : ∃ up, fp.system.uptimeSeconds.toFloat = .ok up := ⟨_, rfl⟩
  obtain ⟨load, hl⟩ : ∃ load, loadLine fp.system.loadAvg = .ok load := ⟨_, rfl⟩
  obtain ⟨memory, hm⟩ : ∃ memory, fp.system.memoryUsedPct = .ok memory := ⟨_, rfl⟩
  have h : quickLines fp a 1 {} = _ := quickLines_of_networkLines hu hl hm rfl
    (networkLines_eq_ok.2 ⟨_, hblock, rfl⟩)
  exact ⟨by decide, rfl, _, h, quick_report_listener_section fp a {} (by decide) rfl h⟩

/-- Under a negative limit a single kept listener is not shown, and the line that counts the
rest counts two. -/
theorem negative_listener_limit_overcounts :
    let fp : Fingerprint :=
      { networkProbed := true, network := { listeners := [shellListener], totalListening := 1 } }
    let a := Thresholds.analyze {} fp
    ∃ lines machine, quickLines fp a (-1) {} = .ok lines ∧ machine.length = 7 ∧
      lines = machine ++ issueLines a {} ++ networkHead fp.network a ++
        ["", "  Listeners:", "    ... and 2 more"] ++ findingLines a ∧
      ¬ ListenerSection fp.network.listeners ["", "  Listeners:", "    ... and 2 more"] := by
  intro fp a
  have hblock : listenerLines fp.network (-1) = .ok ["", "  Listeners:", "    ... and 2 more"] := by
    decide +kernel
  obtain ⟨up, hu⟩ : ∃ up, fp.system.uptimeSeconds.toFloat = .ok up := ⟨_, rfl⟩
  obtain ⟨load, hl⟩ : ∃ load, loadLine fp.system.loadAvg = .ok load := ⟨_, rfl⟩
  obtain ⟨memory, hm⟩ : ∃ memory, fp.system.memoryUsedPct = .ok memory := ⟨_, rfl⟩
  have h : quickLines fp a (-1) {} = _ := quickLines_of_networkLines hu hl hm rfl
    (networkLines_eq_ok.2 ⟨_, hblock, rfl⟩)
  refine ⟨_, machineLines fp up load memory, h, rfl, by simp [capacityNote, fp], ?_⟩
  rintro ⟨shown, more, hsplit, hshown, hcount⟩
  have hrest : shown ++ more = ["    ... and 2 more"] := by simpa using hsplit.symm
  rcases shown with _ | ⟨line, shown⟩
  · -- nothing shown: the count line would have to count the one listener
    rw [List.nil_append] at hrest
    subst hrest
    rcases hcount with ⟨hnil, -⟩ | ⟨rest, hmore, -, hsum⟩
    · cases hnil
    · have hone : rest = 1 := by simpa [fp] using hsum
      subst hone
      exact absurd hmore (by decide)
  · -- a line shown: it is the listener's own line, not a count
    have hline : line = "    ... and 2 more" := by simp at hrest; exact hrest.1
    have hfirst : shellListener.line = .ok line := by
      simpa [fp] using (List.forall₂_cons.1 hshown).1
    rw [shellListener_line, hline] at hfirst
    simp at hfirst

end HostSurvey
