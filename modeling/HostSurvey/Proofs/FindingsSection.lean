import HostSurvey.Proofs.QuickReport

/-!
The findings at the end of the quick report.
-/

namespace HostSurvey

/-- `out` lists the findings `fs` by score, highest first, with findings of equal score in
the order of `fs`. -/
structure ListsByScore (fs out : List Finding) : Prop where
  perm : out.Perm fs
  descending : out.Pairwise fun f g => g.score ≤ f.score
  stable : ∀ s, out.filter (·.score == s) = fs.filter (·.score == s)

namespace Finding

theorem byScore_trans (f g h : Finding) :
    decide (g.score ≤ f.score) = true → decide (h.score ≤ g.score) = true →
      decide (h.score ≤ f.score) = true := by
  simp only [decide_eq_true_eq]
  omega

theorem byScore_total (f g : Finding) :
    (decide (g.score ≤ f.score) || decide (f.score ≤ g.score)) = true := by
  simp only [Bool.or_eq_true, decide_eq_true_eq]
  omega

theorem filter_score_sublist_byScore (fs : List Finding) (s : Int) :
    (fs.filter (·.score == s)).Sublist (byScore fs) := by
  have hsame : (fs.filter (·.score == s)).Pairwise fun f g => decide (g.score ≤ f.score) := by
    refine List.pairwise_of_forall_mem_list fun f hf g hg => ?_
    have hfs : f.score = s := by simpa using (List.mem_filter.1 hf).2
    have hgs : g.score = s := by simpa using (List.mem_filter.1 hg).2
    simp [hfs, hgs]
  exact List.sublist_mergeSort byScore_trans byScore_total hsame List.filter_sublist

theorem byScore_filter_score (fs : List Finding) (s : Int) :
    (byScore fs).filter (·.score == s) = fs.filter (·.score == s) := by
  have hsub : (fs.filter (·.score == s)).Sublist ((byScore fs).filter (·.score == s)) := by
    simpa [List.filter_filter] using (filter_score_sublist_byScore fs s).filter (·.score == s)
  have hlen : (fs.filter (·.score == s)).length = ((byScore fs).filter (·.score == s)).length :=
    (((List.mergeSort_perm fs _).filter _).length_eq).symm
  exact (hsub.eq_of_length hlen).symm

theorem listsByScore_byScore (fs : List Finding) : ListsByScore fs (byScore fs) where
  perm := List.mergeSort_perm fs _
  descending := by
    simpa [byScore] using List.pairwise_mergeSort byScore_trans byScore_total fs
  stable := byScore_filter_score fs

/-- A zombie and a file with issues both score 3 and keep the order they were found in. -/
example : byScore [⟨1, "fd"⟩, ⟨3, "zombie"⟩, ⟨2, "ports"⟩, ⟨3, "file"⟩] =
    [⟨3, "zombie"⟩, ⟨3, "file"⟩, ⟨2, "ports"⟩, ⟨1, "fd"⟩] := by cbv

end Finding

/-! ### The report before the findings -/

theorem heading_ne_of_head {l : String} {c : Char} (h : l.toList.head? = some c) (hc : c ≠ 'F') :
    "Findings:" ≠ l := by
  rintro rfl
  have hF : ("Findings:" : String).toList.head? = some 'F' := by decide
  rw [hF, Option.some.injEq] at h
  exact hc h.symm

theorem heading_ne_countLine (label : String) (n : Int) (flag : Bool) :
    "Findings:" ≠ countLine label n flag := by
  refine heading_ne_of_head (c := ' ') ?_ (by decide)
  rw [countLine_toList, labelPrefix_eq]
  rfl

theorem heading_not_mem_machineLines {fp : Fingerprint} {up memory : Float} {load : String}
    (hl : load.toList.head? = some 'L') : "Findings:" ∉ machineLines fp up load memory := by
  simp only [machineLines, List.mem_cons, List.not_mem_nil, or_false, not_or]
  refine ⟨by decide, by decide, ?_, ?_, heading_ne_of_head hl (by decide), ?_, ?_⟩
  · exact heading_ne_of_head (c := 'H') (head_toList_append (by decide)) (by decide)
  · exact heading_ne_of_head (c := 'U') (head_toList_append (head_toList_append (by decide)))
      (by decide)
  · exact heading_ne_of_head (c := 'M') (head_toList_append (head_toList_append (by decide)))
      (by decide)
  · exact heading_ne_of_head (c := 'P') (head_toList_append (head_toList_append (by decide)))
      (by decide)

theorem heading_not_mem_issueLines (a : Analysis) (t : Thresholds) :
    "Findings:" ∉ issueLines a t := by
  simp only [issueLines, List.mem_cons, List.not_mem_nil, or_false, not_or]
  exact ⟨by decide, by decide, heading_ne_countLine _ _ _, heading_ne_countLine _ _ _,
    heading_ne_countLine _ _ _, heading_ne_countLine _ _ _⟩

theorem ListenerEntry.line_head {e : ListenerEntry} {line : String} (h : e.line = .ok line) :
    line.toList.head? = some ' ' := by
  unfold ListenerEntry.line at h
  obtain ⟨port, -, h⟩ := bind_eq_ok.1 h
  simp only [pure, Except.pure, Except.ok.injEq] at h
  subst h
  repeat apply head_toList_append
  decide

theorem exists_of_forall₂_mem {α β : Type} {R : α → β → Prop} {xs : List α} {ys : List β}
    (h : List.Forall₂ R xs ys) {y : β} (hy : y ∈ ys) : ∃ x ∈ xs, R x y := by
  induction h with
  | nil => simp at hy
  | cons hxy _ ih =>
    rcases List.mem_cons.1 hy with rfl | hy
    · exact ⟨_, List.mem_cons_self, hxy⟩
    · obtain ⟨x, hx, hr⟩ := ih hy
      exact ⟨x, List.mem_cons_of_mem _ hx, hr⟩

theorem heading_not_mem_listenerLines {n : NetworkInfo} {k : Int} {block : List String}
    (h : listenerLines n k = .ok block) : "Findings:" ∉ block := by
  unfold listenerLines at h
  split at h
  · cases h
    simp
  obtain ⟨shown, hshown, h⟩ := bind_eq_ok.1 h
  have hs : "Findings:" ∉ shown := fun hmem => by
    obtain ⟨e, -, he⟩ := exists_of_forall₂_mem (mapM_eq_ok_iff.1 hshown) hmem
    exact heading_ne_of_head (ListenerEntry.line_head he) (by decide) rfl
  split at h
  · -- the line that counts the listeners left out starts with blanks as well
    obtain ⟨rest, -, h⟩ := bind_eq_ok.1 h
    rw [pure_bind] at h
    cases Except.ok.inj h
    have hmore : "Findings:" ≠ s!"    ... and {rest} more" :=
      heading_ne_of_head (c := ' ') (by (repeat apply head_toList_append); decide) (by decide)
    simp [hs, hmore]
  · rw [pure_bind] at h
    cases Except.ok.inj h
    simp [hs]

theorem heading_not_mem_capacityNote (n : NetworkInfo) : "Findings:" ∉ capacityNote n := by
  unfold capacityNote
  split
  · simpa using heading_ne_of_head (c := ' ') (by (repeat apply head_toList_append); decide)
      (by decide)
  · simp

theorem heading_not_mem_networkLines {n : NetworkInfo} {a : Analysis} {k : Int}
    {net : List String} (h : networkLines n a k = .ok net) : "Findings:" ∉ net := by
  obtain ⟨ls, hls, rfl⟩ := networkLines_eq_ok.1 h
  have hhead : "Findings:" ∉ networkHead n a := by
    simp only [networkHead, List.mem_cons, List.not_mem_nil, or_false, not_or]
    exact ⟨by decide, by decide, heading_ne_countLine _ _ _, heading_ne_countLine _ _ _,
      heading_ne_countLine _ _ _⟩
  simp only [List.mem_append, not_or]
  exact ⟨⟨hhead, heading_not_mem_listenerLines hls⟩, heading_not_mem_capacityNote n⟩

theorem heading_not_mem_quickLines {fp : Fingerprint} {a : Analysis} {k : Int} {t : Thresholds}
    (hf : a.findings = []) {lines : List String} (h : quickLines fp a k t = .ok lines) :
    "Findings:" ∉ lines := by
  unfold quickLines at h
  obtain ⟨up, -, h⟩ := bind_eq_ok.1 h
  obtain ⟨load, hload, h⟩ := bind_eq_ok.1 h
  obtain ⟨memory, -, h⟩ := bind_eq_ok.1 h
  have hnone : findingLines a = [] := by simp [findingLines, hf]
  have hbefore : "Findings:" ∉ machineLines fp up load memory ++ issueLines a t := by
    simp only [List.mem_append, not_or]
    exact ⟨heading_not_mem_machineLines (loadLine_head hload), heading_not_mem_issueLines a t⟩
  -- the network part is read only when the network was surveyed
  cases hp : fp.networkProbed with
  | true =>
    simp only [hp, if_true] at h
    obtain ⟨net, hnet, h⟩ := bind_eq_ok.1 h
    cases Except.ok.inj h
    simp only [hnone, List.append_nil, List.mem_append, not_or]
    exact ⟨by simpa using hbefore, heading_not_mem_networkLines hnet⟩
  | false =>
    simp only [hp, Bool.false_eq_true, if_false, pure_bind] at h
    cases Except.ok.inj h
    simpa [hnone] using hbefore

/-! ### The findings section -/

/-- The report of an analysis is the report of the analysis without its findings, followed by
the findings section. -/
theorem quickLines_eq_map_findingLines (fp : Fingerprint) (a : Analysis) (k : Int)
    (t : Thresholds) :
    quickLines fp a k t =
      (quickLines fp { a with findings := [] } k t).map (· ++ findingLines a) := by
  have hi : issueLines { a with findings := [] } t = issueLines a t := rfl
  have hn : networkLines fp.network { a with findings := [] } k = networkLines fp.network a k := rfl
  have hf : findingLines { a with findings := [] } = [] := rfl
  unfold quickLines
  rw [hi, hn, hf]
  show _ = (· ++ findingLines a) <$> _
  -- the network part is read only when the network was surveyed
  cases fp.networkProbed with
  | true => simp only [if_true, map_bind, map_pure, List.append_nil]
  | false => simp only [Bool.false_eq_true, if_false, map_bind, map_pure, pure_bind, List.append_nil]

theorem findingLines_eq (a : Analysis) :
    findingLines a = if a.findings = [] then [] else
      "" :: "Findings:" :: (Finding.byScore a.findings).map fun f => s!"  [{f.score}] {f.reason}" := by
  unfold findingLines
  split <;> simp_all

/-- The findings section of the quick report. Whatever the survey and the limits, the report
is that of the analysis without its findings, followed, when there are findings, by an empty
line, the heading and one line `  [score] reason` for each finding: every finding exactly once,
scores never increasing, and findings of equal score in the order the analysis found them.
The heading stands in the report exactly when there are findings. -/
theorem quick_report_findings_by_score (fp : Fingerprint) (a : Analysis) (k : Int)
    (t : Thresholds) :
    ∃ out, ListsByScore a.findings out ∧
      quickLines fp a k t = (quickLines fp { a with findings := [] } k t).map (fun body =>
        body ++ if a.findings = [] then [] else
          "" :: "Findings:" :: out.map fun f => s!"  [{f.score}] {f.reason}") ∧
      ∀ lines, quickLines fp a k t = .ok lines → ("Findings:" ∈ lines ↔ a.findings ≠ []) := by
  refine ⟨Finding.byScore a.findings, Finding.listsByScore_byScore a.findings, ?_, ?_⟩
  · rw [quickLines_eq_map_findingLines, findingLines_eq]
  · intro lines h
    rw [quickLines_eq_map_findingLines] at h
    obtain ⟨body, hbody, rfl⟩ : ∃ body, quickLines fp { a with findings := [] } k t = .ok body ∧
        body ++ findingLines a = lines := by
      cases hq : quickLines fp { a with findings := [] } k t with
      | error e => simp [hq, Except.map] at h
      | ok body => exact ⟨body, rfl, by simpa [hq, Except.map] using h⟩
    have hnot := heading_not_mem_quickLines (a := { a with findings := [] }) rfl hbody
    rw [findingLines_eq]
    by_cases hf : a.findings = []
    · simp [hf, hnot]
    · simp [hf]

end HostSurvey
