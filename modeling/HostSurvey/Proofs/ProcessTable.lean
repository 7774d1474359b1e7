import Mathlib.Data.List.ReduceOption
import Mathlib.Data.List.Nodup
import Mathlib.Data.List.Sort
import HostSurvey.Survey.Capture
import HostSurvey.Proofs.InodeIndex

/-!
The process table of a survey.
-/

namespace HostSurvey

namespace FileTree

/-- The `key: value` fields of the status file of the entry `name` of a process directory. -/
def statusFieldsOf (t : FileTree) (root name : String) : Except Fault (List (String × String)) :=
  t.fieldsOf (((PathName.ofText root).slash name).slash "status").text ":" 200

/-- Whether the status file of the entry `name` yields at least one field. -/
def hasStatusFields (t : FileTree) (root name : String) : Bool :=
  match t.statusFieldsOf root name with
  | .ok fs => !fs.isEmpty
  | .error _ => false

/-- An entry that passes the digit test but is no numeral. -/
def BadProcessName (t : FileTree) (root : String) : Prop :=
  ∃ names, t.namesOrNone root = .ok names ∧
    ∃ n ∈ names, isDigitText n ∧ ∃ f, Value.toInteger (.str n) = .error f

/-- A listed process whose age overflows: its status has a field, the uptime is not zero, and
its start time is not zero and so large that the seconds since boot it stands for lie beyond
the finite doubles. -/
def AgeOverflows (t : FileTree) (root : String) (clk : Int) : Prop :=
  ∃ up pids, t.uptime root = .ok up ∧ (Num.float up).truthy ∧ t.processIds root = .ok pids ∧
    ∃ pid ∈ pids, t.hasStatusFields root (toString pid) ∧
      ∃ line, t.firstLineOf (processPath root pid "stat") 4096 = .ok line ∧
        startTicks line ≠ 0 ∧ divideToDouble? (startTicks line) clk = none

end FileTree

theorem insertSorted_perm {α : Type} (le : α → α → Bool) (a : α) (l : List α) :
    (insertSorted le a l).Perm (a :: l) := by
  induction l with
  | nil => rfl
  | cons b bs ih =>
    unfold insertSorted
    split
    · rfl
    · exact (ih.cons b).trans (List.Perm.swap a b bs)

theorem sortBy_perm {α : Type} (le : α → α → Bool) (l : List α) : (sortBy le l).Perm l := by
  induction l with
  | nil => rfl
  | cons a l ih => exact (insertSorted_perm le a _).trans (ih.cons a)

theorem insertSorted_eq_orderedInsert {α : Type} (r : α → α → Prop) [DecidableRel r] (a : α)
    (l : List α) : insertSorted (fun a b => decide (r a b)) a l = l.orderedInsert r a := by
  induction l with
  | nil => rfl
  | cons b bs ih => by_cases h : r a b <;> simp [insertSorted, h, ih]

theorem sortBy_eq_insertionSort {α : Type} (r : α → α → Prop) [DecidableRel r] (l : List α) :
    sortBy (fun a b => decide (r a b)) l = l.insertionSort r := by
  induction l with
  | nil => rfl
  | cons a l ih => rw [sortBy, ih, insertSorted_eq_orderedInsert, List.insertionSort_cons]

theorem sortBy_le_eq_mergeSort {α : Type} [LinearOrder α] (l : List α) :
    sortBy (fun a b => decide (a ≤ b)) l = l.mergeSort (fun a b => decide (a ≤ b)) := by
  rw [sortBy_eq_insertionSort, List.mergeSort_eq_insertionSort]

/-- The integer an entry name stands for reads back as that name: ASCII digits without a
leading zero. -/
def NameRoundTrips (n : String) : Prop := ∃ pid, Value.toInteger (.str n) = .ok pid ∧ toString pid = n

theorem map_eq_of_forall₂ {α β : Type} {R : α → β → Prop} {f : β → α} {xs : List α} {ys : List β}
    (h : List.Forall₂ R xs ys) (hf : ∀ x ∈ xs, ∀ y, R x y → f y = x) : ys.map f = xs := by
  induction h with
  | nil => rfl
  | cons hr _ ih =>
    rw [List.map_cons, ih fun x hx => hf x (List.mem_cons_of_mem _ hx), hf _ List.mem_cons_self _ hr]

/-- A traversal whose step drops an element or keeps what it read of it keeps, in order, the
elements that the step keeps. -/
theorem mapM_reduceOption {α β ε : Type} {g : α → Except ε (Option β)} {key : β → α}
    {keep : α → Bool}
    (hg : ∀ x y, g x = .ok y → (y = none ↔ keep x = false) ∧ ∀ b, y = some b → key b = x)
    {xs : List α} {ys : List (Option β)} (h : xs.mapM g = .ok ys) :
    ys.reduceOption.map key = xs.filter keep := by
  induction mapM_eq_ok_iff.mp h with
  | nil => rfl
  | @cons x y xs ys hxy _ ih =>
    obtain ⟨hnone, hsome⟩ := hg x y hxy
    cases y with
    | none =>
      have hk : keep x = false := hnone.mp rfl
      simpa [List.reduceOption_cons_of_none, hk] using ih (mapM_eq_ok_iff.mpr ‹_›)
    | some b =>
      have hk : keep x = true := by
        cases hkx : keep x
        · exact absurd (hnone.mpr hkx) (by simp)
        · rfl
      simp [List.reduceOption_cons_of_some, hk, hsome b rfl, ih (mapM_eq_ok_iff.mpr ‹_›)]

theorem pairwise_lt_of_le {l : List Int} (hle : l.Pairwise (· ≤ ·)) (hnd : l.Nodup) :
    l.Pairwise (· < ·) :=
  (List.pairwise_and_iff.mpr ⟨hle, hnd⟩).imp fun h => by omega

theorem Fault.recover_eq_ok {α : Type} {r : Except Fault α} {d a : α}
    (h : Fault.recover r d = .ok a) : r = .ok a ∨ a = d := by
  unfold Fault.recover at h
  split at h
  · split at h
    · exact .inr (Except.ok.inj h).symm
    · cases h
  · exact .inl (by cases h; rfl)

namespace FileTree

variable {t : FileTree} {root : String} {clk : Int}

theorem uptimePath_nul_free (hn : Char.ofNat 0 ∉ root.toList) :
    Char.ofNat 0 ∉ ((PathName.ofText root).slash "uptime").text.toList := by
  have hs : Char.ofNat 0 ≠ '/' := by decide
  exact ((PathName.ofText_avoids hn hs).slash (by decide) hs).text hs (by decide)

theorem uptime_ok (t : FileTree) (hn : Char.ofNat 0 ∉ root.toList) : ∃ up, t.uptime root = .ok up := by
  unfold uptime
  rw [firstLineOf_of_nul_free (uptimePath_nul_free hn)]
  split <;> exact ⟨_, rfl⟩

theorem uptime_nul (hn : Char.ofNat 0 ∈ root.toList) : ∃ f, t.uptime root = .error f := by
  have hp : Char.ofNat 0 ∈ ((PathName.ofText root).slash "uptime").text.toList :=
    PathName.mem_text_slash hn (by decide) (by decide) (by decide)
  refine ⟨.embeddedNull, ?_⟩
  simp [uptime, firstLineOf, readChars_nul hp, Except.map, Fault.recover, Fault.isSystem, bind,
    Except.bind]

theorem fieldsOf_ok {path : String} (hn : Char.ofNat 0 ∉ path.toList) :
    ∃ fs, t.fieldsOf path ":" 200 = .ok fs := by
  unfold fieldsOf
  split
  next f hf => exact ⟨[], by simp [Fault.recover, readChars_error_isSystem hn hf]⟩
  next cs _ => exact ⟨_, if_neg fun h => absurd h.1 (by decide)⟩

theorem processPath_eq (root : String) (pid : Int) (entry : String) :
    processPath root pid entry = (((PathName.ofText root).slash (toString pid)).slash entry).text :=
  rfl

theorem namesOrNone_nul {path : String} (hn : Char.ofNat 0 ∈ path.toList) :
    t.namesOrNone path = .error .embeddedNull := by
  simp [namesOrNone, listNames, locate_nul hn, Fault.recover, Fault.isSystem]

theorem intDiv_of_ne_zero {a d : Int} (hd : d ≠ 0) :
    Num.intDiv a (.int d) = (divideToDouble? a d).elim (.error .quotientTooLarge) .ok := by
  unfold Num.intDiv
  split
  next h => exact absurd (Num.int.inj h) hd
  next h =>
    cases Num.int.inj h
    cases divideToDouble? a d <;> rfl
  next h => cases h

/-- The age of a process fails exactly when its start and the uptime are not zero and the
seconds since boot its start stands for lie beyond the finite doubles. -/
theorem processAge_cases (hclk : clk ≠ 0) (up : Float) (start : Int) :
    (start ≠ 0 ∧ (Num.float up).truthy ∧ divideToDouble? start clk = none ∧
      processAge (.float up) start (.int clk) = .error .quotientTooLarge) ∨
    (¬ (start ≠ 0 ∧ (Num.float up).truthy ∧ divideToDouble? start clk = none) ∧
      ∃ age, processAge (.float up) start (.int clk) = .ok age) := by
  unfold processAge
  by_cases hz : start = 0 ∨ !(Num.float up).truthy
  · refine .inr ⟨fun ⟨hs, hu, _⟩ => ?_, _, if_pos hz⟩
    rcases hz with hz | hz
    · exact hs hz
    · simp [hu] at hz
  · have hz' : start ≠ 0 ∧ (Num.float up).truthy := by
      simpa only [not_or, Bool.not_eq_true', Bool.not_eq_false] using hz
    rw [if_neg hz, intDiv_of_ne_zero hclk]
    cases hd : divideToDouble? start clk with
    | none => exact .inl ⟨hz'.1, hz'.2, rfl, rfl⟩
    | some q =>
      exact .inr ⟨fun h => by simp at h, .float (if 0.0 < up - q then up - q else 0.0), by
        simp [Num.toFloat, bind, Except.bind, pure, Except.pure]⟩

/-- What the reading of one process can do: drop a process whose status has no field, fail on
an age that overflows, or keep the process under its pid. -/
theorem analyzeProcess_cases (hclk : clk ≠ 0) (hn : Char.ofNat 0 ∉ root.toList) (pid : Int)
    (up : Float) :
    (t.hasStatusFields root (toString pid) = false ∧
        t.analyzeProcess root pid (.float up) (.int clk) = .ok none) ∨
    (t.hasStatusFields root (toString pid) = true ∧
      ∃ line, t.firstLineOf (processPath root pid "stat") 4096 = .ok line ∧
        ((startTicks line ≠ 0 ∧ (Num.float up).truthy ∧
            divideToDouble? (startTicks line) clk = none ∧
            ∃ f, t.analyzeProcess root pid (.float up) (.int clk) = .error f) ∨
        (¬ (startTicks line ≠ 0 ∧ (Num.float up).truthy ∧
            divideToDouble? (startTicks line) clk = none) ∧
          ∃ info, t.analyzeProcess root pid (.float up) (.int clk) = .ok (some info) ∧
            info.pid = pid))) := by
  have hstatus := processPath_nul_free hn pid "status" (by decide)
  have hstat := processPath_nul_free hn pid "stat" (by decide)
  have hfd := processPath_nul_free hn pid "fd" (by decide)
  obtain ⟨fs, hfs⟩ := fieldsOf_ok (t := t) hstatus
  obtain ⟨line, hline⟩ : ∃ line, t.firstLineOf (processPath root pid "stat") 4096 = .ok line := by
    rw [firstLineOf_of_nul_free hstat]
    split <;> exact ⟨_, rfl⟩
  obtain ⟨names, hnames⟩ := namesOrNone_ok (t := t) hfd
  have hhas : t.hasStatusFields root (toString pid) = !fs.isEmpty := by
    simp only [hasStatusFields, statusFieldsOf, ← processPath_eq, hfs]
  unfold analyzeProcess
  simp only [hfs, hline, hnames, bind, Except.bind]
  cases hempty : fs.isEmpty
  · -- the status has a field: the process is kept unless its age overflows
    refine .inr ⟨by rw [hhas, hempty]; rfl, line, rfl, ?_⟩
    simp only [Bool.false_eq_true, ↓reduceIte, pure, Except.pure]
    rcases processAge_cases hclk up (startTicks line) with ⟨hs, hu, hd, he⟩ | ⟨hno, age, hage⟩
    · exact .inl ⟨hs, hu, hd, _, by rw [he]⟩
    · exact .inr ⟨hno, _, by rw [hage], rfl⟩
  · exact .inl ⟨by rw [hhas, hempty]; rfl, by simp [pure, Except.pure]⟩

theorem analyzeProcess_error_iff (hclk : clk ≠ 0) (hn : Char.ofNat 0 ∉ root.toList) (pid : Int)
    (up : Float) :
    (∃ f, t.analyzeProcess root pid (.float up) (.int clk) = .error f) ↔
      t.hasStatusFields root (toString pid) = true ∧ (Num.float up).truthy ∧
        ∃ line, t.firstLineOf (processPath root pid "stat") 4096 = .ok line ∧
          startTicks line ≠ 0 ∧ divideToDouble? (startTicks line) clk = none := by
  rcases analyzeProcess_cases (t := t) hclk hn pid up with
    ⟨hs, hnone⟩ | ⟨hs, line, hline, ⟨h0, hu, hd, hfail⟩ | ⟨hok, info, hinfo, -⟩⟩
  · refine ⟨fun ⟨f, hf⟩ => ?_, fun ⟨h, _⟩ => ?_⟩
    · rw [hnone] at hf
      cases hf
    · rw [hs] at h
      cases h
  · exact ⟨fun _ => ⟨hs, hu, line, hline, h0, hd⟩, fun _ => hfail⟩
  · refine ⟨fun ⟨f, hf⟩ => ?_, ?_⟩
    · rw [hinfo] at hf
      cases hf
    · rintro ⟨-, hu, line', hline', h0, hd⟩
      rw [hline] at hline'
      cases hline'
      exact absurd ⟨h0, hu, hd⟩ hok

/-- Under a directory without NUL the uptime is read, and the table is the processes of the
pids in pid order, each read with that uptime. -/
theorem collectProcesses_of_nul_free (clk : Int) (hn : Char.ofNat 0 ∉ root.toList) :
    ∃ up, t.uptime root = .ok up ∧
      t.collectProcesses root (.int clk) = t.processIds root >>= fun pids =>
        ((pids.mergeSort (fun a b => decide (a ≤ b))).mapM
          (fun pid => t.analyzeProcess root pid (.float up) (.int clk))).map
          List.reduceOption := by
  obtain ⟨up, hup⟩ := t.uptime_ok hn
  refine ⟨up, hup, ?_⟩
  unfold collectProcesses
  simp only [hup, bind, Except.bind, sortBy_le_eq_mergeSort]
  cases t.processIds root with
  | error e => rfl
  | ok pids =>
    cases (pids.mergeSort (fun a b => decide (a ≤ b))).mapM
      (fun pid => t.analyzeProcess root pid (.float up) (.int clk)) <;> rfl

theorem collectProcesses_nul (clk : Int) (hn : Char.ofNat 0 ∈ root.toList) :
    ∃ f, t.collectProcesses root (.int clk) = .error f := by
  obtain ⟨f, hf⟩ := uptime_nul (t := t) hn
  exact ⟨f, by simp [collectProcesses, hf, bind, Except.bind]⟩

theorem badProcessName_iff {names : List String} (hl : t.namesOrNone root = .ok names) :
    t.BadProcessName root ↔ ∃ n ∈ names, isDigitText n ∧ ∃ f, Value.toInteger (.str n) = .error f :=
  ⟨fun ⟨names', hl', hbad⟩ => by rw [hl] at hl'; cases hl'; exact hbad,
    fun hbad => ⟨names, hl, hbad⟩⟩

/-- Taking the table succeeds exactly when the directory has no NUL character, no entry of
digits that is no numeral, and no listed process whose age overflows. -/
theorem collectProcesses_ok_iff (hclk : clk ≠ 0) :
    (∃ ps, t.collectProcesses root (.int clk) = .ok ps) ↔
      Char.ofNat 0 ∉ root.toList ∧ ¬ t.BadProcessName root ∧ ¬ t.AgeOverflows root clk := by
  by_cases hn : Char.ofNat 0 ∈ root.toList
  · obtain ⟨f, hf⟩ := collectProcesses_nul (t := t) clk hn
    simp [hf, hn]
  obtain ⟨up, hup, heq⟩ := collectProcesses_of_nul_free (t := t) clk hn
  obtain ⟨names, hl⟩ := namesOrNone_ok (t := t) hn
  rw [heq, badProcessName_iff hl]
  cases hp : t.processIds root with
  | error e =>
    have hbad := (processIds_error_iff hl).mp ⟨e, hp⟩
    simp [bind, Except.bind, hbad]
  | ok pids =>
    have hgood : ¬ ∃ n ∈ names, isDigitText n ∧ ∃ f, Value.toInteger (.str n) = .error f :=
      fun hbad => by
        obtain ⟨f, hf⟩ := (processIds_error_iff hl).mpr hbad
        rw [hp] at hf
        cases hf
    -- the table is read exactly when no process of the sorted pids fails
    have hrun : (∃ ps, (((pids.mergeSort (fun a b => decide (a ≤ b))).mapM
          (fun pid => t.analyzeProcess root pid (.float up) (.int clk))).map
          List.reduceOption) = .ok ps) ↔
        ¬ ∃ pid ∈ pids, ∃ f, t.analyzeProcess root pid (.float up) (.int clk) = .error f := by
      have herr := mapM_error_iff (fun pid => t.analyzeProcess root pid (.float up) (.int clk))
        (pids.mergeSort (fun a b => decide (a ≤ b)))
      simp only [List.mem_mergeSort] at herr
      rw [← herr]
      cases (pids.mergeSort (fun a b => decide (a ≤ b))).mapM
        (fun pid => t.analyzeProcess root pid (.float up) (.int clk)) <;>
        simp [Except.map]
    have hover : t.AgeOverflows root clk ↔
        ∃ pid ∈ pids, ∃ f, t.analyzeProcess root pid (.float up) (.int clk) = .error f := by
      constructor
      · rintro ⟨up', pids', hup', hu, hp', pid, hpid, hs, line, hline, h0, hd⟩
        rw [hup] at hup'
        cases hup'
        rw [hp] at hp'
        cases hp'
        exact ⟨pid, hpid, (analyzeProcess_error_iff hclk hn pid up).mpr ⟨hs, hu, line, hline, h0, hd⟩⟩
      · rintro ⟨pid, hpid, hfail⟩
        obtain ⟨hs, hu, line, hline, h0, hd⟩ := (analyzeProcess_error_iff hclk hn pid up).mp hfail
        exact ⟨up, pids, hup, hu, hp, pid, hpid, hs, line, hline, h0, hd⟩
    simp only [bind, Except.bind]
    rw [hrun, hover]
    simp [hn, hgood]

theorem collectProcesses_pids (hclk : clk ≠ 0) {ps : List ProcessInfo}
    (h : t.collectProcesses root (.int clk) = .ok ps) :
    ∃ pids, t.processIds root = .ok pids ∧
      ps.map (·.pid) =
        (pids.mergeSort (fun a b => decide (a ≤ b))).filter (t.hasStatusFields root <| toString ·) := by
  have hn : Char.ofNat 0 ∉ root.toList := fun hn => by
    obtain ⟨f, hf⟩ := collectProcesses_nul (t := t) clk hn
    rw [hf] at h
    cases h
  obtain ⟨up, -, heq⟩ := collectProcesses_of_nul_free (t := t) clk hn
  rw [heq] at h
  obtain ⟨pids, hp, hrun⟩ := bind_eq_ok.mp h
  refine ⟨pids, hp, ?_⟩
  cases hys : (pids.mergeSort (fun a b => decide (a ≤ b))).mapM
      (fun pid => t.analyzeProcess root pid (.float up) (.int clk)) with
  | error e => rw [hys] at hrun; cases hrun
  | ok ys =>
    rw [hys] at hrun
    cases hrun
    -- each step drops a process without fields and keeps the others under their pid
    refine mapM_reduceOption (fun pid y hy => ?_) hys
    rcases analyzeProcess_cases (t := t) hclk hn pid up with
      ⟨hs, hnone⟩ | ⟨hs, line, -, ⟨-, -, -, f, hfail⟩ | ⟨-, info, hinfo, hpid⟩⟩
    · rw [hnone] at hy
      cases hy
      exact ⟨⟨fun _ => hs, fun _ => rfl⟩, fun b hb => by cases hb⟩
    · rw [hfail] at hy
      cases hy
    · rw [hinfo] at hy
      cases hy
      refine ⟨⟨fun hb => ?_, fun hf => ?_⟩, fun b hb => ?_⟩
      · cases hb
      · rw [hs] at hf
        cases hf
      · cases hb
        exact hpid

theorem processIds_names {names : List String} {pids : List Int}
    (hl : t.namesOrNone root = .ok names) (hrt : ∀ n ∈ names, isDigitText n → NameRoundTrips n)
    (hp : t.processIds root = .ok pids) :
    pids.map toString = names.filter isDigitText := by
  unfold processIds at hp
  simp only [hl, bind, Except.bind] at hp
  refine map_eq_of_forall₂ (mapM_eq_ok_iff.mp hp) fun n hn pid hpid => ?_
  obtain ⟨pid', hpid', hname⟩ := hrt n (List.mem_of_mem_filter hn) (List.of_mem_filter hn)
  rw [hpid] at hpid'
  cases hpid'
  exact hname

/-- A path that names a child of `parts` is `parts` with the child's name added. -/
theorem eq_append_of_child {parts c : List String} {b : String}
    (hc : (if c.dropLast == parts ∧ c.length = parts.length + 1 then c.getLast? else none) = some b) :
    c = parts ++ [b] := by
  split at hc
  next hp =>
    obtain ⟨xs, rfl⟩ := List.getLast?_eq_some_iff.mp hc
    simp only [beq_iff_eq, List.dropLast_concat] at hp
    rw [hp.1]
  next => cases hc

/-- A directory lists no name twice, since the tree holds one entry for each path. -/
theorem listNames_nodup {path : String} {names : List String} (h : t.listNames path = .ok names) :
    names.Nodup := by
  unfold listNames at h
  split at h
  · cases h
  next parts _ =>
    split at h
    · cases h
      refine (sortBy_perm _ _).nodup_iff.mpr ?_
      have hpaths : ((t.entries.map Entry.parts).filterMap fun c =>
          if c.dropLast == parts ∧ c.length = parts.length + 1 then c.getLast? else none).Nodup :=
        t.unique.filterMap fun c c' b hc hc' => by
          simp only [Option.mem_def] at hc hc'
          rw [eq_append_of_child hc, eq_append_of_child hc']
      rw [List.filterMap_map] at hpaths
      exact hpaths
    · cases h

theorem namesOrNone_nodup {path : String} {names : List String}
    (h : t.namesOrNone path = .ok names) : names.Nodup := by
  rcases Fault.recover_eq_ok h with hl | rfl
  · exact listNames_nodup hl
  · exact List.nodup_nil

theorem mergeSort_pairwise_le (l : List Int) :
    (l.mergeSort (fun a b => decide (a ≤ b))).Pairwise (· ≤ ·) :=
  (List.pairwise_mergeSort (fun a b c hab hbc => by simp at *; omega)
    (fun a b => by simp; omega) l).imp (by simp)

end FileTree

/-- Taking the process table fails exactly on a NUL character in the process directory, on an
entry that passes the digit test but is no numeral, or on a listed process whose age overflows.
It lists, in pid order, the listed processes whose status has a field. Where every entry of
digits reads back as its pid, it lists one process for each entry of digits whose status has
a field, the text of its pid being the name of the entry, and its pids strictly increase. -/
theorem process_table_in_pid_order (t : FileTree) (root : String) (clk : Int) (hclk : clk ≠ 0) :
    ((∃ ps, t.collectProcesses root (.int clk) = .ok ps) ↔
        Char.ofNat 0 ∉ root.toList ∧ ¬ t.BadProcessName root ∧ ¬ t.AgeOverflows root clk) ∧
    ∀ ps, t.collectProcesses root (.int clk) = .ok ps →
      ∃ names pids, t.namesOrNone root = .ok names ∧ t.processIds root = .ok pids ∧
        ps.map (·.pid) =
          (pids.mergeSort (fun a b => decide (a ≤ b))).filter (t.hasStatusFields root <| toString ·) ∧
        ((∀ n ∈ names, isDigitText n → NameRoundTrips n) →
          (ps.map (toString ·.pid)).Perm
              (names.filter fun n => isDigitText n && t.hasStatusFields root n) ∧
            (ps.map (·.pid)).Pairwise (· < ·)) := by
  refine ⟨FileTree.collectProcesses_ok_iff hclk, fun ps h => ?_⟩
  obtain ⟨pids, hp, hpids⟩ := FileTree.collectProcesses_pids hclk h
  have hn : Char.ofNat 0 ∉ root.toList := ((FileTree.collectProcesses_ok_iff hclk).mp ⟨ps, h⟩).1
  obtain ⟨names, hl⟩ := FileTree.namesOrNone_ok (t := t) hn
  refine ⟨names, pids, hl, hp, hpids, fun hrt => ⟨?_, ?_⟩⟩
  · -- the sorted pids are a permutation of the pids, which name the entries of digits
    have hnames := FileTree.processIds_names hl hrt hp
    calc ps.map (toString ·.pid)
        = ((pids.mergeSort (fun a b => decide (a ≤ b))).filter
            (t.hasStatusFields root <| toString ·)).map toString := by
          rw [← hpids, List.map_map]
          rfl
      List.Perm _ ((pids.filter (t.hasStatusFields root <| toString ·)).map toString) :=
          ((List.mergeSort_perm _ _).filter _).map _
      _ = (pids.map toString).filter (t.hasStatusFields root) := by
          rw [List.filter_map]
          rfl
      _ = names.filter fun n => isDigitText n && t.hasStatusFields root n := by
          rw [hnames, List.filter_filter]
          exact List.filter_congr fun n _ => Bool.and_comm _ _
  · -- distinct entries give distinct pids, and sorting keeps them apart
    have hnd : pids.Nodup := by
      have hdigits := (FileTree.namesOrNone_nodup hl).filter isDigitText
      rw [← FileTree.processIds_names hl hrt hp] at hdigits
      exact hdigits.of_map _
    rw [hpids]
    exact (pairwise_lt_of_le (FileTree.mergeSort_pairwise_le pids)
      ((List.mergeSort_perm _ _).nodup_iff.mpr hnd)).filter _

/-- Three processes listed out of pid order, each with a name in its status, and an entry
that names no process. -/
def threeProcessTree : FileTree where
  entries := [⟨["proc"], .dir, FileTree.dirAttrs⟩,
    ⟨["proc", "1"], .dir, FileTree.dirAttrs⟩,
    ⟨["proc", "1", "status"], .file "Name:\tinit\n".toUTF8.toList, FileTree.dirAttrs⟩,
    ⟨["proc", "12"], .dir, FileTree.dirAttrs⟩,
    ⟨["proc", "12", "status"], .file "Name:\tsshd\n".toUTF8.toList, FileTree.dirAttrs⟩,
    ⟨["proc", "3"], .dir, FileTree.dirAttrs⟩,
    ⟨["proc", "3", "status"], .file "Name:\tcron\n".toUTF8.toList, FileTree.dirAttrs⟩,
    ⟨["proc", "self"], .dir, FileTree.dirAttrs⟩]

theorem three_processes_in_pid_order :
    (100 : Int) ≠ 0 ∧ ∃ ps, threeProcessTree.collectProcesses "proc" (.int 100) = .ok ps ∧
      (ps.map (toString ·.pid)).Perm ["1", "12", "3"] ∧ (ps.map (·.pid)).Pairwise (· < ·) := by
  have hclk : (100 : Int) ≠ 0 := by decide
  obtain ⟨-, hread⟩ := process_table_in_pid_order threeProcessTree "proc" 100 hclk
  have hnames : threeProcessTree.namesOrNone "proc" = .ok ["1", "12", "3", "self"] := by
    decide +kernel
  have hlisted : (["1", "12", "3", "self"].filter fun n =>
      isDigitText n && threeProcessTree.hasStatusFields "proc" n) = ["1", "12", "3"] := by
    decide +kernel
  -- every entry of digits is the decimal text of its pid
  have hrt : ∀ n ∈ ["1", "12", "3", "self"], isDigitText n → NameRoundTrips n := by
    intro n hn hd
    simp only [List.mem_cons, List.not_mem_nil, or_false] at hn
    rcases hn with rfl | rfl | rfl | rfl
    · exact ⟨1, by decide +kernel, rfl⟩
    · exact ⟨12, by decide +kernel, rfl⟩
    · exact ⟨3, by decide +kernel, rfl⟩
    · exact absurd hd (by decide +kernel)
  have htaken : (threeProcessTree.collectProcesses "proc" (.int 100)).map (·.length) = .ok 3 := by
    decide +kernel
  obtain ⟨ps, hps, -⟩ := map_eq_ok htaken
  obtain ⟨names, pids, hl, -, -, horder⟩ := hread ps hps
  rw [hnames] at hl
  cases hl
  obtain ⟨hperm, hlt⟩ := horder hrt
  exact ⟨hclk, ps, hps, hlisted ▸ hperm, hlt⟩

section

open FileTree

/-- A process directory with one entry, named by a superscript three, which passes the digit
test but is no numeral. -/
def superscriptEntryTree : FileTree where
  entries := [⟨["proc"], .dir, dirAttrs⟩, ⟨["proc", "³"], .dir, dirAttrs⟩]

theorem superscript_entry_stops_process_table :
    ∃ f, superscriptEntryTree.collectProcesses "proc" (.int 100) = .error f := by
  have hproc : superscriptEntryTree.listNames "proc" = .ok ["³"] := by decide +kernel
  have hbad : superscriptEntryTree.BadProcessName "proc" :=
    ⟨["³"], by simp [namesOrNone, hproc, Fault.recover], "³", List.mem_singleton_self _, by decide,
      .badIntegerText "³" 10, rfl⟩
  cases h : superscriptEntryTree.collectProcesses "proc" (.int 100) with
  | error f => exact ⟨f, rfl⟩
  | ok ps => exact absurd hbad ((collectProcesses_ok_iff (by decide)).mp ⟨ps, h⟩).2.1

end

end HostSurvey
