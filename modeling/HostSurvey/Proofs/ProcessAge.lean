import HostSurvey.Proofs.DoubleRange
import HostSurvey.Proofs.LineGrammar
import HostSurvey.Proofs.ProcessTable
import HostSurvey.Proofs.TableLines

/-!
The age of a process.
-/

namespace HostSurvey

/-- The larger of zero and a double, as a maximum that keeps zero unless the double is
greater: zero for a NaN and for a negative zero. -/
def maxZero (x : Float) : Float := if 0.0 < x then x else 0.0

theorem maxZero_nonneg (x : Float) : 0.0 ≤ maxZero x := by
  unfold maxZero
  split
  · next h => exact float_le_of_lt h
  · decide

theorem isNaN_maxZero (x : Float) : (maxZero x).isNaN = false := by
  unfold maxZero
  split
  · next h => exact isNaN_eq_false_of_lt h
  · decide

section Age

variable {up : Float} {start d : Int}

theorem intDiv_int (a : Int) (hd : d ≠ 0) :
    Num.intDiv a (.int d) = match divideToDouble? a d with
      | some x => .ok x
      | none => .error .quotientTooLarge := by
  unfold Num.intDiv
  split
  · next h => cases h; exact absurd rfl hd
  · next h => cases h; rfl
  · next h => cases h

theorem processAge_idle (c : Num) (h : start = 0 ∨ (up != 0.0) = false) :
    processAge (.float up) start c = .ok (.float 0.0) := by
  have hz : start = 0 ∨ !(Num.float up).truthy := by simpa [Num.truthy] using h
  unfold processAge
  rw [if_pos hz]
  rfl

theorem processAge_of_divide (hd : d ≠ 0) (hs : start ≠ 0) (hu : (up != 0.0) = true) {q : Float}
    (hq : divideToDouble? start d = some q) :
    processAge (.float up) start (.int d) = .ok (.float (maxZero (up - q))) := by
  have hz : ¬ (start = 0 ∨ !(Num.float up).truthy) := by simpa [Num.truthy] using ⟨hs, hu⟩
  unfold processAge
  rw [if_neg hz]
  simp [intDiv_int start hd, hq, Num.toFloat, maxZero, bind, Except.bind, pure, Except.pure]

theorem processAge_of_overflow (hd : d ≠ 0) (hs : start ≠ 0) (hu : (up != 0.0) = true)
    (hq : divideToDouble? start d = none) :
    processAge (.float up) start (.int d) = .error .quotientTooLarge := by
  have hz : ¬ (start = 0 ∨ !(Num.float up).truthy) := by simpa [Num.truthy] using ⟨hs, hu⟩
  unfold processAge
  rw [if_neg hz]
  simp [intDiv_int start hd, hq, bind, Except.bind]

end Age

namespace FileTree

variable {t : FileTree} {root : String}

/-- Reading one process under a root without NUL: no process when its status has no field,
otherwise the outcome of its age, the start time read from the first line of its `stat` file. -/
theorem analyzeProcess_outcome (hn : Char.ofNat 0 ∉ root.toList) (pid : Int) (up c : Num) :
    ∃ line, t.firstLineOf (processPath root pid "stat") 4096 = .ok line ∧
      (t.hasStatusFields root (toString pid) = false → t.analyzeProcess root pid up c = .ok none) ∧
      (t.hasStatusFields root (toString pid) = true →
        (∀ f, processAge up (startTicks line) c = .error f →
          t.analyzeProcess root pid up c = .error f) ∧
        (∀ age, processAge up (startTicks line) c = .ok age →
          ∃ info, t.analyzeProcess root pid up c = .ok (some info) ∧ info.pid = pid ∧
            info.ageSeconds = age)) := by
  have hstatus := processPath_nul_free hn pid "status" (by decide)
  have hstat := processPath_nul_free hn pid "stat" (by decide)
  have hfd := processPath_nul_free hn pid "fd" (by decide)
  obtain ⟨fs, hfs⟩ := fieldsOf_ok (t := t) hstatus
  obtain ⟨line, hline⟩ : ∃ line, t.firstLineOf (processPath root pid "stat") 4096 = .ok line := by
    rw [firstLineOf_of_nul_free hstat]
    split <;> exact ⟨_, rfl⟩
  obtain ⟨names, hnames⟩ := namesOrNone_ok (t := t) hfd
  have hhas : t.hasStatusFields root (toString pid) = !fs.isEmpty := by
    simp only [hasStatusFields, statusFieldsOf, ← processPath_eq, hfs]
  refine ⟨line, hline, fun hno => ?_, fun hyes => ?_⟩
  · have hempty : fs.isEmpty = true := by rw [hhas] at hno; simpa using hno
    simp [analyzeProcess, hfs, hempty, bind, Except.bind, pure, Except.pure]
  · -- a status with fields: the age decides the outcome
    have hempty : fs.isEmpty = false := by rw [hhas] at hyes; simpa using hyes
    refine ⟨fun f hf => ?_, fun age hage => ?_⟩
    · simp [analyzeProcess, hfs, hempty, hline, hf, bind, Except.bind]
    · simp only [analyzeProcess, hfs, hempty, hline, hage, hnames, bind, Except.bind, pure,
        Except.pure, Bool.false_eq_true, ↓reduceIte]
      exact ⟨_, rfl, rfl, rfl⟩

end FileTree

section StartTime

/-! How the start time is read off a `stat` line, for the lines where its field is plain. -/

theorem blankWordChars_eq (cs : List Char) : blankWordChars cs =
    match cs.dropWhile isBlank with
    | [] => []
    | c :: rest =>
      (c :: rest.takeWhile (fun x => !isBlank x)) ::
        blankWordChars (rest.dropWhile (fun x => !isBlank x)) := by
  rw [blankWordChars]
  split <;> next heq => rw [heq]

theorem blankWordChars_blank_cons {c : Char} (hc : isBlank c = true) (cs : List Char) :
    blankWordChars (c :: cs) = blankWordChars cs := by
  rw [blankWordChars_eq, blankWordChars_eq cs, List.dropWhile_cons, if_pos hc]

theorem blankWordChars_word_cons {c : Char} (hc : isBlank c = false) {rest : List Char}
    (hr : ∀ d ∈ rest.head?, isBlank d = true) :
    blankWordChars (c :: rest) = [c] :: blankWordChars rest := by
  have htake : rest.takeWhile (fun x => !isBlank x) = [] := by
    cases rest with
    | nil => rfl
    | cons d ds => simp [hr d rfl]
  have hdrop : rest.dropWhile (fun x => !isBlank x) = rest := by
    cases rest with
    | nil => rfl
    | cons d ds => simp [hr d rfl]
  rw [blankWordChars_eq, List.dropWhile_cons, if_neg (by simp [hc])]
  simp only [htake, hdrop]

theorem blankWordChars_of_word {w : List Char} (hne : w ≠ []) (hw : ∀ x ∈ w, isBlank x = false) :
    blankWordChars w = [w] := by
  obtain ⟨c, rest, rfl⟩ := List.exists_cons_of_ne_nil hne
  have hc : isBlank c = false := hw c List.mem_cons_self
  have htake : rest.takeWhile (fun x => !isBlank x) = rest :=
    List.takeWhile_eq_self_iff.mpr fun x hx => by simp [hw x (List.mem_cons_of_mem _ hx)]
  have hdrop : rest.dropWhile (fun x => !isBlank x) = [] :=
    List.dropWhile_eq_nil_iff.mpr fun x hx => by simp [hw x (List.mem_cons_of_mem _ hx)]
  rw [blankWordChars_eq, List.dropWhile_cons, if_neg (by simp [hc])]
  simp only [htake, hdrop, blankWordChars_nil]

theorem blankWordChars_zero_fields (k : Nat) {w : List Char} (hne : w ≠ [])
    (hw : ∀ x ∈ w, isBlank x = false) :
    blankWordChars ((List.replicate k [' ', '0']).flatten ++ ' ' :: w) =
      List.replicate k ['0'] ++ [w] := by
  induction k with
  | zero => simp [blankWordChars_blank_cons isBlank_space, blankWordChars_of_word hne hw]
  | succ k ih =>
    have hhead : ((List.replicate k [' ', '0']).flatten ++ ' ' :: w).head? = some ' ' := by
      cases k <;> simp [List.replicate_succ]
    simp only [List.replicate_succ, List.flatten_cons, List.cons_append, List.nil_append]
    rw [blankWordChars_blank_cons isBlank_space,
      blankWordChars_word_cons (by decide) (by simp [hhead, isBlank_space]), ih]

theorem splitLast_cons_self {sep : Char} {rest : List Char} (h : sep ∉ rest) :
    splitLast sep (sep :: rest) = some ([], rest) := by
  have hall : ∀ x ∈ rest.reverse, (x != sep) = true := fun x hx => by
    have : x ≠ sep := fun e => h (e ▸ List.mem_reverse.mp hx)
    simpa using this
  have hspan : (sep :: rest).reverse.span (· != sep) = (rest.reverse, [sep]) := by
    rw [List.span_eq_takeWhile_dropWhile, List.reverse_cons, List.takeWhile_append_of_pos hall,
      List.dropWhile_append_of_pos hall]
    simp
  unfold splitLast
  rw [hspan]
  simp

theorem startTicks_zero_fields (n : Nat) (hn : (Nat.toDigits 10 n).length ≤ maxNumeralDigits) :
    startTicks (String.ofList
      (')' :: ((List.replicate 19 [' ', '0']).flatten ++ ' ' :: Nat.toDigits 10 n))) = n := by
  have hparen : ')' ∉ (List.replicate 19 [' ', '0']).flatten ++ ' ' :: Nat.toDigits 10 n := by
    have hdigit : ')' ∉ Nat.toDigits 10 n := fun h =>
      absurd ((decimal_run_toDigits n).2 _ h) (by decide)
    simp [hdigit]
  have hblank : ∀ x ∈ Nat.toDigits 10 n, isBlank x = false := fun x hx =>
    not_blank_of_decimal ((decimal_run_toDigits n).2 x hx)
  have hread : integerOrZero (String.ofList (Nat.toDigits 10 n)) = n := by
    simp [integerOrZero, readInteger_decimal_run (decimal_run_toDigits n), not_lt.mpr hn,
      digitsValue_decimal_toDigits, Except.toOption]
  unfold startTicks
  simp only [String.toList_ofList]
  rw [splitLast_cons_self hparen]
  simp only [blankWords, String.toList_ofList,
    blankWordChars_zero_fields 19 Nat.toDigits_ne_nil hblank, List.map_append, List.map_replicate,
    List.map_cons, List.map_nil]
  rw [List.getElem?_append_right (by simp)]
  simp [hread]

theorem decodeUtf8Lenient_ascii_chars :
    ∀ cs : List Char, (∀ c ∈ cs, c.toNat < 0x80) →
      decodeUtf8Lenient (cs.map fun c => c.toNat.toUInt8) = cs
  | [], _ => decodeUtf8Lenient_nil
  | c :: cs, h => by
    have hc : c.toNat < 0x80 := h c List.mem_cons_self
    have hb : (c.toNat.toUInt8).toNat = c.toNat := by
      simp only [Nat.toUInt8_eq, UInt8.toNat_ofNat']
      omega
    rw [List.map_cons, decodeUtf8Lenient_ascii _ _ (by omega), hb, Char.ofNat_toNat,
      decodeUtf8Lenient_ascii_chars cs fun x hx => h x (List.mem_cons_of_mem _ hx)]

end StartTime

/-- What reading process `pid` under `root` does, with the uptime `up` and `d` clock ticks per
second, when `line` is the first line of its `stat` file: no process without a status field; a
failure exactly when the start time and the uptime are not zero and the quotient of the start by
the clock ticks reaches the overflow threshold; otherwise the process, whose age is a number and
at least zero, the larger of zero and the uptime less that quotient when both are not zero, and
zero when either is. -/
structure AgeReading (t : FileTree) (root : String) (pid : Int) (up : Float) (d : Int)
    (line : String) : Prop where
  noStatus : t.hasStatusFields root (toString pid) = false →
    t.analyzeProcess root pid (.float up) (.int d) = .ok none
  overflow : t.hasStatusFields root (toString pid) = true → startTicks line ≠ 0 →
    (up != 0.0) = true → overflowThreshold ≤ |((startTicks line : Int) : ℚ) / d| →
    t.analyzeProcess root pid (.float up) (.int d) = .error .quotientTooLarge
  process : t.hasStatusFields root (toString pid) = true →
    ¬ (startTicks line ≠ 0 ∧ (up != 0.0) = true ∧
      overflowThreshold ≤ |((startTicks line : Int) : ℚ) / d|) →
    ∃ info age, t.analyzeProcess root pid (.float up) (.int d) = .ok (some info) ∧
      info.pid = pid ∧ info.ageSeconds = .float age ∧ age.isNaN = false ∧ 0.0 ≤ age ∧
      (startTicks line ≠ 0 → (up != 0.0) = true →
        ∃ q, divideToDouble? (startTicks line) d = some q ∧ age = maxZero (up - q)) ∧
      (startTicks line = 0 ∨ (up != 0.0) = false → age = 0.0)

/-- Reading a process under a root without NUL, with any uptime and any clock ticks per second
but zero, is as `AgeReading` says for the first line of its `stat` file. -/
theorem process_age_reading (t : FileTree) {root : String} (hn : Char.ofNat 0 ∉ root.toList)
    (pid : Int) (up : Float) {d : Int} (hd : d ≠ 0) :
    ∃ line, t.firstLineOf (FileTree.processPath root pid "stat") 4096 = .ok line ∧
      AgeReading t root pid up d line := by
  obtain ⟨line, hline, hnone, hstatus⟩ :=
    FileTree.analyzeProcess_outcome (t := t) hn pid (.float up) (.int d)
  refine ⟨line, hline, ⟨hnone, fun hyes hs hu hover => ?_, fun hyes hno => ?_⟩⟩
  · have hq : divideToDouble? (startTicks line) d = none :=
      (divideToDouble?_eq_none_iff _ hd).mpr hover
    exact (hstatus hyes).1 _ (processAge_of_overflow hd hs hu hq)
  · by_cases hact : startTicks line ≠ 0 ∧ (up != 0.0) = true
    · -- the quotient has a double, and the age is taken from it
      obtain ⟨q, hq⟩ : ∃ q, divideToDouble? (startTicks line) d = some q :=
        Option.ne_none_iff_exists'.mp fun h =>
          hno ⟨hact.1, hact.2, (divideToDouble?_eq_none_iff _ hd).mp h⟩
      obtain ⟨info, hinfo, hpid, hage⟩ :=
        (hstatus hyes).2 _ (processAge_of_divide hd hact.1 hact.2 hq)
      refine ⟨info, _, hinfo, hpid, hage, isNaN_maxZero _, maxZero_nonneg _,
        fun _ _ => ⟨q, hq, rfl⟩, fun hidle => ?_⟩
      rcases hidle with h0 | hf
      · exact absurd h0 hact.1
      · simp [hact.2] at hf
    · have hidle : startTicks line = 0 ∨ (up != 0.0) = false := by
        by_cases h0 : startTicks line = 0
        · exact .inl h0
        · exact .inr (by simpa [h0] using hact)
      obtain ⟨info, hinfo, hpid, hage⟩ := (hstatus hyes).2 _ (processAge_idle _ hidle)
      exact ⟨info, 0.0, hinfo, hpid, hage, by decide, by decide,
        fun hs hu => absurd ⟨hs, hu⟩ hact, fun _ => rfl⟩

/-- Process 5, named in its status and started 250 clock ticks after boot. -/
def startedProcessTree : FileTree where
  entries := [⟨["proc"], .dir, FileTree.dirAttrs⟩, ⟨["proc", "5"], .dir, FileTree.dirAttrs⟩,
    ⟨["proc", "5", "status"], .file "Name:\tw\n".toUTF8.toList, FileTree.dirAttrs⟩,
    ⟨["proc", "5", "stat"],
      .file "5 (w) S 1 5 5 0 -1 0 0 0 0 0 0 0 0 0 20 0 1 0 250 4096\n".toUTF8.toList,
      FileTree.dirAttrs⟩]

theorem started_process_age : Char.ofNat 0 ∉ "proc".toList ∧ (100 : Int) ≠ 0 ∧
    ∃ line, startedProcessTree.firstLineOf (FileTree.processPath "proc" 5 "stat") 4096 = .ok line ∧
      AgeReading startedProcessTree "proc" 5 10.0 100 line ∧
      ∃ info, startedProcessTree.analyzeProcess "proc" 5 (.float 10.0) (.int 100) =
        .ok (some info) ∧ info.ageSeconds = .float 7.5 := by
  have hn : Char.ofNat 0 ∉ "proc".toList := by decide
  have hd : (100 : Int) ≠ 0 := by decide
  obtain ⟨line, hline, hreading⟩ := process_age_reading startedProcessTree hn 5 10.0 hd
  have hstat : startedProcessTree.firstLineOf (FileTree.processPath "proc" 5 "stat") 4096 =
      .ok "5 (w) S 1 5 5 0 -1 0 0 0 0 0 0 0 0 0 20 0 1 0 250 4096" := by decide +kernel
  rw [hstat] at hline
  cases hline
  have hstart : startTicks "5 (w) S 1 5 5 0 -1 0 0 0 0 0 0 0 0 0 20 0 1 0 250 4096" = 250 := by
    decide +kernel
  have hyes : startedProcessTree.hasStatusFields "proc" (toString (5 : Int)) = true := by
    decide +kernel
  -- 250 ticks at 100 a second are 2.5 seconds, short of the finite doubles' end
  have hfits : ¬ overflowThreshold ≤ |((250 : Int) : ℚ) / (100 : Int)| :=
    not_le.mpr (lt_overflowThreshold (by norm_num))
  obtain ⟨info, age, hinfo, -, hage, -, -, hdiv, -⟩ :=
    hreading.process hyes fun h => hfits (hstart ▸ h.2.2)
  obtain ⟨q, hq, rfl⟩ := hdiv (by rw [hstart]; decide) (by decide)
  rw [hstart, show divideToDouble? 250 100 = some 2.5 by decide +kernel] at hq
  cases hq
  refine ⟨hn, hd, _, hstat, hreading, info, hinfo, ?_⟩
  rw [hage]
  exact congrArg Num.float (by decide +kernel)

/-- A `stat` line whose start time, two to the power 1024, lies beyond the finite doubles. -/
def unrepresentableStartLine : List Char :=
  ')' :: ((List.replicate 19 [' ', '0']).flatten ++ ' ' :: Nat.toDigits 10 (2 ^ 1024))

/-- A process directory with process 5, whose status has a name and whose `stat` line is
`unrepresentableStartLine`. -/
def unrepresentableStartTree : FileTree where
  entries := [⟨["proc"], .dir, FileTree.dirAttrs⟩, ⟨["proc", "5"], .dir, FileTree.dirAttrs⟩,
    ⟨["proc", "5", "status"], .file "Name:\tw\n".toUTF8.toList, FileTree.dirAttrs⟩,
    ⟨["proc", "5", "stat"], .file (unrepresentableStartLine.map fun c => c.toNat.toUInt8),
      FileTree.dirAttrs⟩]

theorem unrepresentableStartLine_chars :
    ∀ c ∈ unrepresentableStartLine, c.toNat < 0x80 ∧ c ≠ '\n' ∧ c ≠ '\r' := by
  have hdigit : ∀ d, d < 10 →
      (Nat.digitChar d).toNat < 0x80 ∧ Nat.digitChar d ≠ '\n' ∧ Nat.digitChar d ≠ '\r' := by
    decide
  intro c hc
  simp only [unrepresentableStartLine, List.mem_cons, List.mem_append, List.mem_flatten,
    List.mem_replicate] at hc
  rcases hc with rfl | ⟨l, ⟨-, rfl⟩, hl⟩ | rfl | hc
  · decide
  · simp only [List.mem_cons, List.not_mem_nil, or_false] at hl
    rcases hl with rfl | rfl <;> decide
  · decide
  · obtain ⟨d, hd, rfl⟩ := mem_toDigits (by decide) hc
    exact hdigit d hd

theorem length_toDigits_unrepresentableStart :
    (Nat.toDigits 10 (2 ^ 1024)).length ≤ 400 :=
  (Nat.length_toDigits_le_iff (by decide) (by decide)).mpr (by decide +kernel)

open FileTree in
theorem firstLineOf_unrepresentableStartTree :
    unrepresentableStartTree.firstLineOf (processPath "proc" 5 "stat") 4096 =
      .ok (String.ofList unrepresentableStartLine) := by
  have hp : processPath "proc" 5 "stat" = "proc/5/stat" := by decide +kernel
  have hread : unrepresentableStartTree.readBytes "proc/5/stat" =
      .ok (unrepresentableStartLine.map fun c => c.toNat.toUInt8) := by
    decide +kernel
  have hchars := unrepresentableStartLine_chars
  have hne : unrepresentableStartLine ≠ [] := List.cons_ne_nil _ _
  have hnl : '\n' ∉ unrepresentableStartLine := fun h => (hchars _ h).2.1 rfl
  have hcr : '\r' ∉ unrepresentableStartLine := fun h => (hchars _ h).2.2 rfl
  have hfile : fileChars (unrepresentableStartLine.map fun c => c.toNat.toUInt8) =
      unrepresentableStartLine := by
    rw [fileChars, decodeUtf8Lenient_ascii_chars _ fun c hc => (hchars c hc).1,
      unifyNewlines_of_cr_not_mem hcr]
  have hlen : unrepresentableStartLine.length ≤ 4096 := by
    have h38 : ((List.replicate 19 [' ', '0']).flatten).length = 38 := rfl
    have := length_toDigits_unrepresentableStart
    simp only [unrepresentableStartLine, List.length_cons, List.length_append, h38]
    omega
  have hfirst : firstLine 4096 unrepresentableStartLine = unrepresentableStartLine := by
    simp [firstLine, linesWithEnds_of_not_mem hnl hne, List.take_of_length_le hlen]
  rw [hp, firstLineOf_of_nul_free (by decide +kernel), readChars_of_readBytes hread, hfile]
  dsimp only
  rw [hfirst]
  exact congrArg (fun l => Except.ok (String.ofList l)) (dropNewlines_of_not_mem hnl)

open FileTree in
theorem hasStatusFields_unrepresentableStartTree :
    unrepresentableStartTree.hasStatusFields "proc" (toString (5 : Int)) = true := by
  have hp : (((PathName.ofText "proc").slash (toString (5 : Int))).slash "status").text =
      "proc/5/status" := by decide +kernel
  have hread : unrepresentableStartTree.readBytes "proc/5/status" =
      .ok "Name:\tw\n".toUTF8.toList := by
    decide +kernel
  simp only [hasStatusFields, statusFieldsOf, hp, fieldsOf, readChars, hread, Except.map]
  decide +kernel

theorem idle_uptime_skips_unrepresentable_start :
    unrepresentableStartTree.firstLineOf (FileTree.processPath "proc" 5 "stat") 4096 =
        .ok (String.ofList unrepresentableStartLine) ∧
      overflowThreshold ≤
        |((startTicks (String.ofList unrepresentableStartLine) : Int) : ℚ) / (1 : Int)| ∧
      ∃ info, unrepresentableStartTree.analyzeProcess "proc" 5 (.float 0.0) (.int 1) =
        .ok (some info) := by
  refine ⟨firstLineOf_unrepresentableStartTree, ?_, ?_⟩
  · have hlen : (Nat.toDigits 10 (2 ^ 1024)).length ≤ maxNumeralDigits :=
      le_trans length_toDigits_unrepresentableStart (by decide)
    rw [unrepresentableStartLine, startTicks_zero_fields _ hlen, Int.cast_one, div_one,
      Int.cast_natCast, Nat.cast_pow, Nat.cast_ofNat, abs_of_nonneg (by positivity),
      overflowThreshold, show (2 : ℚ) ^ 1024 = 2 ^ 53 * 2 ^ 971 from pow_add 2 53 971]
    gcongr
    norm_num
  · obtain ⟨line, -, -, hstatus⟩ := FileTree.analyzeProcess_outcome (t := unrepresentableStartTree)
      (show Char.ofNat 0 ∉ "proc".toList by decide) 5 (.float 0.0) (.int 1)
    obtain ⟨info, hinfo, -, -⟩ := (hstatus hasStatusFields_unrepresentableStartTree).2 _
      (processAge_idle _ (.inr (by decide)))
    exact ⟨info, hinfo⟩

end HostSurvey
