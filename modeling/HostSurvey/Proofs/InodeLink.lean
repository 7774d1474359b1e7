import HostSurvey.Proofs.LineGrammar
import HostSurvey.Socket.Inode

/-!
Socket inodes of descriptor targets.
-/

namespace HostSurvey

/-! ### No numeral holds the placeholder -/

theorem mem_dropWhile_of_not {p : Char → Bool} {c : Char} {cs : List Char} (hp : p c = false)
    (hc : c ∈ cs) : c ∈ cs.dropWhile p := by
  rw [← List.takeWhile_append_dropWhile (p := p) (l := cs)] at hc
  rcases List.mem_append.1 hc with hc | hc
  · have := List.mem_takeWhile_imp hc
    rw [hp] at this
    cases this
  · exact hc

theorem question_mem_splitSign {cs : List Char} (hq : '?' ∈ cs) : '?' ∈ (splitSign cs).2 := by
  unfold splitSign
  split
  · simpa using hq
  · simpa using hq
  · exact hq

theorem question_mem_dropBasePrefix (b : Nat) {cs : List Char} (hq : '?' ∈ cs) :
    '?' ∈ dropBasePrefix b cs := by
  unfold dropBasePrefix
  split
  next p x rest hp =>
    split
    next hx =>
      -- the letter of a base prefix is a letter, and the placeholder is none
      have hxq : x ≠ '?' := by
        rintro rfl
        have hlower : ('?' : Char).toLower = '?' := by decide
        rw [hlower] at hx
        subst hx
        revert hp
        unfold basePrefixLetter
        split <;> simp
      have hrest : '?' ∈ rest :=
        (List.mem_cons.1 ((List.mem_cons.1 hq).resolve_left (by decide))).resolve_left hxq.symm
      split
      next r => simpa using hrest
      next => exact hrest
    next => exact hq
  next => exact hq

theorem question_mem_readDigitRun {b : Nat} {cs rest : List Char} {acc n v m : Nat}
    (h : readDigitRun b cs acc n = some (v, m, rest)) (hq : '?' ∈ cs) : '?' ∈ rest := by
  fun_induction readDigitRun b cs acc n generalizing v m rest
  case case1 | case3 | case5 | case6 | case9 | case10 => simp at h
  case case2 => simp at hq
  -- the reader stops at the placeholder and leaves it in what follows the digits
  case case7 | case11 =>
    cases h
    exact hq
  case case4 c cs acc n d hd _ ih =>
    have hc : c ≠ '?' := by rintro rfl; simp [digitValue] at hd
    have hq' := (List.mem_cons.1 hq).resolve_left (by decide)
    exact ih h ((List.mem_cons.1 hq').resolve_left hc.symm)
  case case8 c cs acc n _ d hd _ ih =>
    have hc : c ≠ '?' := by rintro rfl; simp [digitValue] at hd
    exact ih h ((List.mem_cons.1 hq).resolve_left hc.symm)

theorem question_not_mem_of_readIntegerAscii {b : Nat} {cs : List Char} {v : Int}
    (h : readIntegerAscii b cs = .ok v) : '?' ∉ cs := by
  intro hq
  unfold readIntegerAscii at h
  have hsign := question_mem_splitSign (mem_dropWhile_of_not (p := isNumeralSpace) (by decide) hq)
  generalize splitSign (cs.dropWhile isNumeralSpace) = sp at h hsign
  obtain ⟨neg, digits⟩ := sp
  have hbase := question_mem_dropBasePrefix b hsign
  dsimp only at h
  cases hrun : readDigitRun b (dropBasePrefix b digits) 0 0 with
  | none => simp [hrun] at h
  | some r =>
    obtain ⟨value, count, rest⟩ := r
    rw [hrun] at h
    have hrest := question_mem_readDigitRun hrun hbase
    -- what follows the digits must be spaces, and the placeholder is none
    have hall : rest.all isNumeralSpace = false := by
      cases hs : rest.all isNumeralSpace
      · rfl
      · exact absurd (List.all_eq_true.1 hs '?' hrest) (by decide)
    simp only [hall, Bool.false_eq_true, if_false] at h
    split at h <;> cases h

theorem numeralForm_of_not_decimal {c : Char} (hd : isDigitChar c = true)
    (hn : isDecimalDigit c = false) : numeralForm c = '?' := by
  have hr : otherDigitRanges.any (fun r => r.1 ≤ c.toNat && c.toNat ≤ r.2) = true := by
    simpa [isDigitChar, hn] using hd
  have hbig : 127 ≤ c.toNat := by
    obtain ⟨r, hr, hin⟩ := List.any_eq_true.1 hr
    have hstart : ∀ r ∈ otherDigitRanges, 127 ≤ r.1 := by decide
    have := hstart r hr
    simp only [Bool.and_eq_true, decide_eq_true_eq] at hin
    omega
  have hblank : isBlank c = false := Bool.eq_false_iff.2 fun hb => by
    have := isBlank_cases (fun c => isDigitChar c = false) (by decide) hb
    rw [this] at hd
    cases hd
  have hnone : decimalValue? c = none := by simpa [isDecimalDigit] using hn
  simp [numeralForm, hblank, hnone, show ¬ c.toNat < 127 by omega]

theorem readInteger_ne_ok_of_not_decimal {s : String} {c : Char} (hc : c ∈ s.toList)
    (hd : isDigitChar c = true) (hn : isDecimalDigit c = false) (b : Nat) (v : Int) :
    readInteger b s ≠ .ok v := fun h =>
  question_not_mem_of_readIntegerAscii h (List.mem_map.2 ⟨c, hc, numeralForm_of_not_decimal hd hn⟩)

/-! ### Targets that name a socket -/

theorem socketLink_toList (d : String) :
    (socketLinkPrefix ++ d ++ "]").toList = socketLinkPrefix.toList ++ d.toList ++ [']'] := by
  simp [String.toList_append]

theorem socketLink_inj {d e : String}
    (h : socketLinkPrefix ++ d ++ "]" = socketLinkPrefix ++ e ++ "]") : d = e := by
  have hl := congrArg String.toList h
  rw [socketLink_toList, socketLink_toList] at hl
  exact String.toList_inj.1 (List.append_cancel_left (List.append_cancel_right hl))

/-- A target starts with `socket:[`, ends with `]` and is longer than the prefix exactly when
it is `socket:[`, a text and `]`. -/
theorem socketLink_iff {link : String} :
    (link.startsWith socketLinkPrefix = true ∧ link.endsWith "]" = true ∧
      socketLinkPrefix.length < link.length) ↔ ∃ d, link = socketLinkPrefix ++ d ++ "]" := by
  constructor
  · rintro ⟨hs, he, hl⟩
    obtain ⟨r, hr⟩ := String.startsWith_string_iff.1 hs
    obtain ⟨q, hq⟩ : "]".toList <:+ link.toList := by
      simpa [← String.endsWith_toSlice, String.Slice.endsWith_string_iff] using he
    have hlen : socketLinkPrefix.toList.length < link.toList.length := by
      simpa [String.length_toList] using hl
    -- the rest after the prefix is not empty, so it ends with the bracket
    obtain ⟨t, ht⟩ : ∃ t, r.reverse = ']' :: t := by
      have hrev : r.reverse ++ socketLinkPrefix.toList.reverse = ']' :: q.reverse := by
        rw [← List.reverse_append, hr, ← hq]
        simp
      cases hrr : r.reverse with
      | nil =>
        rw [← hr, List.length_append, List.reverse_eq_nil_iff.1 hrr] at hlen
        simp at hlen
      | cons c t =>
        rw [hrr, List.cons_append, List.cons.injEq] at hrev
        exact ⟨t, by rw [hrev.1]⟩
    refine ⟨String.ofList t.reverse, String.toList_inj.1 ?_⟩
    rw [socketLink_toList, String.toList_ofList, ← hr,
      show r = t.reverse ++ [']'] by simpa using congrArg List.reverse ht, List.append_assoc]
  · rintro ⟨d, rfl⟩
    refine ⟨String.startsWith_string_iff.2 ⟨d.toList ++ [']'], by simp⟩, ?_, ?_⟩
    · simp only [← String.endsWith_toSlice, String.Slice.endsWith_string_iff,
        String.copy_toSlice]
      exact ⟨socketLinkPrefix.toList ++ d.toList, by simp⟩
    · simp [← String.length_toList]

theorem socketLink_inner (d : String) :
    String.ofList (((socketLinkPrefix ++ d ++ "]").toList.drop socketLinkPrefix.length).dropLast) =
      d := by
  simp [← String.length_toList]

theorem socketInode_of_not_digits {d : String} (h : isDigitText d = false) :
    socketInode (socketLinkPrefix ++ d ++ "]") = .ok 0 := by
  unfold socketInode
  rw [if_pos (socketLink_iff.2 ⟨d, rfl⟩)]
  simp only [socketLink_inner, h, Bool.false_eq_true, if_false]

theorem socketInode_of_readInteger {d : String} (h : isDigitText d = true) {n : Int}
    (hr : readInteger 10 d = .ok n) : socketInode (socketLinkPrefix ++ d ++ "]") = .ok n := by
  unfold socketInode
  rw [if_pos (socketLink_iff.2 ⟨d, rfl⟩)]
  simp only [socketLink_inner, h, if_true, hr]

theorem socketInode_of_readInteger_error {d : String} (h : isDigitText d = true)
    {e : IntegerTextError} (hr : readInteger 10 d = .error e) :
    ∃ f, socketInode (socketLinkPrefix ++ d ++ "]") = .error f := by
  unfold socketInode
  rw [if_pos (socketLink_iff.2 ⟨d, rfl⟩)]
  simp only [socketLink_inner, h, if_true, hr]
  cases e <;> exact ⟨_, rfl⟩

theorem socketInode_of_not_link {link : String}
    (h : ¬ ∃ d, link = socketLinkPrefix ++ d ++ "]") : socketInode link = .ok 0 := by
  unfold socketInode
  rw [if_neg (mt socketLink_iff.1 h)]

theorem isDigitText_of_decimal {d : String} (h : IsRun isDecimalChar d.toList) :
    isDigitText d = true := by
  have hne : d.isEmpty = false := by
    rw [Bool.eq_false_iff]
    intro he
    apply h.1
    simp [String.isEmpty_iff.1 he]
  simp only [isDigitText, hne, Bool.not_false, Bool.true_and, List.all_eq_true]
  intro c hc
  simp [isDigitChar, show isDecimalDigit c = true from h.2 c hc]

/-- What a target that names a socket gives, by the text between its brackets: a run of
decimal digits its value when it has at most 4300 digits; a text of digits with one that has
no place value, or with too many, a failure; any other text inode 0. -/
theorem socketInode_cases (link : String) :
    ((¬ ∃ d, link = socketLinkPrefix ++ d ++ "]" ∧ isDigitText d = true) ∧
        socketInode link = .ok 0) ∨
      (∃ d, link = socketLinkPrefix ++ d ++ "]" ∧ IsRun isDecimalChar d.toList ∧
        d.length ≤ maxNumeralDigits ∧ socketInode link = .ok (digitsValue 10 decimalValue? d.toList)) ∨
      (∃ d, link = socketLinkPrefix ++ d ++ "]" ∧ isDigitText d = true ∧
        ¬ (IsRun isDecimalChar d.toList ∧ d.length ≤ maxNumeralDigits) ∧
        ∃ f, socketInode link = .error f) := by
  by_cases hform : ∃ d, link = socketLinkPrefix ++ d ++ "]"
  · obtain ⟨d, rfl⟩ := hform
    by_cases hdigits : isDigitText d = true
    · by_cases hdec : IsRun isDecimalChar d.toList
      · have hread := readInteger_decimal_run hdec
        rw [String.ofList_toList, String.length_toList] at hread
        by_cases hlong : maxNumeralDigits < d.length
        · rw [if_pos hlong] at hread
          exact .inr (.inr ⟨d, rfl, hdigits, fun h => absurd h.2 (by omega),
            socketInode_of_readInteger_error hdigits hread⟩)
        · rw [if_neg hlong] at hread
          exact .inr (.inl ⟨d, rfl, hdec, by omega, socketInode_of_readInteger hdigits hread⟩)
      · -- a digit with no place value stops the reading
        have hne : d.toList ≠ [] := fun hnil => by
          have hd : d = "" := String.toList_inj.1 (by simpa using hnil)
          simp [hd, isDigitText] at hdigits
        obtain ⟨c, hc, hcd⟩ : ∃ c ∈ d.toList, isDecimalChar c = false := by
          by_contra hall
          simp only [not_exists, not_and, Bool.not_eq_false] at hall
          exact hdec ⟨hne, hall⟩
        have hdigit : isDigitChar c = true := by
          simp only [isDigitText, Bool.and_eq_true, List.all_eq_true] at hdigits
          exact hdigits.2 c hc
        have hfail := readInteger_ne_ok_of_not_decimal hc hdigit hcd 10
        refine .inr (.inr ⟨d, rfl, hdigits, fun h => hdec h.1, ?_⟩)
        cases hr : readInteger 10 d with
        | ok n => exact absurd hr (hfail n)
        | error e => exact socketInode_of_readInteger_error hdigits hr
    · refine .inl ⟨fun ⟨e, he, hd⟩ => hdigits ?_, socketInode_of_not_digits (by simpa using hdigits)⟩
      rwa [socketLink_inj he]
  · exact .inl ⟨fun ⟨d, hd, _⟩ => hform ⟨d, hd⟩, socketInode_of_not_link hform⟩

theorem socketInode_eq_ok_iff (link : String) (v : Int) :
    socketInode link = .ok v ↔
      (∃ d, link = socketLinkPrefix ++ d ++ "]" ∧ IsRun isDecimalChar d.toList ∧
        d.length ≤ maxNumeralDigits ∧ v = digitsValue 10 decimalValue? d.toList) ∨
      (v = 0 ∧ ¬ ∃ d, link = socketLinkPrefix ++ d ++ "]" ∧ isDigitText d = true) := by
  rcases socketInode_cases link with ⟨hnot, hzero⟩ | ⟨d, rfl, hrun, hlen, hval⟩ |
    ⟨d, rfl, hdigits, hbad, f, hf⟩
  · rw [hzero, Except.ok.injEq]
    constructor
    · rintro rfl
      exact .inr ⟨rfl, hnot⟩
    · rintro (⟨d, hd, hrun, -⟩ | ⟨rfl, -⟩)
      · exact absurd ⟨d, hd, isDigitText_of_decimal hrun⟩ hnot
      · rfl
  · rw [hval, Except.ok.injEq]
    constructor
    · rintro rfl
      exact .inl ⟨d, rfl, hrun, hlen, rfl⟩
    · rintro (⟨e, he, -, -, rfl⟩ | ⟨-, hnot⟩)
      · rw [socketLink_inj he]
      · exact absurd ⟨d, rfl, isDigitText_of_decimal hrun⟩ hnot
  · rw [hf]
    refine ⟨(fun h => nomatch h), ?_⟩
    rintro (⟨e, he, hrun, hlen, -⟩ | ⟨-, hnot⟩)
    · rw [← socketLink_inj he] at hrun hlen
      exact absurd ⟨hrun, hlen⟩ hbad
    · exact absurd ⟨d, rfl, hdigits⟩ hnot

theorem socketInode_eq_error_iff (link : String) :
    (∃ f, socketInode link = .error f) ↔
      ∃ d, link = socketLinkPrefix ++ d ++ "]" ∧ isDigitText d = true ∧
        ¬ (IsRun isDecimalChar d.toList ∧ d.length ≤ maxNumeralDigits) := by
  rcases socketInode_cases link with ⟨hnot, hzero⟩ | ⟨d, rfl, hrun, hlen, hval⟩ |
    ⟨d, rfl, hdigits, hbad, f, hf⟩
  · rw [hzero]
    refine ⟨(fun ⟨f, h⟩ => nomatch h), fun ⟨d, hd, hdigits, _⟩ => absurd ⟨d, hd, hdigits⟩ hnot⟩
  · rw [hval]
    refine ⟨(fun ⟨f, h⟩ => nomatch h), fun ⟨e, he, _, hbad⟩ => ?_⟩
    rw [← socketLink_inj he] at hbad
    exact absurd ⟨hrun, hlen⟩ hbad
  · exact ⟨fun _ => ⟨d, rfl, hdigits, hbad⟩, fun _ => ⟨f, hf⟩⟩

/-- The target of a socket is read back as its inode exactly when the inode has at most 4300
digits. -/
theorem socketInode_toString (n : Nat) :
    socketInode (socketLinkPrefix ++ toString n ++ "]") = .ok n ↔
      (toString n).length ≤ maxNumeralDigits := by
  have hdigits : (toString n).toList = Nat.toDigits 10 n := Nat.toList_repr
  have hrun : IsRun isDecimalChar (toString n).toList := hdigits ▸ decimal_run_toDigits n
  have hval : digitsValue 10 decimalValue? (toString n).toList = n :=
    hdigits ▸ digitsValue_decimal_toDigits n
  rw [socketInode_eq_ok_iff]
  constructor
  · rintro (⟨d, hd, -, hlen, -⟩ | ⟨-, hnot⟩)
    · rwa [← socketLink_inj hd] at hlen
    · exact absurd ⟨_, rfl, isDigitText_of_decimal hrun⟩ hnot
  · intro hlen
    exact .inl ⟨_, rfl, hrun, hlen, by rw [hval]⟩

/-- Socket inodes of descriptor targets. A target is read as a value exactly when it names a
socket by a run of at most 4300 decimal digits, read as the value of that run, or does not name
one by a text of digits, inode 0; it fails exactly when it names a socket by a text of digits
with a digit that has no place value or with more than 4300 digits. So `socket:[n]` is read
back as `n` exactly when `n` has at most 4300 digits, and a non-zero inode always comes from a
run of decimal digits between the brackets. -/
theorem socket_inode_reading (link : String) :
    (∀ v, socketInode link = .ok v ↔
      (∃ d, link = socketLinkPrefix ++ d ++ "]" ∧ IsRun isDecimalChar d.toList ∧
        d.length ≤ maxNumeralDigits ∧ v = digitsValue 10 decimalValue? d.toList) ∨
      (v = 0 ∧ ¬ ∃ d, link = socketLinkPrefix ++ d ++ "]" ∧ isDigitText d = true)) ∧
    ((∃ f, socketInode link = .error f) ↔
      ∃ d, link = socketLinkPrefix ++ d ++ "]" ∧ isDigitText d = true ∧
        ¬ (IsRun isDecimalChar d.toList ∧ d.length ≤ maxNumeralDigits)) ∧
    ∀ n : Nat, link = socketLinkPrefix ++ toString n ++ "]" →
      (socketInode link = .ok n ↔ (toString n).length ≤ maxNumeralDigits) := by
  refine ⟨socketInode_eq_ok_iff link, socketInode_eq_error_iff link, fun n hn => ?_⟩
  subst hn
  exact socketInode_toString n

/-- A superscript two passes the digit test but has no place value: the target that names a
socket by it is refused. -/
theorem superscript_inode_refused :
    socketInode "socket:[²]" = .error (.badIntegerText "²" 10) := by
  decide +kernel

end HostSurvey