import Mathlib.Data.List.Basic
import Mathlib.Data.List.TakeDrop
import Mathlib.Data.List.TakeWhile
import HostSurvey.Socket.Record

/-!
The socket table reader against the grammar of a table line.
-/

namespace HostSurvey

theorem isHexChar_toNat_lt {c : Char} (hc : isHexChar c) : c.toNat < 128 := by
  unfold isHexChar hexDigitValue at hc
  split at hc
  next h => exact Nat.lt_of_le_of_lt (UInt32.le_iff_toNat_le.mp h.2) (by decide)
  next =>
    split at hc
    next h => exact Nat.lt_of_le_of_lt (UInt32.le_iff_toNat_le.mp h.2) (by decide)
    next =>
      split at hc
      next h => exact Nat.lt_of_le_of_lt (UInt32.le_iff_toNat_le.mp h.2) (by decide)
      next => cases hc

theorem isHexChar_cases (P : Char → Prop) (h : ∀ n, n < 128 → isHexChar (Char.ofNat n) → P (Char.ofNat n))
    {c : Char} (hc : isHexChar c) : P c := by
  have := h c.toNat (isHexChar_toNat_lt hc) (by rwa [Char.ofNat_toNat])
  rwa [Char.ofNat_toNat] at this

theorem readDigitRun_all {b : Nat} {cs : List Char}
    (hcs : ∀ c ∈ cs, ∃ d, digitValue c = some d ∧ d < b) (acc n : Nat) (hn : cs ≠ [] ∨ n ≠ 0) :
    readDigitRun b cs acc n =
      some (cs.foldl (fun v c => v * b + (digitValue c).getD 0) acc, n + cs.length, []) := by
  induction cs generalizing acc n with
  | nil =>
    have hn : n ≠ 0 := hn.resolve_left (by simp)
    simp [readDigitRun, hn]
  | cons c rest ih =>
    obtain ⟨d, hd, hdb⟩ := hcs c List.mem_cons_self
    have hc : c ≠ '_' := by rintro rfl; simp [digitValue] at hd
    have hrest := ih (fun x hx => hcs x (List.mem_cons_of_mem _ hx)) (acc * b + d) (n + 1) (.inr (by omega))
    rw [readDigitRun.eq_3 _ _ _ _ _ (fun _ _ h _ => hc h)]
    simp only [hd, show ¬ b ≤ d by omega, ↓reduceIte, hrest, List.foldl_cons, Option.getD_some,
      List.length_cons]
    rw [show n + 1 + rest.length = n + (rest.length + 1) by omega]

theorem digitValue_sign_space {c : Char} {d : Nat} (h : digitValue c = some d) :
    isNumeralSpace c = false ∧ c ≠ '+' ∧ c ≠ '-' ∧ c ≠ '_' := by
  refine ⟨?_, ?_, ?_, ?_⟩
  · cases hs : isNumeralSpace c
    · rfl
    · simp only [isNumeralSpace, Bool.or_eq_true, decide_eq_true_eq] at hs
      rcases hs with ((((h1 | h1) | h1) | h1) | h1) | h1 <;> subst h1 <;> simp [digitValue] at h
  all_goals rintro rfl; simp [digitValue] at h

theorem readIntegerAscii_digits {b : Nat} {cs : List Char} (hne : cs ≠ [])
    (hcs : ∀ c ∈ cs, ∃ d, digitValue c = some d ∧ d < b)
    (hnoBase : ∀ p, basePrefixLetter b = some p → ∀ c ∈ cs, c.toLower ≠ p) :
    readIntegerAscii b cs =
      if b &&& (b - 1) ≠ 0 ∧ maxNumeralDigits < cs.length then .error (.tooManyDigits cs.length)
      else .ok (cs.foldl (fun v c => v * b + (digitValue c).getD 0) 0 : Nat) := by
  obtain ⟨c, rest, rfl⟩ := List.exists_cons_of_ne_nil hne
  obtain ⟨d, hd, -⟩ := hcs c List.mem_cons_self
  obtain ⟨hsp, hplus, hminus, -⟩ := digitValue_sign_space hd
  have hrun := readDigitRun_all hcs 0 0 (.inl hne)
  unfold readIntegerAscii
  rw [List.dropWhile_cons_of_neg (by simp [hsp])]
  dsimp only
  have hsign : splitSign (c :: rest) = (false, c :: rest) := by
    unfold splitSign
    split
    next h => exact absurd (List.cons.inj h).1 hplus
    next h => exact absurd (List.cons.inj h).1 hminus
    next => rfl
  have hbase : dropBasePrefix b (c :: rest) = c :: rest := by
    unfold dropBasePrefix
    split
    next p x r hp h => rw [if_neg (hnoBase p hp x (by rw [h]; simp))]
    next => rfl
  simp [hsign, hbase, hrun]

/-- A stretch of at least one character, every one of a class. -/
def IsRun (p : Char → Bool) (cs : List Char) : Prop := cs ≠ [] ∧ ∀ c ∈ cs, p c = true

instance (p : Char → Bool) : DecidablePred (IsRun p) := fun cs =>
  decidable_of_iff (!cs.isEmpty && cs.all p) (by simp [IsRun])

/-- What follows a stretch does not continue it: it is empty or starts outside the class. -/
def Ends (p : Char → Bool) (rest : List Char) : Prop := ∀ c ∈ rest.head?, p c = false

instance (p : Char → Bool) : DecidablePred (Ends p) := fun rest =>
  decidable_of_iff (rest.head?.all (!p ·)) (by cases rest <;> simp [Ends])

theorem Ends.takeWhile {p : Char → Bool} {rest : List Char} (h : Ends p rest) :
    rest.takeWhile p = [] := by
  cases rest with
  | nil => rfl
  | cons c r => simp [h c rfl]

theorem Ends.dropWhile {p : Char → Bool} {rest : List Char} (h : Ends p rest) :
    rest.dropWhile p = rest := by
  cases rest with
  | nil => rfl
  | cons c r => simp [h c rfl]

theorem ends_dropWhile (p : Char → Bool) (cs : List Char) : Ends p (cs.dropWhile p) := by
  intro c hc
  induction cs with
  | nil => simp at hc
  | cons x xs ih =>
    rw [List.dropWhile_cons] at hc
    split at hc
    · exact ih hc
    · next hx => simp only [List.head?_cons, Option.mem_def, Option.some.injEq] at hc; subst hc; simpa using hx

theorem takeRun_eq (p : Char → Bool) (cs : List Char) :
    takeRun p cs = if cs.takeWhile p = [] then none else some (cs.takeWhile p, cs.dropWhile p) := by
  unfold takeRun
  rw [List.span_eq_takeWhile_dropWhile]
  cases cs.takeWhile p <;> rfl

theorem takeRun_eq_some_iff {p : Char → Bool} {cs run rest : List Char} :
    takeRun p cs = some (run, rest) ↔ cs = run ++ rest ∧ IsRun p run ∧ Ends p rest := by
  rw [takeRun_eq]
  constructor
  · intro h
    split at h
    · cases h
    next hne =>
      obtain ⟨rfl, rfl⟩ := Prod.mk.inj (Option.some.inj h)
      exact ⟨List.takeWhile_append_dropWhile.symm,
        ⟨hne, fun c hc => (List.mem_takeWhile_imp hc)⟩, ends_dropWhile p cs⟩
  · rintro ⟨rfl, ⟨hne, hrun⟩, hend⟩
    rw [List.takeWhile_append_of_pos hrun, List.dropWhile_append_of_pos hrun, hend.takeWhile,
      hend.dropWhile, List.append_nil, if_neg hne]

theorem Ends.cons {p : Char → Bool} {c : Char} {rest : List Char} (h : p c = false) :
    Ends p (c :: rest) := by
  intro x hx
  simp only [List.head?_cons, Option.mem_def, Option.some.injEq] at hx
  exact hx ▸ h

theorem IsRun.ends {q p : Char → Bool} {run : List Char} (hrun : IsRun q run)
    (hqp : ∀ c, q c = true → p c = false) (rest : List Char) : Ends p (run ++ rest) := by
  obtain ⟨c, cs, rfl⟩ := List.exists_cons_of_ne_nil hrun.1
  exact Ends.cons (hqp c (hrun.2 c List.mem_cons_self))

theorem skipBlankRun_eq_some_iff {cs rest : List Char} :
    skipBlankRun cs = some rest ↔ ∃ gap, cs = gap ++ rest ∧ IsRun isBlank gap ∧ Ends isBlank rest := by
  unfold skipBlankRun
  constructor
  · intro h
    obtain ⟨⟨gap, rest'⟩, hg, rfl⟩ := Option.map_eq_some_iff.mp h
    exact ⟨gap, takeRun_eq_some_iff.mp hg⟩
  · rintro ⟨gap, hcs, hgap, hend⟩
    rw [takeRun_eq_some_iff.mpr ⟨hcs, hgap, hend⟩]
    rfl

theorem skipBlankRun_append {gap rest : List Char} (hgap : IsRun isBlank gap)
    (hend : Ends isBlank rest) : skipBlankRun (gap ++ rest) = some rest :=
  skipBlankRun_eq_some_iff.mpr ⟨gap, rfl, hgap, hend⟩

theorem expectChar_eq_some_iff {c : Char} {cs rest : List Char} :
    expectChar c cs = some rest ↔ cs = c :: rest := by
  cases cs with
  | nil => simp [expectChar]
  | cons x xs =>
    unfold expectChar
    by_cases hx : x = c
    · simp [hx, eq_comm]
    · simp [hx]

/-- A field of a table line followed by the blanks that close it. -/
structure Spaced where
  run : List Char
  gap : List Char

namespace Spaced

def text (f : Spaced) : List Char := f.run ++ f.gap

/-- The field is a run of a class and at least one blank closes it. -/
def Valid (p : Char → Bool) (f : Spaced) : Prop := IsRun p f.run ∧ IsRun isBlank f.gap

instance (p : Char → Bool) : DecidablePred (Valid p) :=
  fun f => inferInstanceAs (Decidable (IsRun p f.run ∧ IsRun isBlank f.gap))

theorem valid_mk {p : Char → Bool} {run gap : List Char} (hrun : IsRun p run)
    (hgap : IsRun isBlank gap) : Valid p ⟨run, gap⟩ := ⟨hrun, hgap⟩

theorem takeRun_text {p : Char → Bool} {f : Spaced} (hf : f.Valid p)
    (hp : ∀ c, isBlank c = true → p c = false) (rest : List Char) :
    takeRun p (f.text ++ rest) = some (f.run, f.gap ++ rest) :=
  takeRun_eq_some_iff.mpr ⟨List.append_assoc _ _ _, hf.1, hf.2.ends hp rest⟩

theorem Valid.ends {p : Char → Bool} {f : Spaced} (hf : f.Valid p)
    (hp : ∀ c, p c = true → isBlank c = false) (rest : List Char) : Ends isBlank (f.text ++ rest) := by
  rw [text, List.append_assoc]
  exact hf.1.ends hp _

theorem of_takeRun {p : Char → Bool} {cs run cs' rest : List Char}
    (h₁ : takeRun p cs = some (run, cs')) (h₂ : skipBlankRun cs' = some rest) :
    ∃ f : Spaced, f.run = run ∧ cs = f.text ++ rest ∧ f.Valid p ∧ Ends isBlank rest := by
  obtain ⟨rfl, hrun, -⟩ := takeRun_eq_some_iff.mp h₁
  obtain ⟨gap, rfl, hgap, hend⟩ := skipBlankRun_eq_some_iff.mp h₂
  exact ⟨⟨run, gap⟩, rfl, (List.append_assoc _ _ _).symm, ⟨hrun, hgap⟩, hend⟩

end Spaced

theorem isBlank_cases (P : Char → Prop) (h : ∀ n ∈ blankCodes, P (Char.ofNat n)) {c : Char}
    (hc : isBlank c = true) : P c := by
  have := h c.toNat (List.elem_iff.mp hc)
  rwa [Char.ofNat_toNat] at this

theorem hex_not_blank {c : Char} (h : isBlank c = true) : isHexChar c = false :=
  isBlank_cases (fun c => isHexChar c = false) (by decide) h

theorem decimal_not_blank {c : Char} (h : isBlank c = true) : isDecimalChar c = false :=
  isBlank_cases (fun c => isDecimalChar c = false) (by decide) h

theorem not_blank_of_hex {c : Char} (h : isHexChar c = true) : isBlank c = false :=
  Bool.eq_false_iff.mpr fun hb => by simp [hex_not_blank hb] at h

theorem not_blank_of_decimal {c : Char} (h : isDecimalChar c = true) : isBlank c = false :=
  Bool.eq_false_iff.mpr fun hb => by simp [decimal_not_blank hb] at h

theorem token_not_blank {c : Char} (h : isBlank c = true) : (!isBlank c) = false := by simp [h]

theorem readEndpoint_eq_some {cs rest : List Char} {a pt : String}
    (h : readEndpoint cs = some ((a, pt), rest)) :
    ∃ (addr : List Char) (port : Spaced), cs = addr ++ ':' :: (port.text ++ rest) ∧
      IsRun isHexChar addr ∧ port.Valid isHexChar ∧ Ends isBlank rest ∧
      a = String.ofList addr ∧ pt = String.ofList port.run := by
  simp only [readEndpoint, bind, Option.bind_eq_some_iff, pure, Option.some.injEq, Prod.exists,
    Prod.mk.injEq] at h
  obtain ⟨addr, cs₁, h₁, cs₂, h₂, run, cs₃, h₃, cs₄, h₄, ⟨rfl, rfl⟩, rfl⟩ := h
  obtain ⟨rfl, haddr, -⟩ := takeRun_eq_some_iff.mp h₁
  obtain rfl := expectChar_eq_some_iff.mp h₂
  obtain ⟨port, rfl, rfl, hport, hend⟩ := Spaced.of_takeRun h₃ h₄
  exact ⟨addr, port, rfl, haddr, hport, hend, rfl, rfl⟩

theorem readEndpoint_text {addr rest : List Char} {port : Spaced} (haddr : IsRun isHexChar addr)
    (hport : port.Valid isHexChar) (hend : Ends isBlank rest) :
    readEndpoint (addr ++ ':' :: (port.text ++ rest)) =
      some ((String.ofList addr, String.ofList port.run), rest) := by
  have h₁ : takeRun isHexChar (addr ++ ':' :: (port.text ++ rest)) =
      some (addr, ':' :: (port.text ++ rest)) :=
    takeRun_eq_some_iff.mpr ⟨rfl, haddr, Ends.cons (by decide)⟩
  simp only [readEndpoint, bind, Option.bind, h₁, expectChar, ↓reduceIte]
  rw [Spaced.takeRun_text hport (fun _ => hex_not_blank)]
  dsimp only
  rw [skipBlankRun_append hport.2 hend]
  rfl

theorem readToken_eq_some {cs rest : List Char} (h : readToken cs = some rest) :
    ∃ f : Spaced, cs = f.text ++ rest ∧ f.Valid (!isBlank ·) := by
  simp only [readToken, bind, Option.bind_eq_some_iff, Prod.exists] at h
  obtain ⟨run, cs₁, h₁, h₂⟩ := h
  obtain ⟨f, -, rfl, hf, -⟩ := Spaced.of_takeRun h₁ h₂
  exact ⟨f, rfl, hf⟩

theorem readToken_text {f : Spaced} (hf : f.Valid (!isBlank ·)) {rest : List Char}
    (hend : Ends isBlank rest) : readToken (f.text ++ rest) = some rest := by
  simp [readToken, Spaced.takeRun_text hf (fun _ => token_not_blank),
    skipBlankRun_append hf.2 hend]

theorem readNumberField_eq_some {cs rest : List Char} (h : readNumberField cs = some rest) :
    ∃ f : Spaced, cs = f.text ++ rest ∧ f.Valid isDecimalChar := by
  simp only [readNumberField, bind, Option.bind_eq_some_iff, Prod.exists] at h
  obtain ⟨run, cs₁, h₁, h₂⟩ := h
  obtain ⟨f, -, rfl, hf, -⟩ := Spaced.of_takeRun h₁ h₂
  exact ⟨f, rfl, hf⟩

theorem readNumberField_text {f : Spaced} (hf : f.Valid isDecimalChar) {rest : List Char}
    (hend : Ends isBlank rest) : readNumberField (f.text ++ rest) = some rest := by
  simp [readNumberField, Spaced.takeRun_text hf (fun _ => decimal_not_blank),
    skipBlankRun_append hf.2 hend]

/-- A line of a kernel socket table cut into the stretches that its grammar names: blanks, the
slot number and a colon, blanks, the local address, a colon and the local port, the remote
address, a colon and the remote port, the state, three fields, two numbers, the inode, and
whatever follows it. -/
structure SocketLine where
  lead : List Char
  slot : List Char
  gap : List Char
  localAddr : List Char
  localPort : Spaced
  remoteAddr : List Char
  remotePort : Spaced
  state : Spaced
  field₁ : Spaced
  field₂ : Spaced
  field₃ : Spaced
  number₁ : Spaced
  number₂ : Spaced
  inode : List Char
  tail : List Char

namespace SocketLine

def text (l : SocketLine) : List Char :=
  l.lead ++ l.slot ++ ':' :: l.gap ++ l.localAddr ++ ':' :: l.localPort.text ++ l.remoteAddr ++
    ':' :: l.remotePort.text ++ l.state.text ++ l.field₁.text ++ l.field₂.text ++ l.field₃.text ++
    l.number₁.text ++ l.number₂.text ++ l.inode ++ l.tail

/-- Each stretch is of its class: blanks and decimal digits in the Unicode sense, ASCII
hexadecimal digits, fields without blanks; the inode is every decimal digit up to the tail. -/
structure Valid (l : SocketLine) : Prop where
  lead : ∀ c ∈ l.lead, isBlank c = true
  slot : IsRun isDecimalChar l.slot
  gap : IsRun isBlank l.gap
  localAddr : IsRun isHexChar l.localAddr
  localPort : l.localPort.Valid isHexChar
  remoteAddr : IsRun isHexChar l.remoteAddr
  remotePort : l.remotePort.Valid isHexChar
  state : l.state.Valid isHexChar
  field₁ : l.field₁.Valid (!isBlank ·)
  field₂ : l.field₂.Valid (!isBlank ·)
  field₃ : l.field₃.Valid (!isBlank ·)
  number₁ : l.number₁.Valid isDecimalChar
  number₂ : l.number₂.Valid isDecimalChar
  inode : IsRun isDecimalChar l.inode
  tail : Ends isDecimalChar l.tail

/-- The texts of the fields a record is decoded from. -/
def fields (l : SocketLine) : LineFields :=
  ⟨String.ofList l.localAddr, String.ofList l.localPort.run, String.ofList l.remoteAddr,
    String.ofList l.remotePort.run, String.ofList l.state.run, String.ofList l.inode⟩

theorem read_text {l : SocketLine} (hl : l.Valid) :
    LineFields.read (String.ofList l.text) = some l.fields := by
  simp only [LineFields.read, SocketLine.text, String.toList_ofList, List.append_assoc,
    List.cons_append]
  have hhex : ∀ c, isHexChar c = true → isBlank c = false := fun _ => not_blank_of_hex
  have hdec : ∀ c, isDecimalChar c = true → isBlank c = false := fun _ => not_blank_of_decimal
  have htok : ∀ c, (!isBlank c) = true → isBlank c = false := by simp
  -- each reader stops where the next stretch starts, the classes of neighbours being disjoint
  rw [List.dropWhile_append_of_pos hl.lead, (hl.slot.ends hdec _).dropWhile,
    takeRun_eq_some_iff.mpr ⟨rfl, hl.slot, Ends.cons (by decide)⟩]
  simp only [bind, Option.bind, expectChar, ↓reduceIte]
  rw [skipBlankRun_eq_some_iff.mpr ⟨_, rfl, hl.gap, hl.localAddr.ends hhex _⟩]
  dsimp only
  rw [readEndpoint_text hl.localAddr hl.localPort (hl.remoteAddr.ends hhex _)]
  dsimp only
  rw [readEndpoint_text hl.remoteAddr hl.remotePort (hl.state.ends hhex _)]
  dsimp only
  rw [Spaced.takeRun_text hl.state (fun c hb => hex_not_blank hb)]
  dsimp only
  rw [skipBlankRun_append hl.state.2 (hl.field₁.ends htok _)]
  dsimp only
  rw [readToken_text hl.field₁ (hl.field₂.ends htok _)]
  dsimp only
  rw [readToken_text hl.field₂ (hl.field₃.ends htok _)]
  dsimp only
  rw [readToken_text hl.field₃ (hl.number₁.ends hdec _)]
  dsimp only
  rw [readNumberField_text hl.number₁ (hl.number₂.ends hdec _)]
  dsimp only
  rw [readNumberField_text hl.number₂ (hl.inode.ends hdec _)]
  dsimp only
  rw [takeRun_eq_some_iff.mpr ⟨rfl, hl.inode, hl.tail⟩]
  rfl

theorem exists_of_read {line : String} {f : LineFields} (h : LineFields.read line = some f) :
    ∃ l : SocketLine, l.Valid ∧ line.toList = l.text ∧ f = l.fields := by
  simp only [LineFields.read, bind, Option.bind_eq_some_iff, pure, Option.some.injEq,
    Prod.exists] at h
  obtain ⟨slot, cs₁, h₁, cs₂, h₂, cs₃, h₃, la, lp, cs₄, h₄, ra, rp, cs₅, h₅, st, cs₆, h₆, cs₇, h₇,
    cs₈, h₈, cs₉, h₉, cs₁₀, h₁₀, cs₁₁, h₁₁, cs₁₂, h₁₂, ino, tail, h₁₃, rfl⟩ := h
  -- read the stretches back from the front, one reader at a time
  obtain ⟨hdrop, hslot, -⟩ := takeRun_eq_some_iff.mp h₁
  obtain rfl := expectChar_eq_some_iff.mp h₂
  obtain ⟨gap, rfl, hgap, -⟩ := skipBlankRun_eq_some_iff.mp h₃
  obtain ⟨laddr, lport, rfl, hla, hlp, -, rfl, rfl⟩ := readEndpoint_eq_some h₄
  obtain ⟨raddr, rport, rfl, hra, hrp, -, rfl, rfl⟩ := readEndpoint_eq_some h₅
  obtain ⟨state, rfl, rfl, hst, -⟩ := Spaced.of_takeRun h₆ h₇
  obtain ⟨f₁, rfl, hf₁⟩ := readToken_eq_some h₈
  obtain ⟨f₂, rfl, hf₂⟩ := readToken_eq_some h₉
  obtain ⟨f₃, rfl, hf₃⟩ := readToken_eq_some h₁₀
  obtain ⟨n₁, rfl, hn₁⟩ := readNumberField_eq_some h₁₁
  obtain ⟨n₂, rfl, hn₂⟩ := readNumberField_eq_some h₁₂
  obtain ⟨rfl, hino, htail⟩ := takeRun_eq_some_iff.mp h₁₃
  refine ⟨⟨line.toList.takeWhile isBlank, slot, gap, laddr, lport, raddr, rport, state, f₁, f₂, f₃,
    n₁, n₂, ino, tail⟩, ⟨fun c hc => List.mem_takeWhile_imp hc, hslot, hgap, hla, hlp, hra, hrp, hst,
    hf₁, hf₂, hf₃, hn₁, hn₂, hino, htail⟩, ?_, rfl⟩
  calc line.toList = line.toList.takeWhile isBlank ++ line.toList.dropWhile isBlank :=
        List.takeWhile_append_dropWhile.symm
    _ = _ := by
      rw [hdrop]
      simp only [SocketLine.text, List.append_assoc, List.cons_append]

theorem read_eq_some_iff {line : String} {f : LineFields} :
    LineFields.read line = some f ↔ ∃ l : SocketLine, l.Valid ∧ line.toList = l.text ∧ f = l.fields := by
  constructor
  · exact exists_of_read
  · rintro ⟨l, hl, htext, rfl⟩
    rw [← String.ofList_toList (s := line), htext]
    exact read_text hl

end SocketLine

/-- The value of a run of digits of base `b`, each valued by `value`. -/
def digitsValue (b : Nat) (value : Char → Option Nat) (cs : List Char) : Nat :=
  cs.foldl (fun v c => v * b + (value c).getD 0) 0

theorem hex_digit {c : Char} (hc : isHexChar c = true) :
    ∃ d, d < 16 ∧ digitValue c = some d ∧ hexDigitValue c = some d :=
  isHexChar_cases (fun c => ∃ d, d < 16 ∧ digitValue c = some d ∧ hexDigitValue c = some d)
    (by decide) hc

theorem readHexField_run {cs : List Char} (h : IsRun isHexChar cs) :
    readHexField (String.ofList cs) = .ok (digitsValue 16 hexDigitValue cs : Nat) := by
  -- hexadecimal digits are ASCII, so their numeral form is themselves
  have hform : cs.map numeralForm = cs :=
    calc cs.map numeralForm = cs.map (fun c => c) := List.map_congr_left fun c hc =>
          isHexChar_cases (fun c => numeralForm c = c) (by decide) (h.2 c hc)
      _ = cs := List.map_id'' (fun _ => rfl) cs
  have hdigits : ∀ c ∈ cs, ∃ d, digitValue c = some d ∧ d < 16 := fun c hc => by
    obtain ⟨d, hd, hv, -⟩ := hex_digit (h.2 c hc)
    exact ⟨d, hv, hd⟩
  have hnoBase : ∀ p, basePrefixLetter 16 = some p → ∀ c ∈ cs, c.toLower ≠ p := by
    intro p hp c hc
    cases hp
    exact isHexChar_cases (fun c => c.toLower ≠ 'x') (by decide) (h.2 c hc)
  have hvalue : cs.foldl (fun v c => v * 16 + (digitValue c).getD 0) 0 = digitsValue 16 hexDigitValue cs :=
    List.foldl_ext _ _ 0 fun v c hc => by
      obtain ⟨d, -, hv, hh⟩ := hex_digit (h.2 c hc)
      rw [hv, hh]
  unfold readHexField readInteger
  rw [String.toList_ofList, hform, readIntegerAscii_digits h.1 hdigits hnoBase, hvalue]
  rfl

theorem decodeAddress_run {cs : List Char} (h : IsRun isHexChar cs) (p : String) (c : Bool) :
    decodeAddress (String.ofList cs) p c =
      .ok (if isIpv6Protocol p then decodeIpv6 (String.ofList cs) c
        else ipv4Text (digitsValue 16 hexDigitValue cs)) := by
  unfold decodeAddress decodeIpv4
  split
  · rfl
  · rw [readHexField_run h]
    rfl

theorem numeralForm_decimal {c : Char} (hc : isDecimalChar c = true) :
    ∃ d, d < 10 ∧ decimalValue? c = some d ∧ digitValue (numeralForm c) = some d := by
  obtain ⟨d, hd⟩ := Option.isSome_iff_exists.mp hc
  have hlt := decimalValue?_lt hd
  refine ⟨d, hlt, hd, ?_⟩
  unfold numeralForm
  split
  next hascii =>
    -- the only decimal digits of ASCII are 0 to 9
    have key : ∀ n, n < 127 → (decimalValueIn n decimalBlockStarts).all
        (fun d => digitValue (Char.ofNat n) == some d) = true := by decide +kernel
    have := key c.toNat hascii
    rw [Char.ofNat_toNat] at this
    simp only [decimalValue?] at hd
    simpa [hd] using this
  next =>
    have hblank : isBlank c = false := not_blank_of_decimal hc
    have key : ∀ d, d < 10 → digitValue (Char.ofNat (0x30 + d)) = some d := by decide
    simp only [hblank, hd, Bool.false_eq_true, ↓reduceIte]
    exact key d hlt

theorem readInteger_decimal_run {cs : List Char} (h : IsRun isDecimalChar cs) :
    readInteger 10 (String.ofList cs) =
      if maxNumeralDigits < cs.length then .error (.tooManyDigits cs.length)
      else .ok (digitsValue 10 decimalValue? cs : Nat) := by
  have hdigits : ∀ c ∈ cs.map numeralForm, ∃ d, digitValue c = some d ∧ d < 10 := by
    intro c hc
    obtain ⟨x, hx, rfl⟩ := List.mem_map.mp hc
    obtain ⟨d, hd, -, hv⟩ := numeralForm_decimal (h.2 x hx)
    exact ⟨d, hv, hd⟩
  have hvalue : (cs.map numeralForm).foldl (fun v c => v * 10 + (digitValue c).getD 0) 0 =
      digitsValue 10 decimalValue? cs := by
    rw [List.foldl_map]
    exact List.foldl_ext _ _ 0 fun v c hc => by
      obtain ⟨d, -, hd, hv⟩ := numeralForm_decimal (h.2 c hc)
      rw [hv, hd]
  unfold readInteger
  rw [String.toList_ofList, readIntegerAscii_digits (by simpa using h.1) hdigits (by simp [basePrefixLetter]),
    hvalue, List.length_map]
  simp

namespace SocketLine

/-- The record a cut line describes for a protocol: the addresses decoded by the family of the
protocol, the ports and the state read as hexadecimal numbers, the inode as a decimal one. -/
structure Describes (l : SocketLine) (p : String) (c : Bool) (r : SocketRecord) : Prop where
  protocol : r.protocol = p
  localAddr : decodeAddress (String.ofList l.localAddr) p c = .ok r.localAddr
  localPort : r.localPort = digitsValue 16 hexDigitValue l.localPort.run
  remoteAddr : decodeAddress (String.ofList l.remoteAddr) p c = .ok r.remoteAddr
  remotePort : r.remotePort = digitsValue 16 hexDigitValue l.remotePort.run
  state : r.state = digitsValue 16 hexDigitValue l.state.run
  inode : r.inode = digitsValue 10 decimalValue? l.inode

theorem ofLine_iff {line p : String} {c : Bool} {l : SocketLine} (hl : l.Valid)
    (htext : line.toList = l.text) (r : SocketRecord) :
    SocketRecord.ofLine line p c = some r ↔ l.localAddr.length = addressWidth p ∧
      l.remoteAddr.length = addressWidth p ∧ l.inode.length ≤ maxNumeralDigits ∧ l.Describes p c r := by
  have hread : LineFields.read line = some l.fields := read_eq_some_iff.mpr ⟨l, hl, htext, rfl⟩
  unfold SocketRecord.ofLine
  simp only [hread, bind, Option.bind, fields, String.length_ofList]
  rw [decodeAddress_run hl.localAddr, decodeAddress_run hl.remoteAddr, decodePort, decodePort,
    readHexField_run hl.localPort.1, readHexField_run hl.remotePort.1, readHexField_run hl.state.1,
    readInteger_decimal_run hl.inode]
  by_cases hw : l.localAddr.length = addressWidth p ∧ l.remoteAddr.length = addressWidth p
  · by_cases hi : maxNumeralDigits < l.inode.length
    · -- an inode of more digits than an integer may be read from is no record
      simp only [hw, hi, Except.bind, Except.toOption]
      simp [Nat.not_le.mpr hi]
    · simp only [hw, ne_eq, not_true_eq_false, or_self, ↓reduceIte, hi, Except.bind, pure,
        Except.pure, Except.toOption, Option.some.injEq, true_and, Nat.not_lt.mp hi]
      constructor
      · rintro rfl
        exact ⟨rfl, decodeAddress_run hl.localAddr p c, rfl, decodeAddress_run hl.remoteAddr p c,
          rfl, rfl, rfl⟩
      · rintro ⟨hp, hla, hlp, hra, hrp, hst, hino⟩
        rw [decodeAddress_run hl.localAddr, Except.ok.injEq] at hla
        rw [decodeAddress_run hl.remoteAddr, Except.ok.injEq] at hra
        obtain ⟨protocol, la, lp, ra, rp, st, ino⟩ := r
        dsimp only at hp hla hlp hra hrp hst hino
        subst hp hla hlp hra hrp hst hino
        rfl
  · -- an address of another width than the family's is no record
    simp only [not_and_or] at hw
    simp only [ne_eq, hw, ↓reduceIte, reduceCtorEq, false_iff, not_and]
    intro h₁ h₂
    rcases hw with hw | hw
    · exact absurd h₁ hw
    · exact absurd h₂ hw

end SocketLine

/-- A line is a record exactly when it follows the grammar of socket table lines with
addresses of the protocol's width and an inode of at most 4300 digits; the record is then
the one the line describes. -/
theorem ofLine_eq_some_iff {line p : String} {c : Bool} {r : SocketRecord} :
    SocketRecord.ofLine line p c = some r ↔ ∃ l : SocketLine, l.Valid ∧ line.toList = l.text ∧
      l.localAddr.length = addressWidth p ∧ l.remoteAddr.length = addressWidth p ∧
      l.inode.length ≤ maxNumeralDigits ∧ l.Describes p c r := by
  constructor
  · intro h
    cases hread : LineFields.read line with
    | none => simp [SocketRecord.ofLine, hread] at h
    | some f =>
      obtain ⟨l, hl, htext, -⟩ := SocketLine.read_eq_some_iff.mp hread
      exact ⟨l, hl, htext, (SocketLine.ofLine_iff hl htext r).mp h⟩
  · rintro ⟨l, hl, htext, hw⟩
    exact (SocketLine.ofLine_iff hl htext r).mpr hw

theorem digitsValue_append (b : Nat) (value : Char → Option Nat) (xs ys : List Char) :
    digitsValue b value (xs ++ ys) = ys.foldl (fun v c => v * b + (value c).getD 0) (digitsValue b value xs) :=
  List.foldl_append

theorem digitsValue_toDigits {b : Nat} (hb : 1 < b) {value : Char → Option Nat}
    (hv : ∀ d, d < b → value (Nat.digitChar d) = some d) (n : Nat) :
    digitsValue b value (Nat.toDigits b n) = n := by
  induction n using Nat.strongRecOn with
  | ind n ih =>
    rw [Nat.toDigits_eq_if hb]
    split
    next hn => simp [digitsValue, hv n hn]
    next hn =>
      have hdiv : n / b < n := Nat.div_lt_self (by omega) hb
      rw [digitsValue_append, ih (n / b) hdiv]
      simp [hv (n % b) (Nat.mod_lt n (by omega)), Nat.div_add_mod']

theorem digitsValue_zeros {b : Nat} {value : Char → Option Nat} (hz : value '0' = some 0) (k : Nat)
    (ds : List Char) : digitsValue b value (List.replicate k '0' ++ ds) = digitsValue b value ds := by
  have hzero : ∀ k, (List.replicate k '0').foldl (fun v c => v * b + (value c).getD 0) 0 = 0 := by
    intro k
    induction k with
    | zero => rfl
    | succ k ih => simp [List.replicate_succ', List.foldl_append, ih, hz]
  unfold digitsValue
  rw [List.foldl_append, hzero]

theorem mem_toDigits {b n : Nat} (hb : 1 < b) {c : Char} (hc : c ∈ Nat.toDigits b n) :
    ∃ d, d < b ∧ c = Nat.digitChar d := by
  induction n using Nat.strongRecOn with
  | ind n ih =>
    rw [Nat.toDigits_eq_if hb] at hc
    split at hc
    next hn => exact ⟨n, hn, List.mem_singleton.mp hc⟩
    next hn =>
      rcases List.mem_append.mp hc with hc | hc
      · exact ih (n / b) (Nat.div_lt_self (by omega) hb) hc
      · exact ⟨n % b, Nat.mod_lt n (by omega), List.mem_singleton.mp hc⟩

/-- `n` in upper-case hexadecimal with at least `width` digits, zeros in front. -/
def upperHex (width n : Nat) : String :=
  let ds := (Nat.toDigits 16 n).map Char.toUpper
  String.ofList (List.replicate (width - ds.length) '0' ++ ds)

theorem upperHex_run (width n : Nat) : IsRun isHexChar (upperHex width n).toList := by
  have hdigit : ∀ d, d < 16 → isHexChar (Nat.digitChar d).toUpper = true := by decide
  refine ⟨by simp [upperHex, Nat.toDigits_ne_nil], fun c hc => ?_⟩
  simp only [upperHex, String.toList_ofList, List.mem_append, List.mem_replicate, List.mem_map] at hc
  rcases hc with ⟨-, rfl⟩ | ⟨x, hx, rfl⟩
  · decide
  · obtain ⟨d, hd, rfl⟩ := mem_toDigits (by decide) hx
    exact hdigit d hd

theorem digitsValue_upperHex (width n : Nat) :
    digitsValue 16 hexDigitValue (upperHex width n).toList = n := by
  have hdigit : ∀ d, d < 16 → hexDigitValue (Nat.digitChar d).toUpper = some d := by decide
  rw [upperHex, String.toList_ofList, digitsValue_zeros (by decide), digitsValue, List.foldl_map]
  exact digitsValue_toDigits (by decide) hdigit n

theorem decimal_run_toDigits (n : Nat) : IsRun isDecimalChar (Nat.toDigits 10 n) := by
  have hdigit : ∀ d, d < 10 → isDecimalChar (Nat.digitChar d) = true := by decide +kernel
  refine ⟨Nat.toDigits_ne_nil, fun c hc => ?_⟩
  obtain ⟨d, hd, rfl⟩ := mem_toDigits (by decide) hc
  exact hdigit d hd

theorem digitsValue_decimal_toDigits (n : Nat) : digitsValue 10 decimalValue? (Nat.toDigits 10 n) = n :=
  digitsValue_toDigits (by decide) (by decide +kernel) n

/-- A line of a kernel socket table as the kernel writes it, the columns the survey does not
read at the values of an idle socket. -/
def kernelLine (slot : Nat) (localAddr : String) (localPort : Nat) (remoteAddr : String)
    (remotePort state inode : Nat) : String :=
  "  " ++ String.ofList (List.replicate (3 - (toString slot).length) ' ') ++ toString slot ++ ": " ++
    localAddr ++ ":" ++ upperHex 4 localPort ++ " " ++ remoteAddr ++ ":" ++ upperHex 4 remotePort ++
    " " ++ upperHex 2 state ++ " 00000000:00000000 00:00000000 00000000  1000        0 " ++
    toString inode ++ " 1 0000000000000000 100 0 0 10 0\n"

namespace SocketLine

def kernel (slot : Nat) (localAddr : String) (localPort : Nat) (remoteAddr : String)
    (remotePort state inode : Nat) : SocketLine where
  lead := ' ' :: ' ' :: List.replicate (3 - (toString slot).length) ' '
  slot := Nat.toDigits 10 slot
  gap := [' ']
  localAddr := localAddr.toList
  localPort := ⟨(upperHex 4 localPort).toList, [' ']⟩
  remoteAddr := remoteAddr.toList
  remotePort := ⟨(upperHex 4 remotePort).toList, [' ']⟩
  state := ⟨(upperHex 2 state).toList, [' ']⟩
  field₁ := ⟨"00000000:00000000".toList, [' ']⟩
  field₂ := ⟨"00:00000000".toList, [' ']⟩
  field₃ := ⟨"00000000".toList, "  ".toList⟩
  number₁ := ⟨"1000".toList, "        ".toList⟩
  number₂ := ⟨['0'], [' ']⟩
  inode := Nat.toDigits 10 inode
  tail := " 1 0000000000000000 100 0 0 10 0\n".toList

variable (slot : Nat) (la : String) (lport : Nat) (ra : String) (rport state inode : Nat)

theorem kernel_text : (kernelLine slot la lport ra rport state inode).toList =
    (kernel slot la lport ra rport state inode).text := by
  unfold kernelLine
  simp only [String.toList_append]
  simp only [kernel, text, Spaced.text, String.reduceToList, String.toList_ofList, Nat.toString_eq_repr,
    Nat.toList_repr, List.append_assoc, List.cons_append, List.nil_append]

theorem kernel_valid (hla : IsRun isHexChar la.toList) (hra : IsRun isHexChar ra.toList) :
    (kernel slot la lport ra rport state inode).Valid where
  lead := by simp [kernel, List.mem_replicate, isBlank_space]
  slot := decimal_run_toDigits slot
  gap := by dsimp only [kernel]; decide +kernel
  localAddr := hla
  localPort := Spaced.valid_mk (upperHex_run 4 lport) (by decide +kernel)
  remoteAddr := hra
  remotePort := Spaced.valid_mk (upperHex_run 4 rport) (by decide +kernel)
  state := Spaced.valid_mk (upperHex_run 2 state) (by decide +kernel)
  field₁ := by dsimp only [kernel]; decide +kernel
  field₂ := by dsimp only [kernel]; decide +kernel
  field₃ := by dsimp only [kernel]; decide +kernel
  number₁ := by dsimp only [kernel]; decide +kernel
  number₂ := by dsimp only [kernel]; decide +kernel
  inode := decimal_run_toDigits inode
  tail := by dsimp only [kernel]; decide +kernel

end SocketLine

theorem ofLine_kernelLine (p : String) (c : Bool) (slot : Nat) {la ra : String}
    (lport rport state inode : Nat) (hla : ∀ x ∈ la.toList, isHexChar x = true)
    (hlw : la.length = addressWidth p) (hra : ∀ x ∈ ra.toList, isHexChar x = true)
    (hrw : ra.length = addressWidth p) (hino : (toString inode).length ≤ maxNumeralDigits) :
    ∃ r, SocketRecord.ofLine (kernelLine slot la lport ra rport state inode) p c = some r ∧
      r.protocol = p ∧ decodeAddress la p c = .ok r.localAddr ∧ r.localPort = lport ∧
      decodeAddress ra p c = .ok r.remoteAddr ∧ r.remotePort = rport ∧ r.state = state ∧
      r.inode = inode := by
  have hwidth : 0 < addressWidth p := by unfold addressWidth; split <;> omega
  have hla' : IsRun isHexChar la.toList :=
    ⟨by rw [← List.length_pos_iff, String.length_toList]; omega, hla⟩
  have hra' : IsRun isHexChar ra.toList :=
    ⟨by rw [← List.length_pos_iff, String.length_toList]; omega, hra⟩
  obtain ⟨la', hdl⟩ : ∃ a, decodeAddress la p c = .ok a :=
    ⟨_, String.ofList_toList (s := la) ▸ decodeAddress_run hla' p c⟩
  obtain ⟨ra', hdr⟩ : ∃ a, decodeAddress ra p c = .ok a :=
    ⟨_, String.ofList_toList (s := ra) ▸ decodeAddress_run hra' p c⟩
  have hl := SocketLine.kernel_valid slot la lport ra rport state inode hla' hra'
  have hread : SocketRecord.ofLine _ p c = some ⟨p, la', lport, ra', rport, state, inode⟩ ↔ _ :=
    SocketLine.ofLine_iff hl (SocketLine.kernel_text slot la lport ra rport state inode) _
  refine ⟨_, hread.mpr ⟨?_, ?_, ?_, ?_⟩, rfl, hdl, rfl, hdr, rfl, rfl, rfl⟩ <;>
    dsimp only [SocketLine.kernel]
  · rwa [String.length_toList]
  · rwa [String.length_toList]
  · rwa [← String.length_toList, Nat.toString_eq_repr, Nat.toList_repr] at hino
  · refine ⟨rfl, ?_, ?_, ?_, ?_, ?_, ?_⟩ <;> dsimp only
    · rwa [String.ofList_toList]
    · rw [digitsValue_upperHex]
    · rwa [String.ofList_toList]
    · rw [digitsValue_upperHex]
    · rw [digitsValue_upperHex]
    · rw [digitsValue_decimal_toDigits]

/-- The socket table reader accepts exactly the lines of the socket line grammar and reads
each as the socket it describes; a line the kernel writes is read back field for field, and a
table keeps the records of its accepted lines in order. -/
theorem socket_line_grammar :
    (∀ (line p : String) (c : Bool) (r : SocketRecord), SocketRecord.ofLine line p c = some r ↔
      ∃ l : SocketLine, l.Valid ∧ line.toList = l.text ∧ l.localAddr.length = addressWidth p ∧
        l.remoteAddr.length = addressWidth p ∧ l.inode.length ≤ maxNumeralDigits ∧
        l.Describes p c r) ∧
    (∀ (p : String) (c : Bool) (slot : Nat) (la ra : String) (lport rport state inode : Nat),
      (∀ x ∈ la.toList, isHexChar x = true) → la.length = addressWidth p →
      (∀ x ∈ ra.toList, isHexChar x = true) → ra.length = addressWidth p →
      (toString inode).length ≤ maxNumeralDigits →
      ∃ r, SocketRecord.ofLine (kernelLine slot la lport ra rport state inode) p c = some r ∧
        r.protocol = p ∧ decodeAddress la p c = .ok r.localAddr ∧ r.localPort = lport ∧
        decodeAddress ra p c = .ok r.remoteAddr ∧ r.remotePort = rport ∧ r.state = state ∧
        r.inode = inode) ∧
    (∀ (lines : List String) (p : String) (c : Bool),
      SocketRecord.ofLines lines p c = lines.filterMap (SocketRecord.ofLine · p c)) :=
  ⟨fun _ _ _ _ => ofLine_eq_some_iff,
   fun p c slot _ _ lport rport state inode hla hlw hra hrw hino =>
     ofLine_kernelLine p c slot lport rport state inode hla hlw hra hrw hino,
   fun _ _ _ => rfl⟩

end HostSurvey
