import Mathlib.Data.Nat.Digits.Defs
import HostSurvey.Proofs.LineGrammar

/-!
The text of a kernel IPv6 address field.
-/

namespace HostSurvey

/-- The `l` groups from position `s` on are all zero. -/
def IsZeroRun (gs : List Nat) (s l : Nat) : Prop :=
  s + l ≤ gs.length ∧ ∀ i, s ≤ i → i < s + l → gs[i]? = some 0

/-- The run of zero groups that RFC 5952 (section 4.2.3) writes as `::`, when it is at least
two groups long: a longest run, and the leftmost of the longest. -/
structure IsLeftmostLongestRun (gs : List Nat) (s l : Nat) : Prop where
  run : IsZeroRun gs s l
  longest : ∀ s' l', IsZeroRun gs s' l' → l' ≤ l
  leftmost : ∀ s', 0 < l → IsZeroRun gs s' l → s ≤ s'

namespace IsZeroRun

variable {xs : List Nat} {s l : Nat}

theorem empty_at_end : IsZeroRun xs xs.length 0 :=
  ⟨by omega, fun _ _ _ => by omega⟩

theorem append (h : IsZeroRun xs s l) (ys : List Nat) : IsZeroRun (xs ++ ys) s l := by
  have hlen := h.1
  refine ⟨by simp; omega, fun i hi hil => ?_⟩
  rw [List.getElem?_append_left (by omega)]
  exact h.2 i hi hil

theorem of_append (h : IsZeroRun (xs ++ [g]) s l) (hl : s + l ≤ xs.length) :
    IsZeroRun xs s l := by
  refine ⟨hl, fun i hi hil => ?_⟩
  have hi' := h.2 i hi hil
  rwa [List.getElem?_append_left (by omega)] at hi'

theorem snoc_zero (h : IsZeroRun xs s l) (hend : s + l = xs.length) :
    IsZeroRun (xs ++ [0]) s (l + 1) := by
  refine ⟨by simp; omega, fun i hi hil => ?_⟩
  by_cases hix : i < xs.length
  · rw [List.getElem?_append_left hix]
    exact h.2 i hi (by omega)
  · rw [List.getElem?_append_right (by omega)]
    simp [show i - xs.length = 0 by omega]

/-- A run that reaches the new last group is a run of zeros ending where the old list ends,
followed by a zero. -/
theorem of_snoc (h : IsZeroRun (xs ++ [g]) s (l + 1)) (hend : s + l = xs.length) :
    g = 0 ∧ IsZeroRun xs s l := by
  refine ⟨?_, by omega, fun i hi hil => ?_⟩
  · have hlast := h.2 xs.length (by omega) (by omega)
    simpa using hlast
  · have hi' := h.2 i hi (by omega)
    rwa [List.getElem?_append_left (by omega)] at hi'

theorem le_length_succ (h : IsZeroRun (xs ++ [g]) s l) : s + l ≤ xs.length + 1 := by
  simpa using h.1

end IsZeroRun

/-- What the scan of `zeroRunStep` knows after the groups `seen`: their number, the current
run (the zero groups that end the list, at their longest) and the leftmost longest run. -/
structure ZeroRunScan (seen : List Nat) (st : (Nat × Nat) × (Nat × Nat) × Nat) : Prop where
  count : st.2.2 = seen.length
  current : IsZeroRun seen st.2.1.1 st.2.1.2
  currentEnds : 0 < st.2.1.2 → st.2.1.1 + st.2.1.2 = seen.length
  currentLongest : ∀ s l, IsZeroRun seen s l → s + l = seen.length → l ≤ st.2.1.2
  best : IsLeftmostLongestRun seen st.1.1 st.1.2

theorem zeroRunScan_start : ZeroRunScan [] ((0, 0), (0, 0), 0) where
  count := rfl
  current := IsZeroRun.empty_at_end
  currentEnds := fun h => absurd h (by decide)
  currentLongest := fun _ _ h _ => by have := h.1; simp at this; omega
  best := ⟨IsZeroRun.empty_at_end, fun _ _ h => by have := h.1; simp at this; omega,
    fun _ h => absurd h (by decide)⟩

namespace ZeroRunScan

variable {seen : List Nat} {st : (Nat × Nat) × (Nat × Nat) × Nat}

/-- A run that reaches a new group is at most one longer than the current run, and empty when
the new group is not zero. -/
theorem reaching_le (h : ZeroRunScan seen st) {g s l : Nat} (hr : IsZeroRun (seen ++ [g]) s l)
    (he : s + l = seen.length + 1) : l ≤ st.2.1.2 + 1 ∧ (g ≠ 0 → l = 0) := by
  cases l with
  | zero => exact ⟨by omega, fun _ => rfl⟩
  | succ l =>
    obtain ⟨hg, hrun⟩ := hr.of_snoc (by omega)
    exact ⟨by have := h.currentLongest s l hrun (by omega); omega, fun hne => absurd hg hne⟩

theorem run_cases {g s l : Nat} (hr : IsZeroRun (seen ++ [g]) s l) :
    IsZeroRun seen s l ∨ s + l = seen.length + 1 := by
  have := hr.le_length_succ
  by_cases hin : s + l ≤ seen.length
  · exact .inl (hr.of_append hin)
  · exact .inr (by omega)

end ZeroRunScan

theorem zeroRunScan_step {seen : List Nat} {st : (Nat × Nat) × (Nat × Nat) × Nat}
    (h : ZeroRunScan seen st) (g : Nat) : ZeroRunScan (seen ++ [g]) (zeroRunStep st g) := by
  obtain ⟨⟨bs, bl⟩, ⟨cs, cl⟩, i⟩ := st
  have hreach := fun {s l} => h.reaching_le (g := g) (s := s) (l := l)
  obtain ⟨hcount, hcur, hends, -, ⟨hbest, hlongest, hleftmost⟩⟩ := h
  dsimp only at hcount hcur hends hbest hlongest hleftmost hreach
  have hlen : (seen ++ [g]).length = seen.length + 1 := by simp
  have hbestFits := hbest.1
  by_cases hg : g = 0
  · subst hg
    -- the current run grows by the new zero group
    have hnew : IsZeroRun (seen ++ [0]) (if cl = 0 then i else cs) (cl + 1) := by
      split
      · next h0 => subst h0; rw [hcount]; exact IsZeroRun.empty_at_end.snoc_zero rfl
      · next h0 => exact hcur.snoc_zero (hends (by omega))
    have hnewEnds : (if cl = 0 then i else cs) + (cl + 1) = seen.length + 1 := by
      split
      · omega
      · have := hends (by omega); omega
    by_cases hlt : bl < cl + 1
    · simp only [zeroRunStep, if_true, hlt]
      refine ⟨?_, hnew, fun _ => ?_, fun s l hr he => ?_, hnew, fun s l hr => ?_,
        fun s _ hr => ?_⟩ <;> dsimp only at *
      · simp [hcount]
      · rw [hlen]; exact hnewEnds
      · exact (hreach hr (hlen ▸ he)).1
      · rcases ZeroRunScan.run_cases hr with hin | he
        · have := hlongest s l hin; omega
        · exact (hreach hr he).1
      · rcases ZeroRunScan.run_cases hr with hin | he
        · have := hlongest s _ hin; omega
        · omega
    · simp only [zeroRunStep, if_true, hlt, if_false]
      refine ⟨?_, hnew, fun _ => ?_, fun s l hr he => ?_, hbest.append _, fun s l hr => ?_,
        fun s hpos hr => ?_⟩ <;> dsimp only at *
      · simp [hcount]
      · rw [hlen]; exact hnewEnds
      · exact (hreach hr (hlen ▸ he)).1
      · rcases ZeroRunScan.run_cases hr with hin | he
        · exact hlongest s l hin
        · have := (hreach hr he).1; omega
      · rcases ZeroRunScan.run_cases hr with hin | he
        · exact hleftmost s hpos hin
        · omega
  · simp only [zeroRunStep, hg, if_false]
    refine ⟨?_, ?_, fun h0 => ?_, fun s l hr he => ?_, hbest.append _, fun s l hr => ?_,
      fun s hpos hr => ?_⟩ <;> dsimp only at *
    · simp [hcount]
    · exact ⟨by simp, fun _ _ _ => by omega⟩
    · omega
    · simp [(hreach hr (hlen ▸ he)).2 hg]
    · rcases ZeroRunScan.run_cases hr with hin | he
      · exact hlongest s l hin
      · simp [(hreach hr he).2 hg]
    · rcases ZeroRunScan.run_cases hr with hin | he
      · exact hleftmost s hpos hin
      · have := (hreach hr he).2 hg; omega

theorem zeroRunScan_foldl (gs : List Nat) :
    ∀ {seen : List Nat} {st : (Nat × Nat) × (Nat × Nat) × Nat}, ZeroRunScan seen st →
      ZeroRunScan (seen ++ gs) (gs.foldl zeroRunStep st) := by
  induction gs with
  | nil => intro seen st h; simpa using h
  | cons g gs ih =>
    intro seen st h
    simpa using ih (zeroRunScan_step h g)

theorem longestZeroRun_spec (gs : List Nat) :
    IsLeftmostLongestRun gs (longestZeroRun gs).1 (longestZeroRun gs).2 := by
  simpa [longestZeroRun] using (zeroRunScan_foldl gs zeroRunScan_start).best

/-! ### Digits and bytes of a field -/

/-- A kernel IPv6 address field: thirty-two ASCII hexadecimal digits of either case. -/
def IsIpv6Field (h : String) : Prop := h.length = 32 ∧ ∀ c ∈ h.toList, isHexChar c = true

/-- The value of the hexadecimal digit at position `i`, zero where there is none. -/
def hexDigitAt (cs : List Char) (i : Nat) : Nat := (cs[i]?.bind hexDigitValue).getD 0

/-- The byte spelled by the `k`-th pair of hexadecimal digits. -/
def hexPairAt (cs : List Char) (k : Nat) : Nat := hexDigitAt cs (2 * k) * 16 + hexDigitAt cs (2 * k + 1)

/-- The sixteen bytes of a field of four words, each word's four bytes in reverse order. -/
def wordSwappedBytes (cs : List Char) : List Nat :=
  (List.range 16).map fun k => hexPairAt cs (k / 4 * 4 + (3 - k % 4))

theorem hexDigitValue_lt {c : Char} {d : Nat} (h : hexDigitValue c = some d) : d < 16 := by
  obtain ⟨d', hd', -, h'⟩ := hex_digit (c := c) (by simp [isHexChar, h])
  rw [h] at h'
  cases h'
  exact hd'

theorem hexDigitAt_lt (cs : List Char) (i : Nat) : hexDigitAt cs i < 16 := by
  unfold hexDigitAt
  cases h : cs[i]?.bind hexDigitValue with
  | none => decide
  | some d =>
    obtain ⟨c, -, hc⟩ := Option.bind_eq_some_iff.mp h
    exact hexDigitValue_lt hc

theorem hexPairAt_lt (cs : List Char) (k : Nat) : hexPairAt cs k < 256 := by
  have := hexDigitAt_lt cs (2 * k)
  have := hexDigitAt_lt cs (2 * k + 1)
  unfold hexPairAt
  omega

theorem hexPairAt_cons_cons (a b : Char) (rest : List Char) (k : Nat) :
    hexPairAt (a :: b :: rest) (k + 1) = hexPairAt rest k := by
  simp [hexPairAt, hexDigitAt, Nat.mul_succ]

theorem hexBytes_of_hex {cs : List Char} (hcs : ∀ c ∈ cs, isHexChar c = true)
    (heven : cs.length % 2 = 0) :
    hexBytes cs = some ((List.range (cs.length / 2)).map (hexPairAt cs)) := by
  fun_induction hexBytes cs with
  | case1 => rfl
  | case2 a b rest ih =>
    obtain ⟨x, -, -, hx⟩ := hex_digit (hcs a (by simp))
    obtain ⟨y, -, -, hy⟩ := hex_digit (hcs b (by simp))
    have hrest := ih (fun c hc => hcs c (by simp [hc])) (by simp at heven; omega)
    have hlen : (a :: b :: rest).length / 2 = rest.length / 2 + 1 := by simp; omega
    have h0 : hexPairAt (a :: b :: rest) 0 = x * 16 + y := by simp [hexPairAt, hexDigitAt, hx, hy]
    have hs : hexPairAt (a :: b :: rest) ∘ Nat.succ = hexPairAt rest :=
      funext (hexPairAt_cons_cons a b rest)
    rw [hlen, List.range_succ_eq_map, List.map_cons, List.map_map, hs, h0]
    simp [hx, hy, hrest]
  | case3 c => simp at heven

theorem hexBytes_eq_none {cs : List Char} (h : ∃ c ∈ cs, isHexChar c = false) :
    hexBytes cs = none := by
  fun_induction hexBytes cs with
  | case1 => simp at h
  | case2 a b rest ih =>
    obtain ⟨c, hc, hbad⟩ := h
    have hnone : ∀ {c}, isHexChar c = false → hexDigitValue c = none := by
      intro c hc
      simpa [isHexChar] using hc
    rcases List.mem_cons.mp hc with rfl | hc
    · simp [hnone hbad]
    rcases List.mem_cons.mp hc with rfl | hc
    · cases hexDigitValue a <;> simp [hnone hbad]
    · cases hexDigitValue a <;> cases hexDigitValue b <;> simp [ih ⟨c, hc, hbad⟩]
  | case3 c => rfl

theorem swapWords_range (f : Nat → Nat) :
    (List.range 4).flatMap (fun w => ((((List.range 16).map f).drop (4 * w)).take 4).reverse) =
      (List.range 16).map fun k => f (k / 4 * 4 + (3 - k % 4)) := by
  rfl

theorem ipv6Bytes_of_field {h : String} (hf : IsIpv6Field h) :
    ipv6Bytes h = some (wordSwappedBytes h.toList) := by
  have hlen : h.toList.length = 32 := by rw [String.length_toList]; exact hf.1
  unfold ipv6Bytes
  rw [if_neg (by rw [hf.1]; decide), hexBytes_of_hex hf.2 (by rw [hlen]), hlen]
  simp only [Option.map_some]
  rw [swapWords_range]
  rfl

theorem ipv6Bytes_eq_none {h : String} (hf : ¬ IsIpv6Field h) : ipv6Bytes h = none := by
  unfold ipv6Bytes
  by_cases hlen : h.length = 32
  · rw [if_neg (by rw [hlen]; decide)]
    have hbad : ∃ c ∈ h.toList, isHexChar c = false := by
      by_contra hall
      refine hf ⟨hlen, fun c hc => ?_⟩
      cases hx : isHexChar c
      · exact absurd ⟨c, hc, hx⟩ hall
      · rfl
    rw [hexBytes_eq_none hbad]
    rfl
  · rw [if_pos hlen]

/-! ### The text of an address and reading it back -/

/-- The text of a group: its lowercase hexadecimal numeral, without leading zeros. -/
def groupText (g : Nat) : String := String.ofList (Nat.toDigits 16 g)

/-- Groups written with the run of `l` zero groups from `s` shortened to `::` when it is at least
two groups long (RFC 5952, section 4). -/
def compressedText (gs : List Nat) (s l : Nat) : String :=
  let texts := gs.map groupText
  if l < 2 then String.intercalate ":" texts
  else String.intercalate ":" (texts.take s) ++ "::" ++ String.intercalate ":" (texts.drop (s + l))

/-- Reads a group of one to four hexadecimal digits of either case. -/
def readGroup (cs : List Char) : Option Nat :=
  if cs ≠ [] ∧ cs.length ≤ 4 ∧ cs.all isHexChar then some (digitsValue 16 hexDigitValue cs)
  else none

/-- Reads groups separated by single colons; the empty text holds none. -/
def readGroups (cs : List Char) : Option (List Nat) :=
  if cs = [] then some [] else (cs.splitOn ':').mapM readGroup

/-- The text before and after the first `::`. -/
def splitAtDoubleColon : List Char → Option (List Char × List Char)
  | ':' :: ':' :: rest => some ([], rest)
  | c :: rest => (splitAtDoubleColon rest).map fun p => (c :: p.1, p.2)
  | [] => none

/-- The bytes of groups, two for each, the high byte first. -/
def bytesOfGroups (gs : List Nat) : List Nat := gs.flatMap fun g => [g / 256, g % 256]

/-- Reads an IPv6 address in the text form of RFC 4291 (section 2.2, without an embedded IPv4
address): eight groups, or fewer around one `::` that stands for at least one zero group. -/
def readIpv6 (text : String) : Option (List Nat) :=
  match splitAtDoubleColon text.toList with
  | none => do
    let gs ← (text.toList.splitOn ':').mapM readGroup
    if gs.length = 8 then some (bytesOfGroups gs) else none
  | some (hi, lo) => do
    let a ← readGroups hi
    let b ← readGroups lo
    if a.length + b.length < 8 then
      some (bytesOfGroups (a ++ List.replicate (8 - (a.length + b.length)) 0 ++ b))
    else none

theorem ipv6Text_eq_compressedText (gs : List Nat) :
    ipv6Text gs = compressedText gs (longestZeroRun gs).1 (longestZeroRun gs).2 := rfl

theorem toDigits_ne_colon (g : Nat) : ':' ∉ Nat.toDigits 16 g := by
  intro h
  obtain ⟨d, hd, hc⟩ := mem_toDigits (by decide) h
  have : ∀ d, d < 16 → Nat.digitChar d ≠ ':' := by decide
  exact this d hd hc.symm

theorem readGroup_toDigits {g : Nat} (hg : g < 65536) : readGroup (Nat.toDigits 16 g) = some g := by
  have hlen : (Nat.toDigits 16 g).length ≤ 4 := Nat.toDigits_length 16 g 4 (by decide) (by omega)
  have hhex : (Nat.toDigits 16 g).all isHexChar = true := by
    rw [List.all_eq_true]
    intro c hc
    obtain ⟨d, hd, rfl⟩ := mem_toDigits (by decide) hc
    have : ∀ d, d < 16 → isHexChar (Nat.digitChar d) = true := by decide
    exact this d hd
  have hvalue : ∀ d, d < 16 → hexDigitValue (Nat.digitChar d) = some d := by decide
  simp only [readGroup, hlen, hhex, Nat.toDigits_ne_nil, ne_eq, not_false_eq_true, and_self,
    if_true, digitsValue_toDigits (by decide) hvalue]

theorem splitAtDoubleColon_cons_of_ne {c : Char} (hc : c ≠ ':') (rest : List Char) :
    splitAtDoubleColon (c :: rest) = (splitAtDoubleColon rest).map fun p => (c :: p.1, p.2) := by
  rw [splitAtDoubleColon]
  intro r hcolon
  exact absurd hcolon hc

theorem splitAtDoubleColon_colon_cons {rest : List Char} (hd : rest.head? ≠ some ':') :
    splitAtDoubleColon (':' :: rest) = (splitAtDoubleColon rest).map fun p => (':' :: p.1, p.2) := by
  cases rest with
  | nil => rfl
  | cons d rest =>
    rw [splitAtDoubleColon]
    intro r _ h
    exact hd (by simp [(List.cons.inj h).1])

theorem splitAtDoubleColon_word_append {w : List Char} (hw : ':' ∉ w) (tail : List Char) :
    splitAtDoubleColon (w ++ tail) = (splitAtDoubleColon tail).map fun p => (w ++ p.1, p.2) := by
  induction w with
  | nil => simp
  | cons c w ih =>
    have hc : c ≠ ':' := fun h => hw (h ▸ List.mem_cons_self)
    rw [List.cons_append, splitAtDoubleColon_cons_of_ne hc, ih (fun h => hw (List.mem_cons_of_mem _ h)),
      Option.map_map]
    rfl

theorem head?_intercalate_cons_append {w : List Char} (hw : w ≠ []) (ws : List (List Char))
    (tail : List Char) : ([':'].intercalate (w :: ws) ++ tail).head? = w.head? := by
  cases ws <;> cases w <;> simp_all [List.intercalate_cons_cons]

theorem splitAtDoubleColon_intercalate_append {ws : List (List Char)}
    (hws : ∀ w ∈ ws, w ≠ [] ∧ ':' ∉ w) (tail : List Char) :
    splitAtDoubleColon ([':'].intercalate ws ++ tail) =
      (splitAtDoubleColon tail).map fun p => ([':'].intercalate ws ++ p.1, p.2) := by
  induction ws with
  | nil => simp
  | cons w ws ih =>
    cases ws with
    | nil => simpa using splitAtDoubleColon_word_append (hws w (by simp)).2 tail
    | cons w' ws' =>
      obtain ⟨hw'ne, hw'colon⟩ := hws w' (by simp)
      have hhead : ([':'].intercalate (w' :: ws') ++ tail).head? ≠ some ':' := by
        rw [head?_intercalate_cons_append hw'ne]
        intro h
        exact hw'colon (List.mem_of_mem_head? h)
      have hsplit : [':'].intercalate (w :: w' :: ws') ++ tail =
          w ++ ':' :: ([':'].intercalate (w' :: ws') ++ tail) := by
        simp [List.intercalate_cons_cons]
      rw [hsplit, splitAtDoubleColon_word_append (hws w (by simp)).2,
        splitAtDoubleColon_colon_cons hhead, ih (fun v hv => hws v (List.mem_cons_of_mem _ hv))]
      simp [Option.map_map, Function.comp_def, List.intercalate_cons_cons]

theorem mapM_readGroup {gs : List Nat} (hg : ∀ g ∈ gs, g < 65536) :
    (gs.map (Nat.toDigits 16)).mapM readGroup = some gs := by
  induction gs with
  | nil => rfl
  | cons g gs ih =>
    simp [List.mapM_cons, readGroup_toDigits (hg g (by simp)),
      ih (fun x hx => hg x (List.mem_cons_of_mem _ hx))]

theorem numeral_words (gs : List Nat) : ∀ w ∈ gs.map (Nat.toDigits 16), w ≠ [] ∧ ':' ∉ w := by
  simp only [List.mem_map]
  rintro w ⟨g, -, rfl⟩
  exact ⟨Nat.toDigits_ne_nil, toDigits_ne_colon g⟩

theorem splitOn_numerals {gs : List Nat} (hne : gs ≠ []) :
    ([':'].intercalate (gs.map (Nat.toDigits 16))).splitOn ':' = gs.map (Nat.toDigits 16) :=
  List.splitOn_intercalate ':' (fun w hw => (numeral_words gs w hw).2) (by simpa using hne)

theorem readGroups_numerals {gs : List Nat} (hg : ∀ g ∈ gs, g < 65536) :
    readGroups ([':'].intercalate (gs.map (Nat.toDigits 16))) = some gs := by
  cases gs with
  | nil => rfl
  | cons g gs' =>
    have hne : [':'].intercalate ((g :: gs').map (Nat.toDigits 16)) ≠ [] := by
      intro h
      have hhead := head?_intercalate_cons_append (Nat.toDigits_ne_nil (b := 16) (n := g))
        (gs'.map (Nat.toDigits 16)) []
      rw [List.append_nil, ← List.map_cons, h] at hhead
      cases hd : Nat.toDigits 16 g with
      | nil => exact Nat.toDigits_ne_nil hd
      | cons c cs => simp [hd] at hhead
    rw [readGroups, if_neg hne, splitOn_numerals (List.cons_ne_nil g gs'), mapM_readGroup hg]

theorem toList_compressedText (gs : List Nat) (s l : Nat) :
    (compressedText gs s l).toList =
      if l < 2 then [':'].intercalate (gs.map (Nat.toDigits 16))
      else [':'].intercalate ((gs.take s).map (Nat.toDigits 16)) ++
        ':' :: ':' :: [':'].intercalate ((gs.drop (s + l)).map (Nat.toDigits 16)) := by
  unfold compressedText
  split <;> simp [groupText, ← List.map_take, ← List.map_drop, Function.comp_def]

theorem take_replicate_drop {gs : List Nat} {s l : Nat} (hrun : IsZeroRun gs s l) :
    gs.take s ++ List.replicate l 0 ++ gs.drop (s + l) = gs := by
  have hmid : (gs.drop s).take l = List.replicate l 0 := by
    rw [List.eq_replicate_iff]
    refine ⟨by have := hrun.1; simp; omega, fun x hx => ?_⟩
    obtain ⟨i, hi⟩ := List.mem_iff_getElem?.mp hx
    rw [List.getElem?_take] at hi
    split at hi
    · rw [List.getElem?_drop, hrun.2 (s + i) (by omega) (by omega)] at hi
      exact (Option.some.inj hi).symm
    · cases hi
  calc gs.take s ++ List.replicate l 0 ++ gs.drop (s + l)
      = gs.take s ++ ((gs.drop s).take l ++ (gs.drop s).drop l) := by
        rw [hmid, List.drop_drop, List.append_assoc, Nat.add_comm]
    _ = gs := by rw [List.take_append_drop, List.take_append_drop]

/-- The text of eight groups, with any run of zero groups shortened, reads back as their
bytes. -/
theorem readIpv6_compressedText {gs : List Nat} {s l : Nat} (hlen : gs.length = 8)
    (hg : ∀ g ∈ gs, g < 65536) (hrun : IsZeroRun gs s l) :
    readIpv6 (compressedText gs s l) = some (bytesOfGroups gs) := by
  unfold readIpv6
  rw [toList_compressedText]
  by_cases hl : l < 2
  · have hnone : splitAtDoubleColon ([':'].intercalate (gs.map (Nat.toDigits 16))) = none := by
      simpa [splitAtDoubleColon] using splitAtDoubleColon_intercalate_append (numeral_words gs) []
    have hne : gs ≠ [] := fun h => by simp [h] at hlen
    simp [hl, hnone, splitOn_numerals hne, mapM_readGroup hg, hlen]
  · have hsplit := splitAtDoubleColon_intercalate_append (numeral_words (gs.take s))
      (':' :: ':' :: [':'].intercalate ((gs.drop (s + l)).map (Nat.toDigits 16)))
    have hfits := hrun.1
    have hab : (gs.take s).length + (gs.drop (s + l)).length = 8 - l := by simp; omega
    rw [if_neg hl, hsplit, splitAtDoubleColon]
    simp only [Option.map_some, List.append_nil, Option.bind_eq_bind,
      readGroups_numerals (fun g hg' => hg g (List.mem_of_mem_take hg')),
      readGroups_numerals (fun g hg' => hg g (List.mem_of_mem_drop hg')), Option.bind_some, hab,
      show 8 - (8 - l) = l by omega, take_replicate_drop hrun]
    rw [if_pos (by omega)]

/-! ### Bytes, groups and case -/

theorem groupsOfBytes_range (f : Nat → Nat) :
    groupsOfBytes ((List.range 16).map f) =
      (List.range 8).map fun g => f (2 * g) * 256 + f (2 * g + 1) := by
  unfold groupsOfBytes
  apply List.map_congr_left
  intro g hg
  have hg8 : g < 8 := List.mem_range.mp hg
  simp [List.getD_eq_getElem?_getD, List.getElem?_range (show 2 * g < 16 by omega),
    List.getElem?_range (show 2 * g + 1 < 16 by omega)]

theorem bytesOfGroups_groupsOfBytes {f : Nat → Nat} (hf : ∀ k, f k < 256) :
    bytesOfGroups (groupsOfBytes ((List.range 16).map f)) = (List.range 16).map f := by
  have hdiv : ∀ g, (f (2 * g) * 256 + f (2 * g + 1)) / 256 = f (2 * g) ∧
      (f (2 * g) * 256 + f (2 * g + 1)) % 256 = f (2 * g + 1) := fun g => by
    have := hf (2 * g + 1)
    omega
  rw [groupsOfBytes_range]
  simp only [bytesOfGroups, List.flatMap_map, hdiv]
  rfl

theorem groupsOfBytes_lt {f : Nat → Nat} (hf : ∀ k, f k < 256) :
    ∀ g ∈ groupsOfBytes ((List.range 16).map f), g < 65536 := by
  rw [groupsOfBytes_range]
  simp only [List.mem_map]
  rintro g ⟨i, -, rfl⟩
  have := hf (2 * i)
  have := hf (2 * i + 1)
  omega

theorem hexDigitValue_toLower (c : Char) : hexDigitValue c.toLower = hexDigitValue c := by
  by_cases hc : c.toNat < 128
  · have hascii : ∀ n, n < 128 →
        hexDigitValue (Char.ofNat n).toLower = hexDigitValue (Char.ofNat n) := by decide
    simpa [Char.ofNat_toNat] using hascii c.toNat hc
  · -- case mapping leaves a character beyond ASCII alone
    have hkeep : c.toLower = c := by
      unfold Char.toLower
      rw [dif_neg]
      rintro ⟨-, hz⟩
      have h90 : c.val.toNat ≤ 90 := UInt32.le_iff_toNat_le.mp hz
      exact hc (show c.val.toNat < 128 by omega)
    rw [hkeep]

theorem toLower_of_hex {c : Char} (hc : isHexChar c = true) :
    c.toLower = Nat.digitChar ((hexDigitValue c).getD 0) :=
  isHexChar_cases (fun c => c.toLower = Nat.digitChar ((hexDigitValue c).getD 0)) (by decide) hc

theorem hexDigitAt_map_toLower (cs : List Char) (i : Nat) :
    hexDigitAt (cs.map Char.toLower) i = hexDigitAt cs i := by
  unfold hexDigitAt
  rw [List.getElem?_map]
  cases cs[i]? <;> simp [hexDigitValue_toLower]

theorem wordSwappedBytes_map_toLower (cs : List Char) :
    wordSwappedBytes (cs.map Char.toLower) = wordSwappedBytes cs := by
  simp [wordSwappedBytes, hexPairAt, hexDigitAt_map_toLower]

theorem getElem?_map_toLower_of_hex {cs : List Char} (hcs : ∀ c ∈ cs, isHexChar c = true)
    (i : Nat) : (cs.map Char.toLower)[i]? = cs[i]?.map fun _ => Nat.digitChar (hexDigitAt cs i) := by
  rw [List.getElem?_map]
  cases hc : cs[i]? with
  | none => rfl
  | some c =>
    simp [hexDigitAt, hc, toLower_of_hex (hcs c (List.mem_of_getElem? hc))]

theorem getElem?_wordSwappedBytes (cs : List Char) {j : Nat} (hj : j < 16) :
    (wordSwappedBytes cs)[j]? = some (hexPairAt cs (j / 4 * 4 + (3 - j % 4))) := by
  simp [wordSwappedBytes, hj]

theorem hexPairAt_eq_of_wordSwapped {cs cs' : List Char}
    (h : wordSwappedBytes cs = wordSwappedBytes cs') {k : Nat} (hk : k < 16) :
    hexPairAt cs k = hexPairAt cs' k := by
  -- reversing the bytes of a word twice puts each byte back
  have hback : (k / 4 * 4 + (3 - k % 4)) / 4 * 4 + (3 - (k / 4 * 4 + (3 - k % 4)) % 4) = k := by
    omega
  have h1 := getElem?_wordSwappedBytes cs (show k / 4 * 4 + (3 - k % 4) < 16 by omega)
  have h2 := getElem?_wordSwappedBytes cs' (show k / 4 * 4 + (3 - k % 4) < 16 by omega)
  rw [hback] at h1 h2
  rw [h] at h1
  exact Option.some.inj (h1.symm.trans h2)

theorem hexDigitAt_eq_of_hexPairAt {cs cs' : List Char}
    (h : ∀ k < 16, hexPairAt cs k = hexPairAt cs' k) {i : Nat} (hi : i < 32) :
    hexDigitAt cs i = hexDigitAt cs' i := by
  obtain ⟨k, hk | hk⟩ : ∃ k, i = 2 * k ∨ i = 2 * k + 1 := ⟨i / 2, by omega⟩ <;>
  · have hpair := h k (by omega)
    have := hexDigitAt_lt cs (2 * k)
    have := hexDigitAt_lt cs (2 * k + 1)
    have := hexDigitAt_lt cs' (2 * k)
    have := hexDigitAt_lt cs' (2 * k + 1)
    unfold hexPairAt at hpair
    subst hk
    omega

theorem toLower_eq_of_wordSwapped {h h' : String} (hf : IsIpv6Field h) (hf' : IsIpv6Field h')
    (hw : wordSwappedBytes h.toList = wordSwappedBytes h'.toList) : h.toLower = h'.toLower := by
  have hlen : h.toList.length = 32 := by rw [String.length_toList]; exact hf.1
  have hlen' : h'.toList.length = 32 := by rw [String.length_toList]; exact hf'.1
  rw [← String.toList_inj]
  show (h.map Char.toLower).toList = (h'.map Char.toLower).toList
  rw [String.toList_map, String.toList_map]
  apply List.ext_getElem?
  intro i
  rw [getElem?_map_toLower_of_hex hf.2, getElem?_map_toLower_of_hex hf'.2]
  by_cases hi : i < 32
  · rw [hexDigitAt_eq_of_hexPairAt (fun k hk => hexPairAt_eq_of_wordSwapped hw hk) hi,
      List.getElem?_eq_getElem (by omega), List.getElem?_eq_getElem (by omega)]
    rfl
  · rw [List.getElem?_eq_none (by omega), List.getElem?_eq_none (by omega)]
    rfl

theorem wordSwappedBytes_eq_of_toLower {h h' : String} (hlow : h.toLower = h'.toLower) :
    wordSwappedBytes h.toList = wordSwappedBytes h'.toList := by
  have hmap : h.toList.map Char.toLower = h'.toList.map Char.toLower := by
    rw [← String.toList_map, ← String.toList_map]
    exact congrArg String.toList hlow
  rw [← wordSwappedBytes_map_toLower h.toList, hmap, wordSwappedBytes_map_toLower]

/-! ### Decoding a field -/

theorem decodeIpv6_field {h : String} (hf : IsIpv6Field h) :
    decodeIpv6 h true = ipv6Text (groupsOfBytes (wordSwappedBytes h.toList)) := by
  simp [decodeIpv6, ipv6Bytes_of_field hf]

theorem readIpv6_decodeIpv6 {h : String} (hf : IsIpv6Field h) :
    readIpv6 (decodeIpv6 h true) = some (wordSwappedBytes h.toList) := by
  have hbytes : ∀ k, hexPairAt h.toList (k / 4 * 4 + (3 - k % 4)) < 256 := fun k => hexPairAt_lt _ _
  have hlen : (groupsOfBytes (wordSwappedBytes h.toList)).length = 8 := by simp [groupsOfBytes]
  have hlt : ∀ g ∈ groupsOfBytes (wordSwappedBytes h.toList), g < 65536 := groupsOfBytes_lt hbytes
  rw [decodeIpv6_field hf, ipv6Text_eq_compressedText,
    readIpv6_compressedText hlen hlt (longestZeroRun_spec _).run]
  exact congrArg some (bytesOfGroups_groupsOfBytes hbytes)

/-- A kernel IPv6 field of thirty-two hexadecimal digits is written in the form of RFC 5952 for the
sixteen bytes it spells with each word's bytes reversed: lowercase groups without leading zeros,
the leftmost longest run of at least two zero groups shortened to `::`. The text reads back as
those bytes, so two fields give one text exactly when they agree up to case. Any other text, and
every text when the canonical form is off, is kept as it is. -/
theorem ipv6_field_text (h : String) :
    (IsIpv6Field h →
      (∃ s l, IsLeftmostLongestRun (groupsOfBytes (wordSwappedBytes h.toList)) s l ∧
        decodeIpv6 h true = compressedText (groupsOfBytes (wordSwappedBytes h.toList)) s l) ∧
      readIpv6 (decodeIpv6 h true) = some (wordSwappedBytes h.toList) ∧
      ∀ h', IsIpv6Field h' → (decodeIpv6 h true = decodeIpv6 h' true ↔ h.toLower = h'.toLower)) ∧
    (¬ IsIpv6Field h → decodeIpv6 h true = h) ∧
    decodeIpv6 h false = h := by
  refine ⟨fun hf => ⟨⟨_, _, longestZeroRun_spec _,
    (decodeIpv6_field hf).trans (ipv6Text_eq_compressedText _)⟩, readIpv6_decodeIpv6 hf,
    fun h' hf' => ⟨fun heq => ?_, fun hlow => ?_⟩⟩, fun hf => ?_, by simp [decodeIpv6]⟩
  · -- both texts read back as the same bytes
    have hsame := (readIpv6_decodeIpv6 hf).symm.trans (heq ▸ readIpv6_decodeIpv6 hf')
    exact toLower_eq_of_wordSwapped hf hf' (Option.some.inj hsame)
  · rw [decodeIpv6_field hf, decodeIpv6_field hf', wordSwappedBytes_eq_of_toLower hlow]
  · simp [decodeIpv6, ipv6Bytes_eq_none hf]

theorem loopback_field_reads_back :
    IsIpv6Field "00000000000000000000000001000000" ∧
      readIpv6 (decodeIpv6 "00000000000000000000000001000000" true) =
        some (wordSwappedBytes "00000000000000000000000001000000".toList) := by
  have hhex : "00000000000000000000000001000000".toList.all isHexChar = true := by decide
  have hf : IsIpv6Field "00000000000000000000000001000000" :=
    ⟨by decide, fun c hc => List.all_eq_true.mp hhex c hc⟩
  exact ⟨hf, ((ipv6_field_text _).1 hf).2.1⟩

end HostSurvey
