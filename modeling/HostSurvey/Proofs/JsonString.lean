import Mathlib.Data.List.Basic
import HostSurvey.Json.Read
import HostSurvey.Json.Write
import HostSurvey.Proofs.LineGrammar

/-!
JSON strings and numerals read back.
-/

namespace HostSurvey

theorem hexDigits_four {v : Nat} (hv : v < 65536) :
    hexDigits 4 v = [Nat.digitChar (v / 4096), Nat.digitChar (v / 256 % 16),
      Nat.digitChar (v / 16 % 16), Nat.digitChar (v % 16)] := by
  have h0 : Nat.digitChar 0 = '0' := rfl
  unfold hexDigits
  by_cases h1 : v < 16
  · rw [Nat.toDigits_of_lt_base h1]
    simp [show v / 4096 = 0 by omega, show v / 256 % 16 = 0 by omega,
      show v / 16 % 16 = 0 by omega, show v % 16 = v by omega, h0]
  by_cases h2 : v < 256
  · rw [Nat.toDigits_of_base_le (by decide) (by omega), Nat.toDigits_of_lt_base (by omega)]
    simp [show v / 4096 = 0 by omega, show v / 256 % 16 = 0 by omega,
      show v / 16 % 16 = v / 16 by omega, h0]
  by_cases h3 : v < 4096
  · rw [Nat.toDigits_of_base_le (by decide) (by omega),
      Nat.toDigits_of_base_le (by decide) (by omega), Nat.toDigits_of_lt_base (by omega)]
    simp [show v / 4096 = 0 by omega, show v / 16 / 16 = v / 256 % 16 by omega, h0]
  · rw [Nat.toDigits_of_base_le (by decide) (by omega),
      Nat.toDigits_of_base_le (by decide) (by omega),
      Nat.toDigits_of_base_le (by decide) (by omega), Nat.toDigits_of_lt_base (by omega)]
    simp [show v / 16 / 16 / 16 = v / 4096 by omega, show v / 16 / 16 % 16 = v / 256 % 16 by omega]

theorem hex4_step (a : Nat) {d : Nat} (hd : d < 16) :
    (if (Nat.digitChar d).isDigit then some (a * 16 + ((Nat.digitChar d).toNat - 0x30))
      else if 'a' ≤ Nat.digitChar d ∧ Nat.digitChar d ≤ 'f' then
        some (a * 16 + ((Nat.digitChar d).toNat - 0x61 + 10))
      else if 'A' ≤ Nat.digitChar d ∧ Nat.digitChar d ≤ 'F' then
        some (a * 16 + ((Nat.digitChar d).toNat - 0x41 + 10))
      else none) = some (a * 16 + d) := by
  have key : ∀ d, d < 16 →
      ((Nat.digitChar d).isDigit = true ∧ (Nat.digitChar d).toNat - 0x30 = d) ∨
      ((Nat.digitChar d).isDigit = false ∧ ('a' ≤ Nat.digitChar d ∧ Nat.digitChar d ≤ 'f') ∧
        (Nat.digitChar d).toNat - 0x61 + 10 = d) := by decide
  rcases key d hd with ⟨h1, h2⟩ | ⟨h1, h2, h3⟩
  · simp [h1, h2]
  · simp [h1, h2, h3]

/-- A stand-in for a high surrogate. -/
def isHighStandIn (c : Char) : Bool := 0x10D800 ≤ c.toNat && c.toNat < 0x10DC00

/-- A stand-in for a low surrogate. -/
def isLowStandIn (c : Char) : Bool := 0x10DC00 ≤ c.toNat && c.toNat ≤ 0x10DFFF

/-- A high stand-in right before a low one: the two are written as escapes that read back
as one character. -/
def joinsAsPair (a b : Char) : Bool := isHighStandIn a && isLowStandIn b

/-- The one-letter escapes of written strings, each with the character it stands for. -/
def writtenEscapes : List (Char × Char) :=
  [('"', '"'), ('\\', '\\'), ('n', '\n'), ('r', '\r'), ('t', '\t'), ('b', '\x08'), ('f', '\x0c')]

/-- How an ASCII-only JSON string writes a character: as a one-letter escape, as one
`\\u` escape of a code below `0x10000` (a stand-in as its surrogate), as a surrogate pair, or
as itself. -/
theorem jsonEscapeChar_cases (c : Char) :
    (∃ x, jsonEscapeChar true c = ['\\', x] ∧ (x, c) ∈ writtenEscapes) ∨
    (∃ v, v < 65536 ∧ jsonEscapeChar true c = '\\' :: 'u' :: hexDigits 4 v ∧ charOfCode v = c ∧
      (0xD800 ≤ v → v < 0xDC00 → isHighStandIn c) ∧ (0xDC00 ≤ v → v < 0xE000 → isLowStandIn c)) ∨
    (∃ hi lo, (0xD800 ≤ hi ∧ hi < 0xDC00) ∧ (0xDC00 ≤ lo ∧ lo < 0xE000) ∧
      jsonEscapeChar true c = '\\' :: 'u' :: hexDigits 4 hi ++ '\\' :: 'u' :: hexDigits 4 lo ∧
      Char.ofNat (0x10000 + (hi - 0xD800) * 0x400 + (lo - 0xDC00)) = c) ∨
    (jsonEscapeChar true c = [c] ∧ c ≠ '"' ∧ c ≠ '\\' ∧ 0x1F < c.toNat ∧ c.toNat < 0x7F) := by
  have hvalid : c.toNat < 0xD800 ∨ (0xDFFF < c.toNat ∧ c.toNat < 0x110000) := c.valid
  by_cases hnamed : c ∈ ['"', '\\', '\n', '\r', '\t', '\x08', '\x0c']
  · simp only [List.mem_cons, List.not_mem_nil, or_false] at hnamed
    left
    rcases hnamed with rfl | rfl | rfl | rfl | rfl | rfl | rfl <;>
      exact ⟨_, rfl, by simp [writtenEscapes]⟩
  simp only [List.mem_cons, List.not_mem_nil, or_false, not_or] at hnamed
  obtain ⟨h1, h2, h3, h4, h5, h6, h7⟩ := hnamed
  by_cases hctl : c.toNat < 0x20 ∨ c.toNat = 0x7F
  · right; left
    refine ⟨c.toNat, by omega, by simp [jsonEscapeChar, h1, h2, h3, h4, h5, h6, h7, hctl], ?_,
      fun h _ => by omega, fun h _ => by omega⟩
    have hns : isSurrogateCode c.toNat = false := by simp [isSurrogateCode]; omega
    simp [charOfCode, hns]
  cases hstand : standInCode? c with
  | some u =>
    have hu : 0x10D800 ≤ c.toNat ∧ c.toNat ≤ 0x10DFFF ∧ u = c.toNat - 0x100000 := by
      unfold standInCode? at hstand
      split at hstand
      · next hr =>
        have hval := Option.some.inj hstand
        simp only [Bool.and_eq_true, decide_eq_true_eq] at hr
        unfold standInOffset at hval
        omega
      · exact absurd hstand (by simp)
    right; left
    refine ⟨u, by omega, by simp [jsonEscapeChar, h1, h2, h3, h4, h5, h6, h7, hctl, hstand], ?_,
      fun h h' => by simp [isHighStandIn]; omega, fun h h' => by simp [isLowStandIn]; omega⟩
    simp [charOfCode, isSurrogateCode, standInOffset, show 0xD800 ≤ u by omega,
      show u ≤ 0xDFFF by omega, show u + 0x100000 = c.toNat by omega]
  | none =>
    by_cases hascii : c.toNat ≤ 0x7F
    · right; right; right
      exact ⟨by simp [jsonEscapeChar, h1, h2, h3, h4, h5, h6, h7, hctl, hstand,
        show ¬ 0x7F < c.toNat by omega], h1, h2, by omega, by omega⟩
    by_cases hbmp : c.toNat < 0x10000
    · right; left
      refine ⟨c.toNat, hbmp, by simp [jsonEscapeChar, h1, h2, h3, h4, h5, h6, h7, hctl, hstand,
        hascii, hbmp], ?_, fun h h' => by omega, fun h h' => by omega⟩
      have hns : isSurrogateCode c.toNat = false := by simp [isSurrogateCode]; omega
      simp [charOfCode, hns]
    · right; right; left
      refine ⟨0xD800 + (c.toNat - 0x10000) / 0x400, 0xDC00 + (c.toNat - 0x10000) % 0x400,
        by omega, by omega, ?_, ?_⟩
      · unfold jsonEscapeChar
        simp only [h1, h2, h3, h4, h5, h6, h7, hstand, if_false, true_and]
        rw [if_neg hctl, if_pos (show 0x7F < c.toNat by omega), if_neg hbmp]
      have hcode : 0x10000 + (0xD800 + (c.toNat - 0x10000) / 0x400 - 0xD800) * 0x400 +
          (0xDC00 + (c.toNat - 0x10000) % 0x400 - 0xDC00) = c.toNat := by omega
      rw [hcode, Char.ofNat_toNat]

namespace JsonRead

variable {s : Array Char} {b i : Nat} {acc : List Char}

theorem getElem?_of_drop {l : List Char} (hs : s.toList.drop i = l) (k : Nat) :
    s[i + k]? = l[k]? := by
  rw [← hs, List.getElem?_drop, Array.getElem?_toList]

theorem drop_of_drop_append {l₁ l₂ : List Char} (hs : s.toList.drop i = l₁ ++ l₂) :
    s.toList.drop (i + l₁.length) = l₂ := by
  rw [← List.drop_drop, hs, List.drop_left]

theorem getElem_of_drop_add {l : List Char} (hs : s.toList.drop i = l) {k : Nat} {c : Char}
    (hk : l[k]? = some c) : ∃ h : i + k < s.size, s[i + k] = c :=
  Array.getElem?_eq_some_iff.mp ((getElem?_of_drop hs k).trans hk)

theorem getElem?_head {c : Char} {t : List Char} (hs : s.toList.drop i = c :: t) :
    s[i]? = some c := by
  simpa using getElem?_of_drop hs 0

theorem getElem_of_drop {c : Char} {t : List Char} (hs : s.toList.drop i = c :: t) :
    ∃ h : i < s.size, s[i] = c :=
  getElem_of_drop_add hs (k := 0) rfl

theorem drop_add_of_drop {l : List Char} (hs : s.toList.drop i = l) (k : Nat) :
    s.toList.drop (i + k) = l.drop k := by
  rw [← List.drop_drop, hs]

theorem hex4_of_drop {v : Nat} {r : List Char} (hv : v < 65536)
    (hs : s.toList.drop i = hexDigits 4 v ++ r) : hex4 s i = some v := by
  rw [hexDigits_four hv] at hs
  have h0 := getElem?_of_drop hs 0
  have h1 := getElem?_of_drop hs 1
  have h2 := getElem?_of_drop hs 2
  have h3 := getElem?_of_drop hs 3
  simp only [List.cons_append, List.getElem?_cons_zero, List.getElem?_cons_succ,
    Nat.add_zero] at h0 h1 h2 h3
  simp only [hex4, List.range_succ, List.range_zero, List.nil_append, List.foldl_cons,
    List.foldl_nil, List.foldl_append, Option.bind_some, Nat.add_zero, h0, h1, h2, h3,
    hex4_step _ (show v / 4096 < 16 by omega), hex4_step _ (show v / 256 % 16 < 16 by omega),
    hex4_step _ (show v / 16 % 16 < 16 by omega), hex4_step _ (show v % 16 < 16 by omega)]
  congr 1
  omega

theorem readString_quote {t : List Char} (hs : s.toList.drop i = '"' :: t) :
    readString s b i acc = .ok (acc, i + 1) := by
  obtain ⟨hi, hc⟩ := getElem_of_drop hs
  rw [readString, dif_pos hi]
  simp [hc]

theorem readString_plain {c : Char} {t : List Char} (hs : s.toList.drop i = c :: t)
    (hq : c ≠ '"') (hb : c ≠ '\\') (hctl : 0x1F < c.toNat) :
    readString s b i acc = readString s b (i + 1) (c :: acc) := by
  obtain ⟨hi, hc⟩ := getElem_of_drop hs
  rw [readString, dif_pos hi]
  simp [hc, hq, hb, show ¬ c.toNat ≤ 0x1F by omega]

theorem readString_simple {x y : Char} {t : List Char} (hs : s.toList.drop i = '\\' :: x :: t)
    (hx : (x, y) ∈ writtenEscapes) :
    readString s b i acc = readString s b (i + 2) (y :: acc) := by
  obtain ⟨hi, hc⟩ := getElem_of_drop hs
  obtain ⟨hi1, hc1⟩ := getElem_of_drop_add hs (k := 1) rfl
  rw [readString, dif_pos hi]
  simp only [hc, if_neg (show '\\' ≠ '"' by decide), if_true]
  rw [dif_pos hi1]
  simp only [writtenEscapes, List.mem_cons, Prod.mk.injEq, List.not_mem_nil, or_false] at hx
  rcases hx with ⟨rfl, rfl⟩ | ⟨rfl, rfl⟩ | ⟨rfl, rfl⟩ | ⟨rfl, rfl⟩ | ⟨rfl, rfl⟩ | ⟨rfl, rfl⟩ |
    ⟨rfl, rfl⟩ <;> simp [hc1]

/-- A `\\u` escape with four digits: a high surrogate followed by another `\\u` escape is
read with it, anything else as the character of its code. -/
theorem readString_unicode {v : Nat} {d : Char} {t : List Char} (hv : v < 65536)
    (hs : s.toList.drop i = '\\' :: 'u' :: (hexDigits 4 v ++ d :: t)) :
    readString s b i acc =
      if 0xD800 ≤ v ∧ v < 0xDC00 ∧ i + 12 < s.size ∧ s[i + 6]? = some '\\' ∧
          s[i + 7]? = some 'u' then
        (hex4 s (i + 8)).elim (.error (.malformed "Invalid \\uXXXX escape" (i + 7))) fun w =>
          if 0xDC00 ≤ w ∧ w < 0xE000 then
            readString s b (i + 12) (Char.ofNat (0x10000 + (v - 0xD800) * 0x400 + (w - 0xDC00)) :: acc)
          else readString s b (i + 6) (charOfCode v :: acc)
      else readString s b (i + 6) (charOfCode v :: acc) := by
  obtain ⟨hi, hc⟩ := getElem_of_drop hs
  obtain ⟨hi1, hc1⟩ := getElem_of_drop_add hs (k := 1) rfl
  obtain ⟨hi6, -⟩ := getElem_of_drop_add hs (k := 6) (by rw [hexDigits_four hv]; rfl)
  have hhex : hex4 s (i + 2) = some v := hex4_of_drop hv (drop_add_of_drop hs 2)
  rw [readString, dif_pos hi]
  simp only [hc, if_neg (show '\\' ≠ '"' by decide), if_true]
  rw [dif_pos hi1]
  simp only [hc1, hhex, if_neg (show ¬ s.size ≤ i + 6 by omega)]
  simp only [show 'u' ≠ '"' by decide, show 'u' ≠ '\\' by decide, show 'u' ≠ '/' by decide,
    show 'u' ≠ 'b' by decide, show 'u' ≠ 'f' by decide, show 'u' ≠ 'n' by decide,
    show 'u' ≠ 'r' by decide, show 'u' ≠ 't' by decide, if_false, if_true]
  congr 1
  cases hex4 s (i + 8) <;> rfl

theorem readString_code {v : Nat} {d : Char} {t : List Char} (hv : v < 65536)
    (hs : s.toList.drop i = '\\' :: 'u' :: (hexDigits 4 v ++ d :: t))
    (hnext : 0xD800 ≤ v → v < 0xDC00 → i + 12 < s.size → s[i + 6]? = some '\\' →
      s[i + 7]? = some 'u' → ∃ w, hex4 s (i + 8) = some w ∧ ¬ (0xDC00 ≤ w ∧ w < 0xE000)) :
    readString s b i acc = readString s b (i + 6) (charOfCode v :: acc) := by
  rw [readString_unicode hv hs]
  by_cases hjoin : 0xD800 ≤ v ∧ v < 0xDC00 ∧ i + 12 < s.size ∧ s[i + 6]? = some '\\' ∧
      s[i + 7]? = some 'u'
  · obtain ⟨w, hw, hlow⟩ := hnext hjoin.1 hjoin.2.1 hjoin.2.2.1 hjoin.2.2.2.1 hjoin.2.2.2.2
    rw [if_pos hjoin, hw, Option.elim_some, if_neg hlow]
  · rw [if_neg hjoin]

theorem readString_pair {hi lo : Nat} {d : Char} {t : List Char}
    (hhi : 0xD800 ≤ hi ∧ hi < 0xDC00) (hlo : 0xDC00 ≤ lo ∧ lo < 0xE000)
    (hs : s.toList.drop i =
      '\\' :: 'u' :: (hexDigits 4 hi ++ '\\' :: 'u' :: (hexDigits 4 lo ++ d :: t))) :
    readString s b i acc =
      readString s b (i + 12) (Char.ofNat (0x10000 + (hi - 0xD800) * 0x400 + (lo - 0xDC00)) :: acc) := by
  have hhi' : hi < 65536 := by omega
  have hlo' : lo < 65536 := by omega
  have h6 : s[i + 6]? = some '\\' := by rw [getElem?_of_drop hs 6, hexDigits_four hhi']; rfl
  have h7 : s[i + 7]? = some 'u' := by rw [getElem?_of_drop hs 7, hexDigits_four hhi']; rfl
  obtain ⟨hi12, -⟩ := getElem_of_drop_add hs (k := 12)
    (by rw [hexDigits_four hhi', hexDigits_four hlo']; rfl)
  have hhex2 : hex4 s (i + 8) = some lo := by
    refine hex4_of_drop hlo' (r := d :: t) ?_
    rw [drop_add_of_drop hs 8, hexDigits_four hhi']
    rfl
  rw [readString_unicode hhi' hs, if_pos ⟨hhi.1, hhi.2, hi12, h6, h7⟩, hhex2, Option.elim_some,
    if_pos hlo]

theorem hexDigits_four_length {v : Nat} (hv : v < 65536) : (hexDigits 4 v).length = 4 := by
  rw [hexDigits_four hv]
  rfl

/-- Where the escape of a character starts with `\\u`, four hexadecimal digits follow, of a
value in the low surrogate range only when the character is a low stand-in. -/
theorem hex4_after_escape {c : Char} {t : List Char}
    (hs : s.toList.drop i = jsonEscapeChar true c ++ t) (h0 : s[i]? = some '\\')
    (h1 : s[i + 1]? = some 'u') :
    ∃ w, hex4 s (i + 2) = some w ∧ (0xDC00 ≤ w → w < 0xE000 → isLowStandIn c) := by
  rcases jsonEscapeChar_cases c with ⟨x, hx, hmem⟩ | ⟨v, hv, hx, -, -, hlow⟩ |
    ⟨hi, lo, hhi, -, hx, -⟩ | ⟨hx, -, hb, -, -⟩
  · rw [getElem?_of_drop hs 1, hx] at h1
    simp only [List.cons_append, List.getElem?_cons_succ, List.getElem?_cons_zero,
      Option.some.injEq] at h1
    subst h1
    simp [writtenEscapes] at hmem
  · rw [hx] at hs
    exact ⟨v, hex4_of_drop hv (drop_add_of_drop hs 2), hlow⟩
  · rw [hx] at hs
    refine ⟨hi, hex4_of_drop (by omega) (r := '\\' :: 'u' :: hexDigits 4 lo ++ t) ?_,
      fun h _ => by omega⟩
    rw [drop_add_of_drop hs 2]
    simp
  · have h0' := getElem?_of_drop hs 0
    rw [hx, Nat.add_zero, h0] at h0'
    simp only [List.cons_append, List.getElem?_cons_zero, Option.some.injEq] at h0'
    exact absurd h0'.symm hb

theorem jsonEscapeChar_ne_nil (c : Char) : ∃ d t, jsonEscapeChar true c = d :: t := by
  rcases jsonEscapeChar_cases c with ⟨x, hx, -⟩ | ⟨v, -, hx, -⟩ | ⟨hi, lo, -, -, hx, -⟩ | ⟨hx, -⟩ <;>
    rw [hx] <;> exact ⟨_, _, rfl⟩

/-- Reading the escape of one character gives the character back, unless it is a high
stand-in whose escape is followed by that of a low one. -/
theorem readString_escapeChar {c : Char} {r : List Char}
    (hs : s.toList.drop i = jsonEscapeChar true c ++ r)
    (hr : (∃ t, r = '"' :: t) ∨
      ∃ c' t, r = jsonEscapeChar true c' ++ t ∧ joinsAsPair c c' = false) :
    readString s b i acc = readString s b (i + (jsonEscapeChar true c).length) (c :: acc) := by
  have hrest := drop_of_drop_append hs
  obtain ⟨d, t, rfl⟩ : ∃ d t, r = d :: t := by
    rcases hr with ⟨t, rfl⟩ | ⟨c', t, rfl, -⟩
    · exact ⟨_, _, rfl⟩
    · obtain ⟨d, t', hd⟩ := jsonEscapeChar_ne_nil c'
      exact ⟨d, t' ++ t, by rw [hd]; rfl⟩
  rcases jsonEscapeChar_cases c with ⟨x, hx, hmem⟩ | ⟨v, hv, hx, hcode, hhigh, -⟩ |
    ⟨hi, lo, hhi, hlo, hx, hcode⟩ | ⟨hx, hq, hb, hctl, -⟩
  case inl =>
    rw [hx] at hs ⊢
    exact readString_simple hs hmem
  case inr.inl =>
    have hlen : (jsonEscapeChar true c).length = 6 := by simp [hx, hexDigits_four_length hv]
    rw [hlen] at hrest ⊢
    rw [hx] at hs
    simp only [List.cons_append] at hs
    rw [readString_code hv hs, hcode]
    -- A high stand-in is not joined: what follows is a quote or an escape that is not low.
    intro hh hl _ h6 h7
    rcases hr with ⟨t', ht'⟩ | ⟨c', t', ht', hj⟩
    · have h6' := getElem?_of_drop hrest 0
      rw [Nat.add_zero, h6, ht'] at h6'
      simp at h6'
    · rw [ht'] at hrest
      obtain ⟨w, hw, hlow⟩ := hex4_after_escape hrest h6 h7
      refine ⟨w, hw, fun ⟨h1, h2⟩ => ?_⟩
      simp [joinsAsPair, hhigh hh hl, hlow h1 h2] at hj
  case inr.inr.inl =>
    have hlen : (jsonEscapeChar true c).length = 12 := by
      simp [hx, hexDigits_four_length (show hi < 65536 by omega),
        hexDigits_four_length (show lo < 65536 by omega)]
    rw [hlen, ← hcode]
    rw [hx] at hs
    simp only [List.cons_append, List.append_assoc] at hs
    exact readString_pair hhi hlo hs
  case inr.inr.inr =>
    rw [hx] at hs ⊢
    exact readString_plain hs hq hb hctl

/-- Reading the escaped characters of a text up to the closing quote gives the text back,
when no high stand-in stands right before a low one. -/
theorem readString_escaped {t : List Char} (cs : List Char)
    (hchain : cs.IsChain fun a b => joinsAsPair a b = false)
    (hs : s.toList.drop i = cs.flatMap (jsonEscapeChar true) ++ '"' :: t) :
    readString s b i acc =
      .ok (cs.reverse ++ acc, i + (cs.flatMap (jsonEscapeChar true)).length + 1) := by
  induction cs generalizing i acc with
  | nil => exact readString_quote hs
  | cons c cs ih =>
    rw [List.flatMap_cons, List.append_assoc] at hs
    have hnext : (∃ t', cs.flatMap (jsonEscapeChar true) ++ '"' :: t = '"' :: t') ∨
        ∃ c' t', cs.flatMap (jsonEscapeChar true) ++ '"' :: t = jsonEscapeChar true c' ++ t' ∧
          joinsAsPair c c' = false := by
      cases cs with
      | nil => exact .inl ⟨t, rfl⟩
      | cons c' cs' =>
        exact .inr ⟨c', _, by rw [List.flatMap_cons, List.append_assoc],
          (List.isChain_cons_cons.mp hchain).1⟩
    rw [readString_escapeChar hs hnext, ih (List.isChain_of_isChain_cons hchain) (drop_of_drop_append hs)]
    simp [Nat.add_assoc]

theorem toDigits_head {n : Nat} (hn : 0 < n) :
    ∃ d rest, Nat.toDigits 10 n = Nat.digitChar d :: rest ∧ 0 < d ∧ d < 10 := by
  induction n using Nat.strongRecOn with
  | ind n ih =>
    rw [Nat.toDigits_eq_if (by decide)]
    split
    next hlt => exact ⟨n, [], rfl, hn, hlt⟩
    next hge =>
      obtain ⟨d, rest, hd, hpos, hlt⟩ := ih (n / 10) (by omega) (by omega)
      exact ⟨d, rest ++ [Nat.digitChar (n % 10)], by rw [hd]; rfl, hpos, hlt⟩

theorem isDigit_of_mem_toDigits {n : Nat} {c : Char} (hc : c ∈ Nat.toDigits 10 n) :
    c.isDigit = true := by
  obtain ⟨d, hd, rfl⟩ := mem_toDigits (by decide) hc
  have key : ∀ d, d < 10 → (Nat.digitChar d).isDigit = true := by decide
  exact key d hd

theorem skipDigits_run {ds : List Char} {d : Char} {t : List Char}
    (hds : ∀ c ∈ ds, c.isDigit = true) (hs : s.toList.drop i = ds ++ d :: t)
    (hd : d.isDigit = false) : skipDigits s i = i + ds.length := by
  induction ds generalizing i with
  | nil =>
    obtain ⟨hi, hc⟩ := getElem_of_drop hs
    rw [skipDigits, dif_pos hi, hc, hd]
    rfl
  | cons c ds ih =>
    obtain ⟨hi, hc⟩ := getElem_of_drop hs
    have hrest : s.toList.drop (i + 1) = ds ++ d :: t := by rw [drop_add_of_drop hs 1]; rfl
    rw [skipDigits, dif_pos hi, hc, hds c (by simp), if_pos rfl,
      ih (fun c' hc' => hds c' (by simp [hc'])) hrest]
    simp [Nat.add_assoc, Nat.add_comm 1]

theorem intPartEnd_digits {n : Nat} {d : Char} {t : List Char}
    (hs : s.toList.drop i = Nat.toDigits 10 n ++ d :: t) (hd : d.isDigit = false) :
    intPartEnd s i = some (i + (Nat.toDigits 10 n).length) := by
  unfold intPartEnd
  rcases Nat.eq_zero_or_pos n with rfl | hn
  · rw [Nat.toDigits_zero] at hs ⊢
    rw [getElem?_head hs]
    rfl
  · obtain ⟨d0, rest, hdigits, hpos, hlt⟩ := toDigits_head hn
    have h0 : s[i]? = some (Nat.digitChar d0) := getElem?_head (by rw [hs, hdigits]; rfl)
    have hrest : s.toList.drop (i + 1) = rest ++ d :: t := by
      rw [drop_add_of_drop hs 1, hdigits]; rfl
    have hrun : ∀ c ∈ rest, c.isDigit = true := fun c hc =>
      isDigit_of_mem_toDigits (by rw [hdigits]; exact List.mem_cons_of_mem _ hc)
    have key : ∀ d, d < 10 → 0 < d → Nat.digitChar d ≠ '0' ∧ '1' ≤ Nat.digitChar d ∧
        Nat.digitChar d ≤ '9' := by decide
    obtain ⟨hne, h1, h9⟩ := key d0 hlt hpos
    rw [h0]
    split
    next heq => exact absurd (Option.some.inj heq) hne
    next c _ heq =>
      rw [← Option.some.inj heq, if_pos ⟨h1, h9⟩, skipDigits_run hrun hrest hd, hdigits]
      simp [Nat.add_assoc, Nat.add_comm 1]
    next heq => cases heq

/-- The decimal numeral of a natural number, followed by a character that does not continue
a number, is read as that integer. -/
theorem readNumber_digits {n : Nat} {d : Char} {t : List Char}
    (hs : s.toList.drop i = Nat.toDigits 10 n ++ d :: t) (hd : d.isDigit = false)
    (hdot : d ≠ '.') (he : d ≠ 'e') (hE : d ≠ 'E')
    (hlen : (Nat.toDigits 10 n).length ≤ maxNumeralDigits) :
    readNumber s i = some (.ok (.int n, i + (Nat.toDigits 10 n).length)) := by
  obtain ⟨c0, rest, hc0⟩ := List.exists_cons_of_ne_nil (Nat.toDigits_ne_nil (b := 10) (n := n))
  have hminus : s[i]? ≠ some '-' := by
    rw [getElem?_head (by rw [hs, hc0]; rfl)]
    intro h
    have := isDigit_of_mem_toDigits (by rw [hc0]; exact List.mem_cons_self : c0 ∈ Nat.toDigits 10 n)
    rw [Option.some.inj h] at this
    exact absurd this (by decide)
  have hk : s[i + (Nat.toDigits 10 n).length]? = some d := by
    rw [getElem?_of_drop hs]
    simp
  have htext : (s.extract i (i + (Nat.toDigits 10 n).length)).toList = Nat.toDigits 10 n := by
    rw [Array.toList_extract, List.extract, hs, Nat.add_sub_cancel_left]
    simp
  have hfrac : fracPart s (i + (Nat.toDigits 10 n).length) = (false, i + (Nat.toDigits 10 n).length) := by
    simp [fracPart, hk, hdot]
  have hexp : expPart s (i + (Nat.toDigits 10 n).length) = (false, i + (Nat.toDigits 10 n).length) := by
    simp [expPart, hk, he, hE]
  unfold readNumber
  simp only [hminus, if_false, intPartEnd_digits hs hd, Option.map_some, hfrac, hexp, htext,
    readInteger_decimal_run (decimal_run_toDigits n), if_neg (Nat.not_lt.mpr hlen),
    digitsValue_decimal_toDigits]
  rfl

theorem skipBlanks_of_not_blank {c : Char} {t : List Char} (hs : s.toList.drop i = c :: t)
    (hc : isBlankJ c = false) : skipBlanks s i = i := by
  obtain ⟨hi, hci⟩ := getElem_of_drop hs
  rw [skipBlanks, dif_pos hi, hci, hc]
  rfl

/-- A text that reads back from its JSON string: no high stand-in stands right before a low
one. -/
def ReadsBack (u : String) : Prop := u.toList.IsChain fun a b => joinsAsPair a b = false

instance : DecidablePred ReadsBack := fun u => inferInstanceAs (Decidable (List.IsChain _ u.toList))

theorem toList_jsonString (u : String) :
    (jsonString true u).toList = '"' :: (u.toList.flatMap (jsonEscapeChar true) ++ ['"']) := by
  simp [jsonString]

variable {depth : Nat}

theorem readValue_string {u : String} {r : List Char} (hu : ReadsBack u)
    (hs : s.toList.drop i = (jsonString true u).toList ++ r) :
    readValue s (depth + 1) i = .ok (.str u, i + (jsonString true u).toList.length) := by
  rw [toList_jsonString] at hs ⊢
  have h0 : s[i]? = some '"' := getElem?_head hs
  have h1 : s.toList.drop (i + 1) = u.toList.flatMap (jsonEscapeChar true) ++ '"' :: r := by
    rw [drop_add_of_drop hs 1]
    simp
  rw [readValue, h0]
  simp only [readString_escaped u.toList hu h1, Except.map, List.append_nil, List.reverse_reverse,
    String.ofList_toList, List.length_cons, List.length_append, List.length_nil]
  congr 2
  omega

/-- The decimal numeral of a natural number of at most 4300 digits, followed by a comma or a
closing brace, is read back as that integer. -/
theorem readValue_digits {n : Nat} {d : Char} {t : List Char} (hd : d = ',' ∨ d = '}')
    (hlen : (Nat.toDigits 10 n).length ≤ maxNumeralDigits)
    (hs : s.toList.drop i = Nat.toDigits 10 n ++ d :: t) :
    readValue s (depth + 1) i = .ok (.int n, i + (Nat.toDigits 10 n).length) := by
  have hnum := readNumber_digits hs (by rcases hd with rfl | rfl <;> rfl)
    (by rcases hd with rfl | rfl <;> decide) (by rcases hd with rfl | rfl <;> decide)
    (by rcases hd with rfl | rfl <;> decide) hlen
  obtain ⟨c0, rest, hc0⟩ := List.exists_cons_of_ne_nil (Nat.toDigits_ne_nil (b := 10) (n := n))
  obtain ⟨d0, hd0, rfl⟩ := mem_toDigits (b := 10) (by decide) (by rw [hc0]; exact List.mem_cons_self)
  have h0 : s[i]? = some (Nat.digitChar d0) := getElem?_head (by rw [hs, hc0]; rfl)
  -- a digit opens no string, object, array or word, and is no minus sign
  have key : ∀ d, d < 10 → Nat.digitChar d ∉ ['"', '{', '[', 'n', 't', 'f', 'N', 'I', '-'] := by
    decide
  have hnot := key d0 hd0
  simp only [List.mem_cons, List.not_mem_nil, or_false, not_or] at hnot
  obtain ⟨hq, hbrace, hbracket, hn, ht, hf, hN, hI, hminus⟩ := hnot
  rw [readValue, h0]
  -- the branches of the characters a digit is not fall away
  split
  next heq => cases heq
  next heq => exact absurd (Option.some.inj heq) hq
  next heq => exact absurd (Option.some.inj heq) hbrace
  next heq => exact absurd (Option.some.inj heq) hbracket
  next heq => exact absurd (Option.some.inj heq) hn
  next heq => exact absurd (Option.some.inj heq) ht
  next heq => exact absurd (Option.some.inj heq) hf
  next heq => exact absurd (Option.some.inj heq) hN
  next heq => exact absurd (Option.some.inj heq) hI
  next heq =>
    obtain rfl := Option.some.inj heq
    rw [if_neg fun h => hminus h.1, hnum]

end JsonRead

end HostSurvey
