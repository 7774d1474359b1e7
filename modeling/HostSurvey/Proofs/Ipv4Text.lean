import Mathlib
import HostSurvey.Proofs.AddressText
import HostSurvey.Proofs.JsonRecord

/-!
The dotted text of a kernel IPv4 field.
-/

namespace HostSurvey

/-- The four bytes of a 32-bit word, least significant first. -/
def wordBytes (w : Nat) : List Nat := [w % 256, w / 256 % 256, w / 65536 % 256, w / 16777216 % 256]

/-- Numbers in decimal with dots between them. -/
def dottedText (ns : List Nat) : String := String.intercalate "." (ns.map toString)

/-- The numbers of a dotted text: the decimal value of each piece between dots. -/
def readDotted (s : String) : List Nat := (s.toList.splitOn '.').map (digitsValue 10 decimalValue?)

/-- A kernel IPv4 address field: eight hexadecimal digits. -/
def IsIpv4Field (h : String) : Prop := h.length = 8 ∧ ∀ c ∈ h.toList, isHexChar c = true

theorem toList_toString_nat (n : Nat) : (toString n).toList = Nat.toDigits 10 n := by
  simp [toString, Nat.repr]

theorem dot_not_mem_toDigits (n : Nat) : '.' ∉ Nat.toDigits 10 n := by
  intro h
  obtain ⟨d, hd, hc⟩ := mem_toDigits (by decide) h
  have hdigit : ∀ d, d < 10 → Nat.digitChar d ≠ '.' := by decide
  exact hdigit d hd hc.symm

theorem readDotted_dottedText {ns : List Nat} (hne : ns ≠ []) : readDotted (dottedText ns) = ns := by
  have hwords : ∀ l ∈ ns.map (Nat.toDigits 10), '.' ∉ l := by
    simp only [List.mem_map]
    rintro l ⟨n, -, rfl⟩
    exact dot_not_mem_toDigits n
  have hsplit : (dottedText ns).toList.splitOn '.' = ns.map (Nat.toDigits 10) := by
    rw [dottedText, String.toList_intercalate, List.map_map]
    simp only [Function.comp_def, toList_toString_nat]
    exact List.splitOn_intercalate '.' hwords (by simpa using hne)
  rw [readDotted, hsplit, List.map_map]
  simp [Function.comp_def, digitsValue_decimal_toDigits]

/-- Each octet of the text is a byte of the value modulo 2^32: shifting down by whole bytes and
keeping the low byte sees only the low 32 bits. -/
theorem ipv4Text_eq (v : Int) : ipv4Text v = dottedText (wordBytes (v % 4294967296).toNat) := by
  have hpow : Int.pow 256 0 = 1 ∧ Int.pow 256 1 = 256 ∧ Int.pow 256 2 = 65536 ∧
      Int.pow 256 3 = 16777216 := ⟨rfl, rfl, rfl, rfl⟩
  -- the octets as integers are the bytes of the word, cast
  have h0 : v / Int.pow 256 0 % 256 = (((v % 4294967296).toNat % 256 : Nat) : Int) := by
    rw [hpow.1]; omega
  have h1 : v / Int.pow 256 1 % 256 = (((v % 4294967296).toNat / 256 % 256 : Nat) : Int) := by
    rw [hpow.2.1]; omega
  have h2 : v / Int.pow 256 2 % 256 = (((v % 4294967296).toNat / 65536 % 256 : Nat) : Int) := by
    rw [hpow.2.2.1]; omega
  have h3 : v / Int.pow 256 3 % 256 =
      (((v % 4294967296).toNat / 16777216 % 256 : Nat) : Int) := by
    rw [hpow.2.2.2]; omega
  rw [← String.toList_inj]
  have hdot : (toString ".").toList = ['.'] := rfl
  simp only [ipv4Text, h0, h1, h2, h3, String.toList_append, JsonRead.toList_toString_natCast, hdot]
  simp [dottedText, wordBytes]

theorem decodeIpv4_of_readInteger {s : String} {v : Int} (h : readInteger 16 s = .ok v) :
    decodeIpv4 s = .ok (dottedText (wordBytes (v % 4294967296).toNat)) := by
  simp [decodeIpv4, readHexField, h, Except.map, ipv4Text_eq]

theorem digitsValue_lt {b : Nat} {value : Char → Option Nat} {cs : List Char}
    (h : ∀ c ∈ cs, ∃ d, value c = some d ∧ d < b) :
    digitsValue b value cs < Nat.pow b cs.length := by
  induction cs using List.reverseRecOn with
  | nil => simp [digitsValue]
  | append_singleton cs c ih =>
    obtain ⟨d, hd, hdb⟩ := h c (by simp)
    have hcs := ih fun x hx => h x (by simp [hx])
    rw [digitsValue_append, List.length_append, List.length_singleton,
      show Nat.pow b (cs.length + 1) = Nat.pow b cs.length * b from rfl]
    simp only [List.foldl_cons, List.foldl_nil, hd, Option.getD_some]
    -- the new digit fills the place that the shift opened
    calc digitsValue b value cs * b + d < digitsValue b value cs * b + b := by omega
      _ = (digitsValue b value cs + 1) * b := by rw [Nat.succ_mul]
      _ ≤ Nat.pow b cs.length * b := Nat.mul_le_mul_right b hcs

theorem hexDigits_value_lt {cs : List Char} (hcs : ∀ c ∈ cs, isHexChar c = true) :
    digitsValue 16 hexDigitValue cs < Nat.pow 16 cs.length :=
  digitsValue_lt fun c hc => by
    obtain ⟨d, hd, -, hv⟩ := hex_digit (hcs c hc)
    exact ⟨d, hv, hd⟩

theorem map_toLower_eq_of_digitsValue {cs cs' : List Char} (hlen : cs.length = cs'.length)
    (hcs : ∀ c ∈ cs, isHexChar c = true) (hcs' : ∀ c ∈ cs', isHexChar c = true)
    (h : digitsValue 16 hexDigitValue cs = digitsValue 16 hexDigitValue cs') :
    cs.map Char.toLower = cs'.map Char.toLower := by
  induction cs using List.reverseRecOn generalizing cs' with
  | nil =>
    rw [List.length_nil, eq_comm, List.length_eq_zero_iff] at hlen
    simp [hlen]
  | append_singleton cs c ih =>
    obtain ⟨xs, x, rfl⟩ : ∃ xs x, cs' = xs ++ [x] := by
      rcases List.eq_nil_or_concat cs' with hnil | ⟨xs, x, hx⟩
      · simp [hnil] at hlen
      · exact ⟨xs, x, by rw [hx, List.concat_eq_append]⟩
    obtain ⟨d, -, -, hd⟩ := hex_digit (hcs c (by simp))
    obtain ⟨e, -, -, he⟩ := hex_digit (hcs' x (by simp))
    have hdl := hexDigitValue_lt hd
    have hel := hexDigitValue_lt he
    simp only [digitsValue_append, List.foldl_cons, List.foldl_nil, hd, he,
      Option.getD_some] at h
    -- the last digit is the value modulo 16, the rest the value divided by 16
    have hlast : d = e := by omega
    have hrest : digitsValue 16 hexDigitValue cs = digitsValue 16 hexDigitValue xs := by omega
    have hinit := ih (by simpa using hlen) (fun y hy => hcs y (by simp [hy]))
      (fun y hy => hcs' y (by simp [hy])) hrest
    rw [List.map_append, List.map_append, hinit, List.map_singleton, List.map_singleton,
      toLower_of_hex (hcs c (by simp)), toLower_of_hex (hcs' x (by simp)), hd, he, hlast]

theorem digitsValue_map_toLower (cs : List Char) :
    digitsValue 16 hexDigitValue (cs.map Char.toLower) = digitsValue 16 hexDigitValue cs := by
  simp [digitsValue, List.foldl_map, hexDigitValue_toLower]

theorem decodeIpv4_field {h : String} (hf : IsIpv4Field h) :
    decodeIpv4 h = .ok (dottedText (wordBytes (digitsValue 16 hexDigitValue h.toList))) := by
  have hrun : IsRun isHexChar h.toList :=
    ⟨fun hnil => by simpa [← String.length_toList, hnil] using hf.1, hf.2⟩
  have hlt := hexDigits_value_lt hf.2
  rw [String.length_toList, hf.1] at hlt
  have hval := readHexField_run hrun
  rw [String.ofList_toList] at hval
  simp only [decodeIpv4, hval, Except.map, ipv4Text_eq]
  -- the value of eight digits is already a 32-bit word
  have hword : ((digitsValue 16 hexDigitValue h.toList : Int) % 4294967296).toNat =
      digitsValue 16 hexDigitValue h.toList := by
    have : Nat.pow 16 8 = 4294967296 := rfl
    omega
  rw [hword]

theorem decodeIpv4_upperHex {a b c d : Nat} (ha : a < 256) (hb : b < 256) (hc : c < 256)
    (hd : d < 256) :
    decodeIpv4 (upperHex 8 (a + 256 * b + 65536 * c + 16777216 * d)) =
      .ok (dottedText [a, b, c, d]) := by
  have hval := readHexField_run (upperHex_run 8 (a + 256 * b + 65536 * c + 16777216 * d))
  rw [String.ofList_toList, digitsValue_upperHex] at hval
  -- the word the kernel writes has the octets as its bytes
  have hbytes : wordBytes ((((a + 256 * b + 65536 * c + 16777216 * d : Nat) : Int) %
      4294967296).toNat) = [a, b, c, d] := by
    simp only [wordBytes, List.cons.injEq, and_true]
    refine ⟨?_, ?_, ?_, ?_⟩ <;> omega
  simp only [decodeIpv4, hval, Except.map, ipv4Text_eq, hbytes]

theorem wordBytes_inj {x y : Nat} (hx : x < 4294967296) (hy : y < 4294967296)
    (h : wordBytes x = wordBytes y) : x = y := by
  simp only [wordBytes, List.cons.injEq, and_true] at h
  omega

/-- Two fields with one text are one field up to case: the text reads back as the bytes, the
bytes give the value, and eight digits of one value differ only in case. -/
theorem toLower_eq_of_decodeIpv4_eq {h h' : String} (hf : IsIpv4Field h) (hf' : IsIpv4Field h')
    (heq : decodeIpv4 h = decodeIpv4 h') : h.toLower = h'.toLower := by
  rw [decodeIpv4_field hf, decodeIpv4_field hf'] at heq
  have hbytes := congrArg readDotted (Except.ok.inj heq)
  rw [readDotted_dottedText (by simp [wordBytes]), readDotted_dottedText (by simp [wordBytes])]
    at hbytes
  have hlt := hexDigits_value_lt hf.2
  have hlt' := hexDigits_value_lt hf'.2
  rw [String.length_toList, hf.1] at hlt
  rw [String.length_toList, hf'.1] at hlt'
  have hmap := map_toLower_eq_of_digitsValue
    (by rw [String.length_toList, String.length_toList, hf.1, hf'.1]) hf.2 hf'.2
    (wordBytes_inj hlt hlt' hbytes)
  rw [← String.toList_inj, String.toLower, String.toLower, String.toList_map, String.toList_map]
  exact hmap

theorem decodeIpv4_eq_of_toLower_eq {h h' : String} (hf : IsIpv4Field h)
    (hf' : IsIpv4Field h') (hlow : h.toLower = h'.toLower) : decodeIpv4 h = decodeIpv4 h' := by
  have hmap : h.toList.map Char.toLower = h'.toList.map Char.toLower := by
    rw [← String.toList_map, ← String.toList_map]
    exact congrArg String.toList hlow
  rw [decodeIpv4_field hf, decodeIpv4_field hf', ← digitsValue_map_toLower h.toList, hmap,
    digitsValue_map_toLower]

/-- The text of an IPv4 address: for every hexadecimal numeral the bytes of its value modulo
2^32, least significant first, written in decimal with dots; on the eight digits the kernel
writes for an address, that address; and on fields of eight digits one text exactly when the
fields agree up to the case of their letters. -/
theorem ipv4_field_text :
    (∀ (s : String) (v : Int), readInteger 16 s = .ok v →
      decodeIpv4 s = .ok (dottedText (wordBytes (v % 4294967296).toNat))) ∧
    (∀ a b c d : Nat, a < 256 → b < 256 → c < 256 → d < 256 →
      decodeIpv4 (upperHex 8 (a + 256 * b + 65536 * c + 16777216 * d)) =
        .ok (dottedText [a, b, c, d])) ∧
    (∀ h h' : String, IsIpv4Field h → IsIpv4Field h' →
      (decodeIpv4 h = decodeIpv4 h' ↔ h.toLower = h'.toLower)) :=
  ⟨fun _ _ => decodeIpv4_of_readInteger, fun _ _ _ _ => decodeIpv4_upperHex,
    fun _ _ hf hf' => ⟨toLower_eq_of_decodeIpv4_eq hf hf', decodeIpv4_eq_of_toLower_eq hf hf'⟩⟩

example : decodeIpv4 "0100007F" = .ok "127.0.0.1" := by decide

end HostSurvey
