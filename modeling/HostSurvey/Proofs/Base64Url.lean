import Mathlib.Data.List.Basic
import HostSurvey.Text.Base64
import HostSurvey.Text.Utf8

/-!
The URL-safe base64 of tokens reads back.
-/

namespace HostSurvey

theorem byteArray_toList_loop (bs : ByteArray) (i : Nat) (r : List UInt8) :
    ByteArray.toList.loop bs i r = r.reverse ++ bs.data.toList.drop i := by
  fun_induction ByteArray.toList.loop bs i r with
  | case1 i r hi ih =>
    rw [ih]
    have hget : bs.get! i = bs.data.toList[i] := by
      simp [ByteArray.get!, hi]
    simp [hget, List.drop_eq_getElem_cons (show i < bs.data.toList.length by simpa using hi)]
  | case2 i r hi =>
    simp [List.drop_eq_nil_of_le (show bs.data.toList.length ≤ i by simp; simpa using hi)]

theorem encodeUtf8_eq (s : String) : encodeUtf8 s = s.toList.flatMap String.utf8EncodeChar := by
  unfold encodeUtf8 ByteArray.toList
  have hbytes : s.toByteArray = s.toList.utf8Encode := by
    rw [← String.toByteArray_ofList, String.ofList_toList]
  rw [byteArray_toList_loop, String.toUTF8_eq_toByteArray, hbytes, List.utf8Encode,
    List.toList_data_toByteArray]
  rfl

theorem encodeUtf8_ascii {s : String} (h : ∀ c ∈ s.toList, c.toNat < 128) :
    encodeUtf8 s = s.toList.map fun c => c.val.toUInt8 := by
  rw [encodeUtf8_eq, List.map_eq_flatMap]
  apply List.flatMap_congr
  intro c hc
  exact String.utf8EncodeChar_eq_singleton (Char.utf8Size_eq_one_iff.mpr (by
    have := h c hc
    simp only [Char.toNat] at this
    exact UInt32.le_iff_toNat_le.mpr (by simpa using (show c.val.toNat ≤ 127 by omega))))

/-- The byte a character of the URL-safe alphabet is read as, in the standard alphabet. -/
def standardDigitOf (c : Char) : UInt8 := standardDigitByte c.val.toUInt8

theorem base64UrlChar_digit {n : Nat} (hn : n < 64) :
    base64Digit (standardDigitOf (base64UrlChar n)) = some n ∧
      standardDigitOf (base64UrlChar n) ≠ 0x3D := by
  have : ∀ n, n < 64 → base64Digit (standardDigitOf (base64UrlChar n)) = some n ∧
      standardDigitOf (base64UrlChar n) ≠ 0x3D := by decide
  exact this n hn

theorem toUInt8_toNat (a : UInt8) : a.toNat.toUInt8 = a := UInt8.ofNat_toNat

theorem decodeBase64From_encode (data : List UInt8) (out : List UInt8) :
    decodeBase64From ((encodeBase64UrlChars data).map standardDigitOf ++
        List.replicate ((4 - (encodeBase64UrlChars data).length % 4) % 4) 0x3D) 0 0 0 out =
      .ok (out.reverse ++ data) := by
  fun_induction encodeBase64UrlChars data generalizing out with
  | case1 => simp [decodeBase64From]
  | case2 a =>
    have ha := a.toNat_lt
    obtain ⟨d1, p1⟩ := base64UrlChar_digit (show a.toNat / 4 < 64 by omega)
    obtain ⟨d2, p2⟩ := base64UrlChar_digit (show a.toNat % 4 * 16 < 64 by omega)
    have hbyte : (a.toNat / 4 * 4 + a.toNat % 4 * 16 / 16).toUInt8 = a := by
      rw [show a.toNat / 4 * 4 + a.toNat % 4 * 16 / 16 = a.toNat by omega, toUInt8_toNat]
    simp only [List.map_cons, List.map_nil, List.cons_append, List.nil_append, decodeBase64From, p1,
      d1, p2, d2, hbyte, if_false]
    simp [decodeBase64From]
  | case3 a b =>
    have ha := a.toNat_lt
    have hb := b.toNat_lt
    obtain ⟨d1, p1⟩ := base64UrlChar_digit (show a.toNat / 4 < 64 by omega)
    obtain ⟨d2, p2⟩ := base64UrlChar_digit (show a.toNat % 4 * 16 + b.toNat / 16 < 64 by omega)
    obtain ⟨d3, p3⟩ := base64UrlChar_digit (show b.toNat % 16 * 4 < 64 by omega)
    have hbyte1 : (a.toNat / 4 * 4 + (a.toNat % 4 * 16 + b.toNat / 16) / 16).toUInt8 = a := by
      rw [show a.toNat / 4 * 4 + (a.toNat % 4 * 16 + b.toNat / 16) / 16 = a.toNat by omega,
        toUInt8_toNat]
    have hbyte2 : ((a.toNat % 4 * 16 + b.toNat / 16) % 16 * 16 + b.toNat % 16 * 4 / 4).toUInt8 = b := by
      rw [show (a.toNat % 4 * 16 + b.toNat / 16) % 16 * 16 + b.toNat % 16 * 4 / 4 = b.toNat by omega,
        toUInt8_toNat]
    simp only [List.map_cons, List.map_nil, List.cons_append, List.nil_append, decodeBase64From, p1,
      d1, p2, d2, p3, d3, hbyte1, hbyte2, if_false]
    simp [decodeBase64From]
  | case4 a b c rest ih =>
    have ha := a.toNat_lt
    have hb := b.toNat_lt
    have hc := c.toNat_lt
    obtain ⟨d1, p1⟩ := base64UrlChar_digit (show a.toNat / 4 < 64 by omega)
    obtain ⟨d2, p2⟩ := base64UrlChar_digit (show a.toNat % 4 * 16 + b.toNat / 16 < 64 by omega)
    obtain ⟨d3, p3⟩ := base64UrlChar_digit (show b.toNat % 16 * 4 + c.toNat / 64 < 64 by omega)
    obtain ⟨d4, p4⟩ := base64UrlChar_digit (show c.toNat % 64 < 64 by omega)
    have hbyte1 : (a.toNat / 4 * 4 + (a.toNat % 4 * 16 + b.toNat / 16) / 16).toUInt8 = a := by
      rw [show a.toNat / 4 * 4 + (a.toNat % 4 * 16 + b.toNat / 16) / 16 = a.toNat by omega,
        toUInt8_toNat]
    have hbyte2 : ((a.toNat % 4 * 16 + b.toNat / 16) % 16 * 16 + (b.toNat % 16 * 4 + c.toNat / 64) / 4).toUInt8 = b := by
      rw [show (a.toNat % 4 * 16 + b.toNat / 16) % 16 * 16 + (b.toNat % 16 * 4 + c.toNat / 64) / 4 = b.toNat by omega,
        toUInt8_toNat]
    have hbyte3 : ((b.toNat % 16 * 4 + c.toNat / 64) % 4 * 64 + c.toNat % 64).toUInt8 = c := by
      rw [show (b.toNat % 16 * 4 + c.toNat / 64) % 4 * 64 + c.toNat % 64 = c.toNat by omega,
        toUInt8_toNat]
    have hlen : (base64UrlChar (a.toNat / 4) :: base64UrlChar (a.toNat % 4 * 16 + b.toNat / 16) ::
        base64UrlChar (b.toNat % 16 * 4 + c.toNat / 64) :: base64UrlChar (c.toNat % 64) ::
        encodeBase64UrlChars rest).length % 4 = (encodeBase64UrlChars rest).length % 4 := by
      simp; omega
    rw [hlen]
    simp only [List.map_cons, List.cons_append, decodeBase64From, p1, d1, p2, d2, p3, d3, p4, d4,
      hbyte1, hbyte2, hbyte3, if_false, ih]
    simp

theorem mem_encodeBase64UrlChars {data : List UInt8} {c : Char}
    (h : c ∈ encodeBase64UrlChars data) : ∃ n, n < 64 ∧ c = base64UrlChar n := by
  fun_induction encodeBase64UrlChars data with
  | case1 => simp at h
  | case2 a =>
    have := a.toNat_lt
    simp only [List.mem_cons, List.not_mem_nil, or_false] at h
    rcases h with rfl | rfl
    · exact ⟨_, by omega, rfl⟩
    · exact ⟨_, by omega, rfl⟩
  | case3 a b =>
    have := a.toNat_lt
    have := b.toNat_lt
    simp only [List.mem_cons, List.not_mem_nil, or_false] at h
    rcases h with rfl | rfl | rfl
    · exact ⟨_, by omega, rfl⟩
    · exact ⟨_, by omega, rfl⟩
    · exact ⟨_, by omega, rfl⟩
  | case4 a b c rest ih =>
    have := a.toNat_lt
    have := b.toNat_lt
    have := c.toNat_lt
    simp only [List.mem_cons] at h
    rcases h with rfl | rfl | rfl | rfl | h
    · exact ⟨_, by omega, rfl⟩
    · exact ⟨_, by omega, rfl⟩
    · exact ⟨_, by omega, rfl⟩
    · exact ⟨_, by omega, rfl⟩
    · exact ih h

theorem encodeBase64UrlChars_length_mod (data : List UInt8) :
    (encodeBase64UrlChars data).length % 4 ≠ 1 := by
  fun_induction encodeBase64UrlChars data with
  | case4 a b c rest ih => simp; omega
  | _ => simp

theorem ascii_of_mem_encodeBase64Url {data : List UInt8} {c : Char}
    (hc : c ∈ (encodeBase64Url data).toList) : c.toNat < 128 := by
  rw [encodeBase64Url, String.toList_ofList] at hc
  obtain ⟨n, hn, rfl⟩ := mem_encodeBase64UrlChars hc
  have : ∀ n, n < 64 → (base64UrlChar n).toNat < 128 := by decide
  exact this n hn

theorem encodeUtf8_encodeBase64Url (data : List UInt8) :
    encodeUtf8 (encodeBase64Url data) = (encodeBase64UrlChars data).map fun c => c.val.toUInt8 := by
  rw [encodeUtf8_ascii fun _ => ascii_of_mem_encodeBase64Url, encodeBase64Url, String.toList_ofList]

theorem dot_not_mem_encodeBase64Url (data : List UInt8) :
    (0x2E : UInt8) ∉ encodeUtf8 (encodeBase64Url data) := by
  rw [encodeUtf8_encodeBase64Url]
  intro h
  obtain ⟨c, hc, hdot⟩ := List.mem_map.mp h
  obtain ⟨n, hn, rfl⟩ := mem_encodeBase64UrlChars hc
  have : ∀ n, n < 64 → (base64UrlChar n).val.toUInt8 ≠ 0x2E := by decide
  exact this n hn hdot

/-- URL-safe base64 text, as the bytes of its characters, reads back as the bytes it was
written from. -/
theorem decodeBase64Url_encode (data : List UInt8) :
    decodeBase64Url (encodeUtf8 (encodeBase64Url data)) = .ok data := by
  have hbytes := encodeUtf8_encodeBase64Url data
  have hdigits : ∀ c ∈ encodeBase64UrlChars data, (base64Digit (standardDigitOf c)).isSome = true := by
    intro c hc
    obtain ⟨n, hn, rfl⟩ := mem_encodeBase64UrlChars hc
    simp [(base64UrlChar_digit hn).1]
  have hmod := encodeBase64UrlChars_length_mod data
  unfold decodeBase64Url
  simp only [hbytes, List.length_map, List.map_append, List.map_map, List.map_replicate]
  have hpad : standardDigitByte 0x3D = 0x3D := by decide
  have hstd : (standardDigitByte ∘ fun c : Char => c.val.toUInt8) = standardDigitOf := rfl
  rw [hpad, hstd]
  have hstrict : isStrictBase64 ((encodeBase64UrlChars data).map standardDigitOf ++
      List.replicate ((4 - (encodeBase64UrlChars data).length % 4) % 4) 0x3D) = true := by
    unfold isStrictBase64
    have hpadNone : base64Digit 0x3D = none := by decide
    rw [List.takeWhile_append_of_pos (by simpa using hdigits)]
    simp only [List.takeWhile_replicate, hpadNone, Option.isSome_none, Bool.false_eq_true,
      if_false, List.append_nil, List.length_map, List.drop_left', List.all_replicate]
    rcases (show (encodeBase64UrlChars data).length % 4 = 0 ∨
        (encodeBase64UrlChars data).length % 4 = 2 ∨
        (encodeBase64UrlChars data).length % 4 = 3 by omega) with h | h | h <;> simp [h]
  rw [if_pos hstrict, decodeBase64, decodeBase64From_encode]
  rfl

end HostSurvey
