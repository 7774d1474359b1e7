import HostSurvey.Json.Bytes
import HostSurvey.Value.Convert
import HostSurvey.Proofs.Base64Url
import HostSurvey.Proofs.JsonString

/-!
Flat records read back from JSON.
-/

namespace HostSurvey

namespace JsonRead

variable {s : Array Char} {i depth : Nat}

/-- The values a flat record holds: texts that read back, and integers that are not negative
and have at most 4300 digits. -/
def IsFlatValue : Value → Prop
  | .str u => ReadsBack u
  | .int n => 0 ≤ n ∧ (Nat.toDigits 10 n.toNat).length ≤ maxNumeralDigits
  | _ => False

instance : DecidablePred IsFlatValue
  | .str u => inferInstanceAs (Decidable (ReadsBack u))
  | .int n => inferInstanceAs (Decidable (0 ≤ n ∧ (Nat.toDigits 10 n.toNat).length ≤ maxNumeralDigits))
  | .null | .bool _ | .float _ | .bytes _ | .list _ | .dict _ | .set _ | .date _ | .stamp _
  | .backRef _ => isFalse id

theorem toList_toString_natCast (m : Nat) : (toString (m : Int)).toList = Nat.toDigits 10 m := by
  simp [toString, Int.repr, Nat.repr]

/-- A flat value written tight, followed by a comma or a closing brace, is read back as
itself. -/
theorem readValue_flat {v : Value} {d : Char} {t : List Char} (hv : IsFlatValue v)
    (hd : d = ',' ∨ d = '}')
    (hs : s.toList.drop i = (writeJsonAt JsonLayout.tight 1 v).toList ++ d :: t) :
    readValue s (depth + 1) i = .ok (v, i + (writeJsonAt JsonLayout.tight 1 v).toList.length) := by
  cases v with
  | str u =>
    rw [writeJsonAt] at hs ⊢
    exact readValue_string hv hs
  | int n =>
    obtain ⟨m, rfl⟩ := Int.eq_ofNat_of_zero_le hv.1
    rw [writeJsonAt, toList_toString_natCast] at hs ⊢
    exact readValue_digits hd hv.2 hs
  | _ => exact hv.elim

end JsonRead

/-- The text of one member of a record written tight: the key, a colon and the value. -/
def memberText (e : String × Value) : String :=
  jsonString true e.1 ++ ":" ++ writeJsonAt JsonLayout.tight 1 e.2

/-- A record with members is written tight as its members between braces, separated by
commas. -/
theorem writeJson_record {es : List (String × Value)} (hne : es ≠ []) :
    writeJson JsonLayout.tight (Value.record es) =
      "\x7b" ++ ",".intercalate (es.map memberText) ++ "\x7d" := by
  unfold writeJson Value.record
  rw [writeJsonAt, List.attach_map_val (f := fun e : Value × Value =>
    jsonString JsonLayout.tight.asciiOnly (jsonKeyText e.1) ++ JsonLayout.tight.keySeparator ++
      writeJsonAt JsonLayout.tight (0 + 1) e.2)]
  simp [hne, JsonLayout.tight]
  rfl

theorem toList_memberText (e : String × Value) :
    (memberText e).toList =
      (jsonString true e.1).toList ++ ':' :: (writeJsonAt JsonLayout.tight 1 e.2).toList := by
  simp [memberText]

namespace JsonRead

variable {s : Array Char} {i depth : Nat}

theorem flat_text_head {v : Value} (hv : IsFlatValue v) :
    ∃ c r, (writeJsonAt JsonLayout.tight 1 v).toList = c :: r ∧ isBlankJ c = false := by
  cases v with
  | str u => exact ⟨'"', _, by rw [writeJsonAt]; exact toList_jsonString u, rfl⟩
  | int n =>
    obtain ⟨m, rfl⟩ := Int.eq_ofNat_of_zero_le hv.1
    obtain ⟨c0, rest, hc0⟩ := List.exists_cons_of_ne_nil (Nat.toDigits_ne_nil (b := 10) (n := m))
    obtain ⟨d0, hd0, rfl⟩ := mem_toDigits (b := 10) (by decide) (by rw [hc0]; exact List.mem_cons_self)
    have key : ∀ d, d < 10 → isBlankJ (Nat.digitChar d) = false := by decide
    exact ⟨_, rest, by rw [writeJsonAt, toList_toString_natCast, hc0], key d0 hd0⟩
  | _ => exact hv.elim

theorem insertEntry_fresh {acc : List (Value × Value)} {k v : Value}
    (hfresh : acc.any (fun a => Value.sameKey a.1 k) = false) :
    Value.insertEntry acc k v = acc ++ [(k, v)] := by
  rw [Value.insertEntry, if_neg (by simp [hfresh])]

/-- One member of a flat record, followed by a comma or the closing brace, is read and added
to the entries so far. -/
theorem readMembers_member {acc : List (Value × Value)} {first : Bool} {e : String × Value}
    {d : Char} {t : List Char} (hk : ReadsBack e.1) (hv : IsFlatValue e.2)
    (hfresh : acc.any (fun a => Value.sameKey a.1 (.str e.1)) = false) (hd : d = ',' ∨ d = '}')
    (hs : s.toList.drop i = (memberText e).toList ++ d :: t) :
    readValue.readMembers s (depth + 1) i acc first =
      if d = '}' then .ok (.dict (acc ++ [(.str e.1, e.2)]), i + (memberText e).toList.length + 1)
      else readValue.readMembers s depth (skipBlanks s (i + (memberText e).toList.length + 1))
        (acc ++ [(.str e.1, e.2)]) false := by
  rw [toList_memberText, toList_jsonString] at hs ⊢
  obtain ⟨c, r, hV, hc⟩ := flat_text_head hv
  have hkey : s.toList.drop (i + 1) = e.1.toList.flatMap (jsonEscapeChar true) ++
      '"' :: (':' :: (writeJsonAt JsonLayout.tight 1 e.2).toList ++ d :: t) := by
    rw [drop_add_of_drop hs 1]
    simp
  have hread : readString s i (i + 1) [] = .ok (e.1.toList.reverse ++ [],
      i + 1 + (e.1.toList.flatMap (jsonEscapeChar true)).length + 1) :=
    readString_escaped e.1.toList hk hkey
  -- the key's closing quote, the colon, the value and the character after it
  have hquote := drop_of_drop_append hkey
  have hcolon := drop_add_of_drop hquote 1
  have hval : s.toList.drop
      (i + 1 + (e.1.toList.flatMap (jsonEscapeChar true)).length + 1 + 1) =
      (writeJsonAt JsonLayout.tight 1 e.2).toList ++ d :: t := by
    rw [drop_add_of_drop hcolon 1]
    rfl
  have hafter := drop_of_drop_append hval
  rw [List.drop_one, List.tail_cons] at hcolon
  have hend : i + ('"' :: (e.1.toList.flatMap (jsonEscapeChar true) ++ ['"']) ++ ':' ::
      (writeJsonAt JsonLayout.tight 1 e.2).toList).length =
      i + 1 + (e.1.toList.flatMap (jsonEscapeChar true)).length + 1 + 1 +
        (writeJsonAt JsonLayout.tight 1 e.2).toList.length := by
    simp
    omega
  have hskipValue := skipBlanks_of_not_blank (by rw [hval, hV]; rfl) hc
  have hskipEnd := skipBlanks_of_not_blank hafter (by rcases hd with rfl | rfl <;> rfl)
  rw [hend, readValue.readMembers]
  simp only [getElem?_head hs, Option.some.injEq, hread, skipBlanks_of_not_blank hcolon rfl,
    getElem?_head hcolon, hskipValue, readValue_flat hv hd hval, List.append_nil,
    String.ofList_toList, List.reverse_reverse, insertEntry_fresh hfresh, hskipEnd,
    getElem?_head hafter]
  rcases hd with rfl | rfl <;> simp

theorem intercalate_members_head (e : String × Value) (l : List String) :
    ∃ r, (",".intercalate (memberText e :: l)).toList = '"' :: r := by
  cases l with
  | nil => exact ⟨_, by rw [String.intercalate_singleton, toList_memberText, toList_jsonString]; rfl⟩
  | cons m l =>
    exact ⟨_, by rw [String.intercalate_cons_cons, String.toList_append, String.toList_append,
      toList_memberText, toList_jsonString]; rfl⟩

/-- The members of a flat record with distinct keys, written tight, are read back in order
after the entries so far. -/
theorem readMembers_record {t : List Char} :
    ∀ (es : List (String × Value)) {acc : List (Value × Value)} {depth i : Nat} {first : Bool},
      es ≠ [] → es.length ≤ depth → (es.map Prod.fst).Nodup →
      (∀ e ∈ es, ReadsBack e.1 ∧ IsFlatValue e.2) →
      (∀ e ∈ es, acc.any (fun a => Value.sameKey a.1 (.str e.1)) = false) →
      s.toList.drop i = (",".intercalate (es.map memberText)).toList ++ '\x7d' :: t →
      readValue.readMembers s depth i acc first =
        .ok (.dict (acc ++ es.map fun e => (.str e.1, e.2)),
          i + (",".intercalate (es.map memberText)).toList.length + 1)
  | [], _, _, _, _, hne, _, _, _, _, _ => absurd rfl hne
  | e :: es, acc, depth, i, first, _, hdepth, hnodup, hflat, hfresh, hs => by
    obtain ⟨depth, rfl⟩ : ∃ d, depth = d + 1 := ⟨depth - 1, by simp at hdepth; omega⟩
    obtain ⟨hk, hv⟩ := hflat e (by simp)
    cases es with
    | nil =>
      simp only [List.map_cons, List.map_nil, String.intercalate_singleton] at hs ⊢
      rw [readMembers_member hk hv (hfresh e (by simp)) (.inr rfl) hs, if_pos rfl]
    | cons e' es =>
      simp only [List.map_cons, String.intercalate_cons_cons, String.toList_append] at hs ⊢
      have hs' : s.toList.drop i = (memberText e).toList ++
          ',' :: ((",".intercalate (memberText e' :: es.map memberText)).toList ++ '\x7d' :: t) := by
        rw [hs]
        simp
      have hcomma := drop_of_drop_append hs'
      have hrest : s.toList.drop (i + (memberText e).toList.length + 1) =
          (",".intercalate (memberText e' :: es.map memberText)).toList ++ '\x7d' :: t := by
        rw [drop_add_of_drop hcomma 1]
        rfl
      obtain ⟨r, hr⟩ := intercalate_members_head e' (es.map memberText)
      have hskip := skipBlanks_of_not_blank (by rw [hrest, hr]; rfl) (show isBlankJ '"' = false from rfl)
      have hnd := List.nodup_cons.mp hnodup
      have hfresh' : ∀ x ∈ e' :: es, (acc ++ [(Value.str e.1, e.2)]).any
          (fun a => Value.sameKey a.1 (.str x.1)) = false := by
        intro x hx
        have hne : e.1 ≠ x.1 := fun hex => hnd.1 (List.mem_map.mpr ⟨x, hx, hex.symm⟩)
        have hkey : Value.sameKey (.str e.1) (.str x.1) = false := by simp [Value.sameKey, hne]
        simp [hfresh x (List.mem_cons_of_mem _ hx), hkey]
      have hrec : readValue.readMembers s depth (i + (memberText e).toList.length + 1)
          (acc ++ [(Value.str e.1, e.2)]) false = _ := readMembers_record (e' :: es) (List.cons_ne_nil _ _)
        (by simp only [List.length_cons] at hdepth ⊢; omega) hnd.2
        (fun x hx => hflat x (List.mem_cons_of_mem _ hx)) hfresh' hrest
      rw [readMembers_member hk hv (hfresh e (by simp)) (.inl rfl) hs', if_neg (by decide), hskip,
        hrec]
      have hsep : ",".toList.length = 1 := by simp
      simp only [List.map_cons, List.append_assoc, List.singleton_append, List.length_append, hsep,
        Except.ok.injEq, Prod.mk.injEq, true_and]
      omega

theorem readMembers_close {acc : List (Value × Value)} (h : s[i]? = some '\x7d') :
    readValue.readMembers s (depth + 1) i acc true = .ok (.dict acc, i + 1) := by
  rw [readValue.readMembers, if_pos ⟨rfl, h⟩]

theorem skipBlanks_of_size_le (h : s.size ≤ i) : skipBlanks s i = i := by
  rw [skipBlanks, dif_neg (by omega)]

end JsonRead

/-- Characters from the space to the tilde: printable ASCII. -/
def Printable (cs : List Char) : Prop := ∀ c ∈ cs, 0x20 ≤ c.toNat ∧ c.toNat < 0x7F

theorem printable_nil : Printable [] := fun _ h => absurd h List.not_mem_nil

theorem printable_cons {c : Char} {cs : List Char} (hc : 0x20 ≤ c.toNat ∧ c.toNat < 0x7F)
    (hs : Printable cs) : Printable (c :: cs) := by
  intro x hx
  rcases List.mem_cons.mp hx with rfl | hx
  · exact hc
  · exact hs x hx

theorem printable_singleton {c : Char} (hc : 0x20 ≤ c.toNat ∧ c.toNat < 0x7F) : Printable [c] :=
  printable_cons hc printable_nil

theorem printable_append {xs ys : List Char} (hx : Printable xs) (hy : Printable ys) :
    Printable (xs ++ ys) := by
  intro c hc
  rcases List.mem_append.mp hc with hc | hc
  · exact hx c hc
  · exact hy c hc

theorem printable_hexDigits {v : Nat} (hv : v < 65536) : Printable (hexDigits 4 v) := by
  have key : ∀ d, d < 16 → 0x20 ≤ (Nat.digitChar d).toNat ∧ (Nat.digitChar d).toNat < 0x7F := by
    decide
  rw [hexDigits_four hv]
  intro c hc
  simp only [List.mem_cons, List.not_mem_nil, or_false] at hc
  rcases hc with rfl | rfl | rfl | rfl <;> exact key _ (by omega)

theorem printable_jsonEscapeChar (c : Char) : Printable (jsonEscapeChar true c) := by
  rcases jsonEscapeChar_cases c with ⟨x, hx, hmem⟩ | ⟨v, hv, hx, -⟩ |
    ⟨hi, lo, hhi, hlo, hx, -⟩ | ⟨hx, -, -, hlow, hhigh⟩ <;> rw [hx]
  · simp only [writtenEscapes, List.mem_cons, Prod.mk.injEq, List.not_mem_nil, or_false] at hmem
    rcases hmem with ⟨rfl, -⟩ | ⟨rfl, -⟩ | ⟨rfl, -⟩ | ⟨rfl, -⟩ | ⟨rfl, -⟩ | ⟨rfl, -⟩ | ⟨rfl, -⟩ <;>
      exact printable_cons (by decide) (printable_singleton (by decide))
  · exact printable_cons (by decide) (printable_cons (by decide) (printable_hexDigits hv))
  · exact printable_append
      (printable_cons (by decide) (printable_cons (by decide) (printable_hexDigits (by omega))))
      (printable_cons (by decide) (printable_cons (by decide) (printable_hexDigits (by omega))))
  · exact printable_singleton ⟨by omega, hhigh⟩

theorem length_le_members (es : List (String × Value)) :
    es.length ≤ (",".intercalate (es.map memberText)).toList.length := by
  have hpos : ∀ e, 1 ≤ (memberText e).toList.length := fun e => by
    rw [toList_memberText, JsonRead.toList_jsonString]
    simp
  induction es with
  | nil => simp
  | cons e es ih =>
    cases es with
    | nil => simpa using hpos e
    | cons e' es =>
      have hsep : ",".toList.length = 1 := by simp
      simp only [List.map_cons, String.intercalate_cons_cons, String.toList_append,
        List.length_append, List.length_cons, hsep] at ih ⊢
      have := hpos e
      omega

/-- A record of texts and integers that are not negative, with distinct keys, written as
JSON on one line without spaces, is read back as itself: when no text holds a high stand-in
right before a low one, and no integer has more than 4300 digits. -/
theorem readJson_writeJson_record {es : List (String × Value)} (hkeys : (es.map Prod.fst).Nodup)
    (hflat : ∀ e ∈ es, JsonRead.ReadsBack e.1 ∧ JsonRead.IsFlatValue e.2) :
    readJson (writeJson JsonLayout.tight (Value.record es)) = .ok (Value.record es) := by
  -- the text is a brace, the members and a brace; the members are read from offset 1
  obtain ⟨M, hM, hbound, hhead, hread⟩ : ∃ M : List Char,
      (writeJson JsonLayout.tight (Value.record es)).toList = '\x7b' :: (M ++ ['\x7d']) ∧
      es.length ≤ M.length ∧
      (∃ c r, M ++ ['\x7d'] = c :: r ∧ JsonRead.isBlankJ c = false) ∧
      ∀ (s : Array Char) (depth : Nat), es.length ≤ depth → s.toList.drop 1 = M ++ ['\x7d'] →
        JsonRead.readValue.readMembers s (depth + 1) 1 [] true = .ok (Value.record es, M.length + 2) := by
    by_cases hne : es = []
    · subst hne
      refine ⟨[], by simp [writeJson, writeJsonAt, Value.record], le_rfl, ⟨_, _, rfl, rfl⟩,
        fun s depth _ hs => ?_⟩
      rw [JsonRead.readMembers_close (by simpa using JsonRead.getElem?_of_drop hs 0)]
      rfl
    · obtain ⟨e, es', rfl⟩ := List.exists_cons_of_ne_nil hne
      obtain ⟨r, hr⟩ := JsonRead.intercalate_members_head e (es'.map memberText)
      refine ⟨(",".intercalate ((e :: es').map memberText)).toList,
        by rw [writeJson_record hne]; simp, length_le_members _,
        ⟨'"', r ++ ['\x7d'], by rw [List.map_cons, hr]; rfl, rfl⟩,
        fun s depth hd hs => ?_⟩
      rw [JsonRead.readMembers_record (e :: es') hne (by omega) hkeys hflat (fun _ _ => rfl) hs]
      simp [Value.record]
      omega
  unfold readJson
  generalize hs : (writeJson JsonLayout.tight (Value.record es)).toList.toArray = s
  have hsl : s.toList.drop 0 = '\x7b' :: (M ++ ['\x7d']) := by rw [← hs, List.toList_toArray]; exact hM
  have hsize : s.size = M.length + 2 := by
    rw [← Array.length_toList, ← List.drop_zero (l := s.toList), hsl]
    simp
  have hd1 : s.toList.drop 1 = M ++ ['\x7d'] := by rw [JsonRead.drop_add_of_drop hsl 1]; rfl
  obtain ⟨c, r, hcr, hc⟩ := hhead
  have hvalue : JsonRead.readValue s (2 * s.size + 2) 0 = .ok (Value.record es, M.length + 2) := by
    show JsonRead.readValue s (2 * s.size + 1 + 1) 0 = _
    rw [JsonRead.readValue, JsonRead.getElem?_head hsl]
    simp only
    rw [JsonRead.skipBlanks_of_not_blank (hd1.trans hcr) hc]
    exact hread s (2 * s.size) (by omega) hd1
  simp only [JsonRead.skipBlanks_of_not_blank hsl rfl, hvalue,
    JsonRead.skipBlanks_of_size_le (show s.size ≤ M.length + 2 by omega)]
  rw [if_pos hsize.symm]

theorem printable_intercalate (ls : List String) (h : ∀ l ∈ ls, Printable l.toList) :
    Printable (",".intercalate ls).toList := by
  induction ls with
  | nil => simpa using printable_nil
  | cons l ls ih =>
    cases ls with
    | nil => simpa using h l (by simp)
    | cons l' ls =>
      rw [String.intercalate_cons_cons, String.toList_append, String.toList_append]
      exact printable_append (printable_append (h l (by simp))
        (by simpa using printable_singleton (by decide)))
        (ih fun x hx => h x (List.mem_cons_of_mem _ hx))

theorem printable_jsonString (u : String) : Printable (jsonString true u).toList := by
  rw [JsonRead.toList_jsonString]
  intro c hc
  simp only [List.mem_cons, List.mem_append, List.mem_flatMap, List.not_mem_nil, or_false] at hc
  rcases hc with rfl | ⟨x, -, hx⟩ | rfl
  · decide
  · exact printable_jsonEscapeChar x c hx
  · decide

theorem printable_flat {v : Value} (hv : JsonRead.IsFlatValue v) :
    Printable (writeJsonAt JsonLayout.tight 1 v).toList := by
  cases v with
  | str u =>
    rw [writeJsonAt]
    exact printable_jsonString u
  | int n =>
    obtain ⟨m, rfl⟩ := Int.eq_ofNat_of_zero_le hv.1
    rw [writeJsonAt, JsonRead.toList_toString_natCast]
    have key : ∀ d, d < 10 → 0x20 ≤ (Nat.digitChar d).toNat ∧ (Nat.digitChar d).toNat < 0x7F := by
      decide
    intro c hc
    obtain ⟨d, hd, rfl⟩ := mem_toDigits (by decide) hc
    exact key d hd
  | _ => exact hv.elim

theorem printable_memberText {e : String × Value} (hv : JsonRead.IsFlatValue e.2) :
    Printable (memberText e).toList := by
  rw [toList_memberText]
  exact printable_append (printable_jsonString e.1)
    (printable_cons (by decide) (printable_flat hv))

theorem printable_writeJson_record {es : List (String × Value)}
    (hflat : ∀ e ∈ es, JsonRead.IsFlatValue e.2) :
    Printable (writeJson JsonLayout.tight (Value.record es)).toList := by
  by_cases hne : es = []
  · subst hne
    have hempty : (writeJson JsonLayout.tight (Value.record [])).toList = ['\x7b', '\x7d'] := by
      simp [writeJson, writeJsonAt, Value.record]
    rw [hempty]
    exact printable_cons (by decide) (printable_singleton (by decide))
  · rw [writeJson_record hne, String.toList_append, String.toList_append]
    refine printable_append (printable_append (by simpa using printable_singleton (by decide))
      (printable_intercalate _ ?_)) (by simpa using printable_singleton (by decide))
    intro l hl
    obtain ⟨e, he, rfl⟩ := List.mem_map.mp hl
    exact printable_memberText (hflat e he)

theorem detectEncoding_printable {bs : List UInt8}
    (h : ∀ b ∈ bs, 0x20 ≤ b.toNat ∧ b.toNat < 0x80) : detectEncoding bs = .utf8 := by
  -- no printable byte is zero or starts a byte order mark
  have hbyte : ∀ b ∈ bs, b ≠ 0 ∧ b ≠ 0xEF ∧ b ≠ 0xFE ∧ b ≠ 0xFF := fun b hb => by
    have hb := h b hb
    refine ⟨?_, ?_, ?_, ?_⟩ <;> rintro rfl <;> simp at hb
  unfold detectEncoding
  cases bs with
  | nil => rfl
  | cons b0 rest =>
    obtain ⟨hz, hef, hfe, hff⟩ := hbyte b0 List.mem_cons_self
    simp only [List.isPrefixOf, beq_eq_false_iff_ne.mpr (Ne.symm hz),
      beq_eq_false_iff_ne.mpr (Ne.symm hef), beq_eq_false_iff_ne.mpr (Ne.symm hfe),
      beq_eq_false_iff_ne.mpr (Ne.symm hff), Bool.false_and, Bool.or_self, Bool.false_eq_true,
      if_false]
    -- without a mark, the first two bytes decide, and neither is zero
    split
    next _ b1 _ _ _ heq =>
      obtain ⟨rfl, rfl⟩ := List.cons.inj heq
      simp [hz, (hbyte b1 (by simp)).1]
    next _ b1 heq =>
      obtain ⟨rfl, rfl⟩ := List.cons.inj heq
      simp [hz, (hbyte b1 (by simp)).1]
    next => rfl

theorem decodeUtf8PassingFrom_ascii (pos : Nat) {bs : List UInt8} (h : ∀ b ∈ bs, b.toNat < 0x80) :
    decodeUtf8PassingFrom pos bs = .ok (bs.map fun b => Char.ofNat b.toNat) := by
  induction bs generalizing pos with
  | nil => rw [decodeUtf8PassingFrom]; rfl
  | cons b rest ih =>
    have hb := h b List.mem_cons_self
    have hs : spellsSurrogate b rest = false := by
      unfold spellsSurrogate
      split
      · have : b ≠ 0xED := fun e => by simp [e] at hb
        simp [this]
      · rfl
    have hr : readUtf8Char b rest = .ok (Char.ofNat b.toNat, rest) := by
      simp [readUtf8Char, leadShape, hb]
    rw [decodeUtf8PassingFrom, if_neg (by simp [hs])]
    split
    next c after hrd =>
      rw [hr] at hrd
      cases hrd
      rw [ih _ fun b' hb' => h b' (List.mem_cons_of_mem _ hb')]
      rfl
    next hrd => rw [hr] at hrd; cases hrd

theorem decodeJsonBytes_printable {t : String} (h : Printable t.toList) :
    decodeJsonBytes (encodeUtf8 t) = .ok t := by
  have hbyte : ∀ c ∈ t.toList, c.val.toUInt8.toNat = c.toNat := fun c hc => by
    have := (h c hc).2
    rw [UInt32.toNat_toUInt8]
    exact Nat.mod_eq_of_lt (by simp only [Char.toNat] at this; omega)
  rw [encodeUtf8_ascii fun c hc => by have := (h c hc).2; omega]
  unfold decodeJsonBytes
  rw [detectEncoding_printable (by
    intro b hb
    obtain ⟨c, hc, rfl⟩ := List.mem_map.mp hb
    rw [hbyte c hc]
    exact ⟨(h c hc).1, by have := (h c hc).2; omega⟩)]
  rw [decodeIn, decodeUtf8PassingFrom_ascii 0 (by
    intro b hb
    obtain ⟨c, hc, rfl⟩ := List.mem_map.mp hb
    rw [hbyte c hc]
    have := (h c hc).2
    omega)]
  have hchars : (t.toList.map fun c => c.val.toUInt8).map (fun b => Char.ofNat b.toNat) = t.toList := by
    rw [List.map_map]
    conv => rhs; rw [← List.map_id t.toList]
    exact List.map_congr_left fun c hc => by
      simp only [Function.comp_apply, id]
      rw [hbyte c hc, Char.ofNat_toNat]
  rw [hchars]
  simp [Except.map]

theorem readJsonBytes_writeJson_record {es : List (String × Value)}
    (hkeys : (es.map Prod.fst).Nodup)
    (hflat : ∀ e ∈ es, JsonRead.ReadsBack e.1 ∧ JsonRead.IsFlatValue e.2) :
    readJsonBytes (encodeUtf8 (writeJson JsonLayout.tight (Value.record es))) = .ok (Value.record es) := by
  unfold readJsonBytes
  rw [decodeJsonBytes_printable (printable_writeJson_record fun e he => (hflat e he).2)]
  simp only
  rw [readJson_writeJson_record hkeys hflat]

end HostSurvey
