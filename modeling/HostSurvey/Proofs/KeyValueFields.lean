import HostSurvey.Proofs.TableLines

/-!
The `key: value` fields of a small kernel file.
-/

namespace HostSurvey

/-! ### Splitting a line at its first separator -/

/-- A line has no cut at a separator that is not empty exactly when the separator does not
occur in it. -/
theorem splitFirst_eq_none_iff {sep : List Char} (hsep : sep ≠ []) (line : List Char) :
    splitFirst sep line = none ↔ ¬ sep <:+: line := by
  induction line with
  | nil =>
    have hs : sep.isEmpty = false := by simpa using hsep
    simp [splitFirst, hs, List.infix_nil, hsep]
  | cons c rest ih =>
    unfold splitFirst
    split
    next hp =>
      simpa using (List.isPrefixOf_iff_prefix.1 hp).isInfix
    next hp =>
      rw [Option.map_eq_none_iff, ih, List.infix_cons_iff]
      simp only [not_or]
      exact ⟨fun h => ⟨fun hp' => hp (List.isPrefixOf_iff_prefix.2 hp'), h⟩, fun h => h.2⟩

/-! ### The fields of lines -/

/-- The field a line gives: the text before its first separator and the text after it, both
without surrounding blanks; none for a line without the separator. -/
def lineField (sep line : List Char) : Option (String × String) :=
  (splitFirst sep line).map fun kv =>
    (String.ofList (trimBlankChars kv.1), String.ofList (trimBlankChars kv.2))

namespace FileTree

theorem lookup_map_replace (fields : List (String × String)) (k v key : String) :
    (fields.map fun kv => if kv.1 == k then (k, v) else kv).lookup key =
      if key = k then (fields.lookup key).map fun _ => v else fields.lookup key := by
  induction fields with
  | nil => split <;> rfl
  | cons kv rest ih =>
    obtain ⟨k', v'⟩ := kv
    by_cases hk : k' = k
    · subst hk
      have hhead : (if ((k', v').1 == k') = true then (k', v) else (k', v')) = (k', v) := by simp
      rw [List.map_cons, hhead]
      by_cases hkey : key = k'
      · subst hkey
        simp
      · simp only [List.lookup_cons, beq_false_of_ne hkey, ih, if_neg hkey]
    · have hhead : (if ((k', v').1 == k) = true then (k, v) else (k', v')) = (k', v') := by
        simp [hk]
      rw [List.map_cons, hhead]
      by_cases hkey : key = k'
      · subst hkey
        simp [hk]
      · simp only [List.lookup_cons, beq_false_of_ne hkey, ih]

theorem lookup_addField (sep line : List Char) (fields : List (String × String)) (key : String) :
    (addField sep fields line).lookup key = ((lineField sep line).toList ++ fields).lookup key := by
  unfold addField lineField
  cases hs : splitFirst sep line with
  | none => rfl
  | some kv =>
    obtain ⟨key₀, value₀⟩ := kv
    simp only [Option.map_some, Option.toList_some, List.singleton_append, List.lookup_cons]
    split
    next hany =>
      -- the key is there: its values are replaced in place
      obtain ⟨kv, hkv, hkeq⟩ := List.any_eq_true.1 hany
      rw [lookup_map_replace]
      by_cases hkey : key = String.ofList (trimBlankChars key₀)
      · subst hkey
        have hsome : (fields.lookup (String.ofList (trimBlankChars key₀))).isSome := by
          rw [List.lookup_isSome_iff]
          exact ⟨kv, hkv, beq_iff_eq.2 (beq_iff_eq.1 hkeq).symm⟩
        obtain ⟨w, hw⟩ := Option.isSome_iff_exists.1 hsome
        simp [hw]
      · simp [hkey, beq_false_of_ne hkey]
    next hany =>
      -- a new key goes at the end, where nothing before it has the key
      rw [List.lookup_append]
      by_cases hkey : key = String.ofList (trimBlankChars key₀)
      · subst hkey
        have hnone : fields.lookup (String.ofList (trimBlankChars key₀)) = none := by
          rw [List.lookup_eq_none_iff]
          intro kv hkv
          have hne := List.any_eq_false.1 (Bool.eq_false_iff.2 hany) kv hkv
          rw [bne_iff_ne]
          exact fun heq => hne (beq_iff_eq.2 heq.symm)
        simp [hnone]
      · simp [beq_false_of_ne hkey]

/-- The fields of lines look up as the fields the lines give, the last line first, in front of
the fields there were. -/
theorem lookup_foldl_addField (sep : List Char) (lines : List (List Char))
    (fields : List (String × String)) (key : String) :
    (lines.foldl (addField sep) fields).lookup key =
      ((lines.filterMap (lineField sep)).reverse ++ fields).lookup key := by
  induction lines generalizing fields with
  | nil => rfl
  | cons line rest ih =>
    rw [List.foldl_cons, ih, List.lookup_append, lookup_addField, List.filterMap_cons]
    cases lineField sep line <;> simp [List.lookup_append]

/-- A later line overrides the value of a key, which keeps its place. -/
example : ["a:1\n".toList, "b:2\n".toList, " a : 3\n".toList].foldl (addField [':']) [] =
    [("a", "3"), ("b", "2")] := by decide

theorem keys_nodup_addField (sep line : List Char) {fields : List (String × String)}
    (h : (fields.map Prod.fst).Nodup) : ((addField sep fields line).map Prod.fst).Nodup := by
  unfold addField
  split
  next key value _ =>
    dsimp only
    split
    · -- replacing values keeps every key
      have hkeys : (fields.map fun kv => if kv.1 == String.ofList (trimBlankChars key) then
          (String.ofList (trimBlankChars key), String.ofList (trimBlankChars value)) else kv).map
            Prod.fst = fields.map Prod.fst := by
        rw [List.map_map]
        refine List.map_congr_left fun kv _ => ?_
        by_cases hk : kv.1 = String.ofList (trimBlankChars key) <;> simp [hk]
      rw [hkeys]
      exact h
    next hany =>
      rw [List.map_append, List.nodup_append]
      refine ⟨h, by simp, ?_⟩
      intro k hk k' hk'
      simp only [List.map_cons, List.map_nil, List.mem_singleton] at hk'
      subst hk'
      obtain ⟨kv, hkv, rfl⟩ := List.mem_map.1 hk
      intro heq
      exact hany (List.any_eq_true.2 ⟨kv, hkv, by simp [heq]⟩)
  next => exact h

theorem keys_nodup_foldl_addField (sep : List Char) (lines : List (List Char)) :
    ((lines.foldl (addField sep) []).map Prod.fst).Nodup := by
  suffices ∀ fields : List (String × String), (fields.map Prod.fst).Nodup →
      ((lines.foldl (addField sep) fields).map Prod.fst).Nodup from this [] List.nodup_nil
  induction lines with
  | nil => exact fun _ h => h
  | cons line rest ih => exact fun fields h => ih _ (keys_nodup_addField sep line h)

theorem foldl_addField_of_none {sep : List Char} {lines : List (List Char)}
    (h : ∀ line ∈ lines, lineField sep line = none) (fields : List (String × String)) :
    lines.foldl (addField sep) fields = fields := by
  induction lines with
  | nil => rfl
  | cons line rest ih =>
    have hs : splitFirst sep line = none := by
      simpa [lineField] using h line List.mem_cons_self
    have hline : addField sep fields line = fields := by simp [addField, hs]
    rw [List.foldl_cons, hline]
    exact ih fun l hl => h l (List.mem_cons_of_mem _ hl)

theorem foldl_addField_eq_nil_iff (sep : List Char) (lines : List (List Char)) :
    lines.foldl (addField sep) [] = [] ↔ ∀ line ∈ lines, lineField sep line = none := by
  refine ⟨fun h line hl => ?_, fun h => foldl_addField_of_none h []⟩
  cases hf : lineField sep line with
  | none => rfl
  | some kv =>
    -- the key of that line would be found
    have hlook := lookup_foldl_addField sep lines [] kv.1
    rw [h, List.lookup_nil, List.append_nil, eq_comm, List.lookup_eq_none_iff] at hlook
    have hmem : kv ∈ (lines.filterMap (lineField sep)).reverse :=
      List.mem_reverse.2 (List.mem_filterMap.2 ⟨line, hl, hf⟩)
    simpa using hlook kv hmem

variable {t : FileTree} {path : String}

theorem fieldsOf_of_readBytes {sep : String} (hsep : sep ≠ "") (limit : Int) {bs : List UInt8}
    (h : t.readBytes path = .ok bs) :
    t.fieldsOf path sep limit =
      .ok (((linesWithEnds (fileChars bs)).take limit.toNat).foldl (addField sep.toList) []) := by
  have hs : sep.isEmpty = false := by simpa [String.isEmpty_iff] using hsep
  simp [fieldsOf, readChars_of_readBytes h, hs]

theorem fieldsOf_of_readBytes_error (sep : String) (limit : Int) {f : Fault}
    (h : t.readBytes path = .error f) : t.fieldsOf path sep limit = Fault.recover (.error f) [] := by
  simp [fieldsOf, readChars, h, Except.map]

/-- A file the system does not refuse is unreadable only because its path holds a NUL
character. -/
theorem readBytes_embeddedNull {f : Fault} (h : t.readBytes path = .error f)
    (hf : f.isSystem = false) : f = .embeddedNull ∧ Char.ofNat 0 ∈ path.toList := by
  rcases readBytes_error_cases h with rfl | ⟨e, rfl⟩
  · refine ⟨rfl, ?_⟩
    by_contra hn
    have := readBytes_error_isSystem hn h
    simp [Fault.isSystem] at this
  · simp [Fault.isSystem] at hf

end FileTree

/-- What the field reader gives for a file, a separator and a line limit: the fields of the
counted lines of a file that can be read, each key once and looked up as the last counted line
with it; nothing for a file the system cannot read; nothing exactly when the file cannot be read
or no counted line holds the separator; and a failure only for a path with a NUL character. -/
structure FieldsReading (t : FileTree) (path sep : String) (limit : Int) : Prop where
  readable : ∀ bs, t.readBytes path = .ok bs → ∃ fields, t.fieldsOf path sep limit = .ok fields ∧
    (fields.map Prod.fst).Nodup ∧
    ∀ key, fields.lookup key = (((linesWithEnds (fileChars bs)).take limit.toNat).filterMap
      (lineField sep.toList)).reverse.lookup key
  unreadable : ∀ f, t.readBytes path = .error f → f.isSystem = true →
    t.fieldsOf path sep limit = .ok []
  empty_iff : t.fieldsOf path sep limit = .ok [] ↔
    (∃ f, t.readBytes path = .error f ∧ f.isSystem = true) ∨
    ∃ bs, t.readBytes path = .ok bs ∧
      ∀ line ∈ (linesWithEnds (fileChars bs)).take limit.toNat, ¬ sep.toList <:+: line
  fails : ∀ f, t.fieldsOf path sep limit = .error f →
    f = .embeddedNull ∧ Char.ofNat 0 ∈ path.toList

/-- The fields of a small kernel file under a separator that is not empty: the first lines up
to the limit are all counted, header included, with or without the separator; each is cut at
its first separator into a key and a value without surrounding blanks, and a later line with a
key overrides an earlier one. -/
theorem fields_of_counted_lines (t : FileTree) (path sep : String) (limit : Int)
    (hsep : sep ≠ "") : FieldsReading t path sep limit where
  readable bs h := by
    refine ⟨_, FileTree.fieldsOf_of_readBytes hsep limit h,
      FileTree.keys_nodup_foldl_addField _ _, fun key => ?_⟩
    rw [FileTree.lookup_foldl_addField, List.append_nil]
  unreadable f h hf := by
    rw [FileTree.fieldsOf_of_readBytes_error sep limit h]
    simp [Fault.recover, hf]
  empty_iff := by
    have hsep' : sep.toList ≠ [] := fun h => hsep (String.toList_inj.1 (by rw [h]; rfl))
    cases hb : t.readBytes path with
    | error f =>
      rw [FileTree.fieldsOf_of_readBytes_error sep limit hb]
      cases hf : f.isSystem
      · simp [Fault.recover, hf]
      · simp [Fault.recover, hf]
    | ok bs =>
      rw [FileTree.fieldsOf_of_readBytes hsep limit hb, Except.ok.injEq,
        FileTree.foldl_addField_eq_nil_iff]
      -- a line gives no field exactly when the separator does not occur in it
      simp only [lineField, Option.map_eq_none_iff, splitFirst_eq_none_iff hsep']
      simp
  fails f h := by
    cases hb : t.readBytes path with
    | ok bs =>
      rw [FileTree.fieldsOf_of_readBytes hsep limit hb] at h
      cases h
    | error g =>
      rw [FileTree.fieldsOf_of_readBytes_error sep limit hb] at h
      cases hg : g.isSystem
      · simp only [Fault.recover, hg, Bool.false_eq_true, if_false, Except.error.injEq] at h
        subst h
        exact FileTree.readBytes_embeddedNull hb hg
      · simp [Fault.recover, hg] at h

/-- The status file of the line-limit test: three fields, one to a line. -/
def limitTestTree : FileTree :=
  { entries := [⟨["status"], .file "a:1\nb:2\nc:3\n".toUTF8.toList, ⟨0o644, 0, 0, 0.0⟩⟩] }

theorem limit_test_fields_reading : ":" ≠ "" ∧ FieldsReading limitTestTree "status" ":" 2 :=
  ⟨by decide, fields_of_counted_lines _ _ _ _ (by decide)⟩

end HostSurvey
