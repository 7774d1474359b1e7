import HostSurvey.Process.Scan
import HostSurvey.Socket.Table

/-!
Which failures the readers of kernel files let through.
-/

namespace HostSurvey

theorem mem_intercalate_of_mem {α : Type} {sep l : List α} {ls : List (List α)} {c : α}
    (hl : l ∈ ls) (hc : c ∈ l) : c ∈ sep.intercalate ls := by
  induction ls with
  | nil => simp at hl
  | cons x xs ih =>
    cases xs with
    | nil => simpa [List.intercalate_singleton, List.mem_singleton.mp hl] using hc
    | cons y ys =>
      rw [List.intercalate_cons_cons]
      rcases List.mem_cons.mp hl with rfl | hl
      · simp [hc]
      · simp [ih hl]

theorem mem_of_mem_intercalate {α : Type} {sep : List α} {ls : List (List α)} {c : α}
    (hc : c ∈ sep.intercalate ls) : c ∈ sep ∨ ∃ l ∈ ls, c ∈ l := by
  induction ls with
  | nil => simp at hc
  | cons x xs ih =>
    cases xs with
    | nil => exact .inr ⟨x, by simp, by simpa [List.intercalate_singleton] using hc⟩
    | cons y ys =>
      rw [List.intercalate_cons_cons] at hc
      rcases List.mem_append.mp hc with hc | hc
      · rcases List.mem_append.mp hc with hc | hc
        · exact .inr ⟨x, by simp, hc⟩
        · exact .inl hc
      · rcases ih hc with h | ⟨l, hl, h⟩
        · exact .inl h
        · exact .inr ⟨l, List.mem_cons_of_mem _ hl, h⟩

theorem not_mem_toString_int {c : Char} (hd : c.isDigit = false) (hm : c ≠ '-') (i : Int) :
    c ∉ (toString i).toList := by
  have digits : ∀ n : Nat, c ∉ n.repr.toList := by
    intro n hn
    rw [Nat.toList_repr] at hn
    have := Nat.isDigit_of_mem_toDigits (by decide) (by decide) hn
    rw [hd] at this
    exact Bool.false_ne_true this
  rw [Int.toString_eq_repr, Int.repr_eq_if]
  split
  · exact digits _
  · simp only [String.toList_append, List.mem_append, not_or]
    refine ⟨?_, digits _⟩
    simpa using hm

theorem nul_not_mem_toString_int (i : Int) : Char.ofNat 0 ∉ (toString i).toList :=
  not_mem_toString_int (by decide) (by decide) i

namespace PathName

theorem mem_of_mem_splitAt {sep c : Char} {cs piece : List Char}
    (hp : piece ∈ splitAt sep cs) (hc : c ∈ piece) : c ∈ cs := by
  induction cs generalizing piece with
  | nil => simp_all [splitAt]
  | cons x xs ih =>
    unfold splitAt at hp
    split at hp
    · rcases List.mem_cons.mp hp with rfl | hp
      · simp at hc
      · exact List.mem_cons_of_mem _ (ih hp hc)
    · split at hp
      next h => simp_all
      next p ps h =>
        rcases List.mem_cons.mp hp with rfl | hp
        · rcases List.mem_cons.mp hc with rfl | hc
          · simp
          · exact List.mem_cons_of_mem _ (ih (by simp [h]) hc)
        · exact List.mem_cons_of_mem _ (ih (by simp [h, hp]) hc)

theorem exists_mem_splitAt {sep c : Char} {cs : List Char} (hc : c ∈ cs) (hs : c ≠ sep) :
    ∃ piece ∈ splitAt sep cs, c ∈ piece := by
  induction cs with
  | nil => simp at hc
  | cons x xs ih =>
    unfold splitAt
    split
    next hx =>
      have hc' : c ∈ xs := by
        rcases List.mem_cons.mp hc with rfl | hc
        · exact absurd hx hs
        · exact hc
      obtain ⟨piece, hp, hcp⟩ := ih hc'
      exact ⟨piece, List.mem_cons_of_mem _ hp, hcp⟩
    next hx =>
      split
      next h =>
        rcases List.mem_cons.mp hc with rfl | hc
        · exact ⟨[c], by simp, by simp⟩
        · obtain ⟨piece, hp, _⟩ := ih hc
          simp [h] at hp
      next p ps h =>
        rcases List.mem_cons.mp hc with rfl | hc
        · exact ⟨c :: p, by simp, by simp⟩
        · obtain ⟨piece, hp, hcp⟩ := ih hc
          rw [h] at hp
          rcases List.mem_cons.mp hp with rfl | hp
          · exact ⟨x :: piece, by simp, List.mem_cons_of_mem _ hcp⟩
          · exact ⟨piece, by simp [hp], hcp⟩

/-- A character that stands neither in the root nor in any component of a path. -/
def Avoids (c : Char) (p : PathName) : Prop :=
  c ∉ p.root.toList ∧ ∀ part ∈ p.parts, c ∉ part.toList

theorem ofText_avoids {c : Char} {s : String} (hc : c ∉ s.toList) (hs : c ≠ '/') :
    (ofText s).Avoids c := by
  refine ⟨?_, ?_⟩
  · simp only [ofText]
    split
    · simp
    · split <;> simp [hs]
  · intro part hp hcp
    simp only [ofText, List.mem_filter, List.mem_map] at hp
    obtain ⟨⟨piece, hpiece, rfl⟩, _⟩ := hp
    exact hc (mem_of_mem_splitAt hpiece (by simpa using hcp))

theorem Avoids.slash {c : Char} {p : PathName} {s : String} (hp : p.Avoids c)
    (hc : c ∉ s.toList) (hs : c ≠ '/') : (p.slash s).Avoids c := by
  have hq := ofText_avoids hc hs
  unfold PathName.slash PathName.join
  split
  · refine ⟨hp.1, fun part h => ?_⟩
    rcases List.mem_append.mp h with h | h
    · exact hp.2 _ h
    · exact hq.2 _ h
  · exact hq

theorem Avoids.text {c : Char} {p : PathName} (hp : p.Avoids c) (hs : c ≠ '/') (hd : c ≠ '.') :
    c ∉ p.text.toList := by
  simp only [PathName.text]
  split
  · simp [hd]
  · rw [String.toList_append, String.toList_intercalate]
    intro h
    rcases List.mem_append.mp h with h | h
    · exact hp.1 h
    · rcases mem_of_mem_intercalate h with h | ⟨l, hl, h⟩
      · exact hs (by simpa using h)
      · obtain ⟨part, hpart, rfl⟩ := List.mem_map.mp hl
        exact hp.2 part hpart h

theorem mem_text_of_mem_part {c : Char} {p : PathName} {part : String} (hp : part ∈ p.parts)
    (hc : c ∈ part.toList) : c ∈ p.text.toList := by
  have hb : c ∈ (String.intercalate "/" p.parts).toList := by
    rw [String.toList_intercalate]
    exact mem_intercalate_of_mem (List.mem_map_of_mem hp) hc
  simp only [PathName.text]
  split
  next h =>
    rw [String.isEmpty_iff.mp h.2] at hb
    simp at hb
  next =>
    rw [String.toList_append]
    exact List.mem_append_right _ hb

/-- A character other than a slash or a dot in a path text stays in the path it names,
and below it. -/
theorem mem_text_slash {c : Char} {s r : String} (hc : c ∈ s.toList) (hs : c ≠ '/')
    (hd : c ≠ '.') (hr : (ofText r).root = "") : c ∈ ((ofText s).slash r).text.toList := by
  obtain ⟨piece, hpiece, hcp⟩ := exists_mem_splitAt hc hs
  have hpart : String.ofList piece ∈ (ofText s).parts := by
    simp only [ofText, List.mem_filter, List.mem_map]
    refine ⟨⟨piece, hpiece, rfl⟩, ?_⟩
    have hne : String.ofList piece ≠ "" := fun h => by
      have hp := congrArg String.toList h
      rw [String.toList_ofList] at hp
      simp [hp] at hcp
    have hnd : String.ofList piece ≠ "." := fun h => by
      have : c ∈ ".".toList := by rw [← h, String.toList_ofList]; exact hcp
      simp at this
      exact hd this
    simp [hne, hnd]
  have hslash : String.ofList piece ∈ ((ofText s).slash r).parts := by
    simp [slash, join, hr, hpart]
  exact mem_text_of_mem_part hslash (by rwa [String.toList_ofList])

end PathName

namespace FileTree

variable {t : FileTree} {path : String} {f : Fault}

theorem locate_error_isSystem {b : Bool} (hn : Char.ofNat 0 ∉ path.toList)
    (h : t.locate path b = .error f) : f.isSystem = true := by
  unfold locate at h
  simp only [holdsNul_eq, hn, decide_false, Bool.false_eq_true, ↓reduceIte] at h
  split at h
  · cases h
  · cases h; rfl

theorem locate_nul {b : Bool} (hn : Char.ofNat 0 ∈ path.toList) :
    t.locate path b = .error .embeddedNull := by
  simp [locate, holdsNul_eq, hn]

theorem readBytes_error_isSystem (hn : Char.ofNat 0 ∉ path.toList)
    (h : t.readBytes path = .error f) : f.isSystem = true := by
  unfold readBytes at h
  split at h
  next hl => cases h; exact locate_error_isSystem hn hl
  next =>
    split at h
    · cases h; rfl
    · split at h <;> cases h <;> rfl

theorem readChars_error_isSystem (hn : Char.ofNat 0 ∉ path.toList)
    (h : t.readChars path = .error f) : f.isSystem = true := by
  unfold readChars at h
  cases hb : t.readBytes path with
  | error g =>
    rw [hb] at h
    cases h
    exact readBytes_error_isSystem hn hb
  | ok _ => simp [hb, Except.map] at h

theorem readChars_nul (hn : Char.ofNat 0 ∈ path.toList) :
    t.readChars path = .error .embeddedNull := by
  simp [readChars, readBytes, locate_nul hn, Except.map]

theorem tableBody_error_isSystem (hn : Char.ofNat 0 ∉ path.toList)
    (h : t.tableBody path = .error f) : f.isSystem = true := by
  unfold tableBody at h
  cases hc : t.readChars path with
  | error g =>
    simp only [hc, bind, Except.bind] at h
    cases h
    exact readChars_error_isSystem hn hc
  | ok cs =>
    simp only [hc, bind, Except.bind] at h
    split at h
    · cases h; rfl
    · cases h

theorem socketTable_of_nul_free {protocol : String} {canonical : Bool}
    (hn : Char.ofNat 0 ∉ path.toList) :
    t.socketTable path protocol canonical = match t.tableBody path with
      | .ok lines => .ok (SocketRecord.ofLines lines protocol canonical)
      | .error f => .error (.sourceUnavailable (path ++ ": " ++ f.reason)) := by
  unfold socketTable
  cases hb : t.tableBody path with
  | ok lines => rfl
  | error f => simp [tableBody_error_isSystem hn hb]

theorem socketTable_nul {protocol : String} {canonical : Bool}
    (hn : Char.ofNat 0 ∈ path.toList) :
    t.socketTable path protocol canonical = .error .embeddedNull := by
  simp [socketTable, tableBody, readChars_nul hn, bind, Except.bind, Fault.isSystem]

theorem firstLineOf_of_nul_free {limit : Int} (hn : Char.ofNat 0 ∉ path.toList) :
    t.firstLineOf path limit = match t.readChars path with
      | .ok cs => .ok (String.ofList ((firstLine limit cs).reverse.dropWhile (· == '\n')).reverse)
      | .error _ => .ok "" := by
  unfold firstLineOf
  cases hc : t.readChars path with
  | ok cs => rfl
  | error g => simp [Except.map, Fault.recover, readChars_error_isSystem hn hc]

theorem listNames_error_isSystem (hn : Char.ofNat 0 ∉ path.toList)
    (h : t.listNames path = .error f) : f.isSystem = true := by
  unfold listNames at h
  split at h
  next hl => cases h; exact locate_error_isSystem hn hl
  next =>
    split at h
    · cases h
    · cases h; rfl

theorem namesOrNone_ok (hn : Char.ofNat 0 ∉ path.toList) : ∃ names, t.namesOrNone path = .ok names := by
  unfold namesOrNone
  cases hl : t.listNames path with
  | ok names => exact ⟨names, rfl⟩
  | error g => exact ⟨[], by simp [Fault.recover, listNames_error_isSystem hn hl]⟩

theorem processPath_nul_free {root : String} (hn : Char.ofNat 0 ∉ root.toList) (pid : Int)
    (entry : String) (he : Char.ofNat 0 ∉ entry.toList) :
    Char.ofNat 0 ∉ (processPath root pid entry).toList := by
  have hs : Char.ofNat 0 ≠ '/' := by decide
  have hd : Char.ofNat 0 ≠ '.' := by decide
  exact ((PathName.ofText_avoids hn hs).slash (nul_not_mem_toString_int pid) hs |>.slash he hs).text
    hs hd

theorem processName_nonpos {root : String} {pid : Int} (hp : pid ≤ 0) :
    t.processName root pid = .ok kernelOwner := by
  simp [processName, hp, pure, Except.pure]

/-- The name of a process under a directory that reaches the system: its `comm` line
without blanks, or `[unknown]` when there is none. -/
theorem processName_of_nul_free {root : String} {pid : Int} (hn : Char.ofNat 0 ∉ root.toList)
    (hp : 0 < pid) :
    t.processName root pid =
      match t.readChars (processPath root pid "comm") with
      | .ok cs =>
        let name := trimBlanks
          (String.ofList ((firstLine 256 cs).reverse.dropWhile (· == '\n')).reverse)
        .ok (if name.isEmpty then unknownName else name)
      | .error _ => .ok unknownName := by
  have hc := processPath_nul_free hn pid "comm" (by decide)
  unfold processName
  simp only [show ¬pid ≤ 0 by omega, ↓reduceIte, firstLineOf_of_nul_free hc]
  split <;> rfl

theorem processName_ok (t : FileTree) {root : String} (hn : Char.ofNat 0 ∉ root.toList)
    (pid : Int) :
    ∃ name, t.processName root pid = .ok name := by
  by_cases hp : pid ≤ 0
  · exact ⟨_, processName_nonpos hp⟩
  · rw [processName_of_nul_free hn (by omega)]
    split
    · exact ⟨_, rfl⟩
    · exact ⟨_, rfl⟩

end FileTree

end HostSurvey
