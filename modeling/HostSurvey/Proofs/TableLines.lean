import Mathlib.Data.List.TakeWhile
import HostSurvey.Proofs.Readers

/-!
The lines of a kernel table.
-/

namespace HostSurvey

/-- The lines of a text cut at line feeds only, without them; a line feed at the very end
closes the last line and opens none. -/
def textLines (cs : List Char) : List (List Char) :=
  if cs.getLast? = some '\n' then (cs.splitOn '\n').dropLast else cs.splitOn '\n'

theorem textLines_of_not_mem {cs : List Char} (h : '\n' ∉ cs) : textLines cs = [cs] := by
  have hlast : cs.getLast? ≠ some '\n' := fun hl => h (List.mem_of_getLast? hl)
  simp [textLines, hlast, List.splitOn_eq_singleton h]

theorem textLines_append_newline {line : List Char} (h : '\n' ∉ line) (rest : List Char) :
    textLines (line ++ '\n' :: rest) = line :: if rest = [] then [] else textLines rest := by
  have hsplit := List.splitOn_append_cons_self_of_not_mem h rest
  unfold textLines
  rw [hsplit, List.getLast?_append]
  by_cases hr : rest = []
  · subst hr
    simp
  · have hne := List.splitOn_ne_nil '\n' rest
    -- the last character of the whole text is that of the rest
    have hlast : ('\n' :: rest).getLast?.or line.getLast? = rest.getLast? := by
      rw [List.getLast?_cons, List.getLast?_eq_some_getLast hr]
      rfl
    rw [hlast]
    split <;> simp [List.dropLast_cons_of_ne_nil hne]

example : textLines "h\nx\x0cy\x85z\n".toList = ["h".toList, "x\x0cy\x85z".toList] := by decide

theorem unifyNewlines_of_cr_not_mem {cs : List Char} (h : '\r' ∉ cs) : unifyNewlines cs = cs := by
  induction cs using unifyNewlines.induct <;> simp_all [unifyNewlines]

theorem unifyNewlines_eq_nil {cs : List Char} : unifyNewlines cs = [] ↔ cs = [] := by
  induction cs using unifyNewlines.induct <;> simp_all [unifyNewlines]

namespace FileTree

theorem dropNewlines_of_not_mem {l : List Char} (h : '\n' ∉ l) : tableBody.dropNewlines l = l := by
  have hkeep : l.reverse.dropWhile (· == '\n') = l.reverse := by
    rw [List.dropWhile_eq_self_iff]
    intro hl hc
    have hmem : l.reverse[0] ∈ l.reverse := List.getElem_mem hl
    rw [beq_iff_eq.mp hc, List.mem_reverse] at hmem
    exact h hmem
  simp [tableBody.dropNewlines, hkeep]

theorem dropNewlines_append_newline {l : List Char} (h : '\n' ∉ l) :
    tableBody.dropNewlines (l ++ ['\n']) = l := by
  have hl := dropNewlines_of_not_mem h
  simp only [tableBody.dropNewlines, List.reverse_append, List.reverse_cons, List.reverse_nil,
    List.nil_append, List.singleton_append, List.dropWhile_cons, beq_self_eq_true,
    ↓reduceIte] at hl ⊢
  exact hl

end FileTree

theorem linesWithEnds_of_not_mem {cs : List Char} (h : '\n' ∉ cs) (hne : cs ≠ []) :
    linesWithEnds cs = [cs] := by
  have hdrop : cs.dropWhile (· != '\n') = [] :=
    List.dropWhile_eq_nil_iff.mpr fun c hc => by
      simpa using fun hn : c = '\n' => h (hn ▸ hc)
  rw [linesWithEnds]
  split
  · simp [hne]
  · simp_all

theorem linesWithEnds_append_newline {line : List Char} (h : '\n' ∉ line) (rest : List Char) :
    linesWithEnds (line ++ '\n' :: rest) = (line ++ ['\n']) :: linesWithEnds rest := by
  have hall : ∀ c ∈ line, (c != '\n') = true := fun c hc => by
    simpa using fun hn : c = '\n' => h (hn ▸ hc)
  have hdrop : (line ++ '\n' :: rest).dropWhile (· != '\n') = '\n' :: rest := by
    rw [List.dropWhile_append_of_pos hall]
    simp
  have htake : (line ++ '\n' :: rest).takeWhile (· != '\n') = line := by
    rw [List.takeWhile_append_of_pos hall]
    simp
  rw [linesWithEnds]
  split
  · simp_all
  · simp_all

theorem map_dropNewlines_linesWithEnds {cs : List Char} (hne : cs ≠ []) :
    (linesWithEnds cs).map FileTree.tableBody.dropNewlines = textLines cs := by
  induction cs using linesWithEnds.induct with
  | case1 cs _ hempty => simp_all
  | case2 cs hdrop _ =>
    have h : '\n' ∉ cs := fun hc => by
      simpa using List.dropWhile_eq_nil_iff.mp hdrop '\n' hc
    rw [linesWithEnds_of_not_mem h hne, textLines_of_not_mem h]
    simp [FileTree.dropNewlines_of_not_mem h]
  | case3 cs nl rest hdrop ih =>
    -- the text is its first line, a line feed, and the rest
    have hnl : nl = '\n' := by
      have := List.head_dropWhile_not (· != '\n') (l := cs) (by simp [hdrop])
      simpa [hdrop] using this
    have hline : '\n' ∉ cs.takeWhile (· != '\n') := fun hc => by
      simpa using List.mem_takeWhile_imp hc
    have hcs : cs = cs.takeWhile (· != '\n') ++ '\n' :: rest :=
      calc cs = cs.takeWhile (· != '\n') ++ cs.dropWhile (· != '\n') :=
            List.takeWhile_append_dropWhile.symm
        _ = cs.takeWhile (· != '\n') ++ '\n' :: rest := by rw [hdrop, hnl]
    rw [hcs, linesWithEnds_append_newline hline, textLines_append_newline hline, List.map_cons,
      FileTree.dropNewlines_append_newline hline]
    by_cases hr : rest = []
    · subst hr
      simp [linesWithEnds_nil]
    · simp [hr, ih hr]

theorem linesWithEnds_ne_nil {cs : List Char} (hne : cs ≠ []) : linesWithEnds cs ≠ [] := by
  rw [linesWithEnds]
  split <;> simp [hne]

namespace FileTree

variable {t : FileTree} {path : String}

theorem readChars_of_readBytes {bs : List UInt8} (h : t.readBytes path = .ok bs) :
    t.readChars path = .ok (fileChars bs) := by
  simp [readChars, h, Except.map]

/-- A table file that can be read is its header line and the lines of its body, by the line
model; a file whose decoded text is empty has no header. -/
theorem tableBody_of_readBytes {bs : List UInt8} (h : t.readBytes path = .ok bs) :
    t.tableBody path = if decodeUtf8Lenient bs = [] then .error (.system .noHeader path)
      else .ok ((textLines (fileChars bs)).tail.map String.ofList) := by
  have hempty : fileChars bs = [] ↔ decodeUtf8Lenient bs = [] := unifyNewlines_eq_nil
  unfold tableBody
  rw [readChars_of_readBytes h]
  split
  next hnil =>
    rw [← hempty] at hnil
    simp [hnil, linesWithEnds_nil, bind, Except.bind, throw, throwThe, MonadExceptOf.throw]
  next hne =>
    rw [← hempty] at hne
    -- the reader cuts at least the header line, and the rest are the body lines of the text
    obtain ⟨header, body, hl⟩ := List.exists_cons_of_ne_nil (linesWithEnds_ne_nil hne)
    have hlines := map_dropNewlines_linesWithEnds hne
    rw [hl, List.map_cons] at hlines
    simp [hl, ← hlines, bind, Except.bind, pure, Except.pure]

theorem tableBody_of_readBytes_error {f : Fault} (h : t.readBytes path = .error f) :
    t.tableBody path = .error f := by
  simp [tableBody, readChars, h, Except.map, bind, Except.bind]

/-- A file is unreadable because the system refused its path, or because the path holds a NUL
character. -/
theorem readBytes_error_cases {f : Fault} (h : t.readBytes path = .error f) :
    f = .embeddedNull ∨ ∃ e, f = .system e path := by
  unfold readBytes at h
  split at h
  next hl =>
    cases h
    unfold locate at hl
    split at hl
    · cases hl
      exact .inl rfl
    · split at hl
      · cases hl
      · cases hl
        exact .inr ⟨_, rfl⟩
  next =>
    split at h
    · cases h
      exact .inr ⟨_, rfl⟩
    · split at h <;> cases h <;> exact .inr ⟨_, rfl⟩

theorem tableBody_error_cases {f : Fault} (h : t.tableBody path = .error f) :
    f = .embeddedNull ∨ ∃ e, f = .system e path := by
  cases hb : t.readBytes path with
  | error g =>
    rw [tableBody_of_readBytes_error hb] at h
    cases h
    exact readBytes_error_cases hb
  | ok bs =>
    rw [tableBody_of_readBytes hb] at h
    split at h
    · cases h
      exact .inr ⟨_, rfl⟩
    · cases h

/-- The socket table reader turns each failure of the system on the table into an unavailable
source with the path and the reason; a NUL character in the path stays what it is. -/
theorem socketTable_eq (protocol : String) (canonical : Bool) :
    t.socketTable path protocol canonical = match t.tableBody path with
      | .ok lines => .ok (SocketRecord.ofLines lines protocol canonical)
      | .error (.system e _) => .error (.sourceUnavailable (path ++ ": " ++ e.text))
      | .error f => .error f := by
  unfold socketTable
  cases hb : t.tableBody path with
  | ok lines => rfl
  | error f => rcases tableBody_error_cases hb with rfl | ⟨e, rfl⟩ <;> rfl

end FileTree

/-- Reading a kernel table follows the line model: the bytes are decoded leniently as UTF-8,
carriage returns become line feeds, the text is cut at line feeds only and the body is every
line but the first; an empty text has no header ("no data"). An unreadable file fails as the
system said, and every failure is a system failure on the path or a NUL character in it. The
socket table reader makes exactly the system failures unavailable sources, with the path and
the reason. -/
theorem kernel_table_line_model (t : FileTree) (path protocol : String) (canonical : Bool) :
    (∀ bs, t.readBytes path = .ok bs →
      t.tableBody path = if decodeUtf8Lenient bs = [] then .error (.system .noHeader path)
        else .ok ((textLines (unifyNewlines (decodeUtf8Lenient bs))).tail.map String.ofList)) ∧
    (∀ f, t.readBytes path = .error f → t.tableBody path = .error f) ∧
    (∀ f, t.tableBody path = .error f → f = .embeddedNull ∨ ∃ e, f = .system e path) ∧
    t.socketTable path protocol canonical = match t.tableBody path with
      | .ok lines => .ok (SocketRecord.ofLines lines protocol canonical)
      | .error (.system e _) => .error (.sourceUnavailable (path ++ ": " ++ e.text))
      | .error f => .error f :=
  ⟨fun _ h => FileTree.tableBody_of_readBytes h, fun _ h => FileTree.tableBody_of_readBytes_error h,
    fun _ h => FileTree.tableBody_error_cases h, FileTree.socketTable_eq protocol canonical⟩

end HostSurvey
