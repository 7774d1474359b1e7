import Mathlib.Data.List.Basic
import HostSurvey.Proofs.ProbeRun

/-!
What a survey reports, read from its closed form: the counts and the kept entries of the
readable tables, the owner of each kept socket as a scan for that socket finds it, and one
message for each table that cannot be read.
-/

namespace HostSurvey

theorem getElem?_map_take {α β : Type} {f : α → β} {xs : List α} {n k : Nat} {b : β}
    (h : ((xs.take n).map f)[k]? = some b) : ∃ a, xs[k]? = some a ∧ b = f a := by
  rw [List.getElem?_map, List.getElem?_take] at h
  split at h
  · obtain ⟨a, ha, rfl⟩ := Option.map_eq_some_iff.mp h
    exact ⟨a, ha, rfl⟩
  · cases h

namespace ProbeSettings

variable {s : ProbeSettings} {t : FileTree}

theorem run_ok_exists_iff : (∃ info, s.run t = .ok info) ↔ ¬ s.Aborts t :=
  ⟨fun ⟨_, h⟩ => (run_ok_iff.mp h).1, fun h => ⟨_, run_of_not_aborts h⟩⟩

theorem socketHoldings_ok (h : ¬ s.Aborts t) (hneed : (s.records t).any SocketRecord.needsOwner) :
    ∃ hs, t.socketHoldings s.root = .ok hs := by
  simp only [Aborts, not_or, not_and, not_exists] at h
  cases hh : t.socketHoldings s.root with
  | error f => exact absurd hh (h.2 hneed f)
  | ok hs => exact ⟨hs, rfl⟩

/-- With the holdings read, a socket belongs to the first process holding its inode, to none
for inode 0, and carries the name of that process. -/
theorem owner_of_holdings (hn : Char.ofNat 0 ∉ s.root.toList) {hs : List (Int × List Int)}
    (hh : t.socketHoldings s.root = .ok hs) (inode : Int) :
    (s.owner t inode).1 = (if inode = 0 then 0 else firstHolder hs inode) ∧
      t.processName s.root (s.owner t inode).1 = .ok (s.owner t inode).2 := by
  have hi : t.socketOwners s.root = .ok (ownerIndex hs) := by rw [socketOwners_eq, hh]; rfl
  obtain ⟨name, hname⟩ := FileTree.processName_ok t hn (((ownerIndex hs).lookup inode).getD 0)
  rw [owner_of_index hi inode hname]
  refine ⟨?_, hname⟩
  split
  next h0 => simp [h0, lookup_ownerIndex_zero]
  next h0 => exact lookup_ownerIndex hs h0

/-- Every record a survey keeps needs an owner, so a survey that does not stop has read the
holdings, and the owner of the record is the one the scan for its socket finds. -/
theorem owner_of_needsOwner (h : ¬ s.Aborts t) {r : SocketRecord} (hr : r ∈ s.records t)
    (hneed : r.needsOwner) :
    ∃ hs, t.socketHoldings s.root = .ok hs ∧
      (s.owner t r.inode).1 = (if r.inode = 0 then 0 else firstHolder hs r.inode) ∧
      t.processName s.root (s.owner t r.inode).1 = .ok (s.owner t r.inode).2 := by
  obtain ⟨hs, hh⟩ := socketHoldings_ok h (List.any_eq_true.mpr ⟨r, hr, hneed⟩)
  have hn : Char.ofNat 0 ∉ s.root.toList := fun hn => h (.inl hn)
  exact ⟨hs, hh, owner_of_holdings hn hh r.inode⟩

theorem mem_listenerRecords {r : SocketRecord} (h : r ∈ s.listenerRecords t) :
    r ∈ s.records t ∧ r.needsOwner := by
  obtain ⟨hr, hl⟩ := List.mem_filter.mp h
  exact ⟨hr, by simp [SocketRecord.needsOwner, hl]⟩

theorem mem_connectionRecords {r : SocketRecord} (h : r ∈ s.connectionRecords t) :
    r ∈ s.records t ∧ r.needsOwner := by
  obtain ⟨hr, hc⟩ := List.mem_filter.mp h
  simp only [SocketRecord.isOnlyConnection, Bool.and_eq_true] at hc
  exact ⟨hr, by simp [SocketRecord.needsOwner, hc.2]⟩

/-- No process holds the socket of an inode: the inode names no socket, or no descriptor of
any process names it. -/
def Unowned (s : ProbeSettings) (t : FileTree) (inode : Int) : Prop :=
  inode = 0 ∨ ∀ hs, t.socketHoldings s.root = .ok hs → ∀ h ∈ hs, inode ∉ h.2

theorem owner_pid_of_unowned {hs : List (Int × List Int)} {inode : Int}
    (hh : t.socketHoldings s.root = .ok hs) (hu : s.Unowned t inode) :
    (if inode = 0 then 0 else firstHolder hs inode) = 0 := by
  rcases hu with h0 | hfree
  · simp [h0]
  · split
    · rfl
    · exact firstHolder_of_unheld (hfree hs hh)

variable {info : NetworkInfo} {k : Nat}

theorem listener_owner (h : s.run t = .ok info) {e : ListenerEntry}
    (he : info.listeners[k]? = some e) :
    ∃ (r : SocketRecord) (hs : List (Int × List Int)), (s.listenerRecords t)[k]? = some r ∧
      t.socketHoldings s.root = .ok hs ∧
      e.pid = (if r.inode = 0 then 0 else firstHolder hs r.inode) ∧
      t.processName s.root e.pid = .ok e.processName := by
  obtain ⟨ha, rfl⟩ := run_ok_iff.mp h
  obtain ⟨r, hr, rfl⟩ := getElem?_map_take he
  obtain ⟨hmem, hneed⟩ := mem_listenerRecords (List.mem_of_getElem? hr)
  obtain ⟨hs, hh, hpid, hname⟩ := owner_of_needsOwner ha hmem hneed
  exact ⟨r, hs, hr, hh, hpid, hname⟩

theorem connection_owner (h : s.run t = .ok info) {e : ConnectionEntry}
    (he : info.connections[k]? = some e) :
    ∃ (r : SocketRecord) (hs : List (Int × List Int)), (s.connectionRecords t)[k]? = some r ∧
      t.socketHoldings s.root = .ok hs ∧
      e.pid = (if r.inode = 0 then 0 else firstHolder hs r.inode) ∧
      t.processName s.root e.pid = .ok e.processName := by
  obtain ⟨ha, rfl⟩ := run_ok_iff.mp h
  obtain ⟨r, hr, rfl⟩ := getElem?_map_take he
  obtain ⟨hmem, hneed⟩ := mem_connectionRecords (List.mem_of_getElem? hr)
  obtain ⟨hs, hh, hpid, hname⟩ := owner_of_needsOwner ha hmem hneed
  exact ⟨r, hs, hr, hh, hpid, hname⟩

theorem listener_pid_of_unowned (h : s.run t = .ok info) {e : ListenerEntry} {r : SocketRecord}
    (he : info.listeners[k]? = some e) (hr : (s.listenerRecords t)[k]? = some r)
    (hu : s.Unowned t r.inode) : e.pid = 0 := by
  obtain ⟨r', hs, hr', hh, hpid, -⟩ := listener_owner h he
  obtain rfl : r' = r := Option.some.inj (hr'.symm.trans hr)
  rw [hpid, owner_pid_of_unowned hh hu]

theorem connection_pid_of_unowned (h : s.run t = .ok info) {e : ConnectionEntry} {r : SocketRecord}
    (he : info.connections[k]? = some e) (hr : (s.connectionRecords t)[k]? = some r)
    (hu : s.Unowned t r.inode) : e.pid = 0 := by
  obtain ⟨r', hs, hr', hh, hpid, -⟩ := connection_owner h he
  obtain rfl : r' = r := Option.some.inj (hr'.symm.trans hr)
  rw [hpid, owner_pid_of_unowned hh hu]

theorem owner_name_eq {inode : Int} {name : String}
    (h : t.processName s.root (s.owner t inode).1 = .ok name) : (s.owner t inode).2 = name := by
  simp only [owner] at h ⊢
  simp only [h]

/-- The owner names of a survey: sockets of no process belong to the kernel, and a process
whose `comm` file cannot be read is unknown. -/
theorem owner_names (hn : Char.ofNat 0 ∉ s.root.toList) (inode : Int) :
    ((s.owner t inode).1 ≤ 0 → (s.owner t inode).2 = kernelOwner) ∧
      (0 < (s.owner t inode).1 →
        (∃ f, t.readChars (FileTree.processPath s.root (s.owner t inode).1 "comm") = .error f) →
        (s.owner t inode).2 = unknownName) := by
  refine ⟨fun hp => owner_name_eq (FileTree.processName_nonpos hp), fun hp ⟨f, hf⟩ => ?_⟩
  apply owner_name_eq
  rw [FileTree.processName_of_nul_free hn hp, hf]

/-- The messages of a survey under a directory that reaches the system: one for each table
that cannot be read, its path and the reason, in table order. -/
theorem failures_eq (hn : Char.ofNat 0 ∉ s.root.toList) :
    s.failures t = socketSources.filterMap (fun src =>
      match t.tableBody (s.tablePath src.2) with
      | .error f => some (s.tablePath src.2 ++ ": " ++ f.reason)
      | .ok _ => none) := by
  unfold failures failuresOf
  refine List.filterMap_congr fun src hsrc => ?_
  rw [readSource, FileTree.socketTable_of_nul_free
    (tablePath_nul_free hn (socketSources_nul_free src hsrc))]
  cases t.tableBody (s.tablePath src.2) <;> rfl

variable (s t)

/-- A survey reports exactly when it does not stop, and then it counts every listener and
every connection of the readable tables, counts the unusual listening ports whether kept or
not, keeps the first entries up to the limits and flags a truncation exactly when an entry
was left out. -/
theorem survey_report :
    ((∃ info, s.run t = .ok info) ↔ ¬ s.Aborts t) ∧
    ∀ info, s.run t = .ok info →
      info.totalListening = (s.listenerRecords t).length ∧
      info.totalEstablished = (s.connectionRecords t).length ∧
      info.unusualPortCount =
        ((s.listenerRecords t).filter (s.policy.isUnusual ·.localPort)).length ∧
      info.listeners =
        ((s.listenerRecords t).take s.maxListeners.toNat).map (s.listenerEntry (s.owner t)) ∧
      info.connections =
        ((s.connectionRecords t).take s.maxConnections.toNat).map (connectionEntry (s.owner t)) ∧
      (info.listenersTruncated ↔ s.maxListeners.toNat < (s.listenerRecords t).length) ∧
      (info.connectionsTruncated ↔ s.maxConnections.toNat < (s.connectionRecords t).length) := by
  refine ⟨run_ok_exists_iff, fun info h => ?_⟩
  obtain ⟨-, rfl⟩ := run_ok_iff.mp h
  simp [survey]

/-- A kernel table with one TCP listener, on port 8080 with inode 41. -/
def listenerTable : List UInt8 := "h\n0: 0100007F:1F90 00000000:0000 0A x x x 0 0 41\n".toUTF8.toList

/-- The settings a survey of the process directory `proc` takes by default. -/
def procSettings : ProbeSettings := ⟨"proc", PortPolicy.standard, 64, 128, true⟩

theorem listenerTable_needsOwner {t : FileTree}
    (h : t.readBytes "proc/net/tcp" = .ok listenerTable) :
    (procSettings.records t).any SocketRecord.needsOwner := by
  have hpath : procSettings.tablePath "net/tcp" = "proc/net/tcp" := by decide +kernel
  have hsrc : procSettings.readSource t ("tcp", "net/tcp") =
      .ok [⟨"tcp", "127.0.0.1", 8080, "0.0.0.0", 0, 10, 41⟩] := by
    rw [readSource, hpath, FileTree.socketTable_of_nul_free (by decide)]
    simp only [FileTree.tableBody, FileTree.readChars, h, Except.map, bind, Except.bind]
    decide +kernel
  refine List.any_eq_true.mpr ⟨⟨"tcp", "127.0.0.1", 8080, "0.0.0.0", 0, 10, 41⟩, ?_, by decide +kernel⟩
  simp only [records, recordsOf, List.mem_flatMap]
  exact ⟨("tcp", "net/tcp"), by decide, by simp [hsrc]⟩

section

open FileTree

/-- A listener on the table, and one process whose descriptor names a socket by a superscript
two, which passes the digit test but is no numeral. -/
def superscriptLinkTree : FileTree where
  entries := [⟨["proc"], .dir, dirAttrs⟩, ⟨["proc", "5"], .dir, dirAttrs⟩,
    ⟨["proc", "5", "fd"], .dir, dirAttrs⟩,
    ⟨["proc", "5", "fd", "3"], .link "socket:[²]", dirAttrs⟩,
    ⟨["proc", "net"], .dir, dirAttrs⟩,
    ⟨["proc", "net", "tcp"], .file listenerTable, dirAttrs⟩]

theorem superscript_link_stops_survey : ∃ f, procSettings.run superscriptLinkTree = .error f := by
  have htable : superscriptLinkTree.readBytes "proc/net/tcp" = .ok listenerTable := by
    decide +kernel
  -- process 5 holds one descriptor, whose inode is no numeral
  have hheld : superscriptLinkTree.socketHoldings "proc" = .error (.badIntegerText "²" 10) := by
    decide +kernel
  exact run_error_of_aborts (.inr ⟨listenerTable_needsOwner htable, _, hheld⟩)

end

/-- The owner of every entry a survey keeps is the first process, in directory order, one of
whose descriptors names the socket of the entry, none for inode 0, and its name is the name
of that process; the one-pass index of owners answers every inode as that scan does and has
no entry for inode 0. -/
theorem survey_owners_first_holder :
    (∀ root i, i ≠ 0 → (t.socketOwners root).map (fun index => (index.lookup i).getD 0) =
        (t.socketHoldings root).map (firstHolder · i)) ∧
    (∀ root index, t.socketOwners root = .ok index → ∀ e ∈ index, e.1 ≠ 0) ∧
    ∀ info, s.run t = .ok info →
      (∀ (k : Nat) (e : ListenerEntry), info.listeners[k]? = some e →
        ∃ (r : SocketRecord) (hs : List (Int × List Int)), (s.listenerRecords t)[k]? = some r ∧
        t.socketHoldings s.root = .ok hs ∧
        e.pid = (if r.inode = 0 then 0 else firstHolder hs r.inode) ∧
        t.processName s.root e.pid = .ok e.processName) ∧
      (∀ (k : Nat) (e : ConnectionEntry), info.connections[k]? = some e →
        ∃ (r : SocketRecord) (hs : List (Int × List Int)), (s.connectionRecords t)[k]? = some r ∧
        t.socketHoldings s.root = .ok hs ∧
        e.pid = (if r.inode = 0 then 0 else firstHolder hs r.inode) ∧
        t.processName s.root e.pid = .ok e.processName) := by
  refine ⟨fun root => (socketOwners_lookup t root).1, fun root => (socketOwners_lookup t root).2,
    fun info h => ⟨fun k e he => listener_owner h he, fun k e he => connection_owner h he⟩⟩

/-- A survey reports exactly when the process directory holds no NUL character and, if some
socket needs an owner, no malformed entry. It then records one message for each table that
cannot be read, in table order and at most four, counts them, gives pid 0 to every socket
that no process holds, and names an owner of no process the kernel and one whose `comm` file
cannot be read unknown. -/
theorem survey_failures :
    ((∃ info, s.run t = .ok info) ↔ Char.ofNat 0 ∉ s.root.toList ∧
        ((s.records t).any SocketRecord.needsOwner → ¬ t.Malformed s.root)) ∧
    ∀ info, s.run t = .ok info →
      info.errors = socketSources.filterMap (fun src =>
        match t.tableBody (s.tablePath src.2) with
        | .error f => some (s.tablePath src.2 ++ ": " ++ f.reason)
        | .ok _ => none) ∧
      info.probeErrors = info.errors.length ∧ info.errors.length ≤ 4 ∧
      (∀ e ∈ info.listeners, (e.pid ≤ 0 → e.processName = kernelOwner) ∧
        (0 < e.pid → (∃ f, t.readChars (FileTree.processPath s.root e.pid "comm") = .error f) →
          e.processName = unknownName)) ∧
      (∀ e ∈ info.connections, (e.pid ≤ 0 → e.processName = kernelOwner) ∧
        (0 < e.pid → (∃ f, t.readChars (FileTree.processPath s.root e.pid "comm") = .error f) →
          e.processName = unknownName)) ∧
      (∀ (k : Nat) (e : ListenerEntry) (r : SocketRecord), info.listeners[k]? = some e →
        (s.listenerRecords t)[k]? = some r → s.Unowned t r.inode → e.pid = 0) ∧
      (∀ (k : Nat) (e : ConnectionEntry) (r : SocketRecord), info.connections[k]? = some e →
        (s.connectionRecords t)[k]? = some r → s.Unowned t r.inode → e.pid = 0) := by
  constructor
  · rw [run_ok_exists_iff]
    by_cases hn : Char.ofNat 0 ∈ s.root.toList
    · simp [Aborts, hn]
    · rw [Aborts, FileTree.socketHoldings_error_iff hn]
      simp [hn]
  · intro info h
    obtain ⟨ha, rfl⟩ := run_ok_iff.mp h
    have hn : Char.ofNat 0 ∉ s.root.toList := fun hn => ha (.inl hn)
    have hlen : (s.failures t).length ≤ 4 := by
      rw [failures_eq hn]
      exact List.length_filterMap_le _ _
    refine ⟨failures_eq hn, rfl, hlen, ?_, ?_, fun k e r he hr => listener_pid_of_unowned h he hr,
      fun k e r he hr => connection_pid_of_unowned h he hr⟩
    · intro e he
      obtain ⟨r, -, rfl⟩ := List.mem_map.mp he
      exact owner_names hn r.inode
    · intro e he
      obtain ⟨r, -, rfl⟩ := List.mem_map.mp he
      exact owner_names hn r.inode

section

open FileTree

/-- A listener on the table, and a process directory entry named by a superscript two, which
passes the digit test but is no numeral. -/
def superscriptProcessTree : FileTree where
  entries := [⟨["proc"], .dir, dirAttrs⟩, ⟨["proc", "net"], .dir, dirAttrs⟩,
    ⟨["proc", "net", "tcp"], .file listenerTable, dirAttrs⟩,
    ⟨["proc", "²"], .dir, dirAttrs⟩]

theorem superscript_process_stops_survey :
    ∃ f, procSettings.run superscriptProcessTree = .error f := by
  have htable : superscriptProcessTree.readBytes "proc/net/tcp" = .ok listenerTable := by
    decide +kernel
  have hheld : superscriptProcessTree.socketHoldings "proc" = .error (.badIntegerText "²" 10) := by
    decide +kernel
  exact run_error_of_aborts (.inr ⟨listenerTable_needsOwner htable, _, hheld⟩)

end

end ProbeSettings

end HostSurvey
