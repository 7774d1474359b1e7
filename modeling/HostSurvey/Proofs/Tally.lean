import HostSurvey.Network.Probe

/-!
The tally of a survey once every socket's owner is known: each listener and connection is
counted, the first ones are kept while there is room, and failures are recorded apart.
-/

namespace HostSurvey

namespace NetworkInfo

theorem addListener_eq (info : NetworkInfo) (e : ListenerEntry) (u : Bool) :
    info.addListener e u =
      { info with
        listeners :=
          if info.maxListeners.toNat ≤ info.listeners.length then info.listeners
          else info.listeners ++ [e]
        totalListening := info.totalListening + 1
        unusualPortCount := info.unusualPortCount + if u then 1 else 0
        listenersTruncated :=
          info.listenersTruncated || decide (info.maxListeners.toNat ≤ info.listeners.length) } := by
  unfold addListener
  by_cases h : info.maxListeners.toNat ≤ info.listeners.length
  · have full : (info.listeners.length : Int) ≥ info.maxListeners := by omega
    simp [h, full]
  · have room : ¬ (info.listeners.length : Int) ≥ info.maxListeners := by omega
    simp [h, room]

theorem addConnection_eq (info : NetworkInfo) (e : ConnectionEntry) :
    info.addConnection e =
      { info with
        connections :=
          if info.maxConnections.toNat ≤ info.connections.length then info.connections
          else info.connections ++ [e]
        totalEstablished := info.totalEstablished + 1
        connectionsTruncated :=
          info.connectionsTruncated || decide (info.maxConnections.toNat ≤ info.connections.length) } := by
  unfold addConnection
  by_cases h : info.maxConnections.toNat ≤ info.connections.length
  · have full : (info.connections.length : Int) ≥ info.maxConnections := by omega
    simp [h, full]
  · have room : ¬ (info.connections.length : Int) ≥ info.maxConnections := by omega
    simp [h, room]

theorem kept_append {α : Type} (kept : List α) (e : α) (rest : List α) (cap : Nat) :
    (if cap ≤ kept.length then kept else kept ++ [e]) ++
        rest.take (cap - (if cap ≤ kept.length then kept else kept ++ [e]).length) =
      kept ++ (e :: rest).take (cap - kept.length) := by
  by_cases h : cap ≤ kept.length
  · simp [h, Nat.sub_eq_zero_of_le h]
  · obtain ⟨k, hk⟩ : ∃ k, cap - kept.length = k + 1 := ⟨cap - kept.length - 1, by omega⟩
    have hk' : cap - (kept.length + 1) = k := by omega
    simp [h, hk, hk', List.take_succ_cons]

/-- An entry is left out once the kept ones fill the room, and so is some later one exactly
when more come than there is room left. -/
theorem truncated_kept {α : Type} (b : Bool) (kept : List α) (e : α) (cap n : Nat) :
    (b || decide (cap ≤ kept.length) ||
        decide (cap - (if cap ≤ kept.length then kept else kept ++ [e]).length < n)) =
      (b || decide (cap - kept.length < n + 1)) := by
  by_cases h : cap ≤ kept.length
  · simp [h, Nat.sub_eq_zero_of_le h]
  · simp only [h, decide_false, Bool.or_false, if_false, List.length_append, List.length_singleton]
    congr 1
    apply decide_eq_decide.mpr
    omega

end NetworkInfo

/-- The entry of a listening socket once its owner is known. -/
def ProbeSettings.listenerEntry (s : ProbeSettings) (owner : Int → Int × String)
    (r : SocketRecord) : ListenerEntry :=
  ⟨r.protocol, r.localAddr, r.localPort, "LISTEN", (owner r.inode).1, (owner r.inode).2,
    s.policy.isUnusual r.localPort, PortPolicy.serviceName r.localPort⟩

/-- The entry of an established connection once its owner is known. -/
def connectionEntry (owner : Int → Int × String) (r : SocketRecord) : ConnectionEntry :=
  ⟨r.protocol, r.localAddr, r.localPort, r.remoteAddr, r.remotePort, "ESTABLISHED",
    (owner r.inode).1, (owner r.inode).2⟩

/-- A record counted as a connection: an established socket that is not a listener. -/
def SocketRecord.isOnlyConnection (r : SocketRecord) : Bool := !r.isListener && r.isConnection

namespace ProbeSettings

variable (s : ProbeSettings) (owner : Int → Int × String)

/-- What one socket adds to a survey once the owner of every inode is known. -/
def tally (info : NetworkInfo) (r : SocketRecord) : NetworkInfo :=
  if r.isListener then info.addListener (s.listenerEntry owner r) (s.policy.isUnusual r.localPort)
  else if r.isConnection then info.addConnection (connectionEntry owner r)
  else info

/-- Tallying sockets one by one counts every listener and connection and keeps the first
ones while there is room. -/
theorem foldl_tally (rs : List SocketRecord) (info : NetworkInfo) :
    rs.foldl (s.tally owner) info =
      { info with
        listeners := info.listeners ++
          ((rs.filter SocketRecord.isListener).map (s.listenerEntry owner)).take
            (info.maxListeners.toNat - info.listeners.length)
        connections := info.connections ++
          ((rs.filter SocketRecord.isOnlyConnection).map (connectionEntry owner)).take
            (info.maxConnections.toNat - info.connections.length)
        totalListening := info.totalListening + (rs.filter SocketRecord.isListener).length
        totalEstablished := info.totalEstablished + (rs.filter SocketRecord.isOnlyConnection).length
        unusualPortCount := info.unusualPortCount +
          ((rs.filter SocketRecord.isListener).filter (s.policy.isUnusual ·.localPort)).length
        listenersTruncated := info.listenersTruncated || decide
          (info.maxListeners.toNat - info.listeners.length < (rs.filter SocketRecord.isListener).length)
        connectionsTruncated := info.connectionsTruncated || decide
          (info.maxConnections.toNat - info.connections.length <
            (rs.filter SocketRecord.isOnlyConnection).length) } := by
  induction rs generalizing info with
  | nil => simp
  | cons r rs ih =>
    rw [List.foldl_cons, ih]
    by_cases hl : r.isListener
    · have hc : r.isOnlyConnection = false := by simp [SocketRecord.isOnlyConnection, hl]
      simp only [tally, hl, if_true, NetworkInfo.addListener_eq, List.filter_cons, hc,
        List.map_cons, List.length_cons, NetworkInfo.kept_append, NetworkInfo.truncated_kept]
      by_cases hu : s.policy.isUnusual r.localPort <;> simp [hu] <;> omega
    · rw [Bool.not_eq_true] at hl
      by_cases hc : r.isConnection
      · have ho : r.isOnlyConnection = true := by simp [SocketRecord.isOnlyConnection, hl, hc]
        simp only [tally, hl, hc, Bool.false_eq_true, ↓reduceIte, NetworkInfo.addConnection_eq,
          List.filter_cons, ho, List.map_cons, List.length_cons, NetworkInfo.kept_append,
          NetworkInfo.truncated_kept]
        simp
        omega
      · simp [tally, hl, hc, SocketRecord.isOnlyConnection]

theorem foldl_tally_addError (rs : List SocketRecord) (info : NetworkInfo) (m : String) :
    rs.foldl (s.tally owner) (info.addError m) = (rs.foldl (s.tally owner) info).addError m := by
  simp [foldl_tally, NetworkInfo.addError]

end ProbeSettings

theorem NetworkInfo.foldl_addError (ms : List String) (info : NetworkInfo) :
    ms.foldl NetworkInfo.addError info =
      { info with probeErrors := info.probeErrors + ms.length, errors := info.errors ++ ms } := by
  induction ms generalizing info with
  | nil => simp
  | cons m ms ih =>
    simp only [List.foldl_cons, ih, NetworkInfo.addError, List.length_cons, List.append_assoc,
      List.singleton_append]
    congr 1
    omega

end HostSurvey
