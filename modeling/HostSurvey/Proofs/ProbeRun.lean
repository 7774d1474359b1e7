import HostSurvey.Proofs.Tally
import HostSurvey.Proofs.Readers
import HostSurvey.Proofs.InodeIndex

/-!
A survey of the network, run table by table with the owners of sockets looked up lazily and the
names of owners remembered, reports what the tables and the process directory say: the tally of
the readable tables with every owner read from the tree.
-/

namespace HostSurvey

/-- A socket whose owner a survey looks up. -/
def SocketRecord.needsOwner (r : SocketRecord) : Bool := r.isListener || r.isConnection

namespace ProbeSettings

variable (s : ProbeSettings) (t : FileTree)

/-- The path of a kernel table below the process directory. -/
def tablePath (rel : String) : String := ((PathName.ofText s.root).slash rel).text

/-- What reading one kernel table gives. -/
def readSource (src : String × String) : Except Fault (List SocketRecord) :=
  t.socketTable (s.tablePath src.2) src.1 s.canonical

/-- The records of the tables among `srcs` that can be read, in order. -/
def recordsOf (srcs : List (String × String)) : List SocketRecord :=
  srcs.flatMap fun src => match s.readSource t src with
    | .ok rs => rs
    | .error _ => []

/-- The messages of the tables among `srcs` that cannot be read, in order. -/
def failuresOf (srcs : List (String × String)) : List String :=
  srcs.filterMap fun src => match s.readSource t src with
    | .error (.sourceUnavailable m) => some m
    | _ => none

/-- The records of the kernel tables that can be read. -/
def records : List SocketRecord := s.recordsOf t socketSources

/-- The listeners among the records. -/
def listenerRecords : List SocketRecord := (s.records t).filter SocketRecord.isListener

/-- The connections among the records. -/
def connectionRecords : List SocketRecord := (s.records t).filter SocketRecord.isOnlyConnection

/-- The owner of a socket inode and the owner's name, as the tree gives them. -/
def owner (inode : Int) : Int × String :=
  let pid := match t.socketOwners s.root with
    | .ok index => (index.lookup inode).getD 0
    | .error _ => 0
  (pid, match t.processName s.root pid with
    | .ok name => name
    | .error _ => unknownName)

/-- The messages of the kernel tables that cannot be read. -/
def failures : List String := s.failuresOf t socketSources

/-- What a survey of a tree reports: every listener and connection of the readable tables
counted, the first ones kept as far as the limits allow, the unusual listening ports counted,
and one message for each table that cannot be read. -/
def survey : NetworkInfo where
  maxListeners := s.maxListeners
  maxConnections := s.maxConnections
  listeners := ((s.listenerRecords t).take s.maxListeners.toNat).map (s.listenerEntry (s.owner t))
  connections :=
    ((s.connectionRecords t).take s.maxConnections.toNat).map (connectionEntry (s.owner t))
  totalListening := (s.listenerRecords t).length
  totalEstablished := (s.connectionRecords t).length
  unusualPortCount := ((s.listenerRecords t).filter (s.policy.isUnusual ·.localPort)).length
  listenersTruncated := decide (s.maxListeners.toNat < (s.listenerRecords t).length)
  connectionsTruncated := decide (s.maxConnections.toNat < (s.connectionRecords t).length)
  probeErrors := (s.failures t).length
  errors := s.failures t

/-- A survey stops instead of reporting when a table path holds a NUL character, which no
system call takes, or when some socket needs an owner while the holdings of the processes
cannot be read. -/
def Aborts : Prop :=
  Char.ofNat 0 ∈ s.root.toList ∨
    ((s.records t).any SocketRecord.needsOwner ∧ ∃ f, t.socketHoldings s.root = .error f)

/-- What the state of a survey remembers agrees with the tree: the owners once read are the
index of the tree, and every name remembered is the name of its process. -/
structure Coherent (st : ProbeState) : Prop where
  owners : ∀ index, st.owners = some index → t.socketOwners s.root = .ok index
  names : ∀ pid name, st.names.lookup pid = some name → t.processName s.root pid = .ok name

/-- One table of a survey: its records added, or its failure recorded. -/
def sourceStep (st : ProbeState) (src : String × String) : Except Fault ProbeState :=
  match s.readSource t src with
  | .error (.sourceUnavailable m) => pure { st with info := st.info.addError m }
  | .error f => throw f
  | .ok records => records.foldlM (s.addRecord t) st

/-- The state a survey starts from. -/
def start : ProbeState :=
  ⟨{ maxListeners := s.maxListeners, maxConnections := s.maxConnections }, none, []⟩

variable {s t}

theorem run_eq : s.run t = (socketSources.foldlM (s.sourceStep t) s.start).map (·.info) := by
  show (socketSources.foldlM (s.sourceStep t) s.start >>= fun final => pure final.info) = _
  cases socketSources.foldlM (s.sourceStep t) s.start <;> rfl

theorem Coherent.withInfo {st : ProbeState} (hc : s.Coherent t st) (info : NetworkInfo) :
    s.Coherent t { st with info := info } :=
  ⟨hc.owners, hc.names⟩

theorem start_coherent (s : ProbeSettings) (t : FileTree) : s.Coherent t s.start where
  owners _ h := by cases h
  names _ _ h := by simp [start] at h

theorem owner_of_index {index : List (Int × Int)} (hi : t.socketOwners s.root = .ok index)
    {name : String} (inode : Int)
    (hname : t.processName s.root ((index.lookup inode).getD 0) = .ok name) :
    s.owner t inode = ((index.lookup inode).getD 0, name) := by
  simp [owner, hi, hname]

theorem Coherent.remember {st : ProbeState} (hc : s.Coherent t st) {index : List (Int × Int)}
    (hi : t.socketOwners s.root = .ok index) {pid : Int} {name : String}
    (hname : t.processName s.root pid = .ok name) :
    s.Coherent t { st with owners := some index, names := st.names ++ [(pid, name)] } := by
  refine ⟨fun o ho => by cases ho; exact hi, fun p n hp => ?_⟩
  rw [List.lookup_append] at hp
  cases hl : st.names.lookup p with
  | some m =>
    simp only [hl, Option.some_or, Option.some.injEq] at hp
    subst hp
    exact hc.names p m hl
  | none =>
    rw [hl, Option.none_or] at hp
    by_cases hpp : p = pid
    · subst hpp
      rw [List.lookup_cons_self, Option.some.injEq] at hp
      exact hp ▸ hname
    · simp only [List.lookup_cons, beq_eq_false_iff_ne.mpr hpp, List.lookup_nil, reduceCtorEq] at hp

theorem nameOf_ok {st : ProbeState} (hc : s.Coherent t st) {index : List (Int × Int)}
    (hi : t.socketOwners s.root = .ok index) {pid : Int} {name : String}
    (hname : t.processName s.root pid = .ok name) :
    ∃ st', (match st.names.lookup pid with
      | some n => (pure (pid, n, { st with owners := some index }) : Except Fault _)
      | none => do
        let n ← t.processName s.root pid
        pure (pid, n, { st with owners := some index, names := st.names ++ [(pid, n)] })) =
        .ok (pid, name, st') ∧ st'.info = st.info ∧ s.Coherent t st' := by
  cases hl : st.names.lookup pid with
  | some n =>
    have := (hc.names _ n hl).symm.trans hname
    cases this
    exact ⟨_, rfl, rfl, ⟨fun o ho => by cases ho; exact hi, hc.names⟩⟩
  | none =>
    simp only [hname, bind, Except.bind, pure, Except.pure]
    exact ⟨_, rfl, rfl, hc.remember hi hname⟩

theorem ownerOf_ok {st : ProbeState} (hc : s.Coherent t st) (hn : Char.ofNat 0 ∉ s.root.toList)
    {index : List (Int × Int)} (hi : t.socketOwners s.root = .ok index) (inode : Int) :
    ∃ st', s.ownerOf t st inode = .ok ((s.owner t inode).1, (s.owner t inode).2, st') ∧
      st'.info = st.info ∧ s.Coherent t st' := by
  -- the owners are the index of the tree, remembered or read now
  have hpick : st.owners = some index ∨ st.owners = none := by
    cases ho : st.owners with
    | some o => exact .inl (congrArg some (Except.ok.inj ((hc.owners o ho).symm.trans hi)))
    | none => exact .inr rfl
  obtain ⟨name, hname⟩ := FileTree.processName_ok t hn ((index.lookup inode).getD 0)
  rw [owner_of_index hi inode hname]
  unfold ownerOf
  rcases hpick with ho | ho <;> simp only [ho, hi, bind, Except.bind, pure, Except.pure] <;>
    exact nameOf_ok hc hi hname

theorem ownerOf_error {st : ProbeState} (hc : s.Coherent t st) {f : Fault}
    (hi : t.socketOwners s.root = .error f) (inode : Int) :
    ∃ g, s.ownerOf t st inode = .error g := by
  cases ho : st.owners with
  | some o =>
    have := (hc.owners o ho).symm.trans hi
    cases this
  | none =>
    unfold ownerOf
    simp [ho, hi, bind, Except.bind]

theorem listener_state {r : SocketRecord} (h : r.isListener) :
    (if r.protocol.startsWith "udp" then "LISTEN" else tcpStateName r.state) = "LISTEN" := by
  unfold SocketRecord.isListener at h
  split
  · rfl
  next hu =>
    simp only [hu, Bool.false_eq_true, ↓reduceIte, beq_iff_eq] at h
    rw [h]
    decide

theorem connection_state {r : SocketRecord} (h : r.isConnection) :
    tcpStateName r.state = "ESTABLISHED" := by
  simp only [SocketRecord.isConnection, Bool.and_eq_true, beq_iff_eq] at h
  rw [h.2]
  decide

theorem addRecord_of_not_needsOwner {st : ProbeState} {r : SocketRecord}
    (h : r.needsOwner = false) : s.addRecord t st r = .ok st := by
  simp only [SocketRecord.needsOwner, Bool.or_eq_false_iff] at h
  simp [addRecord, h.1, h.2, pure, Except.pure]

theorem tally_of_not_needsOwner {owner : Int → Int × String} {info : NetworkInfo}
    {r : SocketRecord} (h : r.needsOwner = false) : s.tally owner info r = info := by
  simp only [SocketRecord.needsOwner, Bool.or_eq_false_iff] at h
  simp [tally, h.1, h.2]

theorem addRecord_ok {st : ProbeState} (hc : s.Coherent t st) (hn : Char.ofNat 0 ∉ s.root.toList)
    {r : SocketRecord} (hr : r.needsOwner → ∃ index, t.socketOwners s.root = .ok index) :
    ∃ st', s.addRecord t st r = .ok st' ∧ st'.info = s.tally (s.owner t) st.info r ∧
      s.Coherent t st' := by
  cases hneed : r.needsOwner with
  | false =>
    exact ⟨st, addRecord_of_not_needsOwner hneed, (tally_of_not_needsOwner hneed).symm, hc⟩
  | true =>
    obtain ⟨index, hi⟩ := hr hneed
    obtain ⟨st', ho, hinfo, hc'⟩ := ownerOf_ok hc hn hi r.inode
    unfold addRecord tally
    by_cases hl : r.isListener
    · simp only [hl, ↓reduceIte, ho, bind, Except.bind, pure, Except.pure, listener_state hl]
      exact ⟨_, rfl, by simp [hinfo, listenerEntry], hc'.withInfo _⟩
    · have hcn : r.isConnection := by
        simpa [SocketRecord.needsOwner, hl] using hneed
      simp only [hl, hcn, Bool.false_eq_true, ↓reduceIte, ho, bind, Except.bind, pure, Except.pure,
        connection_state hcn]
      exact ⟨_, rfl, by simp [hinfo, connectionEntry], hc'.withInfo _⟩

theorem addRecord_error {st : ProbeState} (hc : s.Coherent t st) {r : SocketRecord}
    (hr : r.needsOwner) {f : Fault} (hi : t.socketOwners s.root = .error f) :
    ∃ g, s.addRecord t st r = .error g := by
  obtain ⟨g, hg⟩ := ownerOf_error hc hi r.inode
  unfold addRecord
  by_cases hl : r.isListener
  · simp [hl, hg, bind, Except.bind]
  · have hcn : r.isConnection := by simpa [SocketRecord.needsOwner, hl] using hr
    simp [hl, hcn, hg, bind, Except.bind]

theorem foldlM_addRecord_ok (hn : Char.ofNat 0 ∉ s.root.toList) (rs : List SocketRecord)
    (hr : rs.any SocketRecord.needsOwner → ∃ index, t.socketOwners s.root = .ok index)
    {st : ProbeState} (hc : s.Coherent t st) :
    ∃ st', rs.foldlM (s.addRecord t) st = .ok st' ∧
      st'.info = rs.foldl (s.tally (s.owner t)) st.info ∧ s.Coherent t st' := by
  induction rs generalizing st with
  | nil => exact ⟨st, rfl, rfl, hc⟩
  | cons r rs ih =>
    obtain ⟨st₁, h₁, hinfo₁, hc₁⟩ :=
      addRecord_ok hc hn (fun (h : r.needsOwner) => hr (by simp [List.any_cons, h]))
    obtain ⟨st₂, h₂, hinfo₂, hc₂⟩ := ih (fun h => hr (by simp [List.any_cons, h])) hc₁
    refine ⟨st₂, ?_, ?_, hc₂⟩
    · rw [List.foldlM_cons, h₁]
      exact h₂
    · rw [List.foldl_cons, hinfo₂, hinfo₁]

theorem foldlM_addRecord_error (rs : List SocketRecord) (hr : rs.any SocketRecord.needsOwner)
    {f : Fault} (hi : t.socketOwners s.root = .error f) {st : ProbeState}
    (hc : s.Coherent t st) : ∃ g, rs.foldlM (s.addRecord t) st = .error g := by
  induction rs generalizing st with
  | nil => simp at hr
  | cons r rs ih =>
    rw [List.foldlM_cons]
    cases hneed : r.needsOwner with
    | true =>
      obtain ⟨g, hg⟩ := addRecord_error hc hneed hi
      exact ⟨g, by rw [hg]; rfl⟩
    | false =>
      rw [addRecord_of_not_needsOwner hneed]
      exact ih (by simpa [hneed] using hr) hc

theorem tablePath_nul_free (hn : Char.ofNat 0 ∉ s.root.toList) {rel : String}
    (hr : Char.ofNat 0 ∉ rel.toList) : Char.ofNat 0 ∉ (s.tablePath rel).toList := by
  have hs : Char.ofNat 0 ≠ '/' := by decide
  exact ((PathName.ofText_avoids hn hs).slash hr hs).text hs (by decide)

theorem tablePath_nul (hn : Char.ofNat 0 ∈ s.root.toList) {rel : String}
    (hr : (PathName.ofText rel).root = "") : Char.ofNat 0 ∈ (s.tablePath rel).toList :=
  PathName.mem_text_slash hn (by decide) (by decide) hr

theorem readSource_cases (t : FileTree) (hn : Char.ofNat 0 ∉ s.root.toList) {src : String × String}
    (hsrc : Char.ofNat 0 ∉ src.2.toList) :
    (∃ rs, s.readSource t src = .ok rs) ∨ ∃ m, s.readSource t src = .error (.sourceUnavailable m) := by
  unfold readSource
  rw [FileTree.socketTable_of_nul_free (tablePath_nul_free hn hsrc)]
  split
  · exact .inl ⟨_, rfl⟩
  · exact .inr ⟨_, rfl⟩

/-- What one table adds to the tally of a survey. -/
def sourceTally (s : ProbeSettings) (t : FileTree) (info : NetworkInfo) (src : String × String) :
    NetworkInfo :=
  match s.readSource t src with
  | .ok rs => rs.foldl (s.tally (s.owner t)) info
  | .error (.sourceUnavailable m) => info.addError m
  | .error _ => info

theorem recordsOf_cons (src : String × String) (srcs : List (String × String)) :
    s.recordsOf t (src :: srcs) = s.recordsOf t [src] ++ s.recordsOf t srcs := by
  simp [recordsOf]

theorem foldlM_sourceStep_ok (hn : Char.ofNat 0 ∉ s.root.toList) (srcs : List (String × String))
    (hsrcs : ∀ src ∈ srcs, Char.ofNat 0 ∉ src.2.toList)
    (hr : (s.recordsOf t srcs).any SocketRecord.needsOwner →
      ∃ index, t.socketOwners s.root = .ok index)
    {st : ProbeState} (hc : s.Coherent t st) :
    ∃ st', srcs.foldlM (s.sourceStep t) st = .ok st' ∧
      st'.info = srcs.foldl (s.sourceTally t) st.info := by
  induction srcs generalizing st with
  | nil => exact ⟨st, rfl, rfl⟩
  | cons src srcs ih =>
    have hr₁ := fun (h : (s.recordsOf t [src]).any SocketRecord.needsOwner) =>
      hr (by rw [recordsOf_cons, List.any_append, h, Bool.true_or])
    have hr₂ := fun (h : (s.recordsOf t srcs).any SocketRecord.needsOwner) =>
      hr (by rw [recordsOf_cons, List.any_append, h, Bool.or_true])
    have hsrcs' : ∀ src ∈ srcs, Char.ofNat 0 ∉ src.2.toList :=
      fun src h => hsrcs src (List.mem_cons_of_mem _ h)
    rw [List.foldlM_cons, List.foldl_cons]
    rcases readSource_cases t hn (hsrcs src List.mem_cons_self) with ⟨rs, hrs⟩ | ⟨m, hm⟩
    · have hown : rs.any SocketRecord.needsOwner → ∃ index, t.socketOwners s.root = .ok index :=
        fun h => hr₁ (by simpa [recordsOf, hrs] using h)
      obtain ⟨st₁, h₁, hinfo₁, hc₁⟩ := foldlM_addRecord_ok hn rs hown hc
      obtain ⟨st₂, h₂, hinfo₂⟩ := ih hsrcs' hr₂ hc₁
      refine ⟨st₂, ?_, ?_⟩
      · simp only [sourceStep, hrs, h₁]
        exact h₂
      · simp only [hinfo₂, hinfo₁, sourceTally, hrs]
    · obtain ⟨st₂, h₂, hinfo₂⟩ := ih hsrcs' hr₂ (hc.withInfo (st.info.addError m))
      refine ⟨st₂, ?_, ?_⟩
      · simp only [sourceStep, hm]
        exact h₂
      · simp only [hinfo₂, sourceTally, hm]

theorem foldlM_sourceStep_error (hn : Char.ofNat 0 ∉ s.root.toList) (srcs : List (String × String))
    (hr : (s.recordsOf t srcs).any SocketRecord.needsOwner) {f : Fault}
    (hi : t.socketOwners s.root = .error f) {st : ProbeState} (hc : s.Coherent t st) :
    ∃ g, srcs.foldlM (s.sourceStep t) st = .error g := by
  induction srcs generalizing st with
  | nil => simp [recordsOf] at hr
  | cons src srcs ih =>
    rw [List.foldlM_cons]
    unfold sourceStep
    cases hrs : s.readSource t src with
    | ok rs =>
      by_cases hneed : rs.any SocketRecord.needsOwner
      · obtain ⟨g, hg⟩ := foldlM_addRecord_error rs hneed hi hc
        exact ⟨g, by simp only [hg]; rfl⟩
      · have hown : rs.any SocketRecord.needsOwner → ∃ index, t.socketOwners s.root = .ok index :=
          fun h => absurd h hneed
        obtain ⟨st₁, h₁, -, hc₁⟩ := foldlM_addRecord_ok hn rs hown hc
        simp only [h₁]
        exact ih (by simpa [recordsOf_cons, recordsOf, hrs, hneed] using hr) hc₁
    | error e =>
      cases e with
      | sourceUnavailable m =>
        exact ih (by simpa [recordsOf_cons, recordsOf, hrs] using hr) (hc.withInfo _)
      | _ => exact ⟨_, rfl⟩

theorem foldl_addError_foldl_tally (ms : List String) (rs : List SocketRecord)
    (info : NetworkInfo) (owner : Int → Int × String) :
    ms.foldl NetworkInfo.addError (rs.foldl (s.tally owner) info) =
      rs.foldl (s.tally owner) (ms.foldl NetworkInfo.addError info) := by
  induction ms generalizing info with
  | nil => rfl
  | cons m ms ih => rw [List.foldl_cons, ← foldl_tally_addError, ih, List.foldl_cons]

/-- Tallying table by table is tallying the records of the readable tables after recording
the failures of the others. -/
theorem foldl_sourceTally (srcs : List (String × String)) (info : NetworkInfo) :
    srcs.foldl (s.sourceTally t) info =
      (s.recordsOf t srcs).foldl (s.tally (s.owner t))
        ((s.failuresOf t srcs).foldl NetworkInfo.addError info) := by
  induction srcs generalizing info with
  | nil => rfl
  | cons src srcs ih =>
    rw [List.foldl_cons, ih, recordsOf_cons, List.foldl_append]
    unfold sourceTally
    cases hrs : s.readSource t src with
    | ok rs =>
      simp only [recordsOf, failuresOf, hrs, List.flatMap_cons, List.flatMap_nil, List.append_nil,
        List.filterMap_cons]
      rw [foldl_addError_foldl_tally]
    | error e =>
      cases e with
      | sourceUnavailable m => simp [recordsOf, failuresOf, hrs]
      | _ => simp [recordsOf, failuresOf, hrs]

theorem foldl_sourceTally_start (s : ProbeSettings) (t : FileTree) :
    socketSources.foldl (s.sourceTally t) s.start.info = s.survey t := by
  rw [foldl_sourceTally, NetworkInfo.foldl_addError, foldl_tally]
  simp [survey, start, records, listenerRecords, connectionRecords, failures, List.map_take]
  exact ⟨rfl, rfl⟩

theorem socketSources_nul_free : ∀ src ∈ socketSources, Char.ofNat 0 ∉ src.2.toList := by
  decide

theorem run_of_not_aborts (h : ¬ s.Aborts t) : s.run t = .ok (s.survey t) := by
  simp only [Aborts, not_or, not_and] at h
  obtain ⟨hn, hh⟩ := h
  have hown : (s.recordsOf t socketSources).any SocketRecord.needsOwner →
      ∃ index, t.socketOwners s.root = .ok index := by
    intro hneed
    cases hs : t.socketHoldings s.root with
    | error f => exact absurd ⟨f, hs⟩ (hh hneed)
    | ok hs' => exact ⟨ownerIndex hs', by rw [socketOwners_eq, hs]; rfl⟩
  obtain ⟨st, hst, hinfo⟩ :=
    foldlM_sourceStep_ok hn socketSources socketSources_nul_free hown (start_coherent s t)
  rw [run_eq, hst, ← foldl_sourceTally_start, ← hinfo]
  rfl

theorem run_error_of_aborts (h : s.Aborts t) : ∃ f, s.run t = .error f := by
  rw [run_eq]
  by_cases hn : Char.ofNat 0 ∈ s.root.toList
  · -- the first table path already holds the NUL character
    have hp : Char.ofNat 0 ∈ (s.tablePath "net/tcp").toList := tablePath_nul hn (by decide)
    have hsrc : s.sourceStep t s.start ("tcp", "net/tcp") = .error .embeddedNull := by
      simp [sourceStep, readSource, FileTree.socketTable_nul hp, throw, throwThe,
        MonadExceptOf.throw]
    exact ⟨.embeddedNull, by simp [socketSources, List.foldlM_cons, hsrc, Except.map, bind,
      Except.bind]⟩
  · obtain ⟨hneed, f, hf⟩ := h.resolve_left hn
    have hi : t.socketOwners s.root = .error f := by rw [socketOwners_eq, hf]; rfl
    obtain ⟨g, hg⟩ := foldlM_sourceStep_error hn socketSources hneed hi (start_coherent s t)
    exact ⟨g, by rw [hg]; rfl⟩

/-- A survey reports exactly when it does not stop, and then it reports the tally of the
tree. -/
theorem run_ok_iff {info : NetworkInfo} :
    s.run t = .ok info ↔ ¬ s.Aborts t ∧ info = s.survey t := by
  constructor
  · intro h
    by_cases ha : s.Aborts t
    · obtain ⟨f, hf⟩ := run_error_of_aborts ha
      rw [hf] at h
      cases h
    · exact ⟨ha, Except.ok.inj (h.symm.trans (run_of_not_aborts ha))⟩
  · rintro ⟨ha, rfl⟩
    exact run_of_not_aborts ha

end ProbeSettings

end HostSurvey
