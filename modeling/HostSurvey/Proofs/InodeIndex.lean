import Mathlib.Data.List.Forall2
import HostSurvey.Proofs.Readers

/-!
The owners of sockets, found in one pass over the descriptors of every process, are the owners
that a scan for each socket finds: for every inode, the first process in directory order one of
whose descriptors names it.
-/

namespace HostSurvey

/-- A fold whose step reads one value and then updates the accumulator reads every value
first and then folds. -/
theorem foldlM_eq_map_mapM {α β γ ε : Type} {f : α → β → Except ε α} (g : β → Except ε γ)
    (h : α → γ → α) (hf : ∀ a b, f a b = (g b).map (h a)) (xs : List β) (init : α) :
    xs.foldlM f init = (xs.mapM g).map (·.foldl h init) := by
  induction xs generalizing init with
  | nil => rfl
  | cons x xs ih =>
    rw [List.foldlM_cons, List.mapM_cons, hf]
    cases g x with
    | error e => rfl
    | ok v =>
      change xs.foldlM f (h init v) = _
      rw [ih]
      cases xs.mapM g <;> rfl

namespace FileTree

/-- The inodes that the descriptors of one process name, in descriptor order; a descriptor
that names no socket gives 0. -/
def heldInodes (t : FileTree) (root : String) (pid : Int) : Except Fault (List Int) := do
  (← t.descriptorTargets (processPath root pid "fd")).mapM (fun d => socketInode d.2)

/-- Every process of a process directory, in directory order, with the inodes it holds. -/
def socketHoldings (t : FileTree) (root : String) : Except Fault (List (Int × List Int)) := do
  (← t.processIds root).mapM (fun pid => (t.heldInodes root pid).map (pid, ·))

end FileTree

/-- The owner of a socket by a scan for that socket: the first process holding its inode,
0 when none does. -/
def firstHolder (hs : List (Int × List Int)) (inode : Int) : Int :=
  ((hs.find? (fun h => h.2.contains inode)).map (·.1)).getD 0

/-- Gives an inode an owner unless it names no socket or already has one. -/
def claimInode (pid : Int) (index : List (Int × Int)) (inode : Int) : List (Int × Int) :=
  if inode = 0 ∨ index.any (·.1 == inode) then index else index ++ [(inode, pid)]

/-- The index of owners that one pass over the holdings builds. -/
def ownerIndex (hs : List (Int × List Int)) : List (Int × Int) :=
  hs.foldl (fun index h => h.2.foldl (claimInode h.1) index) []

theorem socketOwners_eq (t : FileTree) (root : String) :
    t.socketOwners root = (t.socketHoldings root).map ownerIndex := by
  unfold FileTree.socketOwners FileTree.socketHoldings
  cases t.processIds root with
  | error e => rfl
  | ok pids =>
    simp only [bind, Except.bind]
    rw [foldlM_eq_map_mapM (fun pid => (t.heldInodes root pid).map (pid, ·))
      (fun index h => h.2.foldl (claimInode h.1) index)]
    · rfl
    intro index pid
    simp only [FileTree.heldInodes]
    cases t.descriptorTargets (FileTree.processPath root pid "fd") with
    | error e => rfl
    | ok targets =>
      simp only [bind, Except.bind]
      rw [foldlM_eq_map_mapM (fun d => socketInode d.2) (claimInode pid)]
      · cases targets.mapM (fun d => socketInode d.2) <;> rfl
      · intro index d
        cases socketInode d.2 with
        | error e => rfl
        | ok v =>
          simp only [claimInode, Except.map, pure, Except.pure]
          exact (apply_ite Except.ok _ _ _).symm

theorem claimInode_lookup (pid : Int) (index : List (Int × Int)) (v i : Int) :
    (claimInode pid index v).lookup i =
      (index.lookup i).or (if i ≠ 0 ∧ v = i then some pid else none) := by
  unfold claimInode
  split
  next h =>
    by_cases hv : i ≠ 0 ∧ v = i
    · obtain ⟨hi, rfl⟩ := hv
      have hs : (index.lookup v).isSome := by
        rcases h with h | h
        · exact absurd h hi
        · simpa [List.lookup_isSome_iff] using h
      obtain ⟨p, hp⟩ := Option.isSome_iff_exists.mp hs
      simp [hp]
    · simp [hv]
  next h =>
    rw [List.lookup_append, List.lookup_singleton]
    by_cases hv : v = i
    · subst hv
      have hi : v ≠ 0 := fun h' => h (.inl h')
      simp only [beq_self_eq_true, ↓reduceIte, ne_eq, hi, not_false_eq_true, and_self]
    · have hne : (i == v) = false := beq_eq_false_iff_ne.mpr (Ne.symm hv)
      simp [hne, hv]

theorem lookup_foldl_claimInode (pid : Int) (inodes : List Int) (index : List (Int × Int))
    (i : Int) :
    (inodes.foldl (claimInode pid) index).lookup i =
      (index.lookup i).or (if i ≠ 0 ∧ i ∈ inodes then some pid else none) := by
  induction inodes generalizing index with
  | nil => simp
  | cons v vs ih =>
    rw [List.foldl_cons, ih, claimInode_lookup, Option.or_assoc]
    congr 1
    by_cases hi : i = 0
    · simp [hi]
    · by_cases hv : v = i
      · simp [hi, hv]
      · by_cases hm : i ∈ vs <;> simp [hi, hv, hm, Ne.symm hv]

theorem lookup_foldl_holdings (hs : List (Int × List Int)) (index : List (Int × Int)) (i : Int) :
    (hs.foldl (fun index h => h.2.foldl (claimInode h.1) index) index).lookup i =
      (index.lookup i).or
        (if i ≠ 0 then (hs.find? (fun h => h.2.contains i)).map (·.1) else none) := by
  induction hs generalizing index with
  | nil => simp
  | cons h rest ih =>
    rw [List.foldl_cons, ih, lookup_foldl_claimInode, Option.or_assoc]
    congr 1
    by_cases hi : i = 0
    · simp [hi]
    · by_cases hm : i ∈ h.2 <;> simp [hi, hm]

theorem firstHolder_of_unheld {hs : List (Int × List Int)} {inode : Int}
    (h : ∀ p ∈ hs, inode ∉ p.2) : firstHolder hs inode = 0 := by
  rw [firstHolder, List.find?_eq_none.2 fun p hp => by simpa using h p hp]
  rfl

theorem lookup_ownerIndex (hs : List (Int × List Int)) {i : Int} (hi : i ≠ 0) :
    ((ownerIndex hs).lookup i).getD 0 = firstHolder hs i := by
  simp [ownerIndex, lookup_foldl_holdings, hi, firstHolder]

theorem claimInode_keys {pid : Int} {index : List (Int × Int)} {v : Int}
    (h : ∀ e ∈ index, e.1 ≠ 0) : ∀ e ∈ claimInode pid index v, e.1 ≠ 0 := by
  unfold claimInode
  split
  · exact h
  next hv =>
    intro e he
    rcases List.mem_append.mp he with he | he
    · exact h e he
    · simp only [List.mem_singleton] at he
      subst he
      exact fun h0 => hv (.inl h0)

theorem foldl_claimInode_keys (pid : Int) (inodes : List Int) {index : List (Int × Int)}
    (h : ∀ e ∈ index, e.1 ≠ 0) : ∀ e ∈ inodes.foldl (claimInode pid) index, e.1 ≠ 0 := by
  induction inodes generalizing index with
  | nil => exact h
  | cons v vs ih => exact ih (claimInode_keys h)

theorem ownerIndex_keys (hs : List (Int × List Int)) : ∀ e ∈ ownerIndex hs, e.1 ≠ 0 := by
  suffices ∀ index : List (Int × Int), (∀ e ∈ index, e.1 ≠ 0) →
      ∀ e ∈ hs.foldl (fun index h => h.2.foldl (claimInode h.1) index) index, e.1 ≠ 0 from
    this [] (by simp)
  induction hs with
  | nil => exact fun _ h => h
  | cons h rest ih => exact fun index hk => ih _ (foldl_claimInode_keys h.1 h.2 hk)

theorem lookup_ownerIndex_zero (hs : List (Int × List Int)) : (ownerIndex hs).lookup 0 = none :=
  List.lookup_eq_none_iff.mpr fun p hp => bne_iff_ne.mpr (ownerIndex_keys hs p hp).symm

/-- The one-pass index of socket owners answers as the scan for each socket: it fails
exactly when reading the holdings fails, every inode that names a socket has the first
process in directory order that holds it, and no entry is for inode 0. -/
theorem socketOwners_lookup (t : FileTree) (root : String) :
    (∀ i, i ≠ 0 → (t.socketOwners root).map (fun index => (index.lookup i).getD 0) =
        (t.socketHoldings root).map (firstHolder · i)) ∧
      ∀ index, t.socketOwners root = .ok index → ∀ e ∈ index, e.1 ≠ 0 := by
  rw [socketOwners_eq]
  refine ⟨fun i hi => ?_, fun index h => ?_⟩
  · cases t.socketHoldings root with
    | error e => rfl
    | ok hs => simp [Except.map, lookup_ownerIndex hs hi]
  · cases hh : t.socketHoldings root with
    | error e => simp [hh, Except.map] at h
    | ok hs =>
      simp only [hh, Except.map, Except.ok.injEq] at h
      exact h ▸ ownerIndex_keys hs

theorem bind_eq_ok {ε α β : Type} {x : Except ε α} {f : α → Except ε β} {b : β} :
    (x >>= f) = .ok b ↔ ∃ a, x = .ok a ∧ f a = .ok b := by
  cases x <;> simp [bind, Except.bind]

theorem map_eq_ok {ε α β : Type} {f : α → β} {x : Except ε α} {y : β} (h : f <$> x = .ok y) :
    ∃ a, x = .ok a ∧ y = f a := by
  cases x with
  | error e => cases h
  | ok a => exact ⟨a, rfl, (Except.ok.inj h).symm⟩

theorem mapM_eq_ok_iff {α β ε : Type} {g : α → Except ε β} {xs : List α} {ys : List β} :
    xs.mapM g = .ok ys ↔ List.Forall₂ (fun x y => g x = .ok y) xs ys := by
  induction xs generalizing ys with
  | nil => cases ys <;> simp [pure, Except.pure]
  | cons x xs ih =>
    rw [List.mapM_cons]
    cases hx : g x with
    | error e => cases ys <;> simp [bind, Except.bind, hx]
    | ok y =>
      cases hrest : xs.mapM g with
      | error e => cases ys <;> simp [bind, Except.bind, ← ih, hrest, hx]
      | ok rest => cases ys <;> simp [bind, Except.bind, pure, Except.pure, ← ih, hrest, hx]

theorem forall_mem_of_forall₂ {α β : Type} {R : α → β → Prop} {P : β → Prop} {xs : List α}
    {ys : List β} (h : List.Forall₂ R xs ys) (hp : ∀ x y, R x y → P y) : ∀ y ∈ ys, P y := by
  induction h with
  | nil => simp
  | cons hr _ ih =>
    intro y hy
    rcases List.mem_cons.mp hy with rfl | hy
    · exact hp _ _ hr
    · exact ih y hy

theorem mapM_error_iff {α β ε : Type} (g : α → Except ε β) (xs : List α) :
    (∃ f, xs.mapM g = .error f) ↔ ∃ x ∈ xs, ∃ f, g x = .error f := by
  induction xs with
  | nil => simp [pure, Except.pure]
  | cons x xs ih =>
    rw [List.mapM_cons]
    cases hx : g x with
    | error e => exact ⟨fun _ => ⟨x, List.mem_cons_self, e, hx⟩, fun _ => ⟨e, rfl⟩⟩
    | ok b =>
      have hrest : (∃ f, (do let bs ← xs.mapM g; pure (b :: bs) : Except ε (List β)) = .error f) ↔
          ∃ f, xs.mapM g = .error f := by
        cases xs.mapM g <;> simp [bind, Except.bind, pure, Except.pure]
      simp only [bind, Except.bind] at hrest ⊢
      rw [hrest, ih]
      constructor
      · rintro ⟨y, hy, f, hf⟩
        exact ⟨y, List.mem_cons_of_mem _ hy, f, hf⟩
      · rintro ⟨y, hy, f, hf⟩
        rcases List.mem_cons.mp hy with rfl | hy
        · rw [hx] at hf; cases hf
        · exact ⟨y, hy, f, hf⟩

namespace FileTree

/-- Entries of a process directory that reading the holdings cannot get past: a name that
passes the digit test but is no numeral, or a listed process whose descriptors cannot be
listed or one of which names a socket by digits that are no numeral. -/
def Malformed (t : FileTree) (root : String) : Prop :=
  (∃ names, t.namesOrNone root = .ok names ∧
    ∃ n ∈ names, isDigitText n ∧ ∃ f, Value.toInteger (.str n) = .error f) ∨
  ∃ pids, t.processIds root = .ok pids ∧ ∃ pid ∈ pids,
    (∃ f, t.descriptorTargets (processPath root pid "fd") = .error f) ∨
    ∃ targets, t.descriptorTargets (processPath root pid "fd") = .ok targets ∧
      ∃ d ∈ targets, ∃ f, socketInode d.2 = .error f

variable {t : FileTree} {root : String}

theorem processIds_error_iff {names : List String} (hl : t.namesOrNone root = .ok names) :
    (∃ f, t.processIds root = .error f) ↔
      ∃ n ∈ names, isDigitText n ∧ ∃ f, Value.toInteger (.str n) = .error f := by
  unfold processIds
  simp only [hl, bind, Except.bind]
  rw [mapM_error_iff]
  simp only [List.mem_filter, and_assoc]

theorem heldInodes_error_iff {pid : Int} :
    (∃ f, (t.heldInodes root pid).map (pid, ·) = .error f) ↔
      (∃ f, t.descriptorTargets (processPath root pid "fd") = .error f) ∨
      ∃ targets, t.descriptorTargets (processPath root pid "fd") = .ok targets ∧
        ∃ d ∈ targets, ∃ f, socketInode d.2 = .error f := by
  unfold heldInodes
  cases t.descriptorTargets (processPath root pid "fd") with
  | error e => simp [bind, Except.bind, Except.map]
  | ok targets =>
    simp only [bind, Except.bind, reduceCtorEq, exists_false, false_or, Except.ok.injEq,
      exists_eq_left']
    rw [← mapM_error_iff]
    cases targets.mapM (fun d => socketInode d.2) <;> simp [Except.map]

/-- Under a directory that reaches the system, the holdings of the processes cannot be read
exactly when the directory holds a malformed entry. -/
theorem socketHoldings_error_iff (hn : Char.ofNat 0 ∉ root.toList) :
    (∃ f, t.socketHoldings root = .error f) ↔ t.Malformed root := by
  obtain ⟨names, hl⟩ : ∃ names, t.namesOrNone root = .ok names := namesOrNone_ok hn
  have hids := processIds_error_iff hl
  unfold socketHoldings Malformed
  cases hp : t.processIds root with
  | error e =>
    simp only [bind, Except.bind]
    exact ⟨fun _ => .inl ⟨names, hl, hids.mp ⟨e, hp⟩⟩, fun _ => ⟨e, rfl⟩⟩
  | ok pids =>
    -- the process ids were read, so no name of the directory is a bad numeral
    have hnot : ¬ ∃ n ∈ names, isDigitText n ∧ ∃ f, Value.toInteger (.str n) = .error f :=
      fun h => by
        obtain ⟨f, hf⟩ := hids.mpr h
        rw [hp] at hf
        cases hf
    simp only [bind, Except.bind, hl, Except.ok.injEq, exists_eq_left', hnot, false_or]
    rw [mapM_error_iff]
    simp only [heldInodes_error_iff]

end FileTree

end HostSurvey
