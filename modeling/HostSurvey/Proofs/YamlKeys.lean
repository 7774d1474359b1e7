import HostSurvey.Yaml.Document
import HostSurvey.Proofs.ProcessTable
import Mathlib.Data.List.Forall2

/-!
The keys of a loaded YAML mapping.
-/

namespace HostSurvey

namespace Yaml

/-- Every result an action of building gives has a property. -/
def Yields {α : Type} (P : α → Prop) (m : BuildM α) : Prop :=
  ∀ b a b', m.run b = .ok (a, b') → P a

theorem Yields.pure {α : Type} {P : α → Prop} {a : α} (h : P a) : Yields P (pure a) := by
  intro b a' b' hrun
  cases hrun
  exact h

theorem Yields.bind {α β : Type} {Q : α → Prop} {P : β → Prop} {x : BuildM α}
    {f : α → BuildM β} (hx : Yields Q x) (h : ∀ a, Q a → Yields P (f a)) :
    Yields P (x >>= f) := by
  intro b c b' hrun
  rw [StateT.run_bind] at hrun
  obtain ⟨⟨a, b₁⟩, hxa, hf⟩ := bind_eq_ok.1 hrun
  exact h a (hx b a b₁ hxa) b₁ c b' hf

theorem Yields.any {α : Type} {x : BuildM α} : Yields (fun _ => True) x :=
  fun _ _ _ _ => trivial

theorem Yields.buildError {α : Type} {P : α → Prop} {c : Option String} {cm : Option Mark}
    {p : String} {pm : Mark} : Yields P (buildError c cm p pm) := by
  intro b a b' hrun
  cases hrun

theorem Yields.buildFault {α : Type} {P : α → Prop} {f : Fault} : Yields P (buildFault f) := by
  intro b a b' hrun
  cases hrun

theorem Yields.liftFault {α : Type} {P : α → Prop} {r : Except Fault α}
    (h : ∀ a, r = .ok a → P a) : Yields P (liftFault r) := by
  cases r with
  | error f => exact Yields.buildFault
  | ok a => exact Yields.pure (h a rfl)

/-- A slot is a container still to be filled or a finished scalar. -/
def Slot.scalarOrCell : Slot → Bool
  | .done v => v.hashable
  | .cell _ => true

theorem Yields.newCell {i : Nat} {c : Cell} {how : Filling} :
    Yields (fun s => s.scalarOrCell = true) (newCell i c how) := by
  intro b a b' hrun
  cases hrun
  rfl

theorem stampOfText_hashable {text : String} {v : Value} (h : stampOfText text = some (.ok v)) :
    v.hashable = true := by
  obtain ⟨t, -, ht⟩ := Option.map_eq_some_iff.1 h
  split at ht
  · obtain ⟨date, -, hv⟩ := bind_eq_ok.1 ht
    cases hv
    rfl
  · -- with a time: every check either fails or lets the stamp through
    simp only [bind, Except.bind, pure, Except.pure, throw, throwThe, MonadExceptOf.throw] at ht
    repeat' split at ht
    all_goals first | (cases ht; rfl) | cases ht

theorem stampOf_hashable (n : Node) : Yields (fun v => v.hashable = true) (stampOf n) := by
  unfold stampOf
  split
  · split
    next r hr => exact Yields.liftFault fun _ hv => stampOfText_hashable (hv ▸ hr)
    next => exact Yields.buildFault
  · exact Yields.buildFault

theorem buildNode_scalarOrCell {i : Nat} {b b' : Builder} {s : Slot}
    (hb : b.built.getD i none = none) (h : (buildNode i).run b = .ok (s, b')) :
    s.scalarOrCell = true := by
  unfold buildNode at h
  rw [StateT.run_bind] at h
  simp only [StateT.run_get, pure_bind, hb] at h
  refine (?_ : Yields (fun s => s.scalarOrCell = true) _) b s b' h
  refine Yields.bind Yields.any fun n _ => ?_
  -- one case for each kind of node the tag names
  split
  · exact .bind .any fun _ _ => .bind .any fun _ _ => .pure rfl
  · exact .bind .any fun _ _ => .bind .any fun _ _ => .bind .any fun _ _ => .pure rfl
  · exact .bind .any fun _ _ => .bind .any fun _ _ => .bind .any fun _ _ => .pure rfl
  · exact .bind .any fun _ _ => .bind .any fun _ _ => .bind .any fun _ _ => .pure rfl
  · refine .bind .any fun _ _ => ?_
    split
    · exact .bind .any fun _ _ => .pure rfl
    · exact .bind (Q := fun _ => False) .buildError fun _ h => h.elim
  · exact .bind .any fun _ _ => .bind (stampOf_hashable _) fun _ hv => .bind .any fun _ _ => .pure hv
  · exact .bind .any fun _ _ => .bind .any fun _ _ => .pure rfl
  -- any other tag is an error
  case h_13 => exact .bind (Q := fun _ => False) .buildError fun _ h => h.elim
  -- the containers are made empty, to be filled in a later round
  all_goals exact .bind .newCell fun _ hs => .bind .any fun _ _ => .pure hs

/-- Finishing a slot that is a scalar or a cell gives a mapping only from a mapping cell, with
the cell's keys in the cell's order. -/
theorem finish_dict_distinct {cells : Array Cell} {fuel : Nat} {around : List (Option Nat)}
    {slot : Slot} {es : List (Value × Value)} (hs : slot.scalarOrCell = true)
    (h : slot.finish cells fuel around = .ok (.dict es)) :
    es.Pairwise fun a b => Value.sameKey a.1 b.1 = false := by
  cases slot with
  | done v =>
    rw [Slot.finish] at h
    cases h
    cases hs
  | cell k =>
    cases fuel with
    | zero => cases h
    | succ fuel =>
      unfold Slot.finish at h
      split at h
      · cases h
      · cases hc : cells.getD k default with
        | seq items =>
          rw [hc] at h
          obtain ⟨_, -, h⟩ := map_eq_ok h
          cases h
        | map entries distinct =>
          -- a mapping cell: its entries are finished one by one, keys untouched
          rw [hc] at h
          obtain ⟨finished, hmap, hes⟩ := map_eq_ok h
          cases hes
          have hsame : List.Forall₂ (· = ·) (entries.map (·.1)) (es.map (·.1)) := by
            rw [List.forall₂_map_left_iff, List.forall₂_map_right_iff]
            refine (mapM_eq_ok_iff.1 hmap).imp fun e f hf => ?_
            obtain ⟨_, -, rfl⟩ := map_eq_ok hf
            rfl
          have hkeys := List.forall₂_eq_eq_eq ▸ hsame
          rw [← List.pairwise_map (R := fun a b => Value.sameKey a b = false)] at distinct ⊢
          rwa [← hkeys]
        | set items =>
          rw [hc] at h
          cases h
        | pairs entries =>
          rw [hc] at h
          obtain ⟨_, -, h⟩ := map_eq_ok h
          cases h

theorem loadDocument_keys_distinct {text : String} {es : List (Value × Value)}
    (h : loadDocument text = .ok (.dict es)) :
    es.Pairwise fun a b => Value.sameKey a.1 b.1 = false := by
  unfold loadDocument at h
  simp only at h
  split at h
  · obtain ⟨_, h, -⟩ := bind_eq_ok.1 h
    cases h
  · obtain ⟨⟨nodes, root⟩, -, h⟩ := bind_eq_ok.1 h
    cases root with
    | none => cases h
    | some r =>
      -- the root is built first, then the rounds fill the containers it made
      obtain ⟨⟨slot, b⟩, hrun, h⟩ := bind_eq_ok.1 h
      rw [StateT.run_bind] at hrun
      obtain ⟨⟨root, b₁⟩, hroot, hrun⟩ := bind_eq_ok.1 hrun
      rw [StateT.run_bind] at hrun
      obtain ⟨⟨_, b₂⟩, -, hrun⟩ := bind_eq_ok.1 hrun
      cases hrun
      have hfresh : (Array.replicate nodes.size (none : Option Slot)).getD r none = none := by
        rw [Array.getD_eq_getD_getElem?, Array.getElem?_replicate]
        split <;> rfl
      have hcell := buildNode_scalarOrCell hfresh hroot
      split at h
      next v hv =>
        cases h
        exact finish_dict_distinct hcell hv
      next => cases h

end Yaml

end HostSurvey
