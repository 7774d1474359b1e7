import HostSurvey.Config.Load
import HostSurvey.Proofs.YamlKeys
import HostSurvey.Proofs.JsonRecord

/-!
Loading a configuration file over the defaults.
-/

namespace HostSurvey

/-! ### Text keys -/

theorem sameKey_str_left {s : String} {x : Value} :
    Value.sameKey (.str s) x = true ↔ x = .str s := by
  cases x <;> simp [Value.sameKey, Value.exactNumber]
  exact eq_comm

theorem sameKey_str_right {s : String} {x : Value} :
    Value.sameKey x (.str s) = true ↔ x = .str s := by
  cases x <;> simp [Value.sameKey, Value.exactNumber]

theorem sameKey_str_self (s : String) : Value.sameKey (.str s) (.str s) = true :=
  sameKey_str_left.2 rfl

theorem sameKey_str_comm (s : String) (x : Value) :
    Value.sameKey (.str s) x = Value.sameKey x (.str s) :=
  Bool.eq_iff_iff.2 (sameKey_str_left.trans sameKey_str_right.symm)

theorem find?_eq_some_of_unique {α : Type} {p : α → Bool} {l : List α} {x : α} (hx : x ∈ l)
    (hp : p x = true) (hu : ∀ y ∈ l, p y = true → y = x) : l.find? p = some x := by
  cases hf : l.find? p with
  | none => exact absurd hp (by simpa using List.find?_eq_none.1 hf x hx)
  | some y => rw [hu y (List.mem_of_find?_eq_some hf) (List.find?_some hf)]

/-! ### Defaults -/

/-- Defaults a configuration file can be merged over: their keys are distinct texts, every
section is among them, and no value holds a reference. -/
structure ConfigBase (entries : List (Value × Value)) : Prop where
  texts : ∀ d ∈ entries, ∃ s, d.1 = .str s
  nodup : (entries.map (·.1)).Nodup
  sections : ∀ s ∈ nestedSections, ∃ d ∈ entries, d.1 = .str s
  closed : ∀ d ∈ entries, ∀ c, Value.fillRefs c 0 d.2 = d.2

theorem defaultConfig_base : ConfigBase defaultConfig.entries where
  texts := by simp [defaultConfig, Value.record, Value.entries, Value.dictEntries]
  nodup := by simp [defaultConfig, Value.record, Value.entries, Value.dictEntries]
  sections := by
    simp [nestedSections, defaultConfig, Value.record, Value.entries, Value.dictEntries]
  closed := by
    simp [defaultConfig, Value.record, Value.entries, Value.dictEntries, Value.fillRefs]

/-! ### The merged entries -/

/-- The value a configuration takes for a key of the defaults when a document gives `new` for
it: a section is updated key by key by a mapping and kept for anything else; any other key takes
the value given. -/
def givenValue (k old new : Value) : Value :=
  if isNestedSection k then
    match new with
    | .dict _ => .dict (new.entries.foldl (fun acc e => Value.insertEntry acc e.1 e.2) old.entries)
    | _ => old
  else new

/-- The value of a default after a document: what the document gives for its key, if anything. -/
def valueAfter (doc : List (Value × Value)) (d : Value × Value) : Value :=
  match doc.find? (fun e => Value.sameKey e.1 d.1) with
  | some e => givenValue d.1 d.2 e.2
  | none => d.2

/-- The entries of a configuration merged from a document over defaults: each default keeps its
place and takes the value the document gives for its key, and the document's other entries
follow in the document's order. -/
def mergedEntries (defaults doc : List (Value × Value)) : List (Value × Value) :=
  defaults.map (fun d => (d.1, valueAfter doc d)) ++
    doc.filter fun e => !defaults.any fun d => Value.sameKey d.1 e.1

section Merge

variable {D P : List (Value × Value)} {k v : Value}

theorem valueAfter_of_none {d : Value × Value}
    (h : P.find? (fun e => Value.sameKey e.1 d.1) = none) : valueAfter P d = d.2 := by
  rw [valueAfter, h]

theorem valueAfter_append_other {d : Value × Value} (h : Value.sameKey k d.1 = false) :
    valueAfter (P ++ [(k, v)]) d = valueAfter P d := by
  unfold valueAfter
  rw [List.find?_append]
  cases P.find? (fun e => Value.sameKey e.1 d.1) <;> simp [h]

theorem valueAfter_append_self {d : Value × Value}
    (hp : P.find? (fun e => Value.sameKey e.1 d.1) = none) (h : Value.sameKey k d.1 = true) :
    valueAfter (P ++ [(k, v)]) d = givenValue d.1 d.2 v := by
  unfold valueAfter
  rw [List.find?_append, hp]
  simp [h]

theorem mergedEntries_append_new (hD : ConfigBase D)
    (hk : ∀ d ∈ D, Value.sameKey d.1 k = false) :
    mergedEntries D (P ++ [(k, v)]) = mergedEntries D P ++ [(k, v)] := by
  have hother : ∀ d ∈ D, Value.sameKey k d.1 = false := by
    intro d hd
    obtain ⟨s, hs⟩ := hD.texts d hd
    rw [hs, ← sameKey_str_comm, ← hs]
    exact hk d hd
  unfold mergedEntries
  rw [List.filter_append, List.map_congr_left fun d hd => by rw [valueAfter_append_other (hother d hd)]]
  simp [List.any_eq_false.2 fun d hd => by simpa using hk d hd]

theorem find?_fresh {s : String} (hnew : ∀ p ∈ P, Value.sameKey p.1 (.str s) = false) :
    P.find? (fun e => Value.sameKey e.1 (.str s)) = none :=
  List.find?_eq_none.2 fun p hp => by simp [hnew p hp]

section DefaultKey

variable {s : String} {d₀ : Value × Value} (hd₀ : d₀ ∈ D) (hs : d₀.1 = .str s)
  (hnew : ∀ p ∈ P, Value.sameKey p.1 (.str s) = false)
include hd₀ hs

theorem eq_of_sameKey (hD : ConfigBase D) {d : Value × Value} (hd : d ∈ D)
    (h : Value.sameKey d.1 (.str s) = true) : d = d₀ := by
  have hkey : d.1 = d₀.1 := by rw [hs]; exact sameKey_str_right.1 h
  exact List.inj_on_of_nodup_map hD.nodup hd hd₀ hkey

include hnew

theorem insertEntry_mergedEntries (w : Value) :
    Value.insertEntry (mergedEntries D P) (.str s) w =
      D.map (fun d => (d.1, if Value.sameKey d.1 (.str s) then w else valueAfter P d)) ++
        P.filter fun e => !D.any fun d => Value.sameKey d.1 e.1 := by
  have hany : (mergedEntries D P).any (fun e => Value.sameKey e.1 (.str s)) = true := by
    rw [List.any_eq_true]
    exact ⟨(d₀.1, valueAfter P d₀), List.mem_append_left _ (List.mem_map_of_mem hd₀),
      hs ▸ sameKey_str_self s⟩
  rw [Value.insertEntry, if_pos hany, mergedEntries, List.map_append, List.map_map]
  congr 1
  · refine List.map_congr_left fun d _ => ?_
    simp only [Function.comp]
    split <;> rfl
  · refine (List.map_congr_left (g := id) fun e he => ?_).trans (List.map_id _)
    rw [hnew e (List.mem_of_mem_filter he)]
    rfl

theorem mergedEntries_append_default :
    mergedEntries D (P ++ [(.str s, v)]) =
      D.map (fun d => (d.1,
          if Value.sameKey d.1 (.str s) then givenValue d.1 d.2 v else valueAfter P d)) ++
        P.filter fun e => !D.any fun d => Value.sameKey d.1 e.1 := by
  unfold mergedEntries
  congr 1
  · refine List.map_congr_left fun d hd => ?_
    by_cases hk : Value.sameKey d.1 (.str s) = true
    · have hd : d.1 = .str s := sameKey_str_right.1 hk
      rw [if_pos hk, valueAfter_append_self (hd ▸ find?_fresh hnew) (hd ▸ sameKey_str_self s)]
    · rw [if_neg hk, valueAfter_append_other]
      rw [sameKey_str_comm]
      simpa using hk
  · rw [List.filter_append]
    have hdrop : (D.any fun d => Value.sameKey d.1 (.str s)) = true :=
      List.any_eq_true.2 ⟨d₀, hd₀, hs ▸ sameKey_str_self s⟩
    simp [hdrop]

/-- Looking a default's key up in the entries merged so far finds the default's value, when the
document has not given the key yet. -/
theorem lookup_mergedEntries (hD : ConfigBase D) :
    Value.lookup (mergedEntries D P) (.str s) = some d₀.2 := by
  have hfind : D.find? (fun d => Value.sameKey d.1 (.str s)) = some d₀ :=
    find?_eq_some_of_unique hd₀ (hs ▸ sameKey_str_self s) fun d hd h => eq_of_sameKey hd₀ hs hD hd h
  have hfind' : D.find? ((fun e => Value.sameKey e.1 (.str s)) ∘ fun d => (d.1, valueAfter P d)) =
      some d₀ := hfind
  rw [Value.lookup, mergedEntries, List.find?_append, List.find?_map, hfind']
  simp only [Option.map_some, Option.some_or]
  rw [valueAfter_of_none (hs ▸ find?_fresh hnew), hD.closed d₀ hd₀]

/-- The entries merged so far already hold a default's value for its key, when the document has
not given the key yet. -/
theorem insertEntry_mergedEntries_default (hD : ConfigBase D) :
    Value.insertEntry (mergedEntries D P) (.str s) d₀.2 = mergedEntries D P := by
  rw [insertEntry_mergedEntries hd₀ hs hnew]
  unfold mergedEntries
  congr 1
  refine List.map_congr_left fun d hd => ?_
  by_cases h : Value.sameKey d.1 (.str s) = true
  · rw [if_pos h, eq_of_sameKey hd₀ hs hD hd h, valueAfter_of_none (hs ▸ find?_fresh hnew)]
  · rw [if_neg h]

end DefaultKey

/-- Merging one more entry of a document, whose key the document has not given before, gives the
merged entries of the longer document. -/
theorem mergeDocument_single (hD : ConfigBase D) (hnew : ∀ p ∈ P, Value.sameKey p.1 k = false)
    (path : String) :
    (mergeDocument path (mergedEntries D P) [(k, v)]).1 = mergedEntries D (P ++ [(k, v)]) := by
  by_cases hdef : ∃ d ∈ D, Value.sameKey d.1 k = true
  · -- a key of the defaults
    obtain ⟨d₀, hd₀, hk⟩ := hdef
    obtain ⟨s, hs⟩ := hD.texts d₀ hd₀
    obtain rfl : k = .str s := by rw [hs] at hk; exact sameKey_str_left.1 hk
    have hset : ∀ w, w = givenValue (.str s) d₀.2 v →
        Value.insertEntry (mergedEntries D P) (.str s) w = mergedEntries D (P ++ [(.str s, v)]) := by
      intro w hw
      rw [insertEntry_mergedEntries hd₀ hs hnew, mergedEntries_append_default hd₀ hs hnew]
      congr 1
      refine List.map_congr_left fun d hd => ?_
      by_cases h : Value.sameKey d.1 (.str s) = true
      · rw [if_pos h, if_pos h, eq_of_sameKey hd₀ hs hD hd h, hs, hw]
      · rw [if_neg h, if_neg h]
    have hkept := (insertEntry_mergedEntries_default hd₀ hs hnew hD).symm
    simp only [mergeDocument]
    split
    next hn =>
      -- a section: a mapping updates it key by key, anything else leaves it
      split
      next es =>
        rw [lookup_mergedEntries hd₀ hs hnew hD]
        exact hset _ (by simp [givenValue, hn, Value.entries])
      next =>
        rw [hkept]
        exact hset _ (by simp [givenValue, hn])
      next hdict _ =>
        rw [hkept]
        refine hset _ ?_
        unfold givenValue
        rw [if_pos hn]
        split
        next => exact (hdict _ rfl).elim
        next => rfl
    next hn => exact hset _ (by simp [givenValue, hn])
  · -- a key of no default is no section, and is added at the end
    have hk : ∀ d ∈ D, Value.sameKey d.1 k = false := by simpa using hdef
    have hn : isNestedSection k = false := by
      cases k with
      | str s =>
        cases h : nestedSections.contains s
        · exact h
        · obtain ⟨d, hd, hds⟩ := hD.sections s (by simpa using h)
          have := hk d hd
          rw [hds, Value.sameKey_text] at this
          simp at this
      | _ => rfl
    simp only [mergeDocument, hn, Bool.false_eq_true, if_false]
    rw [JsonRead.insertEntry_fresh, mergedEntries_append_new hD hk]
    rw [List.any_eq_false]
    intro e he
    rcases List.mem_append.1 he with he | he
    · obtain ⟨d, hd, rfl⟩ := List.mem_map.1 he
      simp [hk d hd]
    · simp [hnew e (List.mem_of_mem_filter he)]

theorem mergedEntries_nil (D : List (Value × Value)) : mergedEntries D [] = D := by
  simp [mergedEntries, valueAfter]

theorem mergeDocument_cons_fst (path : String) (cfg : List (Value × Value)) (e : Value × Value)
    (rest : List (Value × Value)) :
    (mergeDocument path cfg (e :: rest)).1 = (mergeDocument path (mergeDocument path cfg [e]).1 rest).1 :=
  rfl

/-- Merging a document whose keys are distinct over defaults gives the merged entries; the
induction runs over what is left of the document, with what was merged already in closed
form. -/
theorem mergeDocument_eq_mergedEntries (hD : ConfigBase D) (path : String) {E : List (Value × Value)}
    (hE : E.Pairwise fun a b => Value.sameKey a.1 b.1 = false) :
    (mergeDocument path D E).1 = mergedEntries D E := by
  suffices key : ∀ P, (P ++ E).Pairwise (fun a b => Value.sameKey a.1 b.1 = false) →
      (mergeDocument path (mergedEntries D P) E).1 = mergedEntries D (P ++ E) by
    simpa [mergedEntries_nil] using key [] hE
  clear hE
  induction E with
  | nil => simp [mergeDocument]
  | cons e rest ih =>
    intro P hdist
    have hnew : ∀ p ∈ P, Value.sameKey p.1 e.1 = false := fun p hp =>
      (List.pairwise_append.1 hdist).2.2 p hp e List.mem_cons_self
    rw [mergeDocument_cons_fst, mergeDocument_single hD hnew, ih (P ++ [e]) (by simpa using hdist)]
    simp

end Merge

/-! ### Reading the file -/

theorem readBytes_error_leavesDefaults {t : FileTree} {path : String} {f : Fault}
    (h : t.readBytes path = .error f) : f.leavesDefaults = true := by
  unfold FileTree.readBytes at h
  split at h
  next g hg =>
    -- the path is refused, or names nothing
    cases h
    unfold FileTree.locate at hg
    split at hg
    · cases hg
      rfl
    · split at hg
      · cases hg
      · cases hg
        rfl
  next =>
    -- the path names a directory or nothing readable
    split at h
    · cases h
      rfl
    · split at h
      · cases h
      · cases h
        rfl
      · cases h
        rfl

theorem strictText_error_leavesDefaults {t : FileTree} {path : String} {f : Fault}
    (h : t.strictText path = .error f) : f.leavesDefaults = true := by
  unfold FileTree.strictText at h
  cases hb : t.readBytes path with
  | error g =>
    rw [hb] at h
    cases h
    exact readBytes_error_leavesDefaults hb
  | ok bs =>
    rw [hb] at h
    simp only [bind, Except.bind] at h
    split at h
    · cases h
    · cases h
      rfl

/-- The entries a configuration file brings: none when the file cannot be read, decoded or
parsed, or holds something other than a mapping; an empty or false document brings none of its
own. -/
def documentEntries (t : FileTree) (path : String) : Option (List (Value × Value)) :=
  match t.strictText (PathName.ofText path).text with
  | .error _ => none
  | .ok text =>
    match Yaml.loadDocument text with
    | .error _ => none
    | .ok v =>
      if !v.truthy then some []
      else match v with
        | .dict es => some (Value.dictEntries es)
        | _ => none

theorem documentEntries_distinct {t : FileTree} {path : String} {doc : List (Value × Value)}
    (h : documentEntries t path = some doc) :
    doc.Pairwise fun a b => Value.sameKey a.1 b.1 = false := by
  unfold documentEntries at h
  split at h
  · cases h
  · split at h
    · cases h
    · next v hv =>
      split at h
      · cases h
        exact .nil
      · split at h
        · cases h
          rw [Value.dictEntries, List.pairwise_map]
          exact Yaml.loadDocument_keys_distinct hv
        · cases h

/-- Reading a configuration file over defaults gives the defaults, or the defaults with the
document merged in, as long as the YAML reader fails only in ways that leave the defaults. -/
theorem mergedConfig_eq {t : FileTree} {base : Value} {path : String}
    (hyaml : ∀ text f, t.strictText (PathName.ofText path).text = .ok text →
      Yaml.loadDocument text = .error (.fault f) → f.leavesDefaults = true) :
    ∃ notes, mergedConfig t base path =
      .ok ((documentEntries t path).elim base.entries fun doc => (mergeDocument path base.entries doc).1,
        notes) := by
  unfold mergedConfig documentEntries
  cases ht : t.strictText (PathName.ofText path).text with
  | error f =>
    simp [strictText_error_leavesDefaults ht, Except.map]
  | ok text =>
    cases hl : Yaml.loadDocument text with
    | error e =>
      cases e with
      | fault f => simp [hl, hyaml text f ht hl, Except.map]
      | _ => simp [hl, Except.map]
    | ok v =>
      simp only [hl, Except.map]
      -- an empty or false document is an empty mapping; any other must be a mapping
      by_cases htr : v.truthy = true
      · cases v <;> simp [htr]
      · simp [htr]

/-! ### The interval -/

/-- Whether a value is an infinite double, which no integer stands for. -/
def Value.infiniteDouble : Value → Bool
  | .float x =>
    match Float.value x with
    | .infinite _ => true
    | _ => false
  | _ => false

theorem toInteger_infiniteDouble {v : Value} (h : v.infiniteDouble = true) :
    v.toInteger = .error .infinityToInteger := by
  cases v with
  | float x => cases hx : Float.value x <;> simp_all [Value.infiniteDouble, Value.toInteger]
  | _ => cases h

theorem toInteger_error_kind {v : Value} {f : Fault} (hv : v.infiniteDouble = false)
    (h : v.toInteger = .error f) : f.kind = "ValueError" ∨ f.kind = "TypeError" := by
  cases v with
  | float x =>
    cases hx : Float.value x <;> simp [Value.infiniteDouble, Value.toInteger, hx] at hv h
    subst h
    simp [Fault.kind]
  | str s =>
    unfold Value.toInteger at h
    cases hr : readInteger 10 s with
    | ok n => simp [hr] at h
    | error e => cases e <;> simp [hr] at h <;> (subst h; simp [Fault.kind])
  | bytes bs =>
    unfold Value.toInteger at h
    cases hr : readInteger 10 (Value.bytesNumeralText bs) with
    | ok n => simp [hr] at h
    | error e => cases e <;> simp [hr] at h <;> (subst h; simp [Fault.kind])
  | bool b => cases h
  | int n => cases h
  | _ =>
    simp only [Value.toInteger, Except.error.injEq] at h
    subst h
    simp [Fault.kind]

theorem clampInterval_infiniteDouble {v : Value} (h : v.infiniteDouble = true) :
    clampInterval v = .error .infinityToInteger := by
  simp [clampInterval, toInteger_infiniteDouble h, Fault.kind, bind, Except.bind, throw,
    throwThe, MonadExceptOf.throw]

/-- The interval a value gives lies within its bounds: the value's integer brought within
them, or the default when the value is no integer. -/
theorem clampInterval_bounds {v : Value} (h : v.infiniteDouble = false) :
    ∃ n, clampInterval v = .ok n ∧ minInterval ≤ n ∧ n ≤ maxInterval ∧
      (∀ m, v.toInteger = .ok m → n = max minInterval (min maxInterval m)) ∧
      (∀ f, v.toInteger = .error f → n = defaultInterval) := by
  cases hv : v.toInteger with
  | ok m =>
    refine ⟨max minInterval (min maxInterval m), ?_, Int.le_max_left _ _, ?_, ?_, ?_⟩
    · simp [clampInterval, hv, bind, Except.bind, pure, Except.pure]
    · simp only [minInterval, maxInterval]
      omega
    · intro m' hm
      cases hm
      rfl
    · intro f hf
      cases hf
  | error f =>
    -- refused as a value or type error: the default, already within the bounds
    have hkind := toInteger_error_kind h hv
    refine ⟨defaultInterval, ?_, by decide, by decide, ?_, fun _ _ => rfl⟩
    · simp [clampInterval, hv, hkind, bind, Except.bind, pure, Except.pure]
      rfl
    · intro m hm
      cases hm

/-! ### Loading -/

/-- Reading a file over defaults that can take a document merges the file's mapping in, in
closed form. -/
theorem mergedConfig_merged {t : FileTree} {base : Value} {path : String}
    (hbase : ConfigBase base.entries)
    (hyaml : ∀ text f, t.strictText (PathName.ofText path).text = .ok text →
      Yaml.loadDocument text = .error (.fault f) → f.leavesDefaults = true) :
    ∃ notes, mergedConfig t base path =
      .ok ((documentEntries t path).elim base.entries (mergedEntries base.entries), notes) := by
  obtain ⟨notes, hcfg⟩ := @mergedConfig_eq t base path hyaml
  refine ⟨notes, hcfg.trans ?_⟩
  cases hd : documentEntries t path with
  | none => rfl
  | some doc =>
    rw [Option.elim, Option.elim,
      mergeDocument_eq_mergedEntries hbase path (documentEntries_distinct hd)]

theorem loadConfigOver_some {t : FileTree} {base : Value} {path : String}
    {cfg : List (Value × Value)} {notes : List String} (hpath : path ≠ "")
    (h : mergedConfig t base path = .ok (cfg, notes)) :
    loadConfigOver t base (some path) =
      (clampInterval ((Value.lookup cfg (.str "interval")).getD .null)).map fun n =>
        ⟨.dict (Value.insertEntry cfg (.str "interval") (.int n)), notes⟩ := by
  unfold loadConfigOver
  split
  next h => cases h
  next h => exact absurd (Option.some.inj h) hpath
  next p hp =>
    cases hp
    simp only [h, bind, Except.bind]
    cases clampInterval ((Value.lookup cfg (.str "interval")).getD .null) <;> rfl

/-- Loading a configuration file. Unless the YAML reader stops with a failure that is no YAML
error, the file's mapping is merged over the defaults key by key (the defaults stay as they are
when the file cannot be read, decoded or parsed, or holds no mapping), and the interval is then
set: the load fails exactly when the interval is an infinite double, and otherwise the interval
is the integer it gives, brought within its bounds, or the default when it gives none. -/
theorem load_config_merges_file (t : FileTree) (path : String) (hpath : path ≠ "")
    (hyaml : ∀ text f, t.strictText (PathName.ofText path).text = .ok text →
      Yaml.loadDocument text = .error (.fault f) → f.leavesDefaults = true) :
    let merged := (documentEntries t path).elim defaultConfig.entries
      (mergedEntries defaultConfig.entries)
    let given := (Value.lookup merged (.str "interval")).getD .null
    (given.infiniteDouble = true → loadConfig t (some path) = .error .infinityToInteger) ∧
    (given.infiniteDouble = false → ∃ n notes,
      loadConfig t (some path) =
        .ok ⟨.dict (Value.insertEntry merged (.str "interval") (.int n)), notes⟩ ∧
      minInterval ≤ n ∧ n ≤ maxInterval ∧
      (∀ m, given.toInteger = .ok m → n = max minInterval (min maxInterval m)) ∧
      (∀ f, given.toInteger = .error f → n = defaultInterval)) := by
  intro merged given
  obtain ⟨notes, hcfg⟩ := mergedConfig_merged defaultConfig_base hyaml
  have hload : loadConfig t (some path) = (clampInterval given).map fun n =>
      (⟨.dict (Value.insertEntry merged (.str "interval") (.int n)), notes⟩ : ConfigLoad) :=
    loadConfigOver_some hpath hcfg
  constructor
  · intro hinf
    rw [hload, clampInterval_infiniteDouble hinf]
    rfl
  · intro hfin
    obtain ⟨n, hn, hlo, hhi, hok, herr⟩ := clampInterval_bounds hfin
    refine ⟨n, notes, ?_, hlo, hhi, hok, herr⟩
    rw [hload, hn]
    rfl

/-- A configuration file that gives an infinite interval. -/
def infiniteIntervalTree : FileTree where
  entries := [⟨["config.yml"], .file "interval: .inf\n".toUTF8.toList, ⟨0o644, 0, 0, 0.0⟩⟩]

theorem infinite_interval_file_merged :
    let t := infiniteIntervalTree
    "config.yml" ≠ "" ∧
    (∀ text f, t.strictText (PathName.ofText "config.yml").text = .ok text →
      Yaml.loadDocument text = .error (.fault f) → f.leavesDefaults = true) ∧
    let merged := (documentEntries t "config.yml").elim defaultConfig.entries
      (mergedEntries defaultConfig.entries)
    let given := (Value.lookup merged (.str "interval")).getD .null
    (given.infiniteDouble = true → loadConfig t (some "config.yml") = .error .infinityToInteger) ∧
    (given.infiniteDouble = false → ∃ n notes,
      loadConfig t (some "config.yml") =
        .ok ⟨.dict (Value.insertEntry merged (.str "interval") (.int n)), notes⟩ ∧
      minInterval ≤ n ∧ n ≤ maxInterval ∧
      (∀ m, given.toInteger = .ok m → n = max minInterval (min maxInterval m)) ∧
      (∀ f, given.toInteger = .error f → n = defaultInterval)) := by
  intro t
  have hpath : "config.yml" ≠ "" := by decide
  have htext : t.strictText (PathName.ofText "config.yml").text = .ok "interval: .inf\n" := by
    decide +kernel
  have hloads : (Yaml.loadDocument "interval: .inf\n").isOk = true := by decide +kernel
  have hyaml : ∀ text f, t.strictText (PathName.ofText "config.yml").text = .ok text →
      Yaml.loadDocument text = .error (.fault f) → f.leavesDefaults = true := by
    intro text f ht hl
    rw [htext] at ht
    cases ht
    rw [hl] at hloads
    cases hloads
  exact ⟨hpath, hyaml, load_config_merges_file t "config.yml" hpath hyaml⟩

end HostSurvey
