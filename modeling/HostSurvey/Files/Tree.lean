import HostSurvey.Files.Path
import HostSurvey.Fault

/-!
A snapshot of the files below a working directory.
-/

namespace HostSurvey

/-- What a path names. -/
inductive Node where
  | file (data : List UInt8)
  | dir
  | link (target : String)
deriving Repr

/-- Permission bits, owner, group and modification time. -/
structure Attrs where
  mode : Nat
  uid : Nat
  gid : Nat
  mtime : Float
deriving Repr

/-- One path of the snapshot. -/
structure Entry where
  parts : List String
  node : Node
  attrs : Attrs
deriving Repr

/-- The files below a working directory, or of the whole file system. -/
structure FileTree where
  entries : List Entry
  /-- The components of the working directory when the snapshot holds the whole file system;
  none when it holds the files below the working directory. -/
  workDir : Option (List String) := none
  /-- A path names at most one entry. -/
  unique : (entries.map Entry.parts).Nodup := by decide
deriving Repr

/-- What `stat` tells of a path. -/
structure FileStatus where
  isDir : Bool
  attrs : Attrs
  size : Nat
deriving Repr

def insertSorted {α : Type} (le : α → α → Bool) (a : α) : List α → List α
  | [] => [a]
  | b :: bs => if le a b then a :: b :: bs else b :: insertSorted le a bs

def sortBy {α : Type} (le : α → α → Bool) : List α → List α
  | [] => []
  | a :: rest => insertSorted le a (sortBy le rest)

namespace FileTree

def empty : FileTree := { entries := [] }

def rootAttrs : Attrs := ⟨0o700, 0, 0, 0.0⟩

def find? (t : FileTree) (parts : List String) : Option Entry :=
  t.entries.find? (fun e => e.parts == parts)

def isDirAt (t : FileTree) (parts : List String) : Bool :=
  parts.isEmpty || match t.find? parts with
    | some ⟨_, .dir, _⟩ => true
    | _ => false

def maxLinks : Nat := 40

/-- The longest path text a walk takes, in bytes; a longer one is refused whole. -/
def maxPathBytes : Nat := 4095

def maxNameBytes : Nat := 255

/-- A path text cut for a walk: whether it starts at the top, its components (`.` and `..`
kept, empty ones dropped) and whether it ends with a slash, which asks for a directory. -/
structure WalkPlan where
  absolute : Bool
  comps : List String
  dirOnly : Bool
deriving Repr

def WalkPlan.ofText (s : String) : WalkPlan :=
  ⟨s.startsWith "/", ((PathName.splitAt '/' s.toList).map String.ofList).filter (· ≠ ""),
    s.endsWith "/"⟩

/-- Walks components from the directory `dir`: the components of what they name. A link at
the end is followed with `followLast`, and the end must be a directory with `dirOnly`. Every
component before the last must lead to a directory. A link on the way is walked by
`follow`, from the directory it stands in, to a directory when its target ends with a slash;
without `follow` too many links were followed. -/
def walkWith (t : FileTree)
    (follow : Option (List String → List String → Bool → Except SystemError (List String)))
    (dir : List String) (comps : List String) (followLast dirOnly : Bool) :
    Except SystemError (List String) :=
  match comps with
  | [] => .ok dir
  | c :: rest =>
    if c = "." then walkWith t follow dir rest followLast dirOnly
    else if c = ".." then walkWith t follow dir.dropLast rest followLast dirOnly
    else if c.utf8ByteSize > maxNameBytes then .error .nameTooLong
    else
      let p := dir ++ [c]
      let last := rest.isEmpty
      match t.find? p with
      | none => .error .noEntry
      | some e =>
        match e.node with
        | .dir => walkWith t follow p rest followLast dirOnly
        | .file _ => if last ∧ !dirOnly then .ok p else .error .notDirectory
        | .link target =>
          if last ∧ !followLast ∧ !dirOnly then .ok p
          else match follow with
            | none => .error .loop
            | some walkTarget =>
              let plan := WalkPlan.ofText target
              let start := if !plan.absolute then some dir else t.workDir.map (fun _ => [])
              match start, target.isEmpty with
              | none, _ | _, true => .error .noEntry
              | some from_, false =>
                match walkTarget from_ plan.comps plan.dirOnly with
                | .error err => .error err
                | .ok r =>
                  if last ∧ !dirOnly then .ok r
                  else if t.isDirAt r then walkWith t follow r rest followLast dirOnly
                  else .error .notDirectory

/-- Walks components from the directory `dir`, following at most `fuel` links. -/
def walk (t : FileTree) : Nat → List String → List String → Bool → Bool →
    Except SystemError (List String)
  | 0, dir, comps, followLast, dirOnly => t.walkWith none dir comps followLast dirOnly
  | fuel + 1, dir, comps, followLast, dirOnly =>
    t.walkWith (some fun from_ targetComps => walk t fuel from_ targetComps true) dir comps
      followLast dirOnly

theorem walk_zero (t : FileTree) (dir comps : List String) (followLast dirOnly : Bool) :
    t.walk 0 dir comps followLast dirOnly = t.walkWith none dir comps followLast dirOnly := rfl

theorem walk_succ (t : FileTree) (fuel : Nat) (dir comps : List String) (followLast dirOnly : Bool) :
    t.walk (fuel + 1) dir comps followLast dirOnly =
      t.walkWith (some fun from_ targetComps => t.walk fuel from_ targetComps true) dir comps
        followLast dirOnly := rfl

attribute [irreducible] walk

/-- The components a path text names, links followed or not at the end. An empty text names
nothing; a text longer than `maxPathBytes` is refused. -/
def resolve (t : FileTree) (path : String) (followLast : Bool) : Except SystemError (List String) :=
  if path.isEmpty then .error .noEntry
  else if path.utf8ByteSize > maxPathBytes then .error .nameTooLong
  else
    let plan := WalkPlan.ofText path
    match t.workDir with
    | none =>
      if plan.absolute then .error .noEntry
      else t.walk maxLinks [] plan.comps followLast plan.dirOnly
    | some cwd => t.walk maxLinks (if plan.absolute then [] else cwd) plan.comps followLast plan.dirOnly

def fail (path : String) (e : SystemError) : Fault := .system e path

def holdsNul (path : String) : Bool := path.toList.contains (Char.ofNat 0)

theorem holdsNul_eq (path : String) : holdsNul path = decide (Char.ofNat 0 ∈ path.toList) := by
  simp [holdsNul]

-- kept folded in elaboration, where a symbolic path text would be unfolded character by character
attribute [irreducible] holdsNul

/-- The components a path text given to the system names: a text holding a NUL character
is refused before any walk, as no system call can take it. -/
def locate (t : FileTree) (path : String) (followLast : Bool) : Except Fault (List String) :=
  if holdsNul path then .error .embeddedNull
  else match t.resolve path followLast with
    | .ok parts => .ok parts
    | .error e => .error (fail path e)

def readBytes (t : FileTree) (path : String) : Except Fault (List UInt8) :=
  match t.locate path true with
  | .error f => .error f
  | .ok parts =>
    if parts.isEmpty then .error (fail path .isDirectory)
    else match t.find? parts with
      | some ⟨_, .file data, _⟩ => .ok data
      | some ⟨_, .dir, _⟩ => .error (fail path .isDirectory)
      | _ => .error (fail path .noEntry)

def listNames (t : FileTree) (path : String) : Except Fault (List String) :=
  match t.locate path true with
  | .error f => .error f
  | .ok parts =>
    if t.isDirAt parts then
      let names := t.entries.filterMap (fun e =>
        if e.parts.dropLast == parts ∧ e.parts.length = parts.length + 1 then e.parts.getLast? else none)
      .ok (sortBy (fun a b => decide (a ≤ b)) names)
    else .error (fail path .notDirectory)

def readLink (t : FileTree) (path : String) : Except Fault String :=
  match t.locate path false with
  | .error f => .error f
  | .ok parts =>
    match t.find? parts with
    | some ⟨_, .link target, _⟩ => .ok target
    | _ => .error (fail path ⟨22, "Invalid argument"⟩)

/-- The status of what a path names, links followed. -/
def stat (t : FileTree) (path : String) : Except Fault FileStatus :=
  match t.locate path true with
  | .error f => .error f
  | .ok parts =>
    if parts.isEmpty then .ok ⟨true, rootAttrs, 4096⟩
    else match t.find? parts with
      | some ⟨_, .file data, a⟩ => .ok ⟨false, a, data.length⟩
      | some ⟨_, .dir, a⟩ => .ok ⟨true, a, 4096⟩
      | _ => .error (fail path .noEntry)

theorem nodup_parts_filter (t : FileTree) (p : Entry → Bool) :
    ((t.entries.filter p).map Entry.parts).Nodup :=
  t.unique.sublist ((List.filter_sublist).map _)

theorem parts_map_replace (es : List Entry) (parts : List String) (node : Node) (attrs : Attrs) :
    (es.map fun e => if e.parts == parts then (⟨parts, node, attrs⟩ : Entry) else e).map
      Entry.parts = es.map Entry.parts := by
  rw [List.map_map]
  refine List.map_congr_left fun e _ => ?_
  by_cases h : e.parts = parts <;> simp [h]

theorem nodup_parts_append {t : FileTree} {parts : List String} (h : (t.find? parts).isSome = false)
    (node : Node) (attrs : Attrs) :
    ((t.entries ++ ([⟨parts, node, attrs⟩] : List Entry)).map Entry.parts).Nodup := by
  have hnew : parts ∉ t.entries.map Entry.parts := by
    intro hm
    obtain ⟨e, he, rfl⟩ := List.mem_map.1 hm
    have hnone : t.find? e.parts = none := by simpa using h
    exact absurd (List.find?_eq_none.1 hnone e he) (by simp)
  rw [List.map_append, List.nodup_append]
  refine ⟨t.unique, by simp, fun a ha b hb hab => ?_⟩
  simp only [List.map_cons, List.map_nil, List.mem_singleton] at hb
  exact hnew (hb ▸ hab ▸ ha)

def removeAt (t : FileTree) (parts : List String) : FileTree :=
  { t with entries := t.entries.filter (fun e => !(parts.isPrefixOf e.parts)),
           unique := t.nodup_parts_filter _ }

def setAt (t : FileTree) (parts : List String) (node : Node) (attrs : Attrs) : FileTree :=
  if h : (t.find? parts).isSome then
    { t with entries := t.entries.map (fun e => if e.parts == parts then ⟨parts, node, attrs⟩ else e),
             unique := by rw [parts_map_replace]; exact t.unique }
  else { t with entries := t.entries ++ [⟨parts, node, attrs⟩],
                unique := nodup_parts_append (by simpa using h) node attrs }

def dirAttrs : Attrs := ⟨0o755, 0, 0, 0.0⟩

def makeParents (t : FileTree) (parts : List String) : Except Fault FileTree :=
  let prefixes := (List.range parts.length).map (fun k => parts.take k) |>.filter (· ≠ [])
  prefixes.foldlM (fun (acc : FileTree) pre =>
    match acc.find? pre with
    | none => .ok (acc.setAt pre .dir dirAttrs)
    | some ⟨_, .dir, _⟩ => .ok acc
    | some ⟨_, .link _, _⟩ => .ok acc
    | some ⟨_, .file _, _⟩ => .error (.system .exists_ (String.intercalate "/" pre))) t

end FileTree

/-- What is placed at a path. -/
inductive Content where
  | text (s : String)
  | bytes (b : List UInt8)
  | directory
  | symlink (target : String)
deriving Repr

/-- A path to fill, with what it holds and its attributes. -/
structure Placement where
  path : String
  content : Content
  mode : Option Nat
  uid : Nat
  gid : Nat
  mtime : Option Float
deriving Repr

/-- A modification time as the file system keeps it: whole seconds and nanoseconds, the
nanoseconds cut down from the fraction of the time given, read back as the seconds plus the
nanoseconds. -/
def storedTime (m : Float) : Float :=
  let whole := if m < 0.0 then m.ceil else m.floor
  let nanos := ((m - whole) * 1000000000.0).floor
  let (secs, nanos) :=
    if nanos ≥ 1000000000.0 then (whole + 1.0, nanos - 1000000000.0)
    else if nanos < 0.0 then (whole - 1.0, nanos + 1000000000.0)
    else (whole, nanos)
  secs + nanos * 1e-9

namespace FileTree

/-- Places one entry: parents are made, a file or link replaces what was there, a directory
keeps what is below it. An owner or group other than 0 cannot be set. -/
def place (t : FileTree) (p : Placement) : Except Fault FileTree := do
  let name := PathName.ofText p.path
  let shown := name.text
  let parts := name.parts
  if parts.isEmpty then throw (.system .exists_ shown)
  let t ← t.makeParents parts
  let t ← match p.content with
    | .text s => fileAt t parts (String.toUTF8 s).toList shown
    | .bytes b => fileAt t parts b shown
    | .directory =>
      match t.find? parts with
      | some ⟨_, .dir, a⟩ => pure (t.setAt parts .dir a)
      | some _ => throw (.system .exists_ shown)
      | none => pure (t.setAt parts .dir dirAttrs)
    | .symlink target =>
      match t.find? parts with
      | some _ => throw (.system .exists_ shown)
      | none => pure (t.setAt parts (.link target) ⟨0o777, 0, 0, 0.0⟩)
  let t := match p.mode, t.find? parts with
    | some m, some e => t.setAt parts e.node { e.attrs with mode := m % 0o10000 }
    | _, _ => t
  if p.uid ≠ 0 ∨ p.gid ≠ 0 then throw (.notPermitted shown)
  let t := match p.mtime, t.find? parts with
    | some m, some e => t.setAt parts e.node { e.attrs with mtime := storedTime m }
    | _, _ => t
  pure t
where
  fileAt (t : FileTree) (parts : List String) (data : List UInt8) (shown : String) :
      Except Fault FileTree :=
    match t.find? parts with
    | some ⟨_, .dir, _⟩ => .error (.system .isDirectory shown)
    | some ⟨_, .file _, a⟩ => .ok (t.setAt parts (.file data) a)
    | _ => .ok (t.setAt parts (.file data) ⟨0o644, 0, 0, 0.0⟩)

def ofPlacements (ps : List Placement) : Except Fault FileTree :=
  ps.foldlM place empty

/-- Removes what a path names (a file, a link, or a directory with all below it); a path
that names nothing leaves the snapshot as it is. -/
def removePath (t : FileTree) (path : String) : FileTree :=
  t.removeAt (PathName.ofText path).parts

def replace (t : FileTree) (p : Placement) : Except Fault FileTree :=
  (t.removePath p.path).place p

end FileTree

end HostSurvey
