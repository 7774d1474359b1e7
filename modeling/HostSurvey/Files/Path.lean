/-!
Path texts.
-/

namespace HostSurvey

/-- A path: its root (`""`, `"/"` or `"//"`) and its components. -/
structure PathName where
  root : String
  parts : List String
deriving DecidableEq, Repr

namespace PathName

def splitAt (sep : Char) : List Char → List (List Char)
  | [] => [[]]
  | c :: rest =>
    if c = sep then [] :: splitAt sep rest
    else match splitAt sep rest with
      | [] => [[c]]
      | p :: ps => (c :: p) :: ps

def ofText (s : String) : PathName :=
  let cs := s.toList
  let leading := (cs.takeWhile (· == '/')).length
  let root := if leading = 0 then "" else if leading = 2 then "//" else "/"
  let parts := ((splitAt '/' cs).map String.ofList).filter (fun p => p ≠ "" ∧ p ≠ ".")
  ⟨root, parts⟩

def text (p : PathName) : String :=
  let body := String.intercalate "/" p.parts
  if p.root.isEmpty ∧ body.isEmpty then "." else p.root ++ body

/-- A path followed by a relative path, or replaced by an absolute one. -/
def join (p q : PathName) : PathName :=
  if q.root.isEmpty then ⟨p.root, p.parts ++ q.parts⟩ else q

def slash (p : PathName) (s : String) : PathName := p.join (ofText s)

def name (p : PathName) : String := p.parts.getLastD ""

end PathName

def baseName (s : String) : String :=
  String.ofList (s.toList.reverse.takeWhile (· != '/')).reverse

end HostSurvey
