import HostSurvey.Files.Tree
import HostSurvey.Text.Lines
import HostSurvey.Value.Basic

/-!
Small kernel files read as text.
-/

namespace HostSurvey

namespace FileTree

def readChars (t : FileTree) (path : String) : Except Fault (List Char) :=
  (t.readBytes path).map fileChars

/-- The first line of a file without its line feed, cut to `limit` characters when `limit`
is not negative; empty when the file cannot be read. -/
def firstLineOf (t : FileTree) (path : String) (limit : Int) : Except Fault String :=
  Fault.recover ((t.readChars path).map fun cs =>
    String.ofList ((firstLine limit cs).reverse.dropWhile (· == '\n')).reverse) ""

/-- Adds the field of one line: the text before the first separator and the text after it,
both without surrounding blanks; a line without the separator adds nothing. -/
def addField (sep : List Char) (fields : List (String × String)) (line : List Char) :
    List (String × String) :=
  match splitFirst sep line with
  | some (key, value) =>
    let k := String.ofList (trimBlankChars key)
    let v := String.ofList (trimBlankChars value)
    if fields.any (·.1 == k) then fields.map (fun kv => if kv.1 == k then (k, v) else kv)
    else fields ++ [(k, v)]
  | none => fields

/-- The `key: value` fields of the first `limitLines` lines of a file, in the order their
keys first appear, the last value of a key winning; none when the file cannot be read. An
empty separator fails as soon as a line is split at it. -/
def fieldsOf (t : FileTree) (path : String) (sep : String) (limitLines : Int) :
    Except Fault (List (String × String)) :=
  match t.readChars path with
  | .error f => Fault.recover (.error f) []
  | .ok cs =>
    let lines := (linesWithEnds cs).take limitLines.toNat
    if sep.isEmpty ∧ !lines.isEmpty then .error .emptySeparator
    else .ok (lines.foldl (addField sep.toList) [])

def tableBody (t : FileTree) (path : String) : Except Fault (List String) := do
  let cs ← t.readChars path
  match linesWithEnds cs with
  | [] => throw (.system .noHeader path)
  | _ :: body => pure (body.map (fun l => String.ofList (dropNewlines l)))
where
  dropNewlines (l : List Char) : List Char := (l.reverse.dropWhile (· == '\n')).reverse

/-- The names of a directory in code point order; none when it cannot be listed. -/
def namesOrNone (t : FileTree) (path : String) : Except Fault (List String) :=
  Fault.recover (t.listNames path) []

/-- The target of a link; empty when the path is no link. -/
def linkOrEmpty (t : FileTree) (path : String) : Except Fault String :=
  Fault.recover (t.readLink path) ""

/-- The descriptors of a descriptor directory with their link targets, in name order; a
descriptor whose link cannot be read, or is empty, is left out. -/
def descriptorTargets (t : FileTree) (dir : String) : Except Fault (List (String × String)) := do
  let base := PathName.ofText dir
  let names ← t.namesOrNone dir
  names.filterMapM fun fd => do
    let target ← t.linkOrEmpty (base.slash fd).text
    pure (if target.isEmpty then none else some (fd, target))

end FileTree

theorem addField_no_separator (fields : List (String × String)) :
    FileTree.addField [':'] fields ['a', 'b'] = fields := rfl

end HostSurvey
