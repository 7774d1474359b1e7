import HostSurvey.Files.Tree
import HostSurvey.Number.Num

/-!
Permission rules for configuration files.
-/

namespace HostSurvey

def sensitiveNames : List String :=
  ["shadow", "gshadow", "shadow-", "gshadow-", "sudoers", "ssh_host_rsa_key",
   "ssh_host_ecdsa_key", "ssh_host_ed25519_key"]

def modeBit (mode : Int) (k : Nat) : Bool := (mode / Int.pow 2 k) % 2 == 1

def permissionIssues (mode uid gid : Int) (path : String) : List String :=
  (if modeBit mode 1 then ["world-writable"] else []) ++
  (if modeBit mode 4 ∧ gid ≠ 0 then ["group-writable"] else []) ++
  (if uid ≠ 0 then ["not owned by root"] else []) ++
  (if modeBit mode 2 ∧ sensitiveNames.contains (baseName path) then
    ["world-readable sensitive file"] else [])

/-- What is known of one configuration file. -/
structure ConfigFileInfo where
  path : String
  isPresent : Bool := false
  mode : String := ""
  uid : Int := -1
  gid : Int := -1
  size : Int := 0
  mtime : Num := .float 0.0
  issues : List String := []
deriving Inhabited, Repr

def octalText (n : Nat) : String := "0o" ++ String.ofList (Nat.toDigits 8 n)

/-- The check of one configuration file: absent when it cannot be examined, else its
permission bits, owner, group, size, time and issues. The path is read in its normal form. -/
def FileTree.checkConfigFile (t : FileTree) (path : String) : Except Fault ConfigFileInfo :=
  let p := (PathName.ofText path).text
  match t.stat p with
  | .error f => if f.isSystem then .ok { path := p } else .error f
  | .ok st => .ok
    { path := p, isPresent := true, mode := octalText (st.attrs.mode % 0o10000),
      uid := st.attrs.uid, gid := st.attrs.gid, size := st.size, mtime := .float st.attrs.mtime,
      issues := permissionIssues st.attrs.mode st.attrs.uid st.attrs.gid p }

end HostSurvey
