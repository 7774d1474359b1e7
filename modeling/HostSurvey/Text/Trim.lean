import HostSurvey.Unicode.Blank

/-!
Trimming and word splitting by blank characters.
-/

namespace HostSurvey

def trimBlankChars (cs : List Char) : List Char :=
  ((cs.dropWhile isBlank).reverse.dropWhile isBlank).reverse

def trimBlanks (s : String) : String := String.ofList (trimBlankChars s.toList)

theorem length_dropWhile_le {α : Type} (p : α → Bool) :
    ∀ l : List α, (l.dropWhile p).length ≤ l.length
  | [] => Nat.le_refl _
  | c :: cs => by
    rw [List.dropWhile_cons]
    split
    · exact Nat.le_succ_of_le (length_dropWhile_le p cs)
    · exact Nat.le_refl _

def blankWordChars (cs : List Char) : List (List Char) :=
  match _h : cs.dropWhile isBlank with
  | [] => []
  | c :: rest =>
    (c :: rest.takeWhile (fun x => !isBlank x)) :: blankWordChars (rest.dropWhile (fun x => !isBlank x))
termination_by cs.length
decreasing_by
  have h1 := length_dropWhile_le isBlank cs
  have h2 := length_dropWhile_le (fun x => !isBlank x) rest
  rw [_h] at h1
  simp only [List.length_cons] at h1
  omega

def blankWords (s : String) : List String := (blankWordChars s.toList).map String.ofList

def dropTrailing (c : Char) (s : String) : String :=
  String.ofList (s.toList.reverse.dropWhile (· == c)).reverse

def trimBlanksRight (s : String) : String :=
  String.ofList (s.toList.reverse.dropWhile isBlank).reverse

/-- Splits a list of characters at the first occurrence of a non-empty separator: the part
before it and the part after it, or `none` when the separator does not occur. -/
def splitFirst (sep : List Char) : List Char → Option (List Char × List Char)
  | [] => if sep.isEmpty then some ([], []) else none
  | c :: rest =>
    if sep.isPrefixOf (c :: rest) then some ([], (c :: rest).drop sep.length)
    else (splitFirst sep rest).map (fun p => (c :: p.1, p.2))

def splitLast (sep : Char) (cs : List Char) : Option (List Char × List Char) :=
  match (cs.reverse.span (· != sep)) with
  | (_, []) => none
  | (after, _ :: before) => some (before.reverse, after.reverse)

theorem blankWordChars_nil : blankWordChars [] = [] := by
  simp [blankWordChars]

end HostSurvey
