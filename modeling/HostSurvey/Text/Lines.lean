import HostSurvey.Text.Utf8
import HostSurvey.Text.Trim

/-!
The line model of text files.
-/

namespace HostSurvey

/-- Universal newlines: CR LF and a lone CR both become LF. -/
def unifyNewlines : List Char → List Char
  | [] => []
  | '\r' :: '\n' :: rest => '\n' :: unifyNewlines rest
  | '\r' :: rest => '\n' :: unifyNewlines rest
  | c :: rest => c :: unifyNewlines rest

def fileChars (bs : List UInt8) : List Char := unifyNewlines (decodeUtf8Lenient bs)

def linesWithEnds (cs : List Char) : List (List Char) :=
  match _h : cs.dropWhile (· != '\n') with
  | [] => if cs.isEmpty then [] else [cs]
  | nl :: rest => (cs.takeWhile (· != '\n') ++ [nl]) :: linesWithEnds rest
termination_by cs.length
decreasing_by
  have h1 := length_dropWhile_le (· != '\n') cs
  rw [_h] at h1
  simp only [List.length_cons] at h1
  omega

/-- The first line of a file, with its line feed, cut to at most `limit` characters when
`limit` is not negative. -/
def firstLine (limit : Int) (cs : List Char) : List Char :=
  let line := (linesWithEnds cs).headD []
  if limit < 0 then line else line.take limit.toNat

theorem linesWithEnds_nil : linesWithEnds [] = [] := by
  rw [linesWithEnds]; rfl

end HostSurvey
