import HostSurvey.Json.Read
import HostSurvey.Text.Encoding

/-!
Reading a JSON document from bytes: the bytes are decoded in the encoding their first bytes
show, and the text is read as JSON. A failure is the text of the decoding or reading problem.
-/

namespace HostSurvey

def readJsonBytes (bs : List UInt8) : Except String Value :=
  match decodeJsonBytes bs with
  | .error e => .error e.message
  | .ok text => match readJson text with
    | .ok v => .ok v
    | .error p => .error (p.render text)

end HostSurvey
