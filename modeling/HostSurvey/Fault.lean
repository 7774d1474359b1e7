import HostSurvey.Text.Quote
import HostSurvey.Text.Utf8

/-!
Failures of the library.
-/

namespace HostSurvey

/-- A failure reported by the file system: its error number and standard text. -/
structure SystemError where
  errno : Nat
  text : String
deriving DecidableEq, Repr

namespace SystemError

def noEntry : SystemError := ⟨2, "No such file or directory"⟩
def exists_ : SystemError := ⟨17, "File exists"⟩
def notDirectory : SystemError := ⟨20, "Not a directory"⟩
def isDirectory : SystemError := ⟨21, "Is a directory"⟩
def notEmpty : SystemError := ⟨39, "Directory not empty"⟩
def nameTooLong : SystemError := ⟨36, "File name too long"⟩
def loop : SystemError := ⟨40, "Too many levels of symbolic links"⟩
def noHeader : SystemError := ⟨61, "no header line"⟩

def kind (e : SystemError) : String :=
  match e.errno with
  | 1 => "PermissionError"
  | 2 => "FileNotFoundError"
  | 13 => "PermissionError"
  | 17 => "FileExistsError"
  | 20 => "NotADirectoryError"
  | 21 => "IsADirectoryError"
  | _ => "OSError"

end SystemError

def Utf8Error.message (e : Utf8Error) : String :=
  let reason := match e.problem with
    | .invalidStart => "invalid start byte"
    | .invalidContinuation => "invalid continuation byte"
    | .unexpectedEnd => "unexpected end of data"
  if e.stop ≤ e.start + 1 then
    s!"'utf-8' codec can't decode byte 0x{String.ofList (hexDigits 2 e.firstByte.toNat)} in position {e.start}: {reason}"
  else s!"'utf-8' codec can't decode bytes in position {e.start}-{e.stop - 1}: {reason}"

/-- Why an operation failed. -/
inductive Fault where
  /-- A text is no integer numeral of the base. -/
  | badIntegerText (text : String) (base : Nat)
  /-- Bytes are no integer numeral of the base. -/
  | badIntegerBytes (bytes : List UInt8) (base : Nat)
  /-- An integer numeral has more digits than may be read. -/
  | integerTextTooLong (digits : Nat)
  /-- An integer has more decimal digits than may be written. -/
  | integerTooLongToWrite
  /-- A text or bytes (already quoted) are no decimal numeral. -/
  | badDecimalText (quoted : String)
  /-- An infinite double has no integer part. -/
  | infinityToInteger
  /-- A double that is not a number has no integer part. -/
  | nanToInteger
  /-- An integer lies beyond the finite doubles. -/
  | integerTooLarge
  /-- The quotient of two integers lies beyond the finite doubles. -/
  | quotientTooLarge
  /-- A value of this type cannot become an integer. -/
  | notIntegerLike (typeName : String)
  /-- A value of this type cannot become a double. -/
  | notDecimalLike (typeName : String)
  /-- Two values of these types cannot be ordered by the comparison. -/
  | unorderable (op : String) (left right : String)
  /-- A value of this type cannot be a key. -/
  | unhashable (typeName : String)
  /-- A value of this type has no items to go through. -/
  | notIterable (typeName : String)
  /-- A value of this type has no such attribute. -/
  | missingAttribute (typeName attr : String)
  /-- A mapping has no entry for the key (already quoted). -/
  | missingKey (quotedKey : String)
  /-- A template refers to a value past the end of its arguments. -/
  | formatIndex (index : Nat)
  /-- A division by zero. -/
  | divisionByZero
  /-- A division of doubles by zero. -/
  | floatDivisionByZero
  /-- Splitting at an empty separator. -/
  | emptySeparator
  /-- A value of this type is not a path. -/
  | notPathLike (typeName : String)
  /-- Ownership of a file cannot be changed. -/
  | notPermitted (path : String)
  /-- The file system refused an operation on a path. -/
  | system (err : SystemError) (path : String)
  /-- A path holds a NUL character, which no system call takes. -/
  | embeddedNull
  /-- A kernel socket table could not be read. -/
  | sourceUnavailable (message : String)
  /-- A value of a type that a request field cannot take. -/
  | badArgument (message : String)
  /-- Bytes that are no UTF-8 text. -/
  | badUtf8 (e : Utf8Error)
  /-- A text holds lone surrogates, from character `start` up to `stop`, the first `first`. -/
  | unencodable (start stop first : Nat)
  /-- A failure of a given class with its text. -/
  | other (kind message : String)
deriving DecidableEq, Repr

def clip200 (s : String) : String := String.ofList (s.toList.take 200)

def Fault.kind : Fault → String
  | .badIntegerText .. | .badIntegerBytes .. | .integerTextTooLong _ | .integerTooLongToWrite
  | .badDecimalText _
  | .nanToInteger | .emptySeparator | .embeddedNull => "ValueError"
  | .infinityToInteger | .integerTooLarge | .quotientTooLarge => "OverflowError"
  | .notIntegerLike _ | .notDecimalLike _ | .unorderable .. | .unhashable _ | .notIterable _
  | .notPathLike _ | .badArgument _ => "TypeError"
  | .missingAttribute .. => "AttributeError"
  | .missingKey _ => "KeyError"
  | .formatIndex _ => "IndexError"
  | .divisionByZero | .floatDivisionByZero => "ZeroDivisionError"
  | .notPermitted _ => "PermissionError"
  | .system e _ => e.kind
  | .sourceUnavailable _ => "SourceUnavailable"
  | .badUtf8 _ => "UnicodeDecodeError"
  | .unencodable .. => "UnicodeEncodeError"
  | .other k _ => k

def Fault.message : Fault → String
  | .badIntegerText t b => s!"invalid literal for int() with base {b}: " ++ clip200 (quote t)
  | .badIntegerBytes bs b => s!"invalid literal for int() with base {b}: " ++ quoteBytes (bs.take 200)
  | .integerTextTooLong n =>
    s!"Exceeds the limit (4300 digits) for integer string conversion: value has {n} digits; use sys.set_int_max_str_digits() to increase the limit"
  | .integerTooLongToWrite =>
    "Exceeds the limit (4300 digits) for integer string conversion; use sys.set_int_max_str_digits() to increase the limit"
  | .badDecimalText q => "could not convert string to float: " ++ q
  | .infinityToInteger => "cannot convert float infinity to integer"
  | .nanToInteger => "cannot convert float NaN to integer"
  | .integerTooLarge => "int too large to convert to float"
  | .quotientTooLarge => "integer division result too large for a float"
  | .notIntegerLike t =>
    s!"int() argument must be a string, a bytes-like object or a real number, not '{t}'"
  | .notDecimalLike t => s!"float() argument must be a string or a real number, not '{t}'"
  | .unorderable op l r => s!"'{op}' not supported between instances of '{l}' and '{r}'"
  | .unhashable t => s!"unhashable type: '{t}'"
  | .notIterable t => s!"'{t}' object is not iterable"
  | .missingAttribute t a => s!"'{t}' object has no attribute '{a}'"
  | .missingKey k => k
  | .formatIndex i => s!"Replacement index {i} out of range for positional args tuple"
  | .divisionByZero => "division by zero"
  | .floatDivisionByZero => "float division by zero"
  | .emptySeparator => "empty separator"
  | .notPathLike t => s!"expected str, bytes or os.PathLike object, not {t}"
  | .notPermitted p => "[Errno 1] Operation not permitted: " ++ quote p
  | .system e p => s!"[Errno {e.errno}] {e.text}: " ++ quote p
  | .embeddedNull => "embedded null byte"
  | .sourceUnavailable m => m
  | .badArgument m => m
  | .badUtf8 e => e.message
  | .unencodable start stop first =>
    if stop ≤ start + 1 then
      s!"'utf-8' codec can't encode character '\\u{String.ofList (hexDigits 4 first)}' in position {start}: surrogates not allowed"
    else s!"'utf-8' codec can't encode characters in position {start}-{stop - 1}: surrogates not allowed"
  | .other _ m => m

/-- Whether a failure is one of the operating system (a file, a permission, a kernel table),
the kind that readers of optional files pass over. -/
def Fault.isSystem : Fault → Bool
  | .system .. | .notPermitted _ | .sourceUnavailable _ => true
  | _ => false

/-- A result with a failure of the operating system replaced by a default; other failures are
kept. -/
def Fault.recover {α : Type} (r : Except Fault α) (default : α) : Except Fault α :=
  match r with
  | .error f => if f.isSystem then .ok default else .error f
  | .ok a => .ok a

/-- The UTF-8 bytes of a text; a text that holds a stand-in for a lone surrogate cannot be
encoded, and the failure names the first run of them. -/
def encodeUtf8Checked (s : String) : Except Fault (List UInt8) :=
  let cs := s.toList
  match cs.findIdx? (fun c => (standInCode? c).isSome) with
  | none => .ok (encodeUtf8 s)
  | some i =>
    let run := ((cs.drop i).takeWhile (fun c => (standInCode? c).isSome)).length
    .error (.unencodable i (i + run) ((cs.getD i ' ').toNat - standInOffset))

theorem Fault.message_notPermitted (p : String) :
    (Fault.notPermitted p).message = "[Errno 1] Operation not permitted: " ++ quote p := rfl

end HostSurvey
