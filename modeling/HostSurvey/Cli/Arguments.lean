import HostSurvey.Unicode.Digit
import HostSurvey.Number.Numeral
import HostSurvey.Text.Quote

/-!
Command-line arguments read against a grammar of options and one positional argument.
-/

namespace HostSurvey

namespace Cli

/-- What an option does. -/
inductive OptionKind where
  /-- Shows the help and stops. -/
  | help
  /-- Turns a switch on. -/
  | switch
  /-- Takes one argument, an integer. -/
  | integer
  /-- Takes one argument, kept as text. -/
  | text
deriving DecidableEq, Repr

/-- An option: its names (a one-letter name first), where its value goes, and what it does. -/
structure OptionSpec where
  names : List String
  dest : String
  kind : OptionKind
deriving Repr

/-- The positional argument of a grammar. -/
inductive PositionalKind where
  /-- Any number of texts. -/
  | texts
  /-- The name of a subcommand, one of the choices, and every argument after it. -/
  | command (choices : List String)
deriving Repr

/-- A grammar: the program name its messages use, its usage and help texts, its options and
its positional argument. -/
structure Grammar where
  prog : String
  usage : String
  help : String
  options : List OptionSpec
  positional : Option (String × PositionalKind)
deriving Repr

/-- A value read from the arguments. -/
inductive ArgValue where
  | switch
  | integer (n : Int)
  | text (s : String)
  | texts (xs : List String)
deriving Repr

/-- Why reading stopped early: the help was asked for, or an error, with the text to show. -/
inductive Stop where
  | help (text : String)
  | error (text : String)
deriving Repr

def Grammar.failure (g : Grammar) (message : String) : Stop :=
  .error (g.usage ++ "\n" ++ g.prog ++ ": error: " ++ message ++ "\n")

def OptionSpec.label (o : OptionSpec) : String := String.intercalate "/" o.names

def Grammar.names (g : Grammar) : List (String × OptionSpec) :=
  g.options.flatMap fun o => o.names.map fun n => (n, o)

/-- An option found in an argument: the option (none for an unknown one), the name used, and
the value glued to it. -/
structure OptionUse where
  spec : Option OptionSpec
  name : String
  glued : Option String
deriving Repr

/-- Whether an argument reads as a negative number (`-5`, `-.5`, `-1.5`), a single line feed
after it allowed. -/
def isNegativeNumber (s : String) : Bool :=
  let cs := s.toList
  let cs := if cs.getLast? = some '\n' then cs.dropLast else cs
  match cs with
  | '-' :: rest =>
    let whole := rest.takeWhile isDecimalDigit
    let after := rest.drop whole.length
    (!rest.isEmpty && after.isEmpty) ||
      (match after with
        | '.' :: frac => !frac.isEmpty && frac.all isDecimalDigit
        | _ => false)
  | _ => false

def Grammar.candidates (g : Grammar) (arg : String) : List OptionUse :=
  match arg.toList with
  | '-' :: '-' :: _ =>
    let (pfx, glued) := match arg.splitOn "=" with
      | first :: rest@(_ :: _) => (first, some (String.intercalate "=" rest))
      | _ => (arg, none)
    (g.names.filter fun (n, _) => pfx.isPrefixOf n).map fun (n, o) => ⟨some o, n, glued⟩
  | '-' :: c :: rest =>
    let short := String.ofList ['-', c]
    g.names.filterMap fun (n, o) =>
      if n = short then some ⟨some o, n, some (String.ofList rest)⟩
      else if arg.isPrefixOf n then some ⟨some o, n, none⟩
      else none
  | _ => []

/-- What an argument is: `none` for a positional argument, or the option it uses; an
ambiguous abbreviation stops reading. -/
def Grammar.classify (g : Grammar) (arg : String) : Except Stop (Option OptionUse) :=
  if arg.isEmpty || !arg.startsWith "-" then .ok none
  else match g.names.lookup arg with
  | some o => .ok (some ⟨some o, arg, none⟩)
  | none =>
    if arg.length = 1 then .ok none
    else
      let exactGlued : Option OptionUse := match arg.splitOn "=" with
        | first :: rest@(_ :: _) =>
          (g.names.lookup first).map fun o => ⟨some o, first, some (String.intercalate "=" rest)⟩
        | _ => none
      match exactGlued with
      | some u => .ok (some u)
      | none =>
        match g.candidates arg with
        | [u] => .ok (some u)
        | [] =>
          if isNegativeNumber arg || arg.contains ' ' then .ok none
          else .ok (some ⟨none, arg, none⟩)
        | us =>
          let names := String.intercalate ", " (us.map (·.name))
          .error (g.failure s!"ambiguous option: {arg} could match {names}")

/-- The reading of arguments so far: where the arguments stand, what they are, the values read,
the arguments left over, whether the positional argument still wants arguments, and the
subcommand chosen with its arguments. -/
structure Reading where
  args : Array String
  kinds : Array (Option OptionUse)
  pattern : Array Char
  values : List (String × ArgValue) := []
  extras : List String := []
  positionalOpen : Bool := true
  command : Option (String × List String) := none

abbrev ReadM := StateT Reading (Except Stop)

def setValue (dest : String) (v : ArgValue) : ReadM Unit :=
  modify fun r => { r with values := (dest, v) :: r.values.filter (·.1 ≠ dest) }

def takeOption (g : Grammar) (o : OptionSpec) (given : List String) : ReadM Unit :=
  match o.kind, given with
  | .help, _ => throw (.help g.help)
  | .switch, _ => setValue o.dest .switch
  | .integer, [v] =>
    match readInteger 10 v with
    | .ok n => setValue o.dest (.integer n)
    | .error _ => throw (g.failure s!"argument {o.label}: invalid int value: {quote v}")
  | .text, [v] => setValue o.dest (.text v)
  | _, _ => pure ()

def OptionKind.arity : OptionKind → Nat
  | .integer | .text => 1
  | _ => 0

def takeOptionAt (g : Grammar) (start : Nat) : ReadM Nat := do
  let r ← get
  match r.kinds.getD start none with
  | none => return start + 1
  | some use =>
    match use.spec with
    | none =>
      modify fun r => { r with extras := r.extras ++ [r.args.getD start ""] }
      return start + 1
    | some first =>
      let rec chain : Nat → OptionSpec → String → Option String → List (OptionSpec × List String) →
          Except Stop (List (OptionSpec × List String) × Nat)
        | 0, _, _, _, acc => .ok (acc, start + 1)
        | fuel + 1, o, name, glued, acc =>
          match glued with
          | some v =>
            if o.kind.arity = 0 then
              if (name.toList.getD 1 ' ') ≠ '-' ∧ v ≠ "" then
                let next := String.ofList ['-', v.toList.headD ' ']
                let rest := String.ofList (v.toList.drop 1)
                match g.names.lookup next with
                | some o2 => chain fuel o2 next (if rest.isEmpty then none else some rest) (acc ++ [(o, [])])
                | none => .error (g.failure s!"argument {o.label}: ignored explicit argument {quote v}")
              else .error (g.failure s!"argument {o.label}: ignored explicit argument {quote v}")
            else .ok (acc ++ [(o, [v])], start + 1)
          | none =>
            if o.kind.arity = 0 then .ok (acc ++ [(o, [])], start + 1)
            else if r.pattern.getD (start + 1) ' ' = 'A' then
              .ok (acc ++ [(o, [r.args.getD (start + 1) ""])], start + 2)
            else .error (g.failure s!"argument {o.label}: expected one argument")
      match chain (use.name.length + 1) first use.name use.glued [] with
      | .error e => throw e
      | .ok (taken, stop) =>
        for (o, given) in taken do
          takeOption g o given
        return stop

/-- Gives the run of arguments at `start` to the positional argument while it wants any; the
index after what it took. -/
def takePositionals (g : Grammar) (start : Nat) : ReadM Nat := do
  let r ← get
  if !r.positionalOpen then return start
  match g.positional with
  | none => return start
  | some (dest, .texts) =>
    let run := ((r.pattern.toList.drop start).takeWhile (fun c => c = 'A' ∨ c = '-')).length
    let given := (r.args.toList.drop start).take run
    let given := match given.idxOf? "--" with
      | some i => given.eraseIdx i
      | none => given
    modify fun r => { r with positionalOpen := false }
    setValue dest (.texts given)
    return start + run
  | some (dest, .command choices) =>
    let rest := r.pattern.toList.drop start
    match rest.dropWhile (· = '-') with
    | 'A' :: _ =>
      let given := r.args.toList.drop start
      let name := given.headD ""
      if !choices.contains name then
        let listed := String.intercalate ", " (choices.map quote)
        throw (g.failure s!"argument {dest}: invalid choice: {quote name} (choose from {listed})")
      modify fun r => { r with positionalOpen := false, command := some (name, given.drop 1) }
      setValue dest (.text name)
      return r.args.size
    | _ => return start

def readFrom (g : Grammar) : Nat → Nat → ReadM Nat
  | 0, start => pure start
  | fuel + 1, start => do
    let r ← get
    let optionIndices := (List.range r.args.size).filter fun i => (r.kinds.getD i none).isSome
    match optionIndices.find? (· ≥ start) with
    | none => return start
    | some next =>
      let mut start := start
      if start ≠ next then
        let stop ← takePositionals g start
        if stop > start then return ← readFrom g fuel stop
        start := stop
      if start ≠ next then
        modify fun r => { r with extras := r.extras ++ ((r.args.toList.drop start).take (next - start)) }
        start := next
      let stop ← takeOptionAt g start
      readFrom g fuel stop

/-- Reads every argument: options and positionals in turn, then the positionals at the end;
what is left over is kept as extra. -/
def readAll (g : Grammar) (fuel : Nat) : ReadM Unit := do
  let stop ← readFrom g fuel 0
  let stop ← takePositionals g stop
  modify fun r => { r with extras := r.extras ++ r.args.toList.drop stop }

/-- Reads arguments against a grammar: the values, the arguments left over, and the subcommand
chosen with its arguments. -/
def Grammar.read (g : Grammar) (argv : List String) :
    Except Stop (List (String × ArgValue) × List String × Option (String × List String)) := do
  let mut kinds : List (Option OptionUse) := []
  let mut pattern : List Char := []
  let mut afterDashes := false
  for a in argv do
    if afterDashes then
      kinds := kinds ++ [none]
      pattern := pattern ++ ['A']
    else if a = "--" then
      afterDashes := true
      kinds := kinds ++ [none]
      pattern := pattern ++ ['-']
    else
      let k ← g.classify a
      kinds := kinds ++ [k]
      pattern := pattern ++ [if k.isSome then 'O' else 'A']
  let start : Reading := { args := argv.toArray, kinds := kinds.toArray, pattern := pattern.toArray }
  let (_, r) ← (readAll g (argv.length + 1)).run start
  return (r.values, r.extras, r.command)

def switchOf (values : List (String × ArgValue)) (dest : String) : Bool :=
  match values.lookup dest with
  | some .switch => true
  | _ => false

def integerOf? (values : List (String × ArgValue)) (dest : String) : Option Int :=
  match values.lookup dest with
  | some (.integer n) => some n
  | _ => none

def textOf? (values : List (String × ArgValue)) (dest : String) : Option String :=
  match values.lookup dest with
  | some (.text s) => some s
  | _ => none

def textsOf (values : List (String × ArgValue)) (dest : String) : List String :=
  match values.lookup dest with
  | some (.texts xs) => xs
  | _ => []

end Cli

end HostSurvey
