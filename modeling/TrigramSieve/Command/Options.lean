import TrigramSieve.Limits
import TrigramSieve.Word

/-! The arguments of a command, read from left to right. Flags and limits may stand before and after
the pattern and the texts, each at most once; behind two lone dashes everything is pattern or text. -/

namespace TrigramSieve.Command

inductive Flag where
  | verbose
  | ignoreCase
  | version
  | help
  deriving DecidableEq

inductive Bound where
  | maxExact
  | maxSet
  | maxClass
  deriving DecidableEq

inductive OptionName where
  | flag (f : Flag)
  | bound (b : Bound)
  deriving DecidableEq

def optionNames : List (String × OptionName) :=
  [("verbose", .flag .verbose), ("ignore-case", .flag .ignoreCase), ("version", .flag .version),
    ("help", .flag .help), ("max-exact", .bound .maxExact), ("max-set", .bound .maxSet),
    ("max-class", .bound .maxClass)]

def Flag.ofChar? : Char → Option Flag
  | 'v' => some verbose
  | 'i' => some ignoreCase
  | 'V' => some version
  | 'h' => some help
  | _ => none

inductive UsageError where
  | unknownOption (argument : Word)
  | unexpectedValue (argument : Word)
  | invalidValue (value : Word)
  | missingValue
  | repeated
  | missingPattern
  deriving DecidableEq

def UsageError.message : UsageError → Word
  | unknownOption w => "unexpected argument ".toList ++ w
  | unexpectedValue w => "unexpected value in ".toList ++ w
  | invalidValue w => "invalid value ".toList ++ w
  | missingValue => "a limit needs a value".toList
  | repeated => "an option can be given only once".toList
  | missingPattern => "a pattern is needed".toList

/-- Why the arguments are not read to their end. -/
inductive Stop where
  | version
  | help
  | usage (error : UsageError)
  deriving DecidableEq

/-- What a command is asked to do. -/
structure Options where
  verbose : Bool
  ignoreCase : Bool
  limits : Limits
  pattern : Word
  texts : List Word

/-- What the arguments have said so far. -/
structure Reading where
  verbose : Bool := false
  ignoreCase : Bool := false
  maxExact : Option Nat := none
  maxSet : Option Nat := none
  maxClass : Option Nat := none
  /-- The limit that the next argument gives. -/
  awaited : Option Bound := none
  /-- No more options follow. -/
  wordsOnly : Bool := false
  words : List Word := []

/-- The largest limit that can be given. -/
def largestLimit : Nat := 18446744073709551615

/-- The digits of a number behind an optional plus sign. -/
def unsigned : Word → Word
  | '+' :: digits => digits
  | digits => digits

/-- A limit in decimal digits. -/
def limit? (w : Word) : Option Nat :=
  let digits := unsigned w
  let n := digits.foldl (fun n c => 10 * n + (c.toNat - '0'.toNat)) 0
  if digits ≠ [] ∧ digits.all Char.isDigit ∧ n ≤ largestLimit then some n else none

/-- The name of an option, and what stands behind the first equals sign. -/
def splitValue (w : Word) : Word × Option Word :=
  match w.dropWhile (· ≠ '=') with
  | [] => (w, none)
  | _ :: value => (w.takeWhile (· ≠ '='), some value)

namespace Reading

def raise (r : Reading) (f : Flag) : Except Stop Reading :=
  match f with
  | .version => .error .version
  | .help => .error .help
  | .verbose => if r.verbose then .error (.usage .repeated) else .ok { r with verbose := true }
  | .ignoreCase =>
    if r.ignoreCase then .error (.usage .repeated) else .ok { r with ignoreCase := true }

/-- The flags behind a single dash, one letter each. -/
def raiseAll (r : Reading) (argument : Word) : Word → Except Stop Reading
  | [] => .ok r
  | c :: cs =>
    match Flag.ofChar? c with
    | none => .error (.usage (.unknownOption argument))
    | some f => do (← r.raise f).raiseAll argument cs

def given (r : Reading) : Bound → Option Nat
  | .maxExact => r.maxExact
  | .maxSet => r.maxSet
  | .maxClass => r.maxClass

def bound (r : Reading) (b : Bound) (value : Word) : Except Stop Reading :=
  match limit? value, r.given b with
  | none, _ => .error (.usage (.invalidValue value))
  | some _, some _ => .error (.usage .repeated)
  | some n, none =>
    .ok <| match b with
      | .maxExact => { r with maxExact := some n }
      | .maxSet => { r with maxSet := some n }
      | .maxClass => { r with maxClass := some n }

/-- An option behind two dashes. -/
def long (r : Reading) (argument body : Word) : Except Stop Reading :=
  let (name, value) := splitValue body
  match optionNames.lookup (String.ofList name), value with
  | none, _ => .error (.usage (.unknownOption argument))
  | some (.flag f), none => r.raise f
  | some (.flag _), some _ => .error (.usage (.unexpectedValue argument))
  | some (.bound b), some v => r.bound b v
  | some (.bound b), none => .ok { r with awaited := some b }

/-- One more argument. The value of a limit cannot look like an option. -/
def next (r : Reading) (argument : Word) : Except Stop Reading :=
  match r.wordsOnly, r.awaited, argument with
  | true, _, _ => .ok { r with words := r.words ++ [argument] }
  | false, some _, '-' :: _ :: _ => .error (.usage .missingValue)
  | false, some b, _ => bound { r with awaited := none } b argument
  | false, none, ['-', '-'] => .ok { r with wordsOnly := true }
  | false, none, '-' :: '-' :: body => r.long argument body
  | false, none, '-' :: c :: cs => r.raiseAll argument (c :: cs)
  | false, none, _ => .ok { r with words := r.words ++ [argument] }

def finish (r : Reading) : Except Stop Options :=
  match r.awaited, r.words with
  | some _, _ => .error (.usage .missingValue)
  | none, [] => .error (.usage .missingPattern)
  | none, pattern :: texts =>
    let usual : Limits := {}
    .ok {
      verbose := r.verbose
      ignoreCase := r.ignoreCase
      limits :=
        { maxExact := r.maxExact.getD usual.maxExact
          maxSet := r.maxSet.getD usual.maxSet
          maxClass := r.maxClass.getD usual.maxClass }
      pattern
      texts }

end Reading

/-- What the arguments ask for. -/
def Options.ofArguments (arguments : List Word) : Except Stop Options := do
  (← arguments.foldlM Reading.next {}).finish

end TrigramSieve.Command
