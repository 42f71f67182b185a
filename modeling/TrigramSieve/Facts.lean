import TrigramSieve.Limits
import TrigramSieve.Query

/-! What is known of the words a pattern matches, and how this knowledge is joined along
concatenation and alternation. Sets that grow too large are traded for weaker ones, and their
trigrams move into the query. -/

namespace TrigramSieve

structure Facts where
  canBeEmpty : Bool := false
  /-- All words that match, while they are few enough to list. -/
  exact : Option (List Word) := none
  /-- Without `exact`, every match begins with one of these. -/
  heads : List Word := []
  /-- Without `exact`, every match ends with one of these. -/
  tails : List Word := []
  /-- A query that every match meets, on top of the sets above. -/
  query : Query := .all
  deriving DecidableEq

namespace Facts

def ofExact (words : List Word) : Facts := { exact := some words }

/-- Any word at all. -/
def anyMatch : Facts := { canBeEmpty := true, heads := [[]], tails := [[]] }

/-- Any single character. -/
def anyChar : Facts := { heads := [[]], tails := [[]] }

def noMatch : Facts := { query := .none }

def emptyWord : Facts := { canBeEmpty := true, exact := some [[]] }

def andTrigrams (f : Facts) (words : List Word) : Except MergeFault Facts := do
  return { f with query := ← f.query.andTrigrams words }

/-- Asks for the trigrams of the exact set as well. -/
def addExact (f : Facts) : Except MergeFault Facts :=
  match f.exact with
  | none => .ok f
  | some words => f.andTrigrams words

/-! Keeping the sets small -/

/-- Cuts the words down to `n` characters, or to fewer until at most `max` different ones are left. -/
def shorten (o : WordOrder) (max : Nat) : Nat → List Word → List Word
  | 0, ws => clean o (ws.map (o.cut 0))
  | n + 1, ws =>
    let cut := clean o (ws.map (o.cut (n + 1)))
    if cut.length ≤ max then cut else shorten o max n cut

/-- Drops each word that the last kept one, at first `kept`, covers. -/
def dropCoveredBy (o : WordOrder) (kept : Word) : List Word → List Word
  | [] => []
  | w :: ws => if o.covers kept w then dropCoveredBy o kept ws else w :: dropCoveredBy o w ws

/-- Drops the words that begin with another one. In a sorted list that one stands right before them. -/
def dropCovered (o : WordOrder) : List Word → List Word
  | [] => []
  | w :: ws => w :: dropCoveredBy o w ws

/-- What is kept of a set of beginnings or endings. -/
def bounded (o : WordOrder) (max : Nat) (ws : List Word) : List Word :=
  dropCovered o (shorten o max (trigramWidth - 1) (clean o ws))

/-- Gives up an exact set that is too large, or whose words are all long enough to be replaced by
their ends and their trigrams. -/
def boundExact (force : Bool) (limits : Limits) (f : Facts) : Except MergeFault Facts := do
  let some words := f.exact | return f
  let words := clean .natural words
  let least := minLength words
  if words.length > limits.maxExact ∨ least > trigramWidth ∨ (force ∧ least ≥ trigramWidth) then
    let f ← f.andTrigrams words
    return { f with
      exact := none
      heads := f.heads ++ words.map (List.take (trigramWidth - 1))
      tails := f.tails ++ words.map (takeLast (trigramWidth - 1)) }
  else
    return { f with exact := some words }

/-- Moves the trigrams of the beginnings and endings into the query and bounds both sets. -/
def boundEnds (limits : Limits) (f : Facts) : Except MergeFault Facts := do
  let f ← f.andTrigrams (clean .natural f.heads)
  let f ← f.andTrigrams (clean .suffix f.tails)
  return { f with
    heads := bounded .natural limits.maxSet f.heads
    tails := bounded .suffix limits.maxSet f.tails }

/-- Bounds all sets. Under `force` an exact set of long words is given up even if it is small. -/
def simplify (force : Bool) (limits : Limits) (f : Facts) : Except MergeFault Facts := do
  let f ← f.boundExact force limits
  match f.exact with
  | some _ => return f
  | none => f.boundEnds limits

/-! Joining -/

/-- The words across the seam of two parts, when they are few, and all long enough to hold a trigram. -/
def seam? (limits : Limits) (x y : Facts) : Option (List Word) :=
  if x.exact.isNone ∧ y.exact.isNone ∧ x.tails.length ≤ limits.maxSet ∧
      y.heads.length ≤ limits.maxSet ∧ minLength x.tails + minLength y.heads ≥ trigramWidth then
    some (cross .natural x.tails y.heads)
  else
    none

def concatHeads (x y : Facts) : List Word :=
  match x.exact with
  | some words => cross .natural words y.heads
  | none => if x.canBeEmpty then unite .natural x.heads y.heads else x.heads

def concatTails (x y : Facts) : List Word :=
  match y.exact with
  | some words => cross .suffix x.tails words
  | none => if y.canBeEmpty then unite .suffix y.tails x.tails else y.tails

/-- Facts on a match of `x` followed by a match of `y`. -/
def concat (limits : Limits) (x y : Facts) : Except MergeFault Facts := do
  let canBeEmpty := x.canBeEmpty && y.canBeEmpty
  let query ← x.query.and y.query
  let xy : Facts := match x.exact, y.exact with
    | some v, some w => { canBeEmpty, query, exact := some (cross .natural v w) }
    | _, _ => { canBeEmpty, query, heads := concatHeads x y, tails := concatTails x y }
  let xy ← match seam? limits x y with
    | some words => xy.andTrigrams words
    | none => pure xy
  xy.simplify false limits

/-- The facts without an exact set, which then serves as beginnings, as endings and in the query. -/
def flushed (f : Facts) : Except MergeFault Facts := do
  match f.exact with
  | none => return f
  | some words =>
    let f ← f.andTrigrams words
    return { f with exact := none, heads := words, tails := words }

/-- Facts on a match of `x` or of `y`. -/
def alternate (limits : Limits) (x y : Facts) : Except MergeFault Facts := do
  let canBeEmpty := x.canBeEmpty || y.canBeEmpty
  let xy : Facts ← match x.exact, y.exact with
    | some v, some w => do
      let query ← x.query.or y.query
      pure { canBeEmpty, query, exact := some (unite .natural v w) }
    | _, _ => do
      let x ← x.flushed
      let y ← y.flushed
      let query ← x.query.or y.query
      pure { canBeEmpty, query, heads := unite .natural x.heads y.heads, tails := unite .suffix x.tails y.tails }
  xy.simplify false limits

end Facts

end TrigramSieve
