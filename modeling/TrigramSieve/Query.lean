import TrigramSieve.WordSet

/-! Boolean queries over trigrams: a necessary condition that a text has to meet, as a condition on
the set of its trigrams. Combining two queries simplifies on the way, so that the tree stays small. -/

namespace TrigramSieve

inductive Op where
  | all
  | none
  | and
  | or
  deriving DecidableEq

def Op.dual : Op → Op
  | and => or
  | or => and
  | op => op

/-- A node asks for its trigrams and its children, all of them under `and`, one of them under `or`.
Any tree may be written down, also one that no simplification would leave. -/
structure Query where
  op : Op
  trigrams : List Word
  children : List Query

namespace Query

def all : Query := ⟨.all, [], []⟩

def none : Query := ⟨.none, [], []⟩

instance : Inhabited Query := ⟨all⟩

/-- A node without children over a set of trigrams. -/
def ofTrigrams (op : Op) (ts : List Word) : Query := ⟨op, clean .natural ts, []⟩

mutual

def decEq : (q r : Query) → Decidable (q = r)
  | ⟨o, ts, cs⟩, ⟨o', ts', cs'⟩ =>
    have := decEqAll cs cs'
    decidable_of_iff (o = o' ∧ ts = ts' ∧ cs = cs') (by simp)

def decEqAll : (cs ds : List Query) → Decidable (cs = ds)
  | [], [] => isTrue rfl
  | [], _ :: _ => isFalse nofun
  | _ :: _, [] => isFalse nofun
  | c :: cs, d :: ds =>
    have := decEq c d
    have := decEqAll cs ds
    decidable_of_iff (c = d ∧ cs = ds) (by simp)

end

instance : DecidableEq Query := decEq

/-! Meaning -/

mutual

/-- Whether a set of trigrams, given by its membership test, meets the query. -/
def admits (present : Word → Bool) : Query → Bool
  | ⟨.all, _, _⟩ => true
  | ⟨.none, _, _⟩ => false
  | ⟨.and, ts, cs⟩ => ts.all present && allAdmit present cs
  | ⟨.or, ts, cs⟩ => ts.any present || anyAdmits present cs

def allAdmit (present : Word → Bool) : List Query → Bool
  | [] => true
  | c :: cs => admits present c && allAdmit present cs

def anyAdmits (present : Word → Bool) : List Query → Bool
  | [] => false
  | c :: cs => admits present c || anyAdmits present cs

end

/-- Whether a text may match, judged by its trigrams alone. -/
def admitsText (q : Query) (text : Word) : Bool :=
  q.admits fun t => (trigramsOf text).contains t

/-! Size -/

mutual

/-- Number of trigrams written in the tree. -/
def size : Query → Nat
  | ⟨_, ts, cs⟩ => ts.length + sizeAll cs

def sizeAll : List Query → Nat
  | [] => 0
  | c :: cs => size c + sizeAll cs

end

/-! Shapes -/

def isAtom (q : Query) : Bool := q.trigrams.length == 1 && q.children.isEmpty

/-- A node that holds nothing but one child stands for that child. -/
def unwrap : Query → Query
  | ⟨_, [], [c]⟩ => c
  | q => q

/-- Repairs a node with at most one part: no part makes the node constant, a lone child replaces it,
and a lone trigram may stand under `op`. -/
def collapse (op : Op) (q : Query) : Query :=
  match q.op, q.trigrams, q.children with
  | .and, [], [] => all
  | .or, [], [] => none
  | .and, [], [c] => c
  | .or, [], [c] => c
  | .and, [_], [] => { q with op := op }
  | .or, [_], [] => { q with op := op }
  | _, _, _ => q

@[simp]
theorem unwrap_leaf (op : Op) (ts : List Word) : unwrap ⟨op, ts, []⟩ = ⟨op, ts, []⟩ := by
  cases ts <;> rfl

theorem size_unwrap_le (q : Query) : q.unwrap.size ≤ q.size := by
  rw [unwrap.eq_def]
  split <;> simp [size, sizeAll]

theorem size_collapse_le (op : Op) (q : Query) : (q.collapse op).size ≤ q.size := by
  obtain ⟨o, ts, cs⟩ := q
  rw [collapse.eq_def]
  dsimp only
  split <;> simp [size, sizeAll, all, none]

/-! Implication -/

/-- Whether some word of `ts` alone is a subset of `set`. -/
def anyMember (set : List Word) : List Word → Except MergeFault Bool
  | [] => .ok false
  | t :: ts => do
    if ← isSubset [t] set then
      return true
    anyMember set ts

mutual

/-- Whether the presence of every word of `ts` is enough for the query. -/
def follows (ts : List Word) : Query → Except MergeFault Bool
  | ⟨.or, us, cs⟩ => do
    if ← anyFollows ts cs then
      return true
    anyMember us ts
  | ⟨.and, us, cs⟩ => do
    if ← allFollow ts cs then
      isSubset us ts
    else
      return false
  | _ => .ok false

def anyFollows (ts : List Word) : List Query → Except MergeFault Bool
  | [] => .ok false
  | c :: cs => do
    if ← follows ts c then
      return true
    anyFollows ts cs

def allFollow (ts : List Word) : List Query → Except MergeFault Bool
  | [] => .ok true
  | c :: cs => do
    if ← follows ts c then
      allFollow ts cs
    else
      return false

end

/-- A safe test for "whatever meets `q` meets `r`": it may miss an implication and never invents one. -/
def implies (q r : Query) : Except MergeFault Bool :=
  if q.op = .none ∨ r.op = .all then .ok true
  else if q.op = .all ∨ r.op = .none then .ok false
  else if q.op = .and ∨ q.isAtom then follows q.trigrams r
  else if r.op = .or ∧ q.trigrams ≠ [] ∧ q.children = [] then isSubset q.trigrams r.trigrams
  else .ok false

/-! Combination -/

/-- Joins two nodes of which one has the operator `op`, or which are both a single trigram. -/
def join? (op : Op) (q r : Query) : Option Query :=
  if q.op = op ∧ (r.op = op ∨ r.isAtom) then
    some { q with trigrams := unite .natural q.trigrams r.trigrams, children := q.children ++ r.children }
  else if r.op = op ∧ q.isAtom then
    some { r with trigrams := unite .natural r.trigrams q.trigrams }
  else if q.isAtom ∧ r.isAtom then
    some ⟨op, unite .natural q.trigrams r.trigrams, q.children⟩
  else if q.op = op then
    some { q with children := q.children ++ [r] }
  else if r.op = op then
    some { r with children := r.children ++ [q] }
  else
    Option.none

theorem join?_eq_none {op : Op} {q r : Query} (h : join? op q r = Option.none) :
    q.op ≠ op ∧ r.op ≠ op := by
  unfold join? at h
  grind

/-- The trigrams that two nodes share, and what the nodes are without them. -/
structure Factoring where
  common : List Word
  left : Query
  right : Query

def factor (op : Op) (q r : Query) : Factoring :=
  let parts := splitCommon q.trigrams r.trigrams
  ⟨parts.common, collapse op { q with trigrams := parts.left },
    collapse op { r with trigrams := parts.right }⟩

theorem size_factor_le (op : Op) (q r : Query) :
    2 * (factor op q r).common.length + (factor op q r).left.size + (factor op q r).right.size ≤
      q.size + r.size := by
  obtain ⟨o, ts, cs⟩ := q
  obtain ⟨o', us, ds⟩ := r
  have hl := length_splitCommon_left ts us
  have hr := length_splitCommon_right ts us
  have hcl := size_collapse_le op ⟨o, (splitCommon ts us).left, cs⟩
  have hcr := size_collapse_le op ⟨o', (splitCommon ts us).right, ds⟩
  simp only [factor, size] at *
  omega

/-- The conjunction or disjunction of two queries. Two nodes of the other operator that share
trigrams are factored, `(a & b) | (a & c)` into `a & (b | c)`, and what is left of them is combined
again. -/
def combine (op : Op) (q r : Query) : Except MergeFault Query := do
  if ← q.unwrap.implies r.unwrap then
    return if op = .and then q.unwrap else r.unwrap
  if ← r.unwrap.implies q.unwrap then
    return if op = .and then r.unwrap else q.unwrap
  match _hj : join? op q.unwrap r.unwrap with
  | some s => return s
  | Option.none =>
    let f := factor op q.unwrap r.unwrap
    if _hc : f.common = [] then
      return ⟨op, [], [q.unwrap, r.unwrap]⟩
    else
      let s ← combine op f.left f.right
      combine op.dual ⟨op.dual, f.common, []⟩ s
termination_by if q.unwrap.op = op ∨ r.unwrap.op = op then 0 else q.size + r.size + 1
decreasing_by
  · have hs := size_factor_le op q.unwrap r.unwrap
    have hq := size_unwrap_le q
    have hr := size_unwrap_le r
    have hp := List.length_pos_iff.2 _hc
    rw [if_neg (not_or.2 (join?_eq_none _hj))]
    grind
  · have ht : (⟨op.dual, f.common, []⟩ : Query).unwrap.op = op.dual := by rw [unwrap_leaf]
    rw [if_neg (not_or.2 (join?_eq_none _hj)), if_pos (Or.inl ht)]
    omega

protected def and (q r : Query) : Except MergeFault Query := combine .and q r

protected def or (q r : Query) : Except MergeFault Query := combine .or q r

/-- Asks for all trigrams of at least one of the words, on top of `q`. A word too short to hold a
trigram guarantees nothing, and then `q` stays as it is. -/
def andTrigrams (q : Query) (words : List Word) : Except MergeFault Query := do
  if minLength words < trigramWidth then
    return q
  let any ← words.foldlM (fun s w => s.or ⟨.and, trigramsOf w, []⟩) none
  q.and any

end Query

end TrigramSieve
