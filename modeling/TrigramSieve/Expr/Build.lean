import TrigramSieve.Expr

/-! The simplifying constructors of expressions. Alternatives that all are sequences are factored by
their common beginning; what is left of them has less weight, so that factoring ends. -/

namespace TrigramSieve.Expr

/-- Matches nothing. -/
def fail : Expr := charClass .bytes .empty

def ofSet (a : Alphabet) (s : CharSet) : Expr :=
  if s = .empty then fail
  else
    match s.single? with
    | some c => literal [c]
    | none => charClass a s

mutual

/-- Matches the empty word and no other. -/
def isBlank : Expr → Bool
  | empty => true
  | literal w => w.isEmpty
  | charClass _ _ => false
  | look _ => true
  | repetition _ max _ sub => max.isSome && isBlank sub
  | capture _ _ sub => isBlank sub
  | concat subs => areBlank subs
  | alternation subs => areBlank subs

def areBlank : List Expr → Bool
  | [] => true
  | e :: es => isBlank e && areBlank es

end

/-- The upper bound of a repetition that needs no second copy. -/
def atMostOne : Option Nat → Nat
  | none => 1
  | some n => min n 1

def repeated (min : Nat) (max : Option Nat) (greedy : Bool) (sub : Expr) : Expr :=
  let (min, max) := if sub.isBlank then (Nat.min min 1, some (atMostOne max)) else (min, max)
  if min = 0 ∧ max = some 0 then empty
  else if min = 1 ∧ max = some 1 then sub
  else repetition min max greedy sub

/-! Sequences -/

/-- The parts that an expression puts into a sequence. -/
def parts : Expr → List Expr
  | empty => []
  | concat subs => subs
  | e => [e]

/-- Puts an expression in front of a sequence. Two literals side by side become one. -/
def prepend : Expr → List Expr → List Expr
  | literal v, literal w :: rest => literal (v ++ w) :: rest
  | e, rest => e :: rest

def joinLiterals (es : List Expr) : List Expr := es.foldr prepend []

def sequence (es : List Expr) : Expr :=
  match joinLiterals (es.flatMap parts) with
  | [] => empty
  | [e] => e
  | es => concat es

/-! Alternatives -/

def branches : Expr → List Expr
  | alternation subs => subs
  | e => [e]

/-- The characters of expressions that are one character each. -/
def letters? : List Expr → Option (List Char)
  | [] => some []
  | literal [c] :: es => (letters? es).map (c :: ·)
  | _ => none

/-- The sets of expressions that are classes. -/
def sets? : List Expr → Option (List CharSet)
  | [] => some []
  | charClass _ s :: es => (sets? es).map (s :: ·)
  | _ => none

/-- The parts of expressions that are sequences. -/
def sequences? : List Expr → Option (List (List Expr))
  | [] => some []
  | concat subs :: es => (sequences? es).map (subs :: ·)
  | _ => none

/-- How many parts two sequences have in common at their beginning. -/
def agreement : List Expr → List Expr → Nat
  | d :: ds, e :: es => if d = e then agreement ds es + 1 else 0
  | _, _ => 0

/-- How many parts all sequences begin with in common. -/
def commonLength : List (List Expr) → Nat
  | [] => 0
  | s :: rest => (rest.map (agreement s)).foldr min s.length

mutual

def weight : Expr → Nat
  | repetition _ _ _ sub => weight sub + 1
  | capture _ _ sub => weight sub + 1
  | concat subs => weights subs + 1
  | alternation subs => weights subs + 1
  | _ => 1

def weights : List Expr → Nat
  | [] => 0
  | e :: es => weight e + weights es

end

theorem weight_pos (e : Expr) : 1 ≤ e.weight := by
  cases e <;> simp [weight]

theorem weights_append (ds es : List Expr) : weights (ds ++ es) = weights ds + weights es := by
  induction ds with
  | nil => simp [weights]
  | cons d ds ih => simp [weights, ih, Nat.add_assoc]

theorem weights_parts_le (es : List Expr) : weights (es.flatMap parts) ≤ weights es := by
  induction es with
  | nil => simp
  | cons e es ih =>
    have : weights e.parts ≤ e.weight := by cases e <;> simp [parts, weights, weight]
    simp only [List.flatMap_cons, weights_append, weights]
    omega

theorem weights_branches_le (es : List Expr) : weights (es.flatMap branches) ≤ weights es := by
  induction es with
  | nil => simp
  | cons e es ih =>
    have : weights e.branches ≤ e.weight := by cases e <;> simp [branches, weights, weight]
    simp only [List.flatMap_cons, weights_append, weights]
    omega

theorem weights_prepend_le (e : Expr) (es : List Expr) :
    weights (prepend e es) ≤ weights (e :: es) := by
  rw [prepend.eq_def]
  split
  · simp only [weights, weight]
    omega
  · exact Nat.le_refl _

theorem weights_joinLiterals_le (es : List Expr) : weights (joinLiterals es) ≤ weights es := by
  induction es with
  | nil => simp [joinLiterals]
  | cons e es ih =>
    refine Nat.le_trans (weights_prepend_le e (joinLiterals es)) ?_
    simp only [weights]
    omega

theorem weight_sequence_le (es : List Expr) : (sequence es).weight ≤ weights es + 1 := by
  have h := weights_parts_le es
  have hj := weights_joinLiterals_le (es.flatMap parts)
  rw [sequence]
  split
  · simp [weight]
  · rename_i he
    rw [he] at hj
    simp only [weights] at hj
    omega
  · simp only [weight]
    omega

theorem weights_drop_le (n : Nat) (es : List Expr) (h : n ≤ es.length) :
    weights (es.drop n) + n ≤ weights es := by
  induction n generalizing es with
  | zero => simp
  | succ n ih =>
    cases es with
    | nil => simp at h
    | cons e es =>
      have := ih es (by simpa using h)
      have := weight_pos e
      simp only [List.drop_succ_cons, weights]
      omega

theorem agreement_le (ds es : List Expr) : agreement ds es ≤ es.length := by
  induction ds generalizing es with
  | nil => simp [agreement]
  | cons d ds ih =>
    cases es with
    | nil => simp [agreement]
    | cons e es =>
      have := ih es
      rw [agreement]
      split
      · simpa using this
      · exact Nat.zero_le _

theorem commonLength_le (ss : List (List Expr)) {s : List Expr} (h : s ∈ ss) :
    commonLength ss ≤ s.length := by
  have foldr_le (l : List Nat) (n : Nat) : l.foldr min n ≤ n ∧ ∀ m ∈ l, l.foldr min n ≤ m := by
    induction l with
    | nil => simp
    | cons m l ih => grind
  cases ss with
  | nil => simp at h
  | cons t rest =>
    have := foldr_le (rest.map (agreement t)) t.length
    rcases List.mem_cons.1 h with rfl | h
    · exact this.1
    · exact Nat.le_trans (this.2 _ (List.mem_map_of_mem h)) (agreement_le t s)

theorem weights_eq_of_sequences? {es : List Expr} {ss : List (List Expr)}
    (h : sequences? es = some ss) : weights es = weights (ss.map concat) := by
  induction es generalizing ss with
  | nil => simp_all [sequences?, weights]
  | cons e es ih =>
    cases e <;> simp [sequences?] at h
    obtain ⟨rest, hr, rfl⟩ := h
    simp [weights, ih hr]

theorem weights_remainders_le {ss : List (List Expr)} (n : Nat) (h : ∀ s ∈ ss, n ≤ s.length) :
    weights (ss.map fun s => sequence (s.drop n)) + n * ss.length ≤ weights (ss.map concat) := by
  induction ss with
  | nil => simp [weights]
  | cons s ss ih =>
    have hs := weights_drop_le n s (h s (by simp))
    have hw := weight_sequence_le (s.drop n)
    have := ih fun t ht => h t (by simp [ht])
    simp only [List.map_cons, weights, weight, List.length_cons, Nat.mul_add, Nat.mul_one]
    omega

/-- One of several expressions. -/
def oneOf (es : List Expr) : Expr :=
  match _hb : es.flatMap branches with
  | [] => fail
  | [e] => e
  | subs =>
    match letters? subs, sets? subs, _hs : sequences? subs with
    | some cs, _, _ => ofSet .characters (.ofRanges (cs.map fun c => (c, c)))
    | none, some sets, _ => ofSet .characters (.sUnion sets)
    | none, none, none => alternation subs
    | none, none, some ss =>
      let n := commonLength ss
      if n = 0 then alternation subs
      else sequence ((ss.head?.getD []).take n ++ [oneOf (ss.map fun s => sequence (s.drop n))])
termination_by weights es
decreasing_by
  have hle := weights_branches_le es
  have heq := weights_eq_of_sequences? _hs
  have hrem := weights_remainders_le (commonLength ss) fun s hs => commonLength_le ss hs
  have hpos : 0 < commonLength ss * ss.length := by
    cases ss with
    | nil => contradiction
    | cons s ss => exact Nat.mul_pos (Nat.pos_of_ne_zero ‹_›) (by simp)
  rw [_hb] at hle
  omega

end TrigramSieve.Expr
