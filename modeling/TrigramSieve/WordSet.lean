import TrigramSieve.Word

/-! Sets of words as strictly increasing lists. `clean` makes one from any list; subset test and
split are merges, which are only meant for lists in natural order. -/

namespace TrigramSieve

/-- Puts `w` into a list that is strictly increasing in the order `o`. -/
def insertWord (o : WordOrder) (w : Word) : List Word → List Word
  | [] => [w]
  | v :: vs =>
    match o.compare w v with
    | .lt => w :: v :: vs
    | .eq => v :: vs
    | .gt => v :: insertWord o w vs

/-- The words of `ws`, sorted, each once. -/
def clean (o : WordOrder) (ws : List Word) : List Word := ws.foldr (insertWord o) []

def unite (o : WordOrder) (s t : List Word) : List Word := clean o (s ++ t)

/-- Every word of `s` followed by every word of `t`. The pairs are listed in the order that leaves
`clean` little to move. -/
def cross (o : WordOrder) (s t : List Word) : List Word :=
  clean o <| match o with
    | .natural => s.flatMap fun v => t.map (v ++ ·)
    | .suffix => t.flatMap fun w => s.map (· ++ w)

/-- Length of the shortest word, 0 for no words. -/
def minLength (ws : List Word) : Nat := (ws.map List.length).min?.getD 0

/-- The set of trigrams that occur in `w`. -/
def trigramsOf (w : Word) : List Word := clean .natural (windows w)

/-- No word is greater than its successor. -/
def ascending : List Word → Bool
  | v :: w :: rest => (compare v w).isLE && ascending (w :: rest)
  | _ => true

/-- Looks for the words of the first list in the second, never going back in the second. -/
def mergeCovers : List Word → List Word → Bool
  | [], _ => true
  | v :: vs, ws =>
    match ws.dropWhile fun w => (compare w v).isLT with
    | [] => false
    | w :: rest => w == v && mergeCovers vs (w :: rest)

/-- A merge was asked of a list that is not in natural order. -/
inductive MergeFault where
  | unsorted
  deriving DecidableEq

def MergeFault.message : MergeFault → Word
  | unsorted => "is_subset on unsorted input".toList

/-- Reports whether every word of `s` is in `t`; refuses lists that are not in natural order. -/
def isSubset (s t : List Word) : Except MergeFault Bool :=
  if ascending s && ascending t then .ok (mergeCovers s t) else .error .unsorted

/-- What two lists share, and what only one of them holds. -/
structure Split where
  common : List Word
  left : List Word
  right : List Word

/-- Walks through both lists at once. Unsorted lists are merged as they come. -/
def splitCommon : List Word → List Word → Split
  | [], t => ⟨[], [], t⟩
  | v :: s, t =>
    let less := t.takeWhile fun w => (compare w v).isLT
    match t.dropWhile fun w => (compare w v).isLT with
    | [] => ⟨[], v :: s, less⟩
    | w :: rest =>
      if w = v then
        let r := splitCommon s rest
        ⟨v :: r.common, r.left, less ++ r.right⟩
      else
        let r := splitCommon s (w :: rest)
        ⟨r.common, v :: r.left, less ++ r.right⟩

theorem length_splitCommon_left (s t : List Word) :
    (splitCommon s t).common.length + (splitCommon s t).left.length = s.length := by
  induction s generalizing t with
  | nil => simp [splitCommon]
  | cons v s ih =>
    rw [splitCommon]
    split
    · simp
    · rename_i w rest _
      split
      · have := ih rest
        simp only [List.length_cons]
        omega
      · have := ih (w :: rest)
        simp only [List.length_cons]
        omega

theorem length_splitCommon_right (s t : List Word) :
    (splitCommon s t).common.length + (splitCommon s t).right.length = t.length := by
  induction s generalizing t with
  | nil => simp [splitCommon]
  | cons v s ih =>
    have hsplit := congrArg List.length
      (List.takeWhile_append_dropWhile (p := fun w => (compare w v).isLT) (l := t))
    rw [List.length_append] at hsplit
    rw [splitCommon]
    split
    · rename_i h
      simp_all
    · rename_i w rest h
      rw [h, List.length_cons] at hsplit
      split
      · have := ih rest
        simp only [List.length_cons, List.length_append]
        omega
      · have := ih (w :: rest)
        simp only [List.length_cons, List.length_append] at this ⊢
        omega

end TrigramSieve
