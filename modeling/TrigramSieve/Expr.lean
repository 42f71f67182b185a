import TrigramSieve.CharSet
import TrigramSieve.Word

/-! Regular expressions in normal form. The constructors here simplify as they build: classes of one
character become literals, sequences and alternatives are flat, and a common beginning of all
alternatives is written once. -/

namespace TrigramSieve

/-- Whether a class was written as one of characters or as one of bytes. Its members are characters in
either case, and a class of bytes has ASCII members only. -/
inductive Alphabet where
  | characters
  | bytes
  deriving DecidableEq

inductive WordLook where
  | boundary
  | notBoundary
  | start
  | stop
  | startHalf
  | stopHalf
  deriving DecidableEq

/-- Conditions on the place between two characters. Lines end with a line feed, or with any of carriage
return and line feed; the characters of words are those of ASCII or of Unicode. -/
inductive Look where
  | startText
  | endText
  | startLine (crlf : Bool)
  | endLine (crlf : Bool)
  | word (kind : WordLook) (unicode : Bool)
  deriving DecidableEq

inductive Expr where
  | empty
  | literal (word : Word)
  | charClass (alphabet : Alphabet) (set : CharSet)
  | look (look : Look)
  | repetition (min : Nat) (max : Option Nat) (greedy : Bool) (sub : Expr)
  | capture (index : Nat) (name : Option Word) (sub : Expr)
  | concat (subs : List Expr)
  | alternation (subs : List Expr)

namespace Expr

instance : Inhabited Expr := ⟨empty⟩

/-! Equality -/

mutual

def same : Expr → Expr → Bool
  | empty, empty => true
  | literal v, literal w => v = w
  | charClass a s, charClass b t => a = b && s = t
  | look k, look l => k = l
  | repetition m n g d, repetition m' n' g' e => m = m' && n = n' && g = g' && same d e
  | capture i n d, capture j n' e => i = j && n = n' && same d e
  | concat ds, concat es => sameAll ds es
  | alternation ds, alternation es => sameAll ds es
  | _, _ => false

def sameAll : List Expr → List Expr → Bool
  | [], [] => true
  | d :: ds, e :: es => same d e && sameAll ds es
  | _, _ => false

end

mutual

theorem same_iff : (d e : Expr) → (same d e = true ↔ d = e)
  | empty, e => by cases e <;> simp [same]
  | literal _, e => by cases e <;> simp [same]
  | charClass _ _, e => by cases e <;> simp [same]
  | look _, e => by cases e <;> simp [same]
  | repetition _ _ _ d, e => by cases e <;> simp [same, same_iff d, and_assoc]
  | capture _ _ d, e => by cases e <;> simp [same, same_iff d, and_assoc]
  | concat ds, e => by cases e <;> simp [same, sameAll_iff ds]
  | alternation ds, e => by cases e <;> simp [same, sameAll_iff ds]

theorem sameAll_iff : (ds es : List Expr) → (sameAll ds es = true ↔ ds = es)
  | [], es => by cases es <;> simp [sameAll]
  | _ :: _, [] => by simp [sameAll]
  | d :: ds, e :: es => by simp [sameAll, same_iff d e, sameAll_iff ds es]

end

instance : DecidableEq Expr := fun d e => decidable_of_iff _ (same_iff d e)

end Expr

end TrigramSieve
