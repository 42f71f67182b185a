/-! Words, their trigrams, and the two orders in which sets of words are kept.
Natural order reads a word from the left; suffix order reads it from the right, so that a word
sorts right after its own suffixes. Both are one comparison of keys. -/

namespace TrigramSieve

abbrev Word := List Char

/-- Width of a trigram, in characters. -/
def trigramWidth : Nat := 3

/-- Every window of three neighbouring characters, from left to right. -/
def windows : Word → List Word
  | a :: b :: c :: rest => [a, b, c] :: windows (b :: c :: rest)
  | _ => []

/-- The last `n` characters, or the whole word when it has no more than that. -/
def takeLast (n : Nat) (w : Word) : Word := w.drop (w.length - n)

inductive WordOrder where
  | natural
  | suffix
  deriving DecidableEq

namespace WordOrder

/-- The sequence that is compared from left to right. Taking the key twice gives the word back. -/
def key : WordOrder → Word → Word
  | natural, w => w
  | suffix, w => w.reverse

def compare (o : WordOrder) (v w : Word) : Ordering := Ord.compare (o.key v) (o.key w)

/-- The `n` characters that come first in the order's reading direction. -/
def cut (o : WordOrder) (n : Nat) (w : Word) : Word := o.key ((o.key w).take n)

/-- Reports whether `v` begins `w` in the order's reading direction. -/
def covers (o : WordOrder) (v w : Word) : Bool := (o.key v).isPrefixOf (o.key w)

theorem key_key (o : WordOrder) (w : Word) : o.key (o.key w) = w := by
  cases o <;> simp [key]

theorem compare_eq_eq {o : WordOrder} {v w : Word} : o.compare v w = .eq ↔ v = w := by
  rw [compare, Std.compare_eq_iff_eq]
  exact ⟨fun h => by simpa [key_key] using congrArg o.key h, fun h => h ▸ rfl⟩

end WordOrder

end TrigramSieve
