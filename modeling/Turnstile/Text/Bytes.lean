/-!
# Byte positions in text

Places in a text are counted in bytes of its UTF-8 form.  `cut` splits a text at a byte
position; a position inside a character counts as the start of that character, and one
past the end as the end.
-/

set_option autoImplicit false

namespace Turnstile.Text

/-- The number of bytes of a text. -/
def bytes : List Char → Nat
  | [] => 0
  | c :: rest => c.utf8Size + bytes rest

@[simp] theorem bytes_append (first second : List Char) :
    bytes (first ++ second) = bytes first + bytes second := by
  induction first with
  | nil => simp [bytes]
  | cons c rest ih => rw [List.cons_append, bytes, bytes, ih, Nat.add_assoc]

/-- Split at a byte position. -/
def cut : List Char → Nat → List Char × List Char
  | [], _ => ([], [])
  | c :: rest, n =>
    if c.utf8Size ≤ n then
      let (before, after) := cut rest (n - c.utf8Size)
      (c :: before, after)
    else ([], c :: rest)

/-- Nothing is lost by cutting. -/
theorem cut_append (s : List Char) (n : Nat) : (cut s n).1 ++ (cut s n).2 = s := by
  induction s generalizing n with
  | nil => rfl
  | cons c rest ih =>
    unfold cut
    split
    · simp [ih]
    · rfl

/-- The part before the cut has at most as many bytes as the position. -/
theorem bytes_cut_le (s : List Char) (n : Nat) : bytes (cut s n).1 ≤ n := by
  induction s generalizing n with
  | nil => simp [cut, bytes]
  | cons c rest ih =>
    unfold cut
    split
    · have := ih (n - c.utf8Size)
      simp only [bytes] at this ⊢
      omega
    · simp [bytes]

end Turnstile.Text
