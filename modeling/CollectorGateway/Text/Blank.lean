/-!
White space between words, as Unicode counts it, and the text without it at
both ends.
-/

namespace CollectorGateway.Blank

def isBlank (c : Char) : Bool :=
  let n := c.toNat
  (9 ≤ n && n ≤ 13) || n == 0x20 || n == 0x85 || n == 0xA0 || n == 0x1680 ||
    (0x2000 ≤ n && n ≤ 0x200A) || n == 0x2028 || n == 0x2029 || n == 0x202F ||
    n == 0x205F || n == 0x3000

def trim (cs : List Char) : List Char :=
  ((cs.dropWhile isBlank).reverse.dropWhile isBlank).reverse

theorem dropWhile_isBlank {lead rest : List Char} (blank : ∀ c ∈ lead, isBlank c)
    (first : ∀ c ∈ rest.head?, ¬ isBlank c) : (lead ++ rest).dropWhile isBlank = rest := by
  rw [List.dropWhile_append_of_pos blank]
  cases rest with
  | nil => rfl
  | cons c rest =>
    have stop := first c rfl
    simp [stop]

theorem trim_around (lead trail : List Char) {cs : List Char} (front : ∀ c ∈ lead, isBlank c)
    (back : ∀ c ∈ trail, isBlank c) (some : cs ≠ []) (first : ∀ c ∈ cs.head?, ¬ isBlank c)
    (last : ∀ c ∈ cs.getLast?, ¬ isBlank c) : trim (lead ++ (cs ++ trail)) = cs := by
  rw [trim, dropWhile_isBlank front, List.reverse_append, dropWhile_isBlank, List.reverse_reverse]
  · simpa using back
  · simpa using last
  · obtain ⟨c, rest, rfl⟩ := List.exists_cons_of_ne_nil some
    exact first

end CollectorGateway.Blank
