/-!
A sequence cut at a separator. The parts, with the separator between them,
are the sequence.
-/

namespace CollectorGateway

def splitAtEach [DecidableEq α] (separator : α) (xs : List α) : List (List α) :=
  xs.foldr push [[]]
where
  /-- Puts an element before the first part, or a separator before all. -/
  push (x : α) (parts : List (List α)) : List (List α) :=
    if x = separator then [] :: parts
    else (x :: parts.headD []) :: parts.tail

theorem splitAtEach_cons [DecidableEq α] (separator x : α) (xs : List α) :
    splitAtEach separator (x :: xs) =
      if x = separator then [] :: splitAtEach separator xs
      else (x :: (splitAtEach separator xs).headD []) :: (splitAtEach separator xs).tail := rfl

theorem splitAtEach_of_free [DecidableEq α] {separator : α} {xs : List α}
    (free : separator ∉ xs) : splitAtEach separator xs = [xs] := by
  induction xs with
  | nil => rfl
  | cons x xs ih =>
    simp only [List.mem_cons, not_or] at free
    rw [splitAtEach_cons, if_neg (Ne.symm free.1), ih free.2]
    rfl

theorem splitAtEach_append [DecidableEq α] {separator : α} {part : List α}
    (free : separator ∉ part) (rest : List α) :
    splitAtEach separator (part ++ separator :: rest) = part :: splitAtEach separator rest := by
  induction part with
  | nil => rw [List.nil_append, splitAtEach_cons, if_pos rfl]
  | cons x part ih =>
    simp only [List.mem_cons, not_or] at free
    rw [List.cons_append, splitAtEach_cons, if_neg (Ne.symm free.1), ih free.2]
    rfl

/-- A sequence with a separator after each of some parts, and one more part. -/
theorem splitAtEach_parts [DecidableEq α] {separator : α} {parts : List (List α)} {last : List α}
    (free : ∀ part ∈ parts, separator ∉ part) (freeLast : separator ∉ last) :
    splitAtEach separator (parts.flatMap (· ++ [separator]) ++ last) = parts ++ [last] := by
  induction parts with
  | nil => exact splitAtEach_of_free freeLast
  | cons part parts ih =>
    rw [List.forall_mem_cons] at free
    rw [List.flatMap_cons, List.append_assoc, List.append_assoc, List.singleton_append,
      splitAtEach_append free.1, ih free.2, List.cons_append]

theorem exists_parts [DecidableEq α] (separator : α) (xs : List α) :
    ∃ (parts : List (List α)) (last : List α), (∀ part ∈ parts, separator ∉ part) ∧ separator ∉ last ∧
      xs = parts.flatMap (· ++ [separator]) ++ last := by
  induction xs with
  | nil => exact ⟨[], [], by simp, by simp, rfl⟩
  | cons x xs ih =>
    obtain ⟨parts, last, free, freeLast, rfl⟩ := ih
    by_cases same : x = separator
    · subst same
      exact ⟨[] :: parts, last, List.forall_mem_cons.2 ⟨List.not_mem_nil, free⟩, freeLast, rfl⟩
    -- Another element goes to the front of the first part.
    · cases parts with
      | nil => exact ⟨[], x :: last, by simp, by simp [Ne.symm same, freeLast], rfl⟩
      | cons part parts =>
        rw [List.forall_mem_cons] at free
        exact ⟨(x :: part) :: parts, last,
          List.forall_mem_cons.2 ⟨by simp [Ne.symm same, free.1], free.2⟩, freeLast, rfl⟩

end CollectorGateway
