import CollectorGateway.Wire.Stream

/-!
Frames in a stream do not depend on how the stream is cut. Every sequence of
octets is, in exactly one way, some complete frames followed by an unfinished
one, and `splitAll` finds them. A stream that is taken chunk by chunk, each
looked through as far as it goes, gives the frames of the whole stream and
keeps its unfinished end.
-/

namespace CollectorGateway.Frame

/-- Octets that break off inside a frame: in its header, or before the end that
the first two of them tell. -/
def IsUnfinished (bs : List UInt8) : Prop :=
  bs.length < Header.size ∨ bs.length < Header.size + LittleEndian.decode (bs.take 2)

instance (bs : List UInt8) : Decidable (IsUnfinished bs) := inferInstanceAs (Decidable (_ ∨ _))

theorem isUnfinished_nil : IsUnfinished [] := .inl (by simp [Header.size])

theorem split?_of_isUnfinished {bs : List UInt8} (h : IsUnfinished bs) : split? bs = none :=
  split?_eq_none_iff.2 h

theorem stream_induction {motive : List UInt8 → Prop}
    (unfinished : ∀ bs, IsUnfinished bs → motive bs)
    (frame : ∀ (f : Frame) rest, motive rest → motive (f.toOctets ++ rest)) (bs : List UInt8) :
    motive bs := by
  induction h : bs.length using Nat.strongRecOn generalizing bs with
  | _ n ih =>
    cases hs : split? bs with
    | none => exact unfinished bs (split?_eq_none_iff.1 hs)
    | some taken =>
      obtain ⟨f, rest⟩ := taken
      rw [toOctets_of_split? hs]
      exact frame f rest (ih _ (h ▸ length_of_split? hs) rest rfl)

theorem splitAll_of_isUnfinished {bs : List UInt8} (h : IsUnfinished bs) :
    splitAll bs = ([], bs) :=
  splitAll_of_none (split?_of_isUnfinished h)

theorem splitAll_toOctets_append (f : Frame) (rest : List UInt8) :
    splitAll (f.toOctets ++ rest) = (f :: (splitAll rest).1, (splitAll rest).2) :=
  splitAll_of_some (split?_toOctets f rest)

theorem octets_splitAll (bs : List UInt8) :
    (splitAll bs).1.flatMap toOctets ++ (splitAll bs).2 = bs := by
  induction bs using stream_induction with
  | unfinished bs h => simp [splitAll_of_isUnfinished h]
  | frame f rest ih => simp [splitAll_toOctets_append, List.append_assoc, ih]

theorem isUnfinished_splitAll (bs : List UInt8) : IsUnfinished (splitAll bs).2 := by
  induction bs using stream_induction with
  | unfinished bs h => rw [splitAll_of_isUnfinished h]; exact h
  | frame f rest ih => rw [splitAll_toOctets_append]; exact ih

theorem splitAll_frames_append (frames : List Frame) (rest : List UInt8) :
    splitAll (frames.flatMap toOctets ++ rest) =
      (frames ++ (splitAll rest).1, (splitAll rest).2) := by
  induction frames with
  | nil => rfl
  | cons f frames ih =>
    rw [List.flatMap_cons, List.append_assoc, splitAll_toOctets_append, ih]
    rfl

theorem splitAll_eq_iff {bs rest : List UInt8} {frames : List Frame} :
    splitAll bs = (frames, rest) ↔ bs = frames.flatMap toOctets ++ rest ∧ IsUnfinished rest := by
  constructor
  · intro h
    have hbs := octets_splitAll bs
    have hrest := isUnfinished_splitAll bs
    rw [h] at hbs hrest
    exact ⟨hbs.symm, hrest⟩
  · rintro ⟨rfl, hrest⟩
    rw [splitAll_frames_append, splitAll_of_isUnfinished hrest, List.append_nil]

theorem splitAll_append (a b : List UInt8) :
    splitAll (a ++ b) =
      ((splitAll a).1 ++ (splitAll ((splitAll a).2 ++ b)).1,
        (splitAll ((splitAll a).2 ++ b)).2) := by
  calc
    splitAll (a ++ b)
      = splitAll ((splitAll a).1.flatMap toOctets ++ ((splitAll a).2 ++ b)) := by
        rw [← List.append_assoc, octets_splitAll]
    _ = _ := splitAll_frames_append _ _

theorem decode_spec (buffer : List UInt8) :
    (∃ f rest, decode buffer = (.ok (some f), rest) ∧ buffer = f.toOctets ++ rest ∧
      rest.length < buffer.length) ∨
    (decode buffer = (.ok none, buffer) ∧ IsUnfinished buffer) := by
  cases h : split? buffer with
  | none => exact .inr ⟨decode_of_none h, split?_eq_none_iff.1 h⟩
  | some taken =>
    obtain ⟨f, rest⟩ := taken
    exact .inl ⟨f, rest, decode_of_some h, toOctets_of_split? h, length_of_split? h⟩

theorem decode_toOctets_append (f : Frame) (rest : List UInt8) :
    decode (f.toOctets ++ rest) = (.ok (some f), rest) :=
  decode_of_some (split?_toOctets f rest)

/-- Looking again and again until there is no frame: the frames, and what stays
buffered. -/
inductive Drains : List UInt8 → List Frame → List UInt8 → Prop
  | stop {buffer left} (h : decode buffer = (.ok none, left)) : Drains buffer [] left
  | next {buffer f rest frames left} (h : decode buffer = (.ok (some f), rest))
      (more : Drains rest frames left) : Drains buffer (f :: frames) left

theorem drains_splitAll (buffer : List UInt8) :
    Drains buffer (splitAll buffer).1 (splitAll buffer).2 := by
  induction buffer using stream_induction with
  | unfinished bs h =>
    rw [splitAll_of_isUnfinished h]
    exact .stop (decode_of_none (split?_of_isUnfinished h))
  | frame f rest ih =>
    rw [splitAll_toOctets_append]
    exact .next (decode_toOctets_append f rest) ih

theorem drains_iff {buffer left : List UInt8} {frames : List Frame} :
    Drains buffer frames left ↔ splitAll buffer = (frames, left) := by
  constructor
  · intro h
    induction h with
    | @stop buffer left h =>
      cases hs : split? buffer with
      | none =>
        rw [decode_of_none hs] at h
        obtain rfl : buffer = left := congrArg Prod.snd h
        exact splitAll_of_none hs
      | some taken => simp [decode_of_some hs] at h
    | next h _ ih => rw [splitAll_of_some (split?_of_decode h), ih]
  · intro h
    have := drains_splitAll buffer
    rwa [h] at this

/-- A stream that arrives in chunks: each is put behind what is buffered, which
is then drained. -/
inductive Feeds : List UInt8 → List (List UInt8) → List Frame → List UInt8 → Prop
  | done {buffer} : Feeds buffer [] [] buffer
  | chunk {buffer chunk frames rest chunks more left}
      (h : Drains (buffer ++ chunk) frames rest) (later : Feeds rest chunks more left) :
      Feeds buffer (chunk :: chunks) (frames ++ more) left

theorem feeds_iff {buffer left : List UInt8} {chunks : List (List UInt8)} {frames : List Frame}
    (h : IsUnfinished buffer) :
    Feeds buffer chunks frames left ↔ splitAll (buffer ++ chunks.flatten) = (frames, left) := by
  induction chunks generalizing buffer frames with
  | nil =>
    simp only [List.flatten_nil, List.append_nil, splitAll_of_isUnfinished h, Prod.mk.injEq]
    constructor
    · rintro ⟨⟩
      exact ⟨rfl, rfl⟩
    · rintro ⟨rfl, rfl⟩
      exact .done
  | cons chunk chunks ih =>
    have later := isUnfinished_splitAll (buffer ++ chunk)
    rw [List.flatten_cons, ← List.append_assoc, splitAll_append]
    constructor
    · rintro (_ | ⟨hd, hf⟩)
      have hd := drains_iff.1 hd
      rw [hd] at later ⊢
      rw [(ih later).1 hf]
    · intro hs
      simp only [Prod.mk.injEq] at hs
      obtain ⟨rfl, rfl⟩ := hs
      exact .chunk (drains_splitAll _) ((ih later).2 rfl)

/-- However a stream is cut into chunks, its frames and the unfinished rest are the same, in one
way only; no look fails, and each takes a frame or leaves the buffer alone. -/
theorem framing_of_chunks (chunks : List (List UInt8)) :
    (∀ frames left, Feeds [] chunks frames left ↔ splitAll chunks.flatten = (frames, left)) ∧
    (∀ buffer,
      (∃ f rest, decode buffer = (.ok (some f), rest) ∧ buffer = f.toOctets ++ rest ∧
        rest.length < buffer.length) ∨
      (decode buffer = (.ok none, buffer) ∧ IsUnfinished buffer)) ∧
    (∀ frames left, splitAll chunks.flatten = (frames, left) ↔
      chunks.flatten = frames.flatMap toOctets ++ left ∧ IsUnfinished left) :=
  ⟨fun _ _ => feeds_iff isUnfinished_nil, decode_spec, fun _ _ => splitAll_eq_iff⟩

end CollectorGateway.Frame
