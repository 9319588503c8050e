import CollectorGateway.Json.Parser
import CollectorGateway.Proofs.Json.Spelling

/-!
Every tree is read back from its texts. The builder makes of the tokens of a tree, wherever
it expects a value, this tree, so that each text that spells them writes it; and the text
of a tree, if it can be written, is one of these.
-/

namespace CollectorGateway

namespace Json

inductive IsProper : Json → Prop
  | null : IsProper null
  | bool (b : Bool) : IsProper (bool b)
  | number {n : Numeral} (proper : n.IsProper) : IsProper (number n)
  | text {units : List TextUnit} (proper : ∀ u ∈ units, u.IsProper) : IsProper (text units)
  | array {items : List Json} (proper : ∀ j ∈ items, IsProper j) : IsProper (array items)
  | object {members : List (List TextUnit × Json)} (keys : ∀ m ∈ members, ∀ u ∈ m.1, u.IsProper)
    (values : ∀ m ∈ members, IsProper m.2) : IsProper (object members)

mutual

def tokens : Json → List Token
  | null => [.null]
  | bool b => [.bool b]
  | number n => [.number n]
  | text units => [.text units]
  | array items => .openArray :: itemTokens items ++ [.closeArray]
  | object members => .openObject :: memberTokens members ++ [.closeObject]

def itemTokens : List Json → List Token
  | [] => []
  | [j] => tokens j
  | j :: rest => tokens j ++ .comma :: itemTokens rest

def memberTokens : List (List TextUnit × Json) → List Token
  | [] => []
  | [(key, value)] => .text key :: .colon :: tokens value
  | (key, value) :: rest => .text key :: .colon :: tokens value ++ .comma :: memberTokens rest

end

theorem itemTokens_cons_cons (j k : Json) (items : List Json) :
    itemTokens (j :: k :: items) = tokens j ++ .comma :: itemTokens (k :: items) := by
  rw [itemTokens]
  nofun

theorem memberTokens_cons_cons (key : List TextUnit) (value : Json) (m : List TextUnit × Json)
    (members : List (List TextUnit × Json)) :
    memberTokens ((key, value) :: m :: members) =
      .text key :: .colon :: tokens value ++ .comma :: memberTokens (m :: members) := by
  rw [memberTokens]
  nofun

theorem spells_mark {t : Token} {ts : List Token} {c : Char} {cs : List Char} (spelled : t.print = [c])
    (proper : t.IsProper) (mark : t.isWord = false) (rest : Spells ts cs) :
    Spells (t :: ts) (c :: cs) := by
  have whole := Spells.token (Token.spelledBy_print proper) (by simp [mark]) rest
  rwa [spelled] at whole

theorem spells_text {key : List TextUnit} (proper : ∀ u ∈ key, u.IsProper) {ts : List Token}
    {cs : List Char} (rest : Spells ts cs) : Spells (.text key :: ts) (printText key ++ cs) :=
  Spells.token (t := .text key) (Token.spelledBy_print proper) (by simp [Token.isWord]) rest

theorem ends_of_mark {c : Char} {cs : List Char} (lower : c.isLower = false)
    (numeral : Scan.continuesNumeral c = false) : Ends (c :: cs) := by
  simp [Ends, lower, numeral]

section Spelling

/-- The text of a tree spells its tokens, whatever follows. -/
def IsSpelled (j : Json) : Prop :=
  ∀ ts cs, Spells ts cs → Ends cs → Spells (j.tokens ++ ts) (j.print ++ cs)

theorem spells_printItems {items : List Json} (spelled : ∀ j ∈ items, j.IsSpelled) {ts : List Token}
    {cs : List Char} (rest : Spells ts cs) (ends : Ends cs) :
    Spells (itemTokens items ++ ts) (printItems items ++ cs) := by
  induction items with
  | nil => simpa [itemTokens, printItems] using rest
  | cons j items ih =>
    rw [List.forall_mem_cons] at spelled
    cases items with
    | nil => simpa [itemTokens, printItems] using spelled.1 ts cs rest ends
    | cons k items =>
      have next := spells_mark (t := .comma) rfl trivial rfl (ih spelled.2)
      simpa [itemTokens, printItems] using spelled.1 _ _ next (ends_of_mark rfl rfl)

theorem spells_printMembers {members : List (List TextUnit × Json)}
    (keys : ∀ m ∈ members, ∀ u ∈ m.1, u.IsProper) (spelled : ∀ m ∈ members, m.2.IsSpelled)
    {ts : List Token} {cs : List Char} (rest : Spells ts cs) (ends : Ends cs) :
    Spells (memberTokens members ++ ts) (printMembers members ++ cs) := by
  induction members with
  | nil => simpa [memberTokens, printMembers] using rest
  | cons m members ih =>
    obtain ⟨key, value⟩ := m
    rw [List.forall_mem_cons] at keys spelled
    have colon : ∀ {ts cs}, Spells ts cs → Spells (.text key :: .colon :: ts) (printText key ++ ':' :: cs) :=
      fun rest => spells_text keys.1 (spells_mark rfl trivial rfl rest)
    cases members with
    | nil => simpa [memberTokens, printMembers] using colon (spelled.1 ts cs rest ends)
    | cons k members =>
      have next := spells_mark (t := .comma) rfl trivial rfl (ih keys.2 spelled.2)
      simpa [memberTokens, printMembers] using colon (spelled.1 _ _ next (ends_of_mark rfl rfl))

theorem isSpelled_of_isProper {j : Json} (proper : j.IsProper) : j.IsSpelled := by
  have word : ∀ {t : Token} {ts cs}, t.IsProper → Spells ts cs → Ends cs →
      Spells (t :: ts) (t.print ++ cs) := fun proper rest ends =>
    .token (Token.spelledBy_print proper) (fun _ => ends) rest
  intro ts cs rest ends
  induction proper generalizing ts cs with
  | null => exact word (t := .null) trivial rest ends
  | bool b => exact word (t := .bool b) trivial rest ends
  | @number n proper =>
    have := word (t := .number n) proper rest ends
    simpa [tokens, print, Token.print] using this
  | @text units proper =>
    have := spells_text proper rest
    simpa [tokens, print] using this
  | @array items proper ih =>
    have closed := spells_mark (t := .closeArray) rfl trivial rfl rest
    have inside := spells_printItems ih closed (ends_of_mark rfl rfl)
    have opened := spells_mark (t := .openArray) rfl trivial rfl inside
    simpa [tokens, print] using opened
  | @object members keys values ih =>
    have closed := spells_mark (t := .closeObject) rfl trivial rfl rest
    have inside := spells_printMembers keys ih closed (ends_of_mark rfl rfl)
    have opened := spells_mark (t := .openObject) rfl trivial rfl inside
    simpa [tokens, print] using opened

end Spelling

section Building

/-- Wherever a value is expected, the tokens of a tree build the tree. -/
def IsBuilt (j : Json) : Prop :=
  ∀ stack, j.tokens.foldlM Build.step ⟨stack, .value, none⟩ = Build.supply stack j

theorem foldlM_itemTokens {items : List Json} (built : ∀ j ∈ items, j.IsBuilt) (some : items ≠ [])
    (done : List Json) (stack : List Open) :
    (itemTokens items).foldlM Build.step ⟨.array done :: stack, .value, none⟩ =
      Option.some ⟨.array (items.reverse ++ done) :: stack, .commaOrClose, none⟩ := by
  induction items generalizing done with
  | nil => exact absurd rfl some
  | cons j items ih =>
    rw [List.forall_mem_cons] at built
    cases items with
    | nil =>
      rw [itemTokens]
      exact built.1 _
    | cons k items =>
      have rest := ih built.2 (List.cons_ne_nil k items) (j :: done)
      rw [itemTokens_cons_cons, List.foldlM_append, built.1, List.reverse_cons, List.append_assoc]
      exact rest

theorem foldlM_memberTokens {members : List (List TextUnit × Json)}
    (built : ∀ m ∈ members, m.2.IsBuilt) (some : members ≠ [])
    (done : List (List TextUnit × Json)) (stack : List Open) :
    (memberTokens members).foldlM Build.step ⟨.object done :: stack, .key, none⟩ =
      Option.some ⟨.object (members.reverse ++ done) :: stack, .commaOrClose, none⟩ := by
  induction members generalizing done with
  | nil => exact absurd rfl some
  | cons m members ih =>
    obtain ⟨key, value⟩ := m
    rw [List.forall_mem_cons] at built
    cases members with
    | nil =>
      rw [memberTokens]
      exact built.1 (.member done key :: stack)
    | cons k members =>
      have rest := ih built.2 (List.cons_ne_nil k members) ((key, value) :: done)
      have first : (.text key :: .colon :: tokens value).foldlM Build.step
          ⟨.object done :: stack, .key, none⟩ =
            Option.some ⟨.object ((key, value) :: done) :: stack, .commaOrClose, none⟩ :=
        built.1 (.member done key :: stack)
      rw [memberTokens_cons_cons, List.foldlM_append, first, List.reverse_cons, List.append_assoc]
      exact rest

theorem exists_tokens (j : Json) : ∃ t ts, j.tokens = t :: ts ∧ t ≠ .closeArray := by
  cases j with
  | array items => exact ⟨.openArray, itemTokens items ++ [.closeArray], rfl, nofun⟩
  | object members => exact ⟨.openObject, memberTokens members ++ [.closeObject], rfl, nofun⟩
  | _ => exact ⟨_, [], rfl, nofun⟩

theorem foldlM_itemOrClose {items : List Json} (some : items ≠ []) (stack : List Open) :
    (itemTokens items).foldlM Build.step ⟨stack, .itemOrClose, none⟩ =
      (itemTokens items).foldlM Build.step ⟨stack, .value, none⟩ := by
  obtain ⟨j, rest, rfl⟩ := List.exists_cons_of_ne_nil some
  obtain ⟨t, ts, shape, notClose⟩ : ∃ t ts, itemTokens (j :: rest) = t :: ts ∧ t ≠ .closeArray := by
    obtain ⟨t, ts, shape, notClose⟩ := exists_tokens j
    cases rest with
    | nil => exact ⟨t, ts, by rw [itemTokens, shape], notClose⟩
    | cons k rest => exact ⟨t, _, by rw [itemTokens_cons_cons, shape, List.cons_append], notClose⟩
  have same : Build.step ⟨stack, .itemOrClose, none⟩ t = Build.step ⟨stack, .value, none⟩ t :=
    if_neg notClose
  rw [shape, List.foldlM_cons, List.foldlM_cons, same]

theorem foldlM_keyOrClose {members : List (List TextUnit × Json)} (some : members ≠ [])
    (stack : List Open) :
    (memberTokens members).foldlM Build.step ⟨stack, .keyOrClose, none⟩ =
      (memberTokens members).foldlM Build.step ⟨stack, .key, none⟩ := by
  obtain ⟨⟨key, value⟩, rest, rfl⟩ := List.exists_cons_of_ne_nil some
  cases rest with
  | nil => rfl
  | cons m rest =>
    rw [memberTokens_cons_cons, List.cons_append, List.foldlM_cons, List.foldlM_cons]
    rfl

theorem isBuilt_array {items : List Json} (built : ∀ j ∈ items, j.IsBuilt) : (array items).IsBuilt := by
  intro stack
  by_cases empty : items = []
  · subst empty
    exact bind_pure (Build.supply stack (.array []))
  rw [tokens, List.cons_append, List.foldlM_cons]
  have inside := foldlM_itemTokens built empty [] stack
  rw [← foldlM_itemOrClose empty, List.append_nil] at inside
  have opened : Build.step ⟨stack, .value, none⟩ .openArray =
    Option.some ⟨.array [] :: stack, .itemOrClose, none⟩ := rfl
  have closed : Build.step ⟨.array items.reverse :: stack, .commaOrClose, none⟩ .closeArray =
      Build.supply stack (.array items) := by
    simp [Build.step, Build.close]
  simp [opened, inside, closed]

theorem isBuilt_object {members : List (List TextUnit × Json)}
    (built : ∀ m ∈ members, m.2.IsBuilt) : (object members).IsBuilt := by
  intro stack
  by_cases empty : members = []
  · subst empty
    exact bind_pure (Build.supply stack (.object []))
  rw [tokens, List.cons_append, List.foldlM_cons]
  have inside := foldlM_memberTokens built empty [] stack
  rw [← foldlM_keyOrClose empty, List.append_nil] at inside
  have opened : Build.step ⟨stack, .value, none⟩ .openObject =
    Option.some ⟨.object [] :: stack, .keyOrClose, none⟩ := rfl
  have closed : Build.step ⟨.object members.reverse :: stack, .commaOrClose, none⟩ .closeObject =
      Build.supply stack (.object members) := by
    simp [Build.step, Build.close]
  simp [opened, inside, closed]

theorem isBuilt : ∀ j : Json, j.IsBuilt
  | array items => isBuilt_array fun j _ => isBuilt j
  | object members => isBuilt_object fun m _ => isBuilt m.2
  | null | bool _ | number _ | text _ => fun _ => bind_pure _
termination_by j => sizeOf j
decreasing_by
  all_goals simp_wf
  · have := List.sizeOf_lt_of_mem ‹j ∈ items›
    omega
  · have := List.sizeOf_lt_of_mem ‹m ∈ members›
    have : sizeOf m = 1 + sizeOf m.1 + sizeOf m.2 := rfl
    omega

end Building

theorem parse?_of_spells {j : Json} {cs : List Char} (spells : Spells j.tokens cs) :
    parse? cs = some j := by
  have built : j.tokens.foldlM Build.step Build.start = some ⟨[], .nothing, some j⟩ := isBuilt j []
  simp [parse?, tokens?_of_spells spells, ofTokens?, built]

theorem spells_print {j : Json} (proper : j.IsProper) : Spells j.tokens j.print := by
  have spelled := isSpelled_of_isProper proper [] [] .nil (by simp [Ends])
  rwa [List.append_nil, List.append_nil] at spelled

theorem parse?_print {j : Json} (proper : j.IsProper) : parse? j.print = some j :=
  parse?_of_spells (spells_print proper)

end Json

end CollectorGateway
