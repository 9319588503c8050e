import CollectorGateway.Json.Printer
import CollectorGateway.Json.Token
import Mathlib.Data.List.Basic

/-!
How tokens are spelled. A text that holds the spellings of some tokens, in order, with
blanks anywhere between them, is scanned as these tokens. A number or a name ends with
the first character that cannot continue it, so one of the two must not follow the other
without a blank; a text may hold anything, since what would end it is escaped. A power of
ten and a character of a text have several spellings, of which one is printed.
-/

namespace CollectorGateway

def IsDigits (cs : List Char) : Prop := cs ≠ [] ∧ ∀ c ∈ cs, c.isDigit

theorem isDigits_zero : IsDigits ['0'] := ⟨nofun, List.forall_mem_singleton.2 rfl⟩

namespace IsDigits

variable {cs : List Char}

theorem append_zeros (digits : IsDigits cs) (k : Nat) : IsDigits (cs ++ List.replicate k '0') := by
  refine ⟨fun none => digits.1 (List.append_eq_nil_iff.1 none).1, fun c listed => ?_⟩
  obtain here | zero := List.mem_append.1 listed
  · exact digits.2 c here
  · rw [List.eq_of_mem_replicate zero]
    rfl

theorem zeros_append (digits : IsDigits cs) (k : Nat) : IsDigits (List.replicate k '0' ++ cs) := by
  refine ⟨fun none => digits.1 (List.append_eq_nil_iff.1 none).2, fun c listed => ?_⟩
  obtain zero | here := List.mem_append.1 listed
  · rw [List.eq_of_mem_replicate zero]
    rfl
  · exact digits.2 c here

theorem take (digits : IsDigits cs) (k : Nat) : IsDigits (cs.take (k + 1)) := by
  refine ⟨fun none => ?_, fun c listed => digits.2 c (List.mem_of_mem_take listed)⟩
  exact (List.take_eq_nil_iff.1 none).elim (Nat.succ_ne_zero k) digits.1

theorem drop (digits : IsDigits cs) {k : Nat} (inside : k < cs.length) : IsDigits (cs.drop k) :=
  ⟨fun none => absurd (List.drop_eq_nil_iff.1 none) (Nat.not_le.2 inside),
    fun c listed => digits.2 c (List.mem_of_mem_drop listed)⟩

end IsDigits

namespace Numeral

structure IsProper (n : Numeral) : Prop where
  whole : IsDigits n.whole
  unpadded : n.whole.head? = some '0' → n.whole = ['0']
  fraction : ∀ ds ∈ n.fraction, IsDigits ds
  exponent : ∀ e ∈ n.exponent, IsDigits e.2

theorem splitDigits_append {ds : List Char} (rest : List Char) (digits : ∀ c ∈ ds, c.isDigit)
    (ends : ∀ c ∈ rest.head?, ¬ c.isDigit) : splitDigits (ds ++ rest) = (ds, rest) := by
  have none : rest.takeWhile Char.isDigit = [] ∧ rest.dropWhile Char.isDigit = rest := by
    cases rest with
    | nil => exact ⟨rfl, rfl⟩
    | cons c rest =>
      have stop := ends c rfl
      simp [stop]
  rw [splitDigits, List.takeWhile_append_of_pos digits, List.dropWhile_append_of_pos digits,
    none.1, none.2, List.append_nil]

theorem splitWhole?_append {ds rest : List Char} (digits : IsDigits ds)
    (unpadded : ds.head? = some '0' → ds = ['0']) (ends : ∀ c ∈ rest.head?, ¬ c.isDigit) :
    splitWhole? (ds ++ rest) = some (ds, rest) := by
  rw [splitWhole?, splitDigits_append _ digits.2 ends]
  split
  · rename_i empty
    exact absurd (Prod.mk.inj empty).1 digits.1
  · rename_i padded
    have shape := (Prod.mk.inj padded).1
    have single := unpadded (by rw [shape]; rfl)
    rw [shape] at single
    simp at single
  · rename_i same
    rw [← (Prod.mk.inj same).1, ← (Prod.mk.inj same).2]

def printFraction (n : Numeral) : List Char :=
  match n.fraction with
  | some digits => '.' :: digits
  | none => []

def printExponent (n : Numeral) : List Char :=
  match n.exponent with
  | some (negative, digits) => 'e' :: (if negative then '-' else '+') :: digits
  | none => []

theorem print_eq (n : Numeral) :
    n.print = (if n.negative then ['-'] else []) ++ n.whole ++ n.printFraction ++ n.printExponent :=
  rfl

inductive SpellsExponent : Option (Bool × List Char) → List Char → Prop
  | none : SpellsExponent none []
  | negative {mark : Char} (digits : List Char) (marks : mark = 'e' ∨ mark = 'E') :
    SpellsExponent (some (true, digits)) (mark :: '-' :: digits)
  | positive {mark : Char} (digits : List Char) (marks : mark = 'e' ∨ mark = 'E') :
    SpellsExponent (some (false, digits)) (mark :: '+' :: digits)
  | unsigned {mark : Char} (digits : List Char) (marks : mark = 'e' ∨ mark = 'E') :
    SpellsExponent (some (false, digits)) (mark :: digits)

/-- The texts that write a numeral: they differ in how they write its power of ten. -/
def SpelledBy (n : Numeral) (cs : List Char) : Prop :=
  ∃ exponent, SpellsExponent n.exponent exponent ∧
    cs = (if n.negative then ['-'] else []) ++ n.whole ++ n.printFraction ++ exponent

variable {n : Numeral}

theorem spelledBy_print (n : Numeral) : n.SpelledBy n.print := by
  refine ⟨n.printExponent, ?_, n.print_eq⟩
  rw [printExponent]
  split
  · rename_i negative digits given
    rw [given]
    cases negative
    · exact .positive digits (.inl rfl)
    · exact .negative digits (.inl rfl)
  · rename_i given
    rw [given]
    exact .none

section Reading

variable {e : Option (Bool × List Char)} {exponent : List Char}

theorem SpellsExponent.head (spelled : SpellsExponent e exponent) :
    ∀ c ∈ exponent.head?, c = 'e' ∨ c = 'E' := by
  cases spelled with
  | none => nofun
  | negative _ marks | positive _ marks | unsigned _ marks => simpa using marks

theorem splitExponentDigits?_of_isDigits {ds : List Char} (digits : IsDigits ds) (negative : Bool) :
    splitExponentDigits? negative ds = some (some (negative, ds), []) := by
  have all := splitDigits_append [] digits.2 (by simp)
  rw [List.append_nil] at all
  rw [splitExponentDigits?, all]
  split
  · rename_i empty
    exact absurd (Prod.mk.inj empty).1 digits.1
  · rename_i same
    rw [← (Prod.mk.inj same).1, ← (Prod.mk.inj same).2]

theorem splitExponent?_of_spells (spelled : SpellsExponent e exponent)
    (digits : ∀ d ∈ e, IsDigits d.2) : splitExponent? exponent = some (e, []) := by
  cases spelled with
  | none => rfl
  | negative ds marks =>
    rw [splitExponent?, if_pos marks, splitExponentDigits?_of_isDigits (digits _ rfl)]
  | positive ds marks =>
    rw [splitExponent?, if_pos marks, splitExponentDigits?_of_isDigits (digits _ rfl)]
  | unsigned ds marks =>
    have ok := digits _ rfl
    -- A digit is no sign.
    have unsigned : ∀ c rest, ds = c :: rest → c.isDigit := by
      rintro c rest rfl
      exact ok.2 c List.mem_cons_self
    rw [splitExponent?, if_pos marks, splitExponentDigits?_of_isDigits ok]
    · exact fun rest signed => absurd (unsigned _ _ signed) (by decide)
    · exact fun rest signed => absurd (unsigned _ _ signed) (by decide)

theorem splitFraction?_of_spells (proper : n.IsProper) (spelled : SpellsExponent e exponent) :
    splitFraction? (n.printFraction ++ exponent) = some (n.fraction, exponent) := by
  have marked := spelled.head
  have ends : ∀ c ∈ exponent.head?, ¬ c.isDigit := by
    intro c first
    obtain rfl | rfl := marked c first <;> decide
  rw [printFraction]
  split
  · rename_i digits given
    have ok := proper.fraction _ given
    rw [List.cons_append, splitFraction?, splitDigits_append _ ok.2 ends, given]
    split
    · rename_i empty
      exact absurd (Prod.mk.inj empty).1 ok.1
    · rename_i same
      rw [← (Prod.mk.inj same).1, ← (Prod.mk.inj same).2]
  · rename_i given
    rw [List.nil_append, given]
    cases exponent with
    | nil => rfl
    | cons c rest => obtain rfl | rfl := marked c rfl <;> rfl

theorem ofChars?_of_spelledBy (proper : n.IsProper) {cs : List Char} (spelled : n.SpelledBy cs) :
    ofChars? cs = some n := by
  obtain ⟨exponent, spelled, rfl⟩ := spelled
  have ends : ∀ c ∈ (n.printFraction ++ exponent).head?, ¬ c.isDigit := by
    intro c first
    have either : c = '.' ∨ c = 'e' ∨ c = 'E' := by
      rw [printFraction] at first
      split at first
      · exact .inl (by simpa using first.symm)
      · exact .inr (spelled.head c (by simpa using first))
    obtain rfl | rfl | rfl := either <;> decide
  have whole := splitWhole?_append proper.whole proper.unpadded ends
  have fraction := splitFraction?_of_spells proper spelled
  have power := splitExponent?_of_spells spelled proper.exponent
  have start : ∀ c ∈ (n.whole ++ (n.printFraction ++ exponent)).head?, c ≠ '-' := by
    obtain ⟨nonempty, digits⟩ := proper.whole
    obtain ⟨d, ds, shape⟩ := List.exists_cons_of_ne_nil nonempty
    rintro c first rfl
    rw [shape, List.cons_append, List.head?_cons, Option.mem_some_iff] at first
    subst first
    exact absurd (digits '-' (by simp [shape])) (by decide)
  have parts : ∀ negative, n.negative = negative →
      (⟨negative, n.whole, n.fraction, n.exponent⟩ : Numeral) = n := by
    rintro negative rfl
    rfl
  rw [List.append_assoc, List.append_assoc]
  cases sign : n.negative
  · rw [if_neg Bool.false_ne_true, List.nil_append, ofChars?]
    · simp [whole, fraction, power, parts false sign]
    · intro rest same
      exact start '-' (by rw [same]; rfl) rfl
  · rw [if_pos rfl, List.singleton_append, ofChars?]
    simp [whole, fraction, power, parts true sign]

end Reading

end Numeral

namespace TextUnit

def IsProper : TextUnit → Prop
  | .char _ => True
  | .half code => 0xD800 ≤ code ∧ code < 0xE000

/-- The texts that write a unit: a character may stand for itself, unless it would end the text
or begin an escape or controls the output, and any code may be written with digits of either
case. -/
inductive SpelledBy : TextUnit → List Char → Prop
  | plain {c : Char} (quote : c ≠ '"') (backslash : c ≠ '\\') (printable : ¬ c.toNat < 32) :
    SpelledBy (.char c) [c]
  | escaped {e c : Char} (stands : Json.Scan.escaped? e = some c) : SpelledBy (.char c) ['\\', e]
  | coded {a b c d : Char} {i j k l : Nat} (first : Hex.digitValue? a = some i)
    (second : Hex.digitValue? b = some j) (third : Hex.digitValue? c = some k)
    (fourth : Hex.digitValue? d = some l) :
    SpelledBy (Json.Scan.unitOfCode (((i * 16 + j) * 16 + k) * 16 + l)) ['\\', 'u', a, b, c, d]

theorem spelledBy_code {code : Nat} (small : code < 0x10000) :
    SpelledBy (Json.Scan.unitOfCode code) ('\\' :: 'u' :: Hex.padded 4 code) := by
  have digit : ∀ n, Hex.digitValue? (Hex.digit (n % 16)) = some (n % 16) :=
    fun n => Hex.digitValue?_digit (Nat.mod_lt n (by decide))
  have value : ((code / 16 / 16 / 16 % 16 * 16 + code / 16 / 16 % 16) * 16 +
      code / 16 % 16) * 16 + code % 16 = code := by omega
  have coded := SpelledBy.coded (digit (code / 16 / 16 / 16)) (digit (code / 16 / 16))
    (digit (code / 16)) (digit code)
  rw [value] at coded
  exact coded

theorem spelledBy_print {u : TextUnit} (proper : u.IsProper) : u.SpelledBy u.print := by
  cases u with
  | half code =>
    have same : Json.Scan.unitOfCode code = .half code := if_pos proper
    have coded := spelledBy_code (show code < 0x10000 from Nat.lt_trans proper.2 (by decide))
    rw [same] at coded
    exact coded
  | char c =>
    have ofCode : ∀ n, c.toNat = n → c = Char.ofNat n := by
      rintro n rfl
      rw [Char.ofNat_toNat]
    rw [print]
    split
    · subst_vars
      exact .escaped rfl
    split
    · subst_vars
      exact .escaped rfl
    split
    · rename_i code
      exact .escaped (by rw [ofCode 8 code]; rfl)
    split
    · subst_vars
      exact .escaped rfl
    split
    · subst_vars
      exact .escaped rfl
    split
    · rename_i code
      exact .escaped (by rw [ofCode 12 code]; rfl)
    split
    · subst_vars
      exact .escaped rfl
    split
    · rename_i control
      have same : Json.Scan.unitOfCode c.toNat = .char c := by
        rw [Json.Scan.unitOfCode, if_neg (by omega), Char.ofNat_toNat]
      have coded := spelledBy_code (show c.toNat < 0x10000 by omega)
      rw [same] at coded
      exact coded
    · rename_i quote backslash _ _ _ _ _ printable
      exact .plain quote backslash printable

inductive Spells : List TextUnit → List Char → Prop
  | nil : Spells [] []
  | cons {u : TextUnit} {us : List TextUnit} {piece cs : List Char} (first : u.SpelledBy piece)
    (rest : Spells us cs) : Spells (u :: us) (piece ++ cs)

theorem spells_print {us : List TextUnit} (proper : ∀ u ∈ us, u.IsProper) :
    Spells us (us.flatMap print) := by
  induction us with
  | nil => exact .nil
  | cons u us ih =>
    rw [List.forall_mem_cons] at proper
    exact .cons (spelledBy_print proper.1) (ih proper.2)

end TextUnit

namespace Json

namespace Scan

variable (done : List Token) (units : List TextUnit)

theorem step_code {c : Char} {d : Nat} (digit : Hex.digitValue? c = some d) (places value : Nat) :
    step ⟨done, .code units places value⟩ c =
      if places = 3 then some ⟨done, .text (unitOfCode (value * 16 + d) :: units)⟩
      else some ⟨done, .code units (places + 1) (value * 16 + d)⟩ := by
  simp only [step, digit, Option.bind_eq_bind, Option.bind_some]

theorem foldlM_unit {u : TextUnit} {piece : List Char} (spelled : u.SpelledBy piece) :
    piece.foldlM step ⟨done, .text units⟩ = some ⟨done, .text (u :: units)⟩ := by
  cases spelled with
  | plain quote backslash printable => simp [step, quote, backslash, printable]
  | @escaped e c stands =>
    -- The escapes of one character are others than that of a code.
    have other : e ≠ 'u' := by
      rintro rfl
      have none : escaped? 'u' = none := rfl
      simp [none] at stands
    simp [step, other, stands]
  | coded first second third fourth =>
    have opened : step ⟨done, .text units⟩ '\\' = some ⟨done, .escape units⟩ := rfl
    have code : step ⟨done, .escape units⟩ 'u' = some ⟨done, .code units 0 0⟩ := rfl
    simp [opened, code, step_code done units first, step_code done units second,
      step_code done units third, step_code done units fourth]

theorem foldlM_units {us : List TextUnit} {cs : List Char} (spelled : TextUnit.Spells us cs) :
    cs.foldlM step ⟨done, .text units⟩ = some ⟨done, .text (us.reverse ++ units)⟩ := by
  induction spelled generalizing units with
  | nil => rfl
  | cons first rest ih =>
    rw [List.foldlM_append, foldlM_unit _ _ first, List.reverse_cons, List.append_assoc]
    exact ih _

theorem foldlM_text {us : List TextUnit} {cs : List Char} (spelled : TextUnit.Spells us cs) :
    ('"' :: cs ++ ['"']).foldlM step ⟨done, .nothing⟩ = some ⟨.text us :: done, .nothing⟩ := by
  have opened : step ⟨done, .nothing⟩ '"' = some ⟨done, .text []⟩ := rfl
  have closed : step ⟨done, .text us.reverse⟩ '"' = some ⟨.text us :: done, .nothing⟩ := by
    simp [step, emit]
  have between := foldlM_units done [] spelled
  rw [List.append_nil] at between
  rw [List.cons_append, List.foldlM_cons, opened]
  simp only [Option.bind_eq_bind, Option.bind_some, List.foldlM_append, between, List.foldlM_cons,
    closed, List.foldlM_nil]
  rfl

end Scan

def Token.print : Token → List Char
  | openArray => ['[']
  | closeArray => [']']
  | openObject => ['\x7b']
  | closeObject => ['\x7d']
  | comma => [',']
  | colon => [':']
  | null => Json.null.print
  | bool b => (Json.bool b).print
  | number n => n.print
  | text units => printText units

def Token.IsProper : Token → Prop
  | number n => n.IsProper
  | text units => ∀ u ∈ units, u.IsProper
  | _ => True

def Token.SpelledBy : Token → List Char → Prop
  | number n, cs => n.IsProper ∧ n.SpelledBy cs
  | text units, cs => ∃ inner, TextUnit.Spells units inner ∧ cs = '"' :: inner ++ ['"']
  | t, cs => cs = t.print

theorem Token.spelledBy_print {t : Token} (proper : t.IsProper) : t.SpelledBy t.print := by
  cases t with
  | number n => exact ⟨proper, n.spelledBy_print⟩
  | text units => exact ⟨_, TextUnit.spells_print proper, rfl⟩
  | _ => rfl

def Token.isWord : Token → Bool
  | null | bool _ | number _ => true
  | _ => false

/-- A text that does not continue a number or a name. -/
def Ends (cs : List Char) : Prop := ∀ c ∈ cs.head?, ¬ c.isLower ∧ ¬ Scan.continuesNumeral c

def isBlank (c : Char) : Bool := c == ' ' || c == '\n' || c == '\t' || c == '\r'

/-- A text spells tokens in order, with blanks between them. -/
inductive Spells : List Token → List Char → Prop
  | nil : Spells [] []
  | blank {c : Char} {ts : List Token} {cs : List Char} (blank : isBlank c) (rest : Spells ts cs) :
    Spells ts (c :: cs)
  | token {t : Token} {ts : List Token} {piece cs : List Char} (spelled : t.SpelledBy piece)
    (apart : t.isWord → Ends cs) (rest : Spells ts cs) : Spells (t :: ts) (piece ++ cs)

namespace Scan

variable (done : List Token)

def isWord (s : Scan) : Bool :=
  match s.reading with
  | .name _ | .numeral _ => true
  | _ => false

theorem step_of_settle {s : Scan} {ts : List Token} (word : s.isWord)
    (settled : s.settle = some ⟨ts, .nothing⟩) {c : Char} (lower : ¬ c.isLower)
    (numeral : ¬ continuesNumeral c) : s.step c = step ⟨ts, .nothing⟩ c := by
  obtain ⟨tokens, reading⟩ := s
  cases reading with
  | name letters => simp [step, lower, settled]
  | numeral chars => simp [step, numeral, settled]
  | _ => simp [isWord] at word

theorem scan_of_ends {s : Scan} {ts : List Token} (word : s.isWord)
    (settled : s.settle = some ⟨ts, .nothing⟩) {cs : List Char} (ends : Ends cs) :
    (cs.foldlM step s).bind settle = (cs.foldlM step ⟨ts, .nothing⟩).bind settle := by
  cases cs with
  | nil => exact settled
  | cons c cs =>
    obtain ⟨lower, numeral⟩ := ends c rfl
    rw [List.foldlM_cons, List.foldlM_cons, step_of_settle word settled lower numeral]

theorem foldlM_numeral {cs chars : List Char} (continues : ∀ c ∈ cs, continuesNumeral c) :
    cs.foldlM step ⟨done, .numeral chars⟩ = some ⟨done, .numeral (cs.reverse ++ chars)⟩ := by
  induction cs generalizing chars with
  | nil => rfl
  | cons c cs ih =>
    rw [List.forall_mem_cons] at continues
    have first : step ⟨done, .numeral chars⟩ c = some ⟨done, .numeral (c :: chars)⟩ := by
      simp [step, continues.1]
    rw [List.foldlM_cons, first, List.reverse_cons, List.append_assoc]
    exact ih continues.2

theorem step_numeral {c : Char} (starts : c = '-' ∨ c.isDigit) :
    step ⟨done, .nothing⟩ c = some ⟨done, .numeral [c]⟩ := by
  obtain rfl | digit := starts
  · rfl
  · have other : ∀ p : Char, p.isDigit = false → c ≠ p := by
      rintro p none rfl
      simp [none] at digit
    simp [step, fresh, digit, other ' ' rfl, other '\n' rfl, other '\t' rfl, other '\r' rfl,
      other '[' rfl, other ']' rfl, other '\x7b' rfl, other '\x7d' rfl, other ',' rfl,
      other ':' rfl, other '"' rfl]

theorem step_blank {c : Char} (blank : isBlank c) :
    step ⟨done, .nothing⟩ c = some ⟨done, .nothing⟩ := by
  simp only [isBlank, Bool.or_eq_true, beq_iff_eq] at blank
  obtain ((rfl | rfl) | rfl) | rfl := blank <;> rfl

theorem continuesNumeral_of_isDigit {c : Char} (digit : c.isDigit) : continuesNumeral c := by
  simp [continuesNumeral, digit]

theorem continuesNumeral_of_spelledBy {n : Numeral} (proper : n.IsProper) {cs : List Char}
    (spelled : n.SpelledBy cs) : ∀ c ∈ cs, continuesNumeral c := by
  obtain ⟨exponent, spelled, rfl⟩ := spelled
  simp only [List.mem_append]
  rintro c (((sign | whole) | fraction) | power)
  · have : c = '-' := by
      split at sign <;> simp_all
    subst this
    rfl
  · exact continuesNumeral_of_isDigit (proper.whole.2 c whole)
  · rw [Numeral.printFraction] at fraction
    split at fraction
    · rename_i given
      obtain rfl | digit := List.mem_cons.1 fraction
      · rfl
      · exact continuesNumeral_of_isDigit ((proper.fraction _ given).2 c digit)
    · simp at fraction
  · have marked := spelled.head
    have digits := proper.exponent
    generalize n.exponent = e at spelled digits
    cases spelled with
    | none => simp at power
    | negative ds marks | positive ds marks =>
      obtain rfl | power := List.mem_cons.1 power
      · obtain rfl | rfl := marks <;> rfl
      obtain rfl | digit := List.mem_cons.1 power
      · rfl
      · exact continuesNumeral_of_isDigit ((digits _ rfl).2 c digit)
    | unsigned ds marks =>
      obtain rfl | digit := List.mem_cons.1 power
      · obtain rfl | rfl := marks <;> rfl
      · exact continuesNumeral_of_isDigit ((digits _ rfl).2 c digit)

theorem continuesNumeral_print {n : Numeral} (proper : n.IsProper) :
    ∀ c ∈ n.print, continuesNumeral c :=
  continuesNumeral_of_spelledBy proper n.spelledBy_print

theorem exists_of_spelledBy {n : Numeral} (proper : n.IsProper) {cs : List Char}
    (spelled : n.SpelledBy cs) : ∃ c rest, cs = c :: rest ∧ (c = '-' ∨ c.isDigit) := by
  obtain ⟨exponent, -, rfl⟩ := spelled
  cases n.negative
  · obtain ⟨d, ds, shape⟩ := List.exists_cons_of_ne_nil proper.whole.1
    exact ⟨d, ds ++ (n.printFraction ++ exponent), by simp [shape],
      .inr (proper.whole.2 d (by simp [shape]))⟩
  · exact ⟨'-', n.whole ++ (n.printFraction ++ exponent), by simp, .inl rfl⟩

theorem foldlM_word {t : Token} (word : t.isWord) {piece : List Char} (spelled : t.SpelledBy piece) :
    ∃ s, piece.foldlM step ⟨done, .nothing⟩ = some s ∧ s.isWord ∧
      s.settle = some ⟨t :: done, .nothing⟩ := by
  cases t with
  | null =>
    obtain rfl : piece = _ := spelled
    exact ⟨⟨done, .name ['l', 'l', 'u', 'n']⟩, rfl, rfl, rfl⟩
  | bool b =>
    obtain rfl : piece = _ := spelled
    cases b
    · exact ⟨⟨done, .name ['e', 's', 'l', 'a', 'f']⟩, rfl, rfl, rfl⟩
    · exact ⟨⟨done, .name ['e', 'u', 'r', 't']⟩, rfl, rfl, rfl⟩
  | number n =>
    obtain ⟨proper, spelled⟩ := spelled
    have continues := continuesNumeral_of_spelledBy proper spelled
    have read := Numeral.ofChars?_of_spelledBy proper spelled
    obtain ⟨c, cs, rfl, starts⟩ := exists_of_spelledBy proper spelled
    rw [List.forall_mem_cons] at continues
    refine ⟨⟨done, .numeral (cs.reverse ++ [c])⟩, ?_, rfl, ?_⟩
    · rw [List.foldlM_cons, step_numeral _ starts]
      exact foldlM_numeral _ continues.2
    · simp [settle, read, emit]
  | _ => simp [Token.isWord] at word

theorem foldlM_mark {t : Token} (mark : ¬ t.isWord) {piece : List Char}
    (spelled : t.SpelledBy piece) :
    piece.foldlM step ⟨done, .nothing⟩ = some ⟨t :: done, .nothing⟩ := by
  cases t with
  | text units =>
    obtain ⟨inner, spelled, rfl⟩ := spelled
    exact foldlM_text _ spelled
  | null | bool _ | number _ => simp [Token.isWord] at mark
  | _ =>
    obtain rfl : piece = _ := spelled
    rfl

theorem scan_of_spells {ts : List Token} {cs : List Char} (spells : Spells ts cs) :
    (cs.foldlM step ⟨done, .nothing⟩).bind settle = some ⟨ts.reverse ++ done, .nothing⟩ := by
  induction spells generalizing done with
  | nil => rfl
  | @blank c ts cs blank rest ih =>
    rw [List.foldlM_cons, step_blank _ blank]
    exact ih _
  | @token t ts piece cs spelled apart rest ih =>
    rw [List.foldlM_append, List.reverse_cons, List.append_assoc]
    by_cases word : t.isWord
    · obtain ⟨s, scanned, isWord, settled⟩ := foldlM_word done word spelled
      rw [scanned]
      exact (scan_of_ends isWord settled (apart word)).trans (ih _)
    · rw [foldlM_mark _ word spelled]
      exact ih _

end Scan

theorem tokens?_of_spells {ts : List Token} {cs : List Char} (spells : Spells ts cs) :
    tokens? cs = some ts := by
  have scanned := Scan.scan_of_spells [] spells
  obtain ⟨s, folded, settled⟩ := Option.bind_eq_some_iff.1 scanned
  have start : cs.foldlM Scan.step Scan.start = some s := folded
  simp [tokens?, start, settled]

end Json

end CollectorGateway
