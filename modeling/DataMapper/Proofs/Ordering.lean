import DataMapper.Proofs.DriverBinding
import DataMapper.Proofs.GeneratedKeys

namespace DataMapper.Sql

/-- A piece of a statement as the scan for `ORDER BY` reads it. -/
inductive Lexeme
  /-- A literal (`'`) or a quoted name (`"`): its opening quote, then the rest through the
  closing quote. -/
  | quoted (q : Char) (body : List Char)
  /-- A bracketed name, without its brackets. -/
  | bracketed (name : List Char)
  | opening
  | closing
  /-- The keywords `ORDER BY`, as written. -/
  | orderBy (text : List Char)
  | other (c : Char)
  deriving DecidableEq

namespace Lexeme

def text : Lexeme → List Char
  | quoted q body => q :: body
  | bracketed name => '[' :: name ++ [']']
  | opening => ['(']
  | closing => [')']
  | orderBy t => t
  | other c => [c]

/-- The change of parenthesis depth. -/
def shift : Lexeme → Int
  | opening => 1
  | closing => -1
  | _ => 0

def isOrderBy : Lexeme → Bool
  | orderBy _ => true
  | _ => false

/-- The character the scan keeps as the one before the next lexeme: the last one, up to case. -/
def mark : Lexeme → Char
  | quoted q _ => q
  | bracketed _ => ']'
  | opening => '('
  | closing => ')'
  | orderBy _ => 'Y'
  | other c => c

end Lexeme

/-- Whether every quote `q` of a text stands in a doubled pair, the escape of a quote inside a
literal. -/
def pairedQuotes (q : Char) : List Char → Bool
  | [] => true
  | [c] => c != q
  | c :: d :: cs => if c = q then d == q && pairedQuotes q cs else pairedQuotes q (d :: cs)

/-- The form each kind of lexeme has. -/
def Lexeme.WellFormed : Lexeme → Prop
  | quoted q body => (q = '\'' ∨ q = '"') ∧ ∃ inner, body = inner ++ [q] ∧ pairedQuotes q inner
  | bracketed name => ']' ∉ name
  | opening | closing => True
  | orderBy t => ∃ o g b, t = o ++ g ++ b ∧ o.map Char.toUpper = "ORDER".toList ∧ g ≠ [] ∧
      (∀ x ∈ g, Text.isBlank x) ∧ b.map Char.toUpper = "BY".toList
  | other c => c ≠ '(' ∧ c ≠ ')'

theorem Lexeme.text_ne_nil {l : Lexeme} (h : l.WellFormed) : l.text ≠ [] := by
  cases l with
  | orderBy t =>
    obtain ⟨o, g, b, rfl, -, hg, -⟩ := h
    simp [text, hg]
  | _ => simp [text]

/-- Whether a word may start after `prev`; the start of the text counts. -/
def wordStarts (prev : Option Char) : Bool :=
  match prev with
  | some p => !Text.isWordChar p
  | none => true

/-- The lexeme the scan reads at `c :: rest` after `prev`, and the text after it. -/
def nextLexeme (prev : Option Char) (c : Char) (rest : List Char) : Lexeme × List Char :=
  match literal c rest with
  | some (body, after) => (.quoted c body, after)
  | none =>
    if c = '[' ∧ rest.contains ']' then
      (.bracketed (rest.takeWhile (· ≠ ']')), (rest.dropWhile (· ≠ ']')).drop 1)
    else if c = '(' then (.opening, rest)
    else if c = ')' then (.closing, rest)
    else
      match (if wordStarts prev then matchOrderBy (c :: rest) else none) with
      | some after => (.orderBy ((c :: rest).take (rest.length + 1 - after.length)), after)
      | none => (.other c, rest)

theorem matchWord_eq_some {w cs after : List Char} (h : matchWord w cs = some after) :
    ∃ t, cs = t ++ after ∧ t.map Char.toUpper = w := by
  induction w generalizing cs with
  | nil => exact ⟨[], by simpa [matchWord] using h, rfl⟩
  | cons x w ih =>
    cases cs with
    | nil => simp [matchWord] at h
    | cons c cs =>
      simp only [matchWord] at h
      split_ifs at h with hc
      obtain ⟨t, rfl, ht⟩ := ih h
      exact ⟨c :: t, rfl, by simp [ht, hc]⟩

/-- The keywords as `matchOrderBy` finds them: `ORDER`, blanks, `BY`, in any case, and then no
word character. -/
theorem matchOrderBy_eq_some {cs after : List Char} (h : matchOrderBy cs = some after) :
    ∃ o g b, cs = o ++ g ++ b ++ after ∧ o.map Char.toUpper = "ORDER".toList ∧ g ≠ [] ∧
      (∀ x ∈ g, Text.isBlank x) ∧ b.map Char.toUpper = "BY".toList ∧
      ∀ x ∈ after.head?, Text.isWordChar x = false := by
  unfold matchOrderBy at h
  cases hrest : matchWord "ORDER".toList cs with
  | none => rw [hrest] at h; cases h
  | some rest =>
    rw [hrest] at h
    obtain ⟨o, rfl, ho⟩ := matchWord_eq_some hrest
    dsimp only at h
    split_ifs at h with hgap
    cases hby : matchWord "BY".toList (rest.dropWhile Text.isBlank) with
    | none => rw [hby] at h; cases h
    | some after' =>
      rw [hby] at h
      obtain ⟨b, hb, hbu⟩ := matchWord_eq_some hby
      have hend : after' = after ∧ ∀ x ∈ after.head?, Text.isWordChar x = false := by
        cases after' with
        | nil => cases h; simp
        | cons x xs =>
          dsimp only at h
          split_ifs at h with hw
          cases h
          simpa using hw
      obtain ⟨rfl, hnext⟩ := hend
      refine ⟨o, rest.takeWhile Text.isBlank, b, ?_, ho, by simpa using hgap,
        fun x hx => List.mem_takeWhile_imp hx, hbu, hnext⟩
      have hsplit := List.takeWhile_append_dropWhile (p := Text.isBlank) (l := rest)
      rw [hb] at hsplit
      nth_rewrite 1 [← hsplit]
      simp

theorem pairedQuotes_cons_of_ne {q c : Char} (hc : c ≠ q) (cs : List Char) :
    pairedQuotes q (c :: cs) = pairedQuotes q cs := by
  cases cs with
  | nil => simp [pairedQuotes, hc]
  | cons d cs => simp [pairedQuotes, hc]

theorem closeQuote_paired {q : Char} {cs body after : List Char}
    (h : closeQuote q cs = some (body, after)) :
    ∃ inner, body = inner ++ [q] ∧ pairedQuotes q inner := by
  fun_induction closeQuote q cs generalizing body after with
  | case1 | case7 => simp at h
  | case2 rest' body' after' hcl ih =>
    simp only [Option.some.injEq, Prod.mk.injEq] at h
    obtain ⟨inner, rfl, hp⟩ := ih hcl
    exact ⟨q :: q :: inner, by simp [← h.1], by simp [pairedQuotes, hp]⟩
  | case6 c rest' hc body' after' hcl ih =>
    simp only [Option.some.injEq, Prod.mk.injEq] at h
    obtain ⟨inner, rfl, hp⟩ := ih hcl
    exact ⟨c :: inner, by simp [← h.1], by rw [pairedQuotes_cons_of_ne hc]; exact hp⟩
  | case3 | case4 | case5 =>
    simp only [Option.some.injEq, Prod.mk.injEq] at h
    exact ⟨[], by simp [← h.1], rfl⟩

theorem dropWhile_ne_of_mem {x : Char} {l : List Char} (h : x ∈ l) :
    ∃ t, l.takeWhile (· ≠ x) ++ x :: t = l ∧ l.dropWhile (· ≠ x) = x :: t ∧
      x ∉ l.takeWhile (· ≠ x) := by
  induction l with
  | nil => simp at h
  | cons y l ih =>
    by_cases hy : y = x
    · subst hy
      exact ⟨l, by simp, by simp, by simp⟩
    · obtain ⟨t, ht, hd, hn⟩ := ih (by simpa [Ne.symm hy] using h)
      have hp : decide (y ≠ x) = true := by simpa using hy
      refine ⟨t, ?_, ?_, ?_⟩
      · rw [List.takeWhile_cons_of_pos (p := fun z => decide (z ≠ x)) hp, List.cons_append, ht]
      · rw [List.dropWhile_cons_of_pos (p := fun z => decide (z ≠ x)) hp, hd]
      · rw [List.takeWhile_cons_of_pos (p := fun z => decide (z ≠ x)) hp]
        exact List.not_mem_cons_of_ne_of_not_mem (Ne.symm hy) hn

theorem literal_quote {c : Char} {rest body after : List Char}
    (h : literal c rest = some (body, after)) :
    (c = '\'' ∨ c = '"') ∧ closeQuote c rest = some (body, after) := by
  unfold literal at h
  split_ifs at h with hq
  exact ⟨hq, h⟩

/-- The lexeme read at `c :: rest` spells the text up to what follows it, and has its kind's
form. -/
theorem nextLexeme_spec (prev : Option Char) (c : Char) (rest : List Char) :
    (nextLexeme prev c rest).1.text ++ (nextLexeme prev c rest).2 = c :: rest ∧
      (nextLexeme prev c rest).1.WellFormed := by
  unfold nextLexeme
  split
  · rename_i body after hlit
    obtain ⟨hq, hcl⟩ := literal_quote hlit
    exact ⟨by simp [Lexeme.text, closeQuote_append hcl], hq, closeQuote_paired hcl⟩
  · split_ifs with hb hopen hclose hw
    · obtain ⟨t, ht, hd, hn⟩ := dropWhile_ne_of_mem (x := ']') (l := rest) (by simpa using hb.2)
      refine ⟨?_, hn⟩
      rw [hb.1, hd]
      simpa [Lexeme.text] using ht
    · exact ⟨by simp [Lexeme.text, hopen], trivial⟩
    · exact ⟨by simp [Lexeme.text, hclose], trivial⟩
    · split
      · rename_i after hm
        obtain ⟨o, g, b, hsplit, ho, hg, hgb, hbu, -⟩ := matchOrderBy_eq_some hm
        have hlen : rest.length + 1 - after.length = (o ++ g ++ b).length := by
          have := congrArg List.length hsplit
          simp only [List.length_cons, List.length_append] at this ⊢
          omega
        have htake : (c :: rest).take (rest.length + 1 - after.length) = o ++ g ++ b := by
          rw [hlen, hsplit]
          exact List.take_left' rfl
        exact ⟨by rw [Lexeme.text, htake, hsplit], o, g, b, htake, ho, hg, hgb, hbu⟩
      · exact ⟨rfl, hopen, hclose⟩
    · exact ⟨rfl, hopen, hclose⟩

theorem nextLexeme_length_le (prev : Option Char) (c : Char) (rest : List Char) :
    (nextLexeme prev c rest).2.length ≤ rest.length := by
  obtain ⟨htext, hwf⟩ := nextLexeme_spec prev c rest
  have hne := Lexeme.text_ne_nil hwf
  have := congrArg List.length htext
  simp only [List.length_append, List.length_cons] at this
  have : 0 < (nextLexeme prev c rest).1.text.length := List.length_pos_iff.mpr hne
  omega

theorem matchOrderBy_length {cs after : List Char} (h : matchOrderBy cs = some after) :
    after.length < cs.length := by
  obtain ⟨o, g, b, rfl, ho, hg, -, -, -⟩ := matchOrderBy_eq_some h
  have : o.length = 5 := by simpa using congrArg List.length ho
  simp only [List.length_append]
  omega

/-- The lexemes of a text, read from its start after `prev`. -/
def lex (prev : Option Char) : List Char → List Lexeme
  | [] => []
  | c :: rest =>
    (nextLexeme prev c rest).1 ::
      lex (some (nextLexeme prev c rest).1.mark) (nextLexeme prev c rest).2
termination_by cs => cs.length
decreasing_by exact Nat.lt_succ_of_le (nextLexeme_length_le prev c rest)

/-- Whether a keyword lexeme stands at depth zero, the lexemes starting at depth `depth`. -/
def orderedAt (depth : Int) : List Lexeme → Bool
  | [] => false
  | l :: ls => (l.isOrderBy && depth == 0) || orderedAt (depth + l.shift) ls

theorem lex_text (prev : Option Char) (cs : List Char) : (lex prev cs).flatMap Lexeme.text = cs := by
  fun_induction lex prev cs with
  | case1 => rfl
  | case2 prev c rest ih =>
    rw [List.flatMap_cons, ih]
    exact (nextLexeme_spec prev c rest).1

theorem lex_wellFormed (prev : Option Char) (cs : List Char) : ∀ l ∈ lex prev cs, l.WellFormed := by
  fun_induction lex prev cs with
  | case1 => simp
  | case2 prev c rest ih =>
    rintro l (_ | ⟨_, hl⟩)
    · exact (nextLexeme_spec prev c rest).2
    · exact ih l hl

theorem orderByFrom_keywords (fuel : Nat) (prev : Option Char) (depth : Int) (c : Char)
    (rest : List Char) :
    (match (if wordStarts prev then matchOrderBy (c :: rest) else none) with
      | some after => depth == 0 || orderByFrom fuel (some 'Y') depth after
      | none => orderByFrom fuel (some c) depth rest) =
    (let next := match (if wordStarts prev then matchOrderBy (c :: rest) else none) with
      | some after => (Lexeme.orderBy ((c :: rest).take (rest.length + 1 - after.length)), after)
      | none => (Lexeme.other c, rest)
     next.1.isOrderBy && depth == 0 ||
      orderByFrom fuel (some next.1.mark) (depth + next.1.shift) next.2) := by
  cases (if wordStarts prev then matchOrderBy (c :: rest) else none) <;>
    simp [Lexeme.isOrderBy, Lexeme.mark, Lexeme.shift]

theorem orderByFrom_cons (fuel : Nat) (prev : Option Char) (depth : Int) (c : Char)
    (rest : List Char) :
    orderByFrom (fuel + 1) prev depth (c :: rest) =
      ((nextLexeme prev c rest).1.isOrderBy && depth == 0 ||
        orderByFrom fuel (some (nextLexeme prev c rest).1.mark)
          (depth + (nextLexeme prev c rest).1.shift) (nextLexeme prev c rest).2) := by
  simp only [orderByFrom, nextLexeme, literal]
  by_cases hq : c = '\'' ∨ c = '"'
  · have hnot : c ≠ '[' ∧ c ≠ '(' ∧ c ≠ ')' := by
      rcases hq with rfl | rfl <;> decide
    cases hclose : closeQuote c rest with
    | some r => simp [hq, hnot, Lexeme.isOrderBy, Lexeme.mark, Lexeme.shift]
    | none =>
      simp only [hq, hnot, if_true, if_false, Option.map_none, false_and, ne_eq]
      exact orderByFrom_keywords fuel prev depth c rest
  · by_cases hb : c = '['
    · subst hb
      by_cases hin : rest.contains ']' = true
      · have hmem : ']' ∈ rest := by simpa using hin
        simp [hmem, Lexeme.isOrderBy, Lexeme.mark, Lexeme.shift]
      · simp only [hin]
        exact orderByFrom_keywords fuel prev depth '[' rest
    · by_cases hp : c = '('
      · subst hp
        simp [Lexeme.isOrderBy, Lexeme.mark, Lexeme.shift]
      · by_cases hc : c = ')'
        · subst hc
          simp [Lexeme.isOrderBy, Lexeme.mark, Lexeme.shift, sub_eq_add_neg]
        · simp only [hq, hb, hp, hc, if_false, false_and]
          exact orderByFrom_keywords fuel prev depth c rest

/-- With fuel for every character, the scan answers whether a keyword lexeme stands at depth
zero; the induction is on the fuel, one lexeme a step. -/
theorem orderByFrom_eq_orderedAt (fuel : Nat) (prev : Option Char) (depth : Int)
    (cs : List Char) (h : cs.length < fuel) :
    orderByFrom fuel prev depth cs = orderedAt depth (lex prev cs) := by
  induction fuel generalizing prev depth cs with
  | zero => omega
  | succ fuel ih =>
    cases cs with
    | nil => simp [orderByFrom, lex, orderedAt]
    | cons c rest =>
      have hlen := nextLexeme_length_le prev c rest
      rw [orderByFrom_cons, lex, orderedAt, ih _ _ _ (by simp at h; omega)]

theorem hasTopLevelOrderBy_eq (sql : String) :
    hasTopLevelOrderBy sql = orderedAt 0 (lex none sql.toList) :=
  orderByFrom_eq_orderedAt _ _ _ _ (by rw [String.length_toList]; omega)

/-- A keyword lexeme stands at depth zero exactly when the parentheses of the lexemes before
it balance the starting depth. -/
theorem orderedAt_iff (depth : Int) (ls : List Lexeme) :
    orderedAt depth ls = true ↔ ∃ pre t post, ls = pre ++ .orderBy t :: post ∧
      depth + (pre.map Lexeme.shift).sum = 0 := by
  induction ls generalizing depth with
  | nil => simp [orderedAt]
  | cons l ls ih =>
    rw [orderedAt, Bool.or_eq_true, ih]
    constructor
    · rintro (h | ⟨pre, t, post, rfl, hd⟩)
      · cases l with
        | orderBy t =>
          simp only [Lexeme.isOrderBy, Bool.true_and, beq_iff_eq] at h
          exact ⟨[], t, ls, rfl, by simpa using h⟩
        | _ => simp [Lexeme.isOrderBy] at h
      · exact ⟨l :: pre, t, post, rfl, by simp; omega⟩
    · rintro ⟨_ | ⟨l', pre⟩, t, post, h, hd⟩
      · simp only [List.nil_append, List.cons.injEq] at h
        obtain ⟨rfl, rfl⟩ := h
        left
        simpa [Lexeme.isOrderBy] using hd
      · simp only [List.cons_append, List.cons.injEq] at h
        obtain ⟨rfl, rfl⟩ := h
        right
        exact ⟨pre, t, post, rfl, by simp at hd; omega⟩

theorem orderedAt_append (depth : Int) (xs ys : List Lexeme) :
    orderedAt depth (xs ++ ys) =
      (orderedAt depth xs || orderedAt (depth + (xs.map Lexeme.shift).sum) ys) := by
  induction xs generalizing depth with
  | nil => simp [orderedAt]
  | cons l xs ih =>
    simp only [List.cons_append, orderedAt, ih, List.map_cons, List.sum_cons, Bool.or_assoc]
    rw [add_assoc]

/-- The character the scan keeps after the lexemes `pre`, read after `prev`. -/
def markAfter (prev : Option Char) (pre : List Lexeme) : Option Char :=
  match pre.getLast? with
  | some l => some l.mark
  | none => prev

theorem markAfter_cons (prev : Option Char) (l : Lexeme) (pre : List Lexeme) :
    markAfter prev (l :: pre) = markAfter (some l.mark) pre := by
  unfold markAfter
  rw [List.getLast?_cons]
  cases pre.getLast? <;> rfl

theorem lex_eq_append_cons {prev : Option Char} {cs : List Char} {pre post : List Lexeme}
    {l : Lexeme} (h : lex prev cs = pre ++ l :: post) :
    ∃ c rest, l.text ++ post.flatMap Lexeme.text = c :: rest ∧
      nextLexeme (markAfter prev pre) c rest = (l, post.flatMap Lexeme.text) := by
  induction pre generalizing prev cs with
  | nil =>
    cases cs with
    | nil => simp [lex] at h
    | cons c rest =>
      rw [lex, List.nil_append, List.cons.injEq] at h
      obtain ⟨rfl, rfl⟩ := h
      refine ⟨c, rest, ?_, ?_⟩ <;> rw [lex_text]
      · exact (nextLexeme_spec prev c rest).1
      · rfl
  | cons l' pre ih =>
    cases cs with
    | nil => simp [lex] at h
    | cons c rest =>
      rw [lex, List.cons_append, List.cons.injEq] at h
      obtain ⟨rfl, h⟩ := h
      rw [markAfter_cons]
      exact ih h

/-- The scan reads the keywords only where a word may start, and only when no word character
follows them. -/
theorem nextLexeme_orderBy {prev : Option Char} {c : Char} {rest t after : List Char}
    (h : nextLexeme prev c rest = (.orderBy t, after)) :
    wordStarts prev = true ∧ ∀ x ∈ after.head?, Text.isWordChar x = false := by
  unfold nextLexeme at h
  split at h
  · cases h
  · split_ifs at h with hb hopen hclose hw
    · simp at h
    · simp at h
    · simp at h
    · split at h
      · rename_i after' hm
        obtain ⟨-, rfl⟩ := Prod.mk.inj h
        obtain ⟨-, -, -, -, -, -, -, -, hnext⟩ := matchOrderBy_eq_some hm
        exact ⟨hw, hnext⟩
      · simp at h
    · simp at h

theorem isWordChar_of_isLower {x : Char} (h : x.isLower = true) : Text.isWordChar x = true := by
  have ha : x.isAlphanum = true := by simp [Char.isAlphanum, Char.isAlpha, h]
  simp [Text.isWordChar, Text.isAlphanumeric, toNat_lt_of_isAlphanum ha, ha]

/-- The last character of a lexeme is a word character exactly when the one the scan keeps
for it is. -/
theorem Lexeme.getLast_text {l : Lexeme} (h : l.WellFormed) :
    ∃ x, l.text.getLast? = some x ∧ Text.isWordChar x = Text.isWordChar l.mark := by
  cases l with
  | quoted q body =>
    obtain ⟨-, inner, rfl, -⟩ := h
    exact ⟨q, by rw [text, ← List.cons_append, List.getLast?_concat], rfl⟩
  | bracketed name => exact ⟨']', by rw [text, List.getLast?_concat], rfl⟩
  | opening => exact ⟨'(', rfl, rfl⟩
  | closing => exact ⟨')', rfl, rfl⟩
  | orderBy t =>
    obtain ⟨o, g, b, rfl, -, -, -, hb⟩ := h
    rcases b with _ | ⟨b1, _ | ⟨y, _ | ⟨z, r⟩⟩⟩
    all_goals simp at hb
    have hy : y.toUpper = 'Y' := hb.2
    have hword : Text.isWordChar y = true := by
      cases hl : y.isLower
      · rw [Text.toUpper_eq_self hl] at hy
        subst hy
        decide
      · exact isWordChar_of_isLower hl
    exact ⟨y, by simp [text], by rw [hword, mark]; decide⟩
  | other c => exact ⟨c, rfl, rfl⟩

/-- After the lexemes `pre` of a text, a word may start exactly when the last character they
spell is no word character, or they spell nothing. -/
theorem wordStarts_markAfter {pre : List Lexeme} (hwf : ∀ l ∈ pre, l.WellFormed) :
    wordStarts (markAfter none pre) = true ↔
      ∀ x ∈ (pre.flatMap Lexeme.text).getLast?, Text.isWordChar x = false := by
  induction pre using List.reverseRecOn with
  | nil => simp [markAfter, wordStarts]
  | append_singleton pre l _ =>
    obtain ⟨y, hy, hwy⟩ := Lexeme.getLast_text (hwf l (by simp))
    have hlast : ((pre ++ [l]).flatMap Lexeme.text).getLast? = some y := by
      rw [List.flatMap_append, List.flatMap_singleton, List.getLast?_append, hy]
      rfl
    rw [hlast]
    simp [markAfter, wordStarts, hwy]

/-- A character the scan reads alone starts nothing it could take there: a quote has no closing
quote after it, a `[` no `]`, and the keywords do not start there when a word may. -/
theorem nextLexeme_other {prev : Option Char} {c c' : Char} {rest after : List Char}
    (h : nextLexeme prev c rest = (.other c', after)) :
    c' = c ∧ after = rest ∧ ((c = '\'' ∨ c = '"') → c ∉ rest) ∧ (c = '[' → ']' ∉ rest) ∧
      (wordStarts prev = true → matchOrderBy (c :: rest) = none) := by
  unfold nextLexeme at h
  split at h
  · simp at h
  · rename_i hlit
    have hquote : (c = '\'' ∨ c = '"') → c ∉ rest := fun hq =>
      closeQuote_eq_none_iff.mp (by simpa [literal, hq] using hlit)
    split_ifs at h with hb hopen hclose hw
    · simp at h
    · simp at h
    · simp at h
    · split at h
      · simp at h
      · rename_i hm
        obtain ⟨hc, rfl⟩ := Prod.mk.inj h
        refine ⟨(Lexeme.other.inj hc).symm, rfl, hquote, fun h' => by simpa [h'] using hb,
          fun _ => ?_⟩
        simpa [hw] using hm
    · obtain ⟨hc, rfl⟩ := Prod.mk.inj h
      exact ⟨(Lexeme.other.inj hc).symm, rfl, hquote, fun h' => by simpa [h'] using hb,
        fun h' => absurd h' hw⟩

/-- What makes `ls` the lexemes of `cs` as the scan for `ORDER BY` reads them: they spell `cs`,
each has its kind's form, the keywords stand between word boundaries, and a character read
alone starts nothing the scan could take there. -/
structure Lexing (cs : List Char) (ls : List Lexeme) : Prop where
  spells : ls.flatMap Lexeme.text = cs
  wellFormed : ∀ l ∈ ls, l.WellFormed
  bounded : ∀ pre t post, ls = pre ++ .orderBy t :: post →
    (∀ x ∈ (pre.flatMap Lexeme.text).getLast?, Text.isWordChar x = false) ∧
      ∀ x ∈ (post.flatMap Lexeme.text).head?, Text.isWordChar x = false
  alone : ∀ pre c post, ls = pre ++ .other c :: post →
    ((c = '\'' ∨ c = '"') → c ∉ post.flatMap Lexeme.text) ∧
      (c = '[' → ']' ∉ post.flatMap Lexeme.text) ∧
      ((∀ x ∈ (pre.flatMap Lexeme.text).getLast?, Text.isWordChar x = false) →
        matchOrderBy (c :: post.flatMap Lexeme.text) = none)

theorem lex_lexing (cs : List Char) : Lexing cs (lex none cs) where
  spells := lex_text none cs
  wellFormed := lex_wellFormed none cs
  bounded pre t post h := by
    have hwf : ∀ l ∈ pre, l.WellFormed := fun l hl =>
      lex_wellFormed none cs l (by rw [h]; exact List.mem_append_left _ hl)
    obtain ⟨c, rest, -, hnext⟩ := lex_eq_append_cons h
    obtain ⟨hstart, hend⟩ := nextLexeme_orderBy hnext
    exact ⟨(wordStarts_markAfter hwf).mp hstart, hend⟩
  alone pre c post h := by
    have hwf : ∀ l ∈ pre, l.WellFormed := fun l hl =>
      lex_wellFormed none cs l (by rw [h]; exact List.mem_append_left _ hl)
    obtain ⟨c₀, rest, htext, hnext⟩ := lex_eq_append_cons h
    obtain ⟨rfl, rfl⟩ : c₀ = c ∧ rest = post.flatMap Lexeme.text := by
      simpa [Lexeme.text, eq_comm] using htext
    obtain ⟨-, -, hquote, hbracket, hkw⟩ := nextLexeme_other hnext
    exact ⟨hquote, hbracket, fun hw => hkw ((wordStarts_markAfter hwf).mpr hw)⟩

/-- A text `b :: s` that, put after another, leaves the lexemes of the other as they were: it
starts with a blank that is no word character and no letter of the keywords, goes on with no
`BY`, and holds no quote and no `]`. -/
structure Trailer (b : Char) (s : List Char) : Prop where
  blank : Text.isBlank b = true
  notWord : Text.isWordChar b = false
  notLetter : ∀ x ∈ "ORDERBY".toList, b.toUpper ≠ x
  noBy : matchWord "BY".toList (s.dropWhile Text.isBlank) = none
  noQuote : '\'' ∉ b :: s ∧ '"' ∉ b :: s
  noClose : ']' ∉ b :: s

section Trailer

variable {b : Char} {s : List Char}

theorem matchWord_append (w : List Char) (hw : ∀ x ∈ w, b.toUpper ≠ x) (cs : List Char) :
    matchWord w (cs ++ b :: s) = (matchWord w cs).map (· ++ b :: s) := by
  induction w generalizing cs with
  | nil => simp [matchWord]
  | cons x w ih =>
    cases cs with
    | nil => simp [matchWord, hw x List.mem_cons_self]
    | cons c cs =>
      simp only [List.cons_append, matchWord]
      split_ifs
      · exact ih (fun y hy => hw y (List.mem_cons_of_mem x hy)) cs
      · rfl

theorem takeWhile_dropWhile_append {p : Char → Bool} {l : List Char} (h : ∃ x ∈ l, p x = false)
    (t : List Char) :
    (l ++ t).takeWhile p = l.takeWhile p ∧ (l ++ t).dropWhile p = l.dropWhile p ++ t ∧
      l.dropWhile p ≠ [] := by
  induction l with
  | nil => simp at h
  | cons y l ih =>
    by_cases hy : p y = true
    · have h' : ∃ x ∈ l, p x = false := by
        obtain ⟨x, hx, hpx⟩ := h
        rcases List.mem_cons.mp hx with rfl | hx
        · simp [hy] at hpx
        · exact ⟨x, hx, hpx⟩
      obtain ⟨h1, h2, h3⟩ := ih h'
      simp [hy, h1, h2, h3]
    · simp [hy]

theorem matchOrderBy_append (ht : Trailer b s) (cs : List Char) :
    matchOrderBy (cs ++ b :: s) = (matchOrderBy cs).map (· ++ b :: s) := by
  have hOrder : ∀ x ∈ "ORDER".toList, b.toUpper ≠ x :=
    fun x hx => ht.notLetter x (by simp at hx ⊢; tauto)
  have hBy : ∀ x ∈ "BY".toList, b.toUpper ≠ x :=
    fun x hx => ht.notLetter x (by simp at hx ⊢; tauto)
  unfold matchOrderBy
  rw [matchWord_append _ hOrder cs]
  cases matchWord "ORDER".toList cs with
  | none => rfl
  | some rest =>
    simp only [Option.map_some]
    by_cases hrest : ∃ x ∈ rest, Text.isBlank x = false
    · obtain ⟨htw, hdw, hne⟩ := takeWhile_dropWhile_append hrest (b :: s)
      rw [htw, hdw, matchWord_append _ hBy]
      split_ifs
      · rfl
      · cases matchWord "BY".toList (rest.dropWhile Text.isBlank) with
        | none => rfl
        | some after =>
          cases after with
          | nil => simp [ht.notWord]
          | cons x xs => simp only [Option.map_some, List.cons_append]; split_ifs <;> rfl
    · simp only [not_exists, not_and, Bool.not_eq_false] at hrest
      have hall : rest.dropWhile Text.isBlank = [] := List.dropWhile_eq_nil_iff.mpr hrest
      have hgap : (rest ++ b :: s).dropWhile Text.isBlank = s.dropWhile Text.isBlank := by
        rw [List.dropWhile_append, hall]
        simp [ht.blank]
      have hne : (rest ++ b :: s).takeWhile Text.isBlank ≠ [] := by
        intro h
        have := List.takeWhile_append_dropWhile (p := Text.isBlank) (l := rest ++ b :: s)
        rw [h, hgap] at this
        have hl := congrArg List.length this
        simp only [List.nil_append, List.length_append, List.length_cons] at hl
        have := (List.dropWhile_suffix Text.isBlank (l := s)).length_le
        omega
      simp only [List.isEmpty_iff, hne, if_false, hgap, ht.noBy]
      split_ifs
      · rfl
      · simp [hall, matchWord]

theorem Trailer.not_mem_quote (ht : Trailer b s) {q : Char} (hq : q = '\'' ∨ q = '"') :
    q ∉ b :: s := by
  rcases hq with rfl | rfl
  · exact ht.noQuote.1
  · exact ht.noQuote.2

theorem closeQuote_trailer (ht : Trailer b s) {q : Char} (hq : q = '\'' ∨ q = '"')
    (rest : List Char) :
    closeQuote q (rest ++ b :: s) = (closeQuote q rest).map fun r => (r.1, r.2 ++ b :: s) := by
  cases hcl : closeQuote q rest with
  | none =>
    have hn : q ∉ rest := closeQuote_eq_none_iff.mp hcl
    exact closeQuote_eq_none_iff.mpr (by simpa [hn] using ht.not_mem_quote hq)
  | some r =>
    obtain ⟨body, after⟩ := r
    have hsame : SameQuotes (after ++ b :: s) after := by
      intro q' hq'
      have hout := ht.not_mem_quote hq'
      refine ⟨by simp [List.count_append, List.count_eq_zero.mpr hout], ?_⟩
      cases after with
      | nil =>
        have : b ≠ q' := fun h => hout (h ▸ List.mem_cons_self)
        simp [this]
      | cons x xs => simp
    rw [closeQuote_append hcl, List.append_assoc]
    simpa using closeQuote_congr hq hcl hsame

theorem nextLexeme_append (ht : Trailer b s) (prev : Option Char) (c : Char)
    (rest : List Char) :
    nextLexeme prev c (rest ++ b :: s) =
      ((nextLexeme prev c rest).1, (nextLexeme prev c rest).2 ++ b :: s) := by
  have hlit : literal c (rest ++ b :: s) = (literal c rest).map fun r => (r.1, r.2 ++ b :: s) := by
    unfold literal
    split_ifs with hq
    · exact closeQuote_trailer ht hq rest
    · rfl
  have hkw := matchOrderBy_append ht (c :: rest)
  rw [List.cons_append] at hkw
  unfold nextLexeme
  rw [hlit]
  cases literal c rest with
  | some r => rfl
  | none =>
    simp only [Option.map_none]
    by_cases hb : c = '[' ∧ rest.contains ']' = true
    · have hmem : ']' ∈ rest := by simpa using hb.2
      have hb' : c = '[' ∧ (rest ++ b :: s).contains ']' = true := ⟨hb.1, by simp [hmem]⟩
      rw [if_pos hb, if_pos hb']
      obtain ⟨htw, hdw, hne⟩ :=
        takeWhile_dropWhile_append (p := fun x => decide (x ≠ ']')) ⟨']', hmem, by simp⟩ (b :: s)
      obtain ⟨t, -, hd, -⟩ := dropWhile_ne_of_mem hmem
      rw [htw, hdw, hd]
      simp
    · have hb' : ¬(c = '[' ∧ (rest ++ b :: s).contains ']' = true) := by
        simpa [ht.noClose] using hb
      rw [if_neg hb, if_neg hb']
      split_ifs with hopen hclose hw
      · rfl
      · rfl
      · rw [hkw]
        cases hm : matchOrderBy (c :: rest) with
        | none => rfl
        | some after =>
          have hlen := matchOrderBy_length hm
          simp only [List.length_cons] at hlen
          simp only [Option.map_some, List.length_append, List.length_cons, Prod.mk.injEq,
            Lexeme.orderBy.injEq, and_true]
          rw [show rest.length + (s.length + 1) + 1 - (after.length + (s.length + 1)) =
            rest.length + 1 - after.length by omega, ← List.cons_append,
            List.take_append_of_le_length (by simp only [List.length_cons]; omega)]
      · rfl

theorem lex_append (ht : Trailer b s) (prev : Option Char) (cs : List Char) :
    ∃ p, lex prev (cs ++ b :: s) = lex prev cs ++ lex p (b :: s) := by
  fun_induction lex prev cs with
  | case1 prev => exact ⟨prev, by simp [lex]⟩
  | case2 prev c rest ih =>
    obtain ⟨p, hp⟩ := ih
    refine ⟨p, ?_⟩
    rw [List.cons_append, lex, nextLexeme_append ht, hp]
    rfl

end Trailer

theorem trailer_nullOrder : Trailer ' ' "ORDER BY (SELECT NULL)".toList where
  blank := by decide
  notWord := by decide
  notLetter := by simp
  noBy := by simp +decide
  noQuote := by simp
  noClose := by simp

/-- The clause the pagination adds reads as a blank, the keywords, and a parenthesised
`SELECT NULL`. -/
theorem lex_nullOrder (p : Option Char) :
    lex p (' ' :: "ORDER BY (SELECT NULL)".toList) =
      [.other ' ', .orderBy "ORDER BY".toList, .other ' ', .opening, .other 'S', .other 'E',
        .other 'L', .other 'E', .other 'C', .other 'T', .other ' ', .other 'N', .other 'U',
        .other 'L', .other 'L', .closing] := by
  have hfirst : nextLexeme p ' ' "ORDER BY (SELECT NULL)".toList =
      (.other ' ', "ORDER BY (SELECT NULL)".toList) := by
    cases p <;> simp +decide [nextLexeme, literal, matchOrderBy, matchWord]
  rw [lex, hfirst]
  simp +decide [lex, nextLexeme, literal, matchOrderBy, matchWord, Lexeme.mark]

/-- The keywords of the added clause stand at depth zero exactly when the text before them
ends there. -/
theorem orderedAt_nullOrder (p : Option Char) (depth : Int) :
    orderedAt depth (lex p (' ' :: "ORDER BY (SELECT NULL)".toList)) = (depth == 0) := by
  rw [lex_nullOrder]
  simp [orderedAt, Lexeme.isOrderBy, Lexeme.shift]

/-- A text with the clause added has a top-level `ORDER BY` exactly when it had one or its
parentheses balance. -/
theorem hasTopLevelOrderBy_append_nullOrder (sql : String) :
    hasTopLevelOrderBy (sql ++ " ORDER BY (SELECT NULL)") =
      (hasTopLevelOrderBy sql || ((lex none sql.toList).map Lexeme.shift).sum == 0) := by
  have hclause : " ORDER BY (SELECT NULL)".toList = ' ' :: "ORDER BY (SELECT NULL)".toList := by
    decide
  obtain ⟨p, hp⟩ := lex_append trailer_nullOrder none sql.toList
  rw [hasTopLevelOrderBy_eq, hasTopLevelOrderBy_eq, String.toList_append, hclause, hp,
    orderedAt_append, orderedAt_nullOrder, zero_add]

/-- SQL Server pages: a text has a top-level `ORDER BY` exactly when a keyword lexeme of it
stands where the parentheses before it balance; the pagination adds `ORDER BY (SELECT NULL)`
exactly when there is none, and the statement it pages then has one exactly when the text had
one or the parentheses of the whole text balance. -/
theorem paginate_ordered (dollar : Bool) (sql : String) :
    Lexing sql.toList (lex none sql.toList) ∧
    (hasTopLevelOrderBy sql = true ↔ ∃ pre t post,
      lex none sql.toList = pre ++ .orderBy t :: post ∧ (pre.map Lexeme.shift).sum = 0) ∧
    Generator.paginate ⟨.sqlserver, dollar⟩ sql =
      (if hasTopLevelOrderBy sql then sql else sql ++ " ORDER BY (SELECT NULL)") ++
        " OFFSET :__offset ROWS FETCH NEXT :__limit ROWS ONLY" ∧
    (hasTopLevelOrderBy
        (if hasTopLevelOrderBy sql then sql else sql ++ " ORDER BY (SELECT NULL)") = true ↔
      hasTopLevelOrderBy sql = true ∨ ((lex none sql.toList).map Lexeme.shift).sum = 0) := by
  refine ⟨lex_lexing _, ?_, rfl, ?_⟩
  · rw [hasTopLevelOrderBy_eq, orderedAt_iff]
    simp
  · by_cases h : hasTopLevelOrderBy sql = true
    · simp [h]
    · simp [h, hasTopLevelOrderBy_append_nullOrder]

/-- Brackets have no escape: in `[a]] ORDER BY b]` the name ends at the first `]`, so the
keywords after it stand at the top level and the pagination adds no ordering. -/
theorem doubled_bracket_ends_name :
    let sql := "SELECT [a]] ORDER BY b] FROM t"
    lex none sql.toList = "SELECT ".toList.map .other ++
        [.bracketed ['a'], .other ']', .other ' ', .orderBy "ORDER BY".toList] ++
        " b] FROM t".toList.map .other ∧
      Generator.paginate ⟨.sqlserver, false⟩ sql =
        sql ++ " OFFSET :__offset ROWS FETCH NEXT :__limit ROWS ONLY" := by
  intro sql
  constructor
  · simp +decide [sql, lex, nextLexeme, literal, matchOrderBy, matchWord, Lexeme.mark]
  · decide

end DataMapper.Sql
