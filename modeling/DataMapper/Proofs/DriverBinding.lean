import Mathlib
import DataMapper.Proofs.Placeholders

namespace DataMapper.Sql

/-- A character of a statement, or a value put in place of a marker. -/
inductive Bound
  | char (c : Char)
  | value (v : Value)

/-- The statement the pieces of a text stand for when each placeholder takes its value from
`params`; `none` when a name has no value. -/
def bindPieces (params : List (String × Value)) : List Piece → Option (List Bound)
  | [] => some []
  | p :: ps =>
    match p with
    | .placeholder n => do
      let v ← params.lookup n
      (.value v :: ·) <$> bindPieces params ps
    | p => (p.text.map .char ++ ·) <$> bindPieces params ps

/-- A literal that a quote opens, with its closing quote: the reader's view of `closeQuote`. -/
def literal (c : Char) (rest : List Char) : Option (List Char × List Char) :=
  if c = '\'' ∨ c = '"' then closeQuote c rest else none

theorem closeQuote_append {q : Char} {cs body after : List Char}
    (h : closeQuote q cs = some (body, after)) : cs = body ++ after := by
  fun_induction closeQuote q cs generalizing body after with
  | case1 | case7 => simp at h
  | case2 rest' body' after' hcl ih | case6 c rest' hc body' after' hcl ih =>
    simp only [Option.some.injEq, Prod.mk.injEq] at h
    rw [ih hcl, ← h.1, ← h.2]
    rfl
  | case3 | case4 | case5 =>
    simp only [Option.some.injEq, Prod.mk.injEq] at h
    simp [← h.1, ← h.2]

theorem literal_append {c : Char} {rest body after : List Char}
    (h : literal c rest = some (body, after)) : rest = body ++ after := by
  unfold literal at h
  split_ifs at h
  exact closeQuote_append h

/-- One step of the scan of a text after the character `prev`: the piece at its head, what
follows the piece, and the character before what follows. -/
inductive ScanStep : Option Char → List Char → Piece → List Char → Option Char → Prop
  | quoted {prev c rest body after} : literal c rest = some (body, after) →
      ScanStep prev (c :: rest) (.quoted (c :: body)) after ((c :: body).getLast? <|> some c)
  | cast {prev rest} : ScanStep prev (':' :: ':' :: rest) .cast rest (some ':')
  | placeholder {prev d r} : prev ≠ some ':' → isNameStart d = true →
      ScanStep prev (':' :: d :: r)
        (.placeholder (String.ofList (d :: r.takeWhile Text.isWordChar)))
        (r.dropWhile Text.isWordChar) ((d :: r.takeWhile Text.isWordChar).getLast? <|> some d)
  | percent {prev rest} : ScanStep prev ('%' :: rest) .percent rest (some '%')
  | plain {prev c rest} : literal c rest = none → c ≠ '%' →
      (c = ':' → ∀ d r, rest = d :: r → d ≠ ':' ∧ (prev = some ':' ∨ isNameStart d = false)) →
      ScanStep prev (c :: rest) (.plain c) rest (some c)

@[simp] theorem scanFrom_nil (fuel : Nat) (prev : Option Char) : scanFrom fuel prev [] = [] := by
  cases fuel <;> rfl

theorem scanFrom_succ_cons (fuel : Nat) (prev : Option Char) (c : Char) (rest : List Char) :
    ∃ p after prev', ScanStep prev (c :: rest) p after prev' ∧
      scanFrom (fuel + 1) prev (c :: rest) = p :: scanFrom fuel prev' after := by
  have hlit (f : List Char × List Char → List Char × List Char) :
      (if c = '\'' ∨ c = '"' then (closeQuote c rest).map f else none) =
        (literal c rest).map f := by
    unfold literal
    split_ifs <;> rfl
  cases hl : literal c rest with
  | some r =>
    obtain ⟨body, after⟩ := r
    refine ⟨_, _, _, .quoted hl, ?_⟩
    simp only [scanFrom, hlit, hl]
    rfl
  | none =>
    simp only [scanFrom, hlit, hl, Option.map_none]
    by_cases hc : c = ':'
    · subst hc
      rcases rest with _ | ⟨d, r⟩
      · exact ⟨_, _, _, .plain hl (by decide) (by simp), by simp⟩
      by_cases hd : d = ':'
      · subst hd
        exact ⟨_, _, _, .cast, by simp⟩
      by_cases hname : prev ≠ some ':' ∧ isNameStart d = true
      · exact ⟨_, _, _, .placeholder hname.1 hname.2, by simp [hname]⟩
      · have hplain : ∀ d' r', d :: r = d' :: r' →
            d' ≠ ':' ∧ (prev = some ':' ∨ isNameStart d' = false) := by
          rintro d' r' ⟨⟩
          simp only [not_and, Bool.not_eq_true] at hname
          refine ⟨hd, ?_⟩
          by_cases hp : prev = some ':'
          · exact .inl hp
          · exact .inr (hname hp)
        exact ⟨_, _, _, .plain hl (by decide) (fun _ => hplain), by simp [hname]⟩
    · by_cases hp : c = '%'
      · subst hp
        exact ⟨_, _, _, .percent, by simp⟩
      · exact ⟨_, _, _, .plain hl hp (fun h => absurd h hc), by simp [hc, hp]⟩

/-- Two texts with the same quotes: as many of each quote character, and the same one first
when either starts with a quote. -/
def SameQuotes (a b : List Char) : Prop :=
  ∀ q, (q = '\'' ∨ q = '"') → a.count q = b.count q ∧ (a.head? = some q ↔ b.head? = some q)

namespace SameQuotes

theorem refl (a : List Char) : SameQuotes a a := fun _ _ => ⟨rfl, Iff.rfl⟩

theorem append {a b a' b' : List Char} (h : SameQuotes a b) (hnil : a = [] ↔ b = [])
    (h' : SameQuotes a' b') : SameQuotes (a ++ a') (b ++ b') := by
  intro q hq
  obtain ⟨hc, hh⟩ := h q hq
  obtain ⟨hc', hh'⟩ := h' q hq
  refine ⟨by simp [hc, hc'], ?_⟩
  rcases a with _ | ⟨x, a⟩
  · obtain rfl : b = [] := hnil.mp rfl
    simpa using hh'
  · rcases b with _ | ⟨y, b⟩
    · exact absurd (hnil.mpr rfl) (List.cons_ne_nil x a)
    · simpa using hh

theorem of_noQuote {a b : List Char} (ha : '\'' ∉ a ∧ '"' ∉ a) (hb : '\'' ∉ b ∧ '"' ∉ b) :
    SameQuotes a b := by
  intro q hq
  have hqa : q ∉ a := by rcases hq with rfl | rfl <;> simp [ha]
  have hqb : q ∉ b := by rcases hq with rfl | rfl <;> simp [hb]
  refine ⟨by rw [List.count_eq_zero.mpr hqa, List.count_eq_zero.mpr hqb], ?_⟩
  constructor <;> intro h
  · exact absurd (List.mem_of_head? h) hqa
  · exact absurd (List.mem_of_head? h) hqb

theorem not_mem {a b : List Char} (h : SameQuotes a b) {q : Char} (hq : q = '\'' ∨ q = '"')
    (hb : q ∉ b) : q ∉ a := by
  rw [← List.count_eq_zero, (h q hq).1, List.count_eq_zero]
  exact hb

end SameQuotes

theorem closeQuote_eq_none_iff {q : Char} {cs : List Char} : closeQuote q cs = none ↔ q ∉ cs := by
  fun_induction closeQuote q cs with
  | case1 => simp
  | case7 c rest hc _ ih => simp [ih.mp ‹_›, Ne.symm hc]
  | case6 c rest hc _ _ hcl ih =>
    have hmem : q ∈ rest := by
      by_contra hn
      rw [ih.mpr hn] at hcl
      cases hcl
    simp [hmem]
  | _ => simp

theorem closeQuote_close {q : Char} {after : List Char} (h : after.head? ≠ some q) :
    closeQuote q (q :: after) = some ([q], after) := by
  cases after with
  | nil => simp [closeQuote]
  | cons d r =>
    have hd : d ≠ q := fun e => h (by simp [e])
    simp [closeQuote, hd]

/-- A literal closes where it did when what follows it is replaced by a text with the same
quotes. -/
theorem closeQuote_congr {q : Char} (hq : q = '\'' ∨ q = '"') {cs body after after' : List Char}
    (h : closeQuote q cs = some (body, after)) (hs : SameQuotes after' after) :
    closeQuote q (body ++ after') = some (body, after') := by
  fun_induction closeQuote q cs generalizing body after with
  | case1 | case7 => simp at h
  | case2 rest' body' after'' hcl ih =>
    simp only [Option.some.injEq, Prod.mk.injEq] at h
    obtain ⟨rfl, rfl⟩ := h
    simp [closeQuote, ih hcl hs]
  | case6 c rest' hc body' after'' hcl ih =>
    simp only [Option.some.injEq, Prod.mk.injEq] at h
    obtain ⟨rfl, rfl⟩ := h
    rw [List.cons_append, closeQuote.eq_def]
    simp only [if_neg hc, ih hcl hs]
  | case3 rest' hcl =>
    -- a doubled quote that no later quote follows: the literal ends at its first half, and
    -- the same holds after the replacement, which holds as many quotes
    simp only [Option.some.injEq, Prod.mk.injEq] at h
    obtain ⟨rfl, rfl⟩ := h
    obtain ⟨hc, hh⟩ := hs q hq
    obtain ⟨r, rfl⟩ : ∃ r, after' = q :: r := by
      cases after' with
      | nil => simp at hh
      | cons d r =>
        simp only [List.head?_cons, Option.some.injEq, iff_true] at hh
        exact ⟨r, by rw [hh]⟩
    have hr : q ∉ r := by
      rw [closeQuote_eq_none_iff, ← List.count_eq_zero] at hcl
      rw [← List.count_eq_zero]
      simpa [hcl] using hc
    simp [closeQuote, closeQuote_eq_none_iff.mpr hr]
  | case4 d rest' hd =>
    simp only [Option.some.injEq, Prod.mk.injEq] at h
    obtain ⟨rfl, rfl⟩ := h
    exact closeQuote_close fun h' => by simpa [hd] using (hs q hq).2.mp h'
  | case5 =>
    simp only [Option.some.injEq, Prod.mk.injEq] at h
    obtain ⟨rfl, rfl⟩ := h
    exact closeQuote_close fun h' => by simpa using (hs q hq).2.mp h'

theorem literal_of_ne {c : Char} (h1 : c ≠ '\'') (h2 : c ≠ '"') (rest : List Char) :
    literal c rest = none := by
  simp [literal, h1, h2]

theorem literal_congr {c : Char} {rest body after after' : List Char}
    (h : literal c rest = some (body, after)) (hs : SameQuotes after' after) :
    literal c (body ++ after') = some (body, after') := by
  unfold literal at h ⊢
  split_ifs at h ⊢ with hq
  exact closeQuote_congr hq h hs

theorem literal_eq_none_congr {c : Char} {rest rest' : List Char} (h : literal c rest = none)
    (hs : SameQuotes rest' rest) : literal c rest' = none := by
  unfold literal at h ⊢
  split_ifs at h ⊢ with hq
  · exact closeQuote_eq_none_iff.mpr (hs.not_mem hq (closeQuote_eq_none_iff.mp h))
  · rfl

theorem toList_toString_nat (k : Nat) : (toString k).toList = Nat.toDigits 10 k := by
  simp [Nat.toList_repr]

/-- A rewritten text, one piece at a time: the piece's own text for a piece other than a
placeholder (percent signs doubled for the percent styles), a marker for a placeholder with a
value, then the rest rewritten. -/
theorem rewrite_cons_ok {style : ParamStyle} (hstyle : style ≠ .named)
    {params : List (String × Value)} {p : Piece} {ps : List Piece} {numbered : List String}
    {t : List Char} {vs : List Value} (h : rewrite style params (p :: ps) numbered = .ok (t, vs)) :
    ∃ e t' vs' numbered', rewrite style params ps numbered' = .ok (t', vs') ∧ t = e ++ t' ∧
      ((p.name? = none ∧ e = escaped style p) ∨
        ∃ n k, p = .placeholder n ∧ (params.lookup n).isSome ∧ e = marker style k n) := by
  cases p
  case placeholder n =>
    cases hv : params.lookup n with
    | none => simp [rewrite, hv] at h
    | some v =>
      by_cases hnum : style = .numeric
      · subst hnum
        cases hi : numbered.idxOf? n with
        | none =>
          cases hr : rewrite .numeric params ps (numbered ++ [n]) with
          | error e => simp [rewrite, hv, hi, hr] at h
          | ok r =>
            simp only [rewrite, hv, hi, hr] at h
            cases h
            exact ⟨_, _, _, _, hr, rfl, .inr ⟨n, _, rfl, by simp [hv], rfl⟩⟩
        | some i =>
          cases hr : rewrite .numeric params ps numbered with
          | error e => simp [rewrite, hv, hi, hr] at h
          | ok r =>
            simp only [rewrite, hv, hi, hr] at h
            cases h
            exact ⟨_, _, _, _, hr, rfl, .inr ⟨n, _, rfl, by simp [hv], rfl⟩⟩
      cases hr : rewrite style params ps numbered with
      | error e =>
        cases style
        all_goals first
          | exact absurd rfl hstyle
          | exact absurd rfl hnum
          | simp [rewrite, hv, hr] at h
      | ok r =>
        cases style
        case named => exact absurd rfl hstyle
        case numeric => exact absurd rfl hnum
        all_goals
          simp only [rewrite, hv, hr] at h
          cases h
          exact ⟨_, _, _, _, hr, by simp [marker], .inr ⟨n, 0, rfl, by simp [hv], rfl⟩⟩
  all_goals
    cases hr : rewrite style params ps numbered with
    | error e => simp [rewrite, hr] at h
    | ok r =>
      simp only [rewrite, hr] at h
      cases h
      exact ⟨_, _, _, _, hr, by simp [escaped], .inl ⟨rfl, rfl⟩⟩

theorem sameQuotes_escaped (style : ParamStyle) (p : Piece) :
    SameQuotes (escaped style p) p.text ∧ (escaped style p = [] ↔ p.text = []) := by
  unfold escaped
  split_ifs
  · refine ⟨?_, ?_⟩
    swap
    · cases p.text with
      | nil => simp
      | cons c _ => by_cases hc : c = '%' <;> simp [hc]
    induction p.text with
    | nil => exact .refl _
    | cons c cs ih =>
      rw [List.flatMap_cons, ← List.singleton_append (l := cs)]
      by_cases hc : c = '%'
      · subst hc
        exact (SameQuotes.of_noQuote (by simp) (by simp)).append (by simp) ih
      · simpa [hc] using (SameQuotes.refl [c]).append Iff.rfl ih
  · exact ⟨.refl _, Iff.rfl⟩

theorem sameQuotes_marker {style : ParamStyle} (k : Nat) {n : String}
    (hn : '\'' ∉ n.toList ∧ '"' ∉ n.toList) :
    SameQuotes (marker style k n) (Piece.placeholder n).text ∧
      (marker style k n = [] ↔ (Piece.placeholder n).text = []) := by
  have hdigits : '\'' ∉ Nat.toDigits 10 k ∧ '"' ∉ Nat.toDigits 10 k := by
    constructor <;> intro h <;> simpa using Nat.isDigit_of_mem_toDigits (by decide) (by decide) h
  refine ⟨SameQuotes.of_noQuote ?_ (by simp [Piece.text, hn]), ?_⟩
  · cases style <;> simp [marker, hn, hdigits]
  · cases style <;> simp [marker, Piece.text]

theorem rewrite_sameQuotes {style : ParamStyle} (hstyle : style ≠ .named)
    {params : List (String × Value)} :
    ∀ {ps : List Piece} {numbered : List String} {t : List Char} {vs : List Value},
      (∀ n, .placeholder n ∈ ps → '\'' ∉ n.toList ∧ '"' ∉ n.toList) →
      rewrite style params ps numbered = .ok (t, vs) → SameQuotes t (ps.flatMap Piece.text)
  | [], _, _, _, _, h => by
    simp only [rewrite, Except.ok.injEq, Prod.mk.injEq] at h
    rw [← h.1]
    exact .refl _
  | p :: ps, _, _, _, hn, h => by
    obtain ⟨e, t', vs', numbered', hr, rfl, he⟩ := rewrite_cons_ok hstyle h
    have ih := rewrite_sameQuotes hstyle (fun n hm => hn n (List.mem_cons_of_mem p hm)) hr
    rw [List.flatMap_cons]
    rcases he with ⟨-, rfl⟩ | ⟨n, k, rfl, -, rfl⟩
    · obtain ⟨hs, hnil⟩ := sameQuotes_escaped style p
      exact hs.append hnil ih
    · obtain ⟨hs, hnil⟩ := sameQuotes_marker k (hn n List.mem_cons_self)
      exact hs.append hnil ih

theorem rewrite_numeric_head {params : List (String × Value)} :
    ∀ {ps : List Piece} {numbered : List String} {t : List Char} {vs : List Value},
      rewrite .numeric params ps numbered = .ok (t, vs) → t.head? = (ps.flatMap Piece.text).head?
  | [], _, _, _, h => by
    simp only [rewrite, Except.ok.injEq, Prod.mk.injEq] at h
    simp [← h.1]
  | p :: ps, _, _, _, h => by
    obtain ⟨e, t', vs', numbered', hr, rfl, he⟩ := rewrite_cons_ok (by decide) h
    have ih := rewrite_numeric_head hr
    rw [List.flatMap_cons]
    rcases he with ⟨-, rfl⟩ | ⟨n, k, rfl, -, rfl⟩
    · simp [escaped, List.head?_append, ih]
    · simp [marker, Piece.text]

theorem ScanStep.text_append {prev : Option Char} {cs : List Char} {p : Piece}
    {after : List Char} {prev' : Option Char} (h : ScanStep prev cs p after prev') :
    cs = p.text ++ after := by
  cases h with
  | quoted hl => simp [Piece.text, literal_append hl]
  | placeholder _ _ => simp [Piece.text, List.takeWhile_append_dropWhile]
  | _ => rfl

theorem ScanStep.length_lt {prev : Option Char} {cs : List Char} {p : Piece}
    {after : List Char} {prev' : Option Char} (h : ScanStep prev cs p after prev') :
    after.length < cs.length := by
  have hne : p.text ≠ [] := by cases h <;> simp [Piece.text]
  have hl := congrArg List.length h.text_append
  rw [List.length_append] at hl
  have := List.length_pos_iff.mpr hne
  omega

theorem ScanStep.length_lt_fuel {prev : Option Char} {cs : List Char} {p : Piece}
    {after : List Char} {prev' : Option Char} (h : ScanStep prev cs p after prev') {fuel : Nat}
    (hfuel : cs.length < fuel + 1) : after.length < fuel := by
  have := h.length_lt
  omega

theorem flatMap_text_scanFrom :
    ∀ (fuel : Nat) (prev : Option Char) (cs : List Char),
      (scanFrom fuel prev cs).flatMap Piece.text = cs
  | 0, _, cs => by simp [scanFrom, Piece.text, List.flatMap_map]
  | _ + 1, _, [] => by simp
  | fuel + 1, prev, c :: rest => by
    obtain ⟨p, after, prev', hstep, hscan⟩ := scanFrom_succ_cons fuel prev c rest
    rw [hscan, List.flatMap_cons, flatMap_text_scanFrom fuel prev' after, ← hstep.text_append]

theorem isWordChar_of_mem_name {d : Char} (r : List Char) (hd : isNameStart d = true) :
    ∀ c ∈ d :: r.takeWhile Text.isWordChar, Text.isWordChar c = true := by
  intro c hc
  rcases List.mem_cons.mp hc with rfl | hc
  · exact isWordChar_of_isNameChar (isNameChar_of_isNameStart hd)
  · exact List.mem_takeWhile_imp hc

theorem isWordChar_of_mem_scanFrom :
    ∀ {fuel : Nat} {prev : Option Char} {cs : List Char} {n : String},
      .placeholder n ∈ scanFrom fuel prev cs → ∀ c ∈ n.toList, Text.isWordChar c = true
  | 0, _, cs, n, h => by simp [scanFrom] at h
  | _ + 1, _, [], _, h => by simp at h
  | fuel + 1, prev, c :: rest, n, h => by
    obtain ⟨p, after, prev', hstep, hscan⟩ := scanFrom_succ_cons fuel prev c rest
    rw [hscan, List.mem_cons] at h
    rcases h with h | h
    · cases hstep with
      | placeholder _ hd =>
        cases h
        simpa only [String.toList_ofList] using isWordChar_of_mem_name _ hd
      | _ => cases h
    · exact isWordChar_of_mem_scanFrom h

theorem isDigit_eq_false_of_isNameStart {d : Char} (hd : isNameStart d = true) :
    d.isDigit = false := by
  simp only [isNameStart, Bool.or_eq_true, beq_iff_eq] at hd
  rcases hd with hd | rfl
  · simp [Char.isAlpha, Char.isUpper, Char.isLower, Char.isDigit, UInt32.le_iff_toNat_le] at hd ⊢
    omega
  · decide

theorem ne_of_isWordChar {c d : Char} (hc : Text.isWordChar c = true)
    (hd : Text.isWordChar d = false) : c ≠ d := by
  rintro rfl
  rw [hc] at hd
  cases hd

theorem noQuote_of_mem_scanFrom {fuel : Nat} {prev : Option Char} {cs : List Char} {n : String}
    (h : .placeholder n ∈ scanFrom fuel prev cs) : '\'' ∉ n.toList ∧ '"' ∉ n.toList :=
  ⟨fun hm => ne_of_isWordChar (isWordChar_of_mem_scanFrom h _ hm) (by decide) rfl,
    fun hm => ne_of_isWordChar (isWordChar_of_mem_scanFrom h _ hm) (by decide) rfl⟩

theorem sameQuotes_rewrite_scanFrom {style : ParamStyle} (hstyle : style ≠ .named)
    {params : List (String × Value)} {fuel : Nat} {prev : Option Char} {cs : List Char}
    {numbered : List String} {t : List Char} {vs : List Value}
    (h : rewrite style params (scanFrom fuel prev cs) numbered = .ok (t, vs)) :
    SameQuotes t cs := by
  have hs := rewrite_sameQuotes hstyle (fun n hn => noQuote_of_mem_scanFrom hn) h
  rwa [flatMap_text_scanFrom] at hs

/-- A qmark driver: a `?` outside quotes takes the next value, and every value is taken. -/
def fillQmark (cs : List Char) (vs : List Value) : Option (List Bound) :=
  match cs with
  | [] => if vs.isEmpty then some [] else none
  | c :: rest =>
    match h : literal c rest with
    | some (body, after) => ((c :: body).map .char ++ ·) <$> fillQmark after vs
    | none =>
      if c = '?' then
        match vs with
        | v :: vs => (.value v :: ·) <$> fillQmark rest vs
        | [] => none
      else (.char c :: ·) <$> fillQmark rest vs
termination_by cs.length
decreasing_by
  all_goals simp only [List.length_cons]
  all_goals first
    | omega
    | have hl := congrArg List.length (literal_append h)
      simp only [List.length_append] at hl
      omega

/-- A format driver: `%s` takes the next value and `%%` is a percent sign; every value is
taken, and no other percent sign may stand in the text. -/
def fillFormat : List Char → List Value → Option (List Bound)
  | [], vs => if vs.isEmpty then some [] else none
  | '%' :: '%' :: rest, vs => (.char '%' :: ·) <$> fillFormat rest vs
  | '%' :: 's' :: rest, v :: vs => (.value v :: ·) <$> fillFormat rest vs
  | '%' :: _, _ => none
  | c :: rest, vs => (.char c :: ·) <$> fillFormat rest vs

/-- The name of a `%(name)s` marker, up to its closing parenthesis, and what follows the
marker. -/
def markerName : List Char → Option (List Char × List Char)
  | [] => none
  | ')' :: 's' :: after => some ([], after)
  | ')' :: _ => none
  | c :: rest => (markerName rest).map fun (name, after) => (c :: name, after)

theorem markerName_append {cs name after : List Char} (h : markerName cs = some (name, after)) :
    cs = name ++ ')' :: 's' :: after := by
  fun_induction markerName cs generalizing name after with
  | case2 after' => simp only [Option.some.injEq, Prod.mk.injEq] at h; simp [← h.1, ← h.2]
  | case4 c rest _ _ ih =>
    cases hn : markerName rest with
    | none => simp [hn] at h
    | some r =>
      obtain ⟨b, a⟩ := r
      simp only [hn, Option.map_some, Option.some.injEq, Prod.mk.injEq] at h
      rw [ih hn, ← h.1, ← h.2]
      rfl
  | _ => simp at h

/-- A pyformat driver: `%(name)s` takes the value of `name` and `%%` is a percent sign; no other
percent sign may stand in the text. -/
def fillPyformat (params : List (String × Value)) : List Char → Option (List Bound)
  | [] => some []
  | '%' :: '%' :: rest => (.char '%' :: ·) <$> fillPyformat params rest
  | '%' :: '(' :: rest =>
    match _h : markerName rest with
    | some (name, after) =>
      (params.lookup (String.ofList name)).bind fun v =>
        (.value v :: ·) <$> fillPyformat params after
    | none => none
  | '%' :: _ => none
  | c :: rest => (.char c :: ·) <$> fillPyformat params rest
termination_by cs => cs.length
decreasing_by
  all_goals simp only [List.length_cons]
  all_goals first
    | omega
    | have hl := congrArg List.length (markerName_append _h)
      simp only [List.length_append, List.length_cons] at hl
      omega

/-- A numeric driver: a `:` outside quotes followed by decimal digits takes the value at that
position, counted from one. -/
def fillNumeric (vs : List Value) (cs : List Char) : Option (List Bound) :=
  match cs with
  | [] => some []
  | c :: rest =>
    match h : literal c rest with
    | some (body, after) => ((c :: body).map .char ++ ·) <$> fillNumeric vs after
    | none =>
      if c = ':' ∧ rest.takeWhile Char.isDigit ≠ [] then
        match Nat.ofDigitChars 10 (rest.takeWhile Char.isDigit) 0 with
        | 0 => none
        | k + 1 => do
          let v ← vs[k]?
          (.value v :: ·) <$> fillNumeric vs (rest.dropWhile Char.isDigit)
      else (.char c :: ·) <$> fillNumeric vs rest
termination_by cs.length
decreasing_by
  all_goals simp only [List.length_cons]
  all_goals first
    | omega
    | have hl := congrArg List.length (literal_append h)
      simp only [List.length_append] at hl
      omega
    | have hd := List.length_dropWhile_le Char.isDigit rest
      omega

theorem bindPieces_of_name_none {params : List (String × Value)} {p : Piece}
    (hp : p.name? = none) (ps : List Piece) :
    bindPieces params (p :: ps) = (p.text.map .char ++ ·) <$> bindPieces params ps := by
  cases p <;> simp_all [bindPieces, Piece.name?]

theorem eq_some_of_map_append {l m : List Bound} {x : Option (List Bound)}
    (h : (l ++ ·) <$> x = some (l ++ m)) : x = some m := by
  obtain ⟨m', hx, hm⟩ := Option.map_eq_some_iff.mp h
  rw [hx, List.append_cancel_left hm]

@[simp] theorem fillQmark_nil (vs : List Value) :
    fillQmark [] vs = if vs.isEmpty then some [] else none := by
  rw [fillQmark]

theorem fillQmark_cons (c : Char) (rest : List Char) (vs : List Value) :
    fillQmark (c :: rest) vs =
      match literal c rest with
      | some (body, after) => ((c :: body).map .char ++ ·) <$> fillQmark after vs
      | none =>
        if c = '?' then
          match vs with
          | v :: vs => (.value v :: ·) <$> fillQmark rest vs
          | [] => none
        else (.char c :: ·) <$> fillQmark rest vs := by
  conv_lhs => rw [fillQmark.eq_def]
  simp only
  split <;> rename_i h <;> simp only [h]

theorem fillQmark_literal {c : Char} {rest body after : List Char} (vs : List Value)
    (h : literal c rest = some (body, after)) :
    fillQmark (c :: rest) vs = ((c :: body).map .char ++ ·) <$> fillQmark after vs := by
  rw [fillQmark_cons, h]

theorem fillQmark_mark (rest : List Char) (v : Value) (vs : List Value) :
    fillQmark ('?' :: rest) (v :: vs) = (.value v :: ·) <$> fillQmark rest vs := by
  simp [fillQmark_cons, literal]

theorem fillQmark_mark_nil (rest : List Char) : fillQmark ('?' :: rest) [] = none := by
  simp [fillQmark_cons, literal]

theorem fillQmark_char {c : Char} {rest : List Char} (vs : List Value)
    (h : literal c rest = none) (hc : c ≠ '?') :
    fillQmark (c :: rest) vs = (.char c :: ·) <$> fillQmark rest vs := by
  rw [fillQmark_cons, h]
  simp [hc]

/-- A qmark driver reads the text of a piece other than a placeholder or a lone `?` as it
stands, whatever follows it, as long as what follows has the quotes that followed it in the
scan. -/
theorem fillQmark_text {prev : Option Char} {cs : List Char} {p : Piece} {after : List Char}
    {prev' : Option Char} (hstep : ScanStep prev cs p after prev') (hp : p.name? = none)
    (hq : p ≠ .plain '?') {a : List Char} (hs : SameQuotes a after) (vs : List Value) :
    fillQmark (p.text ++ a) vs = (p.text.map .char ++ ·) <$> fillQmark a vs := by
  cases hstep with
  | quoted hl =>
    simp only [Piece.text, List.cons_append]
    rw [fillQmark_literal vs (literal_congr hl hs)]
  | cast =>
    simp only [Piece.text, List.cons_append, List.nil_append]
    rw [fillQmark_char vs (literal_of_ne (by decide) (by decide) _) (by decide),
      fillQmark_char vs (literal_of_ne (by decide) (by decide) _) (by decide)]
    simp [Function.comp_def]
  | placeholder => cases hp
  | percent =>
    simp only [Piece.text, List.cons_append, List.nil_append]
    rw [fillQmark_char vs (literal_of_ne (by decide) (by decide) _) (by decide)]
    rfl
  | plain hl =>
    simp only [Piece.text, List.cons_append, List.nil_append]
    rw [fillQmark_char vs (literal_eq_none_congr hl hs) (fun h => hq (by rw [h]))]
    rfl

theorem fillQmark_chars {w : List Char} (hw : ∀ c ∈ w, c ≠ '\'' ∧ c ≠ '"' ∧ c ≠ '?')
    (rest : List Char) (vs : List Value) :
    fillQmark (w ++ rest) vs = (w.map .char ++ ·) <$> fillQmark rest vs := by
  induction w with
  | nil => simp
  | cons c w ih =>
    obtain ⟨h1, h2, h3⟩ := hw c List.mem_cons_self
    rw [List.cons_append, fillQmark_char vs (literal_of_ne h1 h2 _) h3,
      ih (fun d hd => hw d (List.mem_cons_of_mem c hd))]
    simp [Function.comp_def]

/-- Along the scan of a text that a qmark driver reads as it stands, the rewritten text runs,
with the gathered values, the statement the text stands for. -/
theorem fillQmark_rewrite {params : List (String × Value)} :
    ∀ (fuel : Nat) (prev : Option Char) (cs : List Char) (numbered : List String),
      cs.length < fuel →
      (∀ n, .placeholder n ∈ scanFrom fuel prev cs → (params.lookup n).isSome) →
      fillQmark cs [] = some (cs.map .char) →
      ∃ t vs, rewrite .qmark params (scanFrom fuel prev cs) numbered = .ok (t, vs) ∧
        fillQmark t vs = bindPieces params (scanFrom fuel prev cs)
  | 0, _, _, _, hfuel, _, _ => absurd hfuel (Nat.not_lt_zero _)
  | _ + 1, _, [], _, _, _, _ => ⟨[], [], by simp [rewrite], by simp [bindPieces]⟩
  | fuel + 1, prev, c :: rest, numbered, hfuel, hbound, hplain => by
    obtain ⟨p, after, prev', hstep, hscan⟩ := scanFrom_succ_cons fuel prev c rest
    have htext := hstep.text_append
    have hlen := hstep.length_lt_fuel hfuel
    rw [hscan] at hbound ⊢
    have hbound' n (hn : .placeholder n ∈ scanFrom fuel prev' after) :=
      hbound n (List.mem_cons_of_mem _ hn)
    cases hp : p.name? with
    | none =>
      have hq : p ≠ .plain '?' := by
        rintro rfl
        rw [htext, Piece.text, List.singleton_append, fillQmark_mark_nil] at hplain
        cases hplain
      have hplain' : fillQmark after [] = some (after.map .char) := by
        rw [htext, fillQmark_text hstep hp hq (.refl after), List.map_append] at hplain
        exact eq_some_of_map_append hplain
      obtain ⟨t', vs', hr, hfill⟩ :=
        fillQmark_rewrite fuel prev' after numbered hlen hbound' hplain'
      refine ⟨p.text ++ t', vs', by simp [rewrite_of_name_none hp, hr, escaped], ?_⟩
      rw [fillQmark_text hstep hp hq (sameQuotes_rewrite_scanFrom (by decide) hr), hfill,
        bindPieces_of_name_none hp]
    | some n =>
      cases hstep
      case placeholder d r _ hd =>
        cases hp
        obtain ⟨v, hv⟩ := Option.isSome_iff_exists.mp (hbound _ List.mem_cons_self)
        have hname : ∀ c ∈ ':' :: d :: r.takeWhile Text.isWordChar,
            c ≠ '\'' ∧ c ≠ '"' ∧ c ≠ '?' := by
          have hw := isWordChar_of_mem_scanFrom (by rw [hscan]; exact List.mem_cons_self)
          simp only [String.toList_ofList] at hw
          rintro c (_ | ⟨_, hc⟩)
          · decide
          · exact ⟨ne_of_isWordChar (hw c hc) (by decide), ne_of_isWordChar (hw c hc) (by decide),
              ne_of_isWordChar (hw c hc) (by decide)⟩
        have hplain' : fillQmark (r.dropWhile Text.isWordChar) [] =
            some ((r.dropWhile Text.isWordChar).map .char) := by
          rw [htext, Piece.text, String.toList_ofList, fillQmark_chars hname, List.map_append]
            at hplain
          exact eq_some_of_map_append hplain
        obtain ⟨t', vs', hr, hfill⟩ := fillQmark_rewrite fuel _ _ numbered hlen hbound' hplain'
        refine ⟨'?' :: t', v :: vs', by simp only [rewrite, hv, hr]; rfl, ?_⟩
        rw [fillQmark_mark, hfill]
        simp only [bindPieces, hv]
        rfl
      all_goals cases hp

@[simp] theorem fillNumeric_nil (vs : List Value) : fillNumeric vs [] = some [] := by
  rw [fillNumeric]

theorem fillNumeric_cons (vs : List Value) (c : Char) (rest : List Char) :
    fillNumeric vs (c :: rest) =
      match literal c rest with
      | some (body, after) => ((c :: body).map .char ++ ·) <$> fillNumeric vs after
      | none =>
        if c = ':' ∧ rest.takeWhile Char.isDigit ≠ [] then
          match Nat.ofDigitChars 10 (rest.takeWhile Char.isDigit) 0 with
          | 0 => none
          | k + 1 => do
            let v ← vs[k]?
            (.value v :: ·) <$> fillNumeric vs (rest.dropWhile Char.isDigit)
        else (.char c :: ·) <$> fillNumeric vs rest := by
  conv_lhs => rw [fillNumeric.eq_def]
  simp only
  split <;> rename_i h <;> simp only [h]

theorem fillNumeric_literal {c : Char} {rest body after : List Char} (vs : List Value)
    (h : literal c rest = some (body, after)) :
    fillNumeric vs (c :: rest) = ((c :: body).map .char ++ ·) <$> fillNumeric vs after := by
  rw [fillNumeric_cons, h]

theorem fillNumeric_char {c : Char} {rest : List Char} (vs : List Value)
    (h : literal c rest = none) (hc : c = ':' → rest.takeWhile Char.isDigit = []) :
    fillNumeric vs (c :: rest) = (.char c :: ·) <$> fillNumeric vs rest := by
  rw [fillNumeric_cons, h]
  simp only
  rw [if_neg (fun h' => h'.2 (hc h'.1))]

theorem fillNumeric_nil_colon {rest : List Char} (h : rest.takeWhile Char.isDigit ≠ []) :
    fillNumeric [] (':' :: rest) = none := by
  rw [fillNumeric_cons, literal_of_ne (by decide) (by decide)]
  simp only [true_and, ne_eq, h, not_false_eq_true, if_true]
  split <;> simp

theorem dropWhile_eq_self_of_takeWhile_eq_nil {p : Char → Bool} {l : List Char}
    (h : l.takeWhile p = []) : l.dropWhile p = l := by
  cases l with
  | nil => rfl
  | cons x l => simp_all [List.takeWhile_cons]

theorem takeWhile_eq_nil_of_head? {p : Char → Bool} {a b : List Char} (h : a.head? = b.head?)
    (hb : b.takeWhile p = []) : a.takeWhile p = [] := by
  cases a <;> cases b <;> simp_all [List.takeWhile_cons]

theorem fillNumeric_mark {vs : List Value} {k : Nat} {v : Value} (hv : vs[k]? = some v)
    {r : List Char} (hr : r.takeWhile Char.isDigit = []) :
    fillNumeric vs (':' :: (toString (k + 1)).toList ++ r) =
      (.value v :: ·) <$> fillNumeric vs r := by
  have hdig : ∀ c ∈ Nat.toDigits 10 (k + 1), c.isDigit = true := fun c hc =>
    Nat.isDigit_of_mem_toDigits (by decide) (by decide) hc
  have htake : (Nat.toDigits 10 (k + 1) ++ r).takeWhile Char.isDigit = Nat.toDigits 10 (k + 1) := by
    rw [List.takeWhile_append_of_pos hdig, hr, List.append_nil]
  have hdrop : (Nat.toDigits 10 (k + 1) ++ r).dropWhile Char.isDigit = r := by
    rw [List.dropWhile_append_of_pos hdig, dropWhile_eq_self_of_takeWhile_eq_nil hr]
  have hnum : Nat.ofDigitChars 10 (Nat.toDigits 10 (k + 1)) 0 = k + 1 :=
    Nat.ofDigitChars_toDigits (by decide) (by decide)
  rw [List.cons_append, fillNumeric_cons, literal_of_ne (by decide) (by decide),
    toList_toString_nat]
  simp [htake, hdrop, hnum, Nat.toDigits_ne_nil, hv]

theorem fillNumeric_chars {w : List Char} (hw : ∀ c ∈ w, c ≠ '\'' ∧ c ≠ '"' ∧ c ≠ ':')
    (rest : List Char) (vs : List Value) :
    fillNumeric vs (w ++ rest) = (w.map .char ++ ·) <$> fillNumeric vs rest := by
  induction w with
  | nil => simp
  | cons c w ih =>
    obtain ⟨h1, h2, h3⟩ := hw c List.mem_cons_self
    rw [List.cons_append, fillNumeric_char vs (literal_of_ne h1 h2 _) (fun h => absurd h h3),
      ih (fun d hd => hw d (List.mem_cons_of_mem c hd))]
    simp [Function.comp_def]

/-- A numeric driver reads the text of a piece as it stands, whatever follows it, as long as
what follows has the quotes that followed it in the scan and no digit follows a colon. -/
theorem fillNumeric_text {prev : Option Char} {cs : List Char} {p : Piece} {after : List Char}
    {prev' : Option Char} (hstep : ScanStep prev cs p after prev') {a : List Char}
    (hcolon : p = .cast ∨ p = .plain ':' → a.takeWhile Char.isDigit = [])
    (hs : SameQuotes a after) (vs : List Value) :
    fillNumeric vs (p.text ++ a) = (p.text.map .char ++ ·) <$> fillNumeric vs a := by
  cases hstep with
  | quoted hl =>
    simp only [Piece.text, List.cons_append]
    rw [fillNumeric_literal vs (literal_congr hl hs)]
  | cast =>
    simp only [Piece.text, List.cons_append, List.nil_append]
    rw [fillNumeric_char vs (literal_of_ne (by decide) (by decide) _) (fun _ => by simp),
      fillNumeric_char vs (literal_of_ne (by decide) (by decide) _)
        (fun _ => hcolon (.inl rfl))]
    simp [Function.comp_def]
  | @placeholder d r _ hd =>
    have hw := isWordChar_of_mem_name r hd
    have hname : ∀ c ∈ d :: r.takeWhile Text.isWordChar, c ≠ '\'' ∧ c ≠ '"' ∧ c ≠ ':' :=
      fun c hc => ⟨ne_of_isWordChar (hw c hc) (by decide), ne_of_isWordChar (hw c hc) (by decide),
        ne_of_isWordChar (hw c hc) (by decide)⟩
    simp only [Piece.text, String.toList_ofList, List.cons_append]
    rw [fillNumeric_char vs (literal_of_ne (by decide) (by decide) _)
        (fun _ => by simp [isDigit_eq_false_of_isNameStart hd]),
      ← List.cons_append, fillNumeric_chars hname]
    simp [Function.comp_def]
  | percent =>
    simp only [Piece.text, List.cons_append, List.nil_append]
    rw [fillNumeric_char vs (literal_of_ne (by decide) (by decide) _)
      (fun h => absurd h (by decide))]
    rfl
  | plain hl =>
    simp only [Piece.text, List.cons_append, List.nil_append]
    rw [fillNumeric_char vs (literal_eq_none_congr hl hs)
      (fun h => hcolon (.inr (by rw [h])))]
    rfl

theorem fillNumeric_nil_colon_text {p : Piece} (hp : p = .cast ∨ p = .plain ':')
    {after : List Char} (h : after.takeWhile Char.isDigit ≠ []) :
    fillNumeric [] (p.text ++ after) = none := by
  rcases hp with rfl | rfl
  · simp only [Piece.text, List.cons_append, List.nil_append]
    rw [fillNumeric_char [] (literal_of_ne (by decide) (by decide) _) (fun _ => by simp),
      fillNumeric_nil_colon h]
    rfl
  · exact fillNumeric_nil_colon h

theorem takeWhile_isDigit_dropWhile_isWordChar (r : List Char) :
    (r.dropWhile Text.isWordChar).takeWhile Char.isDigit = [] := by
  have h := List.head?_dropWhile_not Text.isWordChar r
  cases hr : r.dropWhile Text.isWordChar with
  | nil => rfl
  | cons x l =>
    rw [hr] at h
    have hx : x.isDigit = false := by
      cases hd : x.isDigit
      · rfl
      · have hw := isWordChar_of_isNameChar (c := x) (by simp [isNameChar, Char.isAlphanum, hd])
        simp [hw] at h
    simp [hx]

/-- Along the scan of a text that a numeric driver reads as it stands, the rewritten text runs,
with the values of the names numbered so far followed by the gathered values, the statement
the text stands for. -/
theorem fillNumeric_rewrite {params : List (String × Value)} :
    ∀ (fuel : Nat) (prev : Option Char) (cs : List Char) (numbered : List String),
      cs.length < fuel →
      (∀ n, .placeholder n ∈ scanFrom fuel prev cs → (params.lookup n).isSome) →
      fillNumeric [] cs = some (cs.map .char) →
      ∃ t vs, rewrite .numeric params (scanFrom fuel prev cs) numbered = .ok (t, vs) ∧
        fillNumeric (numbered.map (fun n => (params.lookup n).getD .none) ++ vs) t =
          bindPieces params (scanFrom fuel prev cs)
  | 0, _, _, _, hfuel, _, _ => absurd hfuel (Nat.not_lt_zero _)
  | _ + 1, _, [], _, _, _, _ => ⟨[], [], by simp [rewrite], by simp [bindPieces]⟩
  | fuel + 1, prev, c :: rest, numbered, hfuel, hbound, hplain => by
    obtain ⟨p, after, prev', hstep, hscan⟩ := scanFrom_succ_cons fuel prev c rest
    have htext := hstep.text_append
    have hlen := hstep.length_lt_fuel hfuel
    rw [hscan] at hbound ⊢
    have hbound' n (hn : .placeholder n ∈ scanFrom fuel prev' after) :=
      hbound n (List.mem_cons_of_mem _ hn)
    have hcolon : p = .cast ∨ p = .plain ':' → after.takeWhile Char.isDigit = [] := by
      intro hpc
      by_contra hd
      rw [htext, fillNumeric_nil_colon_text hpc hd] at hplain
      cases hplain
    have hplain' : fillNumeric [] after = some (after.map .char) := by
      rw [htext, fillNumeric_text hstep hcolon (.refl after), List.map_append] at hplain
      exact eq_some_of_map_append hplain
    have hhead {numbered' t' vs'}
        (hr : rewrite .numeric params (scanFrom fuel prev' after) numbered' = .ok (t', vs')) :
        t'.head? = after.head? := by
      have h := rewrite_numeric_head hr
      rwa [flatMap_text_scanFrom] at h
    cases hp : p.name? with
    | none =>
      obtain ⟨t', vs', hr, hfill⟩ := fillNumeric_rewrite fuel prev' after numbered hlen hbound'
        hplain'
      refine ⟨p.text ++ t', vs', by simp [rewrite_of_name_none hp, hr, escaped], ?_⟩
      rw [fillNumeric_text hstep (fun hpc => takeWhile_eq_nil_of_head? (hhead hr) (hcolon hpc))
        (sameQuotes_rewrite_scanFrom (by decide) hr), hfill, bindPieces_of_name_none hp]
    | some n =>
      cases hstep
      case placeholder d r _ hd =>
        cases hp
        obtain ⟨v, hv⟩ := Option.isSome_iff_exists.mp (hbound _ List.mem_cons_self)
        have hnext := takeWhile_isDigit_dropWhile_isWordChar r
        cases hi : numbered.idxOf? (String.ofList (d :: r.takeWhile Text.isWordChar)) with
        | some i =>
          obtain ⟨t', vs', hr, hfill⟩ := fillNumeric_rewrite fuel _ _ numbered hlen hbound'
            hplain'
          obtain ⟨hlt, hat, -⟩ := List.idxOf?_eq_some_iff.mp hi
          refine ⟨':' :: (toString (i + 1)).toList ++ t', vs',
            by simp only [rewrite, hv, hi, hr]; rfl, ?_⟩
          rw [fillNumeric_mark ?_ (takeWhile_eq_nil_of_head? (hhead hr) hnext), hfill]
          · simp only [bindPieces, hv]
            rfl
          · rw [List.getElem?_append_left (by simpa using hlt), List.getElem?_map,
              List.getElem?_eq_getElem hlt, hat]
            simp only [Option.map_some, hv, Option.getD_some]
        | none =>
          obtain ⟨t', vs', hr, hfill⟩ := fillNumeric_rewrite fuel _ _
            (numbered ++ [String.ofList (d :: r.takeWhile Text.isWordChar)]) hlen hbound' hplain'
          refine ⟨':' :: (toString (numbered.length + 1)).toList ++ t', v :: vs',
            by simp only [rewrite, hv, hi, hr]; rfl, ?_⟩
          have hvalues : (numbered ++ [String.ofList (d :: r.takeWhile Text.isWordChar)]).map
              (fun n => (params.lookup n).getD .none) ++ vs' =
              numbered.map (fun n => (params.lookup n).getD .none) ++ v :: vs' := by
            simp only [List.map_append, List.map_cons, List.map_nil, hv, Option.getD_some,
              List.append_assoc, List.singleton_append]
          rw [fillNumeric_mark ?_ (takeWhile_eq_nil_of_head? (hhead hr) hnext), ← hvalues, hfill]
          · simp only [bindPieces, hv]
            rfl
          · simp
      all_goals cases hp

theorem escaped_percent {style : ParamStyle} (h : style = .format ∨ style = .pyformat)
    (p : Piece) :
    escaped style p = p.text.flatMap (fun c => if c = '%' then ['%', '%'] else [c]) := by
  rcases h with rfl | rfl <;> rfl

theorem fillFormat_char {c : Char} (hc : c ≠ '%') (rest : List Char) (vs : List Value) :
    fillFormat (c :: rest) vs = (.char c :: ·) <$> fillFormat rest vs := by
  rw [fillFormat.eq_def]
  split <;> simp_all

theorem fillFormat_doubled (l rest : List Char) (vs : List Value) :
    fillFormat (l.flatMap (fun c => if c = '%' then ['%', '%'] else [c]) ++ rest) vs =
      (l.map .char ++ ·) <$> fillFormat rest vs := by
  induction l with
  | nil => simp
  | cons c l ih =>
    by_cases hc : c = '%'
    · subst hc
      simp [fillFormat, ih, Function.comp_def]
    · simp [hc, fillFormat_char hc, ih, Function.comp_def]

/-- Whatever its pieces, a text rewritten for a format driver runs, with the gathered values,
the statement the pieces stand for. -/
theorem fillFormat_rewrite {params : List (String × Value)} :
    ∀ (ps : List Piece) (numbered : List String),
      (∀ n, .placeholder n ∈ ps → (params.lookup n).isSome) →
      ∃ t vs, rewrite .format params ps numbered = .ok (t, vs) ∧
        fillFormat t vs = bindPieces params ps
  | [], _, _ => ⟨[], [], by simp [rewrite], by simp [fillFormat, bindPieces]⟩
  | p :: ps, numbered, hbound => by
    obtain ⟨t', vs', hr, hfill⟩ :=
      fillFormat_rewrite ps numbered (fun n hn => hbound n (List.mem_cons_of_mem p hn))
    cases hp : p.name? with
    | none =>
      refine ⟨escaped .format p ++ t', vs', by simp [rewrite_of_name_none hp, hr], ?_⟩
      rw [escaped_percent (.inl rfl), fillFormat_doubled, hfill, bindPieces_of_name_none hp]
    | some n =>
      obtain rfl := Piece.eq_placeholder_of_name? hp
      obtain ⟨v, hv⟩ := Option.isSome_iff_exists.mp (hbound n List.mem_cons_self)
      refine ⟨'%' :: 's' :: t', v :: vs', by simp only [rewrite, hv, hr]; rfl, ?_⟩
      simp only [fillFormat, hfill, bindPieces, hv]
      rfl

theorem markerName_of_not_mem {name : List Char} (hname : ')' ∉ name) (after : List Char) :
    markerName (name ++ ')' :: 's' :: after) = some (name, after) := by
  induction name with
  | nil => simp [markerName]
  | cons c name ih =>
    have hc : c ≠ ')' := fun h => hname (by simp [h])
    simp [markerName, hc, ih (fun h => hname (List.mem_cons_of_mem c h))]

@[simp] theorem fillPyformat_nil (params : List (String × Value)) :
    fillPyformat params [] = some [] := by
  rw [fillPyformat]

theorem fillPyformat_open (params : List (String × Value)) (rest : List Char) :
    fillPyformat params ('%' :: '(' :: rest) =
      match markerName rest with
      | some (name, after) =>
        (params.lookup (String.ofList name)).bind fun v =>
          (.value v :: ·) <$> fillPyformat params after
      | none => none := by
  conv_lhs => rw [fillPyformat.eq_def]
  simp only
  split <;> rename_i h <;> simp only [h]

theorem fillPyformat_char {params : List (String × Value)} {c : Char} (hc : c ≠ '%')
    (rest : List Char) :
    fillPyformat params (c :: rest) = (.char c :: ·) <$> fillPyformat params rest := by
  rw [fillPyformat.eq_def]
  split <;> simp_all

theorem fillPyformat_doubled (params : List (String × Value)) (l rest : List Char) :
    fillPyformat params (l.flatMap (fun c => if c = '%' then ['%', '%'] else [c]) ++ rest) =
      (l.map .char ++ ·) <$> fillPyformat params rest := by
  induction l with
  | nil => simp
  | cons c l ih =>
    by_cases hc : c = '%'
    · subst hc
      simp [fillPyformat, ih, Function.comp_def]
    · simp [hc, fillPyformat_char hc, ih, Function.comp_def]

theorem fillPyformat_mark {params : List (String × Value)} {n : String} {v : Value}
    (hn : ')' ∉ n.toList) (hv : params.lookup n = some v) (rest : List Char) :
    fillPyformat params ('%' :: '(' :: n.toList ++ ')' :: 's' :: rest) =
      (.value v :: ·) <$> fillPyformat params rest := by
  rw [List.cons_append, List.cons_append, fillPyformat_open, markerName_of_not_mem hn]
  simp only [String.ofList_toList, hv]
  rfl

/-- Whatever its pieces, when no name holds a closing parenthesis, a text rewritten for a
pyformat driver runs, with the parameters by name, the statement the pieces stand for. -/
theorem fillPyformat_rewrite {params : List (String × Value)} :
    ∀ (ps : List Piece) (numbered : List String),
      (∀ n, .placeholder n ∈ ps → (params.lookup n).isSome ∧ ')' ∉ n.toList) →
      ∃ t vs, rewrite .pyformat params ps numbered = .ok (t, vs) ∧
        fillPyformat params t = bindPieces params ps
  | [], _, _ => ⟨[], [], by simp [rewrite], by simp [bindPieces]⟩
  | p :: ps, numbered, hnames => by
    obtain ⟨t', vs', hr, hfill⟩ :=
      fillPyformat_rewrite ps numbered (fun n hn => hnames n (List.mem_cons_of_mem p hn))
    cases hp : p.name? with
    | none =>
      refine ⟨escaped .pyformat p ++ t', vs', by simp [rewrite_of_name_none hp, hr], ?_⟩
      rw [escaped_percent (.inr rfl), fillPyformat_doubled, hfill, bindPieces_of_name_none hp]
    | some n =>
      obtain rfl := Piece.eq_placeholder_of_name? hp
      obtain ⟨hbound, hn⟩ := hnames n List.mem_cons_self
      obtain ⟨v, hv⟩ := Option.isSome_iff_exists.mp hbound
      refine ⟨'%' :: '(' :: n.toList ++ ')' :: 's' :: t', vs',
        by simp only [rewrite, hv, hr]; simp, ?_⟩
      rw [fillPyformat_mark hn hv, hfill]
      simp only [bindPieces, hv]
      rfl

/-- The statement a driver of the style runs for a text and its parameters; `none` when the
driver refuses them. -/
def fill : ParamStyle → String → DriverParams → Option (List Bound)
  | .qmark, text, .byPosition vs => fillQmark text.toList vs
  | .format, text, .byPosition vs => fillFormat text.toList vs
  | .pyformat, text, .byName kvs => fillPyformat kvs text.toList
  | .numeric, text, .byPosition vs => fillNumeric vs text.toList
  | _, _, _ => none

theorem bindPieces_isSome {params : List (String × Value)} :
    ∀ {ps : List Piece}, (∀ n, .placeholder n ∈ ps → (params.lookup n).isSome) →
      (bindPieces params ps).isSome
  | [], _ => rfl
  | p :: ps, hbound => by
    have ih := @bindPieces_isSome params ps fun n hn => hbound n (List.mem_cons_of_mem p hn)
    cases hp : p.name? with
    | none => simpa [bindPieces_of_name_none hp] using ih
    | some n =>
      obtain rfl := Piece.eq_placeholder_of_name? hp
      obtain ⟨v, hv⟩ := Option.isSome_iff_exists.mp (hbound n List.mem_cons_self)
      simpa [bindPieces, hv] using ih

theorem rewrite_ok_of_bound (style : ParamStyle) {params : List (String × Value)} :
    ∀ {ps : List Piece} (numbered : List String),
      (∀ n, .placeholder n ∈ ps → (params.lookup n).isSome) →
      ∃ t vs, rewrite style params ps numbered = .ok (t, vs)
  | [], _, _ => ⟨[], [], by cases style <;> rfl⟩
  | p :: ps, numbered, hbound => by
    have ih numbered' := @rewrite_ok_of_bound style params ps numbered'
      fun n hn => hbound n (List.mem_cons_of_mem p hn)
    cases hp : p.name? with
    | none =>
      obtain ⟨t, vs, hr⟩ := ih numbered
      exact ⟨_, _, by rw [rewrite_of_name_none hp, hr]; rfl⟩
    | some n =>
      obtain rfl := Piece.eq_placeholder_of_name? hp
      obtain ⟨v, hv⟩ := Option.isSome_iff_exists.mp (hbound n List.mem_cons_self)
      cases style
      case numeric =>
        cases hi : numbered.idxOf? n
        · obtain ⟨t, vs, hr⟩ := ih (numbered ++ [n])
          exact ⟨_, _, by simp only [rewrite, hv, hi, hr]; rfl⟩
        · obtain ⟨t, vs, hr⟩ := ih numbered
          exact ⟨_, _, by simp only [rewrite, hv, hi, hr]; rfl⟩
      all_goals
        obtain ⟨t, vs, hr⟩ := ih numbered
        exact ⟨_, _, by simp only [rewrite, hv, hr]; rfl⟩

theorem mem_placeholders_of_mem_scan {sql : String} {n : String}
    (h : .placeholder n ∈ scan sql) : n ∈ placeholders sql := by
  rw [placeholders_eq, List.mem_filterMap]
  exact ⟨_, h, rfl⟩

/-- When every placeholder has a value, converting a text succeeds, and the driver of the style
runs what the text stands for with each value in its place. -/
theorem convertParams_fill {sql : String} {params : List (String × Value)} {name : String}
    {style : ParamStyle} (hname : ParamStyle.ofName? name = some style) (hstyle : style ≠ .named)
    (hplain : style = .qmark ∨ style = .numeric →
      fill style sql (.byPosition []) = some (sql.toList.map .char))
    (hbound : ∀ n ∈ placeholders sql, (params.lookup n).isSome) :
    ∃ text dp stmt, convertParams sql (some params) name = .ok (text, some dp) ∧
      bindPieces params (scan sql) = some stmt ∧ fill style text dp = some stmt := by
  have hbound' n (hn : .placeholder n ∈ scan sql) := hbound n (mem_placeholders_of_mem_scan hn)
  obtain ⟨stmt, hstmt⟩ := Option.isSome_iff_exists.mp (bindPieces_isSome hbound')
  have hfuel : sql.toList.length < sql.length + 1 := by
    rw [String.length_toList]
    exact Nat.lt_succ_self _
  have hrun : ∃ t vs, rewrite style params (scan sql) [] = .ok (t, vs) ∧
      fill style (String.ofList t)
        (if style = .pyformat then .byName params else .byPosition vs) =
        bindPieces params (scan sql) := by
    cases style
    case named => exact absurd rfl hstyle
    case qmark =>
      obtain ⟨t, vs, hr, hfill⟩ := fillQmark_rewrite _ _ _ [] hfuel hbound' (hplain (.inl rfl))
      refine ⟨t, vs, hr, ?_⟩
      rw [if_neg (by decide)]
      simp only [fill, String.toList_ofList]
      exact hfill
    case numeric =>
      obtain ⟨t, vs, hr, hfill⟩ := fillNumeric_rewrite _ _ _ [] hfuel hbound' (hplain (.inr rfl))
      rw [List.map_nil, List.nil_append] at hfill
      refine ⟨t, vs, hr, ?_⟩
      rw [if_neg (by decide)]
      simp only [fill, String.toList_ofList]
      exact hfill
    case format =>
      obtain ⟨t, vs, hr, hfill⟩ := fillFormat_rewrite (scan sql) [] hbound'
      refine ⟨t, vs, hr, ?_⟩
      rw [if_neg (by decide)]
      simp only [fill, String.toList_ofList]
      exact hfill
    case pyformat =>
      have hnames n (hn : .placeholder n ∈ scan sql) : (params.lookup n).isSome ∧ ')' ∉ n.toList :=
        ⟨hbound' n hn, fun hm => ne_of_isWordChar (isWordChar_of_mem_scanFrom hn _ hm)
          (by decide) rfl⟩
      obtain ⟨t, vs, hr, hfill⟩ := fillPyformat_rewrite (scan sql) [] hnames
      refine ⟨t, vs, hr, ?_⟩
      rw [if_pos rfl]
      simp only [fill, String.toList_ofList]
      exact hfill
  obtain ⟨t, vs, hr, hfill⟩ := hrun
  exact ⟨_, _, stmt, by simp [convertParams, hname, hstyle, hr], hstmt, hfill.trans hstmt⟩

/-- Rewriting a text for a driver keeps the statement. When every placeholder has a value, the
conversion succeeds and the driver of the style runs, with the parameters it is handed, the
text with each placeholder's value in its place; a qmark or numeric driver has no escape for its
own markers, so for these styles this holds of a text the driver reads as it stands. Whatever
the text, the conversion fails exactly when a placeholder has no value, naming the first. -/
theorem convertParams_keeps_statement {sql : String} {params : List (String × Value)}
    {name : String} {style : ParamStyle} (hname : ParamStyle.ofName? name = some style)
    (hstyle : style ≠ .named) :
    ((style = .qmark ∨ style = .numeric →
        fill style sql (.byPosition []) = some (sql.toList.map .char)) →
      (∀ n ∈ placeholders sql, (params.lookup n).isSome) →
      ∃ text dp stmt, convertParams sql (some params) name = .ok (text, some dp) ∧
        bindPieces params (scan sql) = some stmt ∧ fill style text dp = some stmt) ∧
    (∀ pre n rest, placeholders sql = pre ++ n :: rest →
      (∀ m ∈ pre, (params.lookup m).isSome) → params.lookup n = none →
      convertParams sql (some params) name =
        .error (.value ("Missing value for SQL parameter " ++ Text.quote n ++ "."))) ∧
    ((∃ e, convertParams sql (some params) name = .error e) ↔
      ∃ n ∈ placeholders sql, params.lookup n = none) := by
  refine ⟨convertParams_fill hname hstyle,
    fun _ _ _ hsplit hpre hn => convertParams_first_missing hname hstyle hsplit hpre hn, ?_⟩
  constructor
  · rintro ⟨e, he⟩
    by_contra hall
    obtain ⟨t, vs, hr⟩ := @rewrite_ok_of_bound style params (scan sql) []
      fun n hn => Option.isSome_iff_ne_none.mpr
        fun hnone => hall ⟨n, mem_placeholders_of_mem_scan hn, hnone⟩
    simp [convertParams, hname, hstyle, hr] at he
  · rintro ⟨n, hn, hnone⟩
    obtain ⟨m, hm⟩ : ∃ m, (placeholders sql).find? (fun m => (params.lookup m).isNone) = some m :=
      Option.isSome_iff_exists.mp (List.find?_isSome.mpr ⟨n, hn, by simp [hnone]⟩)
    obtain ⟨hmiss, pre, rest, hsplit, hpre⟩ := List.find?_eq_some_iff_append.mp hm
    exact ⟨_, convertParams_first_missing hname hstyle hsplit
      (fun m' hm' => by simpa using hpre m' hm') (by simpa using hmiss)⟩

/-- A question mark in quotes is no marker: a qmark driver reads such a text as it stands, and
runs the converted text as the text with its value in place. -/
theorem quoted_qmark_keeps_statement :
    ∃ text dp stmt,
      convertParams "SELECT '?', :a" (some [("a", .int 1)]) "qmark" = .ok (text, some dp) ∧
        bindPieces [("a", .int 1)] (scan "SELECT '?', :a") = some stmt ∧
        fill .qmark text dp = some stmt :=
  (convertParams_keeps_statement (show ParamStyle.ofName? "qmark" = some .qmark from rfl)
    (by decide)).1 (fun _ => by simp [fill, fillQmark_cons, literal, closeQuote]) (by
      have hlen : "SELECT '?', :a".length = 14 := by decide
      simp [placeholders, scan, hlen, scanFrom, closeQuote, isNameStart])

/-- A `?` already outside quotes is taken by a qmark driver for a marker: the converted text
has two markers for one value, and the driver refuses what the text stands for. -/
theorem qmark_in_text_breaks_statement :
    convertParams "SELECT ?, :a" (some [("a", .int 1)]) "qmark" =
        .ok ("SELECT ?, ?", some (.byPosition [.int 1])) ∧
      fill .qmark "SELECT ?, ?" (.byPosition [.int 1]) = none ∧
      bindPieces [("a", .int 1)] (scan "SELECT ?, :a") =
        some ("SELECT ?, ".toList.map .char ++ [.value (.int 1)]) := by
  refine ⟨rfl, ?_, rfl⟩
  simp [fill, fillQmark_cons, literal]

end DataMapper.Sql
