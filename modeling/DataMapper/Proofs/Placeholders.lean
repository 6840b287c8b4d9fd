import Mathlib
import DataMapper.Sql.Statement
import DataMapper.Proofs.RoundTrip

namespace DataMapper.Sql

/-- A character the scan takes as it is: no quote, colon or percent sign. -/
def isOrdinary (c : Char) : Bool := c != '\'' && c != '"' && c != ':' && c != '%'

/-- A character that continues a plain name: an ASCII letter or digit, or the underscore. -/
def isNameChar (c : Char) : Bool := c.isAlphanum || c == '_'

/-- A plain name: an ASCII letter or underscore, then ASCII letters, digits and underscores. -/
def isIdent (s : String) : Bool :=
  match s.toList with
  | [] => false
  | c :: cs => isNameStart c && cs.all isNameChar

theorem toNat_lt_of_isAlphanum {c : Char} (h : c.isAlphanum = true) : c.toNat < 128 := by
  simp [Char.isAlphanum, Char.isAlpha, Char.isUpper, Char.isLower, Char.isDigit,
    UInt32.le_iff_toNat_le] at h
  omega

theorem isWordChar_of_isNameChar {c : Char} (h : isNameChar c = true) :
    Text.isWordChar c = true := by
  rcases Bool.or_eq_true_iff.mp h with h | h
  · simp [Text.isWordChar, Text.isAlphanumeric, toNat_lt_of_isAlphanum h, h]
  · simp [Text.isWordChar, beq_iff_eq.mp h]

theorem isOrdinary_of_isNameChar {c : Char} (h : isNameChar c = true) : isOrdinary c = true := by
  rcases Bool.or_eq_true_iff.mp h with h | h
  · have hq : c ≠ '\'' := by rintro rfl; simp at h
    have hd : c ≠ '"' := by rintro rfl; simp at h
    have hc : c ≠ ':' := by rintro rfl; simp at h
    have hp : c ≠ '%' := by rintro rfl; simp at h
    simp [isOrdinary, hq, hd, hc, hp]
  · simp [isOrdinary, beq_iff_eq.mp h]

theorem isNameChar_of_isNameStart {c : Char} (h : isNameStart c = true) : isNameChar c = true := by
  simp only [isNameStart, Bool.or_eq_true] at h
  rcases h with h | h
  · simp [isNameChar, Char.isAlphanum, h]
  · simp [isNameChar, h]

theorem isIdent_iff {s : String} :
    isIdent s = true ↔ ∃ c cs, s.toList = c :: cs ∧ isNameStart c = true ∧
      ∀ d ∈ cs, isNameChar d = true := by
  unfold isIdent
  split
  · rename_i h
    simp [h]
  · rename_i c cs h
    simp [h]

theorem isNameChar_of_mem_isIdent {s : String} (h : isIdent s = true) {c : Char}
    (hc : c ∈ s.toList) : isNameChar c = true := by
  obtain ⟨d, ds, hs, hd, hds⟩ := isIdent_iff.mp h
  rw [hs] at hc
  rcases List.mem_cons.mp hc with rfl | hc
  · exact isNameChar_of_isNameStart hd
  · exact hds c hc

theorem scanFrom_ordinary {fuel : Nat} {prev : Option Char} {c : Char} {rest : List Char}
    (hc : isOrdinary c = true) :
    scanFrom (fuel+1) prev (c :: rest) = .plain c :: scanFrom fuel (some c) rest := by
  simp only [isOrdinary, Bool.and_eq_true, bne_iff_ne, ne_eq] at hc
  obtain ⟨⟨⟨hq, hd⟩, hc⟩, hp⟩ := hc
  simp [scanFrom, hq, hd, hc, hp]

theorem scanFrom_cast {fuel : Nat} {prev : Option Char} {rest : List Char} :
    scanFrom (fuel+1) prev (':' :: ':' :: rest) = .cast :: scanFrom fuel (some ':') rest := by
  simp [scanFrom]

theorem scanFrom_placeholder {fuel : Nat} {prev : Option Char} {n : String} {rest : List Char}
    (hn : isIdent n = true) (hprev : prev ≠ some ':')
    (hrest : ∀ c, rest.head? = some c → Text.isWordChar c = false) :
    scanFrom (fuel+1) prev (':' :: n.toList ++ rest) =
      .placeholder n :: scanFrom fuel n.toList.getLast? rest := by
  obtain ⟨d, ds, hs, hd, hds⟩ := isIdent_iff.mp hn
  have hn' : n = String.ofList (d :: ds) := by rw [← hs, String.ofList_toList]
  subst hn'
  have hword : ∀ c ∈ ds, Text.isWordChar c = true := fun c hc =>
    isWordChar_of_isNameChar (hds c hc)
  have hstop : rest.takeWhile Text.isWordChar = [] := by
    cases rest with
    | nil => rfl
    | cons c r => simp [hrest c rfl]
  have hdrop : rest.dropWhile Text.isWordChar = rest := by
    cases rest with
    | nil => rfl
    | cons c r => simp [hrest c rfl]
  have hlast : (d :: ds).getLast? = some ((d :: ds).getLast (List.cons_ne_nil d ds)) :=
    List.getLast?_eq_some_getLast _
  have hdc : d ≠ ':' := by
    intro h
    subst h
    simp [isNameStart] at hd
  simp only [scanFrom, List.cons_append, String.toList_ofList,
    show ¬(':' = '\'' ∨ ':' = '"') by decide, if_false, if_true]
  simp [hprev, hd, List.takeWhile_append_of_pos hword, List.dropWhile_append_of_pos hword,
    hstop, hdrop, hlast]

theorem closeQuote_dquote {s rest : List Char} (hs : '"' ∉ s) (hrest : rest.head? ≠ some '"') :
    closeQuote '"' (s ++ '"' :: rest) = some (s ++ ['"'], rest) := by
  induction s with
  | nil =>
    cases rest with
    | nil => simp [closeQuote]
    | cons c r =>
      have hc : c ≠ '"' := fun h => hrest (by simp [h])
      simp [closeQuote, hc]
  | cons c s ih =>
    have hc : c ≠ '"' := fun h => hs (by simp [h])
    rw [List.cons_append, closeQuote.eq_def]
    simp only [if_neg hc, ih (fun h => hs (List.mem_cons_of_mem c h))]
    rfl

theorem scanFrom_dquoted {fuel : Nat} {prev : Option Char} {s rest : List Char} (hs : '"' ∉ s)
    (hrest : rest.head? ≠ some '"') :
    scanFrom (fuel+1) prev ('"' :: (s ++ '"' :: rest)) =
      .quoted ('"' :: (s ++ ['"'])) :: scanFrom fuel (some '"') rest := by
  have hlast : ('"' :: (s ++ ['"'])).getLast? = some '"' := by
    rw [← List.cons_append, List.getLast?_concat]
  simp [scanFrom, closeQuote_dquote hs hrest, hlast]

theorem getLast?_cons_or (c : Char) (cs : List Char) (prev : Option Char) :
    (c :: cs).getLast?.or prev = cs.getLast?.or (some c) := by
  cases h : cs.getLast? <;> simp [List.getLast?_cons, h]

/-- Ordinary characters are read one by one; the character before what follows is the last
of them, never a colon. -/
theorem scanFrom_ordinaries {cs rest : List Char} (hcs : ∀ c ∈ cs, isOrdinary c = true)
    (prev : Option Char) (fuel : Nat) (hfuel : (cs ++ rest).length < fuel) :
    ∃ fuel', rest.length < fuel' ∧
      scanFrom fuel prev (cs ++ rest) = cs.map .plain ++ scanFrom fuel' (cs.getLast?.or prev) rest ∧
      (cs.getLast?.or prev = some ':' → cs = [] ∧ prev = some ':') := by
  induction cs generalizing prev fuel with
  | nil => exact ⟨fuel, by simpa using hfuel, by simp, fun h => ⟨rfl, by simpa using h⟩⟩
  | cons c cs ih =>
    obtain ⟨f, rfl⟩ : ∃ f, fuel = f + 1 := ⟨fuel - 1, by simp at hfuel; omega⟩
    have hc := hcs c (.head cs)
    obtain ⟨fuel', hlt, heq, hcolon⟩ := ih (fun d hd => hcs d (.tail c hd)) (some c) f
      (by simp at hfuel ⊢; omega)
    refine ⟨fuel', hlt, ?_, ?_⟩
    · rw [List.cons_append, scanFrom_ordinary hc, heq, getLast?_cons_or]
      rfl
    · rw [getLast?_cons_or]
      intro h
      obtain ⟨-, hc'⟩ := hcolon h
      cases hc'
      simp [isOrdinary] at hc

/-- A segment of a generated statement: keywords and punctuation, a quoted identifier, a
placeholder, or a cast. -/
inductive Seg
  | text (cs : List Char)
  | ident (q : Quoting) (s : String)
  | param (n : String)
  | cast

namespace Seg

/-- The characters of a segment. -/
def render : Seg → List Char
  | .text cs => cs
  | .ident q s => (q.apply s).toList
  | .param n => ':' :: n.toList
  | .cast => [':', ':']

attribute [simp] render.eq_1 render.eq_2 render.eq_3 render.eq_4

/-- The pieces the scan reads a segment as. -/
def pieces : Seg → List Piece
  | .text cs => cs.map .plain
  | .ident q s =>
    if q = .enclosed '"' then [.quoted (q.apply s).toList] else (q.apply s).toList.map .plain
  | .param n => [.placeholder n]
  | .cast => [.cast]

/-- The name of a placeholder segment. -/
def param? : Seg → Option String
  | .text _ => none
  | .ident _ _ => none
  | .param n => some n
  | .cast => none

attribute [simp] param?.eq_1 param?.eq_2 param?.eq_3 param?.eq_4

/-- A segment as the generators write it: text of ordinary characters, plain names quoted as
the families quote them, placeholders named by plain names. -/
def Valid : Seg → Prop
  | .text cs => ∀ c ∈ cs, isOrdinary c = true
  | .ident q s =>
    isIdent s = true ∧ (q = .bare ∨ q = .enclosed '"' ∨ q = .enclosed '`' ∨ q = .brackets)
  | .param n => isIdent n = true
  | .cast => True

/-- What a segment needs of the character after it: a placeholder, no word character; an
identifier in double quotes, no double quote; a cast, no colon. -/
def Before : Seg → Option Char → Prop
  | .param _, next => ∀ c, next = some c → Text.isWordChar c = false
  | .ident q _, next => q = .enclosed '"' → next ≠ some '"'
  | .cast, next => next ≠ some ':'
  | .text _, _ => True

end Seg

/-- Segments that follow one another as the scan needs, before the character `next` (none at
the end of the text). -/
def Fits : List Seg → Option Char → Prop
  | [], _ => True
  | s :: rest, next => s.Valid ∧ s.Before ((rest.flatMap Seg.render).head?.or next) ∧ Fits rest next

theorem ident_ordinary {q : Quoting} {s : String} (hs : isIdent s = true)
    (hq : q = .bare ∨ q = .enclosed '`' ∨ q = .brackets) :
    ∀ c ∈ (q.apply s).toList, isOrdinary c = true := by
  have hname : ∀ c ∈ s.toList, isOrdinary c = true := fun c hc =>
    isOrdinary_of_isNameChar (isNameChar_of_mem_isIdent hs hc)
  rcases hq with rfl | rfl | rfl
  · exact hname
  · intro c hc
    simp only [Quoting.apply, String.toList_ofList, List.mem_cons, List.mem_append,
      List.not_mem_nil, or_false] at hc
    rcases hc with (rfl | hc) | rfl
    · decide
    · exact hname c hc
    · decide
  · intro c hc
    simp only [Quoting.apply, String.toList_append, List.mem_append] at hc
    rcases hc with (hc | hc) | hc
    · simp at hc; subst hc; decide
    · exact hname c hc
    · simp at hc; subst hc; decide

/-- The scan reads a segment back as its pieces, when what follows suits it and no colon
stands before a placeholder; after it, the character before is the segment's last, or the
one before the segment when it is empty, and only a cast leaves a colon there. -/
theorem scanFrom_seg {s : Seg} (hs : s.Valid) {rest : List Char} (hb : s.Before rest.head?)
    (prev : Option Char) (hprev : prev = some ':' → (s.render ++ rest).head? ≠ some ':')
    (fuel : Nat) (hfuel : (s.render ++ rest).length < fuel) :
    ∃ fuel', rest.length < fuel' ∧
      scanFrom fuel prev (s.render ++ rest) =
        s.pieces ++ scanFrom fuel' (s.render.getLast?.or prev) rest ∧
      (s.render.getLast?.or prev = some ':' → rest.head? ≠ some ':') := by
  cases s with
  | text cs =>
    obtain ⟨fuel', hlt, heq, hcolon⟩ := scanFrom_ordinaries hs prev fuel hfuel
    refine ⟨fuel', hlt, heq, fun h => ?_⟩
    obtain ⟨rfl, hp⟩ := hcolon h
    simpa [Seg.render] using hprev hp
  | ident q name =>
    obtain ⟨hname, hq⟩ := hs
    by_cases hd : q = .enclosed '"'
    · subst hd
      obtain ⟨f, rfl⟩ : ∃ f, fuel = f + 1 := ⟨fuel - 1, by simp at hfuel; omega⟩
      have hno : '"' ∉ name.toList := fun h => by
        have := isOrdinary_of_isNameChar (isNameChar_of_mem_isIdent hname h)
        simp [isOrdinary] at this
      have hr : (Quoting.enclosed '"').apply name = String.ofList ('"' :: (name.toList ++ ['"'])) :=
        rfl
      have hlast : ('"' :: (name.toList ++ ['"'])).getLast? = some '"' := by
        rw [← List.cons_append, List.getLast?_concat]
      refine ⟨f, by simp [Seg.render, hr] at hfuel; omega, ?_, ?_⟩
      · simp only [Seg.render, Seg.pieces, hr, String.toList_ofList, if_true, List.cons_append,
          List.append_assoc, List.nil_append]
        rw [scanFrom_dquoted hno (hb rfl), hlast, Option.some_or]
      · simp [Seg.render, hr, hlast]
    · have hq' : q = .bare ∨ q = .enclosed '`' ∨ q = .brackets := by
        rcases hq with h | h | h <;> simp_all
      obtain ⟨fuel', hlt, heq, hcolon⟩ := scanFrom_ordinaries (ident_ordinary hname hq') prev fuel hfuel
      refine ⟨fuel', hlt, by simpa [Seg.render, Seg.pieces, hd] using heq, fun h => ?_⟩
      obtain ⟨hempty, -⟩ := hcolon h
      obtain ⟨c, cs, hcs, -, -⟩ := isIdent_iff.mp hname
      rcases hq' with rfl | rfl | rfl <;> simp [Quoting.apply, hcs] at hempty
  | param n =>
    obtain ⟨f, rfl⟩ : ∃ f, fuel = f + 1 := ⟨fuel - 1, by simp at hfuel; omega⟩
    have hp : prev ≠ some ':' := fun h => hprev h (by simp [Seg.render])
    obtain ⟨c, cs, hcs, hc, hcs'⟩ := isIdent_iff.mp hs
    have hlast : (Seg.render (.param n)).getLast?.or prev = n.toList.getLast? := by
      simp [Seg.render, hcs, List.getLast?_cons]
    refine ⟨f, by simp [Seg.render] at hfuel; omega, ?_, ?_⟩
    · rw [hlast]
      exact scanFrom_placeholder hs hp hb
    · rw [hlast]
      intro h
      have hmem := List.mem_of_getLast? h
      have := isOrdinary_of_isNameChar (isNameChar_of_mem_isIdent hs hmem)
      simp [isOrdinary] at this
  | cast =>
    obtain ⟨f, rfl⟩ : ∃ f, fuel = f + 1 := ⟨fuel - 1, by simp at hfuel; omega⟩
    refine ⟨f, by simp [Seg.render] at hfuel; omega, ?_, fun _ => hb⟩
    simp [Seg.render, Seg.pieces, scanFrom_cast]

theorem scanFrom_segs {segs : List Seg} (h : Fits segs none) (prev : Option Char)
    (hprev : prev = some ':' → (segs.flatMap Seg.render).head? ≠ some ':') (fuel : Nat)
    (hfuel : (segs.flatMap Seg.render).length < fuel) :
    scanFrom fuel prev (segs.flatMap Seg.render) = segs.flatMap Seg.pieces := by
  induction segs generalizing prev fuel with
  | nil =>
    cases fuel with
    | zero => rfl
    | succ f => simp [scanFrom]
  | cons s segs ih =>
    obtain ⟨hs, hb, hrest⟩ := h
    rw [Option.or_none] at hb
    rw [List.flatMap_cons] at hprev hfuel ⊢
    obtain ⟨fuel', hlt, heq, hcolon⟩ := scanFrom_seg hs hb prev hprev fuel hfuel
    rw [heq, ih hrest _ hcolon fuel' hlt, List.flatMap_cons]

/-- The placeholders of a statement written as fitting segments are its placeholder segments'
names, in order. -/
theorem placeholders_of_segs {sql : String} {segs : List Seg} (hsql : sql.toList = segs.flatMap Seg.render)
    (h : Fits segs none) : placeholders sql = segs.filterMap Seg.param? := by
  have hscan : scan sql = segs.flatMap Seg.pieces := by
    unfold scan
    rw [hsql, scanFrom_segs h none (fun h => by cases h) _
      (by rw [← hsql, String.length_toList]; omega)]
  rw [placeholders, hscan]
  clear hsql h hscan
  induction segs with
  | nil => rfl
  | cons s segs ih =>
    rw [List.flatMap_cons, List.filterMap_append, ih]
    cases s with
    | text cs => simp [Seg.pieces, Seg.param?, List.filterMap_map, List.filterMap_cons]
    | ident q name =>
      by_cases hd : q = .enclosed '"' <;>
        simp [Seg.pieces, Seg.param?, hd, List.filterMap_map, List.filterMap_cons]
    | param n => simp [Seg.pieces, Seg.param?]
    | cast => simp [Seg.pieces, Seg.param?, List.filterMap_cons]

/-- The name of a placeholder piece. -/
def Piece.name? : Piece → Option String
  | .placeholder n => some n
  | _ => none

theorem placeholders_eq (sql : String) : placeholders sql = (scan sql).filterMap Piece.name? :=
  rfl

/-- What a driver style writes for the placeholder numbered `k`, named `n`. -/
def marker (style : ParamStyle) (k : Nat) (n : String) : List Char :=
  match style with
  | .qmark => ['?']
  | .format => ['%', 's']
  | .pyformat => '%' :: '(' :: n.toList ++ [')', 's']
  | .numeric => ':' :: (toString k).toList
  | .named => ':' :: n.toList

/-- A piece other than a placeholder as a driver style writes it: the percent styles double a
percent sign. -/
def escaped (style : ParamStyle) (p : Piece) : List Char :=
  if style == .format || style == .pyformat then
    p.text.flatMap (fun c => if c = '%' then ['%', '%'] else [c])
  else p.text

/-- The text a driver gets: each placeholder replaced by its marker, numbered from `k` in
order. -/
def emit (style : ParamStyle) : Nat → List Piece → List Char
  | _, [] => []
  | k, p :: ps =>
    match p.name? with
    | some n => marker style k n ++ emit style (k+1) ps
    | none => escaped style p ++ emit style k ps

theorem emit_index {style : ParamStyle} (h : style ≠ .numeric) (ps : List Piece) (k k' : Nat) :
    emit style k ps = emit style k' ps := by
  induction ps generalizing k k' with
  | nil => rfl
  | cons p ps ih =>
    cases hp : p.name? with
    | none => simp [emit, hp, ih k k']
    | some n =>
      have hm : marker style k n = marker style k' n := by
        cases style <;> first | exact absurd rfl h | rfl
      simp only [emit, hp, hm, ih (k + 1) (k' + 1)]

/-- Rewriting pieces whose placeholders are distinct, new and all given a value: each
placeholder gets the next number and its marker, and the positional styles gather the values in
the order of the placeholders. -/
theorem rewrite_eq {style : ParamStyle} (hstyle : style ≠ .named) (params : List (String × Value))
    (ps : List Piece) (numbered : List String) (hnd : (ps.filterMap Piece.name?).Nodup)
    (hnew : ∀ n ∈ ps.filterMap Piece.name?, n ∉ numbered)
    (hbound : ∀ n ∈ ps.filterMap Piece.name?, (params.lookup n).isSome) :
    rewrite style params ps numbered =
      .ok (emit style (numbered.length + 1) ps,
        if style = .pyformat then []
        else (ps.filterMap Piece.name?).map fun n => (params.lookup n).getD .none) := by
  induction ps generalizing numbered with
  | nil => cases style <;> simp [rewrite, emit]
  | cons p ps ih =>
    cases p with
    | placeholder n =>
      simp only [List.filterMap_cons, Piece.name?, List.nodup_cons, List.mem_cons,
        forall_eq_or_imp] at hnd hnew hbound
      obtain ⟨v, hv⟩ := Option.isSome_iff_exists.mp hbound.1
      have hrest : ∀ m ∈ ps.filterMap Piece.name?, m ∉ numbered ++ [n] := by
        intro m hm
        simp only [List.mem_append, List.mem_singleton, not_or]
        exact ⟨hnew.2 m hm, fun h => hnd.1 (h ▸ hm)⟩
      cases style
      case named => exact absurd rfl hstyle
      case numeric =>
        have hidx : numbered.idxOf? n = none := List.idxOf?_eq_none_iff.mpr hnew.1
        simp [rewrite, emit, marker, Piece.name?, hv, hidx,
          ih (numbered ++ [n]) hnd.2 hrest hbound.2]
      all_goals
        simp [rewrite, emit, marker, Piece.name?, hv, ih numbered hnd.2 hnew.2 hbound.2]
        exact emit_index (by decide) ps _ _
    | _ =>
      simp only [List.filterMap_cons, Piece.name?] at hnd hnew hbound
      simp [rewrite, emit, escaped, Piece.name?, List.filterMap_cons, ih numbered hnd hnew hbound]

/-- Converting a text whose placeholders are distinct and all given a value succeeds for every
style a driver names: the text gets each placeholder's marker, and a positional style gets the
values in the order of the placeholders. -/
theorem convertParams_eq {sql : String} {params : List (String × Value)} {name : String}
    {style : ParamStyle} (hname : ParamStyle.ofName? name = some style) (hstyle : style ≠ .named)
    (hnd : (placeholders sql).Nodup) (hbound : ∀ n ∈ placeholders sql, (params.lookup n).isSome) :
    convertParams sql (some params) name =
      .ok (String.ofList (emit style 1 (scan sql)),
        some (if style = .pyformat then .byName params
          else .byPosition ((placeholders sql).map fun n => (params.lookup n).getD .none))) := by
  rw [placeholders_eq] at hnd hbound ⊢
  have hrw := rewrite_eq hstyle params (scan sql) [] hnd (by simp) hbound
  simp only [List.length_nil, Nat.zero_add] at hrw
  by_cases hpy : style = .pyformat
  · subst hpy
    simp [convertParams, hname, hrw]
  · simp [convertParams, hname, hstyle, hrw, hpy]

theorem Piece.eq_placeholder_of_name? {p : Piece} {n : String} (h : p.name? = some n) :
    p = .placeholder n := by
  cases p <;> simp_all [Piece.name?]

theorem rewrite_of_name_none {style : ParamStyle} {params : List (String × Value)} {p : Piece}
    (hp : p.name? = none) (ps : List Piece) (numbered : List String) :
    rewrite style params (p :: ps) numbered =
      (fun r => (escaped style p ++ r.1, r.2)) <$> rewrite style params ps numbered := by
  cases p <;> (try cases hp) <;> cases hr : rewrite style params ps numbered <;>
    simp [rewrite, hr, escaped]

theorem rewrite_first_missing (style : ParamStyle) {params : List (String × Value)}
    {pre : List Piece} (hpre : ∀ m, .placeholder m ∈ pre → (params.lookup m).isSome)
    {n : String} (hn : params.lookup n = none) (rest : List Piece) (numbered : List String) :
    rewrite style params (pre ++ .placeholder n :: rest) numbered =
      .error (.value ("Missing value for SQL parameter " ++ Text.quote n ++ ".")) := by
  induction pre generalizing numbered with
  | nil => simp [rewrite, hn]
  | cons p pre ih =>
    have ih' := ih fun m hm => hpre m (List.mem_cons_of_mem p hm)
    rw [List.cons_append]
    cases hp : p.name? with
    | none =>
      rw [rewrite_of_name_none hp, ih']
      rfl
    | some m =>
      obtain rfl := Piece.eq_placeholder_of_name? hp
      obtain ⟨v, hv⟩ := Option.isSome_iff_exists.mp (hpre m List.mem_cons_self)
      cases style
      case numeric => cases hi : numbered.idxOf? m <;> simp only [rewrite, hv, hi, ih'] <;> rfl
      all_goals simp only [rewrite, hv, ih']; rfl

theorem convertParams_first_missing {sql : String} {params : List (String × Value)}
    {name : String} {style : ParamStyle} (hname : ParamStyle.ofName? name = some style)
    (hstyle : style ≠ .named) {pre : List String} {n : String} {rest : List String}
    (hsplit : placeholders sql = pre ++ n :: rest) (hpre : ∀ m ∈ pre, (params.lookup m).isSome)
    (hn : params.lookup n = none) :
    convertParams sql (some params) name =
      .error (.value ("Missing value for SQL parameter " ++ Text.quote n ++ ".")) := by
  rw [placeholders_eq, List.filterMap_eq_append_iff] at hsplit
  obtain ⟨l₁, l₂, hscan, hl₁, hl₂⟩ := hsplit
  obtain ⟨l₂', p, l₂'', rfl, hnone, hp, -⟩ := List.filterMap_eq_cons_iff.mp hl₂
  obtain rfl := Piece.eq_placeholder_of_name? hp
  have hbefore : ∀ m, .placeholder m ∈ l₁ ++ l₂' → (params.lookup m).isSome := by
    intro m hm
    rcases List.mem_append.mp hm with hm | hm
    · exact hpre m (hl₁ ▸ List.mem_filterMap.mpr ⟨_, hm, rfl⟩)
    · exact absurd (hnone _ hm) (by simp [Piece.name?])
  have hr := rewrite_first_missing style hbefore hn l₂'' []
  rw [List.append_assoc, ← hscan] at hr
  simp [convertParams, hname, hstyle, hr]

/-- Converting for a positional or percent style fails at the text's first placeholder when it
has no value. -/
theorem convertParams_missing {sql : String} {params : List (String × Value)} {name : String}
    {style : ParamStyle} (hname : ParamStyle.ofName? name = some style) (hstyle : style ≠ .named)
    {n : String} {ns : List String} (hfirst : placeholders sql = n :: ns)
    (hn : params.lookup n = none) :
    convertParams sql (some params) name =
      .error (.value ("Missing value for SQL parameter " ++ Text.quote n ++ ".")) :=
  convertParams_first_missing hname hstyle (hfirst : placeholders sql = [] ++ n :: ns)
    (fun _ h => absurd h List.not_mem_nil) hn

end DataMapper.Sql
