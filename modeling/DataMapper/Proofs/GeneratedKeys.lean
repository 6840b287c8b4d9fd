import DataMapper.Mapper.Write
import DataMapper.Proofs.Statements
import DataMapper.Proofs.Steps

namespace DataMapper

namespace Text

/-- A word with a blank on each side: how a clause of its own stands in a statement. -/
def spaced (w : List Char) : List Char := ' ' :: w ++ [' ']

theorem cons_infix_append_iff {c : Char} {p v r : List Char} (hv : c ∉ v) :
    c :: p <:+: v ++ r ↔ c :: p <:+: r := by
  induction v with
  | nil => rfl
  | cons b v ih =>
    simp only [List.mem_cons, not_or] at hv
    rw [List.cons_append, List.infix_cons_iff, ih hv.2, List.cons_prefix_cons]
    simp [hv.1]

/-- A word and a blank start a text of a word and a blank exactly when the two words agree,
neither holding a blank. -/
theorem append_blank_prefix_iff {w u r : List Char} (hw : ' ' ∉ w) (hu : ' ' ∉ u) :
    w ++ [' '] <+: u ++ ' ' :: r ↔ w = u := by
  induction w generalizing u with
  | nil =>
    cases u with
    | nil => simp
    | cons b u =>
      simp only [List.mem_cons, not_or] at hu
      simpa [List.cons_prefix_cons] using hu.1
  | cons a w ih =>
    simp only [List.mem_cons, not_or] at hw
    cases u with
    | nil => simpa [List.cons_prefix_cons] using fun h => absurd h.symm hw.1
    | cons b u =>
      simp only [List.mem_cons, not_or] at hu
      rw [List.cons_append, List.cons_append, List.cons_prefix_cons, ih hw.2 hu.2, List.cons.injEq]

/-- A word without blanks stands between two blanks of a text of words joined by single blanks
only as one of its words. -/
theorem mem_of_spaced_isInfix {w : List Char} {ws : List (List Char)} (hw : ' ' ∉ w)
    (hws : ∀ u ∈ ws, ' ' ∉ u) (h : spaced w <:+: [' '].intercalate ws) : w ∈ ws := by
  induction ws with
  | nil => exact absurd (List.IsInfix.length_le h) (by simp [spaced])
  | cons u rest ih =>
    have hu : ' ' ∉ u := hws u (by simp)
    cases rest with
    | nil =>
      rw [List.intercalate_singleton] at h
      exact absurd (h.subset (List.mem_cons_self ..)) hu
    | cons v rest =>
      rw [List.intercalate_cons_cons, List.append_assoc, List.singleton_append, spaced,
        List.cons_append, cons_infix_append_iff hu, List.infix_cons_iff] at h
      rcases h with h | h
      · rw [List.cons_prefix_cons] at h
        have hv : ' ' ∉ v := hws v (by simp)
        cases rest with
        | nil =>
          rw [List.intercalate_singleton] at h
          exact absurd (h.2.subset (by simp)) hv
        | cons x rest =>
          rw [List.intercalate_cons_cons, List.append_assoc, List.singleton_append,
            append_blank_prefix_iff hw hv] at h
          simp [h.2]
      · exact List.mem_cons_of_mem _ (ih (fun x hx => hws x (List.mem_cons_of_mem _ hx)) h)

theorem intercalate_append_of_ne_nil {sep : List Char} {ws vs : List (List Char)} (hws : ws ≠ [])
    (hvs : vs ≠ []) :
    sep.intercalate (ws ++ vs) = sep.intercalate ws ++ sep ++ sep.intercalate vs := by
  induction ws with
  | nil => exact absurd rfl hws
  | cons u ws ih =>
    cases ws with
    | nil => simp [List.intercalate_cons_of_ne_nil hvs]
    | cons u' ws =>
      simp only [List.cons_append] at ih ⊢
      rw [List.intercalate_cons_cons, ih (List.cons_ne_nil _ _), List.intercalate_cons_cons]
      simp

/-- A word between two others of a text of words joined by single blanks stands between two
blanks. -/
theorem spaced_infix_of_inner {w : List Char} {pre post : List (List Char)} (hpre : pre ≠ [])
    (hpost : post ≠ []) : spaced w <:+: [' '].intercalate (pre ++ w :: post) := by
  refine ⟨[' '].intercalate pre, [' '].intercalate post, ?_⟩
  rw [intercalate_append_of_ne_nil hpre (List.cons_ne_nil _ _),
    List.intercalate_cons_of_ne_nil hpost]
  simp [spaced]

theorem blank_intercalate_cons (w : List Char) (ws : List (List Char)) :
    [' '].intercalate (w :: ws) = w ++ ws.flatMap (' ' :: ·) := by
  induction ws generalizing w with
  | nil => simp
  | cons v ws ih => simp [ih]

theorem flatMap_blank_cons {ws : List (List Char)} (hws : ws ≠ []) :
    ws.flatMap (' ' :: ·) = ' ' :: [' '].intercalate ws := by
  obtain ⟨w, ws, rfl⟩ := List.exists_cons_of_ne_nil hws
  simp [blank_intercalate_cons]

/-- A word of ASCII characters without a blank. -/
def AsciiWord (u : List Char) : Prop := ∀ c ∈ u, c.toNat < 128 ∧ c ≠ ' '

theorem AsciiWord.append {u v : List Char} (hu : AsciiWord u) (hv : AsciiWord v) :
    AsciiWord (u ++ v) := by
  intro c hc
  rcases List.mem_append.mp hc with hc | hc
  · exact hu c hc
  · exact hv c hc

theorem asciiWord_of_isIdent {s : String} (hs : Sql.isIdent s = true) : AsciiWord s.toList := by
  obtain ⟨c, cs, hcs, hc, hrest⟩ := Sql.isIdent_iff.mp hs
  have hname : ∀ d ∈ s.toList, Sql.isNameChar d = true := by
    rw [hcs]
    rintro d (_ | ⟨_, hd⟩)
    · exact Sql.isNameChar_of_isNameStart hc
    · exact hrest d hd
  intro d hd
  have hd' := hname d hd
  simp only [Sql.isNameChar, Bool.or_eq_true, beq_iff_eq] at hd'
  rcases hd' with hd' | rfl
  · refine ⟨Sql.toNat_lt_of_isAlphanum hd', ?_⟩
    rintro rfl
    exact absurd hd' (by decide)
  · decide

theorem upperChar_of_lt {c : Char} (h : c.toNat < 128) : upperChar c = [c.toUpper] := by
  simp [upperChar, h]

theorem upperList_of_ascii {cs : List Char} (h : ∀ c ∈ cs, c.toNat < 128) :
    upperList cs = cs.map Char.toUpper := by
  induction cs with
  | nil => rfl
  | cons c cs ih =>
    simp only [List.mem_cons, forall_eq_or_imp] at h
    simp [upperList, upperChar_of_lt h.1, ← ih h.2]

theorem upperList_blank : upperList [' '] = [' '] := by decide

theorem upperList_blank_intercalate (ws : List (List Char)) :
    upperList ([' '].intercalate ws) = [' '].intercalate (ws.map upperList) := by
  induction ws with
  | nil => rfl
  | cons u ws ih =>
    cases ws with
    | nil => simp
    | cons v ws =>
      rw [List.intercalate_cons_cons, List.map_cons, List.map_cons, List.intercalate_cons_cons,
        upperList_append, upperList_append, ← List.map_cons, ih, upperList_blank]

theorem toUpper_eq_self {c : Char} (h : c.isLower = false) : c.toUpper = c := by
  unfold Char.toUpper
  rw [dif_neg]
  simpa [Char.isLower] using h

theorem toUpper_ne_blank {c : Char} (h : c ≠ ' ') : c.toUpper ≠ ' ' := by
  unfold Char.toUpper
  split
  · rename_i hl
    intro heq
    have hv := congrArg (fun d : Char => d.val.toNat) heq
    have hlo : ('a'.val.toNat = 97) := rfl
    have hhi : ('z'.val.toNat = 122) := rfl
    have hc : c.val.toNat = c.toNat := rfl
    simp only [UInt32.le_iff_toNat_le, hlo, hhi, hc] at hl
    simp [UInt32.toNat_add] at hv
    omega
  · exact h

theorem blank_not_mem_upperList {u : List Char} (hu : AsciiWord u) : ' ' ∉ upperList u := by
  rw [upperList_of_ascii fun c hc => (hu c hc).1]
  simp only [List.mem_map, not_exists, not_and]
  exact fun c hc heq => toUpper_ne_blank (hu c hc).2 heq

theorem mem_upperList_of_not_alpha {u : List Char} (hu : ∀ c ∈ u, c.toNat < 128) {c : Char}
    (hc : c ∈ u) (ha : c.isAlpha = false) : c ∈ upperList u := by
  have hl : c.isLower = false := by
    simp only [Char.isAlpha, Bool.or_eq_false_iff] at ha
    exact ha.2
  rw [upperList_of_ascii hu]
  exact List.mem_map.mpr ⟨c, hc, toUpper_eq_self hl⟩

theorem upperList_ne_of_not_alpha {u w : List Char} (hu : AsciiWord u) {c : Char}
    (hc : c ∈ u) (ha : c.isAlpha = false) (hw : ∀ d ∈ w, d.isAlpha = true) : upperList u ≠ w := by
  rintro rfl
  have := hw c (mem_upperList_of_not_alpha (fun d hd => (hu d hd).1) hc ha)
  simp [ha] at this

end Text

namespace Sql.Generator

open Text

variable (g : Generator) (m : MappedModel)

/-- The words of the items of a list closed by a parenthesis: each item but the last followed by
a comma, the last by the parenthesis. -/
def itemWords : List (List Char) → List (List Char)
  | [] => [[')']]
  | [x] => [x ++ [')']]
  | x :: y :: rest => (x ++ [',']) :: itemWords (y :: rest)

/-- The words of a parenthesised list whose items are separated by a comma and a blank. -/
def listWords (xs : List (List Char)) : List (List Char) := (itemWords xs).modifyHead ('(' :: ·)

/-- The words of the clause before `VALUES` that reports a generated id. -/
def outputWords : List (List Char) :=
  match m.idField with
  | some f =>
    if g.family.output && f.isGenerated then
      ["OUTPUT".toList, ("INSERTED." ++ g.q f.column).toList]
    else []
  | none => []

/-- The words of the clause after the values that reports a generated id. -/
def returningWords : List (List Char) :=
  match m.idField with
  | some f =>
    if g.family.returning && f.isGenerated then ["RETURNING".toList, (g.q f.column).toList]
    else []
  | none => []

/-- The words of an insert, as single blanks separate them. -/
def insertWords (fields : List MappedField) : List (List Char) :=
  if fields.isEmpty then
    ["INSERT".toList, "INTO".toList, (g.tableText m).toList] ++ g.outputWords m ++
      ["DEFAULT".toList, "VALUES".toList] ++ g.returningWords m
  else
    ["INSERT".toList, "INTO".toList, (g.tableText m).toList] ++
      listWords (fields.map fun f => (g.q f.column).toList) ++ g.outputWords m ++
      ["VALUES".toList] ++ listWords (fields.map fun f => (g.fieldPlaceholder f).toList) ++
      g.returningWords m

/-- Whether the generator writes a clause that reports the generated id into an insert. -/
def reportsKey : Bool :=
  match m.idField with
  | some f => f.isGenerated && (g.family.returning || g.family.output)
  | none => false

theorem itemWords_ne_nil (xs : List (List Char)) : itemWords xs ≠ [] := by
  fun_cases itemWords xs <;> simp

theorem intercalate_itemWords (xs : List (List Char)) :
    [' '].intercalate (itemWords xs) = [',', ' '].intercalate xs ++ [')'] := by
  fun_induction itemWords xs with
  | case1 => rfl
  | case2 x => simp
  | case3 x y rest ih =>
    rw [List.intercalate_cons_of_ne_nil (itemWords_ne_nil _), ih, List.intercalate_cons_cons]
    simp

theorem flatMap_listWords (xs : List (List Char)) :
    (listWords xs).flatMap (' ' :: ·) = ' ' :: '(' :: ([',', ' '].intercalate xs ++ [')']) := by
  obtain ⟨w, ws, hw⟩ := List.exists_cons_of_ne_nil (itemWords_ne_nil xs)
  have hinter := intercalate_itemWords xs
  rw [hw] at hinter
  rw [listWords, hw, List.modifyHead_cons, flatMap_blank_cons (List.cons_ne_nil _ _),
    List.intercalate_cons_cons_left, hinter]

/-- Each word of a list closed by a parenthesis is an item, or nothing, followed by a comma or
the parenthesis. -/
theorem mem_itemWords {xs : List (List Char)} {u : List Char} (hu : u ∈ itemWords xs) :
    ∃ x, (x ∈ xs ∨ x = []) ∧ (u = x ++ [','] ∨ u = x ++ [')']) := by
  fun_induction itemWords xs with
  | case1 => exact ⟨[], Or.inr rfl, Or.inr (by simpa using hu)⟩
  | case2 x => exact ⟨x, Or.inl (by simp), Or.inr (by simpa using hu)⟩
  | case3 x y rest ih =>
    rcases List.mem_cons.mp hu with rfl | hu
    · exact ⟨x, Or.inl (by simp), Or.inl rfl⟩
    · obtain ⟨z, hz, hzu⟩ := ih hu
      exact ⟨z, hz.imp (List.mem_cons_of_mem _) id, hzu⟩

theorem mem_listWords {xs : List (List Char)} {u : List Char} (hu : u ∈ listWords xs) :
    ∃ v ∈ itemWords xs, u = v ∨ u = '(' :: v := by
  obtain ⟨w, ws, hw⟩ := List.exists_cons_of_ne_nil (itemWords_ne_nil xs)
  rw [listWords, hw, List.modifyHead_cons] at hu
  rw [hw]
  rcases List.mem_cons.mp hu with rfl | hu
  · exact ⟨w, List.mem_cons_self .., Or.inr rfl⟩
  · exact ⟨u, List.mem_cons_of_mem _ hu, Or.inl rfl⟩

theorem mark_mem_of_mem_listWords {xs : List (List Char)} {u : List Char}
    (hu : u ∈ listWords xs) : ',' ∈ u ∨ ')' ∈ u := by
  obtain ⟨v, hv, huv⟩ := mem_listWords hu
  obtain ⟨x, -, hxv⟩ := mem_itemWords hv
  rcases hxv with rfl | rfl <;> rcases huv with rfl | rfl <;> simp

theorem asciiWord_of_mem_listWords {xs : List (List Char)} (hxs : ∀ x ∈ xs, AsciiWord x)
    {u : List Char} (hu : u ∈ listWords xs) : AsciiWord u := by
  obtain ⟨v, hv, huv⟩ := mem_listWords hu
  obtain ⟨x, hx, hxv⟩ := mem_itemWords hv
  have hxa : AsciiWord x := by
    rcases hx with hx | rfl
    · exact hxs x hx
    · simp [AsciiWord]
  have hva : AsciiWord v := by
    rcases hxv with rfl | rfl
    · exact hxa.append (by simp [AsciiWord])
    · exact hxa.append (by simp [AsciiWord])
  rcases huv with rfl | rfl
  · exact hva
  · exact (show AsciiWord ['('] by simp [AsciiWord]).append hva

theorem outputClause_toList : (g.outputClause m).toList = (g.outputWords m).flatMap (' ' :: ·) := by
  cases h : m.idField with
  | none => simp [outputClause, outputWords, h]
  | some f =>
    simp only [outputClause, outputWords, h]
    split <;> simp

theorem returningClause_toList :
    (g.returningClause m).toList = (g.returningWords m).flatMap (' ' :: ·) := by
  cases h : m.idField with
  | none => simp [returningClause, returningWords, h]
  | some f =>
    simp only [returningClause, returningWords, h]
    split <;> simp

theorem insert_toList (fields : List MappedField) :
    (g.insert m fields).toList = [' '].intercalate (g.insertWords m fields) := by
  unfold insert insertWords
  split
  · simp [blank_intercalate_cons, outputClause_toList, returningClause_toList]
  · simp [blank_intercalate_cons, outputClause_toList, returningClause_toList, flatMap_listWords,
      String.toList_intercalate, Function.comp_def]

theorem insertWords_table (fields : List MappedField) : ∃ post, post ≠ [] ∧
    g.insertWords m fields =
      "INSERT".toList :: "INTO".toList :: (g.tableText m).toList :: post := by
  unfold insertWords
  split
  · exact ⟨_, by simp, rfl⟩
  · refine ⟨_, ?_, rfl⟩
    simp [listWords, itemWords_ne_nil]

theorem insertWords_returning (fields : List MappedField) : ∃ pre, pre ≠ [] ∧
    g.insertWords m fields = pre ++ g.returningWords m := by
  unfold insertWords
  split
  · exact ⟨_, by simp, rfl⟩
  · exact ⟨_, by simp, rfl⟩

theorem insertWords_output (fields : List MappedField) : ∃ pre post, pre ≠ [] ∧ post ≠ [] ∧
    g.insertWords m fields = pre ++ g.outputWords m ++ post := by
  unfold insertWords
  split
  · exact ⟨["INSERT".toList, "INTO".toList, (g.tableText m).toList],
      ["DEFAULT".toList, "VALUES".toList] ++ g.returningWords m, by simp, by simp, by simp⟩
  · exact ⟨["INSERT".toList, "INTO".toList, (g.tableText m).toList] ++
        listWords (fields.map fun f => (g.q f.column).toList),
      ["VALUES".toList] ++ listWords (fields.map fun f => (g.fieldPlaceholder f).toList) ++
        g.returningWords m, by simp, by simp, by simp⟩

variable {g m}

theorem asciiWord_q {s : String} (hs : isIdent s = true) : AsciiWord (g.q s).toList := by
  have hw := asciiWord_of_isIdent hs
  rcases quoting_cases g.family with h | h | h | h <;>
    simp only [q, h, Quoting.apply, String.toList_ofList, String.toList_append]
  · exact hw
  · exact (show AsciiWord ['"'] by simp [AsciiWord]).append (hw.append (by simp [AsciiWord]))
  · exact (show AsciiWord ['`'] by simp [AsciiWord]).append (hw.append (by simp [AsciiWord]))
  · exact (show AsciiWord ['['] by simp [AsciiWord]).append (hw.append (by simp [AsciiWord]))

theorem asciiWord_tableText (hp : PlainNames m) : AsciiWord (g.tableText m).toList := by
  unfold tableText
  split
  · rename_i s hs
    simp only [String.toList_append]
    exact ((asciiWord_q (hp.schema s hs)).append (by simp [AsciiWord])).append
      (asciiWord_q hp.table)
  · exact asciiWord_q hp.table

theorem asciiWord_fieldPlaceholder {f : MappedField} (hf : isIdent f.column = true) :
    AsciiWord (g.fieldPlaceholder f).toList := by
  have hw := asciiWord_of_isIdent hf
  unfold fieldPlaceholder placeholder
  split
  · simpa using (show AsciiWord ['$'] by simp [AsciiWord]).append hw
  · split
    · simpa using ((show AsciiWord [':'] by simp [AsciiWord]).append hw).append
        (show AsciiWord "::jsonb".toList by simp [AsciiWord])
    · simpa using (show AsciiWord [':'] by simp [AsciiWord]).append hw

/-- A word of the output clause: the clause is written for a generated id by a generator that
reports it with `OUTPUT INSERTED`. -/
theorem mem_outputWords {u : List Char} (hu : u ∈ g.outputWords m) :
    ∃ f, m.idField = some f ∧ f.isGenerated = true ∧ g.family.output = true ∧
      (u = "OUTPUT".toList ∨ u = ("INSERTED." ++ g.q f.column).toList) := by
  unfold outputWords at hu
  split at hu
  · rename_i f hf
    split at hu
    · rename_i hout
      simp only [Bool.and_eq_true] at hout
      simp only [List.mem_cons, List.not_mem_nil, or_false] at hu
      exact ⟨f, hf, hout.2, hout.1, hu⟩
    · simp at hu
  · simp at hu

/-- A word of the returning clause: the clause is written for a generated id by a generator
that reports it with `RETURNING`. -/
theorem mem_returningWords {u : List Char} (hu : u ∈ g.returningWords m) :
    ∃ f, m.idField = some f ∧ f.isGenerated = true ∧ g.family.returning = true ∧
      (u = "RETURNING".toList ∨ u = (g.q f.column).toList) := by
  unfold returningWords at hu
  split at hu
  · rename_i f hf
    split at hu
    · rename_i hret
      simp only [Bool.and_eq_true] at hret
      simp only [List.mem_cons, List.not_mem_nil, or_false] at hu
      exact ⟨f, hf, hret.2, hret.1, hu⟩
    · simp at hu
  · simp at hu

theorem asciiWord_of_mem_outputWords (hid : ∀ f, m.idField = some f → isIdent f.column = true)
    {u : List Char} (hu : u ∈ g.outputWords m) : AsciiWord u := by
  obtain ⟨f, hf, -, -, rfl | rfl⟩ := mem_outputWords hu
  · simp [AsciiWord]
  · simpa using (show AsciiWord "INSERTED.".toList by simp [AsciiWord]).append
      (asciiWord_q (hid f hf))

theorem asciiWord_of_mem_returningWords (hid : ∀ f, m.idField = some f → isIdent f.column = true)
    {u : List Char} (hu : u ∈ g.returningWords m) : AsciiWord u := by
  obtain ⟨f, hf, -, -, rfl | rfl⟩ := mem_returningWords hu
  · simp [AsciiWord]
  · exact asciiWord_q (hid f hf)

theorem asciiWord_of_mem_insertWords (hp : PlainNames m)
    (hid : ∀ f, m.idField = some f → isIdent f.column = true) {fields : List MappedField}
    (hf : ∀ f ∈ fields, f ∈ m.fields) {u : List Char} (hu : u ∈ g.insertWords m fields) :
    AsciiWord u := by
  have hcols : ∀ x ∈ fields.map (fun f => (g.q f.column).toList), AsciiWord x := by
    simp only [List.mem_map]
    rintro _ ⟨f, hfm, rfl⟩
    exact asciiWord_q (hp.columns f (hf f hfm))
  have hphs : ∀ x ∈ fields.map (fun f => (g.fieldPlaceholder f).toList), AsciiWord x := by
    simp only [List.mem_map]
    rintro _ ⟨f, hfm, rfl⟩
    exact asciiWord_fieldPlaceholder (hp.columns f (hf f hfm))
  unfold insertWords at hu
  split at hu <;> simp only [List.mem_append, List.mem_cons, List.not_mem_nil, or_false] at hu
  · rcases hu with (((rfl | rfl | rfl) | hu) | rfl | rfl) | hu
    · simp [AsciiWord]
    · simp [AsciiWord]
    · exact asciiWord_tableText hp
    · exact asciiWord_of_mem_outputWords hid hu
    · simp [AsciiWord]
    · simp [AsciiWord]
    · exact asciiWord_of_mem_returningWords hid hu
  · rcases hu with (((((rfl | rfl | rfl) | hu) | hu) | rfl) | hu) | hu
    · simp [AsciiWord]
    · simp [AsciiWord]
    · exact asciiWord_tableText hp
    · exact asciiWord_of_mem_listWords hcols hu
    · exact asciiWord_of_mem_outputWords hid hu
    · simp [AsciiWord]
    · exact asciiWord_of_mem_listWords hphs hu
    · exact asciiWord_of_mem_returningWords hid hu

theorem reportsKey_of_mem_outputWords {u : List Char} (hu : u ∈ g.outputWords m) :
    g.reportsKey m = true := by
  obtain ⟨f, hf, hgen, hout, -⟩ := mem_outputWords hu
  simp [reportsKey, hf, hgen, hout]

theorem reportsKey_of_mem_returningWords {u : List Char} (hu : u ∈ g.returningWords m) :
    g.reportsKey m = true := by
  obtain ⟨f, hf, hgen, hret, -⟩ := mem_returningWords hu
  simp [reportsKey, hf, hgen, hret]

/-- The table as the generator writes it upper-cases to a word of letters only when it stands
bare and without a schema. -/
theorem table_of_upperList_tableText (hp : PlainNames m) {w : List Char}
    (hw : ∀ c ∈ w, c.isAlpha = true) (h : upperList (g.tableText m).toList = w) :
    g.family.quoting = .bare ∧ m.schema = none ∧ upperList m.table.toList = w := by
  have ha : AsciiWord (g.tableText m).toList := asciiWord_tableText hp
  cases hs : m.schema with
  | some s =>
    have hdot : '.' ∈ (g.tableText m).toList := by simp [tableText, hs]
    exact absurd h (upperList_ne_of_not_alpha ha hdot (by decide) hw)
  | none =>
    rcases quoting_cases g.family with hq | hq | hq | hq
    · simp only [tableText, hs, q, hq, Quoting.apply] at h
      exact ⟨hq, rfl, h⟩
    · have hmark : '"' ∈ (g.tableText m).toList := by simp [tableText, hs, q, hq, Quoting.apply]
      exact absurd h (upperList_ne_of_not_alpha ha hmark (by decide) hw)
    · have hmark : '`' ∈ (g.tableText m).toList := by simp [tableText, hs, q, hq, Quoting.apply]
      exact absurd h (upperList_ne_of_not_alpha ha hmark (by decide) hw)
    · have hmark : '[' ∈ (g.tableText m).toList := by simp [tableText, hs, q, hq, Quoting.apply]
      exact absurd h (upperList_ne_of_not_alpha ha hmark (by decide) hw)

/-- A word of letters among the upper-cased words of an insert is one of its fixed words, the
table standing bare and without a schema, or a word of a clause that reports the key. -/
theorem mem_upper_insertWords (hp : PlainNames m)
    (hid : ∀ f, m.idField = some f → isIdent f.column = true) {fields : List MappedField}
    (hf : ∀ f ∈ fields, f ∈ m.fields) {w : List Char} (hw : ∀ c ∈ w, c.isAlpha = true)
    (h : w ∈ (g.insertWords m fields).map upperList) :
    w ∈ ["INSERT".toList, "INTO".toList, "DEFAULT".toList, "VALUES".toList] ∨
      (g.family.quoting = .bare ∧ m.schema = none ∧ upperList m.table.toList = w) ∨
      g.reportsKey m = true := by
  obtain ⟨u, hu, rfl⟩ := List.mem_map.mp h
  have ha := asciiWord_of_mem_insertWords hp hid hf hu
  unfold insertWords at hu
  split at hu <;> simp only [List.mem_append, List.mem_cons, List.not_mem_nil, or_false] at hu
  · rcases hu with (((rfl | rfl | rfl) | hu) | rfl | rfl) | hu
    · left; decide
    · left; decide
    · exact .inr (.inl (table_of_upperList_tableText hp hw rfl))
    · exact .inr (.inr (reportsKey_of_mem_outputWords hu))
    · left; decide
    · left; decide
    · exact .inr (.inr (reportsKey_of_mem_returningWords hu))
  · rcases hu with (((((rfl | rfl | rfl) | hu) | hu) | rfl) | hu) | hu
    · left; decide
    · left; decide
    · exact .inr (.inl (table_of_upperList_tableText hp hw rfl))
    · exfalso
      rcases mark_mem_of_mem_listWords hu with hc | hc
      · exact upperList_ne_of_not_alpha ha hc (by decide) hw rfl
      · exact upperList_ne_of_not_alpha ha hc (by decide) hw rfl
    · exact .inr (.inr (reportsKey_of_mem_outputWords hu))
    · left; decide
    · exfalso
      rcases mark_mem_of_mem_listWords hu with hc | hc
      · exact upperList_ne_of_not_alpha ha hc (by decide) hw rfl
      · exact upperList_ne_of_not_alpha ha hc (by decide) hw rfl
    · exact .inr (.inr (reportsKey_of_mem_returningWords hu))

theorem toUpper_insert_toList (fields : List MappedField) :
    (Text.toUpper (g.insert m fields)).toList =
      [' '].intercalate ((g.insertWords m fields).map upperList) := by
  rw [Text.toUpper, String.toList_ofList, insert_toList, upperList_blank_intercalate]

theorem hasClause_insert_iff (fields : List MappedField) (word : String) :
    Database.hasClause (Text.toUpper (g.insert m fields)) word = true ↔
      spaced word.toList <:+: [' '].intercalate ((g.insertWords m fields).map upperList) := by
  rw [Database.hasClause, String.contains_string_iff, toUpper_insert_toList]
  simp [spaced]

theorem spaced_clause_of_reportsKey (h : g.reportsKey m = true) (fields : List MappedField) :
    spaced "RETURNING".toList <:+: [' '].intercalate ((g.insertWords m fields).map upperList) ∨
      spaced "OUTPUT".toList <:+: [' '].intercalate ((g.insertWords m fields).map upperList) := by
  unfold reportsKey at h
  split at h
  · rename_i f hf
    simp only [Bool.and_eq_true, Bool.or_eq_true] at h
    obtain ⟨hgen, hret | hout⟩ := h
    · left
      obtain ⟨pre, hpre, hw⟩ := g.insertWords_returning m fields
      have hret : g.returningWords m = ["RETURNING".toList, (g.q f.column).toList] := by
        simp [returningWords, hf, hret, hgen]
      rw [hw, hret, List.map_append]
      have hup : upperList "RETURNING".toList = "RETURNING".toList := by decide
      simp only [List.map_cons, List.map_nil, hup]
      exact spaced_infix_of_inner (by simpa using hpre) (List.cons_ne_nil _ _)
    · right
      obtain ⟨pre, post, hpre, hpost, hw⟩ := g.insertWords_output m fields
      have hout : g.outputWords m = ["OUTPUT".toList, ("INSERTED." ++ g.q f.column).toList] := by
        simp [outputWords, hf, hout, hgen]
      rw [hw, hout, List.map_append, List.map_append]
      have hup : upperList "OUTPUT".toList = "OUTPUT".toList := by decide
      simp only [List.map_cons, List.map_nil, hup, List.append_assoc, List.cons_append,
        List.nil_append]
      exact spaced_infix_of_inner (by simpa using hpre) (List.cons_ne_nil _ _)
  · exact absurd h (by simp)

/-- Where an insert with plain names has its key read: from the returned row exactly when the
generator reports the key, or when the table stands bare, without a schema, and is called
`returning` or `output` in any case. -/
theorem readsKeyRow_insert_iff (hp : PlainNames m)
    (hid : ∀ f, m.idField = some f → isIdent f.column = true) {fields : List MappedField}
    (hf : ∀ f ∈ fields, f ∈ m.fields) :
    Database.readsKeyRow (g.insert m fields) = true ↔
      g.reportsKey m = true ∨ (g.family.quoting = .bare ∧ m.schema = none ∧
        (Text.toUpper m.table = "RETURNING" ∨ Text.toUpper m.table = "OUTPUT")) := by
  have hblank : ∀ u ∈ (g.insertWords m fields).map upperList, ' ' ∉ u := by
    simp only [List.mem_map]
    rintro _ ⟨u, hu, rfl⟩
    exact blank_not_mem_upperList (asciiWord_of_mem_insertWords hp hid hf hu)
  have htable : ∀ word : String, upperList m.table.toList = word.toList ↔
      Text.toUpper m.table = word := by
    intro word
    rw [← String.toList_inj, Text.toUpper, String.toList_ofList]
  have hR : ∀ c ∈ "RETURNING".toList, c.isAlpha = true := by simp [Char.isAlpha, Char.isUpper]
  have hO : ∀ c ∈ "OUTPUT".toList, c.isAlpha = true := by simp [Char.isAlpha, Char.isUpper]
  rw [Database.readsKeyRow, Bool.or_eq_true, hasClause_insert_iff, hasClause_insert_iff]
  constructor
  · rintro (h | h)
    · rcases mem_upper_insertWords hp hid hf hR (mem_of_spaced_isInfix (by decide) hblank h)
        with h | ⟨hq, hs, ht⟩ | h
      · exact absurd h (by decide)
      · exact .inr ⟨hq, hs, .inl ((htable _).mp ht)⟩
      · exact .inl h
    · rcases mem_upper_insertWords hp hid hf hO (mem_of_spaced_isInfix (by decide) hblank h)
        with h | ⟨hq, hs, ht⟩ | h
      · exact absurd h (by decide)
      · exact .inr ⟨hq, hs, .inr ((htable _).mp ht)⟩
      · exact .inl h
  · rintro (h | ⟨hq, hs, ht⟩)
    · exact spaced_clause_of_reportsKey h fields
    · obtain ⟨post, hpost, hw⟩ := g.insertWords_table m fields
      have hbare : (g.tableText m).toList = m.table.toList := by
        simp [tableText, hs, q, hq, Quoting.apply]
      rw [hw, hbare]
      have hsplit : ∀ word : String, upperList m.table.toList = word.toList →
          spaced word.toList <:+: [' '].intercalate ((("INSERT".toList :: "INTO".toList ::
            m.table.toList :: post)).map upperList) := by
        intro word hword
        rw [List.map_cons, List.map_cons, List.map_cons, hword]
        exact spaced_infix_of_inner
          (by simp : [upperList "INSERT".toList, upperList "INTO".toList] ≠ [])
          (by simpa using hpost)
      rcases ht with ht | ht
      · exact .inl (hsplit _ ((htable _).mpr ht))
      · exact .inr (hsplit _ ((htable _).mpr ht))

end Sql.Generator

end DataMapper

namespace DataMapper

namespace Database

/-- A cursor as a driver leaves it after an insert that stored `key`: when the statement reports
the key, one returned row holding the key alone; otherwise no row, and the key as the last row
id. -/
def ReturnsKey (reported : Bool) (key : Value) (cur : Cursor) : Prop :=
  if reported then ∃ row k, cur.rows = [row] ∧ cur.mapping row = .ok [(k, key)]
  else cur.rows = [] ∧ cur.lastrowid = key

theorem executeAndReturnKey_of_returnsKey {sql : String} {params : Option (List (String × Value))}
    {db db' : Database} {cur : Cursor} {key : Value} (column : String)
    (hcur : cursor sql params db = .ok cur db') (hkey : ReturnsKey (readsKeyRow sql) key cur) :
    executeAndReturnKey sql params column db = .ok key db' := by
  unfold executeAndReturnKey
  rw [run_bind_ok hcur]
  unfold ReturnsKey at hkey
  split at hkey
  · rename_i hread
    obtain ⟨row, k, hrows, hmap⟩ := hkey
    simp only [hread, if_true, hrows, hmap, List.find?_cons, List.find?_nil]
    cases (Text.toLower k.plain == Text.toLower column) <;> rfl
  · rename_i hread
    simp only [hread, Bool.false_eq_true, if_false, hkey.2]
    rfl

end Database

namespace Mapper

open Sql

/-- The key of an insert is read where the generator reports it. Take a model with plain names
whose id field is one of its fields and generated, any generator, and a table that is not called
`returning` or `output` (in any case) when the generator writes it bare and without a schema.
Then the database reads the insert's key from the returned row exactly when the generator writes
a clause reporting it (SQLite and Postgres `RETURNING`, SQL Server `OUTPUT INSERTED`), and takes
the last row id otherwise (the generic generator, MySQL, H2). So when the driver returns the row
of such a clause, and gives the last row id otherwise, the key it stored is the key read, and the
insert goes on to assign that key to the entity. -/
theorem insert_key_read_as_reported {m : MappedModel} (hp : PlainNames m) {f : MappedField}
    (hid : m.idField = some f) (hmem : f ∈ m.fields) (hgen : f.isGenerated = true) (g : Generator)
    (htable : g.family.quoting = .bare → m.schema = none →
      Text.toUpper m.table ≠ "RETURNING" ∧ Text.toUpper m.table ≠ "OUTPUT")
    {params : List (String × Value)} {w : World} {db' : Database} {cur : Cursor} {key : Value}
    (hcur : Database.cursor (g.insert m m.insertable) (some params) w.db = .ok cur db')
    (hkey : Database.ReturnsKey (g.reportsKey m) key cur) (slot : Nat) :
    Database.readsKeyRow (g.insert m m.insertable) = g.reportsKey m ∧
      Database.executeAndReturnKey (g.insert m m.insertable) (some params) f.column w.db =
        .ok key db' ∧
      executeInsert ⟨slot, m, g.insert m m.insertable, params⟩ w =
        assignKey slot f key { w with db := db' } := by
  have hcols : ∀ f', m.idField = some f' → isIdent f'.column = true := by
    intro f' hf'
    rw [hid, Option.some.injEq] at hf'
    exact hf' ▸ hp.columns f hmem
  have hins : ∀ f' ∈ m.insertable, f' ∈ m.fields := fun _ hf' => m.insertable_sublist.subset hf'
  have hagree : Database.readsKeyRow (g.insert m m.insertable) = g.reportsKey m := by
    rw [Bool.eq_iff_iff, Generator.readsKeyRow_insert_iff hp hcols hins]
    constructor
    · rintro (h | ⟨hq, hs, ht⟩)
      · exact h
      · obtain ⟨hR, hO⟩ := htable hq hs
        exact absurd ht (by simp [hR, hO])
    · exact Or.inl
  have hexec := Database.executeAndReturnKey_of_returnsKey f.column hcur (hagree ▸ hkey)
  refine ⟨hagree, hexec, ?_⟩
  have hgenid : m.hasGeneratedId = true := by simp [MappedModel.hasGeneratedId, hid, hgen]
  have honDb : Act.onDb (Database.executeAndReturnKey (g.insert m m.insertable) (some params)
      f.column) w = .ok key { w with db := db' } := by
    simp [Act.onDb, hexec]
  simp only [executeInsert, hid, hgenid]
  exact run_bind_ok honDb

/-- The generic generator on a table `item` with a generated id: no clause is written, the key
is the last row id, and the insert assigns it. -/
theorem insert_key_read_as_reported_item :
    let id : MappedField := ⟨"id", "id", .cls .int, .cls .int, [], true, true, true⟩
    let name : MappedField := ⟨"name", "name", .cls .str, .cls .str, [], false, false, true⟩
    let m : MappedModel := ⟨{ name := "Item" }, "item", none, [id, name], some id, false⟩
    let reply : Reply := { lastrowid := .int 7 }
    let w : World := ⟨⟨.scripted ⟨[reply], []⟩, .named, false, 0⟩, ⟨Supply.defaultNow, 0, []⟩, []⟩
    let sql := Generator.ansi.insert m m.insertable
    let db' : Database :=
      ⟨.scripted ⟨[], [.list [.str "execute", .str sql, .dict []]]⟩, .named, false, 0⟩
    Database.readsKeyRow sql = false ∧
      Database.executeAndReturnKey sql (some []) "id" w.db = .ok (.int 7) db' ∧
      executeInsert ⟨0, m, sql, []⟩ w = assignKey 0 id (.int 7) { w with db := db' } := by
  intro id name m reply w sql db'
  have hp : PlainNames m := by
    refine ⟨by decide, (fun _ h => by cases h), ?_⟩
    simp only [m, List.mem_cons, List.not_mem_nil, or_false, forall_eq_or_imp, forall_eq]
    decide
  have hcur : Database.cursor sql (some []) w.db = .ok (Script.cursorOf reply) db' := rfl
  exact insert_key_read_as_reported hp rfl (by simp [m]) rfl Generator.ansi
    (fun _ _ => ⟨by decide, by decide⟩) hcur ⟨rfl, rfl⟩ 0

/-- A table called `returning`, which the generic generator writes bare: no clause reports the
key, yet the statement holds ` RETURNING `, so the key is looked for in the returned rows. There
are none, and the key the driver gives as the last row id is lost. -/
theorem returning_table_loses_key :
    let id : MappedField := ⟨"id", "id", .cls .int, .cls .int, [], true, true, true⟩
    let name : MappedField := ⟨"name", "name", .cls .str, .cls .str, [], false, false, true⟩
    let m : MappedModel := ⟨{ name := "M" }, "returning", none, [id, name], some id, false⟩
    let reply : Reply := { lastrowid := .int 7 }
    let w : World := ⟨⟨.scripted ⟨[reply], []⟩, .named, false, 0⟩, ⟨Supply.defaultNow, 0, []⟩, []⟩
    let sql := Generator.ansi.insert m m.insertable
    let db' : Database :=
      ⟨.scripted ⟨[], [.list [.str "execute", .str sql, .dict []]]⟩, .named, false, 0⟩
    Generator.ansi.reportsKey m = false ∧ Database.readsKeyRow sql = true ∧
      Database.executeAndReturnKey sql (some []) "id" w.db = .ok .none db' := by
  intro id name m reply w sql db'
  have hp : PlainNames m := by
    refine ⟨by decide, (fun _ h => by cases h), ?_⟩
    simp only [m, List.mem_cons, List.not_mem_nil, or_false, forall_eq_or_imp, forall_eq]
    decide
  have hcols : ∀ f, m.idField = some f → isIdent f.column = true := by
    intro f hf
    cases hf
    decide
  have hread : Database.readsKeyRow sql = true :=
    (Generator.readsKeyRow_insert_iff hp hcols fun _ hf => m.insertable_sublist.subset hf).mpr
      (.inr ⟨rfl, rfl, .inl (by decide)⟩)
  have hcur : Database.cursor sql (some []) w.db = .ok (Script.cursorOf reply) db' := rfl
  refine ⟨rfl, hread, ?_⟩
  unfold Database.executeAndReturnKey
  rw [run_bind_ok hcur]
  simp only [hread, if_true]
  rfl

end Mapper

end DataMapper
