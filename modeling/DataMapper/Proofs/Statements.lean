import DataMapper.Proofs.Placeholders

namespace DataMapper.Sql

/-- A character no segment minds standing before: none, or a character that is no word
character, double quote or colon. -/
def Calm : Option Char → Prop
  | none => True
  | some c => Text.isWordChar c = false ∧ c ≠ '"' ∧ c ≠ ':'

instance : DecidablePred Calm := fun next => by
  cases next <;> unfold Calm <;> infer_instance

theorem calm_or {a b : Option Char} (ha : Calm a) (hb : Calm b) : Calm (a.or b) := by
  cases a with
  | none => simpa using hb
  | some c => simpa using ha

theorem Seg.before_of_calm {s : Seg} {next : Option Char} (h : Calm next) : s.Before next := by
  cases s with
  | text => trivial
  | ident q n => rintro _ rfl; exact h.2.1 rfl
  | param => rintro c rfl; exact h.1
  | cast => rintro rfl; exact h.2.2 rfl

theorem fits_append {xs ys : List Seg} {next : Option Char} :
    Fits (xs ++ ys) next ↔ Fits xs ((ys.flatMap Seg.render).head?.or next) ∧ Fits ys next := by
  induction xs with
  | nil => simp [Fits]
  | cons s xs ih =>
    simp only [List.cons_append, Fits, ih, List.flatMap_append, List.head?_append,
      Option.or_assoc, and_assoc]

/-- Segments that fit before any calm character. -/
def FitsCalm (segs : List Seg) : Prop := ∀ next, Calm next → Fits segs next

namespace FitsCalm

theorem nil : FitsCalm [] := fun _ _ => trivial

theorem single {s : Seg} (hs : s.Valid) : FitsCalm [s] :=
  fun _ hn => ⟨hs, Seg.before_of_calm (by simpa using hn), trivial⟩

theorem text_cons {cs : List Char} (hcs : cs.all isOrdinary = true) {ys : List Seg}
    (hys : FitsCalm ys) : FitsCalm (.text cs :: ys) :=
  fun next hn => ⟨List.all_eq_true.mp hcs, trivial, hys next hn⟩

theorem append {xs ys : List Seg} (hxs : FitsCalm xs) (hys : FitsCalm ys)
    (hstart : Calm (ys.flatMap Seg.render).head?) : FitsCalm (xs ++ ys) :=
  fun next hn => fits_append.mpr ⟨hxs _ (calm_or hstart hn), hys next hn⟩

end FitsCalm

theorem calm_text_cons {c : Char} {cs : List Char} (hc : Calm (some c)) (ys : List Seg) :
    Calm ((Seg.text (c :: cs) :: ys).flatMap Seg.render).head? := by
  simpa using hc

/-- Text that may follow any segment: ordinary characters, starting with a calm one. -/
def Separator (cs : List Char) : Prop := cs.all isOrdinary = true ∧ cs ≠ [] ∧ Calm cs.head?

instance (cs : List Char) : Decidable (Separator cs) := inferInstanceAs (Decidable (_ ∧ _ ∧ _))

theorem calm_of_separator {cs : List Char} (hcs : Separator cs) (ys : List Seg) :
    Calm ((Seg.text cs :: ys).flatMap Seg.render).head? := by
  obtain ⟨-, hne, hcalm⟩ := hcs
  obtain ⟨c, cs, rfl⟩ := List.exists_cons_of_ne_nil hne
  exact calm_text_cons hcalm ys

theorem FitsCalm.append_text {xs ys : List Seg} {cs : List Char} (hxs : FitsCalm xs)
    (hcs : Separator cs) (hys : FitsCalm ys) : FitsCalm (xs ++ .text cs :: ys) :=
  .append hxs (.text_cons hcs.1 hys) (calm_of_separator hcs ys)

/-- Segment lists joined by `, `. -/
def commaSegs : List (List Seg) → List Seg
  | [] => []
  | [xs] => xs
  | xs :: ys :: rest => xs ++ .text ", ".toList :: commaSegs (ys :: rest)

theorem render_commaSegs (xss : List (List Seg)) :
    (commaSegs xss).flatMap Seg.render = ", ".toList.intercalate (xss.map (·.flatMap Seg.render)) := by
  induction xss using commaSegs.induct with
  | case1 => rfl
  | case2 xs => simp [commaSegs]
  | case3 xs ys rest ih =>
    rw [commaSegs, List.flatMap_append, List.flatMap_cons, ih]
    simp [List.intercalate_cons_cons]

theorem commaSegs_params (xss : List (List Seg)) :
    (commaSegs xss).filterMap Seg.param? = xss.flatMap (·.filterMap Seg.param?) := by
  induction xss using commaSegs.induct with
  | case1 => rfl
  | case2 xs => simp [commaSegs]
  | case3 xs ys rest ih =>
    simp [commaSegs, ih]

theorem FitsCalm.commaSegs {xss : List (List Seg)} (h : ∀ xs ∈ xss, FitsCalm xs) :
    FitsCalm (commaSegs xss) := by
  induction xss using commaSegs.induct with
  | case1 => exact .nil
  | case2 xs => exact h xs (.head _)
  | case3 xs ys rest ih =>
    exact .append_text (h xs (.head _)) (by decide) (ih fun zs hz => h zs (.tail _ hz))

/-- A model whose table, schema and columns are plain names. -/
structure PlainNames (d : MappedModel) : Prop where
  table : isIdent d.table = true
  schema : ∀ s, d.schema = some s → isIdent s = true
  columns : ∀ f ∈ d.fields, isIdent f.column = true

namespace Generator

variable (g : Generator) (m : MappedModel)

/-- An identifier, as the generator quotes it. -/
def identSeg (s : String) : Seg := .ident g.family.quoting s

def tableSegs : List Seg :=
  match m.schema with
  | some s => [g.identSeg s, .text ['.'], g.identSeg m.table]
  | none => [g.identSeg m.table]

def placeholderSegs (f : MappedField) : List Seg :=
  if g.family.jsonCast && f.tags.any (·.cls == "Json") then [.param f.column, .cast, .text "jsonb".toList]
  else [.param f.column]

/-- A column set to its placeholder, as in `SET` and `WHERE`. -/
def assignSegs (f : MappedField) : List Seg :=
  g.identSeg f.column :: .text " = ".toList :: g.placeholderSegs f

def returningSegs : List Seg :=
  match m.idField with
  | some f => if g.family.returning && f.isGenerated then [.text " RETURNING ".toList, g.identSeg f.column] else []
  | none => []

def outputSegs : List Seg :=
  match m.idField with
  | some f =>
    if g.family.output && f.isGenerated then [.text " OUTPUT INSERTED.".toList, g.identSeg f.column]
    else []
  | none => []

def insertSegs (fields : List MappedField) : List Seg :=
  if fields.isEmpty then
    .text "INSERT INTO ".toList :: g.tableSegs m ++ g.outputSegs m ++
      .text " DEFAULT VALUES".toList :: g.returningSegs m
  else
    .text "INSERT INTO ".toList :: g.tableSegs m ++
      .text " (".toList :: commaSegs (fields.map fun f => [g.identSeg f.column]) ++
      .text ")".toList :: g.outputSegs m ++
      .text " VALUES (".toList :: commaSegs (fields.map g.placeholderSegs) ++
      .text ")".toList :: g.returningSegs m

/-- A statement on the table that selects the row of the id field `f`. -/
def byIdSegs (verb : String) (f : MappedField) : List Seg :=
  .text verb.toList :: g.tableSegs m ++ .text " WHERE ".toList :: g.assignSegs f

def updateSegs (fields : List MappedField) (f : MappedField) : List Seg :=
  .text "UPDATE ".toList :: g.tableSegs m ++
    .text " SET ".toList :: commaSegs ((fields.filter (!·.isId)).map g.assignSegs) ++
    .text " WHERE ".toList :: g.assignSegs f

def pageSegs : List Seg :=
  if g.family.offsetFetch then
    .text "SELECT * FROM ".toList :: g.tableSegs m ++
      (if hasTopLevelOrderBy (g.select m) then [] else [.text " ORDER BY (SELECT NULL)".toList]) ++
      [.text " OFFSET ".toList, .param "__offset", .text " ROWS FETCH NEXT ".toList,
        .param "__limit", .text " ROWS ONLY".toList]
  else
    .text "SELECT * FROM ".toList :: g.tableSegs m ++
      [.text " LIMIT ".toList, .param "__limit", .text " OFFSET ".toList, .param "__offset"]

@[simp] theorem render_identSeg (s : String) : (g.identSeg s).render = (g.q s).toList := rfl

theorem render_tableSegs : (g.tableSegs m).flatMap Seg.render = (g.tableText m).toList := by
  unfold tableSegs tableText
  cases m.schema <;> simp

theorem render_placeholderSegs (hg : g.dollar = false) (f : MappedField) :
    (g.placeholderSegs f).flatMap Seg.render = (g.fieldPlaceholder f).toList := by
  unfold placeholderSegs fieldPlaceholder placeholder
  split <;> simp_all

theorem render_assignSegs (hg : g.dollar = false) (f : MappedField) :
    (g.assignSegs f).flatMap Seg.render =
      (g.q f.column ++ " = " ++ g.fieldPlaceholder f).toList := by
  simp [assignSegs, render_placeholderSegs g hg]

theorem render_returningSegs : (g.returningSegs m).flatMap Seg.render = (g.returningClause m).toList := by
  unfold returningSegs returningClause
  cases m.idField with
  | none => rfl
  | some f => by_cases h : (g.family.returning && f.isGenerated) = true <;> simp [h]

theorem render_outputSegs : (g.outputSegs m).flatMap Seg.render = (g.outputClause m).toList := by
  unfold outputSegs outputClause
  cases m.idField with
  | none => rfl
  | some f => by_cases h : (g.family.output && f.isGenerated) = true <;> simp [h]

theorem render_insertSegs (hg : g.dollar = false) (fields : List MappedField) :
    (g.insertSegs m fields).flatMap Seg.render = (g.insert m fields).toList := by
  unfold insertSegs insert
  split
  · simp [render_tableSegs, render_outputSegs, render_returningSegs]
  · simp [render_tableSegs, render_outputSegs, render_returningSegs,
      render_commaSegs, render_placeholderSegs g hg, Function.comp_def]

theorem whereId_ok {w : String} (h : g.whereId m = .ok w) :
    ∃ f, m.idField = some f ∧ w = g.q f.column ++ " = " ++ g.fieldPlaceholder f := by
  unfold whereId at h
  split at h
  · exact ⟨_, ‹_›, by cases h; rfl⟩
  · cases h

theorem byId_ok (hg : g.dollar = false) {verb sql : String}
    (h : (do return verb ++ g.tableText m ++ " WHERE " ++ (← g.whereId m) : Except Failure String) =
      .ok sql) :
    ∃ f, m.idField = some f ∧ sql.toList = (g.byIdSegs m verb f).flatMap Seg.render := by
  cases hw : g.whereId m with
  | error e => simp [hw] at h
  | ok w =>
    obtain ⟨f, hf, rfl⟩ := g.whereId_ok m hw
    simp only [hw, except_ok_bind, pure, Except.pure, Except.ok.injEq] at h
    refine ⟨f, hf, ?_⟩
    simp [← h, byIdSegs, render_tableSegs, render_assignSegs g hg]

theorem update_ok (hg : g.dollar = false) {fields : List MappedField} {sql : String}
    (h : g.update m fields = .ok sql) :
    ∃ f, m.idField = some f ∧ sql.toList = (g.updateSegs m fields f).flatMap Seg.render := by
  unfold update at h
  dsimp only at h
  split at h
  · cases h
  cases hw : g.whereId m with
  | error e => simp [hw] at h
  | ok w =>
    obtain ⟨f, hf, rfl⟩ := g.whereId_ok m hw
    simp only [hw, except_ok_bind, pure, Except.pure, Except.ok.injEq] at h
    refine ⟨f, hf, ?_⟩
    simp [← h, updateSegs, render_tableSegs, render_assignSegs g hg,
      render_commaSegs, Function.comp_def]

theorem render_pageSegs : (g.pageSegs m).flatMap Seg.render = (g.paginate (g.select m)).toList := by
  unfold pageSegs paginate
  split
  · split <;> simp_all [render_tableSegs, select]
  · simp [render_tableSegs, select]

theorem quoting_cases (fam : Family) : fam.quoting = .bare ∨ fam.quoting = .enclosed '"' ∨
    fam.quoting = .enclosed '`' ∨ fam.quoting = .brackets := by
  cases fam <;> simp [Family.quoting]

variable {g m}

theorem fitsCalm_identSeg {s : String} (hs : isIdent s = true) : FitsCalm [g.identSeg s] :=
  .single ⟨hs, quoting_cases g.family⟩

theorem fitsCalm_tableSegs (hp : PlainNames m) : FitsCalm (g.tableSegs m) := by
  unfold tableSegs
  split
  · rename_i s hs
    exact .append_text (fitsCalm_identSeg (hp.schema s hs)) (by decide) (fitsCalm_identSeg hp.table)
  · exact fitsCalm_identSeg hp.table

theorem fitsCalm_placeholderSegs {f : MappedField} (hf : isIdent f.column = true) :
    FitsCalm (g.placeholderSegs f) := by
  unfold placeholderSegs
  split
  · intro next _
    have hjson : "jsonb".toList = ['j', 's', 'o', 'n', 'b'] := rfl
    simp only [Fits, Seg.Valid, Seg.Before, hf, List.flatMap_cons, List.flatMap_nil, hjson,
      Seg.render.eq_1, Seg.render.eq_4, List.cons_append, List.head?_cons, Option.some_or]
    refine ⟨trivial, ?_, trivial, by decide, List.all_eq_true.mp (by decide), trivial, trivial⟩
    rintro c ⟨⟩
    decide
  · exact .single hf

theorem fitsCalm_param {n : String} (hn : isIdent n = true) : FitsCalm [.param n] := .single hn

theorem fitsCalm_assignSegs {f : MappedField} (hf : isIdent f.column = true) :
    FitsCalm (g.assignSegs f) :=
  .append_text (fitsCalm_identSeg hf) (by decide) (fitsCalm_placeholderSegs hf)

theorem fitsCalm_idClause {cs : List Char} {f : MappedField} (hcs : cs.all isOrdinary = true)
    (hf : isIdent f.column = true) : FitsCalm [.text cs, g.identSeg f.column] :=
  .text_cons hcs (fitsCalm_identSeg hf)

theorem fitsCalm_returningSegs (hid : ∀ f, m.idField = some f → isIdent f.column = true) :
    FitsCalm (g.returningSegs m) := by
  unfold returningSegs
  split
  · split
    · exact fitsCalm_idClause (by decide) (hid _ ‹_›)
    · exact .nil
  · exact .nil

theorem fitsCalm_outputSegs (hid : ∀ f, m.idField = some f → isIdent f.column = true) :
    FitsCalm (g.outputSegs m) := by
  unfold outputSegs
  split
  · split
    · exact fitsCalm_idClause (by decide) (hid _ ‹_›)
    · exact .nil
  · exact .nil

theorem calm_outputSegs : Calm ((g.outputSegs m).flatMap Seg.render).head? := by
  unfold outputSegs
  split
  · split
    · exact calm_of_separator (by decide) _
    · trivial
  · trivial

theorem fits_insertSegs (hp : PlainNames m) (hid : ∀ f, m.idField = some f → isIdent f.column = true)
    {fields : List MappedField} (hf : ∀ f ∈ fields, f ∈ m.fields) : Fits (g.insertSegs m fields) none := by
  have hcols : ∀ xs ∈ fields.map (fun f => [g.identSeg f.column]), FitsCalm xs := by
    simp only [List.mem_map]
    rintro _ ⟨f, hfm, rfl⟩
    exact fitsCalm_identSeg (hp.columns f (hf f hfm))
  have hphs : ∀ xs ∈ fields.map g.placeholderSegs, FitsCalm xs := by
    simp only [List.mem_map]
    rintro _ ⟨f, hfm, rfl⟩
    exact fitsCalm_placeholderSegs (hp.columns f (hf f hfm))
  refine (?_ : FitsCalm _) none trivial
  unfold insertSegs
  split
  · exact .append_text (.append (.text_cons (by decide) (fitsCalm_tableSegs hp))
      (fitsCalm_outputSegs hid) calm_outputSegs) (by decide) (fitsCalm_returningSegs hid)
  · exact .append_text (.append_text (.append_text (.append_text
      (.text_cons (by decide) (fitsCalm_tableSegs hp)) (by decide) (.commaSegs hcols)) (by decide)
      (fitsCalm_outputSegs hid)) (by decide) (.commaSegs hphs)) (by decide) (fitsCalm_returningSegs hid)

theorem fits_updateSegs (hp : PlainNames m) {fields : List MappedField}
    (hf : ∀ f ∈ fields, f ∈ m.fields) {f : MappedField} (hid : isIdent f.column = true) :
    Fits (g.updateSegs m fields f) none := by
  refine (?_ : FitsCalm _) none trivial
  have hset : ∀ xs ∈ (fields.filter (!·.isId)).map g.assignSegs, FitsCalm xs := by
    simp only [List.mem_map, List.mem_filter]
    rintro _ ⟨f, ⟨hfm, -⟩, rfl⟩
    exact fitsCalm_assignSegs (hp.columns f (hf f hfm))
  exact .append_text (.append_text (.text_cons (by decide) (fitsCalm_tableSegs hp)) (by decide)
    (.commaSegs hset)) (by decide) (fitsCalm_assignSegs hid)

theorem fits_byIdSegs (hp : PlainNames m) {verb : String} (hverb : verb.toList.all isOrdinary = true)
    {f : MappedField} (hid : isIdent f.column = true) : Fits (g.byIdSegs m verb f) none :=
  FitsCalm.append_text (.text_cons hverb (fitsCalm_tableSegs hp)) (by decide)
    (fitsCalm_assignSegs hid) none trivial

theorem fits_pageSegs (hp : PlainNames m) : Fits (g.pageSegs m) none := by
  refine (?_ : FitsCalm _) none trivial
  have hsel : FitsCalm (.text "SELECT * FROM ".toList :: g.tableSegs m) :=
    .text_cons (by decide) (fitsCalm_tableSegs hp)
  unfold pageSegs
  split
  · have hordered : FitsCalm (.text "SELECT * FROM ".toList :: g.tableSegs m ++
        (if hasTopLevelOrderBy (g.select m) then [] else [.text " ORDER BY (SELECT NULL)".toList])) := by
      split
      · exact .append hsel .nil trivial
      · exact .append_text hsel (by decide) .nil
    exact .append_text hordered (by decide)
      (.append_text (fitsCalm_param (by decide)) (by decide)
        (.append_text (fitsCalm_param (by decide)) (by decide) .nil))
  · exact .append_text hsel (by decide)
      (.append_text (fitsCalm_param (by decide)) (by decide) (fitsCalm_param (by decide)))

theorem params_tableSegs : (g.tableSegs m).filterMap Seg.param? = [] := by
  unfold tableSegs
  split <;> rfl

theorem params_placeholderSegs (f : MappedField) :
    (g.placeholderSegs f).filterMap Seg.param? = [f.column] := by
  unfold placeholderSegs
  split <;> rfl

theorem params_assignSegs (f : MappedField) : (g.assignSegs f).filterMap Seg.param? = [f.column] := by
  simp [assignSegs, identSeg, params_placeholderSegs]

theorem params_returningSegs : (g.returningSegs m).filterMap Seg.param? = [] := by
  unfold returningSegs
  split
  · split <;> rfl
  · rfl

theorem params_outputSegs : (g.outputSegs m).filterMap Seg.param? = [] := by
  unfold outputSegs
  split
  · split <;> rfl
  · rfl

theorem params_insertSegs (fields : List MappedField) :
    (g.insertSegs m fields).filterMap Seg.param? = fields.map (·.column) := by
  unfold insertSegs
  split
  · rename_i hempty
    simp [List.isEmpty_iff.mp hempty, params_tableSegs, params_outputSegs,
      params_returningSegs]
  · simp [params_tableSegs, params_outputSegs, params_returningSegs, commaSegs_params,
      List.flatMap_map, identSeg, params_placeholderSegs, ← List.map_eq_flatMap]

theorem params_updateSegs (fields : List MappedField) (f : MappedField) :
    (g.updateSegs m fields f).filterMap Seg.param? =
      (fields.filter (!·.isId)).map (·.column) ++ [f.column] := by
  simp [updateSegs, params_tableSegs, commaSegs_params, List.flatMap_map, params_assignSegs,
    ← List.map_eq_flatMap]

theorem params_byIdSegs (verb : String) (f : MappedField) :
    (g.byIdSegs m verb f).filterMap Seg.param? = [f.column] := by
  simp [byIdSegs, params_tableSegs, params_assignSegs]

theorem params_pageSegs : (g.pageSegs m).filterMap Seg.param? =
    if g.family.offsetFetch then ["__offset", "__limit"] else ["__limit", "__offset"] := by
  unfold pageSegs
  split
  · split <;> simp [params_tableSegs]
  · simp [params_tableSegs]

theorem idField_mem {voc : Vocabulary} {model : Model} (h : Describe.DescribesAs voc model m)
    {f : MappedField} (hf : m.idField = some f) :
    f ∈ m.fields ∧ f.isId = true := by
  rw [h.idField] at hf
  exact ⟨List.mem_of_find?_eq_some hf, by simpa using List.find?_some hf⟩

end Generator

section Binding

variable {enums : List EnumDef} {r : Registries} {dialect : Option Dialect} {e : Entity}

theorem bindField_ok {acc acc' : List (String × Value)} {f : MappedField}
    (h : bindField enums r dialect e acc f = .ok acc') : ∃ v, acc' = assocPut acc f.column v := by
  unfold bindField at h
  cases hget : e.get f.name with
  | error err => simp [hget] at h
  | ok v =>
    cases hto : Converter.toDbAll enums f (r.convertersFor f dialect) v with
    | error err => simp [hget, hto] at h
    | ok w =>
      simp only [hget, hto, except_ok_bind, pure, Except.pure, Except.ok.injEq] at h
      exact ⟨w, h.symm⟩

theorem foldlM_bindField_keys {fields : List MappedField} (hcols : (fields.map (·.column)).Nodup)
    {acc out : List (String × Value)} (hacc : ∀ f ∈ fields, ∀ p ∈ acc, p.1 ≠ f.column)
    (h : fields.foldlM (bindField enums r dialect e) acc = .ok out) :
    out.map Prod.fst = acc.map Prod.fst ++ fields.map (·.column) := by
  induction fields generalizing acc with
  | nil =>
    simp only [List.foldlM_nil, pure, Except.pure, Except.ok.injEq] at h
    simp [h]
  | cons f fs ih =>
    rw [List.map_cons, List.nodup_cons] at hcols
    rw [List.foldlM_cons] at h
    cases hstep : bindField enums r dialect e acc f with
    | error err => simp [hstep] at h
    | ok acc' =>
      rw [hstep, except_ok_bind] at h
      obtain ⟨v, rfl⟩ := bindField_ok hstep
      rw [assocPut_of_forall_ne acc v (hacc f (.head fs))] at h
      have hfresh := fresh_append (fun g : MappedField => g.column) v hcols.1 hacc
      rw [ih hcols.2 hfresh h]
      simp

theorem bindFields_keys {fields : List MappedField} (hcols : (fields.map (·.column)).Nodup)
    {params : List (String × Value)} (h : bindFields enums r dialect e fields = .ok params) :
    params.map Prod.fst = fields.map (·.column) := by
  simpa using foldlM_bindField_keys hcols (by simp) h

theorem lookup_isSome_of_mem {params : List (String × Value)} {n : String}
    (h : n ∈ params.map Prod.fst) : (params.lookup n).isSome := by
  induction params with
  | nil => cases h
  | cons p ps ih =>
    obtain ⟨k, v⟩ := p
    rw [List.lookup_cons]
    by_cases hk : n = k
    · rw [show (n == k) = true by simpa using hk]
      rfl
    · have hn : n ∈ ps.map Prod.fst := by simpa [hk] using h
      rw [show (n == k) = false by simpa using hk]
      exact ih hn

end Binding

/-- The statements the mapper builds for a stored model, each with the parameters it binds:
the insert of an entity binds the fields it inserts, its update every field and its delete the
id field; a lookup, a count or a delete by id binds the id under the id's column; a page of the
rows binds its limit and its offset. -/
inductive Builds (enums : List EnumDef) (r : Registries) (dialect : Option Dialect)
    (g : Generator) (d : MappedModel) : String → List (String × Value) → Prop
  | insert {e : Entity} {params : List (String × Value)} :
    bindFields enums r dialect e d.insertable = .ok params →
    Builds enums r dialect g d (g.insert d d.insertable) params
  | update {e : Entity} {sql : String} {params : List (String × Value)} :
    g.update d d.fields = .ok sql → bindFields enums r dialect e d.fields = .ok params →
    Builds enums r dialect g d sql params
  | delete {e : Entity} {sql : String} {f : MappedField} {params : List (String × Value)} :
    g.delete d = .ok sql → d.idField = some f → bindFields enums r dialect e [f] = .ok params →
    Builds enums r dialect g d sql params
  | selectById {sql : String} {f : MappedField} {v : Value} :
    g.selectById d = .ok sql → d.idField = some f → Builds enums r dialect g d sql [(f.column, v)]
  | existsById {sql : String} {f : MappedField} {v : Value} :
    g.existsById d = .ok sql → d.idField = some f → Builds enums r dialect g d sql [(f.column, v)]
  | deleteById {sql : String} {f : MappedField} {v : Value} :
    g.delete d = .ok sql → d.idField = some f → Builds enums r dialect g d sql [(f.column, v)]
  | page {limit offset : Value} :
    Builds enums r dialect g d (g.paginate (g.select d)) [("__limit", limit), ("__offset", offset)]

section Builds

open Describe

variable {voc : Vocabulary} {model : Model} {d : MappedModel} {g : Generator}
  {enums : List EnumDef} {r : Registries} {dialect : Option Dialect}

theorem filter_isId_eq (hd : DescribesAs voc model d) {f : MappedField} (hf : d.idField = some f) :
    d.fields.filter (·.isId) = [f] := by
  obtain ⟨hmem, hisid⟩ := Generator.idField_mem hd hf
  have hin : f ∈ d.fields.filter (·.isId) := List.mem_filter.mpr ⟨hmem, hisid⟩
  obtain ⟨a, ha⟩ := List.length_eq_one_iff.mp (Nat.le_antisymm hd.oneId (List.length_pos_of_mem hin))
  rw [ha] at hin ⊢
  rw [List.mem_singleton.mp hin]

theorem placeholders_byId (hd : DescribesAs voc model d) (hp : PlainNames d)
    (hg : g.dollar = false) {verb sql : String} (hverb : verb.toList.all isOrdinary = true)
    (h : (do return verb ++ g.tableText d ++ " WHERE " ++ (← g.whereId d) : Except Failure String) =
      .ok sql) {f : MappedField} (hf : d.idField = some f) :
    placeholders sql = [f.column] := by
  obtain ⟨f', hf', hsegs⟩ := g.byId_ok d hg h
  obtain rfl : f' = f := Option.some.inj (hf'.symm.trans hf)
  rw [placeholders_of_segs hsegs
    (Generator.fits_byIdSegs hp hverb (hp.columns f' (Generator.idField_mem hd hf').1)),
    Generator.params_byIdSegs]

/-- The placeholders of every statement the mapper builds for a model with plain names name
the keys of its parameters, each once. -/
theorem placeholders_perm_keys (hd : DescribesAs voc model d) (hp : PlainNames d)
    (hg : g.dollar = false) {sql : String} {params : List (String × Value)}
    (hb : Builds enums r dialect g d sql params) :
    (placeholders sql).Perm (params.map Prod.fst) ∧ (params.map Prod.fst).Nodup := by
  have hid : ∀ f, d.idField = some f → isIdent f.column = true :=
    fun f hf => hp.columns f (Generator.idField_mem hd hf).1
  have hcols := hd.columns_nodup
  cases hb with
  | insert hbind =>
    have hsub := d.insertable_sublist
    have hnd : (d.insertable.map (·.column)).Nodup := (hsub.map _).nodup hcols
    rw [placeholders_of_segs (g.render_insertSegs d hg _).symm
      (Generator.fits_insertSegs hp hid fun f hf => hsub.subset hf),
      Generator.params_insertSegs, bindFields_keys hnd hbind]
    exact ⟨.refl _, hnd⟩
  | update hsql hbind =>
    obtain ⟨f, hf, hsegs⟩ := g.update_ok d hg hsql
    rw [placeholders_of_segs hsegs (Generator.fits_updateSegs hp (fun _ h => h) (hid f hf)),
      Generator.params_updateSegs, bindFields_keys hcols hbind]
    refine ⟨?_, hcols⟩
    have hsplit : (d.fields.filter (!·.isId)).map (·.column) ++ [f.column] =
        (d.fields.filter (!·.isId) ++ d.fields.filter (·.isId)).map (·.column) := by
      simp [filter_isId_eq hd hf]
    rw [hsplit]
    exact (List.perm_append_comm.trans (List.filter_append_perm (·.isId) d.fields)).map _
  | delete hsql hf hbind =>
    rw [placeholders_byId hd hp hg (by decide) hsql hf,
      bindFields_keys (by simp) hbind]
    exact ⟨.refl _, by simp⟩
  | selectById hsql hf =>
    rw [placeholders_byId hd hp hg (by decide) hsql hf]
    exact ⟨.refl _, by simp⟩
  | existsById hsql hf =>
    rw [placeholders_byId hd hp hg (by decide) hsql hf]
    exact ⟨.refl _, by simp⟩
  | deleteById hsql hf =>
    rw [placeholders_byId hd hp hg (by decide) hsql hf]
    exact ⟨.refl _, by simp⟩
  | page =>
    rw [placeholders_of_segs (g.render_pageSegs d).symm (Generator.fits_pageSegs hp),
      Generator.params_pageSegs]
    refine ⟨?_, by simp⟩
    split
    · exact .swap _ _ _
    · exact .refl _

/-- Statements and parameters agree: for a model that describes, with plain names, under a
generator that writes `:column` placeholders, the placeholders of every statement the mapper
builds are its parameter keys, and converting it for a positional or percent style succeeds,
binding each driver placeholder to the value of the column named where it stands. -/
theorem statements_bind_their_placeholders (hd : MappedModel.describe voc model = .ok d)
    (hp : PlainNames d) (hg : g.dollar = false) {sql : String} {params : List (String × Value)}
    (hb : Builds enums r dialect g d sql params) {name : String} {style : ParamStyle}
    (hname : ParamStyle.ofName? name = some style) (hstyle : style ≠ .named) :
    (placeholders sql).Perm (params.map Prod.fst) ∧
      convertParams sql (some params) name =
        .ok (String.ofList (emit style 1 (scan sql)),
          some (if style = .pyformat then .byName params
            else .byPosition ((placeholders sql).map fun n => (params.lookup n).getD .none))) := by
  obtain ⟨hperm, hnd⟩ := placeholders_perm_keys ((MappedModel.describe_ok_iff voc model d).mp hd) hp hg hb
  refine ⟨hperm, convertParams_eq hname hstyle (hperm.nodup_iff.mpr hnd) fun n hn => ?_⟩
  exact lookup_isSome_of_mem (hperm.subset hn)

end Builds

end DataMapper.Sql

namespace DataMapper.Sql

open Describe

theorem statements_bind_their_placeholders_insert :
    let spec : FieldSpec := { name := "code", type := .cls .str }
    let m : Model := { name := "Item", table := some (.str "item"), fields := [spec] }
    let g : Generator := ⟨.sqlite, false⟩
    let e : Entity := ⟨"Item", false, [("code", .str "x")]⟩
    ∃ d params, MappedModel.describe {} m = .ok d ∧ PlainNames d ∧
      bindFields [] {} none e d.insertable = .ok params ∧
      (placeholders (g.insert d d.insertable)).Perm (params.map Prod.fst) ∧
      convertParams (g.insert d d.insertable) (some params) "numeric" =
        .ok (String.ofList (emit .numeric 1 (scan (g.insert d d.insertable))),
          some (if ParamStyle.numeric = .pyformat then .byName params
            else .byPosition ((placeholders (g.insert d d.insertable)).map
              fun n => (params.lookup n).getD .none))) := by
  intro spec m g e
  have htags : fieldTags {} spec spec.type = .ok [] := by
    simp [spec, fieldTags, metadataTags, resolveTags, TypeExpr.unwrap, FieldMeta.get, Value.truthy,
      visitTags, Except.map]
  let d : MappedModel :=
    { model := m, table := "item", schema := none, fields := [stored spec spec.type []],
      idField := none, queryOnly := false }
  have hd : MappedModel.describe {} m = .ok d :=
    MappedModel.describe_one_field rfl rfl rfl htags rfl ((checkTags_ok_iff "" _).mp rfl)
  have hp : PlainNames d := by
    refine ⟨by decide, (fun _ h => by cases h), ?_⟩
    simp only [d, List.mem_singleton, forall_eq]
    decide
  have hbind : bindFields [] {} none e d.insertable = .ok [("code", .str "x")] := rfl
  exact ⟨d, _, hd, hp, hbind,
    statements_bind_their_placeholders hd hp rfl (.insert hbind) rfl (by decide)⟩

end DataMapper.Sql

namespace DataMapper.Sql

open Describe

/-- A column named `a b`: the scan reads the insert's placeholder `:a b` as the placeholder `a`
followed by text, so the statement's placeholder is not the key of its parameter, and converting
it for a driver fails. -/
theorem spaced_column_unbound :
    let spec : FieldSpec :=
      { name := "x", type := .annotated (.cls .int) [.tag ⟨"Column", .column (.str "a b")⟩] }
    let m : Model := { name := "M", table := some (.str "m"), fields := [spec] }
    let e : Entity := ⟨"M", false, [("x", .int 1)]⟩
    ∃ d, MappedModel.describe {} m = .ok d ∧
      bindFields [] {} none e d.insertable = .ok [("a b", .int 1)] ∧
      placeholders (Generator.ansi.insert d d.insertable) = ["a"] ∧
      convertParams (Generator.ansi.insert d d.insertable) (some [("a b", .int 1)]) "qmark" =
        .error (.value "Missing value for SQL parameter 'a'.") := by
  intro spec m e
  let tag : Tag := ⟨"Column", .column (.str "a b")⟩
  have hkind : TagKind.ofName? "Column" = some .column := rfl
  have htags : fieldTags {} spec spec.type = .ok [tag] := by
    simp [spec, tag, fieldTags, metadataTags, resolveTags, TypeExpr.unwrap, TypeExpr.tagsOf,
      FieldMeta.get, Value.truthy, visitTags, Gathered.keep, Vocabulary.isRepeatable,
      Vocabulary.carried, Vocabulary.find?, Except.map, hkind, TagClass.builtin]
  let d : MappedModel :=
    { model := m, table := "m", schema := none, fields := [stored spec spec.type [tag]],
      idField := none, queryOnly := false }
  have hd : MappedModel.describe {} m = .ok d :=
    MappedModel.describe_one_field rfl rfl rfl htags rfl ((checkTags_ok_iff "" _).mp rfl)
  have hsql : Generator.ansi.insert d d.insertable = "INSERT INTO m (a b) VALUES (:a b)" := by
    simp only [d, spec, tag]
    decide +kernel
  have hfirst : placeholders "INSERT INTO m (a b) VALUES (:a b)" = ["a"] := by decide +kernel
  have hbind : bindFields [] {} none e d.insertable = .ok [("a b", .int 1)] := rfl
  refine ⟨d, hd, hbind, hsql ▸ hfirst, ?_⟩
  rw [hsql, convertParams_missing rfl (by decide) hfirst rfl]
  rfl

end DataMapper.Sql
