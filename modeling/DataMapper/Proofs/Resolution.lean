import DataMapper.Tag.Resolve
import DataMapper.Proofs.Except
import Mathlib.Data.Finset.Card

namespace DataMapper

/-- Two tags, the first kept before the second, that resolution lets stand together: unequal
when the second's class is repeatable, of different classes otherwise. -/
def Tag.apart (voc : Vocabulary) (u w : Tag) : Prop :=
  if voc.isRepeatable w.cls then Tag.eq u w = false else u.cls ≠ w.cls

theorem Tag.cls_eq_of_eq {a b : Tag} (h : Tag.eq a b = true) : a.cls = b.cls := by
  simp only [Tag.eq, Bool.and_eq_true, beq_iff_eq] at h
  exact h.1.1

namespace Value

mutual
/-- Whether a value holds no signaling NaN, also inside lists, tuples and dictionaries. -/
def quiet : Value → Bool
  | .decimal (.nan _ true _) => false
  | .list xs => quietSeq xs
  | .tuple xs => quietSeq xs
  | .dict kvs => quietDict kvs
  | _ => true
def quietSeq : List Value → Bool
  | [] => true
  | x :: xs => quiet x && quietSeq xs
def quietDict : List (Value × Value) → Bool
  | [] => true
  | (k, v) :: rest => quiet k && quiet v && quietDict rest
end

theorem quiet_of_mem_quietDict {kvs : List (Value × Value)} (h : quietDict kvs = true) {k v : Value}
    (hkv : (k, v) ∈ kvs) : v.quiet = true := by
  induction kvs with
  | nil => cases hkv
  | cons kv rest ih =>
    obtain ⟨k', v'⟩ := kv
    simp only [quietDict, Bool.and_eq_true] at h
    rcases List.mem_cons.mp hkv with hkv | hkv
    · cases hkv; exact h.1.2
    · exact ih h.2 hkv

theorem isSignaling_of_quiet {a : Value} (h : a.quiet = true) : a.isSignaling = false := by
  unfold isSignaling
  split <;> simp_all [quiet]

theorem signals_of_quiet {a b : Value} (ha : a.quiet = true) (hb : b.quiet = true) :
    signals a b = false := by
  simp [signals, isSignaling_of_quiet ha, isSignaling_of_quiet hb]

theorem pyEq_signaling (neg : Bool) (p : Nat) (b : Value) :
    pyEq (.decimal (.nan neg true p)) b = false := by
  cases b <;> simp only [pyEq, number?]
  all_goals (try split) <;> (try (rename_i hx _; cases hx)) <;> simp [NumView.isNaN]

theorem pyEq_list {xs : List Value} {b : Value} (h : pyEq (.list xs) b = true) :
    ∃ ys, b = .list ys ∧ eqAll xs ys = true := by
  cases b <;> simp_all [pyEq, number?]

theorem pyEq_tuple {xs : List Value} {b : Value} (h : pyEq (.tuple xs) b = true) :
    ∃ ys, b = .tuple ys ∧ eqAll xs ys = true := by
  cases b <;> simp_all [pyEq, number?]

theorem pyEq_dict {kvs : List (Value × Value)} {b : Value} (h : pyEq (.dict kvs) b = true) :
    ∃ other, b = .dict other ∧ dictSub kvs other = true := by
  cases b <;> simp_all [pyEq, number?]

theorem lookupEq_eq_true {k v : Value} {kvs : List (Value × Value)} (h : lookupEq k v kvs = true) :
    ∃ k' v', pyEq k k' = true ∧ pyEq v v' = true := by
  induction kvs with
  | nil => simp [lookupEq] at h
  | cons kv rest ih =>
    obtain ⟨k', v'⟩ := kv
    simp only [lookupEq] at h
    split at h
    · exact ⟨k', v', ‹_›, h⟩
    · exact ih h

theorem quiet_of_pyEq {a b : Value} (h : pyEq a b = true) : a.quiet = true := by
  refine quiet.induct (fun a => ∀ b, pyEq a b = true → a.quiet = true)
    (fun kvs => ∀ other, dictSub kvs other = true → quietDict kvs = true)
    (fun xs => ∀ ys, eqAll xs ys = true → quietSeq xs = true)
    ?signaling ?list ?tuple ?dict ?other ?seqNil ?seqCons ?dictNil ?dictCons a b h
  case signaling =>
    intro neg p b h
    simp [pyEq_signaling] at h
  case list =>
    intro xs ih b h
    obtain ⟨ys, -, hys⟩ := pyEq_list h
    exact ih ys hys
  case tuple =>
    intro xs ih b h
    obtain ⟨ys, -, hys⟩ := pyEq_tuple h
    exact ih ys hys
  case dict =>
    intro kvs ih b h
    obtain ⟨other, -, hsub⟩ := pyEq_dict h
    exact ih other hsub
  case other =>
    intro t h1 h2 h3 h4 _ _
    unfold quiet
    split <;> simp_all
  case seqNil | dictNil =>
    intro _ _
    rfl
  case seqCons =>
    intro x xs ihx ihxs ys h
    cases ys with
    | nil => simp [eqAll] at h
    | cons y ys =>
      simp only [eqAll, Bool.and_eq_true] at h
      simp [quietSeq, ihx y h.1, ihxs ys h.2]
  case dictCons =>
    intro k v rest ihk ihv ihrest other h
    simp only [dictSub, Bool.and_eq_true] at h
    obtain ⟨k', v', hk, hv⟩ := lookupEq_eq_true h.1
    simp [quietDict, ihk k' hk, ihv v' hv, ihrest other h.2]

theorem signalsIn_of_quiet_all :
    (∀ a b : Value, a.quiet = true → b.quiet = true → signalsIn a b = false) ∧
    (∀ xs ys, quietDict xs = true → quietDict ys = true → signalsInDict xs ys = false) ∧
    (∀ xs ys, quietSeq xs = true → quietSeq ys = true → signalsInSeq xs ys = false) := by
  refine signalsIn.mutual_induct
    (fun a b => a.quiet = true → b.quiet = true → signalsIn a b = false)
    (fun xs ys => quietDict xs = true → quietDict ys = true → signalsInDict xs ys = false)
    (fun xs ys => quietSeq xs = true → quietSeq ys = true → signalsInSeq xs ys = false)
    ?list ?tuple ?dict ?other ?seqCons ?seqOther ?dictNil ?dictFound ?dictMissing
  case list | tuple | dict =>
    intro xs ys ih ha hb
    simp [signalsIn, ih ha hb]
  case other =>
    intro a b h1 h2 h3 ha hb
    unfold signalsIn
    split
    · exact absurd rfl (h1 _ _ rfl)
    · exact absurd rfl (h2 _ _ rfl)
    · exact absurd rfl (h3 _ _ rfl)
    · exact signals_of_quiet ha hb
  case seqCons =>
    intro x xs y ys ihx ihxs hx hy
    simp only [quietSeq, Bool.and_eq_true] at hx hy
    simp [signalsInSeq, ihx hx.1 hy.1, ihxs hx.2 hy.2]
  case seqOther =>
    intro t x h _ _
    unfold signalsInSeq
    split
    · exact absurd rfl (h _ _ _ _ rfl)
    · rfl
  case dictNil =>
    intro _ _ _
    rfl
  case dictFound =>
    intro k v rest other k' v' hfind ihv ihrest hkvs hother
    simp only [quietDict, Bool.and_eq_true] at hkvs
    have hv' := quiet_of_mem_quietDict hother (List.mem_of_find?_eq_some hfind)
    simp [signalsInDict, hfind, ihv hkvs.1.2 hv', ihrest hkvs.2 hother]
  case dictMissing =>
    intro k v rest other hfind _ _
    simp [signalsInDict, hfind]

end Value

theorem Tag.quiet_of_eq_self {t : Tag} (h : t.eq t = true) :
    Value.quietSeq (t.body.fields.map (·.2)) = true := by
  have hall := (Bool.and_eq_true _ _).mp h |>.2
  generalize t.body.fields = fs at hall
  induction fs with
  | nil => rfl
  | cons f fs ih =>
    simp only [List.zip_cons_cons, List.all_cons, Bool.and_eq_true] at hall
    simp [Value.quietSeq, Value.quiet_of_pyEq hall.1, ih hall.2]

theorem Tag.signalsIn_of_eq_self {u t : Tag} (hu : u.eq u = true) (ht : t.eq t = true) :
    u.signalsIn t = false :=
  Value.signalsIn_of_quiet_all.2.2 _ _ (Tag.quiet_of_eq_self hu) (Tag.quiet_of_eq_self ht)

theorem Tag.eq_of_not_same {u t : Tag} (h : ¬(u.cls == t.cls && u.kind == t.kind) = true) :
    u.eq t = false := by
  rw [Bool.not_eq_true] at h
  unfold Tag.eq
  rw [h]
  rfl

theorem Tag.eqChecked_of_quiet {u t : Tag} (h : u.cls = t.cls → u.signalsIn t = false) :
    u.eqChecked t = .ok (u.eq t) := by
  unfold Tag.eqChecked
  split
  · next hcls =>
    simp only [Bool.and_eq_true, beq_iff_eq] at hcls
    rw [h hcls.1]
    rfl
  · next hcls => rw [Tag.eq_of_not_same hcls]

theorem Tag.eqChecked_ok {u t : Tag} {b : Bool} (h : u.eqChecked t = .ok b) : b = u.eq t := by
  unfold Tag.eqChecked at h
  split at h
  · split at h
    · cases h
    · cases h; rfl
  · next hcls =>
    cases h
    rw [Tag.eq_of_not_same hcls]

theorem Tag.eqChecked_error {u t : Tag} {e : Failure} (h : u.eqChecked t = .error e) :
    e = .invalidOperation := by
  unfold Tag.eqChecked at h
  split at h
  · split at h
    · cases h; rfl
    · cases h
  · cases h

theorem anyM_eqChecked_ok {ts : List Tag} {t : Tag} {b : Bool}
    (h : ts.anyM (Tag.eqChecked · t) = .ok b) : b = ts.any (Tag.eq · t) := by
  induction ts with
  | nil => cases h; rfl
  | cons u ts ih =>
    rw [List.anyM_cons] at h
    cases hu : u.eqChecked t with
    | error e => rw [hu] at h; cases h
    | ok c =>
      rw [hu] at h
      rw [List.any_cons, ← Tag.eqChecked_ok hu]
      cases c
      · exact ih h
      · cases h; rfl

theorem anyM_eqChecked_error {ts : List Tag} {t : Tag} {e : Failure}
    (h : ts.anyM (Tag.eqChecked · t) = .error e) : e = .invalidOperation := by
  induction ts with
  | nil => cases h
  | cons u ts ih =>
    rw [List.anyM_cons] at h
    cases hu : u.eqChecked t with
    | error e' => rw [hu] at h; cases h; exact Tag.eqChecked_error hu
    | ok c =>
      rw [hu] at h
      cases c
      · exact ih h
      · cases h

theorem anyM_eqChecked_of_quiet {ts : List Tag} {t : Tag}
    (h : ∀ u ∈ ts, u.cls = t.cls → u.signalsIn t = false) :
    ts.anyM (Tag.eqChecked · t) = .ok (ts.any (Tag.eq · t)) := by
  induction ts with
  | nil => rfl
  | cons u ts ih =>
    rw [List.anyM_cons, Tag.eqChecked_of_quiet (h u (by simp)),
      ih fun w hw => h w (by simp [hw]), List.any_cons]
    cases u.eq t <;> rfl

theorem countP_cls_le_one {voc : Vocabulary} {r : List Tag} (h : r.Pairwise (Tag.apart voc))
    {c : String} (hc : voc.isRepeatable c = false) : r.countP (·.cls == c) ≤ 1 := by
  induction r with
  | nil => simp
  | cons u r ih =>
    obtain ⟨hu, hr⟩ := List.pairwise_cons.mp h
    rw [List.countP_cons]
    by_cases huc : u.cls = c
    · have hzero : r.countP (·.cls == c) = 0 := by
        rw [List.countP_eq_zero]
        intro w hw hwc
        have hwc : w.cls = c := by simpa using hwc
        have := hu w hw
        simp only [Tag.apart, hwc, hc, Bool.false_eq_true, if_false] at this
        exact this huc
      simp [hzero, huc]
    · simpa [huc] using ih hr

/-- The tags resolution visits, depth first and in pre-order, with the classes expanded by the
end: each tag is visited, then, the first time its class is met, the items the class carries. -/
def visitOrder (voc : Vocabulary) : Nat → List Item → List String →
    Except Failure (List Tag × List String)
  | _, [], E => .ok ([], E)
  | _, .other v :: _, _ => .error (notATag v)
  | depth, .tag t :: rest, E =>
    if E.contains t.cls then
      (visitOrder voc depth rest E).map fun (o, E') => (t :: o, E')
    else
      match depth with
      | 0 => (visitOrder voc 0 rest (E ++ [t.cls])).map fun (o, E') => (t :: o, E')
      | d+1 =>
        match visitOrder voc d (voc.carried t.cls) (E ++ [t.cls]) with
        | .ok (o₁, E₁) =>
          (visitOrder voc (d+1) rest E₁).map fun (o₂, E₂) => (t :: o₁ ++ o₂, E₂)
        | .error e => .error e
termination_by depth items => (depth, items.length)

section
variable {voc : Vocabulary} {n d : Nat} {t : Tag} {rest : List Item} {E : List String}

theorem visitOrder_tag_of_expanded (h : t.cls ∈ E) :
    visitOrder voc n (.tag t :: rest) E =
      (visitOrder voc n rest E).map fun (o, E') => (t :: o, E') := by
  rw [visitOrder.eq_def]; simp [h]

theorem visitOrder_tag_zero (h : t.cls ∉ E) :
    visitOrder voc 0 (.tag t :: rest) E =
      (visitOrder voc 0 rest (E ++ [t.cls])).map fun (o, E') => (t :: o, E') := by
  rw [visitOrder, if_neg (by simpa using h)]

theorem visitOrder_tag_succ (h : t.cls ∉ E) :
    visitOrder voc (d+1) (.tag t :: rest) E =
      match visitOrder voc d (voc.carried t.cls) (E ++ [t.cls]) with
      | .ok (o₁, E₁) =>
        (visitOrder voc (d+1) rest E₁).map fun (o₂, E₂) => (t :: o₁ ++ o₂, E₂)
      | .error e => .error e := by
  rw [visitOrder, if_neg (by simpa using h)]

end

/-- Keeping a tag, the comparisons made as if none could signal. -/
def Gathered.retain (voc : Vocabulary) (g : Gathered) (t : Tag) : Gathered :=
  if voc.isRepeatable t.cls then
    if g.kept.any (Tag.eq · t) then g else { g with kept := g.kept ++ [t] }
  else if g.seen.contains t.cls then g
  else { g with seen := g.seen ++ [t.cls], kept := g.kept ++ [t] }

/-- The walk of `visitTags`, each tag kept by `Gathered.retain`. -/
def walkTags (voc : Vocabulary) : Nat → List Item → Gathered → Except Failure Gathered
  | _, [], g => .ok g
  | _, .other v :: _, _ => .error (notATag v)
  | depth, .tag t :: rest, g =>
    let g := g.retain voc t
    if g.expanded.contains t.cls then walkTags voc depth rest g
    else
      let g := { g with expanded := g.expanded ++ [t.cls] }
      match depth with
      | 0 => walkTags voc 0 rest g
      | d+1 =>
        match walkTags voc d (voc.carried t.cls) g with
        | .ok g => walkTags voc (d+1) rest g
        | .error e => .error e
termination_by depth items => (depth, items.length)

namespace Gathered

variable {voc : Vocabulary} {g : Gathered} {t : Tag}

@[simp] theorem retain_expanded : (g.retain voc t).expanded = g.expanded := by
  unfold retain; split_ifs <;> rfl

theorem keep_ok {g' : Gathered} (h : g.keep voc t = .ok g') : g' = g.retain voc t := by
  unfold keep at h
  unfold retain
  split
  · next hrep =>
    rw [if_pos hrep] at h
    cases hany : g.kept.anyM (Tag.eqChecked · t) with
    | error e => rw [hany] at h; cases h
    | ok b =>
      rw [hany] at h
      rw [← anyM_eqChecked_ok hany]
      cases b <;> cases h <;> rfl
  · next hrep =>
    rw [if_neg hrep] at h
    split at h <;> cases h <;> simp_all

theorem keep_error {e : Failure} (h : g.keep voc t = .error e) : e = .invalidOperation := by
  unfold keep at h
  split at h
  · cases hany : g.kept.anyM (Tag.eqChecked · t) with
    | error e' => rw [hany] at h; cases h; exact anyM_eqChecked_error hany
    | ok b => rw [hany] at h; cases b <;> cases h
  · split at h <;> cases h

/-- When the kept tags and `t` of a repeatable class equal themselves, keeping `t` makes no
signaling comparison and retains it as the pure filter does. -/
theorem keep_eq_retain (hkept : ∀ u ∈ g.kept, voc.isRepeatable u.cls = true → u.eq u = true)
    (ht : voc.isRepeatable t.cls = true → t.eq t = true) : g.keep voc t = .ok (g.retain voc t) := by
  unfold keep retain
  split
  · next hrep =>
    have hquiet : ∀ u ∈ g.kept, u.cls = t.cls → u.signalsIn t = false := fun u hu hcls =>
      Tag.signalsIn_of_eq_self (hkept u hu (hcls ▸ hrep)) (ht hrep)
    rw [anyM_eqChecked_of_quiet hquiet]
    cases g.kept.any (Tag.eq · t) <;> rfl
  · split <;> rfl

theorem retain_eq_or (voc : Vocabulary) (g : Gathered) (t : Tag) :
    g.retain voc t = g ∨ (g.retain voc t).kept = g.kept ++ [t] := by
  unfold retain; split_ifs <;> simp

theorem mem_retain {u : Tag} (h : u ∈ (g.retain voc t).kept) : u ∈ g.kept ∨ u = t := by
  rcases retain_eq_or voc g t with hk | hk
  · rw [hk] at h; exact .inl h
  · rw [hk] at h; simpa using h

theorem forall_mem_retain {Q : Tag → Prop} (hg : ∀ u ∈ g.kept, Q u) (ht : Q t) :
    ∀ u ∈ (g.retain voc t).kept, Q u :=
  fun u hu => (mem_retain hu).elim (hg u) (· ▸ ht)

theorem kept_prefix_retain : g.kept <+: (g.retain voc t).kept := by
  rcases retain_eq_or voc g t with h | h
  · rw [h]
  · rw [h]; exact List.prefix_append _ _

theorem kept_prefix_foldl (o : List Tag) (g : Gathered) :
    g.kept <+: (o.foldl (retain voc) g).kept := by
  induction o generalizing g with
  | nil => exact List.prefix_refl _
  | cons t o ih => exact kept_prefix_retain.trans (ih _)

theorem retain_with_expanded (E : List String) :
    { g with expanded := E }.retain voc t = { g.retain voc t with expanded := E } := by
  simp only [retain]; split_ifs <;> rfl

theorem foldl_retain_with_expanded (o : List Tag) (g : Gathered) (E : List String) :
    o.foldl (retain voc) { g with expanded := E } = { o.foldl (retain voc) g with expanded := E } := by
  induction o generalizing g with
  | nil => rfl
  | cons t o ih => simp only [List.foldl_cons, retain_with_expanded, ih]

/-- What keeping tags maintains: a kept tag of a class that is not repeatable has its class
seen, every class seen has a kept tag, and each kept tag stands apart from those before it. -/
structure Sound (voc : Vocabulary) (g : Gathered) : Prop where
  kept_seen : ∀ u ∈ g.kept, voc.isRepeatable u.cls = false → u.cls ∈ g.seen
  seen_kept : ∀ c ∈ g.seen, ∃ u ∈ g.kept, u.cls = c
  apart : g.kept.Pairwise (Tag.apart voc)

theorem sound_empty : Sound voc {} := ⟨by simp, by simp, by simp⟩

theorem retain_fresh (hs : g.Sound voc) (hfresh : ∀ u ∈ g.kept, u.cls ≠ t.cls) :
    (g.retain voc t).kept = g.kept ++ [t] := by
  unfold retain
  split_ifs with hrep hany hseen
  · obtain ⟨u, hu, heq⟩ := List.any_eq_true.mp hany
    exact absurd (Tag.cls_eq_of_eq heq) (hfresh u hu)
  · rfl
  · obtain ⟨u, hu, hcls⟩ := hs.seen_kept t.cls (by simpa using hseen)
    exact absurd hcls (hfresh u hu)
  · rfl

theorem retain_of_mem (hs : g.Sound voc) (ht : t ∈ g.kept)
    (hself : voc.isRepeatable t.cls = true → Tag.eq t t = true) : g.retain voc t = g := by
  unfold retain
  split_ifs with hrep hany hseen
  · rfl
  · exact (hany (List.any_eq_true.mpr ⟨t, ht, hself hrep⟩)).elim
  · rfl
  · exact absurd (by simpa using hs.kept_seen t ht (by simpa using hrep)) hseen

/-- After keeping `t` some kept tag stands for it: one of its class, and when the class is
repeatable `t` itself or a tag equal to it. -/
theorem retain_represents (hs : g.Sound voc) :
    ∃ u ∈ (g.retain voc t).kept, u.cls = t.cls ∧
      (voc.isRepeatable t.cls = true → u = t ∨ Tag.eq u t = true) := by
  unfold retain
  split_ifs with hrep hany hseen
  · obtain ⟨u, hu, heq⟩ := List.any_eq_true.mp hany
    exact ⟨u, hu, Tag.cls_eq_of_eq heq, fun _ => .inr heq⟩
  · exact ⟨t, by simp, rfl, fun _ => .inl rfl⟩
  · obtain ⟨u, hu, hcls⟩ := hs.seen_kept t.cls (by simpa using hseen)
    exact ⟨u, hu, hcls, by simp [hrep]⟩
  · exact ⟨t, by simp, rfl, fun _ => .inl rfl⟩

theorem Sound.retain (hs : g.Sound voc) : (g.retain voc t).Sound voc := by
  unfold Gathered.retain
  split_ifs with hrep hany hseen
  · exact hs
  · refine ⟨?_, ?_, ?_⟩
    · intro u hu hnrep
      rcases List.mem_append.mp hu with hu | hu
      · exact hs.kept_seen u hu hnrep
      · simp only [List.mem_singleton] at hu; subst hu; simp [hrep] at hnrep
    · intro c hc
      obtain ⟨u, hu, hcls⟩ := hs.seen_kept c hc
      exact ⟨u, List.mem_append_left _ hu, hcls⟩
    · refine List.pairwise_append.mpr ⟨hs.apart, by simp, ?_⟩
      intro u hu w hw
      simp only [List.mem_singleton] at hw; subst hw
      simpa [Tag.apart, hrep] using fun h => hany (List.any_eq_true.mpr ⟨u, hu, h⟩)
  · exact hs
  · have hnrep : voc.isRepeatable t.cls = false := by simpa using hrep
    have hnew : t.cls ∉ g.seen := by simpa using hseen
    refine ⟨?_, ?_, ?_⟩
    · intro u hu hnrep'
      rcases List.mem_append.mp hu with hu | hu
      · exact List.mem_append_left _ (hs.kept_seen u hu hnrep')
      · simp only [List.mem_singleton] at hu; subst hu; simp
    · intro c hc
      rcases List.mem_append.mp hc with hc | hc
      · obtain ⟨u, hu, hcls⟩ := hs.seen_kept c hc
        exact ⟨u, List.mem_append_left _ hu, hcls⟩
      · simp only [List.mem_singleton] at hc; exact ⟨t, by simp, hc.symm⟩
    · refine List.pairwise_append.mpr ⟨hs.apart, by simp, ?_⟩
      intro u hu w hw
      simp only [List.mem_singleton] at hw; subst hw
      simp only [Tag.apart, hnrep, Bool.false_eq_true, if_false]
      rintro hcls
      exact hnew (hcls ▸ hs.kept_seen u hu (hcls ▸ hnrep))

theorem Sound.foldl (hs : g.Sound voc) (o : List Tag) :
    (o.foldl (Gathered.retain voc) g).Sound voc := by
  induction o generalizing g with
  | nil => exact hs
  | cons t o ih => exact ih hs.retain

theorem foldl_retain_represents (hs : g.Sound voc) (o : List Tag) :
    ∀ t ∈ o, ∃ u ∈ (o.foldl (retain voc) g).kept, u.cls = t.cls ∧
      (voc.isRepeatable t.cls = true → u = t ∨ Tag.eq u t = true) := by
  induction o generalizing g with
  | nil => simp
  | cons t o ih =>
    intro w hw
    rcases List.mem_cons.mp hw with rfl | hw
    · obtain ⟨u, hu, h⟩ := retain_represents (t := w) hs
      exact ⟨u, (kept_prefix_foldl o _).subset hu, h⟩
    · exact ih hs.retain w hw

/-- What visiting maintains besides: the classes expanded are exactly those of the kept tags. -/
structure Closed (voc : Vocabulary) (g : Gathered) : Prop extends Sound voc g where
  expanded_iff : ∀ c, c ∈ g.expanded ↔ ∃ u ∈ g.kept, u.cls = c

theorem closed_empty : Closed voc {} := ⟨sound_empty, by simp⟩

theorem Closed.retain (hc : g.Closed voc) (h : t.cls ∈ g.expanded) : (g.retain voc t).Closed voc := by
  refine ⟨hc.toSound.retain, fun c => ?_⟩
  rw [retain_expanded, hc.expanded_iff]
  constructor
  · rintro ⟨u, hu, hcls⟩
    exact ⟨u, kept_prefix_retain.subset hu, hcls⟩
  · rintro ⟨u, hu, rfl⟩
    rcases mem_retain hu with hu | rfl
    · exact ⟨u, hu, rfl⟩
    · exact (hc.expanded_iff _).mp h

theorem Closed.expand (hc : g.Closed voc) (h : t.cls ∉ g.expanded) :
    (g.retain voc t).kept = g.kept ++ [t] ∧
      Closed voc { g.retain voc t with expanded := (g.retain voc t).expanded ++ [t.cls] } := by
  have hfresh : ∀ u ∈ g.kept, u.cls ≠ t.cls := fun u hu hcls =>
    h ((hc.expanded_iff _).mpr ⟨u, hu, hcls⟩)
  have hkept := retain_fresh hc.toSound hfresh
  have hs := hc.toSound.retain (t := t)
  refine ⟨hkept, ⟨hs.kept_seen, hs.seen_kept, hs.apart⟩, fun c => ?_⟩
  simp only [hkept, retain_expanded, List.mem_append, List.mem_singleton, hc.expanded_iff]
  constructor
  · rintro (⟨u, hu, hcls⟩ | rfl)
    · exact ⟨u, .inl hu, hcls⟩
    · exact ⟨t, .inr rfl, rfl⟩
  · rintro ⟨u, hu | rfl, hcls⟩
    · exact .inl ⟨u, hu, hcls⟩
    · exact .inr hcls.symm

end Gathered

section
variable {voc : Vocabulary} {n d : Nat} {t : Tag} {rest : List Item} {g : Gathered}

theorem walkTags_tag_of_expanded (h : t.cls ∈ g.expanded) :
    walkTags voc n (.tag t :: rest) g = walkTags voc n rest (g.retain voc t) := by
  rw [walkTags.eq_def]; simp [h]

theorem walkTags_tag_zero (h : t.cls ∉ g.expanded) :
    walkTags voc 0 (.tag t :: rest) g =
      walkTags voc 0 rest
        { g.retain voc t with expanded := (g.retain voc t).expanded ++ [t.cls] } := by
  rw [walkTags.eq_def]; simp [h]

theorem walkTags_tag_succ (h : t.cls ∉ g.expanded) :
    walkTags voc (d+1) (.tag t :: rest) g =
      walkTags voc d (voc.carried t.cls)
          { g.retain voc t with expanded := (g.retain voc t).expanded ++ [t.cls] } >>=
        walkTags voc (d+1) rest := by
  rw [walkTags.eq_def]
  simp only [Gathered.retain_expanded, List.contains_iff_mem, h, if_false]
  split <;> next heq => simp [heq]

end

/-- Visiting is the visit order filtered: the tags of the order are kept in turn, and the
classes it expands are the ones expanded. -/
theorem walkTags_eq_visitOrder (voc : Vocabulary) (n : Nat) (items : List Item) (g : Gathered) :
    walkTags voc n items g = (visitOrder voc n items g.expanded).map fun (o, E) =>
      { o.foldl (Gathered.retain voc) g with expanded := E } := by
  fun_induction walkTags voc n items g with
  | case1 => simp [visitOrder, Except.map]
  | case2 => simp [visitOrder, Except.map]
  | case3 n t rest g g₁ h ih =>
    have hE : t.cls ∈ g.expanded := by simpa [g₁] using h
    have h₁ : g₁.expanded = g.expanded := Gathered.retain_expanded
    rw [ih, visitOrder_tag_of_expanded hE, h₁]
    cases visitOrder voc n rest g.expanded <;> rfl
  | case4 t rest g g₁ h g₂ ih =>
    have hE : t.cls ∉ g.expanded := by simpa [g₁] using h
    have h₂ : g₂.expanded = g.expanded ++ [t.cls] := by simp [g₂, g₁]
    rw [ih, visitOrder_tag_zero hE, h₂]
    cases visitOrder voc 0 rest (g.expanded ++ [t.cls]) with
    | error e => rfl
    | ok p => simp [Except.map, g₂, g₁, Gathered.foldl_retain_with_expanded]
  | case5 t rest g g₁ h g₂ d g₃ hcarried ihc ih =>
    have hE : t.cls ∉ g.expanded := by simpa [g₁] using h
    have h₂ : g₂.expanded = g.expanded ++ [t.cls] := by simp [g₂, g₁]
    rw [ihc, h₂] at hcarried
    obtain ⟨⟨o₁, E₁⟩, ho₁, rfl⟩ := except_map_eq_ok.mp hcarried
    dsimp only at ih
    rw [ih, visitOrder_tag_succ hE, ho₁]
    cases hv : visitOrder voc (d+1) rest E₁ <;>
      simp [hv, Except.map, g₂, g₁, Gathered.foldl_retain_with_expanded]
  | case6 t rest g g₁ h g₂ d e hcarried ihc =>
    have hE : t.cls ∉ g.expanded := by simpa [g₁] using h
    have h₂ : g₂.expanded = g.expanded ++ [t.cls] := by simp [g₂, g₁]
    rw [ihc, h₂] at hcarried
    rw [visitOrder_tag_succ hE]
    cases ho : visitOrder voc d (voc.carried t.cls) (g.expanded ++ [t.cls]) with
    | error e' => rw [ho] at hcarried; cases hcarried; rfl
    | ok p => rw [ho] at hcarried; cases hcarried

theorem walkTags_kept_eq_visitOrder (voc : Vocabulary) (direct : List Item) :
    (walkTags voc (voc.size+1) direct {}).map (·.kept) =
      (visitOrder voc (voc.size+1) direct []).map fun (o, _) =>
        (o.foldl (Gathered.retain voc) {}).kept := by
  rw [walkTags_eq_visitOrder]
  cases visitOrder voc (voc.size+1) direct [] <;> rfl

theorem walkTags_of_visitTags {voc : Vocabulary} {n : Nat} {items : List Item}
    {g g' : Gathered} : visitTags voc n items g = .ok g' → walkTags voc n items g = .ok g' := by
  fun_induction visitTags voc n items g generalizing g' with
  | case1 => intro h; simpa [walkTags] using h
  | case2 => rintro ⟨⟩
  | case3 => rintro ⟨⟩
  | case4 n t rest g g₁ hkeep h ih =>
    intro hv
    obtain rfl := Gathered.keep_ok hkeep
    rw [walkTags_tag_of_expanded (by simpa using h)]
    exact ih hv
  | case5 t rest g g₁ hkeep h g₂ =>
    rename_i ih
    intro hv
    obtain rfl := Gathered.keep_ok hkeep
    rw [walkTags_tag_zero (by simpa using h)]
    exact ih hv
  | case6 t rest g g₁ hkeep h g₂ d g₃ hcarried ihc =>
    rename_i ih
    intro hv
    obtain rfl := Gathered.keep_ok hkeep
    rw [walkTags_tag_succ (by simpa using h), ihc hcarried]
    exact ih hv
  | case7 => rintro ⟨⟩

theorem resolveTags_ok {voc : Vocabulary} {direct : List Item} {r : List Tag}
    (h : resolveTags voc direct = .ok r) :
    (walkTags voc (voc.size+1) direct {}).map (·.kept) = .ok r := by
  obtain ⟨g', hv, rfl⟩ := except_map_eq_ok.mp h
  rw [walkTags_of_visitTags hv]
  rfl

theorem visitOrder_sublist {n : Nat} {items : List Item} {E E' : List String} {o : List Tag} :
    visitOrder voc n items E = .ok (o, E') →
      ∃ ts : List Tag, items = ts.map .tag ∧ ts.Sublist o := by
  fun_induction visitOrder voc n items E generalizing o E' with
  | case1 => rintro ⟨⟩; exact ⟨[], rfl, .slnil⟩
  | case2 => rintro ⟨⟩
  | case3 n t rest E h =>
    rename_i ih
    intro hv
    obtain ⟨⟨o', E''⟩, hv', hp⟩ := except_map_eq_ok.mp hv
    cases hp
    obtain ⟨ts, rfl, hts⟩ := ih hv'
    exact ⟨t :: ts, rfl, hts.cons_cons t⟩
  | case4 t rest E h =>
    rename_i ih
    intro hv
    obtain ⟨⟨o', E''⟩, hv', hp⟩ := except_map_eq_ok.mp hv
    cases hp
    obtain ⟨ts, rfl, hts⟩ := ih hv'
    exact ⟨t :: ts, rfl, hts.cons_cons t⟩
  | case5 t rest E h d o₁ E₁ hcarried =>
    rename_i ihc ih
    intro hv
    obtain ⟨⟨o₂, E₂⟩, hv', hp⟩ := except_map_eq_ok.mp hv
    cases hp
    obtain ⟨ts, rfl, hts⟩ := ih hv'
    exact ⟨t :: ts, rfl, (hts.trans (List.sublist_append_right o₁ o₂)).cons_cons t⟩
  | case6 => rintro ⟨⟩

open Gathered in
theorem walkTags_closed {voc : Vocabulary} {n : Nat} {items : List Item} {g g' : Gathered} :
    g.Closed voc → walkTags voc n items g = .ok g' → g'.Closed voc := by
  fun_induction walkTags voc n items g generalizing g' with
  | case1 => rintro hc ⟨⟩; exact hc
  | case2 => rintro _ ⟨⟩
  | case3 n t rest g g₁ h =>
    rename_i ih
    intro hc hv
    exact ih (hc.retain (by simpa [g₁] using h)) hv
  | case4 t rest g g₁ h g₂ =>
    rename_i ih
    intro hc hv
    exact ih (hc.expand (by simpa [g₁] using h)).2 hv
  | case5 t rest g g₁ h g₂ d g₃ hcarried =>
    rename_i ihc ih
    intro hc hv
    exact ih (ihc (hc.expand (by simpa [g₁] using h)).2 hcarried) hv
  | case6 => rintro _ ⟨⟩

theorem walkTags_kept_prefix {voc : Vocabulary} {n : Nat} {items : List Item} {g g' : Gathered} :
    walkTags voc n items g = .ok g' → g.kept <+: g'.kept := by
  fun_induction walkTags voc n items g generalizing g' with
  | case1 => rintro ⟨⟩; exact List.prefix_refl _
  | case2 => rintro ⟨⟩
  | case3 n t rest g g₁ h =>
    rename_i ih
    exact fun hv => Gathered.kept_prefix_retain.trans (ih hv)
  | case4 t rest g g₁ h g₂ =>
    rename_i ih
    exact fun hv => Gathered.kept_prefix_retain.trans (ih hv)
  | case5 t rest g g₁ h g₂ d g₃ hcarried =>
    rename_i ihc ih
    exact fun hv => Gathered.kept_prefix_retain.trans ((ihc hcarried).trans (ih hv))
  | case6 => rintro ⟨⟩

theorem walkTags_append (voc : Vocabulary) (n : Nat) (xs ys : List Item) (g : Gathered) :
    walkTags voc n (xs ++ ys) g = walkTags voc n xs g >>= walkTags voc n ys := by
  fun_induction walkTags voc n xs g with
  | case1 => simp
  | case2 => simp [walkTags]
  | case3 n t rest g g₁ h ih =>
    rw [List.cons_append, walkTags_tag_of_expanded (by simpa [g₁] using h), ih]
  | case4 t rest g g₁ h g₂ ih =>
    rw [List.cons_append, walkTags_tag_zero (by simpa [g₁] using h), ih]
  | case5 t rest g g₁ h g₂ d g₃ hcarried ihc ih =>
    rw [List.cons_append, walkTags_tag_succ (by simpa [g₁] using h), hcarried]
    exact ih
  | case6 t rest g g₁ h g₂ d e hcarried ihc =>
    rw [List.cons_append, walkTags_tag_succ (by simpa [g₁] using h), hcarried]
    rfl

/-- Visiting tags already kept changes nothing, when each of a repeatable class equals
itself. -/
theorem walkTags_revisit {voc : Vocabulary} {n : Nat} {g : Gathered} (hc : g.Closed voc)
    (ts : List Tag)
    (hts : ∀ t ∈ ts, t ∈ g.kept ∧ (voc.isRepeatable t.cls = true → Tag.eq t t = true)) :
    walkTags voc n (ts.map .tag) g = .ok g := by
  induction ts with
  | nil => simp [walkTags]
  | cons t ts ih =>
    obtain ⟨ht, hself⟩ := hts t (by simp)
    have hE : t.cls ∈ g.expanded := (hc.expanded_iff _).mpr ⟨t, ht, rfl⟩
    rw [List.map_cons, walkTags_tag_of_expanded hE, Gathered.retain_of_mem hc.toSound ht hself]
    exact ih fun u hu => hts u (by simp [hu])

/-- Visiting again, in order, the tags a visit kept gives back what that visit ended with:
each kept tag expands its class as it did the first time, and the tags that expansion keeps
are already kept when they come round. -/
theorem walkTags_replay {voc : Vocabulary} {n : Nat} {items : List Item} {g g' : Gathered}
    {new : List Tag} :
    g.Closed voc → walkTags voc n items g = .ok g' → g'.kept = g.kept ++ new →
      (∀ t ∈ new, voc.isRepeatable t.cls = true → Tag.eq t t = true) →
      walkTags voc n (new.map .tag) g = .ok g' := by
  fun_induction walkTags voc n items g generalizing g' new with
  | case1 => rintro _ ⟨⟩ hnew -; simp_all [walkTags]
  | case2 => rintro _ ⟨⟩
  | case3 n t rest g g₁ h =>
    rename_i ih
    intro hc hv hnew hself
    have hE : t.cls ∈ g.expanded := by simpa [g₁] using h
    rcases Gathered.retain_eq_or voc g t with hk | hk
    · have hg : g₁ = g := hk
      rw [hg] at ih hv
      exact ih hc hv hnew hself
    · obtain ⟨new', hnew'⟩ := walkTags_kept_prefix hv
      rw [← hnew', hk, List.append_assoc] at hnew
      obtain rfl := List.append_cancel_left hnew
      rw [List.singleton_append, List.map_cons, walkTags_tag_of_expanded hE]
      exact ih (hc.retain hE) hv (by rw [← hnew', hk]) fun u hu => hself u (by simp [hu])
  | case4 t rest g g₁ h =>
    rename_i g₂ ih
    intro hc hv hnew hself
    have hE : t.cls ∉ g.expanded := by simpa [g₁] using h
    obtain ⟨hk, hc₂⟩ := hc.expand hE
    obtain ⟨new', hnew'⟩ := walkTags_kept_prefix hv
    have hk₂ : g₂.kept = g.kept ++ [t] := hk
    rw [← hnew', hk₂, List.append_assoc] at hnew
    obtain rfl := List.append_cancel_left hnew
    rw [List.singleton_append, List.map_cons, walkTags_tag_zero hE]
    exact ih hc₂ hv hnew'.symm fun u hu => hself u (by simp [hu])
  | case5 t rest g g₁ h =>
    rename_i g₂ d g₃ hcarried ihc ih
    intro hc hv hnew hself
    have hE : t.cls ∉ g.expanded := by simpa [g₁] using h
    obtain ⟨hk, hc₂⟩ := hc.expand hE
    have hc₃ := walkTags_closed hc₂ hcarried
    obtain ⟨c', hc'⟩ := walkTags_kept_prefix hcarried
    obtain ⟨new', hnew'⟩ := walkTags_kept_prefix hv
    have hk₂ : g₂.kept = g.kept ++ [t] := hk
    rw [← hnew', ← hc', hk₂, List.append_assoc, List.append_assoc] at hnew
    obtain rfl := List.append_cancel_left hnew
    -- the tags the expansion kept come round again with nothing left to do
    have hagain : walkTags voc (d+1) (c'.map .tag) g₃ = .ok g₃ :=
      walkTags_revisit hc₃ c' fun u hu =>
        ⟨hc' ▸ List.mem_append_right _ hu, hself u (by simp [hu])⟩
    rw [List.singleton_append, List.map_cons, walkTags_tag_succ hE, hcarried, except_ok_bind,
      List.map_append, walkTags_append, hagain, except_ok_bind]
    exact ih hc₃ hv hnew'.symm fun u hu => hself u (by simp [hu])
  | case6 => rintro _ ⟨⟩

/-- Walking what the walk kept gives it back, when each tag of a repeatable class in it equals
itself. -/
theorem walkTags_kept_replay {voc : Vocabulary} {direct : List Item} {r : List Tag}
    (h : (walkTags voc (voc.size+1) direct {}).map (·.kept) = .ok r)
    (hself : ∀ t ∈ r, voc.isRepeatable t.cls = true → Tag.eq t t = true) :
    (walkTags voc (voc.size+1) (r.map .tag) {}).map (·.kept) = .ok r := by
  obtain ⟨g', hv, rfl⟩ := except_map_eq_ok.mp h
  rw [walkTags_replay Gathered.closed_empty hv (by simp) hself]
  rfl

/-- The items resolution reaches from the items written on a field: those items, and the items
carried by the class of every tag it reaches. -/
inductive Reaches (voc : Vocabulary) (direct : List Item) : Item → Prop
  | written {i : Item} : i ∈ direct → Reaches voc direct i
  | carried {t : Tag} {i : Item} : Reaches voc direct (.tag t) → i ∈ voc.carried t.cls →
      Reaches voc direct i

section Reached
variable {voc : Vocabulary} {P : Item → Prop}
  (hP : ∀ t i, P (.tag t) → i ∈ voc.carried t.cls → P i)
include hP

/-- A visit of items all in a family closed under carrying fails only at an item of the
family that is not a tag. -/
theorem walkTags_error_of_closed {n : Nat} {items : List Item} {g : Gathered} {e : Failure} :
    (∀ i ∈ items, P i) → walkTags voc n items g = .error e →
      ∃ v, P (.other v) ∧ e = notATag v := by
  fun_induction walkTags voc n items g with
  | case1 => rintro _ ⟨⟩
  | case2 n v rest g => rintro hitems ⟨⟩; exact ⟨v, hitems _ (by simp), rfl⟩
  | case3 n t rest g g₁ h ih => exact fun hitems => ih fun i hi => hitems i (by simp [hi])
  | case4 t rest g g₁ h g₂ ih => exact fun hitems => ih fun i hi => hitems i (by simp [hi])
  | case5 t rest g g₁ h g₂ d g₃ hcarried ihc ih =>
    exact fun hitems => ih fun i hi => hitems i (by simp [hi])
  | case6 t rest g g₁ h g₂ d e' hcarried ihc =>
    rintro hitems ⟨⟩
    exact ihc (fun i hi => hP t i (hitems _ (by simp)) hi) hcarried

theorem walkTags_kept_of_closed {n : Nat} {items : List Item} {g g' : Gathered} :
    (∀ i ∈ items, P i) → (∀ u ∈ g.kept, P (.tag u)) →
      walkTags voc n items g = .ok g' →
      ∀ u ∈ g'.kept, P (.tag u) := by
  fun_induction walkTags voc n items g generalizing g' with
  | case1 => rintro _ hg ⟨⟩; exact hg
  | case2 => rintro _ _ ⟨⟩
  | case3 n t rest g g₁ h =>
    rename_i ih
    intro hitems hg hv
    exact ih (fun i hi => hitems i (by simp [hi]))
      (Gathered.forall_mem_retain hg (hitems _ (by simp))) hv
  | case4 t rest g g₁ h =>
    rename_i g₂ ih
    intro hitems hg hv
    exact ih (fun i hi => hitems i (by simp [hi]))
      (Gathered.forall_mem_retain hg (hitems _ (by simp))) hv
  | case5 t rest g g₁ h =>
    rename_i g₂ d g₃ hcarried ihc ih
    intro hitems hg hv
    have ht : P (.tag t) := hitems _ (by simp)
    exact ih (fun i hi => hitems i (by simp [hi]))
      (ihc (hP t · ht) (Gathered.forall_mem_retain hg ht) hcarried) hv
  | case6 => rintro _ _ ⟨⟩

/-- A visit of items all in a family closed under carrying fails at an item of the family that
is not a tag, or at a signaling comparison. -/
theorem visitTags_error_of_closed {n : Nat} {items : List Item} {g : Gathered} {e : Failure} :
    (∀ i ∈ items, P i) → visitTags voc n items g = .error e →
      (∃ v, P (.other v) ∧ e = notATag v) ∨ e = .invalidOperation := by
  fun_induction visitTags voc n items g with
  | case1 => rintro _ ⟨⟩
  | case2 n v rest g => rintro hitems ⟨⟩; exact .inl ⟨v, hitems _ (by simp), rfl⟩
  | case3 n t rest g e' hkeep => rintro _ ⟨⟩; exact .inr (Gathered.keep_error hkeep)
  | case4 n t rest g g₁ hkeep h ih => exact fun hitems => ih fun i hi => hitems i (by simp [hi])
  | case5 t rest g g₁ hkeep h g₂ =>
    rename_i ih
    exact fun hitems => ih fun i hi => hitems i (by simp [hi])
  | case6 t rest g g₁ hkeep h g₂ d g₃ hcarried ihc =>
    rename_i ih
    exact fun hitems => ih fun i hi => hitems i (by simp [hi])
  | case7 t rest g g₁ hkeep h g₂ d e' hcarried ihc =>
    rintro hitems ⟨⟩
    exact ihc (fun i hi => hP t i (hitems _ (by simp)) hi) hcarried

/-- When every tag of a repeatable class in a family closed under carrying equals itself, a
visit of items of the family makes no signaling comparison: it is the walk. -/
theorem visitTags_eq_walkTags
    (hquiet : ∀ t, P (.tag t) → voc.isRepeatable t.cls = true → Tag.eq t t = true)
    {n : Nat} {items : List Item} {g : Gathered} :
    (∀ i ∈ items, P i) → (∀ u ∈ g.kept, P (.tag u)) →
      visitTags voc n items g = walkTags voc n items g := by
  fun_induction visitTags voc n items g with
  | case1 => intros; simp [walkTags]
  | case2 => intros; simp [walkTags]
  | case3 n t rest g e hkeep =>
    intro hitems hg
    rw [Gathered.keep_eq_retain (fun u hu => hquiet u (hg u hu)) (hquiet t (hitems _ (by simp)))]
      at hkeep
    cases hkeep
  | case4 n t rest g g₁ hkeep h ih =>
    intro hitems hg
    obtain rfl := Gathered.keep_ok hkeep
    rw [walkTags_tag_of_expanded (by simpa using h)]
    exact ih (fun i hi => hitems i (by simp [hi]))
      (Gathered.forall_mem_retain hg (hitems _ (by simp)))
  | case5 t rest g g₁ hkeep h g₂ =>
    rename_i ih
    intro hitems hg
    obtain rfl := Gathered.keep_ok hkeep
    rw [walkTags_tag_zero (by simpa using h)]
    exact ih (fun i hi => hitems i (by simp [hi]))
      (Gathered.forall_mem_retain hg (hitems _ (by simp)))
  | case6 t rest g g₁ hkeep h g₂ d g₃ hcarried ihc =>
    rename_i ih
    intro hitems hg
    obtain rfl := Gathered.keep_ok hkeep
    have ht : P (.tag t) := hitems _ (by simp)
    have hg₂ : ∀ u ∈ g₂.kept, P (.tag u) := Gathered.forall_mem_retain hg ht
    have hwalk := (ihc (hP t · ht) hg₂).symm.trans hcarried
    rw [walkTags_tag_succ (by simpa using h), hwalk]
    exact ih (fun i hi => hitems i (by simp [hi]))
      (walkTags_kept_of_closed hP (hP t · ht) hg₂ hwalk)
  | case7 t rest g g₁ hkeep h g₂ d e hcarried ihc =>
    intro hitems hg
    obtain rfl := Gathered.keep_ok hkeep
    have ht : P (.tag t) := hitems _ (by simp)
    rw [walkTags_tag_succ (by simpa using h),
      ← ihc (hP t · ht) (Gathered.forall_mem_retain hg ht), hcarried]
    rfl

end Reached

namespace Vocabulary

variable {voc : Vocabulary}

/-- The names of the classes of a vocabulary: the declared ones, then the built-in ones. -/
def names (voc : Vocabulary) : List String :=
  voc.declared.map (·.name) ++ TagKind.builtins.map TagKind.name

theorem length_names (voc : Vocabulary) : voc.names.length = voc.size := by
  simp [names, size]

theorem mem_carried {c : String} {i : Item} (h : i ∈ voc.carried c) :
    (∃ cls ∈ voc.declared, i ∈ cls.carried) ∨
      ∃ k, i ∈ (TagClass.builtin k).carried := by
  unfold carried find? at h
  cases hd : voc.declared.find? (·.name == c) with
  | some cls =>
    rw [hd] at h
    exact .inl ⟨cls, List.mem_of_find?_eq_some hd, h⟩
  | none =>
    rw [hd] at h
    cases hb : TagKind.ofName? c with
    | some k => rw [hb] at h; exact .inr ⟨k, h⟩
    | none => rw [hb] at h; cases h

theorem mem_names_of_carried {c : String} (h : voc.carried c ≠ []) : c ∈ voc.names := by
  unfold carried find? at h
  unfold names
  cases hd : voc.declared.find? (·.name == c) with
  | some cls =>
    have hname : cls.name = c := by simpa using List.find?_some hd
    exact List.mem_append_left _ (List.mem_map.mpr ⟨cls, List.mem_of_find?_eq_some hd, hname⟩)
  | none =>
    cases hb : TagKind.ofName? c with
    | some k =>
      have hname : k.name = c := by simpa using List.find?_some hb
      exact List.mem_append_right _ (List.mem_map.mpr ⟨k, List.mem_of_find?_eq_some hb, hname⟩)
    | none => simp [hd, hb] at h

/-- How many classes of the vocabulary are not yet expanded. -/
def unexpanded (voc : Vocabulary) (E : List String) : Nat :=
  (voc.names.toFinset.filter (· ∉ E)).card

theorem unexpanded_anti {E E' : List String} (h : E ⊆ E') :
    voc.unexpanded E' ≤ voc.unexpanded E :=
  Finset.card_le_card fun c hc => by
    simp only [Finset.mem_filter] at hc ⊢
    exact ⟨hc.1, fun hE => hc.2 (h hE)⟩

theorem unexpanded_append {E : List String} {c : String} (hc : c ∈ voc.names) (hE : c ∉ E) :
    voc.unexpanded (E ++ [c]) < voc.unexpanded E := by
  refine Finset.card_lt_card ((Finset.ssubset_iff_of_subset fun x hx => ?_).mpr ⟨c, ?_, ?_⟩)
  · simp only [Finset.mem_filter, List.mem_append, not_or] at hx ⊢
    exact ⟨hx.1, hx.2.1⟩
  · simpa using ⟨hc, hE⟩
  · simp

/-- Depth enough for the classes still to expand: while a class not expanded carries items,
the depth exceeds the count of classes not expanded. -/
def Adequate (voc : Vocabulary) (n : Nat) (E : List String) : Prop :=
  ∀ c, voc.carried c ≠ [] → c ∉ E → voc.unexpanded E < n

theorem adequate_size (voc : Vocabulary) : voc.Adequate (voc.size+1) [] := by
  intro c _ _
  have h₁ : voc.unexpanded [] ≤ voc.names.toFinset.card := Finset.card_filter_le _ _
  have h₂ : voc.names.toFinset.card ≤ voc.names.length := List.toFinset_card_le _
  rw [length_names] at h₂
  omega

theorem Adequate.mono {n : Nat} {E E' : List String} (hA : voc.Adequate n E) (h : E ⊆ E') :
    voc.Adequate n E' :=
  fun c hc hE' => Nat.lt_of_le_of_lt (unexpanded_anti h) (hA c hc fun hE => hE' (h hE))

theorem Adequate.expand {d : Nat} {E : List String} {c : String} (hA : voc.Adequate (d+1) E)
    (hc : voc.carried c ≠ []) (hE : c ∉ E) : voc.Adequate d (E ++ [c]) := by
  intro c' _ _
  have h₁ := hA c hc hE
  have h₂ := unexpanded_append (mem_names_of_carried hc) hE
  omega

theorem Adequate.carried_eq_nil {E : List String} {c : String} (hA : voc.Adequate 0 E)
    (hE : c ∉ E) : voc.carried c = [] := by
  by_contra hc
  exact Nat.not_lt_zero _ (hA c hc hE)

end Vocabulary

section Expansion
variable {voc : Vocabulary}

theorem walkTags_expanded_mono {n : Nat} {items : List Item} {g g' : Gathered} :
    walkTags voc n items g = .ok g' → g.expanded ⊆ g'.expanded := by
  fun_induction walkTags voc n items g generalizing g' with
  | case1 => rintro ⟨⟩; exact List.Subset.refl _
  | case2 => rintro ⟨⟩
  | case3 n t rest g g₁ h =>
    rename_i ih
    intro hv c hc
    exact ih hv (by simpa [g₁] using hc)
  | case4 t rest g g₁ h =>
    rename_i g₂ ih
    intro hv c hc
    exact ih hv (by simp [g₂, g₁, hc])
  | case5 t rest g g₁ h =>
    rename_i g₂ d g₃ hcarried ihc ih
    intro hv c hc
    exact ih hv (ihc hcarried (by simp [g₂, g₁, hc]))
  | case6 => rintro ⟨⟩

theorem walkTags_visits {n : Nat} {items : List Item} {g g' : Gathered} :
    walkTags voc n items g = .ok g' →
      ∀ i ∈ items, ∃ t, i = .tag t ∧ t.cls ∈ g'.expanded := by
  fun_induction walkTags voc n items g generalizing g' with
  | case1 => simp
  | case2 => rintro ⟨⟩
  | case3 n t rest g g₁ h =>
    rename_i ih
    intro hv i hi
    rcases List.mem_cons.mp hi with rfl | hi
    · exact ⟨t, rfl, walkTags_expanded_mono hv (by simpa using h)⟩
    · exact ih hv i hi
  | case4 t rest g g₁ h =>
    rename_i g₂ ih
    intro hv i hi
    rcases List.mem_cons.mp hi with rfl | hi
    · exact ⟨t, rfl, walkTags_expanded_mono hv (by simp [g₂])⟩
    · exact ih hv i hi
  | case5 t rest g g₁ h =>
    rename_i g₂ d g₃ hcarried ihc ih
    intro hv i hi
    rcases List.mem_cons.mp hi with rfl | hi
    · have h₃ : t.cls ∈ g₃.expanded := walkTags_expanded_mono hcarried (by simp [g₂])
      exact ⟨t, rfl, walkTags_expanded_mono hv h₃⟩
    · exact ih hv i hi
  | case6 => rintro ⟨⟩

/-- With depth enough, the items of every class a visit expands are visited: each is a tag whose
class ends expanded. -/
theorem walkTags_expands {n : Nat} {items : List Item} {g g' : Gathered} :
    voc.Adequate n g.expanded → walkTags voc n items g = .ok g' →
      ∀ c ∈ g'.expanded, c ∉ g.expanded →
        ∀ i ∈ voc.carried c, ∃ t, i = .tag t ∧ t.cls ∈ g'.expanded := by
  fun_induction walkTags voc n items g generalizing g' with
  | case1 => rintro _ ⟨⟩ c hc hnot; exact absurd hc hnot
  | case2 => rintro _ ⟨⟩
  | case3 n t rest g g₁ h =>
    rename_i ih
    intro hA hv c hc hnot
    have hE : g₁.expanded = g.expanded := Gathered.retain_expanded
    exact ih (hE ▸ hA) hv c hc (hE ▸ hnot)
  | case4 t rest g g₁ h =>
    rename_i g₂ ih
    intro hA hv c hc hnot
    have hE : t.cls ∉ g.expanded := by simpa [g₁] using h
    by_cases hc₂ : c ∈ g₂.expanded
    · have : c = t.cls := by simpa [g₂, g₁, hnot] using hc₂
      subst this
      simp [hA.carried_eq_nil hE]
    · exact ih (hA.mono (by simp [g₂, g₁])) hv c hc hc₂
  | case5 t rest g g₁ h =>
    rename_i g₂ d g₃ hcarried ihc ih
    intro hA hv c hc hnot
    have hE : t.cls ∉ g.expanded := by simpa [g₁] using h
    have h₂ : g₂.expanded = g.expanded ++ [t.cls] := by simp [g₂, g₁]
    have hmono := walkTags_expanded_mono hv
    by_cases hc₃ : c ∈ g₃.expanded
    · by_cases hc₂ : c ∈ g₂.expanded
      · have : c = t.cls := by simpa [h₂, hnot] using hc₂
        subst this
        intro i hi
        obtain ⟨u, rfl, hu⟩ := walkTags_visits hcarried i hi
        exact ⟨u, rfl, hmono hu⟩
      · have hne : voc.carried t.cls ≠ [] := by
          intro hnil
          rw [hnil] at hcarried
          simp only [walkTags, Except.ok.injEq] at hcarried
          exact hc₂ (hcarried ▸ hc₃)
        intro i hi
        obtain ⟨u, rfl, hu⟩ := ihc (h₂ ▸ hA.expand hne hE) hcarried c hc₃ hc₂ i hi
        exact ⟨u, rfl, hmono hu⟩
    · have hA₃ : voc.Adequate (d+1) g₃.expanded :=
        hA.mono fun x hx => walkTags_expanded_mono hcarried (by simp [h₂, hx])
      exact ih hA₃ hv c hc hc₃
  | case6 => rintro _ ⟨⟩

end Expansion

section Resolve
variable {voc : Vocabulary} {direct : List Item}

theorem Reaches.closed (t : Tag) (i : Item) (ht : Reaches voc direct (.tag t))
    (hi : i ∈ voc.carried t.cls) : Reaches voc direct i :=
  .carried ht hi

theorem resolveTags_reached {r : List Tag} (h : resolveTags voc direct = .ok r) {i : Item}
    (hi : Reaches voc direct i) : ∃ t, i = .tag t ∧ ∃ u ∈ r, u.cls = t.cls := by
  obtain ⟨g', hv, rfl⟩ := except_map_eq_ok.mp (resolveTags_ok h)
  have hexp : ∀ {i}, Reaches voc direct i → ∃ t, i = .tag t ∧ t.cls ∈ g'.expanded := by
    intro i hi
    induction hi with
    | written hi => exact walkTags_visits hv _ hi
    | carried _ hi ih =>
      obtain ⟨t, ht, hcls⟩ := ih
      cases ht
      exact walkTags_expands (voc.adequate_size) hv _ hcls (by simp) _ hi
  obtain ⟨t, rfl, hcls⟩ := hexp hi
  have hc := walkTags_closed Gathered.closed_empty hv
  exact ⟨t, rfl, (hc.expanded_iff _).mp hcls⟩

theorem resolveTags_kept_reached {r : List Tag} (h : resolveTags voc direct = .ok r) :
    ∀ u ∈ r, Reaches voc direct (.tag u) := by
  obtain ⟨g', hv, rfl⟩ := except_map_eq_ok.mp (resolveTags_ok h)
  exact walkTags_kept_of_closed Reaches.closed (fun _ => .written) (by simp) hv

theorem Reaches.of_resolved {r : List Tag} (h : resolveTags voc direct = .ok r) {i : Item}
    (hi : Reaches voc (r.map .tag) i) : Reaches voc direct i := by
  induction hi with
  | written hi =>
    obtain ⟨u, hu, rfl⟩ := List.mem_map.mp hi
    exact resolveTags_kept_reached h u hu
  | carried _ hi ih => exact .carried ih hi

/-- Resolution fails at an item it reaches that is not a tag, and names it, or at a signaling
comparison of tags. -/
theorem resolveTags_error_cases {e : Failure} (h : resolveTags voc direct = .error e) :
    (∃ v, Reaches voc direct (.other v) ∧ e = notATag v) ∨ e = .invalidOperation := by
  cases hv : visitTags voc (voc.size+1) direct {} with
  | error e' =>
    rw [resolveTags, hv] at h
    cases h
    exact visitTags_error_of_closed Reaches.closed (fun _ => .written) hv
  | ok g => rw [resolveTags, hv] at h; cases h

section Quiet
variable (hquiet : ∀ t, Reaches voc direct (.tag t) → voc.isRepeatable t.cls = true →
  Tag.eq t t = true)
include hquiet

/-- When every tag it reaches of a repeatable class equals itself, resolution makes no
signaling comparison. -/
theorem resolveTags_eq_walk :
    resolveTags voc direct = (walkTags voc (voc.size+1) direct {}).map (·.kept) := by
  rw [resolveTags, visitTags_eq_walkTags Reaches.closed hquiet (fun _ => .written) (by simp)]

theorem resolveTags_error_reached {e : Failure} (h : resolveTags voc direct = .error e) :
    ∃ v, Reaches voc direct (.other v) ∧ e = notATag v := by
  rw [resolveTags_eq_walk hquiet] at h
  cases hv : walkTags voc (voc.size+1) direct {} with
  | error e' =>
    rw [hv] at h
    cases h
    exact walkTags_error_of_closed Reaches.closed (fun _ => .written) hv
  | ok g => rw [hv] at h; cases h

theorem resolveTags_error_iff :
    (∃ e, resolveTags voc direct = .error e) ↔ ∃ v, Reaches voc direct (.other v) := by
  constructor
  · rintro ⟨e, h⟩
    obtain ⟨v, hv, -⟩ := resolveTags_error_reached hquiet h
    exact ⟨v, hv⟩
  · rintro ⟨v, hv⟩
    cases h : resolveTags voc direct with
    | error e => exact ⟨e, rfl⟩
    | ok r =>
      obtain ⟨t, ht, -⟩ := resolveTags_reached h hv
      cases ht

theorem resolveTags_resolveTags {r : List Tag} (h : resolveTags voc direct = .ok r) :
    resolveTags voc (r.map .tag) = .ok r := by
  rw [resolveTags_eq_walk fun t ht => hquiet t (Reaches.of_resolved h ht)]
  exact walkTags_kept_replay (resolveTags_ok h)
    fun t ht => hquiet t (resolveTags_kept_reached h t ht)

end Quiet

/-- A resolution that fails at a signaling comparison reaches a tag of a repeatable class that
differs from itself. -/
theorem resolveTags_invalidOperation (h : resolveTags voc direct = .error .invalidOperation) :
    ∃ t, Reaches voc direct (.tag t) ∧ voc.isRepeatable t.cls = true ∧ Tag.eq t t = false := by
  by_contra hne
  have hquiet : ∀ t, Reaches voc direct (.tag t) → voc.isRepeatable t.cls = true →
      Tag.eq t t = true := by
    intro t ht hrep
    by_contra hf
    exact hne ⟨t, ht, hrep, by simpa using hf⟩
  obtain ⟨v, -, hv⟩ := resolveTags_error_reached hquiet h
  simp [notATag] at hv

end Resolve

/-- Resolution computes the first-occurrence closure of the items written on a field. It fails
exactly when it reaches an item that is not a tag, and then names such an item. Otherwise it
returns its visit order (the written tags in order, the items of each class right after the
first tag of the class) filtered: every visited tag has a kept tag standing for it, the kept
tags stand apart, every class reached has a tag kept and none that is not repeatable has two.
When every tag reached of a repeatable class equals itself, resolving the result again gives
it back. -/
theorem resolveTags_first_occurrence (voc : Vocabulary) (direct : List Item)
    (hself : ∀ t, Reaches voc direct (.tag t) → voc.isRepeatable t.cls = true →
      Tag.eq t t = true) :
    ((∃ e, resolveTags voc direct = .error e) ↔ ∃ v, Reaches voc direct (.other v)) ∧
    (∀ e, resolveTags voc direct = .error e →
      ∃ v, Reaches voc direct (.other v) ∧ e = notATag v) ∧
    ∀ r, resolveTags voc direct = .ok r →
      (∃ order E, visitOrder voc (voc.size+1) direct [] = .ok (order, E) ∧
        r = (order.foldl (Gathered.retain voc) {}).kept ∧
        (∃ ts : List Tag, direct = ts.map .tag ∧ ts.Sublist order) ∧
        ∀ t ∈ order, ∃ u ∈ r, u.cls = t.cls ∧
          (voc.isRepeatable t.cls = true → u = t ∨ Tag.eq u t = true)) ∧
      r.Pairwise (Tag.apart voc) ∧
      (∀ c, voc.isRepeatable c = false → r.countP (·.cls == c) ≤ 1) ∧
      (∀ t, Reaches voc direct (.tag t) → ∃ u ∈ r, u.cls = t.cls) ∧
      resolveTags voc (r.map .tag) = .ok r := by
  refine ⟨resolveTags_error_iff hself, fun _ => resolveTags_error_reached hself, fun r hr => ?_⟩
  have hfilter := resolveTags_ok hr
  rw [walkTags_kept_eq_visitOrder] at hfilter
  obtain ⟨⟨order, E⟩, hord, hr'⟩ := except_map_eq_ok.mp hfilter
  dsimp only at hr'
  subst hr'
  have hsound : (order.foldl (Gathered.retain voc) {}).Sound voc :=
    Gathered.sound_empty.foldl order
  refine ⟨⟨order, E, hord, rfl, visitOrder_sublist hord,
    Gathered.foldl_retain_represents Gathered.sound_empty order⟩, hsound.apart,
    fun c hc => countP_cls_le_one hsound.apart hc, ?_, ?_⟩
  · intro t ht
    obtain ⟨t', h', hrep⟩ := resolveTags_reached hr ht
    cases h'
    exact hrep
  · exact resolveTags_resolveTags hself hr

/-- A class that carries itself and a built-in class that carries a tag, written beside a
repeatable class twice: each is kept once, and resolving the result again settles. -/
theorem resolveTags_first_occurrence_audited :
    let voc : Vocabulary := { declared := [⟨"Audited", .custom, false,
      [.tag ⟨"Audited", .custom .none⟩, .tag ⟨"CreatedAt", .createdAt⟩]⟩,
      ⟨"Label", .custom, true, []⟩] }
    let direct : List Item := [.tag ⟨"Label", .custom (.str "a")⟩,
      .tag ⟨"Audited", .custom .none⟩, .tag ⟨"Label", .custom (.str "a")⟩]
    let r : List Tag := [⟨"Label", .custom (.str "a")⟩, ⟨"Audited", .custom .none⟩,
      ⟨"CreatedAt", .createdAt⟩, generatedTag "timestamp" true false]
    (∀ t, Reaches voc direct (.tag t) → voc.isRepeatable t.cls = true → Tag.eq t t = true) ∧
      resolveTags voc direct = .ok r ∧ resolveTags voc (r.map .tag) = .ok r := by
  intro voc direct r
  have hall : ∀ i, Reaches voc direct i → ∀ t, i = .tag t → Tag.eq t t = true := by
    intro i hi
    induction hi with
    | written hi =>
      simp only [direct, List.mem_cons, List.not_mem_nil, or_false] at hi
      rcases hi with rfl | rfl | rfl <;> rintro t ⟨⟩ <;>
        simp [Tag.eq, Tag.kind, TagBody.kind, TagBody.fields, Value.pyEq, Value.asText?]
    | carried _ hi _ =>
      rcases Vocabulary.mem_carried hi with ⟨cls, hcls, hi⟩ | ⟨k, hi⟩
      · simp only [voc, List.mem_cons, List.not_mem_nil, or_false] at hcls
        rcases hcls with rfl | rfl <;> simp at hi
        rcases hi with rfl | rfl <;> rintro t ⟨⟩ <;>
          simp [Tag.eq, Tag.kind, TagBody.kind, TagBody.fields, Value.pyEq]
      · cases k <;> simp [TagClass.builtin] at hi <;> subst hi <;> rintro t ⟨⟩ <;>
          simp [Tag.eq, Tag.kind, TagBody.kind, TagBody.fields, generatedTag, Value.pyEq,
            Value.asText?, Value.number?, NumView.isNaN, NumView.order]
  have hself : ∀ t, Reaches voc direct (.tag t) → voc.isRepeatable t.cls = true →
      Tag.eq t t = true := fun t ht _ => hall _ ht t rfl
  have hr : resolveTags voc direct = .ok r := by
    rw [resolveTags_eq_walk hself]
    simp [voc, direct, r, walkTags, Gathered.retain, Vocabulary.isRepeatable,
      Vocabulary.find?, Vocabulary.carried, Vocabulary.size, TagKind.ofName?, TagKind.builtins,
      TagKind.name, TagClass.builtin, Tag.eq, Tag.kind, TagBody.kind, TagBody.fields, Value.pyEq,
      Value.asText?, Value.number?, generatedTag, Except.map]
  exact ⟨hself, hr, ((resolveTags_first_occurrence voc direct hself).2.2 r hr).2.2.2.2⟩

/-- A tag of a repeatable class holding a signaling NaN, then another tag of that class: keeping
the second compares it with the first, and the comparison signals. -/
theorem resolveTags_signaling_repeatable :
    resolveTags { declared := [⟨"Rep", .custom, true, []⟩] }
      [.tag ⟨"Rep", .custom (.decimal (.nan false true 0))⟩, .tag ⟨"Rep", .custom (.int 1)⟩] =
      .error .invalidOperation := by
  simp [resolveTags, visitTags, Gathered.keep, Tag.eqChecked, Tag.signalsIn, Tag.kind,
    TagBody.kind, TagBody.fields, Value.signalsInSeq, Value.signalsIn, Value.signals,
    Value.isSignaling, Value.number?, Vocabulary.isRepeatable, Vocabulary.find?,
    Vocabulary.carried, Vocabulary.size, TagKind.builtins, Except.map]

end DataMapper
