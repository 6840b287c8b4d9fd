import DataMapper.Mapping.Row
import DataMapper.Proofs.Except

namespace DataMapper

namespace EnumDef

/-- An enumeration as a declaration makes it: the names of its members are distinct, and no
member's value equals the value of a member before it (a repeated value makes an alias). -/
structure Canonical (d : EnumDef) : Prop where
  names_nodup : (d.members.map Prod.fst).Nodup
  values_fresh : d.members.Pairwise fun a b => Value.pyEq a.2 b.2 = false

theorem addEntries_canonical {d : EnumDef} (hfresh : d.members.Pairwise fun a b => Value.pyEq a.2 b.2 = false)
    {entries : List (String × Value)}
    (hnames : (d.members.map Prod.fst ++ entries.map Prod.fst).Nodup) :
    (d.addEntries entries).Canonical := by
  induction entries generalizing d with
  | nil =>
    rw [addEntries]
    exact ⟨by simpa using hnames, hfresh⟩
  | cons e rest ih =>
    obtain ⟨n, v⟩ := e
    rw [addEntries]
    split
    · refine ih hfresh (hnames.sublist ?_)
      simp only [List.map_cons]
      exact List.Sublist.append_left (List.sublist_cons_self _ _) _
    · rename_i hnone
      refine ih ?_ (by simpa using hnames)
      rw [List.pairwise_append]
      refine ⟨hfresh, List.pairwise_singleton _ _, ?_⟩
      intro a ha b hb
      rw [List.mem_singleton] at hb
      subst hb
      exact List.findIdx?_eq_none_iff.mp hnone a ha

theorem define_canonical {name : String} {base : EnumBase} {entries : List (String × Value)}
    (hnames : (entries.map Prod.fst).Nodup) : (define name base entries).Canonical :=
  addEntries_canonical List.Pairwise.nil (by simpa using hnames)

theorem findIdx?_first {α : Type} {xs : List α} {p : α → Bool} {i : Nat} (hi : i < xs.length)
    (hp : p xs[i] = true) (hbefore : ∀ j (hj : j < i), p xs[j] = false) :
    xs.findIdx? p = some i :=
  List.findIdx?_eq_some_iff_getElem.mpr ⟨hi, hp, fun j hj => by simp [hbefore j hj]⟩

theorem mem_all {d : EnumDef} {m : Value} :
    m ∈ d.all ↔ ∃ (i : Nat) (h : i < d.members.length),
      m = .member d.name d.base d.members[i].1 i d.members[i].2 := by
  simp only [all, List.mem_filterMap, List.mem_range]
  constructor
  · rintro ⟨i, hi, hm⟩
    rw [member?_some d i hi] at hm
    exact ⟨i, hi, (Option.some.inj hm).symm⟩
  · rintro ⟨i, hi, rfl⟩
    exact ⟨i, hi, member?_some d i hi⟩

variable {d : EnumDef} {i : Nat}

theorem owns_member (n : String) (v : Value) : d.owns (.member d.name d.base n i v) = true := by
  simp [owns]

theorem byName?_member (hd : d.Canonical) (hi : i < d.members.length) :
    d.byName? d.members[i].1 = d.member? i := by
  have hfind : d.members.findIdx? (·.1 == d.members[i].1) = some i := by
    refine findIdx?_first hi (by simp) fun j hj => ?_
    have hi' : i < (d.members.map Prod.fst).length := by simpa using hi
    have hj' : j < (d.members.map Prod.fst).length := by simp; omega
    have hne : (d.members.map Prod.fst)[j] ≠ (d.members.map Prod.fst)[i] :=
      List.pairwise_iff_getElem.mp hd.names_nodup j i hj' hi' hj
    simpa using hne
  simp [byName?, hfind]

/-- A member's value gives that member, when it equals itself and is no member of the
enumeration. -/
theorem byValue?_member (hd : d.Canonical) (hi : i < d.members.length)
    (hrefl : Value.pyEq d.members[i].2 d.members[i].2 = true) (hforeign : d.owns d.members[i].2 = false) :
    d.byValue? d.members[i].2 = d.member? i := by
  have hfind : d.members.findIdx? (fun m => Value.pyEq m.2 d.members[i].2) = some i := by
    refine findIdx?_first hi hrefl fun j hj => ?_
    exact List.pairwise_iff_getElem.mp hd.values_fresh j i _ hi hj
  simp [byValue?, hforeign, hfind]

end EnumDef

namespace Convert

variable {enums : List EnumDef} {d : EnumDef} {f : MappedField}

/-- Writing a member of the field's enumeration stores its position, its value or its name,
as the field's mode says. -/
theorem enumToDb_member (hf : enumOf enums f = .ok d) (n : String) (i : Nat) (v : Value) :
    enumToDb enums f (.member d.name d.base n i v) =
      .ok (match enumMode f with
        | "ORDINAL" => .int i
        | "VALUE" => v
        | _ => .str n) := by
  simp only [enumToDb, Value.isNone, Bool.false_eq_true, ↓reduceIte, hf, except_ok_bind,
    EnumDef.owns_member, except_pure]
  split <;> simp_all

theorem enumFromDb_ordinal (hf : enumOf enums f = .ok d) (hmode : enumMode f = "ORDINAL")
    (k : Int) :
    enumFromDb enums f (.int k) =
      match atPosition d k with
      | some m => .ok m
      | none => .error (invalidOrdinal d f (.int k)) := by
  simp only [enumFromDb, Value.isNone, Bool.false_eq_true, ↓reduceIte, hf, except_ok_bind,
    EnumDef.owns, hmode, beq_self_eq_true, Value.toInt]
  split <;> simp_all

theorem enumFromDb_lookup (hf : enumOf enums f = .ok d) (hmode : enumMode f ≠ "ORDINAL")
    {v : Value} (hv : v.isNone = false) (hforeign : d.owns v = false) :
    enumFromDb enums f v = lookup d f v := by
  have hmode' : (enumMode f == "ORDINAL") = false := by simpa using hmode
  simp only [enumFromDb, hv, Bool.false_eq_true, ↓reduceIte, hf, except_ok_bind, hforeign, hmode']

theorem lookup_name {s : String} {v m : Value} (hs : v.asText? = some s) (hm : d.byName? s = some m) :
    lookup d f v = .ok m := by
  simp [lookup, hs, hm]

theorem lookup_value {v m : Value}
    (hname : ∀ s, v.asText? = some s → d.byName? s = none ∨ d.byName? s = some m)
    (hm : d.byValue? v = some m) : lookup d f v = .ok m := by
  unfold lookup
  cases hs : v.asText? with
  | none => simp [hm]
  | some s =>
    rcases hname s hs with h | h
    · simp [h, hm]
    · simp [h]

theorem atPosition_of_nonneg {k : Int} (h0 : 0 ≤ k) : atPosition d k = d.member? k.toNat := by
  have hnot : ¬ k < 0 := by omega
  simp [atPosition, hnot]

/-- Positions past the last member, or further before the first than there are members, give
none. -/
theorem atPosition_out_of_range {k : Int} (hk : k < -d.members.length ∨ d.members.length ≤ k) :
    atPosition d k = none := by
  unfold atPosition
  rcases hk with hk | hk
  · have hneg : k < 0 := by omega
    have hfar : k + (d.members.length : Int) < 0 := by omega
    simp [hneg, hfar]
  · have hnot : ¬ k < 0 := by omega
    have hnone : d.member? k.toNat = none := by
      simp only [EnumDef.member?]
      rw [List.getElem?_eq_none (by omega)]
    simp [hnot, hnone]

end Convert

/-- What reading back needs of a member stored by its value: the value is something, is no
member of the enumeration itself, equals itself, and as a text names no other member. -/
def EnumDef.ValueReadsBack (d : EnumDef) : Value → Prop
  | m@(.member _ _ _ _ v) => v.isNone = false ∧ d.owns v = false ∧ Value.pyEq v v = true ∧
      ∀ s, v.asText? = some s → d.byName? s = none ∨ d.byName? s = some m
  | _ => False

/-- A converter's refusal of a bad value is reported as a value that does not fit the field,
showing what was stored. -/
theorem Mapping.readValue_of_fromDbAll_bad {enums : List EnumDef} {r : Registries}
    {dialect : Option Dialect} {model : String} {f : MappedField} {raw : Value} {e : Failure}
    (h : Converter.fromDbAll enums f (r.convertersFor f dialect) raw = .error e)
    (he : e.isValueError = true) :
    Mapping.readValue enums r dialect model f raw = .error (Mapping.mismatch model f raw) := by
  unfold Mapping.readValue
  simp only [h, except_error_bind]
  cases e <;> simp_all [Mapping.isBadValue, Failure.isValueError]

namespace Convert

variable {d : EnumDef} {enums : List EnumDef} {f : MappedField}

theorem enumFromDb_enumToDb_of_ne_value (hd : d.Canonical) (hf : enumOf enums f = .ok d)
    {i : Nat} (hi : i < d.members.length) (hmode : enumMode f ≠ "VALUE") :
    (enumToDb enums f (.member d.name d.base d.members[i].1 i d.members[i].2) >>= enumFromDb enums f) =
      .ok (.member d.name d.base d.members[i].1 i d.members[i].2) := by
  rw [enumToDb_member hf, except_ok_bind]
  split
  · rename_i hord
    rw [enumFromDb_ordinal hf hord, atPosition_of_nonneg (by omega)]
    simp [EnumDef.member?_some d i hi]
  · contradiction
  · rename_i hord _
    rw [enumFromDb_lookup hf hord rfl rfl]
    exact lookup_name rfl (by rw [EnumDef.byName?_member hd hi, EnumDef.member?_some d i hi])

theorem enumFromDb_enumToDb_value (hd : d.Canonical) (hf : enumOf enums f = .ok d)
    {i : Nat} (hi : i < d.members.length) (hmode : enumMode f = "VALUE")
    (hback : d.ValueReadsBack (.member d.name d.base d.members[i].1 i d.members[i].2)) :
    (enumToDb enums f (.member d.name d.base d.members[i].1 i d.members[i].2) >>= enumFromDb enums f) =
      .ok (.member d.name d.base d.members[i].1 i d.members[i].2) := by
  obtain ⟨hsome, hforeign, hrefl, hnames⟩ := hback
  have hstored : enumToDb enums f (.member d.name d.base d.members[i].1 i d.members[i].2) =
      .ok d.members[i].2 := by
    rw [enumToDb_member hf, hmode]
    rfl
  rw [hstored, except_ok_bind, enumFromDb_lookup hf (by simp [hmode]) hsome hforeign]
  exact lookup_value hnames
    (by rw [EnumDef.byValue?_member hd hi hrefl hforeign, EnumDef.member?_some d i hi])

/-- Enumeration columns. Take a canonical enumeration `d` (what declaring one with distinct
names gives, aliases allowed) and a field declared with `d`. Stored by name or by position,
every member reads back as itself; stored by value, a member reads back as itself when its
value is something, no member itself, equal to itself and no other member's name. An ordinal
column reads the integer `k` as the `k`-th member when `0 ≤ k` is below the number of members,
and refuses it as an invalid ordinal when it is past the last member or further below zero than
there are members; a column whose one converter is the enumeration's reports that refusal as a
value that does not fit the field. -/
theorem enumColumn_round_trip (hd : d.Canonical) (hf : enumOf enums f = .ok d) :
    (∀ m ∈ d.all, (enumMode f ≠ "VALUE" ∨ d.ValueReadsBack m) →
        (enumToDb enums f m >>= enumFromDb enums f) = .ok m) ∧
      (enumMode f = "ORDINAL" →
        (∀ (k : Nat) (hk : k < d.members.length),
          enumFromDb enums f (.int k) = .ok (.member d.name d.base d.members[k].1 k d.members[k].2)) ∧
        ∀ k : Int, (k < -d.members.length ∨ d.members.length ≤ k) →
          enumFromDb enums f (.int k) = .error (invalidOrdinal d f (.int k)) ∧
          ∀ (r : Registries) (dialect : Option Dialect) (model : String),
            r.convertersFor f dialect = [.enumeration] →
            Mapping.readValue enums r dialect model f (.int k) =
              .error (Mapping.mismatch model f (.int k))) := by
  refine ⟨fun m hm hmode => ?_, fun hord => ⟨fun k hk => ?_, fun k hk => ?_⟩⟩
  · obtain ⟨i, hi, rfl⟩ := EnumDef.mem_all.mp hm
    by_cases hval : enumMode f = "VALUE"
    · exact enumFromDb_enumToDb_value hd hf hi hval (hmode.resolve_left (not_not.mpr hval))
    · exact enumFromDb_enumToDb_of_ne_value hd hf hi hval
  · rw [enumFromDb_ordinal hf hord, atPosition_of_nonneg (by omega)]
    simp [EnumDef.member?_some d k hk]
  · have herr : enumFromDb enums f (.int k) = .error (invalidOrdinal d f (.int k)) := by
      rw [enumFromDb_ordinal hf hord, atPosition_out_of_range hk]
    refine ⟨herr, fun r dialect model hconv => ?_⟩
    have hread : Converter.fromDbAll enums f (r.convertersFor f dialect) (.int k) =
        .error (invalidOrdinal d f (.int k)) := by
      rw [hconv]
      simp [Converter.fromDbAll, Converter.fromDb, herr]
    exact Mapping.readValue_of_fromDbAll_bad hread rfl

/-- Colours declared with an alias, stored by position: `GREEN` reads back as itself, and
position `2` is refused. -/
theorem enumColumn_round_trip_colors :
    let colors := EnumDef.define "Color" .plain [("RED", .int 1), ("GREEN", .int 2), ("CRIMSON", .int 1)]
    let shade : MappedField :=
      { name := "shade", column := "shade", valueType := .cls (.enum "Color"),
        declared := .cls (.enum "Color"),
        tags := [⟨"EnumColumn", .enumColumn (.member "EnumType" .text "ORDINAL" 1 (.str "ordinal"))⟩],
        isId := false, isGenerated := false, init := true }
    colors.Canonical ∧ enumOf [colors] shade = .ok colors ∧
      (enumToDb [colors] shade (.member "Color" .plain "GREEN" 1 (.int 2)) >>=
          enumFromDb [colors] shade) = .ok (.member "Color" .plain "GREEN" 1 (.int 2)) ∧
      enumFromDb [colors] shade (.int 2) = .error (invalidOrdinal colors shade (.int 2)) := by
  intro colors shade
  have hdef : colors = ⟨"Color", .plain, [("RED", .int 1), ("GREEN", .int 2)], [("CRIMSON", 0)]⟩ := by
    simp [colors, EnumDef.define, EnumDef.addEntries, List.findIdx?_cons, Value.pyEq,
      Value.number?, NumView.order, NumView.isNaN]
  have hd : colors.Canonical := EnumDef.define_canonical (by decide)
  have hf : enumOf [colors] shade = .ok colors := by rw [hdef]; rfl
  have hround := enumColumn_round_trip hd hf
  have hord : enumMode shade = "ORDINAL" := rfl
  refine ⟨hd, hf, hround.1 _ (EnumDef.mem_all.mpr ⟨1, by simp [hdef], by simp [hdef]⟩)
    (.inl (by rw [hord]; decide)), ((hround.2 hord).2 2 (.inr (by simp [hdef]))).1⟩

/-- A member stored by value whose value is the name of another member reads back as that other
member. -/
theorem enumColumn_value_named_after_other_member :
    let letters : EnumDef := ⟨"Letter", .plain, [("A", .str "B"), ("B", .str "x")], []⟩
    let code : MappedField :=
      { name := "code", column := "code", valueType := .cls (.enum "Letter"),
        declared := .cls (.enum "Letter"),
        tags := [⟨"EnumColumn", .enumColumn (.member "EnumType" .text "VALUE" 2 (.str "value"))⟩],
        isId := false, isGenerated := false, init := true }
    letters.Canonical ∧
      (enumToDb [letters] code (.member "Letter" .plain "A" 0 (.str "B")) >>=
          enumFromDb [letters] code) = .ok (.member "Letter" .plain "B" 1 (.str "x")) := by
  intro letters code
  exact ⟨⟨by decide, by simp [letters, Value.pyEq, Value.asText?]⟩, rfl⟩

end Convert

end DataMapper
