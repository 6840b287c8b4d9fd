import DataMapper.Proofs.NearestDouble
import DataMapper.Page
import DataMapper.Proofs.Except
import DataMapper.Store.Eval

namespace DataMapper

namespace Value

@[simp] theorem relate_int_lt (a b : Int) : relate .lt (.int a) (.int b) = .ok (decide (a < b)) := by
  simp only [relate, number?, isDecimal, NumView.isNaN, NumView.order, Rel.holds]
  by_cases h : a < b
  · simp [h]
  · by_cases h' : a = b <;> simp [h, h']

@[simp] theorem relate_int_gt (a b : Int) : relate .gt (.int a) (.int b) = .ok (decide (b < a)) := by
  simp only [relate, number?, isDecimal, NumView.isNaN, NumView.order, Rel.holds]
  by_cases h : a < b
  · simp [h, Int.lt_asymm h]
  · by_cases h' : a = b
    · simp [h']
    · simp [h, h']
      omega

@[simp] theorem pyEq_int (a b : Int) : pyEq (.int a) (.int b) = decide (a = b) := by
  simp only [pyEq, number?, NumView.isNaN, NumView.order]
  by_cases h : a < b
  · simp [h, Int.ne_of_lt h]
  · by_cases h' : a = b <;> simp [h, h']

end Value

namespace Page

variable {α : Type}

/-- Integer numbers and sizes make a page exactly when neither is below one; the number is
checked first. -/
theorem make?_int (content : List α) (page size : Int) (total : Value) :
    make? content (.int page) (.int size) total =
      if page < 1 then .error (.value "page must be >= 1.")
      else if size < 1 then .error (.value "size must be >= 1.")
      else .ok ⟨content, .int page, .int size, total⟩ := by
  by_cases hp : page < 1 <;> by_cases hs : size < 1 <;> simp [make?, hp, hs]

theorem offset_int (content : List α) (page size : Int) (total : Value) :
    (⟨content, .int page, .int size, total⟩ : Page α).offset = .ok (.int ((page - 1) * size)) := by
  rfl

/-- A row count below `2^53` over a size below `2^1075` gives `⌈total / size⌉` pages: the
quotient's nearest double keeps its ceiling (`Binary64.ceil_ofRatio`). -/
theorem totalPages_int (content : List α) (number : Value) {size total : Int} (hsize : 1 ≤ size)
    (hsize' : size < 2 ^ 1075) (htotal : 0 ≤ total) (htotal' : total < 2 ^ 53) :
    (⟨content, number, .int size, .int total⟩ : Page α).totalPages =
      .ok ((total + size - 1) / size) := by
  obtain ⟨hinf, hceil⟩ :=
    Binary64.ceil_ofRatio (T := total.natAbs) (S := size.natAbs) (by omega) (by omega) (by omega)
  have hsign : (decide (total < 0) != decide (size < 0)) = false := by simp; omega
  have hnz : size ≠ 0 := by omega
  simp [totalPages, Value.arith, Value.num?, Num.apply, hsign, hinf, hnz, Num.toValue,
    Value.ceil, hceil]
  rw [abs_of_nonneg htotal, abs_of_nonneg (by omega : 0 ≤ size)]

theorem hasNext_of_totalPages {p : Page α} {page n : Int} (hnum : p.number = .int page)
    (hpages : p.totalPages = .ok n) : p.hasNext = .ok (decide (page < n)) := by
  simp [hasNext, hpages, hnum]

theorem isLast_of_totalPages {p : Page α} {page n : Int} (hnum : p.number = .int page)
    (hpages : p.totalPages = .ok n) : p.isLast = .ok (decide (n ≤ page)) := by
  simp only [isLast, hpages, hnum, except_ok_bind, Value.relate_int_gt, Value.pyEq_int]
  by_cases h : n < page
  · simp [h, Int.le_of_lt h]
  · by_cases h' : page = n
    · simp [h']
    · simp [h, h']
      omega

/-- A number is below the ceiling of `total / size` exactly when its pages end before
`total`. -/
theorem lt_ceil_div_iff {page size total : Int} (hsize : 0 < size) :
    page < (total + size - 1) / size ↔ page * size < total := by
  rw [← Int.add_one_le_iff, Int.le_ediv_iff_mul_le hsize, Int.add_mul, Int.one_mul]
  omega

/-- The store's cut at limit `size` and offset `o`, neither negative, holds the rows `o`, …,
`o + size - 1`, those that exist. -/
theorem cutWindow_getElem? {β : Type} {size o : Int} (hsize : 0 ≤ size) (ho : 0 ≤ o)
    (rows : List β) (i : Nat) :
    (Store.cutWindow (some size) (some o) rows)[i]? =
      if i < size.toNat then rows[o.toNat + i]? else none := by
  have hmax : max 0 o = o := max_eq_right ho
  simp only [Store.cutWindow, Option.getD_some, hmax, if_neg (Int.not_lt.mpr hsize),
    List.getElem?_take, List.getElem?_drop]

/-- For a row count below `2^53` and a size below `2^1075`, a page is made, its count is
`⌈total / size⌉`, its offset is `(page - 1) · size`, and the flags tell whether rows lie past
it. Over any rows of that count, the store's cut at that limit and offset is the rows
`offset`, …, `offset + size - 1`, and there is a next page exactly when rows lie beyond it. -/
theorem page_arithmetic_exact (content : List α) (page size total : Int) (hpage : 1 ≤ page)
    (hsize : 1 ≤ size) (hsize' : size < 2 ^ 1075) (htotal : 0 ≤ total)
    (htotal' : total < 2 ^ 53) :
    ∃ p, make? content (.int page) (.int size) (.int total) = .ok p ∧
      p.totalPages = .ok ((total + size - 1) / size) ∧
      p.offset = .ok (.int ((page - 1) * size)) ∧
      p.hasNext = .ok (decide (page * size < total)) ∧
      p.isLast = .ok (decide (total ≤ page * size)) ∧
      ∀ {β : Type} (rows : List β), rows.length = total.toNat →
        (∀ i, (Store.cutWindow (some size) (some ((page - 1) * size)) rows)[i]? =
          if i < size.toNat then rows[((page - 1) * size).toNat + i]? else none) ∧
        (p.hasNext = .ok true ↔ ((page - 1) * size).toNat + size.toNat < rows.length) ∧
        (p.isLast = .ok true ↔ rows.length ≤ ((page - 1) * size).toNat + size.toNat) := by
  have hpages := totalPages_int content (.int page) hsize hsize' htotal htotal'
  have hnext := hasNext_of_totalPages rfl hpages
  have hlast := isLast_of_totalPages rfl hpages
  have hnext' : decide (page < (total + size - 1) / size) = decide (page * size < total) :=
    decide_eq_decide.mpr (lt_ceil_div_iff (by omega))
  have hlast' : decide ((total + size - 1) / size ≤ page) = decide (total ≤ page * size) := by
    rw [decide_eq_decide, ← Int.not_lt, lt_ceil_div_iff (by omega), Int.not_lt]
  rw [hnext'] at hnext
  rw [hlast'] at hlast
  refine ⟨_, by rw [make?_int, if_neg (by omega), if_neg (by omega)], hpages,
    offset_int content page size _, hnext, hlast, ?_⟩
  intro β rows hrows
  have hoff : 0 ≤ (page - 1) * size := Int.mul_nonneg (by omega) (by omega)
  have hprod : 0 ≤ page * size := Int.mul_nonneg (by omega) (by omega)
  have hend : ((page - 1) * size).toNat + size.toNat = (page * size).toNat := by
    have hstep : (page - 1) * size + size = page * size := by rw [Int.sub_mul, Int.one_mul]; omega
    omega
  refine ⟨cutWindow_getElem? (by omega) hoff rows, ?_, ?_⟩
  · rw [hnext, hend, hrows]
    simp only [Except.ok.injEq, decide_eq_true_eq]
    omega
  · rw [hlast, hend, hrows]
    simp only [Except.ok.injEq, decide_eq_true_eq]
    omega

/-- The third page of twenty-five rows, ten to a page, is the last of three. -/
theorem third_of_twenty_five_is_last :
    ∃ p, make? ([] : List Value) (.int 3) (.int 10) (.int 25) = .ok p ∧
      p.totalPages = .ok 3 ∧ p.hasNext = .ok false ∧ p.isLast = .ok true := by
  obtain ⟨p, hp, hpages, -, hnext, hlast, -⟩ :=
    page_arithmetic_exact ([] : List Value) 3 10 25 (by decide) (by decide) (by omega)
      (by decide) (by omega)
  exact ⟨p, hp, hpages, hnext, hlast⟩

/-- Past `2^53` the count is rounded: `10^20 + 1` rows, one to a page, make `10^20` pages
rather than `10^20 + 1`, and page `10^20` is reported as the last although a row lies
past it. -/
theorem page_count_rounds_total :
    (⟨[], .int (10 ^ 20), .int 1, .int (10 ^ 20 + 1)⟩ : Page Value).totalPages = .ok (10 ^ 20) ∧
      (⟨[], .int (10 ^ 20), .int 1, .int (10 ^ 20 + 1)⟩ : Page Value).hasNext = .ok false ∧
      (⟨[], .int (10 ^ 20), .int 1, .int (10 ^ 20 + 1)⟩ : Page Value).isLast = .ok true := by
  have hpages : (⟨[], .int (10 ^ 20), .int 1, .int (10 ^ 20 + 1)⟩ : Page Value).totalPages =
      .ok (10 ^ 20) := by
    rfl
  refine ⟨hpages, ?_, ?_⟩
  · rw [hasNext_of_totalPages rfl hpages]
    simp
  · rw [isLast_of_totalPages rfl hpages]
    simp

end Page

end DataMapper
