import DryTrade.Blocks

/-!
# Runs

One pass over an increasing list finds the maximal runs of the elements that satisfy a
predicate.  A run is the half-open interval from its first element to the next element that
does not satisfy the predicate, or to the end of the list.

## Main definitions

* `runsFrom p stop opened l` — the runs of `l`, where a run may be open already.
* `IsRuns p l stop runs` — what the runs of a list are.

## Main results

* `isRuns_runsFrom` — the pass finds the runs.
* `IsRuns.maximal` — a run cannot be extended.
* `IsRuns.flatMap_between` — the runs hold the elements that satisfy the predicate, in order.
-/

namespace DryTrade

section

variable {α : Type} [LinearOrder α] {p : α → Bool} {stop : α} {l : List α} {runs : List (α × α)}

/-- The runs of `l`; `opened` is where the run before `l` starts, when one is open. -/
def runsFrom (p : α → Bool) (stop : α) : Option α → List α → List (α × α)
  | none, [] => []
  | some a, [] => [(a, stop)]
  | none, x :: l => if p x then runsFrom p stop (some x) l else runsFrom p stop none l
  | some a, x :: l => if p x then runsFrom p stop (some a) l else (a, x) :: runsFrom p stop none l

/-- `runs` are the maximal runs of `p` in `l`, which ends before `stop`. -/
structure IsRuns (p : α → Bool) (l : List α) (stop : α) (runs : List (α × α)) : Prop where
  lt : ∀ r ∈ runs, r.1 < r.2
  start_mem : ∀ r ∈ runs, r.1 ∈ l
  stop_mem : ∀ r ∈ runs, r.2 = stop ∨ r.2 ∈ l ∧ p r.2 = false
  ordered : runs.Pairwise fun r s => r.2 < s.1
  covers : ∀ x ∈ l, p x = true ↔ ∃ r ∈ runs, r.1 ≤ x ∧ x < r.2
  left : ∀ r ∈ runs, ∀ x ∈ l, x < r.1 → ∃ y ∈ l, x ≤ y ∧ y < r.1 ∧ p y = false

namespace IsRuns

theorem nil : IsRuns p [] stop [] := by
  constructor <;> simp

/-- A run that the list ends in. -/
theorem single {a : α} (ha : p a = true) (hstop : a < stop) : IsRuns p [a] stop [(a, stop)] := by
  constructor <;> simp [ha, hstop]

/-- An element outside every run. -/
theorem skip {x : α} (h : IsRuns p l stop runs) (hx : p x = false) (hl : ∀ y ∈ l, x < y)
    (hstop : x < stop) : IsRuns p (x :: l) stop runs where
  lt := h.lt
  start_mem r hr := List.mem_cons_of_mem x (h.start_mem r hr)
  stop_mem r hr := (h.stop_mem r hr).imp_right fun hr => ⟨List.mem_cons_of_mem x hr.1, hr.2⟩
  ordered := h.ordered
  covers y hy := by
    rcases List.mem_cons.mp hy with rfl | hy
    · rw [hx]
      refine ⟨fun hfalse => Bool.noConfusion hfalse, fun ⟨r, hr, hle, _⟩ => ?_⟩
      exact absurd hle (not_le.mpr (hl r.1 (h.start_mem r hr)))
    · exact h.covers y hy
  left r hr y hy hlt := by
    rcases List.mem_cons.mp hy with rfl | hy
    · exact ⟨y, List.mem_cons_self, le_rfl, hlt, hx⟩
    · obtain ⟨z, hz, hyz⟩ := h.left r hr y hy hlt
      exact ⟨z, List.mem_cons_of_mem x hz, hyz⟩

/-- The first element satisfies the predicate, so a run starts there. -/
theorem exists_first {a : α} (h : IsRuns p (a :: l) stop runs) (ha : p a = true)
    (hl : ∀ y ∈ l, a < y) : ∃ r ∈ runs, r.1 = a ∧ (r.2 = stop ∨ r.2 ∈ l) := by
  obtain ⟨r, hr, hle, hlt⟩ := (h.covers a List.mem_cons_self).mp ha
  refine ⟨r, hr, ?_, ?_⟩
  · rcases List.mem_cons.mp (h.start_mem r hr) with heq | hmem
    · exact heq
    · exact absurd hle (not_le.mpr (hl r.1 hmem))
  · refine (h.stop_mem r hr).imp_right fun hmem => ?_
    rcases List.mem_cons.mp hmem.1 with heq | hmem
    · exact absurd heq hlt.ne'
    · exact hmem

/-- The open run goes on over an element that satisfies the predicate. -/
theorem extend {a x : α} (h : IsRuns p (a :: l) stop runs) (ha : p a = true) (hx : p x = true)
    (hax : a < x) (hl : ∀ y ∈ l, x < y) (hstop : x < stop) :
    IsRuns p (a :: x :: l) stop runs := by
  have hmem : ∀ {y}, y ∈ a :: l → y ∈ a :: x :: l := fun {y} hy =>
    (List.mem_cons.mp hy).elim (fun heq => heq ▸ List.mem_cons_self)
      fun hy => List.mem_cons_of_mem a (List.mem_cons_of_mem x hy)
  obtain ⟨r, hr, hra, hstopr⟩ := h.exists_first ha fun y hy => hax.trans (hl y hy)
  have hxr : x < r.2 := hstopr.elim (fun heq => heq ▸ hstop) fun hmem => hl r.2 hmem
  constructor
  · exact h.lt
  · exact fun r hr => hmem (h.start_mem r hr)
  · exact fun r hr => (h.stop_mem r hr).imp_right fun hr => ⟨hmem hr.1, hr.2⟩
  · exact h.ordered
  · intro y hy
    rcases List.mem_cons.mp hy with rfl | hy
    · exact h.covers y List.mem_cons_self
    · rcases List.mem_cons.mp hy with rfl | hy
      · exact ⟨fun _ => ⟨r, hr, hra.trans_le hax.le, hxr⟩, fun _ => hx⟩
      · exact h.covers y (List.mem_cons_of_mem a hy)
  · intro s hs y hy hlt
    rcases List.mem_cons.mp hy with rfl | hy
    · obtain ⟨z, hz, hyz⟩ := h.left s hs y List.mem_cons_self hlt
      exact ⟨z, hmem hz, hyz⟩
    · rcases List.mem_cons.mp hy with rfl | hy
      · -- what separates `s` from `a` lies after `y`, as `a` satisfies the predicate
        obtain ⟨z, hz, -, hzs, hpz⟩ := h.left s hs a List.mem_cons_self (hax.trans hlt)
        rcases List.mem_cons.mp hz with rfl | hz'
        · exact absurd (ha.symm.trans hpz) Bool.noConfusion
        · exact ⟨z, hmem hz, (hl z hz').le, hzs, hpz⟩
      · obtain ⟨z, hz, hyz⟩ := h.left s hs y (List.mem_cons_of_mem a hy) hlt
        exact ⟨z, hmem hz, hyz⟩

/-- The open run ends at an element that does not satisfy the predicate. -/
theorem close {a x : α} (h : IsRuns p l stop runs) (ha : p a = true) (hx : p x = false)
    (hax : a < x) (hl : ∀ y ∈ l, x < y) (hstop : x < stop) :
    IsRuns p (a :: x :: l) stop ((a, x) :: runs) := by
  have hmem : ∀ {y}, y ∈ l → y ∈ a :: x :: l := fun {y} hy =>
    List.mem_cons_of_mem a (List.mem_cons_of_mem x hy)
  have hxmem : x ∈ a :: x :: l := List.mem_cons_of_mem a List.mem_cons_self
  constructor
  · rintro r (_ | ⟨_, hr⟩)
    · exact hax
    · exact h.lt r hr
  · rintro r (_ | ⟨_, hr⟩)
    · exact List.mem_cons_self
    · exact hmem (h.start_mem r hr)
  · rintro r (_ | ⟨_, hr⟩)
    · exact .inr ⟨hxmem, hx⟩
    · exact (h.stop_mem r hr).imp_right fun hr => ⟨hmem hr.1, hr.2⟩
  · exact List.pairwise_cons.mpr ⟨fun r hr => hl r.1 (h.start_mem r hr), h.ordered⟩
  · intro y hy
    rcases List.mem_cons.mp hy with rfl | hy
    · exact ⟨fun _ => ⟨(y, x), List.mem_cons_self, le_rfl, hax⟩, fun _ => ha⟩
    · rcases List.mem_cons.mp hy with rfl | hy
      · rw [hx]
        refine ⟨fun hfalse => Bool.noConfusion hfalse, ?_⟩
        rintro ⟨r, _ | ⟨_, hr⟩, hle, hlt⟩
        · exact absurd hlt (lt_irrefl y)
        · exact absurd hle (not_le.mpr (hl r.1 (h.start_mem r hr)))
      · rw [h.covers y hy]
        constructor
        · rintro ⟨r, hr, hry⟩
          exact ⟨r, List.mem_cons_of_mem _ hr, hry⟩
        · rintro ⟨r, _ | ⟨_, hr⟩, hry⟩
          · exact absurd hry.2 (hl y hy).le.not_gt
          · exact ⟨r, hr, hry⟩
  · rintro r (_ | ⟨_, hr⟩) y hy hlt
    · rcases List.mem_cons.mp hy with rfl | hy
      · exact absurd hlt (lt_irrefl y)
      · rcases List.mem_cons.mp hy with rfl | hy
        · exact absurd hlt hax.le.not_gt
        · exact absurd hlt (hax.trans (hl y hy)).le.not_gt
    · have hxr := hl r.1 (h.start_mem r hr)
      rcases List.mem_cons.mp hy with rfl | hy
      · exact ⟨x, hxmem, hax.le, hxr, hx⟩
      · rcases List.mem_cons.mp hy with rfl | hy
        · exact ⟨y, hxmem, le_rfl, hxr, hx⟩
        · obtain ⟨z, hz, hyz⟩ := h.left r hr y hy hlt
          exact ⟨z, hmem hz, hyz⟩

/-- **A run cannot be extended**: an interval around it that holds no other element is the
run itself. -/
theorem maximal (h : IsRuns p l stop runs) {r : α × α} (hr : r ∈ runs) {a b : α} (ha : a ∈ l)
    (har : a ≤ r.1) (hrb : r.2 ≤ b) (hb : b ≤ stop)
    (hall : ∀ x ∈ l, a ≤ x → x < b → p x = true) : a = r.1 ∧ b = r.2 := by
  constructor
  · by_contra hne
    obtain ⟨y, hy, hay, hyr, hpy⟩ := h.left r hr a ha (lt_of_le_of_ne har hne)
    have hyb : y < b := (hyr.trans (h.lt r hr)).trans_le hrb
    exact absurd ((hall y hy hay hyb).symm.trans hpy) Bool.noConfusion
  · by_contra hne
    have hlt : r.2 < b := lt_of_le_of_ne hrb (Ne.symm hne)
    rcases h.stop_mem r hr with heq | ⟨hmem, hpr⟩
    · exact absurd (hlt.trans_le hb) (heq ▸ lt_irrefl stop)
    · have har' : a ≤ r.2 := har.trans (h.lt r hr).le
      exact absurd ((hall r.2 hmem har' hlt).symm.trans hpr) Bool.noConfusion

/-- A run ends where the list ends at the latest. -/
theorem stop_le (h : IsRuns p l stop runs) (hl : ∀ y ∈ l, y < stop) {r : α × α} (hr : r ∈ runs) :
    r.2 ≤ stop :=
  (h.stop_mem r hr).elim le_of_eq fun hmem => (hl r.2 hmem.1).le

end IsRuns

/-- **One pass finds the runs.** -/
theorem isRuns_runsFrom (opened : Option α) (hopened : ∀ a ∈ opened, p a = true)
    (hl : (opened.toList ++ l).Pairwise (· < ·)) (hstop : ∀ y ∈ opened.toList ++ l, y < stop) :
    IsRuns p (opened.toList ++ l) stop (runsFrom p stop opened l) := by
  induction l generalizing opened with
  | nil =>
    cases opened with
    | none => exact .nil
    | some a => exact .single (hopened a rfl) (hstop a (by simp))
  | cons x l ih =>
    cases opened with
    | none =>
      have hx := List.pairwise_cons.mp hl
      unfold runsFrom
      by_cases hpx : p x = true
      · rw [if_pos hpx]
        exact ih (some x) (fun a ha => by cases ha; exact hpx) hl hstop
      · rw [if_neg hpx]
        exact (ih none hopened hx.2 fun y hy => hstop y (List.mem_cons_of_mem x hy)).skip
          (Bool.not_eq_true _ ▸ hpx) hx.1 (hstop x List.mem_cons_self)
    | some a =>
      have ha : p a = true := hopened a rfl
      have hal := List.pairwise_cons.mp hl
      have hx := List.pairwise_cons.mp hal.2
      have hax : a < x := hal.1 x List.mem_cons_self
      have hxstop : x < stop := hstop x (by simp)
      unfold runsFrom
      by_cases hpx : p x = true
      · rw [if_pos hpx]
        have htail := ih (some a) hopened
          (List.pairwise_cons.mpr ⟨fun y hy => hax.trans (hx.1 y hy), hx.2⟩)
          fun y hy => hstop y (by
            rcases List.mem_cons.mp hy with rfl | hy
            · exact List.mem_cons_self
            · exact List.mem_cons_of_mem a (List.mem_cons_of_mem x hy))
        exact htail.extend ha hpx hax hx.1 hxstop
      · rw [if_neg hpx]
        have htail := ih none (fun a ha => by cases ha) hx.2
          fun y hy => hstop y (List.mem_cons_of_mem a (List.mem_cons_of_mem x hy))
        exact htail.close ha (Bool.not_eq_true _ ▸ hpx) hax hx.1 hxstop

end

/-- Two increasing lists with the same elements are the same. -/
theorem eq_of_increasing {α : Type} [LinearOrder α] {l l' : List α} (h : l.Pairwise (· < ·))
    (h' : l'.Pairwise (· < ·)) (hmem : ∀ x, x ∈ l ↔ x ∈ l') : l = l' :=
  List.Perm.eq_of_pairwise (fun _ _ _ _ hab hba => absurd hab (lt_asymm hba)) h h'
    ((List.perm_ext_iff_of_nodup (h.imp fun h => h.ne) (h'.imp fun h => h.ne)).mpr hmem)

/-- **The runs hold the elements that satisfy the predicate**, in order. -/
theorem IsRuns.flatMap_between {p : ℤ → Bool} {l : List ℤ} {stop : ℤ} {runs : List (ℤ × ℤ)}
    (h : IsRuns p l stop runs) (hl : l.Pairwise (· < ·)) :
    (runs.flatMap fun r => between id l r.1 r.2) = l.filter p := by
  refine eq_of_increasing ?_ (hl.sublist List.filter_sublist) fun x => ?_
  · rw [List.pairwise_flatMap]
    refine ⟨fun r _ => hl.sublist List.filter_sublist, h.ordered.imp fun {r s} hrs x hx y hy => ?_⟩
    exact ((mem_between.mp hx).2.2.trans hrs).trans_le (mem_between.mp hy).2.1
  · simp only [List.mem_flatMap, mem_between, List.mem_filter, id_eq]
    constructor
    · rintro ⟨r, hr, hx, hrx⟩
      exact ⟨hx, (h.covers x hx).mpr ⟨r, hr, hrx⟩⟩
    · rintro ⟨hx, hpx⟩
      obtain ⟨r, hr, hrx⟩ := (h.covers x hx).mp hpx
      exact ⟨r, hr, hx, hrx⟩

/-- What is left of a list when some of its elements are taken away. -/
theorem length_filter_not_mem {α : Type} [DecidableEq α] {l l' : List α} (hl : l.Nodup)
    (hl' : l'.Nodup) (hsub : ∀ x ∈ l', x ∈ l) :
    (l.filter fun x => decide (x ∉ l')).length + l'.length = l.length := by
  have hperm : (l.filter fun x => decide (x ∈ l')).Perm l' := by
    refine (List.perm_ext_iff_of_nodup (hl.filter _) hl').mpr fun x => ?_
    simp only [List.mem_filter, decide_eq_true_eq]
    exact ⟨fun h => h.2, fun h => ⟨hsub x h, h⟩⟩
  have hsplit := List.length_eq_length_filter_add (l := l) fun x => decide (x ∈ l')
  rw [hsplit, hperm.length_eq, add_comm]
  simp only [decide_not]

end DryTrade
