import Mathlib.Data.List.ReduceOption
import Mathlib.Tactic

/-!
# List functions that never look ahead

A function of a whole series is causal when one more element of its input adds one more value to
its output, and changes none of those before.  Causal functions keep lengths and prefixes.

## Main definitions

* `Causal` — one more element adds one more value.
* `scan` — the outputs of a state that is carried along a list.
* `seeded` — a scan that starts from the first `n` elements.
* `windowed` — the values of the windows of `n` consecutive elements.
* `Delayed` — a list function whose first `w` elements give no value.
* `MissingBefore` — values that are missing before an index and nowhere else.

## Main results

* `Causal.take` — a prefix of the input gives a prefix of the output.
* `causal_seeded`, `causal_windowed` — scans and windows are causal.
* `causal_delayed` — a causal function of delayed values is causal again, aligned to the input.
* `missingBefore_seeded`, `missingBefore_windowed` — where the values are missing.
-/

namespace DryTrade

section

variable {α β γ σ : Type*}

/-- One more element adds one more value. -/
structure Causal (F : List α → List β) : Prop where
  nil : F [] = []
  concat : ∀ l a, ∃ b, F (l ++ [a]) = F l ++ [b]

namespace Causal

variable {F : List α → List β} {G : List β → List γ}

theorem length (hF : Causal F) (l : List α) : (F l).length = l.length := by
  induction l using List.reverseRecOn with
  | nil => rw [hF.nil]; rfl
  | append_singleton l a ih =>
    obtain ⟨b, hb⟩ := hF.concat l a
    rw [hb, List.length_append, List.length_append, ih]
    rfl

/-- **A prefix of the input gives a prefix of the output.** -/
theorem take (hF : Causal F) (l : List α) (k : ℕ) : F (l.take k) = (F l).take k := by
  induction l using List.reverseRecOn with
  | nil => rw [List.take_nil, hF.nil, List.take_nil]
  | append_singleton l a ih =>
    rcases le_or_gt k l.length with hk | hk
    · obtain ⟨b, hb⟩ := hF.concat l a
      rw [List.take_append_of_le_length hk, ih, hb,
        List.take_append_of_le_length (by rwa [hF.length])]
    · rw [List.take_of_length_le (by simp; omega),
        List.take_of_length_le (by rw [hF.length]; simp; omega)]

theorem map (f : α → β) : Causal (List.map f) where
  nil := rfl
  concat l a := ⟨f a, by rw [List.map_append, List.map_singleton]⟩

theorem comp (hG : Causal G) (hF : Causal F) : Causal (G ∘ F) where
  nil := by rw [Function.comp_apply, hF.nil, hG.nil]
  concat l a := by
    obtain ⟨b, hb⟩ := hF.concat l a
    obtain ⟨c, hc⟩ := hG.concat (F l) b
    exact ⟨c, by rw [Function.comp_apply, hb, hc, Function.comp_apply]⟩

/-- Two outputs of one input, value by value. -/
theorem zipWith {F' : List α → List γ} {δ : Type*} (f : β → γ → δ) (hF : Causal F)
    (hF' : Causal F') : Causal fun l => List.zipWith f (F l) (F' l) where
  nil := by rw [hF.nil, List.zipWith_nil_left]
  concat l a := by
    obtain ⟨b, hb⟩ := hF.concat l a
    obtain ⟨c, hc⟩ := hF'.concat l a
    exact ⟨f b c, by rw [hb, hc, List.zipWith_append (by rw [hF.length, hF'.length])]; rfl⟩

end Causal

/-! ### Scans -/

/-- The outputs of a state that is carried along a list. -/
def scan (next : σ → α → σ) (out : σ → β) : σ → List α → List β
  | _, [] => []
  | s, a :: l => out (next s a) :: scan next out (next s a) l

/-- A scan of the elements after the first `n`, from a state that these start; it has no value
before. -/
def seeded (n : ℕ) (start : List α → σ) (next : σ → α → σ) (out : σ → β) (l : List α) :
    List (Option β) :=
  List.replicate (min (n - 1) l.length) none ++
    if n ≤ l.length then
      some (out (start (l.take n))) :: (scan next out (start (l.take n)) (l.drop n)).map some
    else []

section

variable {next : σ → α → σ} {out : σ → β} {start : List α → σ} {n : ℕ}

theorem scan_concat (s : σ) (l : List α) (a : α) :
    scan next out s (l ++ [a]) = scan next out s l ++ [out (next (l.foldl next s) a)] := by
  induction l generalizing s with
  | nil => rfl
  | cons b l ih => simp [scan, ih]

theorem length_scan (s : σ) (l : List α) : (scan next out s l).length = l.length := by
  induction l generalizing s with
  | nil => rfl
  | cons a l ih => simp [scan, ih]

/-- What holds of the states of a scan holds of its outputs. -/
theorem forall_mem_scan {P : σ → Prop} {Q : β → Prop} {l : List α}
    (hnext : ∀ s, ∀ a ∈ l, P s → P (next s a)) (hout : ∀ s, P s → Q (out s)) {s : σ} (hs : P s) :
    ∀ b ∈ scan next out s l, Q b := by
  induction l generalizing s with
  | nil => simp [scan]
  | cons a l ih =>
    intro b hb
    have hstep := hnext s a List.mem_cons_self hs
    rcases List.mem_cons.mp hb with rfl | hb
    · exact hout _ hstep
    · exact ih (fun s a ha => hnext s a (List.mem_cons_of_mem _ ha)) hstep b hb

/-- **A seeded scan never looks ahead.** -/
theorem causal_seeded (hn : 1 ≤ n) : Causal (seeded n start next out) where
  nil := by
    unfold seeded
    rw [if_neg (by rw [List.length_nil]; omega)]
    simp
  concat l a := by
    unfold seeded
    rcases Nat.lt_trichotomy (l.length + 1) n with hlt | heq | hgt
    · refine ⟨none, ?_⟩
      rw [if_neg (by simpa using hlt), if_neg (by omega), List.append_nil, List.append_nil,
        min_eq_right (by simp; omega), min_eq_right (by omega), List.length_append,
        List.length_singleton, List.replicate_succ']
    · refine ⟨some (out (start (l ++ [a]))), ?_⟩
      rw [if_pos (by simp [heq]), if_neg (by omega), List.append_nil, List.length_append,
        List.length_singleton, min_eq_left (by omega), min_eq_right (by omega),
        List.take_of_length_le (by simp [heq]), List.drop_eq_nil_of_le (by simp [heq]),
        ← heq, Nat.add_sub_cancel]
      rfl
    · refine ⟨some (out (next ((l.drop n).foldl next (start (l.take n))) a)), ?_⟩
      rw [if_pos (by simp; omega), if_pos (by omega), List.take_append_of_le_length (by omega),
        List.drop_append_of_le_length (by omega), scan_concat, List.length_append,
        List.length_singleton, min_eq_left (by omega), min_eq_left (by omega)]
      simp

/-- Every value of a seeded scan is the output of a state, or is missing. -/
theorem forall_mem_seeded {P : σ → Prop} {Q : β → Prop} {l : List α}
    (hstart : n ≤ l.length → P (start (l.take n))) (hnext : ∀ s, ∀ a ∈ l, P s → P (next s a))
    (hout : ∀ s, P s → Q (out s)) :
    ∀ v ∈ seeded n start next out l, ∀ b ∈ v, Q b := by
  intro v hv b hb
  rcases List.mem_append.mp hv with hv | hv
  · rw [List.eq_of_mem_replicate hv] at hb
    cases hb
  · split at hv
    · next hle =>
      rcases List.mem_cons.mp hv with rfl | hv
      · cases hb
        exact hout _ (hstart hle)
      · obtain ⟨c, hc, rfl⟩ := List.mem_map.mp hv
        exact Option.mem_some_iff.mp hb ▸ forall_mem_scan
          (fun s a ha => hnext s a (List.mem_of_mem_drop ha)) hout (hstart hle) c hc
    · cases hv

end

/-! ### Windows -/

/-- The value of each window of `n` elements, at its last element. -/
def windowed (n : ℕ) (f : List α → β) (l : List α) : List (Option β) :=
  List.replicate (min (n - 1) l.length) none ++
    (List.range' (n - 1) (l.length - (n - 1))).map fun last =>
      some (f ((l.drop (last + 1 - n)).take n))

section

variable {n : ℕ} {f : List α → β}

/-- **A window never looks ahead.** -/
theorem causal_windowed (hn : 1 ≤ n) : Causal (windowed n f) where
  nil := by simp [windowed]
  concat l a := by
    unfold windowed
    rcases Nat.lt_or_ge (l.length + 1) n with hlt | hge
    · refine ⟨none, ?_⟩
      have hshort : (l ++ [a]).length - (n - 1) = 0 := by
        rw [List.length_append, List.length_singleton]
        omega
      rw [hshort, Nat.sub_eq_zero_of_le (show l.length ≤ n - 1 by omega),
        min_eq_right (by simp; omega), min_eq_right (by omega), List.length_append,
        List.length_singleton, List.replicate_succ']
      simp
    · refine ⟨some (f (((l ++ [a]).drop (l.length + 1 - n)).take n)), ?_⟩
      have hrange : List.range' (n - 1) ((l ++ [a]).length - (n - 1)) =
          List.range' (n - 1) (l.length - (n - 1)) ++ [l.length] := by
        rw [List.length_append, List.length_singleton,
          show l.length + 1 - (n - 1) = l.length - (n - 1) + 1 by omega, List.range'_concat]
        congr 2
        omega
      rw [hrange, List.map_append, List.map_singleton, ← List.append_assoc, List.length_append,
        List.length_singleton, min_eq_left (by omega), min_eq_left (by omega)]
      congr 2
      refine List.map_congr_left fun last hlast => ?_
      rw [List.mem_range'_1] at hlast
      rw [List.drop_append_of_le_length (by omega), List.take_append_of_le_length
        (by rw [List.length_drop]; omega)]

theorem windowed_comp (g : β → γ) (l : List α) :
    windowed n (fun window => g (f window)) l = (windowed n f l).map (Option.map g) := by
  unfold windowed
  rw [List.map_append, List.map_replicate, List.map_map]
  rfl

theorem forall_mem_windowed {Q : β → Prop} {l : List α} (hQ : ∀ window, Q (f window)) :
    ∀ v ∈ windowed n f l, ∀ b ∈ v, Q b := by
  intro v hv b hb
  rcases List.mem_append.mp hv with hv | hv
  · rw [List.eq_of_mem_replicate hv] at hb
    cases hb
  · obtain ⟨last, -, rfl⟩ := List.mem_map.mp hv
    cases hb
    exact hQ _

end

/-! ### Missing values -/

/-- Values that are missing before `w` and nowhere else. -/
def MissingBefore (w : ℕ) (values : List (Option β)) : Prop :=
  ∀ i v, values[i]? = some v → (v = none ↔ i < w)

theorem missingBefore_append {w k : ℕ} (values : List β) (hk : values ≠ [] → k = w)
    (hle : k ≤ w) :
    MissingBefore w (List.replicate k none ++ values.map some : List (Option β)) := by
  intro i v hv
  rw [List.getElem?_append, List.length_replicate] at hv
  split at hv
  · next hi =>
    rw [List.getElem?_replicate, if_pos hi] at hv
    cases hv
    exact iff_of_true rfl (by omega)
  · next hi =>
    rw [List.getElem?_map] at hv
    obtain ⟨b, hb, rfl⟩ := Option.map_eq_some_iff.mp hv
    have hne : values ≠ [] := by
      rintro rfl
      cases hb
    rw [hk hne] at hi
    exact iff_of_false (by simp) hi

theorem missingBefore_map_some (values : List β) : MissingBefore 0 (values.map some) := by
  have h := missingBefore_append (k := 0) values (fun _ => rfl) le_rfl
  rwa [List.replicate_zero, List.nil_append] at h

theorem MissingBefore.tail {w : ℕ} {v : Option β} {values : List (Option β)}
    (h : MissingBefore w (v :: values)) : MissingBefore (w - 1) values := by
  intro i x hx
  rw [h (i + 1) x hx]
  omega

/-- A column together with the values that are not missing. -/
theorem MissingBefore.filterMap_zip {w : ℕ} {values : List (Option β)} (h : MissingBefore w values)
    (f : α → β → γ) {l : List α} (hlength : l.length = values.length) :
    (l.zip values).filterMap (fun p => p.2.map (f p.1)) =
      List.zipWith f (l.drop w) values.reduceOption := by
  induction values generalizing l w with
  | nil =>
    rw [List.length_eq_zero_iff.mp hlength]
    simp
  | cons v values ih =>
    rcases l with _ | ⟨a, l⟩
    · cases hlength
    have hrest := ih h.tail (Nat.succ.inj hlength)
    have hfirst := h 0 v rfl
    cases v with
    | none =>
      obtain ⟨w, rfl⟩ := Nat.exists_eq_succ_of_ne_zero (hfirst.mp rfl).ne'
      exact hrest
    | some b =>
      obtain rfl : w = 0 := by
        have hzero := mt hfirst.mpr (by simp)
        omega
      exact congrArg (f a b :: ·) hrest

theorem missingBefore_seeded {n : ℕ} {start : List α → σ} {next : σ → α → σ} {out : σ → β}
    (hn : 1 ≤ n) (l : List α) : MissingBefore (n - 1) (seeded n start next out l) := by
  unfold seeded
  split
  · next hle =>
    rw [← List.map_cons (f := some)]
    exact missingBefore_append _ (fun _ => by omega) (by omega)
  · exact missingBefore_append [] (fun h => absurd rfl h) (by omega)

theorem missingBefore_windowed {n : ℕ} {f : List α → β} (l : List α) :
    MissingBefore (n - 1) (windowed n f l) := by
  unfold windowed
  have hmap := List.map_map (f := fun last => f ((l.drop (last + 1 - n)).take n)) (g := some)
    (l := List.range' (n - 1) (l.length - (n - 1)))
  rw [show (fun last => some (f ((l.drop (last + 1 - n)).take n))) =
    some ∘ fun last => f ((l.drop (last + 1 - n)).take n) from rfl, ← hmap]
  refine missingBefore_append _ (fun hne => ?_) (by omega)
  have hlength : 0 < l.length - (n - 1) := by
    refine Nat.pos_of_ne_zero fun hzero => hne ?_
    rw [hzero]
    rfl
  omega

/-! ### Delays -/

/-- The first `w` elements give no value, and each later one gives one. -/
structure Delayed (w : ℕ) (D : List α → List β) : Prop where
  short : ∀ l, l.length ≤ w → D l = []
  concat : ∀ l a, w ≤ l.length → ∃ b, D (l ++ [a]) = D l ++ [b]

section

variable {w : ℕ} {D : List α → List β} {E : List β → List (Option γ)}

theorem Delayed.length (hD : Delayed w D) (l : List α) : (D l).length = l.length - w := by
  induction l using List.reverseRecOn with
  | nil => rw [hD.short [] (Nat.zero_le w)]; simp
  | append_singleton l a ih =>
    rw [List.length_append, List.length_singleton]
    rcases Nat.lt_or_ge l.length w with hlt | hge
    · rw [hD.short _ (by simpa using hlt), List.length_nil]
      omega
    · obtain ⟨b, hb⟩ := hD.concat l a hge
      rw [hb, List.length_append, ih, List.length_singleton]
      omega

/-- **Delayed values, realigned**: they are missing where there is none yet. -/
theorem causal_delayed (hD : Delayed w D) (hE : Causal E) :
    Causal fun l => List.replicate (min w l.length) none ++ E (D l) where
  nil := by rw [hD.short [] (Nat.zero_le w), hE.nil]; simp
  concat l a := by
    rcases Nat.lt_or_ge l.length w with hlt | hge
    · refine ⟨none, ?_⟩
      have hlength : (l ++ [a]).length ≤ w := by
        rw [List.length_append, List.length_singleton]
        omega
      rw [hD.short l hlt.le, hD.short _ hlength, hE.nil, List.append_nil, List.append_nil,
        min_eq_right hlength, min_eq_right hlt.le, List.length_append, List.length_singleton,
        List.replicate_succ']
    · obtain ⟨b, hb⟩ := hD.concat l a hge
      obtain ⟨v, hv⟩ := hE.concat (D l) b
      refine ⟨v, ?_⟩
      rw [hb, hv, min_eq_left hge, min_eq_left (by simp; omega), List.append_assoc]

theorem missingBefore_delayed {v : ℕ} (hD : Delayed w D) (hE : Causal E)
    (h : ∀ l, MissingBefore v (E l)) (l : List α) :
    MissingBefore (w + v) (List.replicate (min w l.length) none ++ E (D l)) := by
  intro i x hx
  rw [List.getElem?_append, List.length_replicate] at hx
  split at hx
  · next hi =>
    rw [List.getElem?_replicate, if_pos hi] at hx
    cases hx
    exact iff_of_true rfl (by omega)
  · next hi =>
    rcases Nat.lt_or_ge l.length w with hlt | hge
    · rw [hD.short l hlt.le, hE.nil] at hx
      cases hx
    · rw [min_eq_left hge] at hi hx
      rw [h _ _ _ hx]
      omega

/-- The changes from each element to the next. -/
theorem delayed_differences (f : α → α → β) : Delayed 1 fun l => List.zipWith f l l.tail where
  short l hl := by
    rcases l with _ | ⟨a, _ | ⟨b, l⟩⟩
    · rfl
    · rfl
    · simp at hl
  concat l a hl := by
    induction l with
    | nil => simp at hl
    | cons b l ih =>
      cases l with
      | nil => exact ⟨f b a, rfl⟩
      | cons c l =>
        obtain ⟨d, hd⟩ := ih (by simp)
        exact ⟨d, congrArg (f b c :: ·) hd⟩

/-- The values that are not missing. -/
theorem delayed_reduceOption {M : List α → List (Option β)} (hM : Causal M)
    (h : ∀ l, MissingBefore w (M l)) : Delayed w fun l => (M l).reduceOption where
  short l hl := by
    refine List.eq_nil_iff_forall_not_mem.mpr fun b hb => ?_
    obtain ⟨i, hi⟩ := List.mem_iff_getElem?.mp (List.reduceOption_mem_iff.mp hb)
    have hlt := (List.getElem?_eq_some_iff.mp hi).1
    rw [hM.length] at hlt
    have hmissing := (h l i _ hi).mpr (by omega)
    cases hmissing
  concat l a hl := by
    obtain ⟨v, hv⟩ := hM.concat l a
    have hget : (M (l ++ [a]))[l.length]? = some v := by
      rw [hv, ← hM.length l, List.getElem?_concat_length]
    cases v with
    | none =>
      have hlt := (h _ _ _ hget).mp rfl
      omega
    | some b => exact ⟨b, by rw [hv, List.reduceOption_append]; rfl⟩

end

end

end DryTrade
