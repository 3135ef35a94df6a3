import Mathlib.Tactic

/-!
# File systems with hard links

Names refer to inodes, and several names may refer to one.  Opening a name that
exists truncates its inode in place; renaming and linking move references and
touch no inode, and a rename between two names of one inode does nothing.

## Main definitions

* `FileSystem` — the names and the inodes they refer to.
* `FileSystem.openFile`, `write`, `unlink`, `link`, `replace` — the operations.
* `FileSystem.read` — what a name reads as.
* `FileSystem.ChangesOnly` — a change of some names, that writes no inode there was.
* `FileSystem.Stable` — an assertion that changes of some names keep.

## Main results

* `changesOnly_unlink`, `changesOnly_link`, `changesOnly_replace`, `changesOnly_writeNew` —
  what each operation changes.
* `ChangesOnly.read` — the other names read as before.
-/

namespace DryTrade

/-- A file system over the names `N` and the contents `C`. -/
structure FileSystem (N C : Type) where
  /-- The inode each name refers to. -/
  entries : List (N × ℕ)
  /-- The content of each inode. -/
  inodes : List C
  nodup : (entries.map (·.1)).Nodup
  bounded : ∀ e ∈ entries, e.2 < inodes.length

namespace FileSystem

variable {N C : Type} [DecidableEq N]

/-- No file at all. -/
def empty : FileSystem N C := ⟨[], [], List.nodup_nil, fun _ h => (List.not_mem_nil h).elim⟩

/-- The inode of a name. -/
def entry (fs : FileSystem N C) (n : N) : Option ℕ :=
  (fs.entries.find? fun e => e.1 == n).map (·.2)

/-- What a name reads as. -/
def read (fs : FileSystem N C) (n : N) : Option C := (fs.entry n).bind fun i => fs.inodes[i]?

/-- `path.exists()`. -/
def exist (fs : FileSystem N C) (n : N) : Bool := (fs.entry n).isSome

/-- Every name there is. -/
def names (fs : FileSystem N C) : List N := fs.entries.map (·.1)

/-- `path.unlink(missing_ok=True)`. -/
def unlink (fs : FileSystem N C) (n : N) : FileSystem N C where
  entries := fs.entries.filter fun e => e.1 != n
  inodes := fs.inodes
  nodup := fs.nodup.sublist (List.filter_sublist.map _)
  bounded := fun e he => fs.bounded e (List.mem_of_mem_filter he)

/-- Let a name refer to an inode there is. -/
def refer (fs : FileSystem N C) (n : N) (i : ℕ) (h : i < fs.inodes.length) : FileSystem N C where
  entries := (n, i) :: (fs.unlink n).entries
  inodes := fs.inodes
  nodup := by
    refine List.nodup_cons.mpr ⟨fun hmem => ?_, (fs.unlink n).nodup⟩
    obtain ⟨e, he, heq⟩ := List.mem_map.mp hmem
    have hne := (List.mem_filter.mp he).2
    simp [heq] at hne
  bounded := by
    rintro e (- | ⟨-, he⟩)
    · exact h
    · exact (fs.unlink n).bounded e he

/-- A new inode. -/
def addInode (fs : FileSystem N C) (c : C) : FileSystem N C where
  entries := fs.entries
  inodes := fs.inodes ++ [c]
  nodup := fs.nodup
  bounded := fun e he => (fs.bounded e he).trans_le (by simp)

/-- Write an inode in place. -/
def setInode (fs : FileSystem N C) (i : ℕ) (c : C) : FileSystem N C where
  entries := fs.entries
  inodes := fs.inodes.set i c
  nodup := fs.nodup
  bounded := fun e he => by simpa using fs.bounded e he

theorem entry_mem {fs : FileSystem N C} {n : N} {i : ℕ} (h : fs.entry n = some i) :
    (n, i) ∈ fs.entries := by
  obtain ⟨e, he, rfl⟩ := Option.map_eq_some_iff.mp h
  have hn : e.1 = n := by simpa using List.find?_some he
  exact hn ▸ List.mem_of_find?_eq_some he

theorem entry_lt (fs : FileSystem N C) {n : N} {i : ℕ} (h : fs.entry n = some i) :
    i < fs.inodes.length := fs.bounded _ (entry_mem h)

theorem lt_unlink {fs : FileSystem N C} {n : N} {i : ℕ} (h : i < fs.inodes.length) :
    i < (fs.unlink n).inodes.length := h

/-- `os.link(src, dst)`: it fails when the source is missing or the destination exists. -/
def link (fs : FileSystem N C) (src dst : N) : Option (FileSystem N C) :=
  match h : fs.entry src with
  | none => none
  | some i => if fs.exist dst then none else some (fs.refer dst i (fs.entry_lt h))

/-- `os.replace(src, dst)`: two names of one inode both stay. -/
def replace (fs : FileSystem N C) (src dst : N) : Option (FileSystem N C) :=
  match h : fs.entry src with
  | none => none
  | some i =>
    if fs.entry dst = some i then some fs
    else some ((fs.unlink src).refer dst i (lt_unlink (fs.entry_lt h)))

/-- Open a name for writing: its inode is truncated to `c`, or a new one is made. -/
def openFile (fs : FileSystem N C) (n : N) (c : C) : FileSystem N C :=
  match fs.entry n with
  | none => (fs.addInode c).refer n fs.inodes.length (by simp [addInode])
  | some i => fs.setInode i c

/-- Write the inode of a name in place. -/
def write (fs : FileSystem N C) (n : N) (c : C) : Option (FileSystem N C) :=
  (fs.entry n).map fun i => fs.setInode i c

/-! ### What the names refer to -/

theorem mem_entries {fs : FileSystem N C} {n : N} {i : ℕ} :
    (n, i) ∈ fs.entries ↔ fs.entry n = some i := by
  refine ⟨fun h => ?_, entry_mem⟩
  unfold entry
  cases hfound : fs.entries.find? fun e => e.1 == n with
  | none =>
    have hnot := List.find?_eq_none.mp hfound _ h
    simp at hnot
  | some e =>
    have hn : e.1 = n := by simpa using List.find?_some hfound
    have heq := List.inj_on_of_nodup_map fs.nodup (List.mem_of_find?_eq_some hfound) h hn
    rw [heq, Option.map_some]

theorem mem_names {fs : FileSystem N C} {n : N} : n ∈ fs.names ↔ fs.entry n ≠ none := by
  rw [Option.ne_none_iff_exists', names, List.mem_map]
  constructor
  · rintro ⟨⟨m, i⟩, he, rfl⟩
    exact ⟨i, mem_entries.mp he⟩
  · rintro ⟨i, hi⟩
    exact ⟨_, mem_entries.mpr hi, rfl⟩

theorem entry_unlink (fs : FileSystem N C) (n m : N) :
    (fs.unlink n).entry m = if m = n then none else fs.entry m := by
  refine Option.ext fun i => ?_
  rw [← mem_entries]
  unfold unlink
  rw [List.mem_filter, mem_entries]
  split
  · next h => simp [h]
  · next h => simp [h]

theorem entry_refer (fs : FileSystem N C) (n m : N) {i : ℕ} (h : i < fs.inodes.length) :
    (fs.refer n i h).entry m = if m = n then some i else fs.entry m := by
  refine Option.ext fun j => ?_
  rw [← mem_entries]
  unfold refer
  rw [List.mem_cons, mem_entries, entry_unlink]
  split
  · next hm => simp [hm, eq_comm]
  · next hm => simp [hm]

@[simp] theorem entry_unlink_self (fs : FileSystem N C) (n : N) : (fs.unlink n).entry n = none := by
  rw [entry_unlink, if_pos rfl]

@[simp] theorem entry_addInode (fs : FileSystem N C) (c : C) (n : N) :
    (fs.addInode c).entry n = fs.entry n := rfl

@[simp] theorem entry_setInode (fs : FileSystem N C) (i : ℕ) (c : C) (n : N) :
    (fs.setInode i c).entry n = fs.entry n := rfl

@[simp] theorem inodes_unlink (fs : FileSystem N C) (n : N) : (fs.unlink n).inodes = fs.inodes :=
  rfl

@[simp] theorem inodes_refer (fs : FileSystem N C) (n : N) {i : ℕ} (h : i < fs.inodes.length) :
    (fs.refer n i h).inodes = fs.inodes := rfl

@[simp] theorem read_eq_none {fs : FileSystem N C} {n : N} : fs.read n = none ↔ fs.entry n = none := by
  unfold read
  cases h : fs.entry n with
  | none => simp
  | some i => simpa using fs.entry_lt h

theorem exist_eq {fs : FileSystem N C} {n : N} : fs.exist n = true ↔ fs.entry n ≠ none := by
  rw [exist, Option.isSome_iff_ne_none]

/-! ### The operations -/

theorem link_eq {fs : FileSystem N C} {src dst : N} {i : ℕ} (hsrc : fs.entry src = some i)
    (hdst : fs.entry dst = none) :
    fs.link src dst = some (fs.refer dst i (fs.entry_lt hsrc)) := by
  unfold link
  split
  · next h => rw [hsrc] at h; cases h
  · next j h =>
    rw [hsrc] at h
    cases h
    rw [if_neg]
    simp [exist, hdst]

theorem link_eq_some {fs fs' : FileSystem N C} {src dst : N} (h : fs.link src dst = some fs') :
    ∃ i, ∃ hi : fs.entry src = some i, fs.entry dst = none ∧ fs' = fs.refer dst i (fs.entry_lt hi) := by
  unfold link at h
  split at h
  · cases h
  · next i hi =>
    split at h
    · cases h
    · next hdst =>
      cases h
      exact ⟨i, hi, by simpa [exist] using hdst, rfl⟩

theorem replace_eq {fs : FileSystem N C} {src dst : N} {i : ℕ} (hsrc : fs.entry src = some i)
    (hdst : fs.entry dst ≠ some i) :
    fs.replace src dst = some ((fs.unlink src).refer dst i (lt_unlink (fs.entry_lt hsrc))) := by
  unfold replace
  split
  · next h => rw [hsrc] at h; cases h
  · next j h =>
    rw [hsrc] at h
    cases h
    rw [if_neg hdst]

theorem replace_eq_some {fs fs' : FileSystem N C} {src dst : N}
    (h : fs.replace src dst = some fs') :
    ∃ i, ∃ hi : fs.entry src = some i, fs.entry dst = some i ∧ fs' = fs ∨
      fs.entry dst ≠ some i ∧ fs' = (fs.unlink src).refer dst i (lt_unlink (fs.entry_lt hi)) := by
  unfold replace at h
  split at h
  · cases h
  · next i hi =>
    split at h
    · next hdst =>
      cases h
      exact ⟨i, hi, .inl ⟨hdst, rfl⟩⟩
    · next hdst =>
      cases h
      exact ⟨i, hi, .inr ⟨hdst, rfl⟩⟩

theorem openFile_eq {fs : FileSystem N C} {n : N} (c : C) (h : fs.entry n = none) :
    fs.openFile n c = (fs.addInode c).refer n fs.inodes.length (by simp [addInode]) := by
  unfold openFile
  split
  · rfl
  · next i hi => rw [h] at hi; cases hi

/-! ### Changes of some names -/

/-- Names outside `S` refer to what they did, and no inode there was is written. -/
structure ChangesOnly (S : N → Prop) (fs fs' : FileSystem N C) : Prop where
  entry : ∀ n, ¬ S n → fs'.entry n = fs.entry n
  inodes : fs.inodes <+: fs'.inodes

namespace ChangesOnly

variable {S S' : N → Prop} {fs fs' fs'' : FileSystem N C}

theorem refl (S : N → Prop) (fs : FileSystem N C) : ChangesOnly S fs fs :=
  ⟨fun _ _ => rfl, List.prefix_rfl⟩

theorem trans (h : ChangesOnly S fs fs') (h' : ChangesOnly S fs' fs'') : ChangesOnly S fs fs'' :=
  ⟨fun n hn => (h'.entry n hn).trans (h.entry n hn), h.inodes.trans h'.inodes⟩

theorem mono (h : ChangesOnly S fs fs') (hS : ∀ n, S n → S' n) : ChangesOnly S' fs fs' :=
  ⟨fun n hn => h.entry n fun hs => hn (hS n hs), h.inodes⟩

/-- An inode there was still holds what it did. -/
theorem content (h : ChangesOnly S fs fs') {i : ℕ} (hi : i < fs.inodes.length) :
    fs'.inodes[i]? = fs.inodes[i]? := by
  obtain ⟨tail, htail⟩ := h.inodes
  rw [← htail, List.getElem?_append_left hi]

/-- The other names read as before. -/
theorem read (h : ChangesOnly S fs fs') {n : N} (hn : ¬ S n) : fs'.read n = fs.read n := by
  unfold FileSystem.read
  rw [h.entry n hn]
  cases hi : fs.entry n with
  | none => rfl
  | some i => exact h.content (fs.entry_lt hi)

/-- A name that refers to an inode there was reads as that inode did. -/
theorem read_of_entry (h : ChangesOnly S fs fs') {n m : N} (hm : fs'.entry m = fs.entry n) :
    fs'.read m = fs.read n := by
  unfold FileSystem.read
  rw [hm]
  cases hi : fs.entry n with
  | none => rfl
  | some i => exact h.content (fs.entry_lt hi)

end ChangesOnly

variable {fs fs' : FileSystem N C}

theorem changesOnly_unlink (fs : FileSystem N C) (n : N) :
    ChangesOnly (· = n) fs (fs.unlink n) :=
  ⟨fun m hm => by rw [entry_unlink, if_neg hm], List.prefix_rfl⟩

theorem changesOnly_refer (fs : FileSystem N C) (n : N) {i : ℕ} (h : i < fs.inodes.length) :
    ChangesOnly (· = n) fs (fs.refer n i h) :=
  ⟨fun m hm => by rw [entry_refer, if_neg hm], List.prefix_rfl⟩

theorem changesOnly_link {src dst : N} (h : fs.link src dst = some fs') :
    ChangesOnly (· = dst) fs fs' := by
  obtain ⟨i, hi, -, rfl⟩ := link_eq_some h
  exact changesOnly_refer fs dst _

theorem changesOnly_replace {src dst : N} (h : fs.replace src dst = some fs') :
    ChangesOnly (fun n => n = src ∨ n = dst) fs fs' := by
  obtain ⟨i, hi, ⟨-, rfl⟩ | ⟨-, rfl⟩⟩ := replace_eq_some h
  · exact ChangesOnly.refl _ _
  · exact ((changesOnly_unlink fs src).mono fun _ h => .inl h).trans
      ((changesOnly_refer _ dst _).mono fun _ h => .inr h)

/-- Moving a name over another inode. -/
theorem exists_replace {src dst : N} {i : ℕ} (hne : src ≠ dst) (hsrc : fs.entry src = some i)
    (hdst : fs.entry dst ≠ some i) :
    ∃ fs', fs.replace src dst = some fs' ∧
      ChangesOnly (fun n => n = src ∨ n = dst) fs fs' ∧ fs'.entry dst = some i ∧
      fs'.entry src = none := by
  have heq := replace_eq hsrc hdst
  refine ⟨_, heq, changesOnly_replace heq, ?_, ?_⟩
  · rw [entry_refer, if_pos rfl]
  · rw [entry_refer, if_neg hne, entry_unlink_self]

/-- A second name for an inode. -/
theorem exists_link {src dst : N} {i : ℕ} (hsrc : fs.entry src = some i)
    (hdst : fs.entry dst = none) :
    ∃ fs', fs.link src dst = some fs' ∧ ChangesOnly (· = dst) fs fs' ∧
      fs'.entry dst = some i := by
  have heq := link_eq hsrc hdst
  refine ⟨_, heq, changesOnly_link heq, ?_⟩
  rw [entry_refer, if_pos rfl]

/-- Opening a name that does not exist. -/
theorem changesOnly_openFile {n : N} (c : C) (h : fs.entry n = none) :
    ChangesOnly (· = n) fs (fs.openFile n c) := by
  rw [openFile_eq c h]
  exact ⟨fun m hm => by rw [entry_refer, if_neg hm, entry_addInode], ⟨[c], rfl⟩⟩

/-- Opening a name that does not exist and writing it. -/
theorem write_openFile {n : N} (c c' : C) (h : fs.entry n = none) :
    ∃ fs', (fs.openFile n c).write n c' = some fs' ∧ ChangesOnly (· = n) fs fs' ∧
      fs'.entry n = some fs.inodes.length ∧ fs'.read n = some c' := by
  have hentry : (fs.openFile n c).entry n = some fs.inodes.length := by
    rw [openFile_eq c h, entry_refer, if_pos rfl]
  have hinodes : ((fs.openFile n c).setInode fs.inodes.length c').inodes = fs.inodes ++ [c'] := by
    rw [openFile_eq c h]
    simp [setInode, refer, addInode]
  refine ⟨(fs.openFile n c).setInode fs.inodes.length c', ?_, ⟨fun m hm => ?_, ?_⟩, hentry, ?_⟩
  · rw [write, hentry, Option.map_some]
  · rw [entry_setInode, (changesOnly_openFile c h).entry m hm]
  · exact ⟨[c'], hinodes.symm⟩
  · unfold read
    rw [entry_setInode, hentry, Option.bind_some, hinodes, List.getElem?_concat_length]

/-! ### Assertions about other names -/

/-- Whatever becomes of the names in `S`, `F` stays true. -/
def Stable (S : N → Prop) (F : FileSystem N C → Prop) : Prop :=
  ∀ fs fs', F fs → ChangesOnly S fs fs' → F fs'

section

variable {S S' : N → Prop} {F G : FileSystem N C → Prop}

theorem Stable.mono (h : Stable S F) (hS : ∀ n, S' n → S n) : Stable S' F :=
  fun fs fs' hF hchange => h fs fs' hF (hchange.mono hS)

theorem Stable.and (hF : Stable S F) (hG : Stable S G) : Stable S fun fs => F fs ∧ G fs :=
  fun fs fs' h hchange => ⟨hF fs fs' h.1 hchange, hG fs fs' h.2 hchange⟩

theorem Stable.forall {ι : Sort*} {F : ι → FileSystem N C → Prop} (h : ∀ i, Stable S (F i)) :
    Stable S fun fs => ∀ i, F i fs :=
  fun fs fs' hF hchange i => h i fs fs' (hF i) hchange

theorem Stable.imp {p : Prop} (h : p → Stable S F) : Stable S fun fs => p → F fs :=
  fun fs fs' hF hchange hp => h hp fs fs' (hF hp) hchange

theorem stable_entry {n : N} {i : Option ℕ} (hn : ¬ S n) :
    Stable S fun fs : FileSystem N C => fs.entry n = i :=
  fun _ _ h hchange => (hchange.entry n hn).trans h

theorem stable_read {n : N} {c : Option C} (hn : ¬ S n) :
    Stable S fun fs : FileSystem N C => fs.read n = c :=
  fun _ _ h hchange => (hchange.read hn).trans h

/-- Changes of owned names stay changes of owned names. -/
theorem stable_changesOnly {fs₀ : FileSystem N C} (hS : ∀ n, S' n → S n) :
    Stable S' (ChangesOnly S fs₀) :=
  fun _ _ h hchange => h.trans (hchange.mono hS)

end

end FileSystem
end DryTrade
