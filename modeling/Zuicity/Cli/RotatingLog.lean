import Mathlib.Data.Char
import Mathlib.Data.List.Lex
import Mathlib.Data.List.Sort
import Zuicity.Dialer.FromUrl
import Zuicity.Lib.Runs

/-!
# The rotating log file (`RotatingFileWriter`)

The directory of the log is the list of its files, with distinct names.  Operations on existing files
succeed.  The parent of a bare file name is the empty path, which `read_dir` does not list.
-/

namespace Zuicity

open List Runs

/-! ## the writer -/

/-- the path of the log, with the parts of its name that `file_stem` and `extension` give -/
structure LogPath where
  /-- a bare file name -/
  bare : Bool
  stem : List Char
  ext : Option (List Char)

namespace LogPath
variable (path : LogPath)

def suffix : List Char := path.ext.elim [] ('.' :: ·)

def name : List Char := path.stem ++ path.suffix

def candidateName (timestamp : List Char) (attempt : Nat) : List Char :=
  path.stem ++ '-' :: (timestamp ++
    ((if attempt = 0 then [] else '-' :: Nat.toDigits 10 attempt) ++ path.suffix))

/-- what `backup_paths` takes for a backup -/
def IsBackupPath (n : List Char) : Prop :=
  n ≠ path.name ∧ path.stem ++ ['-'] <+: n ∧ path.suffix <:+ n

instance (n : List Char) : Decidable (path.IsBackupPath n) := inferInstanceAs (Decidable (_ ∧ _ ∧ _))

end LogPath

abbrev LogFiles := List (List Char × Bytes)

def Fits (pattern text : List Char) : Prop := text.length = pattern.length ∧
  ∀ pc ∈ pattern.zip text, if pc.1 = '0' then pc.2.isDigit = true else pc.2 = pc.1

/-- the texts of `rotation_timestamp`, with `0` for any digit -/
def IsTimestamp (text : List Char) : Prop :=
  Fits "0000-00-00T00-00-00.000".toList text ∨ Fits "00000000000000000000.000".toList text

instance (text : List Char) : Decidable (IsTimestamp text) := inferInstanceAs (Decidable (_ ∧ _ ∨ _ ∧ _))

/-- a call of `write_all`, and what the clock reads then -/
structure LogWrite where
  buf : Bytes
  timestamp : List Char
  formatted : IsTimestamp timestamp

/-- the directory and the writer, with what was done to the directory so far -/
structure LogState where
  files : LogFiles
  opened : Bool := true
  currentSize : Nat
  /-- the last call returned `Ok` -/
  returned : Bool := true
  renamed : List (List Char) := []
  removed : List (List Char) := []

structure RotatingFileWriter where
  path : LogPath
  maxSizeBytes : Nat
  maxBackups : Nat

namespace RotatingFileWriter

def new (path : LogPath) (maxSizeMb maxBackups : Nat) : RotatingFileWriter :=
  ⟨path, min (maxSizeMb * 1048576) u64Max, maxBackups⟩

def create (n : List Char) (files : LogFiles) : LogFiles :=
  if n ∈ files.map Prod.fst then files else files ++ [(n, [])]

def onFile (n : List Char) (g : List Char × Bytes → List Char × Bytes) (files : LogFiles) : LogFiles :=
  files.map fun f => if f.1 = n then g f else f

def append (n : List Char) (buf : Bytes) : LogFiles → LogFiles := onFile n fun f => (f.1, f.2 ++ buf)

def rename (n backup : List Char) : LogFiles → LogFiles := onFile n fun f => (backup, f.2)

variable (w : RotatingFileWriter)

def content (files : LogFiles) : Bytes := (files.find? (·.1 = w.path.name)).elim [] Prod.snd

def start (files : LogFiles) : LogState :=
  { files := create w.path.name files, currentSize := min (w.content files).length u64Max }

def shouldRotate (currentSize nextLen : Nat) : Bool :=
  0 < w.maxSizeBytes ∧ 0 < currentSize ∧ w.maxSizeBytes < min (currentSize + nextLen) u64Max

/-- one of the first names is free, as there are more of them than files -/
def rotatedPath (files : LogFiles) (timestamp : List Char) : Option (List Char) :=
  ((range (files.length + 1)).map (w.path.candidateName timestamp)).find? (· ∉ files.map Prod.fst)

def backupPaths (files : LogFiles) : Option (List (List Char)) :=
  if w.path.bare then none else some ((files.map Prod.fst).filter (w.path.IsBackupPath ·))

/-- the names of the files to remove -/
def pruneBackups (files : LogFiles) : Option (List (List Char)) :=
  if w.maxBackups = 0 then w.backupPaths files
  else (w.backupPaths files).map fun backups =>
    if backups.length ≤ w.maxBackups then []
    else (backups.insertionSort (· ≤ ·)).take (backups.length - w.maxBackups)

/-- the end of `rotate`: a new file -/
def reopen (s : LogState) : LogState :=
  { s with files := create w.path.name s.files, opened := true, currentSize := 0 }

def rotate (s : LogState) (timestamp : List Char) : LogState × Bool :=
  let s := { s with opened := false }
  if w.path.name ∈ s.files.map Prod.fst then
    match w.rotatedPath s.files timestamp with
    | none => (s, false)
    | some backup =>
      let s := { s with
        files := rename w.path.name backup s.files, renamed := s.renamed ++ [w.path.name] }
      match w.pruneBackups s.files with
      | none => (s, false)
      | some gone =>
        (w.reopen { s with files := s.files.filter (·.1 ∉ gone), removed := s.removed ++ gone }, true)
  else (w.reopen s, true)

/-- the end of `write_all`, after the rotation if there was one -/
def writeOpen (r : LogState × Bool) (buf : Bytes) : LogState × Bool :=
  if r.2 && r.1.opened then
    ({ r.1 with
        files := append w.path.name buf r.1.files
        currentSize := min (r.1.currentSize + buf.length) u64Max }, true)
  else (r.1, false)

def writeAll (s : LogState) (write : LogWrite) : LogState × Bool :=
  w.writeOpen
    (if w.shouldRotate s.currentSize write.buf.length then w.rotate s write.timestamp else (s, true))
    write.buf

def step (s : LogState) (write : LogWrite) : LogState :=
  let r := w.writeAll s write
  { r.1 with returned := r.2 }

/-! ## what is renamed and removed -/

/-- a name that the writer gives a backup -/
def Backup (n : List Char) : Prop :=
  ∃ timestamp attempt, IsTimestamp timestamp ∧ n = w.path.candidateName timestamp attempt

def OnlyBackups (s : LogState) : Prop :=
  (∀ n ∈ s.renamed, n = w.path.name) ∧ ∀ n ∈ s.removed, w.Backup n

/-- no other program has a file with a name that `backup_paths` takes -/
def Own (files : LogFiles) : Prop := ∀ n ∈ files.map Prod.fst, w.path.IsBackupPath n → w.Backup n

def Tidy (s : LogState) : Prop := w.OnlyBackups s ∧ w.Own s.files

variable {w} {s : LogState} {files : LogFiles} {n timestamp : List Char}

lemma backup_of_rotatedPath (ht : IsTimestamp timestamp) (h : w.rotatedPath files timestamp = some n) :
    w.Backup n := by
  obtain ⟨attempt, -, rfl⟩ := mem_map.mp (mem_of_find?_eq_some h)
  exact ⟨timestamp, attempt, ht, rfl⟩

lemma mem_of_pruneBackups {gone : List (List Char)} (h : w.pruneBackups files = some gone)
    (hn : n ∈ gone) : n ∈ files.map Prod.fst ∧ w.path.IsBackupPath n := by
  have hpaths {backups} (hb : w.backupPaths files = some backups) (hn : n ∈ backups) :
      n ∈ files.map Prod.fst ∧ w.path.IsBackupPath n := by
    unfold backupPaths at hb
    split at hb
    · cases hb
    · cases hb
      rw [mem_filter, decide_eq_true_iff] at hn
      exact hn
  unfold pruneBackups at h
  split at h
  · exact hpaths h hn
  · obtain ⟨backups, hb, rfl⟩ := Option.map_eq_some_iff.mp h
    refine hpaths hb ?_
    split at hn
    · cases hn
    · exact (perm_insertionSort _ _).mem_iff.mp (mem_of_mem_take hn)

lemma Own.create (h : w.Own files) : w.Own (create w.path.name files) := by
  unfold RotatingFileWriter.create
  split
  · exact h
  · intro n hn hpath
    rw [map_append, mem_append] at hn
    rcases hn with hn | hn
    · exact h n hn hpath
    · exact absurd (mem_singleton.mp hn) hpath.1

lemma Own.onFile (h : w.Own files) {g : List Char × Bytes → List Char × Bytes}
    (hg : ∀ f, w.path.IsBackupPath (g f).1 → f.1 = w.path.name → w.Backup (g f).1) :
    w.Own (onFile w.path.name g files) := by
  intro m hm hpath
  obtain ⟨f', hf', rfl⟩ := mem_map.mp hm
  obtain ⟨f, hf, rfl⟩ := mem_map.mp hf'
  split at hpath
  · rw [if_pos ‹_›]
    exact hg f hpath ‹_›
  · rw [if_neg ‹_›]
    exact h f.1 (mem_map_of_mem hf) hpath

lemma rotate_tidy (ht : IsTimestamp timestamp) (hs : w.Tidy s) : w.Tidy (w.rotate s timestamp).1 := by
  obtain ⟨⟨hrenamed, hremoved⟩, hown⟩ := hs
  unfold rotate
  dsimp only
  split
  · split
    · exact ⟨⟨hrenamed, hremoved⟩, hown⟩
    · rename_i backup hbackup
      have hrenamed' : ∀ n ∈ s.renamed ++ [w.path.name], n = w.path.name := by
        intro n hn
        rcases mem_append.mp hn with hn | hn
        · exact hrenamed n hn
        · exact mem_singleton.mp hn
      have hown' : w.Own (rename w.path.name backup s.files) :=
        hown.onFile fun _ _ _ => backup_of_rotatedPath ht hbackup
      split
      · exact ⟨⟨hrenamed', hremoved⟩, hown'⟩
      · rename_i gone hgone
        refine ⟨⟨hrenamed', fun n hn => ?_⟩, Own.create fun n hn => ?_⟩
        · rcases mem_append.mp hn with hn | hn
          · exact hremoved n hn
          · obtain ⟨hmem, hpath⟩ := mem_of_pruneBackups hgone hn
            exact hown' n hmem hpath
        · exact hown' n ((filter_sublist.map _).subset hn)
  · exact ⟨⟨hrenamed, hremoved⟩, hown.create⟩

lemma step_tidy (write : LogWrite) (hs : w.Tidy s) : w.Tidy (w.step s write) := by
  have hwrite (r : LogState × Bool) (hr : w.Tidy r.1) : w.Tidy (w.writeOpen r write.buf).1 := by
    unfold writeOpen
    split
    · exact ⟨hr.1, hr.2.onFile fun f hpath hname => absurd hname hpath.1⟩
    · exact hr
  refine hwrite _ ?_
  split
  · exact rotate_tidy write.formatted hs
  · exact hs

/-! ## other files -/

variable {f : List Char × Bytes}

lemma mem_create (hn : f.1 ≠ n) : f ∈ create n files ↔ f ∈ files := by
  unfold create
  split
  · rfl
  · rw [mem_append, mem_singleton]
    exact or_iff_left fun h => hn (congrArg Prod.fst h)

lemma mem_onFile {g : List Char × Bytes → List Char × Bytes} (hn : f.1 ≠ n)
    (hg : ∀ f', f'.1 = n → (g f').1 ≠ f.1) : f ∈ onFile n g files ↔ f ∈ files := by
  refine mem_map.trans ⟨?_, fun hf => ⟨f, hf, if_neg hn⟩⟩
  rintro ⟨f', hf', rfl⟩
  split at hn
  · rename_i h
    rw [if_pos h] at hg
    exact absurd rfl (hg f' h)
  · rwa [if_neg ‹_›]

/-- neither the log nor, as it begins, a backup -/
def Foreign (w : RotatingFileWriter) (n : List Char) : Prop :=
  n ≠ w.path.name ∧ ¬ w.path.stem ++ ['-'] <+: n

variable (hf : w.Foreign f.1)
include hf

lemma mem_rotate : f ∈ (w.rotate s timestamp).1.files ↔ f ∈ s.files := by
  unfold rotate
  dsimp only
  split
  · split
    · rfl
    · rename_i backup hbackup
      have hrename : f ∈ rename w.path.name backup s.files ↔ f ∈ s.files := by
        refine mem_onFile hf.1 fun _ _ h => hf.2 ?_
        obtain ⟨attempt, -, hname⟩ := mem_map.mp (mem_of_find?_eq_some hbackup)
        exact ⟨_, (append_cons _ _ _).symm.trans (hname.trans h)⟩
      split
      · exact hrename
      · rename_i gone hgone
        refine (mem_create hf.1).trans ((mem_filter.trans (and_iff_left ?_)).trans hrename)
        exact decide_eq_true fun h => hf.2 (mem_of_pruneBackups hgone h).2.2.1
  · exact mem_create hf.1

lemma mem_step (write : LogWrite) : f ∈ (w.step s write).files ↔ f ∈ s.files := by
  have hwrite (r : LogState × Bool) : f ∈ (w.writeOpen r write.buf).1.files ↔ f ∈ r.1.files := by
    unfold writeOpen
    split
    · exact mem_onFile hf.1 fun _ h => h ▸ hf.1.symm
    · rfl
  refine (hwrite _).trans ?_
  split
  · exact mem_rotate hf
  · rfl

end RotatingFileWriter

open RotatingFileWriter

/-- **Other files** stay as they are, whatever is written and whether or not rotations fail. -/
theorem rotation_leaves_other_files (w : RotatingFileWriter) (files : LogFiles) (writes : List LogWrite) :
    Always w.step (fun s => ∀ f, w.Foreign f.1 → (f ∈ s.files ↔ f ∈ files)) (w.start files) writes := by
  intro pre post _
  have hstep : ∀ s write, (∀ f, w.Foreign f.1 → (f ∈ s.files ↔ f ∈ files)) →
      ∀ f, w.Foreign f.1 → (f ∈ (w.step s write).files ↔ f ∈ files) :=
    fun s write h f hf => (mem_step hf write).trans (h f hf)
  exact run_keeps hstep pre fun f hf => mem_create hf.1

/-- **Where no other program has a file that `backup_paths` takes**, only the log is renamed and only
backups are removed. -/
theorem rotation_removes_backups (w : RotatingFileWriter) (files : LogFiles) (hown : w.Own files)
    (writes : List LogWrite) : Always w.step w.OnlyBackups (w.start files) writes := by
  intro pre post _
  have hstart : w.Tidy (w.start files) :=
    ⟨⟨fun _ h => (not_mem_nil h).elim, fun _ h => (not_mem_nil h).elim⟩, hown.create⟩
  have hstep : ∀ s write, w.Tidy s → w.Tidy (w.step s write) := fun _ write => step_tidy write
  exact (run_keeps hstep pre hstart).1

def zLog (bare : Bool) : RotatingFileWriter := new ⟨bare, ['z'], some "log".toList⟩ 1 1

def zWrite : LogWrite := ⟨[1], "2026-01-02T03-04-05.006".toList, by decide⟩

lemma run_zLog (bare : Bool) (others : LogFiles) (P : LogState → Prop)
    (h : ∀ full, P ((zLog bare).step ⟨("z.log".toList, full) :: others, true, 1048576, true, [], []⟩
      zWrite)) :
    P (run (zLog bare).step ((zLog bare).start (("z.log".toList, replicate 1048576 0) :: others))
      [zWrite]) := by
  have hlen : (replicate 1048576 (0 : UInt8)).length = 1048576 := length_replicate
  generalize replicate 1048576 (0 : UInt8) = full at hlen ⊢
  have hstart : (zLog bare).start (("z.log".toList, full) :: others) =
      ⟨("z.log".toList, full) :: others, true, min full.length u64Max, true, [], []⟩ := rfl
  rw [run_cons, run_nil, hstart, hlen]
  exact h full

def zOld : List Char := "z-2026-01-01T00-00-00.000.log".toList

/-- a log that is full, and a backup -/
def zFull : LogFiles := [("z.log".toList, replicate 1048576 0), (zOld, [])]

lemma zOld_removed : zOld ∈ (run (zLog false).step ((zLog false).start zFull) [zWrite]).removed :=
  run_zLog false [(zOld, [])] (zOld ∈ ·.removed) fun _ => mem_singleton_self _

lemma mem_zFull {n : List Char} (h : n ∈ zFull.map Prod.fst) (hpath : (zLog false).path.IsBackupPath n) :
    n = zOld := by
  rcases mem_cons.mp h with rfl | h
  · exact absurd rfl hpath.1
  · exact mem_singleton.mp h

theorem rotation_removes_backups_old : (zLog false).Own zFull ∧
    zOld ∈ (run (zLog false).step ((zLog false).start zFull) [zWrite]).removed ∧
    Always (zLog false).step (zLog false).OnlyBackups ((zLog false).start zFull) [zWrite] := by
  have hown : (zLog false).Own zFull := fun n hn hpath =>
    ⟨"2026-01-01T00-00-00.000".toList, 0, by decide, mem_zFull hn hpath⟩
  exact ⟨hown, zOld_removed, rotation_removes_backups _ _ hown _⟩

/-- `z-0.log` is no backup, and is removed -/
theorem foreign_log_removed :
    let s := run (zLog false).step
      ((zLog false).start [("z.log".toList, replicate 1048576 0), ("z-0.log".toList, [])]) [zWrite]
    "z-0.log".toList ∈ s.removed ∧ ¬ (zLog false).Backup "z-0.log".toList := by
  refine ⟨run_zLog false [("z-0.log".toList, [])] ("z-0.log".toList ∈ ·.removed) fun full => ?_, ?_⟩
  · exact mem_singleton_self _
  · rintro ⟨timestamp, attempt, ht, h⟩
    have hlen := congrArg length h
    have htime : 23 ≤ timestamp.length := by
      rcases ht with ht | ht
      · exact ht.1.ge
      · exact Nat.le_trans (by decide) ht.1.ge
    have hshort : ("z-0.log".toList).length = 7 := rfl
    unfold LogPath.candidateName at hlen
    simp only [length_append, length_cons] at hlen
    omega

/-! ## what is kept -/

/-- what the log and its backups are to hold, the oldest backup first -/
structure LogContents where
  current : Bytes
  backups : LogFiles

namespace RotatingFileWriter

section
variable (w : RotatingFileWriter)

def contents (files : LogFiles) : LogContents :=
  ⟨w.content files, (files.filter (w.path.IsBackupPath ·.1)).insertionSort (·.1 ≤ ·.1)⟩

/-- a rotation makes the log the newest backup and gives up the oldest ones beyond `max_backups` -/
def keep (a : LogContents) (write : LogWrite) : LogContents :=
  if w.shouldRotate (min a.current.length u64Max) write.buf.length then
    let backups := a.backups ++ [(w.path.candidateName write.timestamp 0, a.current)]
    ⟨write.buf, backups.drop (backups.length - w.maxBackups)⟩
  else ⟨a.current ++ write.buf, a.backups⟩

def Kept (files : LogFiles) (a : LogContents) : Prop :=
  (∀ content, (w.path.name, content) ∈ files ↔ content = a.current) ∧
    ∀ f, w.path.IsBackupPath f.1 → (f ∈ files ↔ f ∈ a.backups)

/-- a rotation that cannot list the directory, or makes a backup that is not the last by its name -/
def Overtaken (s : LogState) (write : LogWrite) : Prop :=
  w.shouldRotate s.currentSize write.buf.length = true ∧ (w.path.bare = true ∨
    ∃ n ∈ s.files.map Prod.fst, w.path.IsBackupPath n ∧ w.path.candidateName write.timestamp 0 ≤ n)

structure Sorted (others backups : LogFiles) : Prop where
  sorted : backups.Pairwise (·.1 < ·.1)
  paths : ∀ f ∈ backups, w.path.IsBackupPath f.1
  foreign : ∀ f ∈ others, f.1 ≠ w.path.name ∧ ¬ w.path.IsBackupPath f.1

structure Holds (others files : LogFiles) (a : LogContents) : Prop extends w.Sorted others a.backups where
  perm : files ~ (w.path.name, a.current) :: (a.backups ++ others)

/-- the writer is open, and the directory holds what it is to hold -/
def Agrees (others : LogFiles) (p : LogState × LogContents) : Prop :=
  p.1.returned = true ∧ p.1.opened = true ∧ p.1.currentSize = min p.2.current.length u64Max ∧
    w.Holds others p.1.files p.2

def stepBoth (p : LogState × LogContents) (write : LogWrite) : LogState × LogContents :=
  (w.step p.1 write, w.keep p.2 write)

end

variable {w : RotatingFileWriter} {s : LogState} {files others backups : LogFiles} {a : LogContents}
  {timestamp : List Char}

lemma isBackupPath_candidateName : w.path.IsBackupPath (w.path.candidateName timestamp 0) := by
  unfold LogPath.candidateName
  refine ⟨fun h => ?_, ⟨timestamp ++ w.path.suffix, ?_⟩, ⟨w.path.stem ++ '-' :: timestamp, ?_⟩⟩
  · have hlen := congrArg length h
    unfold LogPath.name at hlen
    simp only [length_append, length_cons] at hlen
    omega
  · simp
  · simp

lemma onFile_perm {n : List Char} {content : Bytes} {rest : LogFiles} (h : files ~ (n, content) :: rest)
    (hrest : ∀ f ∈ rest, f.1 ≠ n) (g : List Char × Bytes → List Char × Bytes) :
    onFile n g files ~ g (n, content) :: rest := by
  have hsame : onFile n g rest = rest :=
    (map_congr_left fun f hf => if_neg (hrest f hf)).trans (map_id rest)
  have hmap := h.map fun f => if f.1 = n then g f else f
  rw [map_cons, if_pos rfl] at hmap
  exact hmap.trans (.of_eq (congrArg _ hsame))

lemma filter_take_eq_drop {kept gone : LogFiles} (h : (gone ++ kept).Pairwise (·.1 < ·.1)) :
    (gone ++ kept).filter (·.1 ∉ gone.map Prod.fst) = kept := by
  rw [filter_append, filter_eq_nil_iff.mpr, nil_append, filter_eq_self]
  · intro f hf
    refine decide_eq_true fun hmem => ?_
    obtain ⟨g, hg, heq⟩ := mem_map.mp hmem
    exact ((pairwise_append.mp h).2.2 g hg f hf).ne heq
  · intro f hf hout
    exact of_decide_eq_true hout (mem_map_of_mem hf)

lemma Sorted.ne_name (h : w.Sorted others backups) : ∀ f ∈ backups ++ others, f.1 ≠ w.path.name := by
  intro f hf
  rcases mem_append.mp hf with hf | hf
  · exact (h.paths f hf).1
  · exact (h.foreign f hf).1

lemma Holds.kept (h : w.Holds others files a) : w.Kept files a := by
  refine ⟨fun content => ?_, fun f hf => ?_⟩
  · rw [h.perm.mem_iff, mem_cons, Prod.mk.injEq]
    exact ⟨fun hmem => (hmem.resolve_right fun hmem => h.ne_name _ hmem rfl).2, fun heq => .inl ⟨rfl, heq⟩⟩
  · rw [h.perm.mem_iff, mem_cons, mem_append]
    refine ⟨fun hmem => ?_, fun hmem => .inr (.inl hmem)⟩
    obtain rfl | hmem | hmem := hmem
    · exact absurd rfl hf.1
    · exact hmem
    · exact absurd hf (h.foreign f hmem).2

lemma Sorted.prune (h : w.Sorted others backups) (hmax : 0 < w.maxBackups) (hbare : w.path.bare = false)
    (hperm : files ~ backups ++ others) : ∃ gone, w.pruneBackups files = some gone ∧
      files.filter (·.1 ∉ gone) ~ backups.drop (backups.length - w.maxBackups) ++ others := by
  have hnames : (files.map Prod.fst).filter (w.path.IsBackupPath ·) ~ backups.map Prod.fst := by
    refine ((hperm.map _).filter _).trans (.of_eq ?_)
    rw [map_append, filter_append, filter_eq_self.mpr, filter_eq_nil_iff.mpr, append_nil]
    · simpa using fun n content hmem => (h.foreign (n, content) hmem).2
    · simpa using fun n content hmem => h.paths (n, content) hmem
  have hsort : ((files.map Prod.fst).filter (w.path.IsBackupPath ·)).insertionSort (· ≤ ·) =
      backups.map Prod.fst :=
    Perm.eq_of_pairwise (fun _ _ _ _ => le_antisymm) (pairwise_insertionSort _ _)
      (pairwise_map.mpr (h.sorted.imp le_of_lt)) ((perm_insertionSort _ _).trans hnames)
  refine ⟨(backups.take (backups.length - w.maxBackups)).map Prod.fst, ?_, ?_⟩
  · unfold pruneBackups backupPaths
    rw [if_neg hmax.ne', hbare, if_neg Bool.false_ne_true, Option.map_some, hsort, hnames.length_eq,
      length_map]
    split
    · rw [Nat.sub_eq_zero_of_le ‹_›]
      rfl
    · rw [map_take]
  · refine (hperm.filter _).trans (.of_eq ?_)
    have hsorted := h.sorted
    rw [← take_append_drop (backups.length - w.maxBackups) backups] at hsorted
    have hdrop := filter_take_eq_drop hsorted
    rw [take_append_drop] at hdrop
    rw [filter_append, hdrop, filter_eq_self.mpr]
    intro f hf
    refine decide_eq_true fun hmem => (h.foreign f hf).2 ?_
    obtain ⟨g, hg, heq⟩ := mem_map.mp hmem
    exact heq ▸ h.paths g (mem_of_mem_take hg)

lemma create_perm (h : ∀ f ∈ files, f.1 ≠ w.path.name) :
    create w.path.name files ~ (w.path.name, []) :: files := by
  have hfree : w.path.name ∉ files.map Prod.fst := by
    intro hmem
    obtain ⟨f, hf, hname⟩ := mem_map.mp hmem
    exact h f hf hname
  unfold create
  rw [if_neg hfree]
  exact perm_append_singleton _ _

lemma Holds.rotate (h : w.Holds others s.files a) (hmax : 0 < w.maxBackups) (hbare : w.path.bare = false)
    (hlast : ∀ m ∈ s.files.map Prod.fst, w.path.IsBackupPath m → m < w.path.candidateName timestamp 0) :
    let backups := a.backups ++ [(w.path.candidateName timestamp 0, a.current)]
    let r := w.rotate s timestamp
    r.2 = true ∧ r.1.opened = true ∧ r.1.currentSize = 0 ∧
      w.Holds others r.1.files ⟨[], backups.drop (backups.length - w.maxBackups)⟩ := by
  intro backups
  have hpath : w.path.IsBackupPath (w.path.candidateName timestamp 0) := isBackupPath_candidateName
  have hmem {f} (hf : f ∈ (w.path.name, a.current) :: (a.backups ++ others)) : f.1 ∈ s.files.map Prod.fst :=
    mem_map_of_mem (h.perm.mem_iff.mpr hf)
  have hfree : w.rotatedPath s.files timestamp = some (w.path.candidateName timestamp 0) := by
    unfold rotatedPath
    rw [range_succ_eq_map, map_cons, find?_cons_of_pos]
    exact decide_eq_true fun hmem => lt_irrefl _ (hlast _ hmem hpath)
  have hrename : rename w.path.name (w.path.candidateName timestamp 0) s.files ~ backups ++ others :=
    (onFile_perm h.perm h.ne_name _).trans (perm_middle.symm.trans (.of_eq (append_cons _ _ _)))
  have hbackups : w.Sorted others backups := by
    refine ⟨pairwise_append.mpr ⟨h.sorted, pairwise_singleton _ _, fun f hf g hg => ?_⟩,
      fun f hf => ?_, h.foreign⟩
    · rw [mem_singleton.mp hg]
      exact hlast f.1 (hmem (mem_cons_of_mem _ (mem_append_left _ hf))) (h.paths f hf)
    · rcases mem_append.mp hf with hf | hf
      · exact h.paths f hf
      · rw [mem_singleton.mp hf]
        exact hpath
  obtain ⟨gone, hprune, hkept⟩ := hbackups.prune hmax hbare hrename
  have hdrop : w.Sorted others (backups.drop (backups.length - w.maxBackups)) :=
    ⟨hbackups.sorted.drop, fun f hf => hbackups.paths f (mem_of_mem_drop hf), h.foreign⟩
  unfold RotatingFileWriter.rotate
  simp only [if_pos (hmem mem_cons_self), hfree, hprune]
  refine ⟨trivial, rfl, rfl, hdrop, (create_perm fun f hf => ?_).trans (hkept.cons _)⟩
  exact hdrop.ne_name f (hkept.mem_iff.mp hf)

lemma writeOpen_agrees {r : LogState × Bool} (h : w.Holds others r.1.files a) (hok : r.2 = true)
    (hopen : r.1.opened = true) (hsize : r.1.currentSize = min a.current.length u64Max) (buf : Bytes) :
    w.Agrees others ({ (w.writeOpen r buf).1 with returned := (w.writeOpen r buf).2 },
      ⟨a.current ++ buf, a.backups⟩) := by
  unfold writeOpen
  rw [hok, hopen, Bool.and_self, if_pos rfl]
  refine ⟨rfl, hopen, ?_, h.toSorted, onFile_perm h.perm h.ne_name _⟩
  dsimp only
  rw [hsize, length_append]
  omega

lemma step_agrees (hmax : 0 < w.maxBackups) (p : LogState × LogContents) (write : LogWrite)
    (hp : w.Agrees others p) (hgood : ¬ w.Overtaken p.1 write) : w.Agrees others (w.stepBoth p write) := by
  obtain ⟨hok, hopen, hsize, h⟩ := hp
  unfold stepBoth step writeAll keep
  rw [← hsize]
  by_cases hrot : w.shouldRotate p.1.currentSize write.buf.length = true
  · rw [if_pos hrot, if_pos hrot]
    have hlast : ∀ m ∈ p.1.files.map Prod.fst, w.path.IsBackupPath m →
        m < w.path.candidateName write.timestamp 0 :=
      fun m hm hpath => lt_of_not_ge fun hle => hgood ⟨hrot, .inr ⟨m, hm, hpath, hle⟩⟩
    have hbare : w.path.bare = false := Bool.eq_false_iff.mpr fun hb => hgood ⟨hrot, .inl hb⟩
    obtain ⟨hok, hopen, hsize, h⟩ := h.rotate hmax hbare hlast
    exact writeOpen_agrees h hok hopen hsize write.buf
  · rw [if_neg hrot, if_neg hrot]
    exact writeOpen_agrees h rfl hopen hsize write.buf

lemma create_perm_content (hnames : (files.map Prod.fst).Nodup) :
    create w.path.name files ~ (w.path.name, w.content files) :: files.filter (·.1 ≠ w.path.name) := by
  unfold RotatingFileWriter.content
  cases hfind : files.find? (·.1 = w.path.name) with
  | none =>
    have hne : ∀ f ∈ files, f.1 ≠ w.path.name := by simpa using hfind
    rw [filter_eq_self.mpr fun f hf => decide_eq_true (hne f hf)]
    exact create_perm hne
  | some f =>
    have hf := mem_of_find?_eq_some hfind
    have hname := find?_some hfind
    rw [decide_eq_true_iff] at hname
    have hrest : files.filter (·.1 ≠ w.path.name) = files.erase f := by
      rw [(hnames.of_map _).erase_eq_filter]
      refine filter_congr fun g hg => ?_
      rw [Bool.eq_iff_iff, decide_eq_true_iff, bne_iff_ne]
      refine not_congr ⟨fun h => inj_on_of_nodup_map hnames hg hf (h.trans hname.symm), ?_⟩
      rintro rfl
      exact hname
    unfold create
    rw [if_pos (hname ▸ mem_map_of_mem hf), hrest, ← hname]
    exact perm_cons_erase hf

lemma start_agrees (hnames : (files.map Prod.fst).Nodup) : ∃ others,
    w.Agrees others (w.start files, w.contents files) := by
  have hsorted := pairwise_insertionSort (fun f g : List Char × Bytes => f.1 ≤ g.1)
    (files.filter (w.path.IsBackupPath ·.1))
  have hperm := perm_insertionSort (fun f g : List Char × Bytes => f.1 ≤ g.1)
    (files.filter (w.path.IsBackupPath ·.1))
  have hdistinct := (hperm.map Prod.fst).nodup_iff.mpr (hnames.sublist (filter_sublist.map _))
  have hsub : (files.filter (·.1 ≠ w.path.name)).filter (w.path.IsBackupPath ·.1) =
      files.filter (w.path.IsBackupPath ·.1) := by
    rw [filter_filter]
    exact filter_congr fun f _ => by simpa using fun h : w.path.IsBackupPath f.1 => h.1
  refine ⟨(files.filter (·.1 ≠ w.path.name)).filter fun f => !decide (w.path.IsBackupPath f.1),
    rfl, rfl, rfl, ⟨hsorted.imp₂ (fun _ _ => lt_of_le_of_ne) (pairwise_map.mp hdistinct), fun f hf => ?_,
      fun f hf => ?_⟩, (create_perm_content hnames).trans (.cons _ ?_)⟩
  · exact of_decide_eq_true (mem_filter.mp (hperm.mem_iff.mp hf)).2
  · simp only [mem_filter, decide_eq_true_iff, Bool.not_eq_true', decide_eq_false_iff_not] at hf
    exact ⟨hf.1.2, hf.2⟩
  · refine (filter_append_perm (w.path.IsBackupPath ·.1) _).symm.trans ?_
    rw [hsub]
    exact hperm.symm.append_right _

end RotatingFileWriter

/-- **Where the directory is listed and each backup is the last by its name**, every write succeeds, the
log has what was written since the last rotation, and the newest backups are kept. -/
theorem rotation_keeps_newest (w : RotatingFileWriter) (hmax : 0 < w.maxBackups) (files : LogFiles)
    (hnames : (files.map Prod.fst).Nodup) (writes : List LogWrite)
    (hnewest : Avoids w.stepBoth (fun p => w.Overtaken p.1) (w.start files, w.contents files) writes) :
    Always w.stepBoth (fun p => p.1.returned = true ∧ w.Kept p.1.files p.2)
      (w.start files, w.contents files) writes := by
  intro pre post he
  obtain ⟨others, hstart⟩ := start_agrees hnames
  obtain ⟨hok, -, -, h⟩ := always_of_avoids (step_agrees hmax) writes hstart hnewest pre post he
  exact ⟨hok, h.kept⟩

theorem rotation_keeps_newest_full :
    zOld ∈ (run (zLog false).step ((zLog false).start zFull) [zWrite]).removed ∧
    Always (zLog false).stepBoth (fun p => p.1.returned = true ∧ (zLog false).Kept p.1.files p.2)
      ((zLog false).start zFull, (zLog false).contents zFull) [zWrite] := by
  refine ⟨zOld_removed, rotation_keeps_newest (zLog false) (by decide) zFull (by decide) [zWrite] ?_⟩
  refine (avoids_cons _ _ _).mpr ⟨?_, avoids_nil _⟩
  rintro ⟨-, hbare | ⟨n, hn, hpath, hle⟩⟩
  · cases hbare
  · rw [mem_zFull hn hpath] at hle
    exact absurd hle (by decide)

/-- the rotation of a bare `z.log` fails -/
theorem bare_log_not_listed :
    (run (zLog true).step ((zLog true).start [("z.log".toList, replicate 1048576 0)]) [zWrite]).returned =
      false :=
  run_zLog true [] (·.returned = false) fun _ => rfl

end Zuicity
