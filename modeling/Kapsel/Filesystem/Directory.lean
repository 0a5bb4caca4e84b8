import Mathlib.Data.List.Basic
import Mathlib.Logic.Function.Basic

/-!
# A directory that may crash

One directory of a filesystem: names, the files they stand for, and what of both is on stable
storage.  A name stands for a numbered file or for nothing.  A change of a name is seen at once and
is stable once the directory is synchronized; until then a crash may bring back anything the name
stood for since.  The content of a file is stable from its synchronization to its next write; a
crash may leave anything of a file that is not.

A call may fail, and a call that failed may have had its effect, or for a write any first part of
it.  Such a failure is also what a crash in the middle of the call leaves.

* `Directory.Crashes` is what a crash may leave, `Directory.reacts` what a call may do.
* `Directory.Stable`: no crash changes what the name stands for (`content_of_stable`).
* A rename is one change of the target: `entry_rename_target` and `earlier_rename_target`.
-/

namespace Kapsel
namespace Filesystem

/-! ## Files and names -/

/-- A file: its bytes, and whether they are on stable storage. -/
structure File where
  content : List UInt8
  synced : Bool

/-- A directory: what a name stands for, what it stood for since the last synchronization, and the
files. -/
structure Directory (Name : Type) where
  entry : Name → Option ℕ
  earlier : Name → List (Option ℕ)
  file : ℕ → File

/-- `std::fs::Metadata`, and `Stat`: the file that is described, and its description. -/
structure Metadata where
  node : ℕ
  regular : Bool
  uid : ℕ
  gid : ℕ
  mode : ℕ
  links : ℕ
  size : ℕ
  deriving DecidableEq

/-- `Errno`, as far as anyone looks at it. -/
inductive Errno where
  | noent
  | exist
  | other
  deriving DecidableEq

namespace Directory

variable {Name : Type} {d d' : Directory Name} {name name' : Name} {n m : ℕ}

/-- What reading the name gives. -/
def content (d : Directory Name) (name : Name) : Option (List UInt8) :=
  (d.entry name).map fun n => (d.file n).content

/-- The name stands for one of these, now or after a crash. -/
def standings (d : Directory Name) (name : Name) : List (Option ℕ) :=
  d.entry name :: d.earlier name

/-- Some name stands for the file, now or after a crash. -/
def InUse (d : Directory Name) (n : ℕ) : Prop := ∃ name, some n ∈ d.standings name

/-- What a crash may leave. -/
structure Crashes (d d' : Directory Name) : Prop where
  entry : ∀ name, d'.entry name ∈ d.standings name
  file : ∀ n, (d.file n).synced = true → (d'.file n).content = (d.file n).content

/-- What the name stands for is stable, and so is the file it stands for. -/
structure Stable (d : Directory Name) (name : Name) : Prop where
  entry : ∀ standing ∈ d.earlier name, standing = d.entry name
  file : ∀ n, d.entry name = some n → (d.file n).synced = true

/-- **A crash does not change what is stable.** -/
theorem content_of_stable (h : d.Stable name) (hcrash : d.Crashes d') :
    d'.content name = d.content name := by
  have hentry : d'.entry name = d.entry name := by
    rcases List.mem_cons.mp (hcrash.entry name) with hnow | hearlier
    · exact hnow
    · exact h.entry _ hearlier
  unfold content
  rw [hentry]
  cases hname : d.entry name with
  | none => rfl
  | some n => exact congrArg some (hcrash.file n (h.file n hname))

/-! ## What calls do -/

/-- The file is this. -/
def setFile (d : Directory Name) (n : ℕ) (file : File) : Directory Name :=
  { d with file := Function.update d.file n file }

/-- Bytes behind those that are in the file. -/
def append (d : Directory Name) (n : ℕ) (bytes : List UInt8) : Directory Name :=
  d.setFile n ⟨(d.file n).content ++ bytes, false⟩

/-- The file is stable. -/
def sync (d : Directory Name) (n : ℕ) : Directory Name := d.setFile n ⟨(d.file n).content, true⟩

/-- The names are stable. -/
def syncNames (d : Directory Name) : Directory Name := { d with earlier := fun _ => [] }

@[simp] theorem file_setFile_self (file : File) : (d.setFile n file).file n = file :=
  Function.update_self ..

theorem file_setFile_of_ne (file : File) (h : m ≠ n) : (d.setFile n file).file m = d.file m :=
  Function.update_of_ne h ..

section
variable [DecidableEq Name]

/-- From now on the name stands for this. -/
def bind (d : Directory Name) (name : Name) (standing : Option ℕ) : Directory Name where
  entry := Function.update d.entry name standing
  earlier := Function.update d.earlier name (d.standings name)
  file := d.file

/-- A new and empty file. -/
def create (d : Directory Name) (name : Name) (n : ℕ) : Directory Name :=
  (d.setFile n ⟨[], false⟩).bind name (some n)

/-- `rename`: nothing happens where the two names stand for the same file already. -/
def rename (d : Directory Name) (source target : Name) : Directory Name :=
  if d.entry source = d.entry target then d
  else (d.bind target (d.entry source)).bind source none

/-! ## Names that are not touched -/

@[simp] theorem entry_bind_self (standing : Option ℕ) :
    (d.bind name standing).entry name = standing := Function.update_self ..

theorem entry_bind_of_ne (standing : Option ℕ) (h : name' ≠ name) :
    (d.bind name standing).entry name' = d.entry name' := Function.update_of_ne h ..

theorem earlier_bind_of_ne (standing : Option ℕ) (h : name' ≠ name) :
    (d.bind name standing).earlier name' = d.earlier name' := Function.update_of_ne h ..

@[simp] theorem earlier_bind_self (standing : Option ℕ) :
    (d.bind name standing).earlier name = d.standings name := Function.update_self ..

/-- **A rename is one change of its target.** -/
theorem entry_rename_target {source target : Name} (hne : target ≠ source) :
    (d.rename source target).entry target = d.entry source := by
  unfold rename
  by_cases hsame : d.entry source = d.entry target
  · rw [if_pos hsame, hsame]
  · rw [if_neg hsame, entry_bind_of_ne none hne, entry_bind_self]

theorem earlier_rename_target {source target : Name} (hne : target ≠ source)
    (hsame : d.entry source ≠ d.entry target) :
    (d.rename source target).earlier target = d.standings target := by
  unfold rename
  rw [if_neg hsame, earlier_bind_of_ne none hne, earlier_bind_self]

@[simp] theorem file_rename (source target : Name) : (d.rename source target).file = d.file := by
  unfold rename
  split
  · rfl
  · rfl

end

end Directory

/-! ## Calls -/

/-- The calls on the names and files of a directory. -/
inductive Call (Name : Type) where
  | create (name : Name)
  | openFile (name : Name)
  | fstat (file : ℕ)
  | statat (name : Name)
  | write (file : ℕ) (bytes : List UInt8)
  | fsync (file : ℕ)
  | syncDirectory
  | rename (source target : Name)
  | unlink (name : Name)

/-- What a call gives when it succeeds. -/
def Value {Name : Type} : Call Name → Type
  | .create _ => ℕ
  | .openFile _ => ℕ
  | .fstat _ => Metadata
  | .statat _ => Metadata
  | .write _ _ => Unit
  | .fsync _ => Unit
  | .syncDirectory => Unit
  | .rename _ _ => Unit
  | .unlink _ => Unit

namespace Directory

variable {Name : Type} [DecidableEq Name]

/-- The answer to a call, and the directory then. -/
def reacts (d : Directory Name) : (c : Call Name) → Except Errno (Value c) → Directory Name → Prop
  | .create name, .ok n, d' => d.entry name = none ∧ ¬d.InUse n ∧ d' = d.create name n
  | .create name, .error _, d' =>
      d' = d ∨ d.entry name = none ∧ ∃ n, ¬d.InUse n ∧ d' = d.create name n
  | .openFile name, .ok n, d' => d.entry name = some n ∧ d' = d
  | .openFile name, .error e, d' => (e = .noent → d.entry name = none) ∧ d' = d
  | .fstat n, .ok metadata, d' =>
      metadata.node = n ∧ metadata.size = (d.file n).content.length ∧ d' = d
  | .fstat _, .error _, d' => d' = d
  | .statat name, .ok metadata, d' => d.entry name = some metadata.node ∧
      metadata.size = (d.file metadata.node).content.length ∧ d' = d
  | .statat _, .error _, d' => d' = d
  | .write n bytes, .ok _, d' => d' = d.append n bytes
  | .write n bytes, .error _, d' => ∃ part, part <+: bytes ∧ d' = d.append n part
  | .fsync n, .ok _, d' => d' = d.sync n
  | .fsync n, .error _, d' => d' = d ∨ d' = d.sync n
  | .syncDirectory, .ok _, d' => d' = d.syncNames
  | .syncDirectory, .error _, d' => d' = d ∨ d' = d.syncNames
  | .rename source target, .ok _, d' => d.entry source ≠ none ∧ d' = d.rename source target
  | .rename source target, .error _, d' =>
      d' = d ∨ d.entry source ≠ none ∧ d' = d.rename source target
  | .unlink name, .ok _, d' => d.entry name ≠ none ∧ d' = d.bind name none
  | .unlink name, .error _, d' => d' = d ∨ d.entry name ≠ none ∧ d' = d.bind name none

end Directory

end Filesystem
end Kapsel
