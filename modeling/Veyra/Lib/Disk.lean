import Mathlib.Data.List.Basic
import Mathlib.Logic.Function.Basic

/-!
# Veyra.Lib.Disk

Files, the primitive steps that change them, and what a crash leaves behind.

A program over a disk computes a result and the list of primitive steps it
performs (`Fs`); the disk it leaves is that list applied to the disk it
started from, and the disks a crash may leave are those of the prefixes of the
list, with the last write cut off at any byte (`Crash`).  A rename is one step,
so it happens or it does not.
-/

/-- The contents of the existing files. -/
abbrev Disk (Path : Type) := Path → Option (List UInt8)

namespace Disk

variable {Path : Type} [DecidableEq Path]

/-- The primitive steps: a created file is empty, a write appends, a rename replaces its
target.  Directories and flushes do not change contents. -/
inductive Step (Path : Type)
  | createDir
  | create (p : Path)
  | write (p : Path) (bs : List UInt8)
  | sync (p : Path)
  | rename (source target : Path)
  | remove (p : Path)

def Step.apply (d : Disk Path) : Step Path → Disk Path
  | .createDir => d
  | .create p => Function.update d p (some [])
  | .write p bs => Function.update d p ((d p).map (· ++ bs))
  | .sync _ => d
  | .rename source target => Function.update (Function.update d target (d source)) source none
  | .remove p => Function.update d p none

/-- The files a step may change. -/
def Step.touches : Step Path → List Path
  | .createDir | .sync _ => []
  | .create p | .write p _ | .remove p => [p]
  | .rename source target => [source, target]

/-- A step leaves the files it does not touch alone. -/
theorem Step.apply_of_not_mem {s : Step Path} {p : Path} (h : p ∉ s.touches) (d : Disk Path) :
    s.apply d p = d p := by
  cases s <;> simp_all [Step.apply, Step.touches]

def applyAll (d : Disk Path) (steps : List (Step Path)) : Disk Path := steps.foldl Step.apply d

@[simp] theorem applyAll_nil (d : Disk Path) : applyAll d [] = d := rfl

@[simp] theorem applyAll_append (d : Disk Path) (l₁ l₂ : List (Step Path)) :
    applyAll d (l₁ ++ l₂) = applyAll (applyAll d l₁) l₂ := List.foldl_append

/-- A path that no step touches stays as it is. -/
theorem applyAll_of_not_mem {steps : List (Step Path)} {p : Path}
    (h : ∀ s ∈ steps, p ∉ s.touches) (d : Disk Path) : applyAll d steps p = d p := by
  induction steps generalizing d with
  | nil => rfl
  | cons s steps ih =>
    have hs : p ∉ s.touches := h s List.mem_cons_self
    have hrest : ∀ t ∈ steps, p ∉ t.touches := fun t ht => h t (List.mem_cons_of_mem s ht)
    calc applyAll d (s :: steps) p = applyAll (s.apply d) steps p := rfl
      _ = s.apply d p := ih hrest _
      _ = d p := Step.apply_of_not_mem hs d

/-! ## Crashes -/

/-- What may be left of a step that was interrupted: nothing, all of it, or the front part
of a write. -/
inductive Torn : Step Path → List (Step Path) → Prop
  | before (s : Step Path) : Torn s []
  | after (s : Step Path) : Torn s [s]
  | cut (p : Path) (bs : List UInt8) (n : Nat) : Torn (.write p bs) [.write p (bs.take n)]

/-- The disks that a crash during the steps may leave. -/
inductive Crash : List (Step Path) → Disk Path → Disk Path → Prop
  | finished (d : Disk Path) : Crash [] d d
  | here (s : Step Path) (steps : List (Step Path)) (d : Disk Path) (left : List (Step Path))
      (torn : Torn s left) : Crash (s :: steps) d (applyAll d left)
  | later (s : Step Path) (steps : List (Step Path)) (d d' : Disk Path)
      (rest : Crash steps (s.apply d) d') : Crash (s :: steps) d d'

/-- A crash before the first step changes nothing. -/
theorem Crash.before (steps : List (Step Path)) (d : Disk Path) : Crash steps d d := by
  cases steps with
  | nil => exact .finished d
  | cons s steps => exact .here s steps d [] (.before s)

/-- A crash in the middle of a write leaves the steps before it and the front part of the
text. -/
theorem Crash.inside (before after : List (Step Path)) (p : Path) (bs : List UInt8) (n : Nat)
    (d : Disk Path) : Crash (before ++ .write p bs :: after) d
      (applyAll d (before ++ [.write p (bs.take n)])) := by
  induction before generalizing d with
  | nil => exact .here _ after d _ (.cut p bs n)
  | cons s before ih => exact .later s _ d _ (ih (s.apply d))

/-- A crash during two programs in a row happens in the first or in the second. -/
theorem Crash.of_append {l₁ l₂ : List (Step Path)} {d d' : Disk Path}
    (h : Crash (l₁ ++ l₂) d d') : Crash l₁ d d' ∨ Crash l₂ (applyAll d l₁) d' := by
  induction l₁ generalizing d with
  | nil => exact .inr h
  | cons s l₁ ih =>
    cases h with
    | here _ _ _ left torn => exact .inl (.here s l₁ d left torn)
    | later _ _ _ _ rest =>
      rcases ih rest with hl | hr
      · exact .inl (.later s l₁ d d' hl)
      · exact .inr hr

/-- A crash leaves the files that no step touches alone. -/
theorem Crash.of_not_mem {steps : List (Step Path)} {d d' : Disk Path} (h : Crash steps d d')
    {p : Path} (hp : ∀ s ∈ steps, p ∉ s.touches) : d' p = d p := by
  induction h with
  | finished => rfl
  | here s steps d left torn =>
    have hs : p ∉ s.touches := hp s List.mem_cons_self
    refine applyAll_of_not_mem (fun t ht => ?_) d
    cases torn with
    | before => exact absurd ht List.not_mem_nil
    | after => rwa [List.mem_singleton.mp ht]
    | cut q bs n => rwa [List.mem_singleton.mp ht]
  | later s steps d d' rest ih =>
    rw [ih fun t ht => hp t (List.mem_cons_of_mem s ht)]
    exact Step.apply_of_not_mem (hp s List.mem_cons_self) d

/-! ## Replacing a file through a temporary one -/

/-- Write the contents to `temporary` and rename it over `target`. -/
def replaceSteps (temporary target : Path) (contents : List UInt8) : List (Step Path) :=
  [.createDir, .create temporary, .write temporary contents, .sync temporary,
    .rename temporary target]

omit [DecidableEq Path] in
/-- A replacement touches its temporary file and its target. -/
theorem touches_replaceSteps {temporary target : Path} {contents : List UInt8} {s : Step Path}
    (hs : s ∈ replaceSteps temporary target contents) {p : Path} (hp : p ∈ s.touches) :
    p = temporary ∨ p = target := by
  simp only [replaceSteps, List.mem_cons, List.not_mem_nil, or_false] at hs
  rcases hs with rfl | rfl | rfl | rfl | rfl <;> simp_all [Step.touches]

variable {temporary target : Path} (hne : temporary ≠ target) (contents : List UInt8)
  (d : Disk Path)
include hne

/-- A completed replacement stores the contents. -/
theorem applyAll_replaceSteps :
    applyAll d (replaceSteps temporary target contents) target = some contents := by
  simp [applyAll, replaceSteps, Step.apply, Function.update_of_ne hne.symm]

/-- An interrupted replacement leaves the old file or the new one, whole. -/
theorem Crash.replaceSteps {d' : Disk Path}
    (h : Crash (Disk.replaceSteps temporary target contents) d d') :
    d' target = d target ∨ d' target = some contents := by
  have hpre : ∀ s ∈ [Step.createDir, .create temporary, .write temporary contents,
      .sync temporary], target ∉ s.touches := by
    simp [Step.touches, hne.symm]
  have hsplit : Crash ([.createDir, .create temporary, .write temporary contents,
      .sync temporary] ++ [.rename temporary target]) d d' := h
  rcases Crash.of_append hsplit with h | h
  · exact .inl (h.of_not_mem hpre)
  · have hd := applyAll_of_not_mem hpre d
    cases h with
    | here _ _ _ left torn =>
      cases torn with
      | before => exact .inl hd
      | after => exact .inr (applyAll_replaceSteps hne contents d)
    | later _ _ _ _ rest =>
      cases rest
      exact .inr (applyAll_replaceSteps hne contents d)

end Disk

/-! ## Programs -/

/-- A program over a disk: its result and the steps it performs. -/
def Fs (Path ε α : Type) := Disk Path → Except ε α × List (Disk.Step Path)

namespace Fs

open Disk

variable {Path ε α β : Type} [DecidableEq Path]

/-- Run the second program on the disk the first one leaves. -/
def andThen (x : Fs Path ε α) (f : α → Fs Path ε β) : Fs Path ε β := fun d =>
  match x d with
  | (.error e, steps) => (.error e, steps)
  | (.ok a, steps) =>
    ((f a (applyAll d steps)).1, steps ++ (f a (applyAll d steps)).2)

instance : Monad (Fs Path ε) where
  pure a _ := (.ok a, [])
  bind := andThen

/-- The result of a program. -/
def result (x : Fs Path ε α) (d : Disk Path) : Except ε α := (x d).1

/-- The disk a program leaves. -/
def diskAfter (x : Fs Path ε α) (d : Disk Path) : Disk Path := applyAll d (x d).2

def fail (e : ε) : Fs Path ε α := fun _ => (.error e, [])

/-- A computation that does not look at the disk. -/
def lift (r : Except ε α) : Fs Path ε α := fun _ => (r, [])

def exists? (p : Path) : Fs Path ε Bool := fun d => (.ok (d p).isSome, [])

def read (p : Path) (e : ε) : Fs Path ε (List UInt8) := fun d =>
  match d p with
  | some bs => (.ok bs, [])
  | none => (.error e, [])

def perform (s : Step Path) : Fs Path ε Unit := fun _ => (.ok (), [s])

/-- Rename, reporting whether the source was there. -/
def rename (source target : Path) : Fs Path ε Bool := fun d =>
  if (d source).isSome then (.ok true, [.rename source target]) else (.ok false, [])

/-- Replace every error of a program. -/
def mapError {δ : Type} (f : ε → δ) (x : Fs Path ε α) : Fs Path δ α := fun d =>
  ((x d).1.mapError f, (x d).2)

/-- A part that succeeds is followed by the rest. -/
theorem bind_of_ok {x : Fs Path ε α} {f : α → Fs Path ε β} {d : Disk Path} {a : α}
    {steps : List (Step Path)} (h : x d = (.ok a, steps)) :
    (x >>= f) d = ((f a (applyAll d steps)).1, steps ++ (f a (applyAll d steps)).2) := by
  show andThen x f d = _
  simp only [andThen, h]

/-- A part that fails is the end. -/
theorem bind_of_error {x : Fs Path ε α} {f : α → Fs Path ε β} {d : Disk Path} {e : ε}
    {steps : List (Step Path)} (h : x d = (.error e, steps)) :
    (x >>= f) d = (.error e, steps) := by
  show andThen x f d = _
  simp only [andThen, h]

@[simp] theorem perform_bind (s : Step Path) (f : Unit → Fs Path ε β) (d : Disk Path) :
    (perform s >>= f) d = ((f () (s.apply d)).1, s :: (f () (s.apply d)).2) :=
  rfl

@[simp] theorem exists_bind (p : Path) (f : Bool → Fs Path ε β) (d : Disk Path) :
    (exists? p >>= f) d = f (d p).isSome d :=
  rfl

@[simp] theorem lift_ok_bind (a : α) (f : α → Fs Path ε β) (d : Disk Path) :
    (lift (.ok a) >>= f) d = f a d :=
  rfl

@[simp] theorem lift_error_bind (e : ε) (f : α → Fs Path ε β) (d : Disk Path) :
    (lift (.error e) >>= f) d = (.error e, []) :=
  bind_of_error rfl

theorem read_bind {p : Path} {e : ε} {d : Disk Path} {bs : List UInt8} (h : d p = some bs)
    (f : List UInt8 → Fs Path ε β) : (read p e >>= f) d = f bs d :=
  have hread : read (ε := ε) p e d = (.ok bs, []) := by simp only [read, h]
  bind_of_ok hread

theorem read_missing {p : Path} {e : ε} {d : Disk Path} (h : d p = none)
    (f : List UInt8 → Fs Path ε β) : (read p e >>= f) d = (.error e, []) :=
  have hread : read p e d = (.error e, []) := by simp only [read, h]
  bind_of_error hread

theorem rename_bind {source target : Path} {d : Disk Path} (h : (d source).isSome)
    (f : Bool → Fs Path ε β) :
    (rename source target >>= f) d =
      ((f true ((Step.rename source target).apply d)).1,
        .rename source target :: (f true ((Step.rename source target).apply d)).2) :=
  have hrename : rename (ε := ε) source target d = (.ok true, [.rename source target]) := by
    simp only [rename, h, if_true]
  bind_of_ok hrename

@[simp] theorem pure_apply (a : α) (d : Disk Path) :
    (pure a : Fs Path ε α) d = (.ok a, []) := rfl

end Fs
