import Mathlib.Data.List.AList
import Mathlib.Data.List.Induction

/-!
# Veyra.Lib.FileTree

A directory tree whose entries carry a flag: whether access to them has been
restricted to their owner.

A tree is a finite map from paths, and carries the fact that whatever lies
below a path lies below a directory.  Each operation that changes it is given
by what is found at every path afterwards (`find_create`, `find_remove`,
`find_setPrivate`).
-/

/-- What stands at a path.  An entry that is neither a directory nor a regular file, such as a link,
may lead nowhere. -/
inductive FileKind
  | directory
  | file
  | other (resolves : Bool)
deriving DecidableEq, Repr

/-- An entry of a tree. -/
structure FileNode where
  kind : FileKind
  isPrivate : Bool
deriving DecidableEq, Repr

/-- A tree; the path of its root is empty. -/
structure FileTree (Name : Type) [DecidableEq Name] where
  entries : AList fun _ : List Name => FileNode
  closed : ∀ p name, p ++ [name] ∈ entries →
    (entries.lookup p).map FileNode.kind = some .directory

namespace FileTree

variable {Name : Type} [DecidableEq Name] {t t' : FileTree Name} {p q : List Name}

/-- The tree without a root. -/
def empty : FileTree Name where
  entries := ∅
  closed _ _ h := absurd h (AList.notMem_empty _)

/-- The entry at a path. -/
def find (t : FileTree Name) (p : List Name) : Option FileNode := t.entries.lookup p

/-- What stands at a path. -/
def kindAt (t : FileTree Name) (p : List Name) : Option FileKind := (t.find p).map FileNode.kind

/-- Whether something is found at a path, following links. -/
def existsAt (t : FileTree Name) (p : List Name) : Bool :=
  match t.kindAt p with
  | none | some (.other false) => false
  | _ => true

/-- Whether the entry at a path has been restricted to its owner. -/
def privateAt (t : FileTree Name) (p : List Name) : Bool := (t.find p).any FileNode.isPrivate

@[simp] theorem find_empty : (empty : FileTree Name).find p = none := rfl

theorem kindAt_eq_some {kind : FileKind} :
    t.kindAt p = some kind ↔ ∃ node, t.find p = some node ∧ node.kind = kind := by
  simp [kindAt]

/-- **What lies below a path lies below a directory.** -/
theorem kindAt_of_child {name : Name} {node : FileNode} (h : t.find (p ++ [name]) = some node) :
    t.kindAt p = some .directory :=
  t.closed p name (AList.lookup_isSome.mp (Option.isSome_of_eq_some h))

theorem kindAt_of_below {node : FileNode} (h : t.find (p ++ q) = some node) (hq : q ≠ []) :
    t.kindAt p = some .directory := by
  induction q using List.reverseRecOn generalizing node with
  | nil => exact absurd rfl hq
  | append_singleton q name ih =>
    rw [← List.append_assoc] at h
    have hparent := kindAt_of_child h
    cases q with
    | nil => simpa using hparent
    | cons first rest =>
      obtain ⟨node', hnode', -⟩ := kindAt_eq_some.mp hparent
      exact ih hnode' (List.cons_ne_nil _ _)

/-! ## The names in a directory -/

/-- The last part of a path right below `p`. -/
def childOf (p q : List Name) : Option Name := if q.dropLast = p then q.getLast? else none

theorem childOf_eq_some {name : Name} : childOf p q = some name ↔ q = p ++ [name] := by
  constructor
  · intro h
    rw [childOf] at h
    split at h
    · rename_i hp
      have hq := List.dropLast_append_getLast? name h
      rw [hp] at hq
      exact hq.symm
    · contradiction
  · rintro rfl
    simp [childOf]

/-- The names of the entries of a directory. -/
def names (t : FileTree Name) (p : List Name) : List Name := t.entries.keys.filterMap (childOf p)

theorem mem_names {name : Name} : name ∈ t.names p ↔ (t.find (p ++ [name])).isSome = true := by
  rw [names, List.mem_filterMap]
  constructor
  · rintro ⟨q, hq, hchild⟩
    rw [childOf_eq_some] at hchild
    exact AList.lookup_isSome.mpr (hchild ▸ hq)
  · intro h
    exact ⟨p ++ [name], AList.lookup_isSome.mp h, childOf_eq_some.mpr rfl⟩

theorem nodup_names : (t.names p).Nodup :=
  t.entries.keys_nodup.filterMap fun _ _ _ h h' =>
    (childOf_eq_some.mp h).trans (childOf_eq_some.mp h').symm

/-- Below a path that is no directory there is nothing. -/
theorem names_of_not_directory (h : t.kindAt p ≠ some .directory) : t.names p = [] := by
  refine List.eq_nil_iff_forall_not_mem.mpr fun name hname => h ?_
  obtain ⟨node, hnode⟩ := Option.isSome_iff_exists.mp (mem_names.mp hname)
  exact kindAt_of_child hnode

/-! ## Changes -/

/-- A path at which an entry can be created: it is free, and below a directory or the root. -/
def Free (t : FileTree Name) (p : List Name) : Prop :=
  t.find p = none ∧ (p = [] ∨ t.kindAt p.dropLast = some .directory)

instance : Decidable (t.Free p) :=
  inferInstanceAs (Decidable (_ ∧ (_ ∨ _)))

/-- An entry is created without restrictions of its own. -/
def create (t : FileTree Name) (p : List Name) (kind : FileKind) (h : t.Free p) :
    FileTree Name where
  entries := t.entries.insert p ⟨kind, false⟩
  closed q name hmem := by
    rcases (AList.mem_insert _).mp hmem with heq | hmem
    · have hp : t.kindAt q = some .directory := by
        rcases h.2 with hroot | hparent
        · simp [hroot] at heq
        · simpa [← heq] using hparent
      have hne : q ≠ p := fun hq => by simp [kindAt, hq, h.1] at hp
      rw [AList.lookup_insert_ne hne]
      exact hp
    · have hp := t.closed q name hmem
      have hne : q ≠ p := fun hq => by
        have hnone : t.entries.lookup p = none := h.1
        subst hq
        simp [hnone] at hp
      rw [AList.lookup_insert_ne hne]
      exact hp

/-- An entry with nothing below it is removed. -/
def remove (t : FileTree Name) (p : List Name) (h : t.names p = []) : FileTree Name where
  entries := t.entries.erase p
  closed q name hmem := by
    obtain ⟨-, hmem⟩ := AList.mem_erase.mp hmem
    have hne : q ≠ p := fun hq => by
      have hname : name ∈ t.names p := mem_names.mpr (AList.lookup_isSome.mpr (hq ▸ hmem))
      simp [h] at hname
    rw [AList.lookup_erase_ne hne]
    exact t.closed q name hmem

/-- The directory or file at a path is restricted to its owner. -/
def setPrivate (t : FileTree Name) (p : List Name) : FileTree Name :=
  match h : t.entries.lookup p with
  | none => t
  | some node =>
    { entries := t.entries.insert p { node with isPrivate := true }
      closed q name hmem := by
        have hmem : q ++ [name] ∈ t.entries := by
          rcases (AList.mem_insert _).mp hmem with heq | hmem
          · exact heq ▸ AList.lookup_isSome.mp (Option.isSome_of_eq_some h)
          · exact hmem
        have hparent := t.closed q name hmem
        by_cases hq : q = p
        · subst hq
          simpa [h] using hparent
        · rwa [AList.lookup_insert_ne hq] }

theorem find_create {kind : FileKind} {h : t.Free p} :
    (t.create p kind h).find q = if q = p then some ⟨kind, false⟩ else t.find q := by
  split
  · rename_i hq
    exact hq ▸ AList.lookup_insert _
  · rename_i hq
    exact AList.lookup_insert_ne hq

theorem find_remove {h : t.names p = []} :
    (t.remove p h).find q = if q = p then none else t.find q := by
  split
  · rename_i hq
    exact hq ▸ AList.lookup_erase _ _
  · rename_i hq
    exact AList.lookup_erase_ne hq

theorem find_setPrivate :
    (t.setPrivate p).find q =
      if q = p then (t.find q).map fun node => { node with isPrivate := true } else t.find q := by
  rw [setPrivate]
  split
  · rename_i hnone
    split
    · rename_i hq
      subst hq
      simp [find, hnone]
    · rfl
  · rename_i node hnode
    split
    · rename_i hq
      subst hq
      have hnode' : t.find q = some node := hnode
      rw [hnode']
      exact AList.lookup_insert _
    · rename_i hq
      exact AList.lookup_insert_ne hq

end FileTree
