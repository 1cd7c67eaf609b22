import Veyra.Lib.FileTree
import Veyra.Platform.PrivateRuntime

/-!
# Veyra.Platform.CrashRecovery

The runtime root as a directory tree, and what a crash leaves for
`cleanup_orphaned_instances` to clean up.

An entry is created before its access list is set, so a crash in between leaves
one that nobody can prove to belong to the application.  The clean-up refuses
such a tree as a whole; every other cut of a run is cleaned up
(`crash_recovered_iff`).
-/

namespace Veyra

open Effect FileTree

/-- The runtime root; an entry is private once its access list has been set. -/
abbrev RuntimeTree := FileTree String

/-- How a step ends: whether it succeeds, and whether a failed one took effect all the same.  A
step that cannot be done fails whatever is chosen here. -/
structure StepOutcome where
  succeeds : Bool
  applied : Bool
  clock : BitVec 128
  sequence : UInt64

namespace StepOutcome

def takesEffect (x : StepOutcome) : Bool := x.succeeds || x.applied

/-- A step that works. -/
def works : StepOutcome := ⟨true, true, 0, 0⟩

end StepOutcome

namespace RuntimeTree

/-- What a step does to the tree.  The content of a file does not matter here. -/
def handle : Handler fileCalls RuntimeTree StepOutcome := fun t c x =>
  match c with
  | .pathExists p => (t.existsAt p && x.succeeds, t)
  | .isDirectory p => (decide (t.kindAt p = some .directory) && x.succeeds, t)
  | .isFile p => (decide (t.kindAt p = some .file) && x.succeeds, t)
  | .queryUser => (x.succeeds, t)
  | .setPrivate p => ((t.find p).isSome && x.succeeds, if x.takesEffect then t.setPrivate p else t)
  | .verifyPrivate p => (t.privateAt p && x.succeeds, t)
  | .createRoot =>
    if h : t.Free [] then (x.succeeds, if x.takesEffect then t.create [] .directory h else t)
    else (decide (t.kindAt [] = some .directory) && x.succeeds, t)
  | .now => (x.clock, t)
  | .nextSequence => (x.sequence, t)
  | .createDirectory p =>
    if h : t.Free p then
      (if x.succeeds then .created else .failed,
        if x.takesEffect then t.create p .directory h else t)
    else (if (t.find p).isSome && x.succeeds then .alreadyExists else .failed, t)
  | .createNew p =>
    if h : t.Free p then (x.succeeds, if x.takesEffect then t.create p .file h else t)
    else (false, t)
  | .truncate p => (decide (t.kindAt p = some .file) && x.succeeds, t)
  | .writeAll p _ => (decide (t.kindAt p = some .file) && x.succeeds, t)
  | .syncAll p => (decide (t.kindAt p = some .file) && x.succeeds, t)
  | .removeFile p =>
    if h : t.kindAt p = some .file ∧ t.names p = [] then
      (x.succeeds, if x.takesEffect then t.remove p h.2 else t)
    else (false, t)
  | .removeDirectory p =>
    if h : t.kindAt p = some .directory ∧ t.names p = [] then
      (x.succeeds, if x.takesEffect then t.remove p h.2 else t)
    else (false, t)
  | .readDirectory p =>
    (if t.kindAt p = some .directory && x.succeeds then some ((t.names p).map some) else none, t)

end RuntimeTree

/-! ## Runs -/

/-- What an application does with its private runtimes. -/
inductive RuntimeOperation
  | create
  | write (runtime : PrivateRuntime) (config : List UInt8)
  | cleanup (runtime : PrivateRuntime)
  | cleanupOrphaned

namespace RuntimeOperation

def program : RuntimeOperation → FileProgram Unit
  | .create => do let _ ← PrivateRuntime.create; return ()
  | .write runtime config => do let _ ← runtime.writeCheckedConfig config; return ()
  | .cleanup runtime => do let _ ← runtime.removeConfigAndDirectory; return ()
  | .cleanupOrphaned => do let _ ← PrivateRuntime.cleanupOrphanedInstances; return ()

/-- One operation after another. -/
def session : List RuntimeOperation → FileProgram Unit
  | [] => return ()
  | op :: ops => do op.program; session ops

end RuntimeOperation

/-- The next start, at which every step of the clean-up works. -/
def RuntimeTree.recover (t : RuntimeTree) : Except PrivateRuntimeError Unit × RuntimeTree :=
  PrivateRuntime.cleanupOrphanedInstances.run RuntimeTree.handle (fun _ => .works) t

/-! ## What a run leaves -/

namespace RuntimeTree

variable {t t' : RuntimeTree} {p q : List String}

/-- The entries that the application makes; the root may also be a link that leads nowhere, which
nothing ever follows. -/
def Expected : List String → FileKind → Prop
  | [], kind => kind = .directory ∨ kind = .other false
  | [name], kind => isManagedInstanceName name = true ∧ kind = .directory
  | [name, file], kind => isManagedInstanceName name = true ∧ file = configFile ∧ kind = .file
  | _ :: _ :: _ :: _, _ => False

/-- Nothing but such entries. -/
def Shaped (t : RuntimeTree) : Prop := ∀ p node, t.find p = some node → Expected p node.kind

/-- The steps that make nothing else. -/
def OwnStep : FileCall → Prop
  | .createDirectory p => Expected p .directory
  | .createNew p => Expected p .file
  | _ => True

/-- Creating an expected entry keeps the tree in shape. -/
theorem Shaped.create {kind : FileKind} (h : t.Shaped) (hp : Expected p kind)
    (hfree : t.Free p) : Shaped (t.create p kind hfree) := by
  intro q node hq
  rw [find_create] at hq
  split at hq
  · rename_i heq
    cases hq
    exact heq ▸ hp
  · exact h q node hq

/-- Removing an entry without children does too. -/
theorem Shaped.remove (h : t.Shaped) (hnames : t.names p = []) : Shaped (t.remove p hnames) := by
  intro q node hq
  rw [find_remove] at hq
  split at hq
  · contradiction
  · exact h q node hq

/-- Access rights do not count for the shape. -/
theorem Shaped.setPrivate (h : t.Shaped) (p : List String) : Shaped (t.setPrivate p) := by
  intro q node hq
  rw [find_setPrivate] at hq
  split at hq
  · obtain ⟨node', hnode', rfl⟩ := Option.map_eq_some_iff.mp hq
    exact h q node' hnode'
  · exact h q node hq

/-- A step that may not have taken effect. -/
theorem Shaped.unless (h : t.Shaped) (h' : t'.Shaped) (takesEffect : Bool) :
    Shaped (if takesEffect then t' else t) := by
  cases takesEffect with
  | true => exact h'
  | false => exact h

/-- **Step.**  The application's own steps keep the shape of the tree, however they end. -/
theorem Shaped.step (h : t.Shaped) {c : FileCall} (hc : OwnStep c) (x : StepOutcome) :
    Shaped (handle t c x).2 := by
  cases c with
  | createRoot =>
    rw [handle]
    split
    · rename_i hfree
      have hroot : Expected [] .directory := Or.inl rfl
      exact h.unless (h.create hroot hfree) _
    · exact h
  | createDirectory p =>
    rw [handle]
    split
    · rename_i hfree
      exact h.unless (h.create hc hfree) _
    · exact h
  | createNew p =>
    rw [handle]
    split
    · rename_i hfree
      exact h.unless (h.create hc hfree) _
    · exact h
  | setPrivate p => exact h.unless (h.setPrivate p) _
  | removeFile p =>
    rw [handle]
    split
    · rename_i hfile
      exact h.unless (h.remove hfile.2) _
    · exact h
  | removeDirectory p =>
    rw [handle]
    split
    · rename_i hdirectory
      exact h.unless (h.remove hdirectory.2) _
    · exact h
  | _ => exact h

end RuntimeTree

/-! ## The steps of the programs -/

namespace PrivateRuntime

open RuntimeTree Program

variable (r : PrivateRuntime)

theorem expected_instanceDir : Expected r.instanceDir .directory := ⟨r.name.property, rfl⟩

theorem expected_configPath : Expected r.configPath .file := ⟨r.name.property, rfl, rfl⟩

variable {allowed : FileCall → Prop}

/-- The calls of a single step. -/
theorem calls_step {c : FileCall} (h : allowed c) :
    (Program.perform (S := fileCalls) c).Calls allowed := ⟨h, fun _ => trivial⟩

/-- Removing a runtime takes own steps only: its configuration and its directory. -/
theorem calls_removeConfigAndDirectory : r.removeConfigAndDirectory.Calls OwnStep := by
  have hconfig : r.removeConfig.Calls OwnStep :=
    Calls.test (calls_step trivial) (Calls.test (calls_step trivial) (calls_step trivial) trivial)
      trivial
  exact Calls.test hconfig (Calls.test (calls_step trivial)
    (Calls.test (calls_step trivial) trivial trivial) trivial) trivial

/-- So does setting access rights. -/
theorem calls_secureAndVerify (path : List String) :
    (FilePort.secureAndVerify path).Calls OwnStep :=
  Calls.test (calls_step trivial) (calls_step trivial) trivial

/-- So does the clean-up after a failed preparation. -/
theorem calls_cleanupAfterPrepareFailure : r.cleanupAfterPrepareFailure.Calls OwnStep :=
  r.calls_removeConfigAndDirectory.bind fun result => by
    cases result with
    | ok => trivial
    | error => trivial

theorem calls_removeConfigAfterFailedWrite : r.removeConfigAfterFailedWrite.Calls OwnStep :=
  r.calls_removeConfigAndDirectory.bind fun result => by
    cases result with
    | ok => trivial
    | error => trivial

theorem calls_prepareRoot : prepareRoot.Calls OwnStep := by
  have hexists : (FilePort.pathExists []).Calls OwnStep := calls_step trivial
  have hroot : ensureRoot.Calls OwnStep := hexists.bind fun found => by
    cases found with
    | true => trivial
    | false => exact calls_step trivial
  exact Calls.test hroot (Calls.test (calls_step trivial) (Calls.test (calls_step trivial)
    (calls_secureAndVerify []) trivial) trivial) trivial

/-- Each attempt at a directory takes a fresh name. -/
theorem calls_createInstanceDirectory (attempts : ℕ) :
    (createInstanceDirectory attempts).Calls OwnStep := by
  induction attempts with
  | zero => trivial
  | succ attempts ih =>
    have hid : nextInstanceId.Calls OwnStep := ⟨trivial, fun _ => ⟨trivial, fun _ => trivial⟩⟩
    refine hid.bind fun name => (calls_step (expected_instanceDir ⟨name⟩)).bind fun result => ?_
    cases result with
    | created => trivial
    | alreadyExists => exact ih
    | failed => trivial

theorem calls_create : create.Calls OwnStep := by
  refine Calls.test calls_prepareRoot ((calls_createInstanceDirectory 32).bind fun made => ?_)
    trivial
  cases made with
  | none => trivial
  | some r =>
    have hfail := r.calls_cleanupAfterPrepareFailure
    exact Calls.test (calls_step trivial) (Calls.test (calls_secureAndVerify _)
      (Calls.test (calls_step r.expected_configPath) (Calls.test (calls_step trivial)
        (Calls.test (calls_secureAndVerify _) trivial hfail) hfail) hfail) hfail) hfail

/-- Writing the configuration takes own steps only. -/
theorem calls_writeCheckedConfig (config : List UInt8) :
    (r.writeCheckedConfig config).Calls OwnStep := by
  have hfail := r.calls_removeConfigAfterFailedWrite
  have htruncate : (FilePort.truncate r.configPath).Calls OwnStep := calls_step trivial
  have hwrite : (FilePort.writeAll r.configPath config).Calls OwnStep := calls_step trivial
  have hsync : (FilePort.syncAll r.configPath).Calls OwnStep := calls_step trivial
  have hverify : ∀ path, (FilePort.verifyPrivate path).Calls OwnStep := fun _ => calls_step trivial
  refine Calls.test (calls_step trivial) (Calls.test (calls_step trivial) (Calls.test
    (calls_step trivial) (Calls.test (hverify _) (Calls.test (hverify _) ?_ trivial) trivial)
    trivial) trivial) trivial
  exact Calls.test htruncate (Calls.test hwrite (Calls.test hsync trivial hfail) hfail) hfail

/-- The check of an old instance only looks at it. -/
theorem calls_checkEntries (entries : List (Option String)) :
    ∀ count, (r.checkEntries count entries).Calls OwnStep := by
  induction entries with
  | nil => exact fun _ => trivial
  | cons entry rest ih =>
    intro count
    rw [checkEntries]
    split
    · trivial
    · exact Calls.test (calls_step trivial) (Calls.test (calls_step trivial) (ih _) trivial) trivial

/-- Cleaning up an old instance takes own steps only. -/
theorem calls_cleanupInstance : r.cleanupInstance.Calls OwnStep := by
  refine Calls.test (calls_step trivial) (Calls.test (calls_step trivial) ?_ trivial) trivial
  have hread : (FilePort.readDirectory r.instanceDir).Calls OwnStep := calls_step trivial
  refine hread.bind fun entries => ?_
  cases entries with
  | none => trivial
  | some entries =>
    exact Calls.test (r.calls_checkEntries entries 0) r.calls_removeConfigAndDirectory trivial

/-- So does cleaning up a list of them. -/
theorem calls_cleanupEntries (entries : List (Option String)) :
    (cleanupEntries entries).Calls OwnStep := by
  induction entries with
  | nil => trivial
  | cons entry rest ih =>
    cases entry with
    | none => trivial
    | some name =>
      rw [cleanupEntries]
      split
      · rename_i hname
        have hinstance := calls_cleanupInstance ⟨⟨name, hname⟩⟩
        refine hinstance.bind fun result => ?_
        cases result with
        | error => trivial
        | ok => exact ih
      · trivial

theorem calls_cleanupOrphanedInstances : cleanupOrphanedInstances.Calls OwnStep := by
  refine Calls.test (calls_step trivial) (Calls.test (calls_step trivial) (Calls.test
    (calls_step trivial) (Calls.test (calls_step trivial) ?_ trivial) trivial) trivial) trivial
  have hread : (FilePort.readDirectory []).Calls OwnStep := calls_step trivial
  refine hread.bind fun entries => ?_
  cases entries with
  | none => trivial
  | some entries => exact calls_cleanupEntries entries

end PrivateRuntime

namespace RuntimeOperation

open RuntimeTree Program

/-- Every operation of the port takes own steps only. -/
theorem calls_program (op : RuntimeOperation) : op.program.Calls OwnStep := by
  cases op with
  | create => exact PrivateRuntime.calls_create.bind fun _ => trivial
  | write r config => exact (r.calls_writeCheckedConfig config).bind fun _ => trivial
  | cleanup r => exact r.calls_removeConfigAndDirectory.bind fun _ => trivial
  | cleanupOrphaned => exact PrivateRuntime.calls_cleanupOrphanedInstances.bind fun _ => trivial

/-- So does every sequence of operations. -/
theorem calls_session (ops : List RuntimeOperation) : (session ops).Calls OwnStep := by
  induction ops with
  | nil => trivial
  | cons op ops ih => exact op.calls_program.bind fun _ => ih

/-- **Run.**  Wherever a run is cut, the tree holds nothing but entries that the application
makes. -/
theorem shaped_cut {t : RuntimeTree} (h : t.Shaped) (ops : List RuntimeOperation)
    (tape : Tape StepOutcome) (n : ℕ) :
    Shaped ((session ops).cut RuntimeTree.handle n tape t) := by
  have keeps : ∀ (w : RuntimeTree) c (x : StepOutcome), w.Shaped → OwnStep c →
      Shaped (RuntimeTree.handle w c x).2 := fun _ _ x hw hc => hw.step hc x
  exact (Meets.of_calls keeps (calls_session ops) h).cut n tape

end RuntimeOperation

/-! ## The next start -/

namespace RuntimeTree

open Program FilePort

variable {t t' : RuntimeTree} {p : List String} {α : Type}

/-- A program while every step works. -/
def steady (p : FileProgram α) (t : RuntimeTree) : α × RuntimeTree :=
  p.run handle (fun _ => .works) t

@[simp] theorem steady_done (a : α) : steady (.done a) t = (a, t) := rfl

/-- A tree that nobody else changes is passed from one step to the next. -/
theorem steady_bind {β : Type} {p : FileProgram α} {f : α → FileProgram β} :
    steady (p >>= f) t = steady (f (steady p t).1) (steady p t).2 := run_bind_const _ _

@[simp] theorem steady_pathExists : steady (pathExists p) t = (t.existsAt p, t) := by
  have h : steady (pathExists p) t = (t.existsAt p && true, t) := rfl
  rw [h, Bool.and_true]

@[simp] theorem steady_isDirectory :
    steady (isDirectory p) t = (decide (t.kindAt p = some .directory), t) := by
  have h : steady (isDirectory p) t = (decide (t.kindAt p = some .directory) && true, t) := rfl
  rw [h, Bool.and_true]

@[simp] theorem steady_isFile : steady (isFile p) t = (decide (t.kindAt p = some .file), t) := by
  have h : steady (isFile p) t = (decide (t.kindAt p = some .file) && true, t) := rfl
  rw [h, Bool.and_true]

@[simp] theorem steady_queryUser : steady queryUser t = (true, t) := rfl

@[simp] theorem steady_verifyPrivate : steady (verifyPrivate p) t = (t.privateAt p, t) := by
  have h : steady (verifyPrivate p) t = (t.privateAt p && true, t) := rfl
  rw [h, Bool.and_true]

theorem steady_readDirectory (h : t.kindAt p = some .directory) :
    steady (readDirectory p) t = (some ((t.names p).map some), t) := by
  have hread : steady (readDirectory p) t =
      (if t.kindAt p = some .directory && true then some ((t.names p).map some) else none, t) := rfl
  rw [hread, if_pos (by simp [h])]

/-- `t'` is `t` without the entry at `p`. -/
def Without (t : RuntimeTree) (p : List String) (t' : RuntimeTree) : Prop :=
  ∀ q, t'.find q = if q = p then none else t.find q

/-- A file is removed, and nothing else changes. -/
theorem steady_removeFile (h : t.kindAt p = some .file) :
    ∃ t', steady (removeFile p) t = (true, t') ∧ t.Without p t' := by
  have hnames : t.names p = [] := names_of_not_directory (by simp [h])
  have hremove : steady (removeFile p) t =
      if h : t.kindAt p = some .file ∧ t.names p = [] then (true, t.remove p h.2)
      else (false, t) := rfl
  rw [dif_pos ⟨h, hnames⟩] at hremove
  exact ⟨_, hremove, fun q => find_remove⟩

/-- So is an empty directory. -/
theorem steady_removeDirectory (h : t.kindAt p = some .directory) (hnames : t.names p = []) :
    ∃ t', steady (removeDirectory p) t = (true, t') ∧ t.Without p t' := by
  have hremove : steady (removeDirectory p) t =
      if h : t.kindAt p = some .directory ∧ t.names p = [] then (true, t.remove p h.2)
      else (false, t) := rfl
  rw [dif_pos ⟨h, hnames⟩] at hremove
  exact ⟨_, hremove, fun q => find_remove⟩

/-- An instance that can be proved to belong to the application. -/
structure Proven (t : RuntimeTree) (r : PrivateRuntime) : Prop where
  directory : t.find r.instanceDir = some ⟨.directory, true⟩
  files : ∀ file node, t.find [r.name.val, file] = some node →
    file = configFile ∧ node = ⟨.file, true⟩

/-- `t'` is `t` without an instance. -/
def WithoutInstance (t : RuntimeTree) (r : PrivateRuntime) (t' : RuntimeTree) : Prop :=
  ∀ q, t'.find q = if q = r.instanceDir ∨ q = r.configPath then none else t.find q

end RuntimeTree

namespace PrivateRuntime

open RuntimeTree

variable {t t' : RuntimeTree} {r : PrivateRuntime}

/-- The names in an instance directory are those of its files. -/
theorem mem_names_instanceDir {file : String} :
    file ∈ t.names r.instanceDir ↔ (t.find [r.name.val, file]).isSome = true := mem_names

/-- `remove_config_and_directory` removes an instance that is proven. -/
theorem steady_removeConfigAndDirectory (h : t.Proven r) :
    ∃ t', steady r.removeConfigAndDirectory t = (.ok (), t') ∧ t.WithoutInstance r t' := by
  have hdirectory : t.kindAt r.instanceDir = some .directory := by simp [kindAt, h.directory]
  have hne : r.instanceDir ≠ r.configPath := by simp [instanceDir, configPath]
  cases hconfig : t.find r.configPath with
  | none =>
    have hnames : t.names r.instanceDir = [] := by
      refine List.eq_nil_iff_forall_not_mem.mpr fun file hfile => ?_
      obtain ⟨node, hnode⟩ := Option.isSome_iff_exists.mp (mem_names_instanceDir.mp hfile)
      obtain ⟨rfl, -⟩ := h.files file node hnode
      exact Option.some_ne_none _ (hnode.symm.trans hconfig)
    obtain ⟨t', hrun, hwithout⟩ := steady_removeDirectory hdirectory hnames
    refine ⟨t', ?_, fun q => ?_⟩
    · have hexists : t.existsAt r.configPath = false := by simp [existsAt, kindAt, hconfig]
      simp [removeConfigAndDirectory, removeConfig, steady_bind, hexists, hdirectory, hrun]
    · rw [hwithout q]
      by_cases hq : q = r.configPath
      · simp [hq, hconfig]
      · simp [hq]
  | some node =>
    obtain ⟨-, rfl⟩ := h.files configFile node hconfig
    have hfile : t.kindAt r.configPath = some .file := by simp [kindAt, hconfig]
    obtain ⟨t₁, hrun₁, hwithout₁⟩ := steady_removeFile hfile
    have hdirectory₁ : t₁.kindAt r.instanceDir = some .directory := by
      rw [kindAt, hwithout₁, if_neg hne, ← kindAt, hdirectory]
    have hnames : t₁.names r.instanceDir = [] := by
      refine List.eq_nil_iff_forall_not_mem.mpr fun file hfile => ?_
      obtain ⟨node, hnode⟩ := Option.isSome_iff_exists.mp (mem_names_instanceDir.mp hfile)
      rw [hwithout₁] at hnode
      split at hnode
      · contradiction
      · rename_i hother
        obtain ⟨rfl, -⟩ := h.files file node hnode
        exact hother rfl
    obtain ⟨t', hrun, hwithout⟩ := steady_removeDirectory hdirectory₁ hnames
    refine ⟨t', ?_, fun q => ?_⟩
    · have hexists : t.existsAt r.configPath = true := by simp [existsAt, hfile]
      simp [removeConfigAndDirectory, removeConfig, steady_bind, hexists, hfile, hrun₁,
        hdirectory₁, hrun]
    · rw [hwithout q, hwithout₁ q]
      by_cases hq : q = r.configPath
      · simp [hq]
      · simp [hq]

/-- What the clean-up looks at. -/
theorem proven_iff :
    t.Proven r ↔ t.kindAt r.instanceDir = some .directory ∧ t.privateAt r.instanceDir = true ∧
      (t.names r.instanceDir = [] ∨ t.names r.instanceDir = [configFile] ∧
        t.kindAt r.configPath = some .file ∧ t.privateAt r.configPath = true) := by
  constructor
  · intro h
    refine ⟨by simp [kindAt, h.directory], by simp [privateAt, h.directory], ?_⟩
    have hfiles : ∀ file ∈ t.names r.instanceDir,
        file = configFile ∧ t.find r.configPath = some ⟨.file, true⟩ := by
      intro file hfile
      obtain ⟨node, hnode⟩ := Option.isSome_iff_exists.mp (mem_names_instanceDir.mp hfile)
      obtain ⟨rfl, rfl⟩ := h.files file node hnode
      exact ⟨rfl, hnode⟩
    have hnodup : (t.names r.instanceDir).Nodup := nodup_names
    cases hnames : t.names r.instanceDir with
    | nil => exact .inl rfl
    | cons first rest =>
      rw [hnames] at hfiles hnodup
      obtain ⟨rfl, hconfig⟩ := hfiles first List.mem_cons_self
      have hrest : rest = [] := List.eq_nil_iff_forall_not_mem.mpr fun file hfile => by
        obtain ⟨rfl, -⟩ := hfiles file (List.mem_cons_of_mem _ hfile)
        exact (List.nodup_cons.mp hnodup).1 hfile
      exact .inr ⟨by rw [hrest], by simp [kindAt, hconfig], by simp [privateAt, hconfig]⟩
  · rintro ⟨hkind, hprivate, hnames⟩
    obtain ⟨⟨kind, isPrivate⟩, hnode, hk⟩ := kindAt_eq_some.mp hkind
    refine ⟨?_, fun file node hfile => ?_⟩
    · rw [privateAt, hnode] at hprivate
      rw [hnode, show kind = .directory from hk, show isPrivate = true from hprivate]
    · have hmem : file ∈ t.names r.instanceDir :=
        mem_names_instanceDir.mpr (Option.isSome_of_eq_some hfile)
      rcases hnames with hnames | ⟨hnames, hfilekind, hfileprivate⟩
      · simp [hnames] at hmem
      · rw [hnames, List.mem_singleton] at hmem
        subst hmem
        have hconfig : t.find r.configPath = some node := hfile
        obtain ⟨kind, isPrivate⟩ := node
        simp only [kindAt, hconfig, Option.map_some, Option.some.injEq] at hfilekind
        simp only [privateAt, hconfig, Option.any_some] at hfileprivate
        exact ⟨rfl, by rw [hfilekind, hfileprivate]⟩

/-- The check accepts an empty directory and one with a private configuration alone. -/
theorem steady_checkEntries (files : List String) :
    steady (r.checkEntries 0 (files.map some)) t =
      (decide (files = [] ∨ files = [configFile] ∧ t.kindAt r.configPath = some .file ∧
        t.privateAt r.configPath = true), t) := by
  cases files with
  | nil => simp [checkEntries]
  | cons file rest =>
    rw [List.map_cons, checkEntries]
    by_cases hfile : file = configFile
    · rw [if_neg (by simp [hfile]), steady_bind, steady_isFile]
      cases hkind : decide (t.kindAt r.configPath = some .file) with
      | false => simp [of_decide_eq_false hkind]
      | true =>
        dsimp only
        rw [steady_bind, steady_verifyPrivate]
        cases hprivate : t.privateAt r.configPath with
        | false => simp
        | true =>
          cases rest with
          | nil => simp [checkEntries, hfile, of_decide_eq_true hkind]
          | cons second rest => simp [checkEntries]
    · rw [if_pos (by simp [hfile])]
      simp [hfile]

/-- An instance is cleaned up if and only if it is proven. -/
theorem steady_cleanupInstance :
    (t.Proven r → ∃ t', steady r.cleanupInstance t = (.ok (), t') ∧ t.WithoutInstance r t') ∧
      ((steady r.cleanupInstance t).1 = .ok () → t.Proven r) := by
  rw [cleanupInstance, steady_bind, steady_isDirectory]
  cases hkind : decide (t.kindAt r.instanceDir = some .directory) with
  | false => simp [proven_iff, of_decide_eq_false hkind]
  | true =>
    have hkind := of_decide_eq_true hkind
    dsimp only
    rw [steady_bind, steady_verifyPrivate]
    cases hprivate : t.privateAt r.instanceDir with
    | false => simp [proven_iff, hprivate]
    | true =>
      dsimp only
      rw [steady_bind, steady_readDirectory hkind]
      dsimp only
      rw [steady_bind, steady_checkEntries]
      by_cases hfiles : t.names r.instanceDir = [] ∨ t.names r.instanceDir = [configFile] ∧
          t.kindAt r.configPath = some .file ∧ t.privateAt r.configPath = true
      · rw [decide_eq_true hfiles]
        have hproven : t.Proven r := proven_iff.mpr ⟨hkind, hprivate, hfiles⟩
        exact ⟨fun _ => steady_removeConfigAndDirectory hproven, fun _ => hproven⟩
      · rw [decide_eq_false hfiles]
        exact ⟨fun hproven => absurd (proven_iff.mp hproven).2.2 hfiles, by simp⟩

/-- Another instance stays what it was. -/
theorem proven_of_without {r' : PrivateRuntime} (h : t.WithoutInstance r t')
    (hne : r'.name.val ≠ r.name.val) : t'.Proven r' ↔ t.Proven r' := by
  have hdirectory : t'.find r'.instanceDir = t.find r'.instanceDir := by
    rw [h, if_neg (by simp [instanceDir, configPath, hne])]
  have hfile : ∀ file, t'.find [r'.name.val, file] = t.find [r'.name.val, file] := fun file => by
    rw [h, if_neg (by simp [instanceDir, configPath, hne])]
  constructor
  · intro hproven
    exact ⟨hdirectory ▸ hproven.directory, fun file node hnode =>
      hproven.files file node ((hfile file).trans hnode)⟩
  · intro hproven
    exact ⟨hdirectory.trans hproven.directory, fun file node hnode =>
      hproven.files file node ((hfile file).symm.trans hnode)⟩

/-- A name of the runtime root that the clean-up accepts. -/
def ProvenName (t : RuntimeTree) (name : String) : Prop :=
  ∃ h : isManagedInstanceName name = true, t.Proven ⟨⟨name, h⟩⟩

/-- The entries of the runtime root are cleaned up if and only if each of them is proven. -/
theorem steady_cleanupEntries {names : List String} (hnodup : names.Nodup) :
    ((∀ name ∈ names, ProvenName t name) →
      ∃ t', steady (cleanupEntries (names.map some)) t = (.ok (), t') ∧
        (∀ name ∈ names, t'.find [name] = none) ∧ ∀ q, t'.find q = none ∨ t'.find q = t.find q) ∧
    ((steady (cleanupEntries (names.map some)) t).1 = .ok () →
      ∀ name ∈ names, ProvenName t name) := by
  induction names generalizing t with
  | nil => exact ⟨fun _ => ⟨t, rfl, by simp, fun _ => .inr rfl⟩, by simp⟩
  | cons name rest ih =>
    obtain ⟨hname, hnodup⟩ := List.nodup_cons.mp hnodup
    rw [List.map_cons, cleanupEntries]
    by_cases hmanaged : isManagedInstanceName name = true
    · rw [dif_pos hmanaged]
      obtain ⟨hclean, hproven⟩ := steady_cleanupInstance (t := t) (r := ⟨⟨name, hmanaged⟩⟩)
      have hothers : ∀ t₁, t.WithoutInstance ⟨⟨name, hmanaged⟩⟩ t₁ →
          ∀ other ∈ rest, ProvenName t₁ other ↔ ProvenName t other :=
        fun t₁ hwithout other hother => exists_congr fun _ =>
          proven_of_without hwithout fun (heq : other = name) => hname (heq ▸ hother)
      constructor
      · intro hall
        obtain ⟨_, hhead⟩ := hall name List.mem_cons_self
        obtain ⟨t₁, hrun, hwithout⟩ := hclean hhead
        have hrest : ∀ other ∈ rest, ProvenName t₁ other := fun other hother =>
          (hothers t₁ hwithout other hother).mpr (hall other (List.mem_cons_of_mem _ hother))
        obtain ⟨t', hrun', hgone, hshrinks⟩ := (ih hnodup).1 hrest
        refine ⟨t', ?_, fun other hother => ?_, fun q => ?_⟩
        · rw [steady_bind, hrun]
          exact hrun'
        · rcases List.mem_cons.mp hother with rfl | hother
          · have hnone : t₁.find [other] = none := by
              rw [hwithout, if_pos (.inl rfl)]
            rcases hshrinks [other] with h | h
            · exact h
            · exact h.trans hnone
          · exact hgone other hother
        · rcases hshrinks q with h | h
          · exact .inl h
          · rw [hwithout] at h
            split at h
            · exact .inl h
            · exact .inr h
      · intro hok
        rw [steady_bind] at hok
        cases hrun : steady (cleanupInstance ⟨⟨name, hmanaged⟩⟩) t with
        | mk result t₁ =>
          rw [hrun] at hok
          cases result with
          | error e => simp at hok
          | ok =>
            have hhead := hproven (by rw [hrun])
            obtain ⟨t₂, hrun₂, hwithout⟩ := hclean hhead
            obtain rfl : t₂ = t₁ := (congrArg Prod.snd (hrun₂.symm.trans hrun))
            have hrest := (ih hnodup).2 hok
            intro other hother
            rcases List.mem_cons.mp hother with rfl | hother
            · exact ⟨hmanaged, hhead⟩
            · exact (hothers t₂ hwithout other hother).mp (hrest other hother)
    · rw [dif_neg hmanaged]
      constructor
      · intro hall
        exact absurd (hall name List.mem_cons_self).1 hmanaged
      · simp

end PrivateRuntime

/-! ## Recovery -/

namespace RuntimeTree

open PrivateRuntime

variable {t : RuntimeTree}

/-- Every directory and every file has its access list set. -/
def AllPrivate (t : RuntimeTree) : Prop :=
  ∀ p node, t.find p = some node → node.kind ≠ .other false → node.isPrivate = true

/-- Without a directory at the root there is nothing below it. -/
theorem eq_root_of_find {p : List String} {node : FileNode} (h : t.find p = some node)
    (hroot : t.kindAt [] ≠ some .directory) : p = [] := by
  by_contra hp
  exact hroot (kindAt_of_below (p := []) h hp)

/-- The names of the runtime root are all proven in a tree of the application's own private
entries, and only there. -/
theorem provenNames_iff (hroot : t.find [] = some ⟨.directory, true⟩) :
    (∀ name ∈ t.names [], ProvenName t name) ↔ t.Shaped ∧ t.AllPrivate := by
  constructor
  · intro h
    have hname : ∀ name node, t.find [name] = some node → ProvenName t name :=
      fun name node hnode => h name (mem_names.mpr (Option.isSome_of_eq_some hnode))
    have hentry : ∀ p node, t.find p = some node →
        Expected p node.kind ∧ node.isPrivate = true := by
      intro p node hnode
      match p with
      | [] =>
        rw [hroot] at hnode
        cases hnode
        exact ⟨Or.inl rfl, rfl⟩
      | [name] =>
        obtain ⟨hmanaged, hproven⟩ := hname name node hnode
        have hdirectory : t.find [name] = some ⟨.directory, true⟩ := hproven.directory
        rw [hdirectory] at hnode
        cases hnode
        exact ⟨⟨hmanaged, rfl⟩, rfl⟩
      | [name, file] =>
        obtain ⟨parent, hparent, -⟩ :=
          kindAt_eq_some.mp (kindAt_of_below (p := [name]) hnode (by simp))
        obtain ⟨hmanaged, hproven⟩ := hname name parent hparent
        obtain ⟨rfl, rfl⟩ := hproven.files file node hnode
        exact ⟨⟨hmanaged, rfl, rfl⟩, rfl⟩
      | name :: file :: third :: rest =>
        obtain ⟨parent, hparent, -⟩ :=
          kindAt_eq_some.mp (kindAt_of_below (p := [name]) hnode (by simp))
        obtain ⟨hmanaged, hproven⟩ := hname name parent hparent
        obtain ⟨inner, hinner, hkind⟩ :=
          kindAt_eq_some.mp (kindAt_of_below (p := [name, file]) hnode (by simp))
        obtain ⟨rfl, rfl⟩ := hproven.files file inner hinner
        simp at hkind
    exact ⟨fun p node hnode => (hentry p node hnode).1, fun p node hnode _ => (hentry p node hnode).2⟩
  · rintro ⟨hshaped, hprivate⟩ name hname
    obtain ⟨⟨kind, isPrivate⟩, hnode⟩ := Option.isSome_iff_exists.mp (mem_names.mp hname)
    obtain ⟨hmanaged, rfl⟩ : isManagedInstanceName name = true ∧ kind = .directory :=
      hshaped [name] _ hnode
    obtain rfl : isPrivate = true := hprivate [name] _ hnode (by simp)
    refine ⟨hmanaged, hnode, fun file ⟨kind, isPrivate⟩ hfile => ?_⟩
    obtain ⟨-, rfl, rfl⟩ : isManagedInstanceName name = true ∧ file = configFile ∧ kind = .file :=
      hshaped [name, file] _ hfile
    obtain rfl : isPrivate = true := hprivate [name, configFile] _ hfile (by simp)
    exact ⟨rfl, rfl⟩

/-- **Recovery.**  The next start cleans the tree up if and only if it holds nothing but private
entries that the application makes, and then no instance is left. -/
theorem recover_spec :
    (t.recover.1 = .ok () ↔ t.Shaped ∧ t.AllPrivate) ∧
      (t.recover.1 = .ok () → t.recover.2.names [] = []) := by
  have hrecover : t.recover = steady cleanupOrphanedInstances t := rfl
  rw [hrecover, cleanupOrphanedInstances, steady_bind, steady_pathExists]
  cases hexists : t.existsAt [] with
  | false =>
    have hkind : t.kindAt [] = none ∨ t.kindAt [] = some (.other false) := by
      rw [existsAt] at hexists
      split at hexists
      · exact .inl ‹_›
      · exact .inr ‹_›
      · contradiction
    have hroot : t.kindAt [] ≠ some .directory := by rcases hkind with h | h <;> simp [h]
    have hentry : ∀ p node, t.find p = some node → p = [] ∧ node.kind = .other false := by
      intro p node hnode
      obtain rfl := eq_root_of_find hnode hroot
      simpa [kindAt, hnode] using hkind
    refine ⟨⟨fun _ => ⟨fun p node hnode => ?_, fun p node hnode hkind => ?_⟩, fun _ => rfl⟩,
      fun _ => names_of_not_directory hroot⟩
    · obtain ⟨rfl, hother⟩ := hentry p node hnode
      exact Or.inr hother
    · exact absurd (hentry p node hnode).2 hkind
  | true =>
    dsimp only
    rw [steady_bind, steady_isDirectory]
    obtain ⟨node, hnode⟩ : ∃ node, t.find [] = some node := by
      cases hfind : t.find [] with
      | none => simp [existsAt, kindAt, hfind] at hexists
      | some node => exact ⟨node, rfl⟩
    obtain ⟨kind, isPrivate⟩ := node
    have hkindAt : t.kindAt [] = some kind := by simp [kindAt, hnode]
    by_cases hkind : kind = .directory
    · subst hkind
      rw [decide_eq_true hkindAt]
      dsimp only
      rw [steady_bind, steady_queryUser]
      dsimp only
      rw [steady_bind, steady_verifyPrivate]
      cases isPrivate with
      | false =>
        have hprivate : t.privateAt [] = false := by simp [privateAt, hnode]
        rw [hprivate]
        refine ⟨⟨by simp, fun h => ?_⟩, by simp⟩
        simpa using h.2 [] _ hnode (by simp)
      | true =>
        have hprivate : t.privateAt [] = true := by simp [privateAt, hnode]
        rw [hprivate]
        dsimp only
        rw [steady_bind, steady_readDirectory hkindAt, ← provenNames_iff hnode]
        obtain ⟨hclean, hproven⟩ := steady_cleanupEntries (t := t) (nodup_names (p := []))
        refine ⟨⟨hproven, fun h => ?_⟩, fun h => ?_⟩
        · obtain ⟨t', hrun, -⟩ := hclean h
          exact congrArg Prod.fst hrun
        · obtain ⟨t', hrun, hgone, hshrinks⟩ := hclean (hproven h)
          have hworld : (steady (cleanupEntries ((t.names []).map some)) t).2 = t' :=
            congrArg Prod.snd hrun
          refine (congrArg (fun w : RuntimeTree => w.names []) hworld).trans ?_
          refine List.eq_nil_iff_forall_not_mem.mpr fun name hname => ?_
          obtain ⟨node, hleft⟩ := Option.isSome_iff_exists.mp (mem_names.mp hname)
          rcases hshrinks [name] with hnone | hsame
          · exact Option.some_ne_none _ (hleft.symm.trans hnone)
          · have hwas : name ∈ t.names [] :=
              mem_names.mpr (Option.isSome_of_eq_some (hsame.symm.trans hleft))
            exact Option.some_ne_none _ (hleft.symm.trans (hgone name hwas))
    · rw [decide_eq_false (by simpa [hkindAt] using hkind)]
      refine ⟨⟨by simp, fun h => ?_⟩, by simp⟩
      rcases h.1 [] _ hnode with hdirectory | hother
      · exact absurd hdirectory hkind
      · have hother : kind = .other false := hother
        simp [existsAt, hkindAt, hother] at hexists

end RuntimeTree

open RuntimeTree

/-- **A crash is recovered from unless it leaves an entry without its access list.**  From a tree
that a start accepts, through any operations with any failures, cut after any number of steps: the
next start succeeds and leaves no instance directory if and only if every directory and every file
in the tree at the cut has its access list set. -/
theorem crash_recovered_iff (start : RuntimeTree) (ops : List RuntimeOperation)
    (tape : Tape StepOutcome) (n : ℕ) (haccepted : start.recover.1 = .ok ()) :
    let cut := (RuntimeOperation.session ops).cut RuntimeTree.handle n tape start
    (RuntimeTree.recover cut).1 = .ok () ∧ (RuntimeTree.recover cut).2.names [] = [] ↔
      AllPrivate cut := by
  intro cut
  have hshaped : Shaped cut :=
    RuntimeOperation.shaped_cut (recover_spec.1.mp haccepted).1 ops tape n
  constructor
  · rintro ⟨hok, -⟩
    exact (recover_spec.1.mp hok).2
  · intro hprivate
    have hok : (RuntimeTree.recover cut).1 = .ok () := recover_spec.1.mpr ⟨hshaped, hprivate⟩
    exact ⟨hok, recover_spec.2 hok⟩

/-- A first run that has created an instance and is cut before it cleans up. -/
theorem crash_recovered_iff_first :
    let cut := (RuntimeOperation.session [.create]).cut RuntimeTree.handle 20 (fun _ => .works)
      FileTree.empty
    (RuntimeTree.recover cut).1 = .ok () ∧ (RuntimeTree.recover cut).2.names [] = [] ↔
      AllPrivate cut :=
  crash_recovered_iff FileTree.empty [.create] (fun _ => .works) 20 rfl

/-- **A crash locks the core out.**  The first run of the application, whose every step works, is
cut right after it has created the runtime root, or right after the instance directory, or right
after the configuration file: no later start gets past the clean-up. -/
theorem crash_locks_out :
    (RuntimeTree.recover FileTree.empty).1 = .ok () ∧
      ∀ n ∈ [2, 9, 13], (RuntimeTree.recover ((RuntimeOperation.session [.create]).cut
        RuntimeTree.handle n (fun _ => .works) FileTree.empty)).1 = .error .cleanup := by
  decide +kernel

end Veyra
