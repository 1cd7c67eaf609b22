import Mathlib.Data.List.Basic

/-!
# Veyra.Lib.Effect

Programs that act on a world one call at a time.

A `Program` is what the code does between its calls; a `Handler` is what a call
does to the world, given what the outside chooses for it (a failure, a change
that somebody else makes).  A `Tape` fixes all these choices, so a statement
about every tape is one about every outcome of every call.

* `Program.run` — the program to its end;
* `Program.cut` — the program stopped after some of its calls, as by a crash;
* `Meets` — what holds at every point of a program and at its end, by the
  structure of the program; `Meets.run` and `Meets.cut` read it back;
* `Program.Calls` — which calls a program makes at all; what these calls keep,
  the program keeps (`Meets.of_calls`);
* `Program.left` — a program over the first of two ports.
-/

namespace Effect

/-- The calls of a world, and what each of them answers. -/
structure Signature where
  Call : Type
  Answer : Call → Type

/-- A program over a signature. -/
inductive Program (S : Signature) (α : Type)
  | done (result : α)
  | call (c : S.Call) (next : S.Answer c → Program S α)

/-- What a call does to the world, for one choice of the outside. -/
abbrev Handler (S : Signature) (W X : Type) := W → (c : S.Call) → X → S.Answer c × W

/-- What the outside chooses, call after call. -/
abbrev Tape (X : Type) := ℕ → X

variable {S : Signature} {W X α β : Type}

/-- The choices after the first `k`. -/
def Tape.drop (tape : Tape X) (k : ℕ) : Tape X := fun n => tape (k + n)

@[simp] theorem Tape.drop_apply (tape : Tape X) (k n : ℕ) : tape.drop k n = tape (k + n) := rfl

@[simp] theorem Tape.drop_drop (tape : Tape X) (k n : ℕ) :
    (tape.drop k).drop n = tape.drop (k + n) := by
  funext i
  simp [Nat.add_assoc]

namespace Program

/-- One program after another. -/
def bind (p : Program S α) (f : α → Program S β) : Program S β :=
  match p with
  | .done a => f a
  | .call c next => .call c fun answer => (next answer).bind f

instance : Monad (Program S) where
  pure := .done
  bind := bind

theorem id_map_eq (p : Program S α) : id <$> p = p := by
  induction p with
  | done a => rfl
  | call c next ih => exact congrArg (Program.call c) (funext ih)

theorem bind_bind {γ : Type} (p : Program S α) (f : α → Program S β) (g : β → Program S γ) :
    p >>= f >>= g = p >>= fun a => f a >>= g := by
  induction p with
  | done a => rfl
  | call c next ih => exact congrArg (Program.call c) (funext ih)

instance : LawfulMonad (Program S) :=
  LawfulMonad.mk' (Program S) id_map_eq (fun _ _ => rfl) bind_bind

@[simp] theorem pure_eq (a : α) : (pure a : Program S α) = .done a := rfl

@[simp] theorem done_bind (a : α) (f : α → Program S β) : (Program.done a >>= f) = f a := rfl

@[simp] theorem call_bind (c : S.Call) (next : S.Answer c → Program S α) (f : α → Program S β) :
    (Program.call c next >>= f) = .call c fun answer => next answer >>= f := rfl

/-- A single call. -/
def perform (c : S.Call) : Program S (S.Answer c) := .call c .done

@[simp] theorem perform_bind (c : S.Call) (f : S.Answer c → Program S β) :
    (perform c >>= f) = .call c f := rfl

/-- The result of a program and the world that it leaves. -/
def run (handle : Handler S W X) : Program S α → Tape X → W → α × W
  | .done a, _, w => (a, w)
  | .call c next, tape, w =>
    run handle (next (handle w c (tape 0)).1) (tape.drop 1) (handle w c (tape 0)).2

/-- The world after at most `n` calls of a program. -/
def cut (handle : Handler S W X) : ℕ → Program S α → Tape X → W → W
  | 0, _, _, w => w
  | _ + 1, .done _, _, w => w
  | n + 1, .call c next, tape, w =>
    cut handle n (next (handle w c (tape 0)).1) (tape.drop 1) (handle w c (tape 0)).2

@[simp] theorem run_done (handle : Handler S W X) (a : α) (tape : Tape X) (w : W) :
    run handle (.done a) tape w = (a, w) := rfl

@[simp] theorem run_call (handle : Handler S W X) (c : S.Call) (next : S.Answer c → Program S α)
    (tape : Tape X) (w : W) :
    run handle (.call c next) tape w =
      run handle (next (handle w c (tape 0)).1) (tape.drop 1) (handle w c (tape 0)).2 := rfl

/-- What only looks at the result of a program leaves its world. -/
theorem run_bind_world {handle : Handler S W X} {p : Program S α} {f : α → Program S β}
    (h : ∀ a tape w, ((f a).run handle tape w).2 = w) (tape : Tape X) (w : W) :
    ((p >>= f).run handle tape w).2 = (p.run handle tape w).2 := by
  induction p generalizing tape w with
  | done a => exact h a tape w
  | call c next ih => exact ih _ _ _

/-- While the outside always chooses the same, a program and what follows it run one after the
other. -/
theorem run_bind_const {handle : Handler S W X} {p : Program S α} {f : α → Program S β} (x : X)
    (w : W) :
    (p >>= f).run handle (fun _ => x) w =
      (f (p.run handle (fun _ => x) w).1).run handle (fun _ => x)
        (p.run handle (fun _ => x) w).2 := by
  induction p generalizing w with
  | done a => rfl
  | call c next ih => exact ih _ _

end Program

/-! ## What a program meets -/

/-- From `w`, whatever the outside chooses: `inv` holds before the first call and after every
one, and `post` of the result and the world at the end. -/
def Meets (handle : Handler S W X) (inv : W → Prop) :
    Program S α → W → (α → W → Prop) → Prop
  | .done a, w, post => inv w ∧ post a w
  | .call c next, w, post =>
    inv w ∧ ∀ x, Meets handle inv (next (handle w c x).1) (handle w c x).2 post

/-- `Meets`, with nothing asked of the worlds in between. -/
abbrev Ends (handle : Handler S W X) (p : Program S α) (w : W) (post : α → W → Prop) : Prop :=
  Meets handle (fun _ => True) p w post

variable {handle : Handler S W X} {inv : W → Prop} {p : Program S α} {w : W}
  {post : α → W → Prop}

@[simp] theorem ends_done {a : α} : Ends handle (.done a : Program S α) w post ↔ post a w := by
  simp [Ends, Meets]

@[simp] theorem ends_call {c : S.Call} {next : S.Answer c → Program S α} :
    Ends handle (.call c next) w post ↔
      ∀ x, Ends handle (next (handle w c x).1) (handle w c x).2 post := by
  simp [Ends, Meets]

/-- What holds at every point holds where the program starts. -/
theorem Meets.start (h : Meets handle inv p w post) : inv w := by
  cases p with
  | done => exact h.1
  | call => exact h.1

/-- **The rule of sequence.** -/
theorem Meets.bind {f : α → Program S β} {last : β → W → Prop}
    (h : Meets handle inv p w fun a w => Meets handle inv (f a) w last) :
    Meets handle inv (p >>= f) w last := by
  induction p generalizing w with
  | done a => exact h.2
  | call c next ih => exact ⟨h.1, fun x => ih _ (h.2 x)⟩

/-- **The rule of consequence.** -/
theorem Meets.mono {post' : α → W → Prop} (h : Meets handle inv p w post)
    (weaker : ∀ a w, inv w → post a w → post' a w) : Meets handle inv p w post' := by
  induction p generalizing w with
  | done a => exact ⟨h.1, weaker _ _ h.1 h.2⟩
  | call c next ih => exact ⟨h.1, fun x => ih _ (h.2 x)⟩

/-- A program that meets its part, followed by one that goes on from there. -/
theorem Meets.andThen {f : α → Program S β} {last : β → W → Prop}
    (h : Meets handle inv p w post)
    (next : ∀ a w, inv w → post a w → Meets handle inv (f a) w last) :
    Meets handle inv (p >>= f) w last :=
  (h.mono next).bind

/-- **What a program meets holds of every run.** -/
theorem Meets.run (h : Meets handle inv p w post) (tape : Tape X) :
    post (p.run handle tape w).1 (p.run handle tape w).2 := by
  induction p generalizing w tape with
  | done a => exact h.2
  | call c next ih => exact ih _ (h.2 _) _

/-- What holds at every point holds wherever a run is cut. -/
theorem Meets.cut (h : Meets handle inv p w post) (n : ℕ) (tape : Tape X) :
    inv (p.cut handle n tape w) := by
  induction n generalizing α p w tape with
  | zero => exact h.start
  | succ n ih =>
    cases p with
    | done a => exact h.1
    | call c next => exact ih (h.2 _) _

/-! ## The calls of a program -/

/-- Every call that the program makes is one of these, whatever it is answered. -/
def Program.Calls (allowed : S.Call → Prop) : Program S α → Prop
  | .done _ => True
  | .call c next => allowed c ∧ ∀ answer, (next answer).Calls allowed

namespace Program

variable {allowed : S.Call → Prop}

@[simp] theorem calls_done {a : α} : (.done a : Program S α).Calls allowed ↔ True := Iff.rfl

@[simp] theorem calls_call {c : S.Call} {next : S.Answer c → Program S α} :
    (Program.call c next).Calls allowed ↔ allowed c ∧ ∀ answer, (next answer).Calls allowed :=
  Iff.rfl

/-- A program whose parts are allowed is allowed. -/
theorem Calls.bind {f : α → Program S β} (h : p.Calls allowed) (hf : ∀ a, (f a).Calls allowed) :
    (p >>= f).Calls allowed := by
  induction p with
  | done a => exact hf a
  | call c next ih => exact ⟨h.1, fun answer => ih answer (h.2 answer)⟩

/-- A test with its two outcomes. -/
theorem Calls.test {q : Program S Bool} {yes no : Program S α} (hq : q.Calls allowed)
    (hyes : yes.Calls allowed) (hno : no.Calls allowed) :
    (q >>= fun b => match b with | true => yes | _ => no).Calls allowed :=
  hq.bind fun b => by
    cases b with
    | true => exact hyes
    | false => exact hno

end Program

/-- What every call of a program keeps holds at every point of it. -/
theorem Meets.of_calls {allowed : S.Call → Prop}
    (keeps : ∀ w c x, inv w → allowed c → inv (handle w c x).2) (h : p.Calls allowed)
    (start : inv w) : Meets handle inv p w fun _ _ => True := by
  induction p generalizing w with
  | done a => exact ⟨start, trivial⟩
  | call c next ih => exact ⟨start, fun x => ih _ (h.2 _) (keeps w c x start h.1)⟩

/-! ## Programs that leave the world -/

/-- The program leaves its world, whatever it is answered and returns. -/
def Program.Idle (handle : Handler S W X) (p : Program S α) : Prop :=
  ∀ (w : W) (post : α → W → Prop), (∀ a, post a w) → Ends handle p w post

namespace Program

theorem idle_done (a : α) : (.done a : Program S α).Idle handle := fun _ _ h => ends_done.mpr (h a)

/-- Idle parts make an idle whole. -/
theorem Idle.bind {f : α → Program S β} (h : p.Idle handle) (hf : ∀ a, (f a).Idle handle) :
    (p >>= f).Idle handle :=
  fun w post hpost => (h w _ fun a => hf a w post hpost).bind

/-- What follows an idle program starts in the same world. -/
theorem Idle.ends {f : α → Program S β} {last : β → W → Prop} (h : p.Idle handle)
    (hf : ∀ a, Ends handle (f a) w last) : Ends handle (p >>= f) w last :=
  (h w _ hf).bind

/-- So does a test between idle branches. -/
theorem Idle.test {q : Program S Bool} {yes no : Program S α} (hq : q.Idle handle)
    (hyes : yes.Idle handle) (hno : no.Idle handle) :
    (q >>= fun b => match b with | true => yes | _ => no).Idle handle :=
  hq.bind fun b => by
    cases b with
    | true => exact hyes
    | false => exact hno

/-- An idle test with its two outcomes. -/
theorem Idle.gate {q : Program S Bool} {yes no : Program S α} (hq : q.Idle handle)
    (hyes : Ends handle yes w post) (hno : Ends handle no w post) :
    Ends handle (q >>= fun b => match b with | true => yes | _ => no) w post :=
  hq.ends fun b => by
    cases b with
    | true => exact hyes
    | false => exact hno

end Program

/-! ## Two ports -/

/-- The calls of two ports. -/
def Signature.sum (S T : Signature) : Signature := ⟨S.Call ⊕ T.Call, Sum.elim S.Answer T.Answer⟩

/-- A program over the first of two ports. -/
def Program.left {T : Signature} : Program S α → Program (S.sum T) α
  | .done a => .done a
  | .call c next => .call (.inl c) fun answer => (next answer).left

/-- What the calls of the first of two ports do. -/
def Handler.left {T : Signature} (handle : Handler (S.sum T) W X) : Handler S W X :=
  fun w c x => handle w (.inl c) x

/-- A program over one port meets the same over both. -/
theorem meets_left {T : Signature} {handle : Handler (S.sum T) W X} :
    Meets handle inv p.left w post ↔ Meets handle.left inv p w post := by
  induction p generalizing w with
  | done a => exact Iff.rfl
  | call c next ih => exact and_congr_right fun _ => forall_congr' fun x => ih _

/-- An idle program stays so beside other calls. -/
theorem Program.Idle.left {T : Signature} {handle : Handler (S.sum T) W X}
    (h : p.Idle handle.left) : p.left.Idle handle :=
  fun w post hpost => meets_left.mpr (h w post hpost)

end Effect
