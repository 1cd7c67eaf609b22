import Veyra.Application.Documents
import Veyra.Application.Programs

/-!
# Veyra.Application.NoLostUpdate

No committed change is overwritten, in any interleaving of the operations of
`Veyra.Application.Programs`.

An operation that has looked at the state and lets go of the gate comes back
with its own notion of what must be unchanged: the whole state (edit, document
save, activation), the subscription it updates (`UpdateSnapshot`), that there
was no state (import), or the process-local revision (`mutate`).

* `StateOperation.Saves` — what an operation may save, and over which state;
* `StateOperation.Concludes` — how an operation ends that was superseded;
* `no_lost_update` — every operation in every interleaving keeps to both.
-/

namespace Veyra

open Check Gate Function

/-! ## The discipline of the locks -/

/-- The part of the state that the write guard of the subscriptions protects. -/
structure SameContent (a b : Option AppState) : Prop where
  subscriptions : (b.getD .empty).subscriptions = (a.getD .empty).subscriptions
  providers : (b.getD .empty).providers = (a.getD .empty).providers
  nodes : (b.getD .empty).nodes = (a.getD .empty).nodes

/-- The same content twice is the same content. -/
theorem SameContent.trans {a b c : Option AppState} (h : SameContent a b)
    (h' : SameContent b c) : SameContent a c where
  subscriptions := h'.subscriptions.trans h.subscriptions
  providers := h'.providers.trans h.providers
  nodes := h'.nodes.trans h.nodes

/-- What the holder of a lock relies on. -/
def sameUnder : StateLock → Option AppState → Option AppState → Prop
  | .gate => Eq
  | .writes => SameContent
  | .runtime => fun _ _ => True

/-- Nothing changes under a lock that is not given back. -/
theorem sameUnder_refl (lock : StateLock) (a : Option AppState) : sameUnder lock a a := by
  cases lock with
  | gate => exact rfl
  | writes => exact ⟨rfl, rfl, rfl⟩
  | runtime => trivial

/-- What is the same under a lock stays so from one look to the next. -/
theorem sameUnder_trans {lock : StateLock} {a b c : Option AppState} (h : sameUnder lock a b)
    (h' : sameUnder lock b c) : sameUnder lock a c := by
  cases lock with
  | gate => exact Eq.trans h h'
  | writes => exact SameContent.trans h h'
  | runtime => trivial

/-- The gate protects the whole state; a state that is there stays there, and no revision is given
to two materials. -/
def stateDiscipline : Discipline StateLock (Option AppState) ProxyRouting.RevisionState where
  gate := .gate
  same := sameUnder
  evolves a b := a.isSome → b.isSome
  follows := ProxyRouting.RevisionState.Follows
  same_gate := id
  same_refl := sameUnder_refl
  same_trans := sameUnder_trans
  evolves_refl _ := id
  evolves_trans h h' := h' ∘ h
  follows_refl := .refl
  follows_trans := .trans

/-- What a program remembers of its own steps. -/
abbrev StateTrace := List (Event (Option AppState) ProxyRouting.RevisionState Look)

abbrev StateKnown := Known StateLock (Option AppState)

section Rules

variable {ε α β ρ : Type} {may : StateTrace → Option AppState → Option AppState → Prop}
  {known : StateKnown} {trace : StateTrace}

/-- **The rule of the gate.** -/
theorem wp_underGate {look : Look} {refused : ProxyRouting.StateAccessError → Program ρ}
    {unloaded : Program ρ} {body : Option AppState → Program ρ}
    {Q : ρ → StateKnown → StateTrace → Prop} (hgate : known .gate = .free)
    (hrefused : ∀ e, (refused e).wp stateDiscipline may known trace Q)
    (hunloaded : unloaded.wp stateDiscipline may (update known .gate .blind) trace fun result k t =>
      k .gate ≠ .free ∧ Q result (update k .gate .free) t)
    (hbody : ∀ current, Allows stateDiscipline known trace current →
      (body current).wp stateDiscipline may ((Known.see (update known .gate .blind)) current)
        (trace ++ [.loaded look current]) fun result k t =>
          k .gate ≠ .free ∧ Q result (update k .gate .free) t) :
    (underGate look refused unloaded body).wp stateDiscipline may known trace Q := by
  intro w
  beta_reduce
  by_cases hpoisoned : w.poisoned
  · rw [if_pos hpoisoned]
    exact hrefused .unavailable
  · rw [if_neg hpoisoned]
    refine Prog.wp_within hgate (hrefused .busy) ⟨?_, hunloaded, fun current hcurrent => ?_⟩
    · simp [stateDiscipline]
    · refine hbody current ⟨fun lock a hseen => ?_, hcurrent.loaded⟩
      have hother : lock ≠ .gate := by
        rintro rfl
        rw [hgate] at hseen
        cases hseen
      exact hcurrent.held lock a (by simpa [hother] using hseen)

/-- What `decideUnderGate` asks of a decision: of an error, of nothing to save, and of a state to
save. -/
def Decided (may : StateTrace → Option AppState → Option AppState → Prop) (known : StateKnown)
    (trace : StateTrace) (look : Look) (unsaved : ε) (current : Option AppState)
    (Q : Except ε α → StateKnown → StateTrace → Prop) : Except ε (Option AppState × α) → Prop
  | .error e => Q (.error e) (known.see current) (trace ++ [.loaded look current])
  | .ok (none, a) => Q (.ok a) (known.see current) (trace ++ [.loaded look current])
  | .ok (some next, a) =>
    (may (trace ++ [.loaded look current]) current (some next) ∧
      ∀ lock, lock ≠ .gate → known lock = .free → sameUnder lock current (some next)) ∧
    Q (.ok a) (known.see (some next)) (trace ++ [.loaded look current, .saved (some next)]) ∧
    Q (.error unsaved) (known.see current) (trace ++ [.loaded look current])

/-- **The rule of decisions under the gate.** -/
theorem wp_decideUnderGate {errors : StateErrors ε} {look : Look}
    {decide : Answers → Option AppState → Except ε (Option AppState × α)}
    {Q : Except ε α → StateKnown → StateTrace → Prop} (hgate : known .gate = .free)
    (haccess : ∀ e, Q (.error (errors.access e)) known trace)
    (hunloaded : Q (.error errors.unloaded) known trace)
    (hdecide : ∀ current, Allows stateDiscipline known trace current → ∀ w,
      Decided may known trace look errors.unsaved current Q (decide w current)) :
    (decideUnderGate errors look decide).run.wp stateDiscipline may known trace Q := by
  have hback : update (update known StateLock.gate .blind) .gate .free = known := by
    rw [update_idem, ← hgate, update_eq_self]
  have hheld : ∀ a, (Known.see (update known StateLock.gate .blind)) a .gate ≠ .free := by
    simp [Known.see]
  rw [decideUnderGate, ExceptT.run_mk]
  refine wp_underGate hgate haccess ⟨by simp, ?_⟩ fun current hcurrent w => ?_
  · rwa [hback]
  · have hdecided := hdecide current hcurrent w
    beta_reduce
    rcases hd : decide w current with e | ⟨next, a⟩
    · rw [hd] at hdecided
      refine ⟨hheld current, ?_⟩
      rwa [Known.release_see hgate]
    · rw [hd] at hdecided
      cases next with
      | none =>
        refine ⟨hheld current, ?_⟩
        rwa [Known.release_see hgate]
      | some next =>
        obtain ⟨⟨hmay, hsame⟩, hsaved, hunsaved⟩ := hdecided
        refine ⟨⟨current, by simp [Known.see, stateDiscipline], hmay, fun _ => rfl, ?_⟩, ?_, ?_⟩
        · intro lock hfree
          have hlock : lock ≠ .gate := by
            rintro rfl
            exact hheld current hfree
          refine hsame lock hlock ?_
          have := (Known.alike_see (update known StateLock.gate .blind) current lock).mp hfree
          simpa [hlock] using this
        · refine ⟨by rw [Known.see_see]; exact hheld (some next), ?_⟩
          rw [Known.see_see, Known.release_see hgate, List.append_assoc]
          exact hsaved
        · refine ⟨hheld current, ?_⟩
          rwa [Known.release_see hgate]

/-- An outcome that has no use for what is known of the state. -/
def Keeping (known : StateKnown) (C : ρ → StateTrace → Prop) (result : ρ) (k : StateKnown)
    (t : StateTrace) : Prop :=
  known.Alike k ∧ C result t

/-- An attempt that keeps the discipline, knowing `k`, and ends in `Q`. -/
structure Meets (may : StateTrace → Option AppState → Option AppState → Prop) (k : StateKnown)
    (trace : StateTrace) (Q : Except ε α → StateKnown → StateTrace → Prop) (x : Attempt ε α) :
    Prop where
  wp : x.run.wp stateDiscipline may k trace Q

/-- A flag is given back. -/
theorem Keeping.release {lock : StateLock} {C : ρ → StateTrace → Prop} {result : ρ}
    {k : StateKnown} {t : StateTrace} (hfree : known lock = .free)
    (h : Keeping (update known lock .blind) C result k t) :
    k lock ≠ .free ∧ Keeping known C result (update k lock .free) t := by
  refine ⟨fun hk => by simpa using (h.1 lock).mp hk, fun l => ?_, h.2⟩
  by_cases hl : l = lock
  · subst hl
    simp [hfree]
  · simpa [hl] using h.1 l

/-- **The rule of the write guard.** -/
theorem wp_beginWriteOwned {busy : ε} {body : Attempt ε α} {C : Except ε α → StateTrace → Prop}
    (hfree : known .writes = .free) (hbusy : C (.error busy) trace)
    (hbody : Meets may (update known .writes .blind) trace
      (Keeping (update known .writes .blind) C) body) :
    Meets may known trace (Keeping known C) (beginWriteOwned busy body) := by
  refine ⟨fun w => ?_⟩
  beta_reduce
  by_cases hclosing : w.closing
  · rw [if_pos hclosing]
    exact ⟨.refl known, hbusy⟩
  · rw [if_neg hclosing]
    refine Prog.wp_within hfree ⟨.refl known, hbusy⟩ fun w' => ?_
    beta_reduce
    by_cases hclosing' : w'.closing
    · rw [if_pos hclosing']
      exact Keeping.release hfree ⟨.refl _, hbusy⟩
    · rw [if_neg hclosing']
      exact Prog.wp_mono (fun _ _ _ h => h.release hfree) hbody.wp

/-- **The rule of the runtime guard.** -/
theorem wp_underRuntimeGuard {busy : ε} {body : Attempt ε α}
    {C : Except ε α → StateTrace → Prop} (hfree : known .runtime = .free)
    (hbusy : C (.error busy) trace)
    (hbody : Meets may (update known .runtime .blind) trace
      (Keeping (update known .runtime .blind) C) body) :
    Meets may known trace (Keeping known C) (underRuntimeGuard busy body) :=
  ⟨Prog.wp_within hfree ⟨.refl known, hbusy⟩
    (Prog.wp_mono (fun _ _ _ h => h.release hfree) hbody.wp)⟩

end Rules

/-! ## What must be unchanged -/

/-- What an operation compares of the state it has captured and the state it commits over. -/
inductive Base
  | nothing
  | whole
  | snapshot (id : String)
  | emptiness
  | material

/-- The two states are the same, as far as the operation compares them. -/
def Base.Same : Base → Option AppState → Option AppState → Prop
  | .nothing, _, _ => True
  | .whole, a, b => a = b
  | .snapshot id, a, b => updateSnapshot (a.getD .empty) id = updateSnapshot (b.getD .empty) id
  | .emptiness, a, b => a.isNone = b.isNone
  | .material, a, b => ProxyRouting.CasMaterial.of (a.getD .empty) = .of (b.getD .empty)

/-- The program has looked at the state again and found its base changed. -/
def Stale (base : Look → Base) (trace : StateTrace) : Prop :=
  ∃ b a look, look ≠ .capture ∧ .loaded .capture b ∈ trace ∧ .loaded look a ∈ trace ∧
    ¬ (base look).Same b a

/-- Nothing was written. -/
def Unsaved (trace : StateTrace) : Prop := ∀ value, .saved value ∉ trace

/-- A superseded operation returns the given error and has written nothing. -/
def Yields {ε α : Type} (base : Look → Base) (superseded : ε) (result : Except ε α)
    (trace : StateTrace) : Prop :=
  Stale base trace → result = .error superseded ∧ Unsaved trace

section Stale

variable {ε α : Type} {base : Look → Base} {superseded : ε} {result : Except ε α}
  {b a : Option AppState} {look : Look}

theorem not_stale_nil : ¬ Stale base [] := by
  rintro ⟨b, a, look, -, hcaptured, -⟩
  cases hcaptured

/-- A capture alone is not stale. -/
theorem not_stale_captured : ¬ Stale base [.loaded .capture b] := by
  rintro ⟨b', a, look, hlook, -, hlooked, -⟩
  cases List.mem_singleton.mp hlooked
  exact hlook rfl

/-- An operation that has captured nothing is never superseded. -/
theorem not_stale_fresh (hlook : look ≠ .capture) (rest : StateTrace)
    (hrest : ∀ tag c, .loaded tag c ∉ rest) : ¬ Stale base (.loaded look a :: rest) := by
  rintro ⟨b', a', look', -, hcaptured, -⟩
  rcases List.mem_cons.mp hcaptured with heq | htail
  · cases heq
    exact hlook rfl
  · exact hrest .capture b' htail

/-- After one look to capture and one to commit, the two loaded states are compared. -/
theorem stale_looked (rest : StateTrace) (hrest : ∀ tag c, .loaded tag c ∉ rest)
    (h : Stale base (.loaded .capture b :: .loaded look a :: rest)) :
    look ≠ .capture → ¬ (base look).Same b a := by
  intro hlook
  obtain ⟨b', a', look', hlook', hcaptured, hlooked, hchanged⟩ := h
  have hb : b' = b := by
    rcases List.mem_cons.mp hcaptured with heq | htail
    · cases heq
      rfl
    · rcases List.mem_cons.mp htail with heq | htail
      · cases heq
        exact absurd rfl hlook
      · exact absurd htail (hrest .capture b')
  have ha : look' = look ∧ a' = a := by
    rcases List.mem_cons.mp hlooked with heq | htail
    · cases heq
      exact absurd rfl hlook'
    · rcases List.mem_cons.mp htail with heq | htail
      · cases heq
        exact ⟨rfl, rfl⟩
      · exact absurd htail (hrest look' a')
  obtain ⟨rfl, rfl⟩ := ha
  rwa [hb] at hchanged

theorem Yields.nil : Yields base superseded result [] := fun h => absurd h not_stale_nil

theorem Yields.captured : Yields base superseded result [.loaded .capture b] :=
  fun h => absurd h not_stale_captured

/-- A result from a fresh look needs no comparison. -/
theorem Yields.fresh (hlook : look ≠ .capture) (rest : StateTrace)
    (hrest : ∀ tag c, .loaded tag c ∉ rest) :
    Yields base superseded result (.loaded look a :: rest) :=
  fun h => absurd h (not_stale_fresh hlook rest hrest)

/-- The base was found unchanged. -/
theorem Yields.same (hlook : look ≠ .capture) (hsame : (base look).Same b a) (rest : StateTrace)
    (hrest : ∀ tag c, .loaded tag c ∉ rest) :
    Yields base superseded result (.loaded .capture b :: .loaded look a :: rest) :=
  fun h => absurd hsame (stale_looked rest hrest h hlook)

/-- The base was found changed, or not, and nothing was written. -/
theorem Yields.looked (hlook : look ≠ .capture)
    (h : ¬ (base look).Same b a → result = .error superseded) :
    Yields base superseded result [.loaded .capture b, .loaded look a] := by
  intro hstale
  refine ⟨h (stale_looked [] (by simp) hstale hlook), fun value hsaved => ?_⟩
  rcases List.mem_cons.mp hsaved with heq | hsaved
  · cases heq
  · cases List.mem_singleton.mp hsaved

end Stale

/-! ## Looking and committing -/

section Commit

variable {ε α β : Type} {may : StateTrace → Option AppState → Option AppState → Prop}
  {known : StateKnown} {trace : StateTrace} {base : Look → Base} {superseded : ε}
  {b : Option AppState} {look : Look}

/-- A success may be replaced by what follows it. -/
theorem Yields.of_ok {a : α} {result : Except ε β}
    (h : Yields base superseded (.ok a : Except ε α) trace) :
    Yields base superseded result trace := by
  intro hstale
  cases (h hstale).1

/-- An error is the same for every type of result. -/
theorem Yields.of_error {e : ε} (h : Yields base superseded (.error e : Except ε α) trace) :
    Yields base superseded (.error e : Except ε β) trace := by
  intro hstale
  obtain ⟨hresult, hunsaved⟩ := h hstale
  cases hresult
  exact ⟨rfl, hunsaved⟩

/-- What is known under a held lock after a look. -/
theorem see_of_ne {lock : StateLock} (h : known lock ≠ .free) : known.see b lock = .seen b := by
  rw [Known.see]
  cases hlock : known lock with
  | free => exact absurd hlock h
  | blind => rfl
  | seen value => rfl

/-- A decision over a state `a` whose base `b` was captured before: a state that is saved may be,
and when the base has changed the decision is the given error. -/
def Commits (may : StateTrace → Option AppState → Option AppState → Prop) (base : Look → Base)
    (superseded : ε) (b : Option AppState) (look : Look) (a : Option AppState) :
    Except ε (Option AppState × α) → Prop
  | .error e => ¬ (base look).Same b a → e = superseded
  | .ok (none, _) => (base look).Same b a
  | .ok (some next, _) => (base look).Same b a ∧
    may [.loaded .capture b, .loaded look a] a (some next)

/-- **The rule of commits** over a captured state, under the write guard. -/
theorem wp_commit {errors : StateErrors ε}
    {decide : Answers → Option AppState → Except ε (Option AppState × α)}
    (hgate : known .gate = .free) (hwrites : known .writes ≠ .free) (hlook : look ≠ .capture)
    (hdecide : ∀ a, Allows stateDiscipline (known.see b) [.loaded Look.capture b] a →
      ∀ w, Commits may base superseded b look a (decide w a)) :
    Meets may (known.see b) [.loaded .capture b] (Keeping known (Yields base superseded))
      (decideUnderGate errors look decide) := by
  have hgate' : known.see b .gate = .free := (Known.alike_see known b .gate).mpr hgate
  have halike : ∀ x, known.Alike ((known.see b).see x) := fun x => by
    rw [Known.see_see]
    exact Known.alike_see known x
  refine ⟨wp_decideUnderGate hgate' (fun e => ⟨Known.alike_see known b, .captured⟩)
    ⟨Known.alike_see known b, .captured⟩ fun a ha w => ?_⟩
  have hcommits := hdecide a ha w
  rcases hd : decide w a with e | ⟨next, x⟩
  · rw [hd] at hcommits
    exact ⟨halike a, .looked hlook fun hchanged => congrArg _ (hcommits hchanged)⟩
  · rw [hd] at hcommits
    cases next with
    | none => exact ⟨halike a, .same hlook hcommits [] (by simp)⟩
    | some next =>
      obtain ⟨hsame, hmay⟩ := hcommits
      refine ⟨⟨hmay, fun lock hlock hfree => ?_⟩, ⟨halike _, ?_⟩, ⟨halike a, ?_⟩⟩
      · cases lock with
        | gate => exact absurd rfl hlock
        | writes => exact absurd ((Known.alike_see known b .writes).mp hfree) hwrites
        | runtime => trivial
      · exact .same hlook hsame [.saved (some next)] (by simp)
      · exact .same hlook hsame [] (by simp)

/-- **The rule of commits** without a captured state, under the write guard. -/
theorem wp_commitFresh {errors : StateErrors ε}
    {decide : Answers → Option AppState → Except ε (Option AppState × α)}
    (hgate : known .gate = .free) (hwrites : known .writes ≠ .free) (hlook : look ≠ .capture)
    (hdecide : ∀ a w next x, decide w a = .ok (some next, x) →
      may [.loaded look a] a (some next)) :
    Meets may known [] (Keeping known (Yields base superseded))
      (decideUnderGate errors look decide) := by
  refine ⟨wp_decideUnderGate hgate (fun e => ⟨.refl known, .nil⟩) ⟨.refl known, .nil⟩
    fun a ha w => ?_⟩
  have hlooked : ∀ result : Except ε α, Keeping known (Yields base superseded) result
      (known.see a) [.loaded look a] :=
    fun result => ⟨Known.alike_see known a, .fresh hlook [] (by simp)⟩
  rcases hd : decide w a with e | ⟨next, x⟩
  · exact hlooked _
  · cases next with
    | none => exact hlooked _
    | some next =>
      refine ⟨⟨hdecide a w next x hd, fun lock hlock hfree => ?_⟩, ⟨Known.alike_see known _, ?_⟩,
        hlooked _⟩
      · cases lock with
        | gate => exact absurd rfl hlock
        | writes => exact absurd hfree hwrites
        | runtime => trivial
      · exact .fresh hlook [.saved (some next)] (by simp)

/-- **The rule of captures**: a look without a save, then the rest. -/
theorem wp_capture {errors : StateErrors ε} {f : Option AppState → Except ε (Option AppState × α)}
    {g : α → Attempt ε β} (hgate : known .gate = .free)
    (hg : ∀ b x, f b = .ok (none, x) → Meets may (known.see b) [.loaded .capture b]
      (Keeping known (Yields base superseded)) (g x))
    (hlooks : ∀ b next x, f b ≠ .ok (some next, x)) :
    Meets may known [] (Keeping known (Yields base superseded))
      (decideUnderGate errors .capture (fun _ => f) >>= g) := by
  refine ⟨Prog.wp_except.mpr ?_⟩
  refine wp_decideUnderGate hgate (fun e => ⟨.refl known, .nil⟩) ⟨.refl known, .nil⟩
    fun b _ w => ?_
  rcases hd : f b with e | ⟨next, x⟩
  · exact ⟨Known.alike_see known b, .captured⟩
  · cases next with
    | none => exact (hg b x hd).wp
    | some next => exact absurd hd (hlooks b next x)

/-- A check that looks at nothing, then the rest. -/
theorem wp_check {x : Except ε α} {g : α → Attempt ε β} {k : StateKnown}
    {Q : Except ε β → StateKnown → StateTrace → Prop} (herror : ∀ e, Q (.error e) k trace)
    (hg : ∀ a, x = .ok a → Meets may k trace Q (g a)) :
    Meets may k trace Q ((liftM x : Attempt ε α) >>= g) := by
  refine ⟨Prog.wp_except.mpr ?_⟩
  cases hx : x with
  | error e => exact herror e
  | ok a => exact (hg a hx).wp

/-- An answer of the world, then the rest. -/
theorem wp_answer {f : Answers → Except ε α} {g : α → Attempt ε β} {k : StateKnown}
    {Q : Except ε β → StateKnown → StateTrace → Prop} (herror : ∀ e, Q (.error e) k trace)
    (hg : ∀ a w, f w = .ok a → Meets may k trace Q (g a)) :
    Meets may k trace Q (answer f >>= g) := by
  refine ⟨Prog.wp_except.mpr fun w => ?_⟩
  beta_reduce
  cases hf : f w with
  | error e => exact herror e
  | ok a => exact (hg a w hf).wp

/-- Before the first look nothing is superseded. -/
theorem Keeping.first {result : Except ε α} :
    Keeping known (Yields base superseded) result known [] :=
  ⟨.refl known, .nil⟩

/-- Before the second look nothing is superseded. -/
theorem Keeping.captured {result : Except ε α} :
    Keeping known (Yields base superseded) result (known.see b) [.loaded .capture b] :=
  ⟨Known.alike_see known b, .captured⟩

end Commit

/-- An attempt that hands on a value and what is known, or ends the operation. -/
def Offering {ε α : Type} (base : Look → Base) (superseded : ε) (known k : StateKnown)
    (trace : StateTrace) (good : α → Prop) (result : Except ε α) (k' : StateKnown)
    (t : StateTrace) : Prop :=
  match result with
  | .ok a => k' = k ∧ t = trace ∧ good a
  | .error _ => Keeping known (Yields base superseded) result k' t

section Offering

variable {ε α β : Type} {may : StateTrace → Option AppState → Option AppState → Prop}
  {known k : StateKnown} {trace : StateTrace} {base : Look → Base} {superseded : ε}

/-- Go on with a value that is offered. -/
theorem Meets.bind {good : α → Prop} {x : Attempt ε α} {g : α → Attempt ε β}
    {Q : Except ε β → StateKnown → StateTrace → Prop}
    (hx : Meets may k trace (Offering base superseded known k trace good) x)
    (herror : ∀ e k' t, Keeping known (Yields base superseded) (.error e : Except ε β) k' t →
      Q (.error e) k' t)
    (hg : ∀ a, good a → Meets may k trace Q (g a)) : Meets may k trace Q (x >>= g) := by
  refine ⟨Prog.wp_except.mpr (Prog.wp_mono (fun result k' t h => ?_) hx.wp)⟩
  cases result with
  | error e => exact herror e k' t ⟨h.1, h.2.of_error⟩
  | ok a =>
    obtain ⟨rfl, rfl, hgood⟩ := h
    exact (hg a hgood).wp

/-- Hand on a value. -/
theorem Meets.pure {good : α → Prop} {a : α} (h : good a) :
    Meets may k trace (Offering base superseded known k trace good) (pure a) :=
  ⟨rfl, rfl, h⟩

end Offering

/-! ## The operations -/

/-- The operations that write the state, as they are asked for. -/
inductive StateOperation
  | importManual (name description content : String)
  | importRemote (name description url : String) (options : RemoteImportOptions)
  | update (id : String) (content : Option String) (routeOverride : Bool)
  | edit (input : EditSubscription)
  | document (input : DocumentSaveInput)
  | delete (id : String) (activeRuntimeStopped : Bool)
  | mutate (routing : ProxyRouting.Env) (request : ProxyRouting.MutateRequest)
  | readAndMutate (routing : ProxyRouting.Env) (choose : AppState → ProxyRouting.Mutation)
  | activate (id : String) (force : Bool) (expectedDesiredGeneration : Option UInt64)

inductive StateResult
  | imported (result : Except SubscriptionOperationError (Option Subscription))
  | updated (result : Except SubscriptionOperationError (Option Subscription × Bool))
  | saved (result : Except DocumentOperationError (Option Subscription × String))
  | deleted (result : Except SubscriptionOperationError String)
  | mutated (result : Except ProxyRouting.QueryError ProxyRouting.MutateNext)
  | activated (result : Except ActivationError Bool)

namespace StateOperation

/-- What an operation does. -/
def program (env : SubscriptionEnv) : StateOperation → Program StateResult
  | .importManual name description content =>
    .imported <$> (SubscriptionManager.importManual env name description content).run
  | .importRemote name description url options =>
    .imported <$> (SubscriptionManager.importRemote env name description url options).run
  | .update id content routeOverride =>
    .updated <$> (SubscriptionManager.update env id content routeOverride).run
  | .edit input => .updated <$> (SubscriptionManager.edit env input).run
  | .document input => .saved <$> (SubscriptionManager.saveDocument env input).run
  | .delete id activeRuntimeStopped =>
    .deleted <$> (SubscriptionManager.delete id activeRuntimeStopped).run
  | .mutate routing request =>
    (.mutated ∘ .ok) <$> ProxyRouting.mutateProgram routing request
  | .readAndMutate routing choose => .mutated <$> (ProxyRouting.readAndMutate routing choose).run
  | .activate id force generation => .activated <$> (activateProgram id force generation).run

/-- What an operation compares with the state that it captured, before it commits and before it
records an attempt. -/
def base : StateOperation → Look → Base
  | .importRemote .., _ => .emptiness
  | .update id .., _ => .snapshot id
  | .edit input, .attempt => .snapshot input.id
  | .edit .., _ | .document .., _ | .activate .., _ => .whole
  | .readAndMutate .., _ => .material
  | .importManual .., _ | .delete .., _ | .mutate .., _ => .nothing

/-- What an operation can save is its commit over the state, or its failed attempt. -/
inductive Derives (env : SubscriptionEnv) :
    StateOperation → Look → Option AppState → AppState → Prop
  | importManual {name description content : String} {identity : List UInt8} {now : UInt64}
      {a : Option AppState} {after : AppState}
      (h : SubscriptionCommit env (.importManual name description content identity now) a after) :
      Derives env (.importManual name description content) .commit a after
  | importRemote {name description url : String} {options : RemoteImportOptions}
      {initiallyEmpty : Bool} {fetched : FetchResult} {identity : List UInt8} {now : UInt64}
      {a : Option AppState} {after : AppState}
      (h : SubscriptionCommit env
        (.importRemote name description url options initiallyEmpty fetched identity now) a after) :
      Derives env (.importRemote name description url options) .commit a after
  | update {id : String} {content : Option String} {routeOverride : Bool} {fetched : FetchResult}
      {now : UInt64} {a : Option AppState} {after : AppState}
      (h : SubscriptionCommit env (.update id fetched now) a after) :
      Derives env (.update id content routeOverride) .commit a after
  | updateAttempt {id : String} {content : Option String} {routeOverride : Bool}
      {attemptedAt : UInt64} {a : Option AppState} {after : AppState}
      (h : SubscriptionCommit env (.failedAttempt id attemptedAt) a after) :
      Derives env (.update id content routeOverride) .attempt a after
  | edit {input : EditSubscription} {fetched : Option (FetchResult × UInt64)}
      {a : Option AppState} {after : AppState}
      (h : SubscriptionCommit env (.edit input fetched) a after) :
      Derives env (.edit input) .commit a after
  | editAttempt {input : EditSubscription} {attemptedAt : UInt64} {a : Option AppState}
      {after : AppState} (h : SubscriptionCommit env (.failedAttempt input.id attemptedAt) a after) :
      Derives env (.edit input) .attempt a after
  | document {input : DocumentSaveInput} {worker : Option DocumentErrorCode}
      {a : Option AppState} {after : AppState}
      (h : SubscriptionCommit env (.document worker input) a after) :
      Derives env (.document input) .commit a after
  | delete {id : String} {stopped : Bool} {a : Option AppState} {after : AppState}
      (h : SubscriptionCommit env (.delete id stopped) a after) :
      Derives env (.delete id stopped) .commit a after
  | mutate {routing : ProxyRouting.Env} {request : ProxyRouting.MutateRequest}
      {a : Option AppState} {after : AppState}
      (h : ProxyRouting.MutationCommit routing request (a.getD .empty) after) :
      Derives env (.mutate routing request) .commit a after
  | readAndMutate {routing : ProxyRouting.Env} {choose : AppState → ProxyRouting.Mutation}
      {told : AppState} {revision : UInt64} {a : Option AppState} {after : AppState}
      (h : ProxyRouting.MutationCommit routing ⟨revision, choose told⟩ (a.getD .empty) after) :
      Derives env (.readAndMutate routing choose) .commit a after
  | activate {id : String} {force : Bool} {generation : Option UInt64} {before after : AppState}
      (h : ActivationCommit before after) :
      Derives env (.activate id force generation) .commit (some before) after

/-- What an operation may save over the stored state `a`: something it derives from exactly `a`,
which it has loaded, and which is the same as what it had captured before. -/
def Saves (env : SubscriptionEnv) (op : StateOperation) (trace : StateTrace)
    (a value : Option AppState) : Prop :=
  ∃ look after, value = some after ∧ op.Derives env look a after ∧ .loaded look a ∈ trace ∧
    ∀ b, .loaded .capture b ∈ trace → (op.base look).Same b a

/-- The operation has looked at the state again and found that its base had changed.  A mutation
compares the revision of the state with the one it was asked for or told. -/
def Superseded (op : StateOperation) (trace : StateTrace) : Prop :=
  match op with
  | .mutate _ request => ∃ a r, .loaded .commit a ∈ trace ∧ .recalled .commit r ∈ trace ∧
    r.material = some (.of (a.getD .empty)) ∧ r.revision ≠ request.expectedRevision
  | .readAndMutate .. => ∃ told a r, .recalled .capture told ∈ trace ∧ .loaded .commit a ∈ trace ∧
    .recalled .commit r ∈ trace ∧ r.material = some (.of (a.getD .empty)) ∧
    r.revision ≠ told.revision
  | op => Stale op.base trace

end StateOperation

/-- A result that says that the operation was superseded. -/
def StateResult.IsSuperseded : StateResult → Prop
  | .imported result | .updated result | .deleted result => result.map (fun _ => ()) = .error .busy
  | .saved result => result = .error .documentConflict
  | .mutated result => ∃ revision, result = .ok (.error .conflict revision)
  | .activated result => result = .error .busy

/-- How an operation ends: if it was superseded, it says so and has written nothing. -/
def StateOperation.Concludes (op : StateOperation) (result : StateResult) (trace : StateTrace) :
    Prop :=
  op.Superseded trace → result.IsSuperseded ∧ Unsaved trace

/-! ## What is decided under the gate -/

namespace SubscriptionManager

variable {env : SubscriptionEnv} {w : Answers} {next : AppState}

/-- An open manager saves its candidate. -/
theorem commitOpen_ok {α : Type} {candidate : AppState} {a x : α} {save : Option AppState}
    (h : commitOpen w candidate a = .ok (save, x)) : save = some candidate := by
  obtain ⟨-, h⟩ := ok_seq.mp h
  cases h
  rfl

/-- **Spec.**  An import saves what `commit_import` computes from the loaded state. -/
theorem decideImport_ok {input : ImportCommit} {current save : Option AppState}
    {sub : Option Subscription} (h : decideImport env input w current = .ok (save, sub)) :
    ∃ next identity now, save = some next ∧
      commitImport env.text input identity now current = .ok next := by
  obtain ⟨base, hbase, h⟩ := ok_bind.mp h
  obtain ⟨identity, -, h⟩ := ok_bind.mp h
  obtain ⟨hfresh, h⟩ := ok_seq.mp h
  obtain ⟨time, -, h⟩ := ok_bind.mp h
  obtain ⟨candidate, hcandidate, h⟩ := ok_bind.mp h
  refine ⟨candidate, identity, time, commitOpen_ok h, ?_⟩
  obtain ⟨hempty, hbase⟩ := ok_seq.mp hbase
  cases hbase
  exact ok_seq.mpr ⟨hempty, ok_seq.mpr ⟨hfresh, hcandidate⟩⟩

/-- An import into a state that was there, or was not, when the import began. -/
theorem decideImport_stale {input : ImportCommit} {empty : Bool} {current : Option AppState}
    (hinput : input.expectedInitiallyEmpty = some empty) (hstale : empty ≠ current.isNone) :
    decideImport env input w current = .error .busy := by
  rw [decideImport, importBase, hinput]
  simp [reject, hstale]
  rfl

/-- **Spec.**  An update saves what its commit computes from the loaded state. -/
theorem decideUpdate_ok {id : String} {snapshot : UpdateSnapshot} {fetched : FetchResult}
    {parsed : Option ParseResult} {attemptedAt : Option UInt64} {current save : Option AppState}
    {x : Option Subscription × Bool}
    (h : decideUpdate env id snapshot fetched parsed attemptedAt w current = .ok (save, x)) :
    ∃ cur next now changed, current = some cur ∧ save = some next ∧
      commitUpdate env.text id snapshot fetched parsed now cur = .ok (next, changed) := by
  obtain ⟨cur, hcur, h⟩ := ok_bind.mp h
  obtain ⟨⟨candidate, changed⟩, hcandidate, h⟩ := ok_bind.mp h
  obtain ⟨time, -, h⟩ := ok_bind.mp h
  obtain ⟨next, hnext, h⟩ := ok_bind.mp h
  refine ⟨cur, next, time, changed, okOr_eq_ok.mp hcur, commitOpen_ok h, ?_⟩
  obtain ⟨found, hfound, hcandidate⟩ := ok_bind.mp hcandidate
  obtain ⟨hsame, hcandidate⟩ := ok_seq.mp hcandidate
  obtain ⟨raised, hraised, hnext⟩ := ok_bind.mp hnext
  refine ok_bind.mpr ⟨found, hfound, ok_seq.mpr ⟨hsame, ok_bind.mpr ⟨_, hcandidate, ?_⟩⟩⟩
  exact ok_bind.mpr ⟨raised, hraised, ok_bind.mpr ⟨next, hnext, rfl⟩⟩

/-- **Spec.**  A failed attempt saves what `record_failed_attempt` computes. -/
theorem decideFailedAttempt_ok {snapshot : UpdateSnapshot} {attemptedAt : UInt64}
    {current save : Option AppState}
    (h : decideFailedAttempt snapshot attemptedAt w current = .ok (save, ())) :
    ∃ cur next, current = some cur ∧ save = some next ∧
      commitFailedAttempt snapshot attemptedAt cur = .ok next := by
  obtain ⟨cur, hcur, h⟩ := ok_bind.mp h
  obtain ⟨next, hnext, h⟩ := ok_bind.mp h
  exact ⟨cur, next, okOr_eq_ok.mp hcur, commitOpen_ok h, hnext⟩

/-- **Spec.**  An edit saves what its commit computes from the loaded state. -/
theorem decideEdit_ok {baseline : AppState} {id : String} {edited : Subscription}
    {replacement : Option EditReplacement} {current save : Option AppState}
    {x : Option Subscription × Bool}
    (h : decideEdit env baseline id edited replacement w current = .ok (save, x)) :
    ∃ cur next changed, current = some cur ∧ save = some next ∧
      commitEdit env.text baseline id edited replacement cur = .ok (next, changed) := by
  obtain ⟨cur, hcur, h⟩ := ok_bind.mp h
  obtain ⟨⟨next, changed⟩, hnext, h⟩ := ok_bind.mp h
  exact ⟨cur, next, changed, okOr_eq_ok.mp hcur, commitOpen_ok h, hnext⟩

/-- An edit of a state that has changed since its baseline. -/
theorem decideEdit_stale {baseline cur : AppState} {id : String} {edited : Subscription}
    {replacement : Option EditReplacement} (hstale : cur ≠ baseline) :
    decideEdit env baseline id edited replacement w (some cur) = .error .busy := by
  have hcommit : commitEdit env.text baseline id edited replacement cur = .error .busy := by
    rw [commitEdit, decide_eq_true hstale, reject_true]
    rfl
  show (commitEdit env.text baseline id edited replacement cur >>= _) = _
  rw [hcommit]
  rfl

/-- **Spec.**  A deletion saves what `delete` computes from the loaded state. -/
theorem decideDelete_ok {id x : String} {stopped : Bool} {current save : Option AppState}
    (h : decideDelete id stopped w current = .ok (save, x)) :
    ∃ cur next, current = some cur ∧ save = some next ∧ commitDelete id stopped cur = .ok next := by
  obtain ⟨cur, hcur, h⟩ := ok_bind.mp h
  obtain ⟨next, hnext, h⟩ := ok_bind.mp h
  exact ⟨cur, next, okOr_eq_ok.mp hcur, commitOpen_ok h, hnext⟩

/-- **Spec.**  A document save goes by the state it was prepared for. -/
theorem decideDocument_ok {prepared : PreparedDocumentSave} {current save : Option AppState}
    {x : Option Subscription × String} (h : decideDocument prepared w current = .ok (save, x)) :
    ∃ cur, current = some cur ∧ commitPreparedDocument prepared cur = .ok save := by
  obtain ⟨cur, hcur, h⟩ := ok_bind.mp h
  obtain ⟨save', hsave, h⟩ := ok_bind.mp h
  obtain ⟨-, h⟩ := ok_seq.mp h
  cases h
  exact ⟨cur, okOr_eq_ok.mp hcur, hsave⟩

/-- A document save over a state that has changed since it was prepared. -/
theorem decideDocument_stale {prepared : PreparedDocumentSave} {cur : AppState}
    (hstale : cur ≠ prepared.before) :
    decideDocument prepared w (some cur) = .error .documentConflict := by
  have hcommit : commitPreparedDocument prepared cur = .error .documentConflict := by
    rw [commitPreparedDocument, decide_eq_true hstale, reject_true]
    rfl
  show (commitPreparedDocument prepared cur >>= _) = _
  rw [hcommit]
  rfl

end SubscriptionManager

/-- **Spec.**  An activation goes by the state it was planned for. -/
theorem decideActivation_ok {plan : ActivationPlan} {w : Answers} {current save : Option AppState}
    {goesOn : Bool} (h : decideActivation plan w current = .ok (save, goesOn)) :
    current = some plan.expected ∧
      ∀ next, save = some next → commitActivation plan plan.expected = .ok (some next) := by
  obtain ⟨cur, hcur, h⟩ := ok_bind.mp h
  obtain ⟨committed, hcommitted, hpair⟩ := ok_bind.mp h
  obtain ⟨hsame, -⟩ := ok_seq.mp hcommitted
  have hsame : cur = plan.expected := by simpa using hsame
  rw [hsame] at hcur hcommitted
  refine ⟨okOr_eq_ok.mp hcur, fun next hnext => ?_⟩
  have hpair := Except.ok.inj hpair
  by_cases hclosing : w.closing
  · rw [if_pos hclosing] at hpair
    cases hpair
    cases hnext
  · rw [if_neg hclosing] at hpair
    cases hpair
    rw [hcommitted, hnext]

/-- An activation over a state that has changed since it was planned. -/
theorem decideActivation_stale {plan : ActivationPlan} {w : Answers} {cur : AppState}
    (hstale : cur ≠ plan.expected) : decideActivation plan w (some cur) = .error .busy := by
  have hcommit : commitActivation plan cur = .error .busy := by
    rw [commitActivation, decide_eq_true hstale, reject_true]
    rfl
  show (commitActivation plan cur >>= _) = _
  rw [hcommit]
  rfl

/-! ## Each operation keeps the discipline -/

/-- An operation that keeps the discipline, from no lock to no lock. -/
def StateOperation.Sound {ε α : Type} (env : SubscriptionEnv) (op : StateOperation)
    (superseded : ε) (x : Attempt ε α) : Prop :=
  Meets (op.Saves env) Known.nothing [] (Keeping Known.nothing (Yields op.base superseded)) x

namespace SubscriptionManager

variable {env : SubscriptionEnv}

/-- A remote import remembers whether there was a state. -/
theorem prepareRemoteImport_empty {name description url : String} {options : RemoteImportOptions}
    {empty : Bool} {fetched : FetchResult} {input : ImportCommit}
    (h : prepareRemoteImport env name description url options empty fetched = .ok input) :
    input.expectedInitiallyEmpty = some empty := by
  obtain ⟨checked, -, h⟩ := ok_bind.mp h
  cases fetched with
  | notModified metadata profile matches' => cases h
  | modified body metadata profile matches' =>
    obtain ⟨parsed, -, h⟩ := ok_bind.mp h
    cases h
    rfl

/-- An import by hand derives its save from the state under the gate. -/
theorem importManual_sound (name description content : String) :
    (StateOperation.importManual name description content).Sound env .busy
      (importManual env name description content) := by
  refine wp_beginWriteOwned rfl .nil ?_
  refine wp_check (fun _ => .first) fun input hinput => ?_
  refine wp_commitFresh (by simp [Known.nothing]) (by simp) (by simp) fun a w next x hd => ?_
  obtain ⟨next', identity, now, heq, hcommit⟩ := decideImport_ok hd
  cases heq
  exact ⟨.commit, next, rfl, .importManual (.importManual hinput hcommit), by simp, by simp⟩

/-- A remote import does too; its fetch saw nothing of the state. -/
theorem importRemote_sound (name description url : String) (options : RemoteImportOptions) :
    (StateOperation.importRemote name description url options).Sound env .busy
      (importRemote env name description url options) := by
  refine wp_beginWriteOwned rfl .nil ?_
  refine wp_check (fun _ => .first) fun checked _ => ?_
  refine wp_capture (by simp [Known.nothing]) (fun b empty hempty => ?_) (by simp)
  refine wp_answer (fun _ => .captured) fun fetched _ _ => ?_
  refine wp_check (fun _ => .captured) fun input hinput => ?_
  refine wp_commit (by simp [Known.nothing]) (by simp) (by simp) fun a _ w => ?_
  cases hempty
  have hexpected := prepareRemoteImport_empty hinput
  rcases hd : decideImport env input w a with e | ⟨save, x⟩
  · intro hchanged
    rw [decideImport_stale hexpected hchanged] at hd
    cases hd
    rfl
  · have hsame : b.isNone = a.isNone := by
      by_contra hchanged
      rw [decideImport_stale hexpected hchanged] at hd
      cases hd
    obtain ⟨next, identity, now, rfl, hcommit⟩ := decideImport_ok hd
    refine ⟨hsame, .commit, next, rfl, .importRemote (.importRemote hinput hcommit), by simp, ?_⟩
    intro b' hb'
    obtain rfl : b' = b := by simpa using hb'
    exact hsame

/-- A deletion looks and saves under one gate. -/
theorem delete_sound (id : String) (stopped : Bool) :
    (StateOperation.delete id stopped).Sound env .busy (delete id stopped) := by
  refine wp_beginWriteOwned rfl .nil ?_
  refine wp_check (fun _ => .first) fun _ _ => ?_
  refine wp_commitFresh (by simp [Known.nothing]) (by simp) (by simp) fun a w next x hd => ?_
  obtain ⟨cur, next', rfl, heq, hcommit⟩ := decideDelete_ok hd
  cases heq
  exact ⟨.commit, next, rfl, .delete (.delete hcommit), by simp, by simp⟩

/-! ### A captured subscription -/

section Captured

variable {may : StateTrace → Option AppState → Option AppState → Prop} {known : StateKnown}
  {base : Look → Base} {s : AppState} {id : String} {snapshot : UpdateSnapshot}

/-- Nobody else writes subscriptions while the write guard is held. -/
theorem updateSnapshot_congr {t : AppState} (h : SameContent (some s) (some t)) (id : String) :
    updateSnapshot s id = updateSnapshot t id := by
  have hsubscriptions : t.subscriptions = s.subscriptions := h.subscriptions
  have hproviders : t.providers = s.providers := h.providers
  have hnodes : t.nodes = s.nodes := h.nodes
  simp only [updateSnapshot, AppState.subscription?, AppState.soleProvider, AppState.providersOf,
    AppState.nodesOf, hsubscriptions, hproviders, hnodes]

/-- The state that is loaded after a capture. -/
theorem current_of_allows {a : Option AppState} (hwrites : known .writes ≠ .free)
    (h : Allows stateDiscipline (known.see (some s)) [.loaded Look.capture (some s)] a) :
    ∃ cur, a = some cur ∧ SameContent (some s) (some cur) := by
  have hsome : a.isSome := h.loaded .capture (some s) (by simp) rfl
  obtain ⟨cur, rfl⟩ := Option.isSome_iff_exists.mp hsome
  exact ⟨cur, rfl, h.held .writes (some s) (see_of_ne hwrites)⟩

/-- What the handling of a failed attempt needs of the operation it is part of. -/
structure Captured (may : StateTrace → Option AppState → Option AppState → Prop)
    (known : StateKnown) (base : Look → Base) (s : AppState) (id : String)
    (snapshot : UpdateSnapshot) : Prop where
  gate : known .gate = .free
  writes : known .writes ≠ .free
  base : base .attempt = .snapshot id
  attempt : ∀ cur next attemptedAt, updateSnapshot s id = updateSnapshot cur id →
    commitFailedAttempt snapshot attemptedAt cur = .ok next →
    may [.loaded .capture (some s), .loaded .attempt (some cur)] (some cur) (some next)

/-- An attempt after a capture. -/
abbrev AfterCapture {α : Type} (may : StateTrace → Option AppState → Option AppState → Prop)
    (known : StateKnown) (base : Look → Base) (s : AppState) (good : α → Prop)
    (x : Attempt SubscriptionOperationError α) : Prop :=
  Meets may (known.see (some s)) [.loaded .capture (some s)] (Offering base .busy known
    (known.see (some s)) [.loaded .capture (some s)] good) x

/-- **Spec.**  A failed attempt is recorded over the snapshot it belongs to. -/
theorem Captured.failAttempt {α : Type} (h : Captured may known base s id snapshot)
    (attemptedAt : UInt64) (error : SubscriptionOperationError) (good : α → Prop) :
    AfterCapture may known base s good (failAttempt snapshot attemptedAt error) := by
  have hrecord : Meets may (known.see (some s)) [.loaded .capture (some s)]
      (Keeping known (Yields base .busy))
      (decideUnderGate errors .attempt (decideFailedAttempt snapshot attemptedAt)) := by
    refine wp_commit h.gate h.writes (by simp) fun a ha w => ?_
    obtain ⟨cur, rfl, hcontent⟩ := current_of_allows h.writes ha
    have hsame := updateSnapshot_congr hcontent id
    have hbase : (base .attempt).Same (some s) (some cur) := by
      rw [h.base]
      exact hsame
    rcases hd : decideFailedAttempt snapshot attemptedAt w (some cur) with e | ⟨save, _⟩
    · exact fun hchanged => absurd hbase hchanged
    · obtain ⟨cur', next, hcur, rfl, hcommit⟩ := decideFailedAttempt_ok hd
      cases hcur
      exact ⟨hbase, h.attempt cur next attemptedAt hsame hcommit⟩
  refine ⟨Prog.wp_except.mpr (Prog.wp_mono (fun result k t hend => ?_) hrecord.wp)⟩
  cases result with
  | error e => exact ⟨hend.1, hend.2.of_error⟩
  | ok _ => exact ⟨hend.1, hend.2.of_ok⟩

/-- A fetch keeps what was captured before it. -/
theorem Captured.fetchRemote (h : Captured may known base s id snapshot) :
    AfterCapture may known base s (fun _ => True) (fetchRemote snapshot) := by
  refine wp_answer (fun _ => .captured) fun fetched _ _ => ?_
  cases fetched with
  | ok fetched => exact .pure trivial
  | error error =>
    refine wp_answer (fun _ => .captured) fun closing _ _ => ?_
    by_cases hclosing : (error = .busy && closing) = true
    · rw [if_pos hclosing]
      exact ⟨.captured⟩
    · rw [if_neg hclosing]
      refine wp_answer (fun _ => .captured) fun attemptedAt _ _ => ?_
      exact h.failAttempt attemptedAt error _

/-- The body of an update is the one that `updateFetched` names. -/
theorem Captured.fetchUpdate (h : Captured may known base s id snapshot) (content : Option String)
    (routeOverride : Bool) :
    AfterCapture may known base s
      (fun fetched => ∃ remote, updateFetched snapshot content routeOverride remote = .ok fetched.1)
      (fetchUpdate snapshot content routeOverride) := by
  have hgiven : AfterCapture may known base s
      (fun fetched : FetchResult × Option UInt64 =>
        ∃ remote, updateFetched snapshot content routeOverride remote = .ok fetched.1)
      (do
        let fetched ← updateFetched snapshot content routeOverride (.error .invalidInput)
        Pure.pure (fetched, none)) :=
    wp_check (fun _ => .captured) fun fetched hfetched => .pure ⟨_, hfetched⟩
  rw [SubscriptionManager.fetchUpdate.eq_def]
  cases hsource : snapshot.source with
  | manual => exact hgiven
  | remote url =>
    cases content with
    | some body => exact hgiven
    | none =>
      refine wp_check (fun _ => .captured) fun request hrequest => ?_
      refine h.fetchRemote.bind (fun _ _ _ hend => hend) fun fetched _ => ?_
      refine wp_answer (fun _ => .captured) fun attemptedAt _ _ => ?_
      refine .pure ⟨.ok fetched, ?_⟩
      rw [updateFetched.eq_def, hsource]
      exact ok_bind.mpr ⟨request, hrequest, rfl⟩

/-- Parsing keeps what was captured before it. -/
theorem Captured.parseUpdate (h : Captured may known base s id snapshot) (env : SubscriptionEnv)
    (fetched : FetchResult) (attemptedAt : Option UInt64) :
    AfterCapture may known base s
      (fun parsed => updateParsed env.toContentEnv fetched = .ok parsed)
      (parseUpdate env snapshot fetched attemptedAt) := by
  rw [SubscriptionManager.parseUpdate]
  cases hparsed : updateParsed env.toContentEnv fetched with
  | ok parsed => exact .pure rfl
  | error error =>
    dsimp only
    cases snapshot.source with
    | remote url =>
      refine wp_check (fun _ => .captured) fun time _ => ?_
      exact h.failAttempt time error _
    | manual => exact ⟨.captured⟩

/-- The check for a body keeps what was captured before it. -/
theorem Captured.requireBody (h : Captured may known base s id snapshot) (fetched : FetchResult)
    (attemptedAt : Option UInt64) :
    AfterCapture may known base s (fun _ => cacheUnavailable snapshot fetched = false)
      (requireBody snapshot fetched attemptedAt) := by
  rw [SubscriptionManager.requireBody]
  by_cases hneeds : cacheUnavailable snapshot fetched = true
  · rw [if_pos hneeds]
    refine wp_check (fun _ => .captured) fun time _ => ?_
    exact h.failAttempt time _ _
  · rw [if_neg hneeds]
    exact .pure (by simpa using hneeds)

end Captured

/-- An update compares what it captured with the state that it saves over. -/
theorem update_sound (id : String) (content : Option String) (routeOverride : Bool) :
    (StateOperation.update id content routeOverride).Sound env .busy
      (update env id content routeOverride) := by
  refine wp_beginWriteOwned rfl .nil ?_
  refine wp_check (fun _ => .first) fun _ _ => ?_
  refine wp_capture (by simp [Known.nothing]) (fun b snapshot hlook => ?_) ?_
  · obtain ⟨s, hs, hlook⟩ := ok_bind.mp hlook
    obtain ⟨found, hfound, hlook⟩ := ok_bind.mp hlook
    cases hlook
    obtain rfl := okOr_eq_ok.mp hs
    have h : Captured ((StateOperation.update id content routeOverride).Saves env)
        (Function.update Known.nothing .writes .blind)
        (StateOperation.update id content routeOverride).base s id snapshot := by
      refine ⟨by simp [Known.nothing], by simp, rfl, fun cur next time hsame hcommit => ?_⟩
      refine ⟨.attempt, next, rfl, .updateAttempt (.failedAttempt hfound hcommit), by simp, ?_⟩
      intro b' hb'
      obtain rfl : b' = some s := by simpa using hb'
      exact hsame
    refine (h.fetchUpdate content routeOverride).bind (fun _ _ _ hend => hend) ?_
    rintro ⟨fetched, attemptedAt⟩ ⟨remote, hremote⟩
    refine (h.parseUpdate env fetched attemptedAt).bind (fun _ _ _ hend => hend) ?_
    intro parsed hparsed
    refine (h.requireBody fetched attemptedAt).bind (fun _ _ _ hend => hend) ?_
    intro _ husable
    refine wp_commit h.gate h.writes (by simp) fun a ha w => ?_
    obtain ⟨cur, rfl, hcontent⟩ := current_of_allows h.writes ha
    have hsame := updateSnapshot_congr hcontent id
    rcases hd : decideUpdate env id snapshot fetched parsed attemptedAt w (some cur) with
      e | ⟨save, x⟩
    · exact fun hchanged => absurd hsame hchanged
    · obtain ⟨cur', next, time, changed, hcur, rfl, hcommit⟩ := decideUpdate_ok hd
      cases hcur
      refine ⟨hsame, .commit, next, rfl, .update (.update hfound hremote hparsed husable hcommit),
        by simp, fun b' hb' => ?_⟩
      obtain rfl : b' = some s := by simpa using hb'
      exact hsame
  · intro b next x hlook
    obtain ⟨s, -, hlook⟩ := ok_bind.mp hlook
    obtain ⟨found, -, hlook⟩ := ok_bind.mp hlook
    cases hlook

/-- The replacement of an edit is read from a body that was fetched for a captured snapshot. -/
theorem replacementFor_meets {known : StateKnown} (env : SubscriptionEnv)
    {input : EditSubscription} {baseline : AppState} (hgate : known .gate = .free)
    (hwrites : known .writes ≠ .free) (urlChanged : Bool) :
    AfterCapture ((StateOperation.edit input).Saves env) known (StateOperation.edit input).base
      baseline (fun replacement => ∃ fetched,
        EditReplaces env baseline input.id urlChanged fetched replacement)
      (replacementFor env baseline input.id urlChanged) := by
  rw [replacementFor]
  by_cases hurl : urlChanged = true
  · rw [if_pos hurl]
    have hfetch : AfterCapture ((StateOperation.edit input).Saves env) known
        (StateOperation.edit input).base baseline
        (fun replacement => ∃ fetched now snapshot,
          updateSnapshot baseline input.id = .ok snapshot ∧
            editReplacement env.toContentEnv fetched now = .ok replacement)
        (fetchReplacement env baseline input.id) := by
      refine wp_check (fun _ => .captured) fun snapshot hsnapshot => ?_
      have h : Captured ((StateOperation.edit input).Saves env) known
          (StateOperation.edit input).base baseline input.id snapshot := by
        refine ⟨hgate, hwrites, rfl, fun cur next time hsame hcommit => ?_⟩
        refine ⟨.attempt, next, rfl, .editAttempt (.failedAttempt hsnapshot hcommit), by simp, ?_⟩
        intro b' hb'
        obtain rfl : b' = some baseline := by simpa using hb'
        exact hsame
      refine h.fetchRemote.bind (fun _ _ _ hend => hend) fun fetched _ => ?_
      refine wp_answer (fun _ => .captured) fun attemptedAt _ _ => ?_
      cases hreplacement : editReplacement env.toContentEnv fetched attemptedAt with
      | ok replacement => exact .pure ⟨fetched, attemptedAt, snapshot, hsnapshot, hreplacement⟩
      | error error => exact h.failAttempt attemptedAt error _
    refine hfetch.bind (fun _ _ _ hend => hend) ?_
    rintro replacement ⟨fetched, now, snapshot, hsnapshot, hreplacement⟩
    exact .pure ⟨some (fetched, now), hurl, ⟨snapshot, hsnapshot⟩, hreplacement⟩
  · rw [if_neg hurl]
    exact .pure ⟨none, by simpa [EditReplaces] using hurl⟩

/-- An edit compares the whole state. -/
theorem edit_sound (env : SubscriptionEnv) (input : EditSubscription) :
    (StateOperation.edit input).Sound env .busy (edit env input) := by
  refine wp_beginWriteOwned rfl .nil ?_
  refine wp_check (fun _ => .first) fun _ _ => ?_
  refine wp_capture (by simp [Known.nothing]) (fun b baseline hlook => ?_) ?_
  · obtain ⟨s, hs, hlook⟩ := ok_bind.mp hlook
    cases hlook
    obtain rfl := okOr_eq_ok.mp hs
    refine wp_check (fun _ => .captured) fun prepared hprepared => ?_
    obtain ⟨edited, urlChanged⟩ := prepared
    refine (replacementFor_meets env (by simp [Known.nothing]) (by simp) urlChanged).bind
      (fun _ _ _ hend => hend) ?_
    rintro replacement ⟨fetched, hreplaces⟩
    refine wp_commit (by simp [Known.nothing]) (by simp) (by simp) fun a ha w => ?_
    obtain ⟨cur, rfl, -⟩ := current_of_allows (by simp) ha
    rcases hd : decideEdit env baseline input.id edited replacement w (some cur) with
      e | ⟨save, x⟩
    · intro hchanged
      rw [decideEdit_stale fun hsame => hchanged (congrArg some hsame.symm)] at hd
      cases hd
      rfl
    · obtain ⟨cur', next, changed, hcur, rfl, hcommit⟩ := decideEdit_ok hd
      cases hcur
      have hsame : cur = baseline := by
        by_contra hchanged
        rw [decideEdit_stale hchanged] at hd
        cases hd
      refine ⟨congrArg some hsame.symm, .commit, next, rfl,
        .edit (.edit hprepared hreplaces hcommit), by simp, fun b' hb' => ?_⟩
      obtain rfl : b' = some baseline := by simpa using hb'
      exact congrArg some hsame.symm
  · intro b next x hlook
    obtain ⟨s, -, hlook⟩ := ok_bind.mp hlook
    cases hlook

/-- A document is saved under both guards, over the state it was prepared for. -/
theorem saveDocument_sound (env : SubscriptionEnv) (input : DocumentSaveInput) :
    (StateOperation.document input).Sound env .documentConflict (saveDocument env input) := by
  refine wp_underRuntimeGuard rfl .nil ?_
  refine wp_answer (fun _ => .first) fun worker _ _ => ?_
  refine wp_check (fun _ => .first) fun parsed hparsed => ?_
  refine wp_beginWriteOwned (by simp [Known.nothing]) .nil ?_
  refine wp_capture (by simp [Known.nothing]) (fun b before hlook => ?_) ?_
  · obtain ⟨s, hs, hlook⟩ := ok_bind.mp hlook
    cases hlook
    obtain rfl := okOr_eq_ok.mp hs
    refine wp_check (fun _ => .captured) fun prepared hprepared => ?_
    have hprepares : prepareDocumentSave env worker input before = .ok prepared :=
      ok_bind.mpr ⟨parsed, hparsed, hprepared⟩
    have hbefore := prepareDocumentSave_before hprepares
    refine wp_answer (fun _ => .captured) fun interrupted _ _ => ?_
    cases interrupted with
    | some error => exact ⟨.captured⟩
    | none =>
      refine wp_commit (by simp [Known.nothing]) (by simp) (by simp) fun a ha w => ?_
      obtain ⟨cur, rfl, -⟩ := current_of_allows (by simp) ha
      rcases hd : decideDocument prepared w (some cur) with e | ⟨save, x⟩
      · intro hchanged
        rw [decideDocument_stale fun hsame =>
          hchanged (congrArg some (hsame.trans hbefore).symm)] at hd
        cases hd
        rfl
      · obtain ⟨cur', hcur, hcommit⟩ := decideDocument_ok hd
        cases hcur
        have hsame : (some before : Option AppState) = some cur := by
          by_contra hchanged
          rw [decideDocument_stale fun hsame =>
            hchanged (congrArg some (hsame.trans hbefore).symm)] at hd
          cases hd
        cases save with
        | none => exact hsame
        | some next =>
          refine ⟨hsame, .commit, next, rfl, .document (.document hprepares hcommit), by simp,
            fun b' hb' => ?_⟩
          obtain rfl : b' = some before := by simpa using hb'
          exact hsame
  · intro b next x hlook
    obtain ⟨s, -, hlook⟩ := ok_bind.mp hlook
    cases hlook

end SubscriptionManager

/-- An activation commits under both guards, over the state it was planned for. -/
theorem activateProgram_sound (env : SubscriptionEnv) (id : String) (force : Bool)
    (generation : Option UInt64) :
    (StateOperation.activate id force generation).Sound env .busy
      (activateProgram id force generation) := by
  refine wp_answer (fun _ => .first) fun _ _ _ => ?_
  refine wp_check (fun _ => .first) fun _ _ => ?_
  refine wp_underRuntimeGuard rfl .nil ?_
  refine wp_beginWriteOwned (by simp [Known.nothing]) .nil ?_
  refine wp_capture (by simp [Known.nothing]) (fun b expected hlook => ?_) ?_
  · obtain ⟨s, hs, hlook⟩ := ok_bind.mp hlook
    cases hlook
    obtain rfl := okOr_eq_ok.mp hs
    refine wp_check (fun _ => .captured) fun plan hplan => ?_
    obtain ⟨hexpected, -⟩ := planActivation_ok hplan
    refine wp_answer (fun _ => .captured) fun preempted _ _ => ?_
    rcases preempted with _ | error | _
    · refine wp_commit (by simp [Known.nothing]) (by simp) (by simp) fun a ha w => ?_
      obtain ⟨cur, rfl, -⟩ := SubscriptionManager.current_of_allows (by simp) ha
      rcases hd : decideActivation plan w (some cur) with e | ⟨save, goesOn⟩
      · intro hchanged
        rw [decideActivation_stale fun hsame =>
          hchanged (congrArg some (hsame.trans hexpected).symm)] at hd
        cases hd
        rfl
      · obtain ⟨hcur, hcommit⟩ := decideActivation_ok hd
        have hsame : (some expected : Option AppState) = some cur := by rw [hcur, hexpected]
        cases save with
        | none => exact hsame
        | some next =>
          have hcommit := hcommit next rfl
          rw [← Option.some.inj hcur] at hcommit
          refine ⟨hsame, .commit, next, rfl, .activate ⟨hplan, hcommit⟩, by simp,
            fun b' hb' => ?_⟩
          obtain rfl : b' = some expected := by simpa using hb'
          exact hsame
    · exact ⟨.captured⟩
    · exact ⟨.captured⟩
  · intro b next x hlook
    obtain ⟨s, -, hlook⟩ := ok_bind.mp hlook
    cases hlook

/-! ### Mutations -/

namespace ProxyRouting

/-- A mutation that is saved keeps subscriptions, providers and nodes. -/
theorem mutateOn_save_content {env : Env} {observed : RevisionState} {request : MutateRequest}
    {a : Option AppState} {next : AppState} {outcome : MutationOutcome}
    (h : mutateOn env observed request (a.getD .empty) = .ok (.save next outcome)) :
    SameContent a (some next) := by
  obtain ⟨-, h⟩ := ok_seq.mp h
  have hstate : mutateState env observed request.mutation (a.getD .empty) =
      .ok (.save next outcome) := by
    split at h
    · obtain ⟨id, -, hid⟩ := map_eq_ok.mp h
      cases hid
    · exact h
  obtain ⟨⟨edited, reported⟩, hedited, h⟩ := ok_bind.mp hstate
  have hkeeps := applyMutation_ok hedited
  simp only at h
  split at h
  · cases h
  · obtain ⟨generation, -, h⟩ := ok_bind.mp h
    obtain ⟨-, h⟩ := ok_seq.mp h
    obtain ⟨-, h⟩ := ok_seq.mp h
    cases h
    exact ⟨hkeeps.subscriptions, hkeeps.providers, hkeeps.nodes⟩

/-- At another revision than the one it was asked for, a mutation is a conflict. -/
theorem mutateOn_conflict {env : Env} {observed : RevisionState} {request : MutateRequest}
    {s : AppState} (h : observed.revision ≠ request.expectedRevision) :
    mutateOn env observed request s = .error .conflict := by
  rw [mutateOn, decide_eq_true h, reject_true]
  rfl

theorem RevisionState.after_ok {r observed : RevisionState} {material : CasMaterial}
    (h : r.observe material = .ok observed) : RevisionState.after material r = observed := by
  rw [RevisionState.after, h]

/-- The revision that is remembered follows the one before. -/
theorem RevisionState.after_follows (r : RevisionState) (material : CasMaterial) :
    r.Follows (RevisionState.after material r) := by
  rw [RevisionState.after]
  cases h : r.observe material with
  | ok observed => exact (observe_ok h).follows
  | error e => exact .refl r

/-- A material that cannot be observed is not the last one. -/
theorem RevisionState.observe_error {r : RevisionState} {material : CasMaterial} {e : MutationError}
    (h : r.observe material = .error e) :
    (RevisionState.after material r).material ≠ some material := by
  rw [RevisionState.after, h]
  intro hsame
  rw [observe, if_pos hsame] at h
  cases h

/-- Events that are no look at the state. -/
def Blind (rest : StateTrace) : Prop :=
  (∀ tag c, .loaded tag c ∉ rest) ∧ ∀ tag m, .recalled tag m ∈ rest → tag = .known

section Mutate

variable {env : Env} {request : MutateRequest} {trace : StateTrace}
  {may : StateTrace → Option AppState → Option AppState → Prop}
  {C : MutateNext → StateTrace → Prop}

/-- An error reports the revision that is known. -/
theorem failKnown_wp {known : StateKnown} {Q : MutateNext → StateKnown → StateTrace → Prop}
    (error : MutationError)
    (h : ∀ revision r, Q (.error error revision) known (trace ++ [.recalled .known r])) :
    (failKnown error).wp stateDiscipline may known trace Q :=
  fun r _ => ⟨.refl r, h _ r⟩

/-- **Spec.**  A mutation saves over the state that it loaded, at the revision that it was asked
for, and is a conflict at any other. -/
theorem mutateProgram_wp
    (hmay : ∀ a r observed next outcome,
      Recalls stateDiscipline (trace ++ [.loaded .commit a]) r →
      r.observe (.of (a.getD .empty)) = .ok observed →
      mutateOn env observed request (a.getD .empty) = .ok (.save next outcome) →
      may (trace ++ [.loaded .commit a, .recalled .commit observed]) a (some next))
    (hunlooked : ∀ error revision r, C (.error error revision) (trace ++ [.recalled .known r]))
    (hlooked : ∀ a r result rest, Blind rest →
      (r.material = some (.of (a.getD .empty)) → r.revision ≠ request.expectedRevision →
        (∃ revision, result = .error .conflict revision) ∧ Unsaved rest) →
      C result (trace ++ .loaded .commit a :: .recalled .commit r :: rest)) :
    (mutateProgram env request).wp stateDiscipline may Known.nothing trace
      (Keeping Known.nothing C) := by
  rw [mutateProgram]
  by_cases hrange : (!(1 ≤ request.expectedRevision &&
      request.expectedRevision ≤ maxSafeInteger)) = true
  · rw [if_pos hrange]
    exact failKnown_wp _ fun revision r => ⟨.refl _, hunlooked _ revision r⟩
  · rw [if_neg hrange]
    refine wp_underGate rfl (fun e => failKnown_wp _ fun revision r =>
      ⟨.refl _, hunlooked _ revision r⟩) (failKnown_wp _ fun revision r => ?_) fun a _ r hr => ?_
    · exact Keeping.release rfl ⟨.refl _, hunlooked _ revision r⟩
    · refine ⟨RevisionState.after_follows r _, ?_⟩
      have halike := Known.alike_see (update Known.nothing StateLock.gate .blind) a
      have hend : ∀ result rest, Blind rest →
          ((RevisionState.after (.of (a.getD .empty)) r).material = some (.of (a.getD .empty)) →
            (RevisionState.after (.of (a.getD .empty)) r).revision ≠ request.expectedRevision →
            (∃ revision, result = .error .conflict revision) ∧ Unsaved rest) → ∀ k,
          Known.Alike (update Known.nothing StateLock.gate .blind) k →
          k .gate ≠ .free ∧ Keeping Known.nothing C result (update k .gate .free)
            (trace ++ [.loaded .commit a] ++
              .recalled .commit (RevisionState.after (.of (a.getD .empty)) r) :: rest) := by
        intro result rest hblind hconflict k hk
        refine Keeping.release rfl ⟨hk, ?_⟩
        rw [List.append_assoc]
        exact hlooked a _ result rest hblind hconflict
      beta_reduce
      cases hobserve : r.observe (.of (a.getD .empty)) with
      | error e =>
        refine failKnown_wp _ fun revision r' => ?_
        rw [List.append_assoc _ _ [_]]
        refine hend _ [.recalled .known r'] ?_ ?_ _ halike
        · exact ⟨by simp, by simp⟩
        · exact fun hmaterial => absurd hmaterial (RevisionState.observe_error hobserve)
      | ok observed =>
        have hafter := RevisionState.after_ok hobserve
        have hblind : Blind [] := ⟨by simp, by simp⟩
        rw [hafter] at hend ⊢
        dsimp only
        cases hmutate : mutateOn env observed request (a.getD .empty) with
        | error e =>
          refine hend _ [] hblind (fun _ hrevision => ?_) _ halike
          rw [mutateOn_conflict hrevision] at hmutate
          cases hmutate
          exact ⟨⟨_, rfl⟩, fun value => List.not_mem_nil⟩
        | ok decision =>
          have hrevision : ¬ observed.revision ≠ request.expectedRevision := fun hrevision => by
            rw [mutateOn_conflict hrevision] at hmutate
            cases hmutate
          cases decision with
          | apply activeId generation =>
            exact hend _ [] hblind (fun _ h => absurd h hrevision) _ halike
          | unchanged outcome =>
            exact hend _ [] hblind (fun _ h => absurd h hrevision) _ halike
          | save next outcome =>
            refine ⟨⟨a, by simp [Known.see, stateDiscipline], ?_, fun _ => rfl, ?_⟩, ?_, ?_⟩
            · rw [List.append_assoc]
              exact hmay a r observed next outcome hr hobserve hmutate
            · intro lock hfree
              cases lock with
              | gate => simp [Known.see] at hfree
              | writes => exact mutateOn_save_content hmutate
              | runtime => trivial
            · refine fun r' _ => ⟨RevisionState.after_follows r' _, ?_⟩
              rw [Known.see_see]
              have hrest : Blind [.saved (some next),
                  .recalled .known (RevisionState.after (.of next) r')] := ⟨by simp, by simp⟩
              have halike' := Known.alike_see (update Known.nothing StateLock.gate .blind)
                (some next)
              have hsaved := fun result =>
                hend result _ hrest (fun _ h => absurd h hrevision) _ halike'
              rw [List.append_cons, List.append_cons] at hsaved
              beta_reduce
              cases r'.observe (.of next) with
              | error e => exact hsaved _
              | ok committed => exact hsaved _
            · exact hend _ [] hblind (fun _ h => absurd h hrevision) _ halike

end Mutate

/-- A mutation that may be saved is committed at the revision of the loaded state. -/
theorem MutationCommit.of_observed {env : Env} {request : MutateRequest} {a : Option AppState}
    {r observed : RevisionState} {next : AppState} {outcome : MutationOutcome}
    (hobserve : r.observe (.of (a.getD .empty)) = .ok observed)
    (hmutate : mutateOn env observed request (a.getD .empty) = .ok (.save next outcome)) :
    MutationCommit env request (a.getD .empty) next :=
  .mk (ok_bind.mpr ⟨observed, hobserve, ok_bind.mpr ⟨_, hmutate, rfl⟩⟩)

/-- Whoever asks for a mutation with a revision: the one of the loaded state, or a conflict. -/
theorem mutate_keeps (env : SubscriptionEnv) (routing : Env) (request : MutateRequest) :
    (mutateProgram routing request).wp stateDiscipline
      ((StateOperation.mutate routing request).Saves env) Known.nothing []
      (Keeping Known.nothing fun result trace =>
        (StateOperation.mutate routing request).Concludes (.mutated (.ok result)) trace) := by
  refine mutateProgram_wp ?_ ?_ ?_
  · intro a r observed next outcome _ hobserve hmutate
    exact ⟨.commit, next, rfl, .mutate (.of_observed hobserve hmutate), by simp,
      fun _ _ => trivial⟩
  · rintro error revision r ⟨a, r', hlooked, -⟩
    cases List.mem_singleton.mp hlooked
  · rintro a r result rest ⟨hloads, hrecalls⟩ hconflict ⟨a', r', hlooked, hrecalled, hmaterial,
      hrevision⟩
    have ha : a' = a := by simpa [hloads] using hlooked
    have hr : r' = r := by
      rcases List.mem_cons.mp hrecalled with heq | hrecalled
      · cases heq
      · rcases List.mem_cons.mp hrecalled with heq | hrecalled
        · cases heq
          rfl
        · cases hrecalls _ _ hrecalled
    rw [ha, hr] at hmaterial
    rw [hr] at hrevision
    obtain ⟨⟨revision, rfl⟩, hunsaved⟩ := hconflict hmaterial hrevision
    exact ⟨⟨revision, rfl⟩, fun value hsaved => hunsaved value (by simpa using hsaved)⟩

/-- A mutation at the revision that a query told is saved over the material of that query. -/
theorem readAndMutate_keeps (env : SubscriptionEnv) (routing : Env)
    (choose : AppState → Mutation) :
    (readAndMutate routing choose).run.wp stateDiscipline
      ((StateOperation.readAndMutate routing choose).Saves env) Known.nothing []
      (Keeping Known.nothing fun result trace =>
        (StateOperation.readAndMutate routing choose).Concludes (.mutated result) trace) := by
  have hquery : ∀ (result : Except QueryError MutateNext) (t : StateTrace),
      (∀ a, .loaded .commit a ∉ t) →
      (StateOperation.readAndMutate routing choose).Concludes (.mutated result) t := by
    rintro result t hcommit ⟨told, a, r, -, hlooked, -⟩
    exact absurd hlooked (hcommit a)
  refine Prog.wp_except.mpr ?_
  rw [queryProgram, ExceptT.run_mk]
  refine wp_underGate rfl (fun e => ⟨.refl _, hquery _ [] (by simp)⟩)
    (Keeping.release rfl ⟨.refl _, hquery _ [] (by simp)⟩) fun b _ r _ => ?_
  refine ⟨RevisionState.after_follows r _, ?_⟩
  beta_reduce
  cases hobserve : r.observe (.of (b.getD .empty)) with
  | error e =>
    exact Keeping.release rfl ⟨Known.alike_see _ b, hquery _ _ (by simp)⟩
  | ok observed =>
    rw [RevisionState.after_ok hobserve]
    refine ⟨by simp [Known.see], ?_⟩
    have hnothing : update (Known.see (update Known.nothing StateLock.gate .blind) b) .gate .free =
        Known.nothing := Known.release_see rfl b
    dsimp only
    rw [hnothing, ExceptT.run_mk]
    have hmutate : (mutateProgram routing ⟨observed.revision, choose (b.getD .empty)⟩).wp
        stateDiscipline ((StateOperation.readAndMutate routing choose).Saves env) Known.nothing
        ([] ++ [.loaded .capture b] ++ [.recalled .capture observed])
        (Keeping Known.nothing fun result trace =>
          (StateOperation.readAndMutate routing choose).Concludes (.mutated (.ok result)) trace) :=
      mutateProgram_wp ?_ ?_ ?_
    · exact Prog.wp_bind.mpr hmutate
    · intro a r' observed' next outcome hr hobserve' hmutate
      have hfollows : observed.Follows observed' :=
        (hr .capture observed (by simp)).trans (RevisionState.observe_ok hobserve').follows
      have hrevision : observed'.revision = observed.revision := by
        by_contra hrevision
        rw [mutateOn_conflict hrevision] at hmutate
        cases hmutate
      have hmaterial : CasMaterial.of (b.getD .empty) = .of (a.getD .empty) := by
        have hsame := (RevisionState.observe_ok hobserve').seen
        rw [hfollows.names hrevision, (RevisionState.observe_ok hobserve).seen] at hsame
        exact Option.some.inj hsame
      refine ⟨.commit, next, rfl, .readAndMutate (.of_observed hobserve' hmutate), by simp, ?_⟩
      intro b' hb'
      obtain rfl : b' = b := by simpa using hb'
      exact hmaterial
    · exact fun error revision r' => hquery _ _ (by simp)
    · rintro a r' result rest ⟨hloads, hrecalls⟩ hconflict ⟨told, a', r'', htold, hlooked,
        hrecalled, hmaterial, hrevision⟩
      have ha : a' = a := by simpa [hloads] using hlooked
      have hquiet : ∀ m tag, .recalled tag m ∈ rest → tag ≠ .known → False :=
        fun m tag hmem htag => htag (hrecalls tag m hmem)
      have htold : told = observed := by
        have htold : told = observed ∨ .recalled .capture told ∈ rest := by simpa using htold
        exact htold.resolve_right fun hmem => hquiet told .capture hmem (by simp)
      have hr : r'' = r' := by
        have hr : r'' = r' ∨ .recalled .commit r'' ∈ rest := by simpa using hrecalled
        exact hr.resolve_right fun hmem => hquiet r'' .commit hmem (by simp)
      rw [ha, hr] at hmaterial
      rw [hr, htold] at hrevision
      obtain ⟨⟨revision, rfl⟩, hunsaved⟩ := hconflict hmaterial hrevision
      exact ⟨⟨revision, rfl⟩, fun value hsaved => hunsaved value (by simpa using hsaved)⟩

end ProxyRouting

/-! ## Every operation -/

/-- What an attempt keeps, the operation it is keeps. -/
theorem StateOperation.Sound.program {ε α : Type} {env : SubscriptionEnv} {op : StateOperation}
    {superseded : ε} {x : Attempt ε α} (h : op.Sound env superseded x)
    (hop : ∀ trace, op.Superseded trace → Stale op.base trace)
    {report : Except ε α → StateResult}
    (hreport : (report (.error superseded)).IsSuperseded) :
    (report <$> x.run).wp stateDiscipline (op.Saves env) Known.nothing []
      (Keeping Known.nothing op.Concludes) := by
  refine Prog.wp_bind.mpr (Prog.wp_mono (fun result k t hend => ⟨hend.1, fun hstale => ?_⟩) h.wp)
  obtain ⟨rfl, hunsaved⟩ := hend.2 (hop t hstale)
  exact ⟨hreport, hunsaved⟩

/-- **Every operation keeps the discipline.** -/
theorem StateOperation.keeps (env : SubscriptionEnv) (op : StateOperation) :
    (op.program env).wp stateDiscipline (op.Saves env) Known.nothing []
      fun result known trace => (∀ lock, known lock = .free) ∧ op.Concludes result trace := by
  suffices h : (op.program env).wp stateDiscipline (op.Saves env) Known.nothing []
      (Keeping Known.nothing op.Concludes) from
    Prog.wp_mono (fun result k t h => ⟨fun lock => (h.1 lock).mpr rfl, h.2⟩) h
  cases op with
  | importManual name description content =>
    exact (SubscriptionManager.importManual_sound name description content).program
      (fun _ h => h) rfl
  | importRemote name description url options =>
    exact (SubscriptionManager.importRemote_sound name description url options).program
      (fun _ h => h) rfl
  | update id content routeOverride =>
    exact (SubscriptionManager.update_sound id content routeOverride).program (fun _ h => h) rfl
  | edit input => exact (SubscriptionManager.edit_sound env input).program (fun _ h => h) rfl
  | document input =>
    exact (SubscriptionManager.saveDocument_sound env input).program (fun _ h => h) rfl
  | delete id stopped =>
    exact (SubscriptionManager.delete_sound id stopped).program (fun _ h => h) rfl
  | mutate routing request =>
    exact Prog.wp_bind.mpr (ProxyRouting.mutate_keeps env routing request)
  | readAndMutate routing choose =>
    exact Prog.wp_bind.mpr (ProxyRouting.readAndMutate_keeps env routing choose)
  | activate id force generation =>
    exact (activateProgram_sound env id force generation).program (fun _ h => h) rfl

/-! ## Every interleaving -/

/-- The operations in one process, the stored state, and how far each has come. -/
abbrev StateConfig (I : Type) :=
  Config I StateLock (Option AppState) ProxyRouting.RevisionState Answers Look StateResult

/-- No update is lost: who saves holds the gate and saves what it derives from exactly the stored
state; who was superseded says so, is in the log of saves nowhere and holds no lock; the saves lead
from the first state to the stored one, each derived from the one before; and no operation is ever
stuck. -/
structure LosesNothing {I : Type} [DecidableEq I] (env : SubscriptionEnv)
    (ops : I → StateOperation) (first : Option AppState) (c : StateConfig I) : Prop where
  saves : ∀ i value next, c.prog i = .save value next →
    c.owner .gate = some i ∧ (ops i).Saves env (c.trace i) c.stored value
  concludes : ∀ i result, c.prog i = .done result →
    (∀ lock, c.owner lock ≠ some i) ∧ ((ops i).Superseded (c.trace i) →
      result.IsSuperseded ∧ ∀ a b, (i, a, b) ∉ c.log)
  path : Path first c.log c.stored
  derived : ∀ i a b, (i, a, b) ∈ c.log →
    ∃ look after, b = some after ∧ (ops i).Derives env look a after
  finishes : ∀ i, ∃ moves d result, Transition.Runs Config.step Transition.Free c moves d ∧
    (∀ move ∈ moves, move.thread = i) ∧ d.prog i = .done result

/-- The operations before their first step. -/
def StateConfig.start {I : Type} (env : SubscriptionEnv) (ops : I → StateOperation)
    (stored : Option AppState) (revisions : ProxyRouting.RevisionState) : StateConfig I :=
  Config.start stored revisions fun i => (ops i).program env

/-- What a world answers that has nothing to say. -/
def silentAnswers : Answers where
  closing := true
  poisoned := true
  fetched := .error .fetchFailed
  clock := none
  identity := none
  worker := none
  interrupted := none
  preempted := none

/-- **No lost update.**  In every interleaving of any number of operations of the three managers,
whatever the gate, the store and the world answer, no update is lost. -/
theorem no_lost_update {I : Type} [DecidableEq I] (env : SubscriptionEnv)
    (ops : I → StateOperation) (first : Option AppState)
    (revisions : ProxyRouting.RevisionState) {moves : List (Move I Answers)} {c : StateConfig I}
    (run : Transition.Runs Config.step Transition.Free (StateConfig.start env ops first revisions)
      moves c) :
    LosesNothing env ops first c := by
  have hkeeps := (Config.Keeps.start fun i => (ops i).keeps env).run run
  have hlogged : c.Logged := by
    refine Config.Logged.run (fun i a b hlog => ?_) run
    cases hlog
  refine ⟨fun i value next hprog => hkeeps.save hprog, fun i result hprog => ?_, hkeeps.path,
    fun i a b hlog => ?_, Config.finishes silentAnswers c⟩
  · obtain ⟨hconcludes, hlocks⟩ := hkeeps.done hprog
    refine ⟨hlocks, fun hsuperseded => ?_⟩
    obtain ⟨hresult, hunsaved⟩ := hconcludes hsuperseded
    exact ⟨hresult, fun a b hlog => hunsaved b (hlogged i a b hlog)⟩
  · obtain ⟨trace, look, after, hafter, hderives, -⟩ := hkeeps.allowed i a b hlog
    exact ⟨look, after, hafter, hderives⟩

/-! ### A race -/

/-- Two mutations of a first start, both asked for at the first revision. -/
def raceOps : Bool → StateOperation
  | true => .mutate ⟨fun _ => none, none⟩ ⟨1, .setDefaultTarget .block⟩
  | false => .mutate ⟨fun _ => none, none⟩ ⟨1, .setDefaultTarget .direct⟩

def raceMove (thread : Bool) : Move Bool Answers := ⟨thread, true, { silentAnswers with
  closing := false, poisoned := false }⟩

/-- The one asks first, and comes to the gate when the other has saved. -/
def raceMoves : List (Move Bool Answers) :=
  [raceMove true] ++ List.replicate 7 (raceMove false) ++ List.replicate 4 (raceMove true)

/-- The mutation that comes second is a conflict. -/
def endsInConflict : Program StateResult → Bool
  | .done (.mutated (.ok (.error .conflict _))) => true
  | _ => false

/-- A mutation that ends in a conflict. -/
theorem endsInConflict_iff {p : Program StateResult} (h : endsInConflict p = true) :
    ∃ revision, p = .done (.mutated (.ok (.error .conflict revision))) := by
  rw [endsInConflict.eq_def] at h
  split at h
  · exact ⟨_, rfl⟩
  · cases h

theorem no_lost_update_race : ∃ c : StateConfig Bool, c.log.length = 1 ∧
    (∃ revision, c.prog true = .done (.mutated (.ok (.error .conflict revision)))) ∧
    LosesNothing socksEnv raceOps none c := by
  have hrace : ((Transition.evaluate Config.step (fun _ _ => true)
      (StateConfig.start socksEnv raceOps none ⟨0, none⟩) raceMoves).any fun c =>
        decide (c.log.length = 1) && endsInConflict (c.prog true)) = true := by
    decide +kernel
  obtain ⟨c, hc, hends⟩ := (Option.any_eq_true _ _).mp hrace
  have hends : c.log.length = 1 ∧ endsInConflict (c.prog true) = true := by simpa using hends
  exact ⟨c, hends.1, endsInConflict_iff hends.2,
    no_lost_update socksEnv raceOps none ⟨0, none⟩ (.of_free hc)⟩

end Veyra
