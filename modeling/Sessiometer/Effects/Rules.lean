import Sessiometer.Effects.Program

/-! # Rules for programs

`wp D G p w Q`: in every run of `p` from `w` on the device `D`, each operation meets the
guarantee `G` and a returned value meets `Q`. -/

namespace Effects

universe u v

variable {S : Interface.{u}} {W : Type v} {α β : Type u}
variable {D D' G G' : Device S W}

def wp (D G : Device S W) : Prog S α → W → (α → W → Prop) → Prop
  | .pure a, w, Q => Q a w
  | .perform o k, w, Q => ∀ r w', D o w r w' → G o w r w' ∧ wp D G (k r) w' Q

/-- The guarantee that asks for nothing. -/
def anything : Device S W := fun _ _ _ _ => True

@[simp] theorem anything_iff {o : S.Op} {w w' : W} {r : S.Reply o} :
    (anything : Device S W) o w r w' ↔ True := Iff.rfl

@[simp] theorem wp_pure {a : α} {w : W} {Q : α → W → Prop} :
    wp D G (.pure a) w Q ↔ Q a w := Iff.rfl

theorem wp_perform {o : S.Op} {k : S.Reply o → Prog S α} {w : W} {Q : α → W → Prop} :
    wp D G (.perform o k) w Q ↔
      ∀ r w', D o w r w' → G o w r w' ∧ wp D G (k r) w' Q := Iff.rfl

theorem wp_bind {p : Prog S α} {f : α → Prog S β} {w : W} {Q : β → W → Prop} :
    wp D G (p >>= f) w Q ↔ wp D G p w (fun a w' => wp D G (f a) w' Q) := by
  induction p generalizing w with
  | pure a => exact Iff.rfl
  | perform o k ih =>
    rw [Prog.perform_bind, wp_perform, wp_perform]
    constructor
    · intro h r w' hd
      exact ⟨(h r w' hd).1, (ih r).mp (h r w' hd).2⟩
    · intro h r w' hd
      exact ⟨(h r w' hd).1, (ih r).mpr (h r w' hd).2⟩

theorem wp_mono {p : Prog S α} {w : W} {Q Q' : α → W → Prop}
    (h : wp D G p w Q) (hQ : ∀ a w', Q a w' → Q' a w') : wp D G p w Q' := by
  induction p generalizing w with
  | pure a => exact hQ a w h
  | perform o k ih =>
    intro r w' hd
    exact ⟨(h r w' hd).1, ih r (h r w' hd).2⟩

theorem wp_and {p : Prog S α} {w : W} {Q Q' : α → W → Prop}
    (h : wp D G p w Q) (h' : wp D G p w Q') : wp D G p w (fun a w' => Q a w' ∧ Q' a w') := by
  induction p generalizing w with
  | pure a => exact ⟨h, h'⟩
  | perform o k ih =>
    intro r w' hd
    exact ⟨(h r w' hd).1, ih r (h r w' hd).2 (h' r w' hd).2⟩

/-- A run on a smaller device is a run on the larger one. -/
theorem wp_device {p : Prog S α} {w : W} {Q : α → W → Prop} (h : wp D G p w Q)
    (hD : ∀ o w r w', D' o w r w' → D o w r w')
    (hG : ∀ o w r w', D' o w r w' → G o w r w' → G' o w r w') : wp D' G' p w Q := by
  induction p generalizing w with
  | pure a => exact h
  | perform o k ih =>
    intro r w' hd
    have hr := h r w' (hD o w r w' hd)
    exact ⟨hG o w r w' hd hr.1, ih r hr.2⟩

/-- The invariant rule: what every guaranteed operation preserves holds after the program. -/
theorem wp_invariant {I : W → Prop} {p : Prog S α} {w : W} {Q : α → W → Prop}
    (hI : ∀ o w r w', I w → D o w r w' → G o w r w' → I w')
    (h : wp D G p w Q) (hw : I w) : wp D G p w (fun a w' => Q a w' ∧ I w') := by
  induction p generalizing w with
  | pure a => exact ⟨h, hw⟩
  | perform o k ih =>
    intro r w' hd
    have hr := h r w' hd
    exact ⟨hr.1, ih r hr.2 (hI o w r w' hw hd hr.1)⟩

/-- A program none of whose operations can be told to fail the guarantee meets it. -/
theorem wp_of_forall {p : Prog S α} (hG : ∀ o w r w', D o w r w' → G o w r w') (w : W) :
    wp D G p w (fun _ _ => True) := by
  induction p generalizing w with
  | pure a => trivial
  | perform o k ih =>
    intro r w' hd
    exact ⟨hG o w r w' hd, ih r w'⟩

theorem wp_steps {p q : Prog S α} {w w' : W} {tr : List (Occurrence S)} {Q : α → W → Prop}
    (h : wp D G p w Q) (hs : Steps D p w tr q w') : wp D G q w' Q := by
  induction hs with
  | refl => exact h
  | head hd _ ih => exact ih (h _ _ hd).2

theorem wp_exec {p : Prog S α} {w w' : W} {a : α} {Q : α → W → Prop}
    (h : wp D G p w Q) (he : Exec D p w a w') : Q a w' := by
  obtain ⟨tr, hs⟩ := he
  exact wp_steps h hs

/-- What every guaranteed operation preserves holds throughout, also in an unfinished run. -/
theorem wp_always {I : W → Prop} {p q : Prog S α} {w w' : W} {tr : List (Occurrence S)}
    {Q : α → W → Prop} (hI : ∀ o w r w', I w → D o w r w' → G o w r w' → I w')
    (h : wp D G p w Q) (hw : I w) (hs : Steps D p w tr q w') : I w' := by
  induction hs with
  | refl => exact hw
  | head hd _ ih =>
    have hr := h _ _ hd
    exact ih hr.2 (hI _ _ _ _ hw hd hr.1)

/-- What the guarantee says of the operations, it says of every occurrence of a run. -/
theorem wp_occurrences {P : Occurrence S → Prop} {p q : Prog S α} {w w' : W}
    {tr : List (Occurrence S)} {Q : α → W → Prop}
    (h : wp D (fun o _ r _ => P ⟨o, r⟩) p w Q) (hs : Steps D p w tr q w') :
    ∀ x ∈ tr, P x := by
  induction hs with
  | refl => simp
  | head hd _ ih =>
    have hr := h _ _ hd
    intro x hx
    rcases List.mem_cons.mp hx with rfl | hx
    · exact hr.1
    · exact ih hr.2 x hx

/-- Without a guarantee, `wp` says what every finished run returns. -/
theorem wp_iff_exec {p : Prog S α} {w : W} {Q : α → W → Prop} :
    wp D anything p w Q ↔ ∀ a w', Exec D p w a w' → Q a w' := by
  constructor
  · intro h a w' he
    exact wp_exec h he
  · intro h
    induction p generalizing w with
    | pure a => exact h a w (exec_pure_iff.mpr ⟨rfl, rfl⟩)
    | perform o k ih =>
      intro r w' hd
      refine ⟨trivial, ih r ?_⟩
      intro a w'' he
      exact h a w'' (exec_perform_iff.mpr ⟨r, w', hd, he⟩)

/-- A program is guaranteed, and returns what it should, if it is guaranteed and each finished run
returns what it should. -/
theorem wp_iff_guaranteed {p : Prog S α} {w : W} {Q : α → W → Prop} :
    wp D G p w Q ↔ wp D G p w (fun _ _ => True) ∧ ∀ a w', Exec D p w a w' → Q a w' := by
  constructor
  · intro h
    exact ⟨wp_mono h (fun _ _ _ => trivial), fun a w' he => wp_exec h he⟩
  · rintro ⟨hg, hQ⟩
    induction p generalizing w with
    | pure a => exact hQ a w (exec_pure_iff.mpr ⟨rfl, rfl⟩)
    | perform o k ih =>
      intro r w' hd
      have hr := hg r w' hd
      refine ⟨hr.1, ih r hr.2 ?_⟩
      intro a w'' he
      exact hQ a w'' (exec_perform_iff.mpr ⟨r, w', hd, he⟩)

/-- A sequence is guaranteed if its first part is, and the rest after each finished run of that. -/
theorem wp_bind_guaranteed {p : Prog S α} {f : α → Prog S β} {w : W} {Q : β → W → Prop} :
    wp D G (p >>= f) w Q ↔ wp D G p w (fun _ _ => True) ∧
      ∀ a w', Exec D p w a w' → wp D G (f a) w' Q := by
  rw [wp_bind, wp_iff_guaranteed]

/-! ## What some run reaches -/

def Reaches (D : Device S W) (p : Prog S α) (w : W) (Q : α → W → Prop) : Prop :=
  ∃ a w', Exec D p w a w' ∧ Q a w'

theorem reaches_pure {a : α} {w : W} {Q : α → W → Prop} (h : Q a w) : Reaches D (.pure a) w Q :=
  ⟨a, w, exec_pure_iff.mpr ⟨rfl, rfl⟩, h⟩

theorem reaches_bind {p : Prog S α} {f : α → Prog S β} {w w' : W} {a : α} {Q : β → W → Prop}
    (he : Exec D p w a w') (h : Reaches D (f a) w' Q) : Reaches D (p >>= f) w Q := by
  obtain ⟨b, w'', hf, hQ⟩ := h
  exact ⟨b, w'', exec_bind_iff.mpr ⟨a, w', he, hf⟩, hQ⟩

theorem Reaches.mono {p : Prog S α} {w : W} {Q Q' : α → W → Prop} (h : Reaches D p w Q)
    (hQ : ∀ a w', Q a w' → Q' a w') : Reaches D p w Q' := by
  obtain ⟨a, w', he, hq⟩ := h
  exact ⟨a, w', he, hQ a w' hq⟩

/-! ## Programs that only perform certain operations -/

def Only (φ : S.Op → Prop) : Prog S α → Prop
  | .pure _ => True
  | .perform o k => φ o ∧ ∀ r, Only φ (k r)

@[simp] theorem only_pure {φ : S.Op → Prop} {a : α} : Only (S := S) φ (.pure a) := trivial

theorem only_call {φ : S.Op → Prop} {o : S.Op} (h : φ o) : Only φ (Prog.call (S := S) o) :=
  ⟨h, fun _ => trivial⟩

theorem only_bind {φ : S.Op → Prop} {p : Prog S α} {f : α → Prog S β} (hp : Only φ p)
    (hf : ∀ a, Only φ (f a)) : Only φ (p >>= f) := by
  induction p with
  | pure a => exact hf a
  | perform o k ih => exact ⟨hp.1, fun r => ih r (hp.2 r)⟩

theorem Only.mono {φ ψ : S.Op → Prop} {p : Prog S α} (h : Only φ p) (hφ : ∀ o, φ o → ψ o) :
    Only ψ p := by
  induction p with
  | pure a => trivial
  | perform o k ih => exact ⟨hφ o h.1, fun r => ih r (h.2 r)⟩

theorem Only.steps {φ : S.Op → Prop} {p q : Prog S α} {w w' : W} {tr : List (Occurrence S)}
    (h : Only φ p) (hs : Steps D p w tr q w') : ∀ x ∈ tr, φ x.1 := by
  induction hs with
  | refl => simp
  | head _ _ ih =>
    intro x hx
    rcases List.mem_cons.mp hx with rfl | hx
    · exact h.1
    · exact ih (h.2 _) x hx

/-- What each of its operations preserves, the program preserves. -/
theorem wp_only {φ : S.Op → Prop} {R : W → W → Prop} {p : Prog S α} {w : W} (hp : Only φ p)
    (hrefl : ∀ w, R w w) (htrans : ∀ {w w' w''}, R w w' → R w' w'' → R w w'')
    (h : ∀ o w r w', φ o → D o w r w' → G o w r w' ∧ R w w') :
    wp D G p w (fun _ w' => R w w') := by
  induction p generalizing w with
  | pure a => exact hrefl w
  | perform o k ih =>
    intro r w' hd
    have ho := h o w r w' hp.1 hd
    exact ⟨ho.1, wp_mono (ih r (hp.2 r)) (fun _ _ h' => htrans ho.2 h')⟩

/-! ## What a program returns, whatever it is told -/

def Returns (P : α → Prop) : Prog S α → Prop
  | .pure a => P a
  | .perform _ k => ∀ r, Returns P (k r)

@[simp] theorem returns_pure {P : α → Prop} {a : α} : Returns (S := S) P (.pure a) ↔ P a := Iff.rfl

theorem returns_bind {P : β → Prop} {p : Prog S α} {f : α → Prog S β} :
    Returns P (p >>= f) ↔ Returns (fun a => Returns P (f a)) p := by
  induction p with
  | pure a => exact Iff.rfl
  | perform o k ih =>
    constructor
    · intro h r
      exact (ih r).mp (h r)
    · intro h r
      exact (ih r).mpr (h r)

theorem Returns.mono {P Q : α → Prop} {p : Prog S α} (h : Returns P p) (hPQ : ∀ a, P a → Q a) :
    Returns Q p := by
  induction p with
  | pure a => exact hPQ a h
  | perform o k ih => exact fun r => ih r (h r)

theorem Returns.and {P Q : α → Prop} {p : Prog S α} (h : Returns P p) (h' : Returns Q p) :
    Returns (fun a => P a ∧ Q a) p := by
  induction p with
  | pure a => exact ⟨h, h'⟩
  | perform o k ih => exact fun r => ih r (h r) (h' r)

theorem returns_of_forall {P : α → Prop} (h : ∀ a, P a) (p : Prog S α) : Returns P p := by
  induction p with
  | pure a => exact h a
  | perform o k ih => exact fun r => ih r

/-- What a program always returns, it returns on every device. -/
theorem Returns.exec {P : α → Prop} {p : Prog S α} {w w' : W} {a : α} (h : Returns P p)
    (he : Exec D p w a w') : P a := by
  induction p generalizing w with
  | pure b =>
    obtain ⟨rfl, -⟩ := exec_pure_iff.mp he
    exact h
  | perform o k ih =>
    obtain ⟨r, w₁, -, hk⟩ := exec_perform_iff.mp he
    exact ih r (h r) hk

/-- What a program always returns may be added to what is known of its runs. -/
theorem wp_returns {P : α → Prop} {p : Prog S α} {w : W} {Q : α → W → Prop} (h : wp D G p w Q)
    (hp : Returns P p) : wp D G p w (fun a w' => Q a w' ∧ P a) := by
  induction p generalizing w with
  | pure a => exact ⟨h, hp⟩
  | perform o k ih => exact fun r w' hd => ⟨(h r w' hd).1, ih r (h r w' hd).2 (hp r)⟩

/-- What each operation of the device does to the world, a run of any program does. -/
theorem exec_rel {R : W → W → Prop} {p : Prog S α} {w w' : W} {a : α}
    (hrefl : ∀ w, R w w) (htrans : ∀ {w w' w''}, R w w' → R w' w'' → R w w'')
    (h : ∀ o w r w', D o w r w' → R w w') (he : Exec D p w a w') : R w w' := by
  induction p generalizing w with
  | pure b =>
    obtain ⟨-, rfl⟩ := exec_pure_iff.mp he
    exact hrefl w'
  | perform o k ih =>
    obtain ⟨r, w₁, hd, hk⟩ := exec_perform_iff.mp he
    exact htrans (h o w r w₁ hd) (ih r hk)

section Failure

variable {ε : Type u}

theorem only_except_bind {φ : S.Op → Prop} {p : ExceptT ε (Prog S) α}
    {f : α → ExceptT ε (Prog S) β} (hp : Only φ p.run) (hf : ∀ a, Only φ (f a).run) :
    Only φ (p >>= f).run := by
  rw [ExceptT.run_bind]
  refine only_bind hp ?_
  intro r
  cases r with
  | error e => trivial
  | ok a => exact hf a

theorem exec_except_bind {p : ExceptT ε (Prog S) α} {f : α → ExceptT ε (Prog S) β} {w w' w'' : W}
    {a : α} {r : Except ε β} (h : Exec D p.run w (.ok a) w') (h' : Exec D (f a).run w' r w'') :
    Exec D (p >>= f).run w r w'' := by
  rw [ExceptT.run_bind]
  exact exec_bind_iff.mpr ⟨.ok a, w', h, h'⟩

/-- A run of a sequence that may fail is a run of its first part, or follows one that succeeded. -/
theorem steps_except_bind {p : ExceptT ε (Prog S) α} {f : α → ExceptT ε (Prog S) β} {w w' : W}
    {tr : List (Occurrence S)} {q : Prog S (Except ε β)} (h : Steps D (p >>= f).run w tr q w') :
    (∃ p', Steps D p.run w tr p' w') ∨
      ∃ a w₁ tr₁ tr₂, tr = tr₁ ++ tr₂ ∧ Steps D p.run w tr₁ (.pure (.ok a)) w₁ ∧
        Steps D (f a).run w₁ tr₂ q w' := by
  rw [ExceptT.run_bind, steps_bind_iff] at h
  rcases h with ⟨p', -, h⟩ | ⟨r, w₁, tr₁, tr₂, rfl, h, h'⟩
  · exact .inl ⟨p', h⟩
  · cases r with
    | error e =>
      obtain ⟨rfl, -, rfl⟩ := steps_pure_iff.mp h'
      rw [List.append_nil]
      exact .inl ⟨_, h⟩
    | ok a => exact .inr ⟨a, w₁, tr₁, tr₂, rfl, h, h'⟩

/-- A lifted program that has returned has run to its end. -/
theorem steps_lift {p : Prog S α} {w w' : W} {tr : List (Occurrence S)} {a : α}
    (h : Steps D (ExceptT.lift p : ExceptT ε (Prog S) α).run w tr (.pure (.ok a)) w') :
    Steps D p w tr (.pure a) w' := by
  rw [ExceptT.run_lift, map_eq_pure_bind, steps_bind_iff] at h
  rcases h with ⟨p', hq, h⟩ | ⟨b, w₁, tr₁, tr₂, rfl, h, h'⟩
  · cases p' with
    | pure b =>
      cases hq
      exact h
    | perform o k => cases hq
  · obtain ⟨rfl, hq, rfl⟩ := steps_pure_iff.mp h'
    cases hq
    rw [List.append_nil]
    exact h

theorem exec_lift {p : Prog S α} {w w' : W} {a : α} (h : Exec D p w a w') :
    Exec D (ExceptT.lift p : ExceptT ε (Prog S) α).run w (.ok a) w' := by
  rw [ExceptT.run_lift, map_eq_pure_bind]
  exact exec_bind_iff.mpr ⟨a, w', h, exec_pure_iff.mpr ⟨rfl, rfl⟩⟩

theorem exec_lift_iff {p : Prog S α} {w w' : W} {r : Except ε α} :
    Exec D (ExceptT.lift p : ExceptT ε (Prog S) α).run w r w' ↔
      ∃ a, r = .ok a ∧ Exec D p w a w' := by
  constructor
  · intro h
    rw [ExceptT.run_lift, map_eq_pure_bind] at h
    obtain ⟨a, w₁, hp, hk⟩ := exec_bind_iff.mp h
    obtain ⟨rfl, rfl⟩ := exec_pure_iff.mp hk
    exact ⟨a, rfl, hp⟩
  · rintro ⟨a, rfl, h⟩
    exact exec_lift h

/-- A sequence of programs that may fail: the first has failed, or both have run. -/
theorem exec_except_bind_iff {p : ExceptT ε (Prog S) α} {f : α → ExceptT ε (Prog S) β} {w w'' : W}
    {r : Except ε β} : Exec D (p >>= f).run w r w'' ↔
      (∃ e, r = .error e ∧ Exec D p.run w (.error e) w'') ∨
      ∃ a w', Exec D p.run w (.ok a) w' ∧ Exec D (f a).run w' r w'' := by
  rw [ExceptT.run_bind, exec_bind_iff]
  constructor
  · rintro ⟨result, w', hp, h⟩
    cases result with
    | error e =>
      obtain ⟨rfl, rfl⟩ := exec_pure_iff.mp h
      exact .inl ⟨e, rfl, hp⟩
    | ok a => exact .inr ⟨a, w', hp, h⟩
  · rintro (⟨e, rfl, hp⟩ | ⟨a, w', hp, h⟩)
    · exact ⟨.error e, w'', hp, exec_pure_iff.mpr ⟨rfl, rfl⟩⟩
    · exact ⟨.ok a, w', hp, h⟩

theorem only_lift {φ : S.Op → Prop} {p : Prog S α} (hp : Only φ p) :
    Only φ (ExceptT.lift p : ExceptT ε (Prog S) α).run :=
  only_bind hp (fun _ => trivial)

theorem wp_except_lift {p : Prog S α} {w : W} {Q : Except ε α → W → Prop} :
    wp D G (ExceptT.lift p : ExceptT ε (Prog S) α).run w Q ↔
      wp D G p w (fun a w' => Q (.ok a) w') := by
  rw [ExceptT.run_lift, map_eq_pure_bind, wp_bind]
  rfl

/-- A program that may fail stops at its first failure. -/
theorem wp_except_bind {p : ExceptT ε (Prog S) α} {f : α → ExceptT ε (Prog S) β} {w : W}
    {Q : Except ε β → W → Prop} :
    wp D G (p >>= f).run w Q ↔ wp D G p.run w (fun r w' =>
      match r with
      | .ok a => wp D G (f a).run w' Q
      | .error e => Q (.error e) w') := by
  rw [ExceptT.run_bind, wp_bind]
  constructor <;> intro h <;> refine wp_mono h ?_
  all_goals
    intro r w' hr
    cases r <;> exact hr

end Failure

section State

variable {σ : Type u}

theorem only_state_bind {φ : S.Op → Prop} {p : StateT σ (Prog S) α}
    {f : α → StateT σ (Prog S) β} (hp : ∀ s, Only φ (p.run s)) (hf : ∀ a s, Only φ ((f a).run s))
    (s : σ) : Only φ ((p >>= f).run s) := by
  rw [StateT.run_bind]
  exact only_bind (hp s) (fun r => hf r.1 r.2)

theorem only_get {φ : S.Op → Prop} (s : σ) :
    Only φ ((get : StateT σ (Prog S) σ).run s) := trivial

theorem only_modify {φ : S.Op → Prop} {f : σ → σ} (s : σ) :
    Only φ ((modify f : StateT σ (Prog S) PUnit).run s) := trivial

theorem only_state_pure {φ : S.Op → Prop} {a : α} (s : σ) :
    Only φ ((pure a : StateT σ (Prog S) α).run s) := trivial

theorem only_state_lift {φ : S.Op → Prop} {p : Prog S α} (hp : Only φ p) (s : σ) :
    Only φ ((StateT.lift p : StateT σ (Prog S) α).run s) :=
  only_bind hp (fun _ => trivial)

theorem returns_state_bind {P : β × σ → Prop} {p : StateT σ (Prog S) α}
    {f : α → StateT σ (Prog S) β} {s : σ} :
    Returns P ((p >>= f).run s) ↔ Returns (fun r => Returns P ((f r.1).run r.2)) (p.run s) := by
  rw [StateT.run_bind, returns_bind]

@[simp] theorem returns_get {P : σ × σ → Prop} {s : σ} :
    Returns P ((get : StateT σ (Prog S) σ).run s) ↔ P (s, s) := Iff.rfl

@[simp] theorem returns_modify {f : σ → σ} {P : PUnit × σ → Prop} {s : σ} :
    Returns P ((modify f : StateT σ (Prog S) PUnit).run s) ↔ P (⟨⟩, f s) := Iff.rfl

@[simp] theorem returns_state_pure {P : α × σ → Prop} {a : α} {s : σ} :
    Returns P ((pure a : StateT σ (Prog S) α).run s) ↔ P (a, s) := Iff.rfl

theorem returns_state_lift {P : α × σ → Prop} {p : Prog S α} {s : σ} :
    Returns P ((StateT.lift p : StateT σ (Prog S) α).run s) ↔
      Returns (fun a => P (a, s)) p := by
  rw [StateT.run_lift, returns_bind]
  exact Iff.rfl

/-- A method every result of which meets `P`. -/
def Yields (P : α → Prop) (m : StateT σ (Prog S) α) : Prop :=
  ∀ s, Returns (fun r => P r.1) (m.run s)

theorem yields_pure {P : α → Prop} {a : α} (h : P a) : Yields P (pure a : StateT σ (Prog S) α) :=
  fun _ => h

theorem yields_bind {P : β → Prop} {p : StateT σ (Prog S) α} {f : α → StateT σ (Prog S) β}
    (hf : ∀ a, Yields P (f a)) : Yields P (p >>= f) := by
  intro s
  rw [returns_state_bind]
  exact returns_of_forall (fun r => hf r.1 r.2) (p.run s)

theorem Yields.mono {P Q : α → Prop} {m : StateT σ (Prog S) α} (h : Yields P m)
    (hPQ : ∀ a, P a → Q a) : Yields Q m :=
  fun s => (h s).mono (fun r hr => hPQ r.1 hr)

/-- A method that relates the state it is given to every state it may leave. -/
def Keeps (R : σ → σ → Prop) (m : StateT σ (Prog S) α) : Prop :=
  ∀ s, Returns (fun r => R s r.2) (m.run s)

theorem keeps_bind {R : σ → σ → Prop} {p : StateT σ (Prog S) α} {f : α → StateT σ (Prog S) β}
    (htrans : ∀ {s s' s''}, R s s' → R s' s'' → R s s'') (hp : Keeps R p)
    (hf : ∀ a, Keeps R (f a)) : Keeps R (p >>= f) := by
  intro s
  rw [returns_state_bind]
  apply (hp s).mono
  intro r hr
  apply (hf r.1 r.2).mono
  intro r' hr'
  exact htrans hr hr'

theorem keeps_get {R : σ → σ → Prop} (hrefl : ∀ s, R s s) :
    Keeps R (get : StateT σ (Prog S) σ) := hrefl

theorem keeps_pure {R : σ → σ → Prop} (hrefl : ∀ s, R s s) (a : α) :
    Keeps R (pure a : StateT σ (Prog S) α) := hrefl

theorem keeps_modify {R : σ → σ → Prop} {f : σ → σ} (h : ∀ s, R s (f s)) :
    Keeps R (modify f : StateT σ (Prog S) PUnit) := h

theorem keeps_lift {R : σ → σ → Prop} (hrefl : ∀ s, R s s) (p : Prog S α) :
    Keeps R (StateT.lift p : StateT σ (Prog S) α) := by
  intro s
  rw [returns_state_lift]
  exact returns_of_forall (fun _ => hrefl s) p

theorem Keeps.mono {R R' : σ → σ → Prop} {m : StateT σ (Prog S) α} (h : Keeps R m)
    (hR : ∀ s s', R s s' → R' s s') : Keeps R' m :=
  fun s => (h s).mono (fun r hr => hR s r.2 hr)

theorem Keeps.exec {R : σ → σ → Prop} {m : StateT σ (Prog S) α} {s s' : σ} {a : α} {w w' : W}
    (h : Keeps R m) (he : Exec D (m.run s) w (a, s') w') : R s s' :=
  (h s).exec he

theorem wp_state_bind {p : StateT σ (Prog S) α} {f : α → StateT σ (Prog S) β} {s : σ} {w : W}
    {Q : β × σ → W → Prop} :
    wp D G ((p >>= f).run s) w Q ↔
      wp D G (p.run s) w (fun r w' => wp D G ((f r.1).run r.2) w' Q) := by
  rw [StateT.run_bind, wp_bind]

/-- What is known of a sequence is known of the rest of it, after a run of its first part. -/
theorem wp_state_after {p : StateT σ (Prog S) α} {f : α → StateT σ (Prog S) β} {s s' : σ}
    {w w' : W} {a : α} {Q : β × σ → W → Prop} (h : wp D G ((p >>= f).run s) w Q)
    (he : Exec D (p.run s) w (a, s') w') : wp D G ((f a).run s') w' Q := by
  have hb := wp_state_bind.mp h
  have hr := wp_exec hb he
  exact hr

@[simp] theorem wp_get {s : σ} {w : W} {Q : σ × σ → W → Prop} :
    wp D G ((get : StateT σ (Prog S) σ).run s) w Q ↔ Q (s, s) w := Iff.rfl

@[simp] theorem wp_modify {f : σ → σ} {s : σ} {w : W} {Q : PUnit × σ → W → Prop} :
    wp D G ((modify f : StateT σ (Prog S) PUnit).run s) w Q ↔ Q (⟨⟩, f s) w := Iff.rfl

@[simp] theorem wp_state_pure {a : α} {s : σ} {w : W} {Q : α × σ → W → Prop} :
    wp D G ((pure a : StateT σ (Prog S) α).run s) w Q ↔ Q (a, s) w := Iff.rfl

theorem wp_state_lift {p : Prog S α} {s : σ} {w : W} {Q : α × σ → W → Prop} :
    wp D G ((StateT.lift p : StateT σ (Prog S) α).run s) w Q ↔
      wp D G p w (fun a w' => Q (a, s) w') := by
  rw [StateT.run_lift, wp_bind]
  rfl

theorem exec_state_bind {p : StateT σ (Prog S) α} {f : α → StateT σ (Prog S) β} {s : σ}
    {w w'' : W} {b : β × σ} :
    Exec D ((p >>= f).run s) w b w'' ↔
      ∃ a s' w', Exec D (p.run s) w (a, s') w' ∧ Exec D ((f a).run s') w' b w'' := by
  rw [StateT.run_bind, exec_bind_iff]
  constructor
  · rintro ⟨⟨a, s'⟩, w', h, h'⟩
    exact ⟨a, s', w', h, h'⟩
  · rintro ⟨a, s', w', h, h'⟩
    exact ⟨(a, s'), w', h, h'⟩

theorem exec_get_bind {f : σ → StateT σ (Prog S) β} {s : σ} {w w' : W} {x : β × σ} :
    Exec D ((get >>= f).run s) w x w' ↔ Exec D ((f s).run s) w x w' := Iff.rfl

theorem exec_modify_bind {f : σ → σ} {g : PUnit → StateT σ (Prog S) β} {s : σ} {w w' : W}
    {x : β × σ} :
    Exec D ((modify f >>= g).run s) w x w' ↔ Exec D ((g ⟨⟩).run (f s)) w x w' := Iff.rfl

theorem reaches_state_bind {p : StateT σ (Prog S) α} {f : α → StateT σ (Prog S) β} {s s' : σ}
    {w w' : W} {a : α} {Q : β × σ → W → Prop} (he : Exec D (p.run s) w (a, s') w')
    (h : Reaches D ((f a).run s') w' Q) : Reaches D ((p >>= f).run s) w Q := by
  rw [StateT.run_bind]
  exact reaches_bind he h

theorem exec_get {s : σ} {w : W} : Exec D ((get : StateT σ (Prog S) σ).run s) w (s, s) w :=
  ⟨[], .refl _ _⟩

theorem exec_modify {f : σ → σ} {s : σ} {w : W} :
    Exec D ((modify f : StateT σ (Prog S) PUnit).run s) w (⟨⟩, f s) w :=
  ⟨[], .refl _ _⟩

theorem exec_state_pure {a : α} {s : σ} {w : W} :
    Exec D ((pure a : StateT σ (Prog S) α).run s) w (a, s) w :=
  ⟨[], .refl _ _⟩

theorem exec_state_lift {p : Prog S α} {s : σ} {w w' : W} {a : α} (h : Exec D p w a w') :
    Exec D ((StateT.lift p : StateT σ (Prog S) α).run s) w (a, s) w' := by
  rw [StateT.run_lift]
  exact exec_bind_iff.mpr ⟨a, w', h, exec_pure_iff.mpr ⟨rfl, rfl⟩⟩

theorem exec_state_lift_iff {p : Prog S α} {s : σ} {w w' : W} {x : α × σ} :
    Exec D ((StateT.lift p : StateT σ (Prog S) α).run s) w x w' ↔
      Exec D p w x.1 w' ∧ x.2 = s := by
  constructor
  · intro h
    rw [StateT.run_lift] at h
    obtain ⟨a, w₁, hp, hk⟩ := exec_bind_iff.mp h
    obtain ⟨rfl, rfl⟩ := exec_pure_iff.mp hk
    exact ⟨hp, rfl⟩
  · rintro ⟨h, rfl⟩
    exact exec_state_lift h

end State

end Effects
